import SessionGateway.Text.Charset.CodeTable

/-! The Chinese encoding of Taiwan, with the additions of Hong Kong. -/

namespace SessionGateway.Text.Big5

/-- Characters of the pairs, in rows of a hundred and fifty-seven. -/
def pairs : CodeTable := .ofText
  "AAAAAAAAAAAAAAAAAAAAAAAAAAAAAAAAAAAAAAAAAAAAAAAAAAAAAAAAAAAAAAAAAAAAAAAAAAAAAAAAAAAAAAAAAAAAAAA
   AAAAAAAAAAAAAAAAAAAAAAAAAAAAAAAAAAAAAAAAAAAAAAAAAAAAAAAAAAAAAAAAAAAAAAAAAAAAAAAAAAAAAAAAAAAAAAA
   AAAAAAAAAAAAAAAAAAAAAAAAAAAAAAAAAAAAAAAAAAAAAAAAAAAAAAAAAAAAAAAAAAAAAAAAAAAAAAAAAAAAAAAAAAAAAAA
   AAAAAAAAAAAAAAAAAAAAAAAAAAAAAAAAAAAAAAAAAAAAAAAAAAAAAAAAAAAAAAAAAAAAAAAAAAAAAAAAAAAAAAAAAAAAAAA
   AAAAAAAAAAAAAAAAAAAAAAAAAAAAAAAAAAAAAAAAAAAAAAAAAAAAAAAAAAAAAAAAAAAAAAAAAAAAAAAAAAAAAAAAAAAAAAA
   AAAAAAAAAAAAAAAAAAAAAAAAAAAAAAAAAAAAAAAAAAAAAAAAAAAAAAAAAAAAAAAAAAAAAAAAAAAAAAAAAAAAAAAAAAAAAAA
   AAAAAAAAAAAAAAAAAAAAAAAAAAAAAAAAAAAAAAAAAAAAAAAAAAAAAAAAAAAAAAAAAAAAAAAAAAAAAAAAAAAAAAAAAAAAAAA
   AAAAAAAAAAAAAAAAAAAAAAAAAAAAAAAAAAAAAAAAAAAAAAAAAAAAAAAAAAAAAAAAAAAAAAAAAAAAAAAAAAAAAAAAAAAAAAA
   AAAAAAAAAAAAAAAAAAAAAAAAAAAAAAAAAAAAAAAAAAAAAAAAAAAAAAAAAAAAAAAAAAAAAAAAAAAAAAAAAAAAAAAAAAAAAAA
   AAAAAAAAAAAAAAAAAAAAAAAAAAAAAAAAAAAAAAAAAAAAAAAAAAAAAAAAAAAAAAAAAAAAAAAAAAAAAAAAAAAAAAAh/hBjkEg
   jD8F+C9u2IivyIq8D7v7Ig93Il+3IizgJh6FblwCQ9n7HyqG1zewsCtkB4nyIzvrJmguJsX1qDt+3Is23IomBogCjoyI+v8
   H9i0Hk/fl6R1VqxsHm1HAzpTynS3p5Is8mJ/zsB1ryHqhwIl4gH2rhHgoS1o0Jg+hJrOpUjnFpiPj7pIquyI3Dyie7tyH10
   Ml4UszwIj/sI0+uItggB1pSz8wG36jBoyrBi2Tn9Tq13Hz3gBjxNw2FgwlBlue83WnrfmzCykMjGm9Jx8BnnPklKx3DokKz
   qJ89Tt/ei2tB7tfp/0Hov0HhwVqhkBqoH5xF4xJ516HunvHzlRlvgIu93HkuiBz9zIww2IvhuI4+wH7w0GqviGxviGPFowi
   GssNtr4Gww6HrxvB0utB7x0J+zlJ56G51XAAAAAAAAAAAAAAAAAAAAAAAAAAAAAAA4g3BBBBBv0nHw0nH3wnHKwwnHBnwnH
   5xPii3HjwnHkwnHBBBj0nHk0nHB+sYgE3Q8QjF0EhFmFnI0H7PgQA3+OADu/OtDiC5O+OhX+T2CjDoDlE+DlOqOhG2F9NiO
   xHkHzN4N5NDDDiOAl8OADw9OtXx3QBAAAAAAAAAAAAAAAAAAAAAAAAAAAAAAAAAAAAAAAAAAAAAAAAAAAAAAAAAAAAAAAAA
   AAAAAAAAAAAAAAAAAAA78/JqmpCA4j2GAA8sL/pQhnXg3FAAr1yHqqpIw3Kb/H7a7BvCvE5LNlJlBlINzwB7gBnBF1CDjjB
   vDB1P3epb70CpnBLhGxuC72BxnC92EPbZPftChDl0BpF/JtlDvfnCn4BBN81N1uEhNwoKl4ImqUAAAAp2fqtMrqMmqIA9kG
   shGhvkGAAy0kGviP2/oB3voBlE+8oBv7oJy+WqgpHxyhIm31JAxtcn6JsyGAygW11oBlCzwCmhTpulImqzB2/LrxSmsuH5F
   ENvD3C3E4uNh3Ns3I17IpI4gOrBjBhuO93D2yDhCR63B/+BtBtJi2Oj+OylP9lP8lP9mPhGurPJ9QjhPfhBJtB9BxCVJi5P
   t6P25PzBvhQmhQ97jJgm0IA5x7GlNrhiB459HrzrH2t5Hp1kH4v6Fj3/G5yjBmpqJ1mgJq0kI7r6Gqg5Hh6Gv48I42LygO8
   w0H9p0GvjBguB9hCwm2Gh/UvhgG4oBx1Bp0O56qBo4eA84btwmCq2Msv8IlrjIs+QihpG4kwB54tJwgrJwuFh8uI5wiB6wP
   q4lBu9nG01CA6jqB3suIk/9Hk9HxmsHmYo1N6nrHnnrH1mrB3DzoJurqIv21HghiB49+FxzpG160B4hiCAuy/G758Gg7gHx
   nMzxqHA1jM6sgB15tB40oBub8h8G+rK9vBAzvDj7vH08MovnG10Ltq6Foi1G43Ut32Hs7sGgyb19G0jTA77zJy/rCrsOzfA
   kgOzvUijgInHppkJoymJht0Im4esnlH9t8Gh4O7m1BqmxJh4b7/wHAAxzT0ujBooGlliC+4Mol/BukBv+tB0o0H3zoGnzLr
   T+z5Hv+tIw1hBhQoOwxnH55nH0evgCowBA9FmwB9Zv3B5Hq0oH5pzHqmhH131GtkSpkhB4mlBilPBjtPH8j5H/nqH9iB0Zn
   wrCmudj4QtMgNiy7H+tgBv/W4wWAzwkJ8phIiXvquHi3kB+q+G5iIkIitSr1kI+jyH85kBv8N712Iww3Hn0+F4OvGnI+xsH
   7gsIm+rI5srHwi7GrwoH6uL0rBvG/f/M9r4Bm72B69Ct9f6qQi1pHx86GBtNB218Gpn7Glo0BxjGyx5B2TlwhB4ntIlrsHz
   cv1gBp+nBousBi6Y5zUpwgBo+0IkjD+kOlywI44tH2kQy2J3yB1/pBi0qBvjpBmJt+/GwjVm0tH0gQtpQkmEztF9rhHtruD
   wywJpz0F4i5G/F83MpuT7yBlH2sTj1UxuBpkD1LJjjC9bggShoS3jrHw5kHwhD77BzlBtxxH062IAzo3I00xH7Hj5yH9zBq
   /qItwa5Vhv3Hmx2H5Xv2DlPNxGti8H0i7H9IxFfpI5q/Hq59HlapKs1Zv5mCit1C/k5G2m1Fu+Z1mZAwmiBl8Opn3I8s+H8
   9wBrslB9r8GwtoHm4Js9I5qjIqnuIt9zI+g+H/w0I4o9H9kBsmQynFhqGts/Gro3B6nyJpvuHinnHn9WmuCqlRh26IuwjJz
   lVtl8IwpwJ3+hB/liGskoG5xvI8lHs55HywT0yOz1mH2omG4xOzwpI6j1H28T2zU5U3M8oBvOhpoBq3lBt1U0vS7DruiHqy
   /GNxS/0jHw4gH7mnHiulHzS/hpHq2nHAhwCpwpH03oHkravzlI+v3Hn6MzsLhyoHghDmguHxVtNxa3oC9pBjhN0xLzxLkvI
   jvI69HinFhoKg8D14G5g3H238B+8pHhjBv3LAAA7kf8vYsvStsKAxpXp6hH6rjH7k3H6oyIlvwI0/nIz5mIxqCkhoHByhiB
   xhiByscn3LqgIl3Fmke1zDl52HisF6/xH3ZA95LpkvHki4GkoXu2P9j8H09rHzjhB4lXggWn59H0sR66oHgwJ+yCz1mH5p1
   Bs3wHyxdpo5G2n0G56TzuLnqgIg88Inm2GAjiL36zB4mkJx7C77kJm3oJ3qwBjghI8rwJmyEhyH90yI2s1IrziJorJmp3I0
   pGr8tI0znIuE7mE+Q1P64DmiDt0lI+qqI5nHkCitBh1NTb21P8+Cp5SpB05SvBzgT1HvG7F4nTX1Cbz4TrGylC61R7iUDrB
   whUnnUnGpFlDiyUxrO+qO99UxBXlFghVpnV46DqvD73kBywyB9uV0sVj0VnFk2V/5Vi3Vn/Vq9VjmW3FyqWjvWzDmxWET74
   WzDxxEyvE1D2B08WzhX0/WvoXdIhBupX5qXwqXxrXT9BjC1I/DxC1IpDg+XtjYH/B1FmpYprYZnGFhB5FzztIswtItCSpqY
   wpYB1Df++Y1/gIi8nH5DqlZVjka+xKgxPjqZ4pZ9rZH1BfT3ppGq2/Gi9GtusH9/X0xzHpxrIs5+HjqzHm5wIn1ZtkxIsn4
   IptPvpvHv/dqntIvB9yvHkvvHYjBBmvE3r5HosxI/wcFZ4vclsJ90jIuvwHzE6Cp+rH/+E61wHoD5iEvhsH1sIgr4HhlEgp
   ErCv2wHo3vIvrvIo9rHypEX9C3owH8nwH9D9/lH69lH0iL1vvHgrkHG9BmH9HDwCxZ20cty0Iwu4Hx34H0k9H3vEjCunG7n
   G9BpohHj9PskxHktgBjugBngtGqhtGv4iIi1iInwxHxD6uxHnCw2dh0oBskLxRBLkhDz50HgvkH2kNz7xH+6xH7rrG0/K6w
   9Gzg5Hom5Htj/Ii0hI9oyHqoyHFpBVNvlwIq8Zyo2HBpClrzG44uH5puIokUpwUo8/Hj4Mh6kIk0kIlB2mUrknHwn9Gxh8H
   iuKkt1Hl63GmnpGrkrG4g3GjhwH/C4hjI96enukGp0vBqtWs42HnwiH4hoGiYv6zHo2QwnK87OpoT+09Gg5MxnoK077K/2h
   B4nBzE3vlG75EovwH3r9H59Bgu5GtGrDl39GvxX+pBjJ08agh8H71iBkzWx5W2nfzp0I0/0HpBjBs1nBrl9I8niIlwNqsoB
   368Io1fwp1G34rHo3rH+pjBhxDl8Sl6M1m8G81hH/0F7uzHhuBqDs20HgN+Hkvfl/fhF56rHkltI/ntI83rIh/fmkVt6pIm
   30I3kgB8lgBxqRtlP9ggIrB2ngIts1Huo1H/3nG10tBpukCyk6K7rgBi+nBzlxH4qiHl6vI6x2HlPt4sI2wsIxjyGunyGxC
   pD+6Y1gYuhPwkRrjhBBz52Hwic1icu42H7DkkhBxlhBBqvSnwS+0Iv5/Hy42HF3BFGpBxmgI+jgI5z3HxZki4H0wJ1mN+2D
   x83Hi3/HhlgI46d6n8Hpi6I67kI/4MlBhxkHpTuilHZBqKh9/G2u/GV6O/imG2soHzjhB3kCxr4H1Dpk+BgrhL7ijJ8n4Hj
   s4HpC4q4HgB5gmGsjmGgoOprOv7/G0/mItqnBjDxl5H++3Br3c+gnI/jjJirIsi7Hr8JRZhhC47BnBvj6H5K8m6H71B35nI
   glsC8p9F0ojBnrgJkqCm4jBosvHz2pH0mxG1hoIy1M4b69wBs60Ht16IiqvHpw6H+nF8l1H1w6H9Jo26H1m7Hgl7Hji7Hyj
   7H9EzGwnrBxrrB1ByxKtomI2q1B4nmGg3Sj6ShCt1hHiwhH5g8H4inBhnnBkza2qkBsg9F9Dr37HzQ61tI68K9h4IFi4gJ9
   tkBv68H5E2D6o8HvOg6CxsDhCiYzX26S8zWh8xH7lwB6l6Bj7Vgl6H5jR9lV1B2yqBtzqBjjsH4vmI3tak8O1+oIoi6Hkvh
   B4iFtxxIqk1B35wB9pWrDqhjB67Yp/M09tGgvInvIwymBmtCvEn2iIqntHqzKz9dhExn9H+n9H8gehq7I6o9H2zBs1hBt+v
   HJozsGrBjBZDjBb3o+G+n+Gm9RthwIqj+HWvi+HoqN0q3Il2mBEvB1By1uBtm7Iqi6I9tkH3ydz6K6j/GoBhBEy8mBvixIq
   lrBoygHhzhBJLq3Ch8C/u4Gwr/HpumJ7Kix/HtB9C4CvE5s+GkmwI5+sJnyFsvgIDligIkhgIuunBrwnBxBlt1H686I/vlB
   nnnHsu4Iz77H8yqGiB7/gI0vhJ7h/Gst+F5rzG0kzGIZ3lhIqpgIl+gI1dxB2MjE3LkmiIJh7hIuyhIu4a3zat5hGvjgC5I
   sukCvvkC2viI/3hI1fqiiIJRH+2oBr3oBJpryGoqyGk2xB4XvzBphJq3L5mqJ0y2HLm3pB7okB73sH4onHElC2pkBsB1rkB
   84Clt7H0p8Ho3JluNN8oSjrSy3WylTt7+HrEqksHhosHirDxwDorrH3jsIiu5B41vG99nIvrC8s9HzIhl7Hy17HpJzEh66H
   oriBmqpH6yZtochtBo3El6pH4H2npHhnzG60zG1h0G1tOmt7H77sHz6dwjeutwHx9vH7Ty1wHlpwH5VznjByi0I55vHs2/G
   zs5HwibuV7R/Oo7nGl64Go64G+K9ziHh9TqzZ1yLkmLt1Y+11Iz/4H9qxBwnV8yjIusYjuCjdpoNrrgHmx4G07Tvu7Hj6Eu
   FnIjxVu1rIldlhoIgioI508GwjCpmBwk9F507Hw37HqqiBljBmxM5hmI236Hx66GuOqj6G9DtsjI0+9Hl0zG/hBmjlHh3kH
   zQg+nHnvNt55Gl/lC+jmC457Fjz7Fq35GpjB/D4WgK1w9Hq4Fy03H3O7DpBsLxBlHnK5FDDBvxO9xjHnqErI80oHjx1GpgT
   ku2H1B5h6GowgHr8/GkBEwx7Fjy+H+4hCsr6G1E986Gm56G5ogBqvmBjxV//oH62b34eyscoxzG3kyGq6sG45a17asIjE+L
   2gU7y/HgjF8r2H6kP1oezrnHsx1Hh52Gyn3Gxv7G0q6G/zdtpC+4B04diFek0Q5oR7c563I605BpHgGqu+GqHttckhchF8L
   nz/Ho1fmZnjVi6lI/gb7zDmiNjmiImgiIr14Iq8jCoj4Fq1PtnvG+/wGo5TrplBl/6H+j7H8huB7nS/H/buB709G2Bj3Qki
   uH+3Bn7+GBogxH95wHo8wHhiwH4iwHtllB5xkI8o2BvrLrzqB6p1IDxh9G6Xi0+G/s+Gw/9G/sVx+3H852Hm+Tj+jHsjBil
   jHoyQtvzHdzs1BsxQo7mI7nvGPp9SmoiHEoSrimH3G58MxnlB6t2In/wH4vNk04Hxv4H7yEzpyBmn1Bk0lHnygJs6/IsY/J
   jhzH6nOoslH5/kHumkH/StgC+3Wzp6H9hB3tL+tL+5uHl9uHwgNr29Bk32I17lHuNot7H/qDn/pI75ao5aopf9lfuTwztHp
   h8G0tMzgNi9+H16+H8It0I4juHrpjI0rjIytN5pN/jpIsotBy47G9mmHdosmHnl5Hk6vIx2/H+Hoi+Hxg+Hq6B+y/G2zcx/
   V1pvHq3uHyJ2lWzvX4lZj3/HjrGqltH9BtH3D5g3Gkg6Gt4BnbsnXlqX5NxmqHuyB2v0G+Kvv8HgSmk8Hp52H77Es36HmsT
   rWhutHsouHvhpHi/gIpnYvjpHggzH58Jo8K5tK7xFwwD99oHqKs4oH9VtDZ1vqH2G666H1y8H0riBk3oG7nlH0pE1+JoTzs
   L4twIsF7imIn0gB+umB+ovHq7Qx9aiJ10Pi1Py5X100I0p0IjjYiibr3mI5C+6mI5/a7Rl13I8q1J90cnmrIkygB8BopnIj
   tBhomIg1lIrslImN0v7Gysd/geh67Hgo5Bs4jHj0gI2DgntHzr9Gqy9GB3G3xnHuxHoy+HjpnIyrqHlG69a1/lIZgglI78k
   IvxLwqnHznhHo2uH9GMzEmwCx4Cv++H+lQs9qI5oc1vFkvFy3H5sqHisiHuEuocv3qHq7qHlwoBqkM11pG/jeovjBhyd6kT
   w9wHn9P4/PzTzylHxjF4yoG0oQ3pmHz7ZoBgpgI7k0G42kGusP35gIyswHswcnmdf6ldj6sIxwBuB09wH3ymH0kZmytGmBj
   D6/IzyJ1CqD1XlxxHsQ3+Mk7+H1uwHyhuI1w0IgmxBi0wGvnsGh4a4gvH7kmI2BupNs4kHurCpwmG5rpBzlBwjxHjwxHyii
   Hk6J7hKwkYlilH8l9HphoIr7N+4lHh4lHiywHtq2HulCw+zI5keszenselExDjnzHkvnH93oHi+zHF3+zH+/yHn10Hw5zH1
   g2Hs5rIwwMhsrHsx+Gr3+G87+Gn/+GyjpG3x5J8i+Cm26Gp/1HiitI3mX0ycj0cvDtC9HyBrzmHgzmHhj3HEhnK6B8Doa60
   lJr/iB+6euC8tH1kpBkC3ilI4v6I7tZxl4GiruHp1FsGh4zGyt9F+sIzElv4HmkyIxiPo9OmoL2pGr1rB5Hj2+G0t+GzBul
   mBn2Ul2Br25GuotH7tT+O900Gk/9FqzyBznpIqn8GqCuyd4mGprkBxkBtk7H0+kJzplJst7Hr/7H7Bu1jIr0C72FbiBE757
   HgvsIo4a5jlIlUylDowiI7z5Hu5tGvl8HkIE05nJhylI1I2oF69lHxFg3apksB928H0m0I2iPrnjJqrcmogHs/Bhi7H5pBw
   Pk3TqwoH06bvlY8ihB5rVjinHio1G2Ctc7+6Fs24Gng3IoxgBop5G1r+Hq+gIhuhIm/hIsymB/ojJ0ugB5vgByo5Hx24Hs0
   lJzypBswkB9udtyKjBx7wH0w+I75tB6inB1jnBjLxw4H8pZ0j3Hj5Xoyfhzfjs/Hk2mJv7mJ64/HggnBuCr+jB4wd/o9Giu
   9Gr54HitaqquG1t3GxpLovqHy0V1trBkztBxiUhjjHzeqmkHv0dHvCuEsCkJ/E7lhI+ohIrljIwP89hIonoBrl6H6uxGy2o
   B3loBvqiIwMLq8D249HyuMp10H5c8lCu4yH0sgBhn0I/NqJi90H7cjh0H0ib5oUmozHz79GnKox2HhrgI6nmIxnrB8RzIt3
   3FuglG77Mrd0miBq6NniuBxviHiyuHtBjG4G3wvGjnNv3LwqpIvtMvmQEpEC2gOh62H2/0HvT0W34iBg0iB51Msoe5vmIk8
   nHpl9H0qOgn6H5o+Gnp5B8z0I+jDoMg1L38gI61mI9kKho/Ikk7HI7xiG07E4qlG7k0H8qsBtuXqtL15L8i1HliyHz4U050
   Hl7xHwL4uL+C9mgBsx7HowP0va18a9qrIqs5B+7sHj9lI49vH1xEPsyav2lIrF4rZ5oZgsjB5nIh8a85qH7sqHknsHhtsHm
   v7G+pPx3P954F884F557HyLip7Hhm8HmhbiqmI50gJwxsIv9rHqke4l7Gr33Gh9C5Mu77GjsSrjvG6/sGnssG74Z+/YqypH
   ltnBwvuBr7pJoxgB8/3H9w/G6DhguBo+sIg8RxnjI4qjI96tBu+bvg4Igi5B+uiGwqrBt+mH+hgH6wIz2L44J8B/krHwixG
   2nX5x/I0gqIptxI0/lJ3mUvvoIy+mIy7B09XtxhIic4ioHzQ85YrojHqqnGspfqfv7Iu6Dt5El1IzqcizkBlgjB1t+H6lQ+
   6pI2EmvQ33uHq1xGnmpH9wD+oNozO5wIqw9G7Khj1G50Q9wjBsxiBn6pB8qpB69BpqMsoxHlpmHzgb0n0Hg2fkBvl0I1CgN
   31BwsgIj/gI682H5/pG80pGlp0Hl9BynsBml/GxPhz+Gm1+Gfnp/GtvUgtlIjsR50+GsnwHtsdjgRuvW1guHwj0HoEvm0Hy
   msH7sqH5jc4tZkZ86oH3zoHv4jBkj9Iv3uIumoI3g0H93cipdk7sHzksHm1X+lxG5IrrpHqkjIzzXr0lKu92C2+lH2nSn0B
   6zPx2Qhw1H+nZ4jtGjoDk6XpnzH2/D6uYup1Gt14G6rBqjjHx7vHvxhCor5Iv1wI4+5I9hLn0Er4mIt8EyliJ9hY2xGlEn+
   jI67jIB57xHs7xHNgqa9m+I6q1HwnP5vrHkxqHphH6yhBjkc4jch9Ws6K3xOJB8zabHLx9as8apE9+a1CJ1Bkhb3kbnB6hb
   5obunb5pbypb7pbjusHq9uHs2N51ZwxY6kMryb2wbvyT6xT2mF57gB+ybJ9+N/1NZ0tPryPg2Dl2Dq3bh5bbTpBj+F5uoHm
   guHizI9yIgjcLvocPjiLs7Kr7KslnBzycguczwc57DsrgB1wcX6wcjlGh0WTdtJR47czBhgdhCihd3idqidxldrqJotP9gu
   GiwnGJK5ChbLsxGywXxoeJ6uCpvCFlCyohBv+M3uMthIjD6ve9xem+Gn+GHm7Fn7FoxeysE5hjBFBw0etiKj0UPg2e72eu2
   ev3eu7Uj9UlC/Gs8ethfiDnFbtCglftqfjxJguW1nNixJ92Jk4Rp6Rq4fz7flCtBvBvCzBwhgBnjgBB/G0mgB1vgB/B/B5D
   r1H2rHs4gBhBtphBhFpClCzEr93H+z3Hd3F/B5ZlI7BzCq4iBtsIn2au9iBhwD30fmmc3X5xb6nc1rc0njBtpjBnBDRJpMT
   RDtGh5EwxoBljoB8sDsvkBzwkB/ClBrEIhBnCPPBRrEhExCymlBX72qByqFuxgB3xgBfhBqtlBzulBpCnLpH4/lB5kmB9D+
   kmB17O63O3xmB4wmB53mBf+2gBi3FngLh9bi6mBv9mB8qgBzsgBVs2jBv2jB1BV1BJm/mBplnByinB9pnBlN6oQruQvB3Fn
   BFw4nBl7nBkryBllyH0n/FgRnsB+qkBl0jBzCF3DuwEi0CpsHhDJXR2+ErgFdNijS3nS/0wFliBxOuotGx6Vwxd1y1Gwp2G
   hoeywuB3hnH/DhGnkIo2/G3hN90sGVjPs17Gh9xKin2D8y7G517G/DvBjBtBs51Gr61Goh7G1j7GvCfjIlErBonyGztZ2oK
   9ljGTxMxLoG2Lol5G355Gk74Ghl5GctCy10G510GZbgltHvntHnB3FXw9+Gx0YrjnGjJgEs7jGr/kGjKzaHg1kHlkRj3zG5
   TlMvBperE3D3hBsg+Gjh+G/D832Go0E/+7G6l7GkyZn71H1VlC/yBtU7NmlzGzmzG3CjUizwGl0wGy0tG72tGu1pGt4pGyv
   pGrnB94oGA3D9ChzXiuXTpKmC5KjTvFtGlDxrB9L8iqHtpDtHz7pImxiB3Im/hHx7rHo+oHlk/G3Pgp8G9riGkp1GxlHzgB
   94oH/6dsnLk9QvKp0bq2qB28rHvehm7Hh4kB66jB9BmtBxvBjG9qD4niBy/5G9j6Gmn2GxwiH2uxHh0gIpwDjN+02H3u3H0
   tmIn5mIxrfh+JwmxJhm1HsmrG/+/Hy34H3j3GxOzR6gsHtrsHykfox5G/z6HhO8gkBgq8Fj1gH85+H/qCjjNvywH/XgtK51
   F4u6Hzo/HvCnuL+3sHk2uB3swIlvQqtQuknIzknIHhmByoH7xHw/jI42Nht/H+upHpi8Hw4oI38gJ2pX1N5Hunfg/iH/6M4
   Z304H/wN671H31oHyhJyjiH/psHvEgvjI3pnIksuH70qHy2lBmjnG3w/GjpN0pSlySm1sI9/sIrP25furpG33hH6k7H+2Dr
   qvKmx0K7vDvm3H19QmpsIzs9H+t5GwsU7y/Hsq7I91pBjivHpN8lC5kCgo7Hvu7Hs42H73qIgrjCpxvBmisHpjsHqv3H16R
   zgmHq9nHtgoH+85Izg3IykyB+pjGhr4HtSgjnI5+rH204G78zH8syIn9yI027HzyJx0yHyvqI25Qhn3H7rlBjY036I3i7IJ
   qgwHxvnGhxoB41vHr7vHuxUw5uHrmUh7vHy1yBktjG7MhjwG50tBms2B0v0Gj3tH2gZ6nvH4uBt1Sl9Oqqat3Qt/6I0gCk2
   nIxo3H3Im4wIw/K1yqH0muH74+Hx7kBoy2ByhxGx7Itn7H18Lk07Ii7Gv/xI3vM+6HZhQ1lB6+dwjjHsc1ojIqloIzy5I6t
   8IpxsIu33IpmtIyktH04VtyXjh1H6U+mLy8qBjkPxhnBosxI1q3I86F+20I7wgBry4H+51I591H28xHthCogLlt7HqyFi3h
   IpyVz1sInGzD84wB76wBzDrC1G3OxC1Fi8mJ7pnJjkBi7+I3uN/2yI+0oI5kNl27Hu8iJp/iJygjJxgjJ7V7I694Ihh5I+v
   +HzrgItS45qI97qI3Cs0pJt2pJqpjB2v9Gk0OqgO3l/IjQ0DPzX9ZvHhCxFpGrO3kBhE6vvIxlwI1CgopJlqkB30mIkv4I5
   14I+2qJhohBx7qIgjsJ/v/G+t+F8/cx/crvqGwvqGzt9G24iIr3c0yHsqCw8NugNvkrJgpJo2gJr0rBp3kG9i0Bv0F5C41I
   g5Jqs0Izm8I+5c73MhyB6rlIt+nIt9B05lI767GgmgGkqZ1xxHrhHis0H+Qry6GpI405GowH5hjIijkItv/H40qIj9vJ4xo
   Jp6EK1yU94vHo2iI18xHi96Gq1c78gHkqBh3Uo66GtkOukI8tLzgTw/S1W34NoxfrxW9amtW5wVruB41BotVv3RgyR8iBto
   9GgtsHtjQqB/vIh/tIsrmJtwfq0PuDoS1N9s7GpFu82Gvn5HmthB3+Oi8Ow/3Fk1Q63Ttp9Gy92G/sa0thBxjcwtN/3P23W
   oEpEspHz9qHktnGhkpG0xuH4rOvssHig+GrqBhNYl1Qt8L5ltH0t5HpwF70D+HhUkxDrmBpqmGs9lHvhXjgqHu31H13Tv4y
   HyhpIxnoH1jrB64d/8doqHr+Bu0wHxmgGk9/Fnv1G560B8/rC5EopuG3j1Gq1qHnnkItjY+g4BkvnHl2tB+zbhokH8qyH5u
   /H35qBi5mCmey62Gh0qIu7yBA1loBksnBq+vG1uGjsPuznBuB8oMr5Sp6I40M4rO/yBh6MytOl3nI+32Hnt5Hk0kHm+W91B
   1uhI6xoBAwynHlh1Hkv4Gvz1Io6oJnunBhxwGjjxBstpJ70hIp/iB/jFm4tIz18G3vagwFopYm/pHt/Mj9gH4MmgiI79qB6
   zeylK2/D92Hpq/G+knGi1Nr85G6jrGnrjIwozIy+L57K9wiBwhf/tM/92Ig7iIq6oBvxU+/e7xUh8nHvxJAs52H3k+Gmw9G
   374HlqqBm9lJznvIkw9I5pbjzYuyQluP41hB74/G0x9G/nE5/3I45Y9iHwr1H1njGz/vBikRk3eAo39GhxmHk4gHp3c7sjG
   i1/FsjH8yKl+PkjfjtP4zM5Mz8bizP11P6qP/qP6uPnE94P0hQ5wP7gC6vBly2Gq+0Gw+kB/kDu8F1pnBuqnB7mB2lK1sKr
   pCkxDh2E1lCr7cl+CglHovd10hB3YuY+oiBngH3/Dm1K/ikBvPwsoBrglBksW2tM/pStixGo5+Fw2jBArufvyCsyCAYr0+H
   yx1In6kI0lhI0rK53dqhOsvJt3wG8qoGhyEh7vHqyPA3hGokpHtsSo3mBzq/GuxkGnoCAy/Vr3GotM5oD41Cr9FwyHl2Oh8
   qG0r5Gl2C7DikBvudq4rB7wU0xUA91aziTxiH+gC02BrIrgB7+BqC2wWz5EA2xH7hOiqEAy1UzioJo9rI3tIAg4I1H58H4h
   Ig4V1vwIs16H5Em6Jn6nH0joHuW++F53OimKllqIqz1HylZvwNohJ9u2Igm1I5+/Jqz1J2iN9I37L4iM9ez/L/8+G6oiHsn
   TruU0+hBAn4pHz8qBAw4xH5ptGA+hiHz2K/mS5mBu9EhiE25JAzBvuC48Mp/R9oC29yB3te4qTzkYxvO9gkHiggIs1KjppB
   0xeA+hF/gFtT8GpJmnUr4TyjH1kwHkpoH7pCijZp4T1m3Iy+9H9l/HAi2+I5mmHikyGq9SrwhBlw8FutnHAx5bAnsCvlxHi
   kxH8qBxjDIuxBykEoBjqK23D+wNr1Mni6H4i6H42FlhGg+EpmJlkvH0n5H738HyyzHpCugDn8C5rBnmB2WyhKojBj+HsqnB
   53Zn/RA8/Bk0KgrDvgN/k8G2ylH6wb15ZmtIvP4sShpa4uIAzvP37lI8tsIw2I42KjqDygL9qgI/gR93LsyQ8+dukDpgjCw
   yVhtB6+pI3uiIjmUy5pB04av1zByzM66kI57K5ikI6/hH2Kp8hH4m5I3wnD4wnDB3wnDwuvDnvvDEJ+BkN2gvDE1ivDBB45
   +D55+DBBBpQ00vD7hvD8hvD9hvDgssD/rsD1BxLBqNBpSDuSBqinDBninDB2inDBzinDBmjnDBjjnDBujnDBrjnDBqjnDBn
   jnDBqjnDBnjnDBpBBBBBBukvDBFB//HB0+HIhtvDFHgtvDq5P31XyjFH6BE3BvDE+DEsCE5BEtuG+5IulQnz/DqKmn+D339
   DBFBIBlBBBzKDuj/D/BuEx2QjwuDDEwruDBQmEnDdhguDBBBBvPszuDB1HsIE/JlxIEu6IFNE3gCD86BHyQDIDHBDE5IG3u
   uD5CwyuDlluD3JhOo9nD78nDB6N1B8hvDL/1uDBBuplD0DBB/C8CoBBpDqxZxqoBDFEHDnoCjwPp+D80rBBBBBBBBNEEEEE
   E8ESSSSvHqJDlJ0IHHHpFBDEgCbXUhIBDEoHBB55sDBBBBBBBBB07uDBBBBBBBBBvrHBBBBBBBBvxRFB391CBBBBBBBBBBB
   BBBBBBBBBBBBBBNBBBBBBBBBBBBBBBBBBBBBBBBB089DBBBBBBBBBBBBBBBBDBBBBBBPBBBBBBBBBBBBBBBBDBBBBBB3zWB
   BBBBBBBBBBBBBBBBBBBBBBBBBBBBBBBBBBBilXiBBIHpzQBBBBBBBBBBBBBBBBBBBBBBBBBBBBBBBDs3BAAAAAAAAAAAAAA
   AAAAAAAAAAAAAAAn1WxFyFD/DzBxCL7CpoBrCLpH/BBzJzH3C1B3Gg8CDIDhCZx6B65BFtBE/ClB9pBlMtPxErIzB3zB3cz
   CjB3E5dBDpKtBlBrBxD3WPXBBVnH3IZPzzB6jKEI/BFRjB7+Gk7GRHIDb9BEFFBLIBQ9nBGrCLBG1C9FfBBlPFBtBlCdEGx
   BrCtEEF9xC5DDEFtiB5LlBrBpDpYtInIpBB7KpkB7CpBFhuBvFfZpB3C1QvB/Bv/BjEtBjFRNnDpCtjC9bXJXjBDhF9Nm3S
   IEEHlCjBDEtJcKBBBXBYJtmBEpEBjC5EBGjBrJErGBhBL+jC1mCEvBEdE5EnDYdQDMEnBKIWMHPEEYPb/tBE3jBvBFlED9d
   7CxL3aEE3BB/GRpItBE7KpkBxEBGEn1BhEvUGGBDrjCzGnEEvCREGhnDpNJlVTjDNRBNBBBvFjPhDhB9C5ONhBtUnIrLtF8
   qWBlDBrB/CVDEzFTfgBVSFBG8BHJYFTHT7jBGED/BR3BlCtGOBKP5IpGxBE/EBvJLIGLgBTQZKMMVSX7sBGErFISJEFO/eB
   5BB3EaVOKRErdB9CBIHhH3BlGpWvC/GG1JX7LIvjBGBFlFSI7tBlLEHBpQBrBnDUIH3+BlEtB1JtEODLBiBJXOeBjiC9eGh
   iC1nCzXpI7jBnFlDnEDRLhC3ETDBtVNRRfdH9EHX5+BpdXtB3RjqGg/jBrHpKDSfN2CtCOsC/BBqBIGVhByBT5BQHkD9ByB
   lCHsBjBjfEDvChEB7GEJBGlIGBDtH/EDvKfgB/ByBvCwC9BIiBpBOwCbhCkBDIWNBuB3BHgBOaZ7rBLaN9FNkBZONiBjBEq
   Bnb9E9FYrBWJWIUtBkBU1BvbEGBhDEH5JnBBGEjFBFS9VhClISF5GZ1BpEGpBD9FaVWnCOZeviBElHlBEuBWlB6B5BeDMO9
   BoCxC2CtCGGYlrBDIxLlQ1GkBBBBVOPsBIzBcH7gCzGlH3B1DyBNBKrBkDfrBiC3BqC7CKsBLkBXWjBiBtBNHuBn/BLBMze
   EEnGGnNrZEXBzU5GnP7dEEtLpoBzlBhUITMFEvB5blCQD7vDtE7CtjBddvEtMXlEvP9BhNpBjBHEEo+Y/qZhBPKIrK5HLrm
   CKFQDugkB/C5BvBfFZBlM7CiB2BXoB9CiBMIoBJlBgCjB1ByBhBDwBzdGFnBbEDpE/D7DIEFWGPV5HItJDEGpBhBBB5FGF3
   JDhC+B5BsBMKZbaWnBgCJrBbyDLlCehB3mBxIacESJGvB/Z5CGBKfzGIxB4BYlCYTIGPU4BH9BczZJEnDFGHID9H7CIBhHu
   BtBgBDLDpWDKELWtGjCIJQB/F/CBDtFBGIhGF5BSTfJ1BLgCnBsBXLDDiB1fEzCED9DzEFSMFUxBRiDvCBUIiCpBEnBRmBL
   yBpC0CtCGBkB2BjC/mBxGpB7DzBEQOKXedLYIrQGjG7BTqC1C0CHfrBOyCBdTYjB4BpCQwBmBPh7BlEBvBnJPvMJVmE1BxB
   mDTBGrCwDzCG4BXYPoBxCmB3CmDKrCOkB+BlEoBOTp7BQHSdlZBVf9BDtFbVGQxNEUXOvZ/FKBzO7D/CDhPvBhUDBvIEjLE
   hIngBrlBvDEzHpLsBIdiBTGVWJrTxBdrKuBKnBf+BzBSMQTRsBZbQt5BlCqla1kblmDlQLInOFQJhRTr6BR3JnCEKRGtH9C
   zGXgskBbBlT6COfhCgBGb2BcjCNsBZ0CjCaGvBafwC/Z1DEd7KYNFEEK/HDOG3EzEnC9BhEhNnByBrCMkBmBZnBMMoBtBFH
   0BKLTmBGvB/jBlIRpBFE3CiC4BjcKGED3IKtC6BJ1B+BJiBX1BO7WzDFGGF3F5EBGG7IQpSrCPO7FlCLnFbpCvDlCIJBKJI
   xIVFJwBzBpClCSO6BIxCEEO5d1JzDccgBnBoBdTuBLSIjBW5BgB5jBLrGjBpClEPcNPiBRRclNvQ6C7B8BK3BuDQrEaL4CZ
   8BrCV8CtBdpBoExCRMYv5BxBF9C5BJvEzKjEtCStB6B0BpCoBQnCDBS4BuCnEmBhBgBJNwC5B/3BdQQFGVWW3YjEIJpHUBr
   NlBgBU1BcctWlBjCIDI/FQBIBpNbBB/DGID3DSEhBDcGVpNrCjBSBxTFEEjHBtBBQnLD7HG/XpIFMRGIDjjBrFhDpEXIHpC
   /JdYwBBPpBOcfLQtR7CpM3BDmCSV7BgC5BNwDJzBfsCSIZYXftBz0BxCDEld7BrRlFnDOB1pBDnNEhExREnSWKPMPGQHjOH
   cDvIElIp7B7MMBBpRNjGjCLbtKlDHtLFk0lB1FxVBrBqDtDE8ChDoBiBrD8BMSEwBLnBnBwD/CuBbEsCM9DI6C5CmClXvCB
   I1CEOJ1ILSND5MpF/BGjExQvCgBrD4DwBZnBazB4CHavC4BKKhEiCWjBnfB7LjBUSrErQvEBDtLNHFKSwCnDFLK0BIjW5Oy
   KFFGONHE3E5EHM5JfGkBGPLVczP9DG/HDOzIhGEExMTDsBJvBKLpB1BMcNSQhBhb3KpBU9EiBgBrCoBHROgBrBoBoBBIpCE
   3fB/EvCH5HNLadOQKtL3BBDzQtBfGZ2BRjB4CzI6JpDJqB0E3FiBKN0B1BmDJxCx0BE7C3GHBGG3MzH1CcEkCjBE+BzDwC5
   B4BqBzBYlCGkBXiC9CrzBbXYkBNzW/DlIIHME9ItG3B4BeTarXREGEpGNDsBBTEIRWlNpCzBFB1FWBPhMtEUhB4BtBFmBPc
   ElBlSMfEUPEOFzIEHSNFkB3KHhF5CVvXvJWaErBDeKJJDgBXD9hBpCpDhDKpEjBIHGrCDjLhBmBpByBNjBeMpBYZec7PEnB
   fzBBIH9I/GtCDWmBvBQqBE1B8BNIgCxCgBU1BhxBrD/BwBhBJ8BtBQndNTBMK9ZSGGRYZKFQDtjBjDEvCBpNpTrCDMjO/EJ
   gBROOdOPc5J3EKJ/GME3IJOJIz6B9NBGODNaL5FtiBzM3P/C5EZT+rmB3fFkCsBKRbkB3BhByCN/BEFyCiE/FG9OxD1FzHJ
   lGNEI1DETrCBGpIxzJu7InCKmCzBF+BN0BpCQLuCpD6CW7CiDtDiDbrBhbFGrNrCJKuCHrBPlD+DDtSjEnNVP5BH2CKrCSq
   BHrStFGEGINlEEExFKBzKEPZMXkBvBsBJVFiB1MrFGIH/HBGERtHD/BpBID3CDJOREKlOnC2BtBPlCwBjD0CPWOtCiC3BIg
   BxBwCjCoBlVB5CvVNsDnCXF+CiBhDjB0DvDiCOvBiD5DqCHhBPV2BIgBMmBEjBleQMPGy/H/+HRIEvEEhBlCKBD9IITHGS1
   JmiKnkKrW7CcgBjCuDU1DWiBxB8ChEwBwCEdRVUDgC/qBvIhDB9DlW7CtD2BwC9CsBvBtBEV+DH6BjCoC/C1BkE9DGiDZvE
   sGpChBoBjBNIOmCG2BjE8CtClxBfBce7U/DH1JEMIL7G7HJQFSdlNrBBpCLlEBKb9BpEBiCpBFhMrEGR3FNGODDhTyCVtRF
   J7ItJF1IPchBOcJfnWJGhLI7CoEVFHiBFhBsBlBiBE3gBhGKjDDHzE7CKxO0BZPGNa7NlDDEFpVfOiCzCatCmB0BSRWtB0C
   HBThC7qB4uT51TQWbgBhBJ2BGzBzY1EuBlC0BHUGvQK1JcLDXKeKNtiBhB9EFEIDI/LEvFKhSHzTaZIXKGcJRDkBlBaJQnN
   JfzFtHtCgBIHLK/5BhOVGJSHDBYnFzCE0gOElyOBt1B1Y/YTrCrB0hnBsBSnBSkBrBDDrmLgxKhIDBapHEG9H1ErdJtC4Cb
   lBMuBzBbuBcHS/CMgBkGnHyBhCgBJoDVjCmBnXjSMTiBXBiBKFxNBrGtRlC4BlBRX3MGhGONIzDBrC1RH6BlBrLvESFF1D3
   EUBDvHhD3DBGxSfgDHzC3DN0C1BsCVQnHwH5ByBlBUjB5QzCzVwBlEgBxCiCINJhBoBhBYtBByH7HWgBtHyH9BpWPKB7CE9
   B9LDHDQjCwBHQtIB/BG5dsCVSE7CuCrBQQjBwC/BgByBD/DJKsEhBnJoHlkBKF1FGrClD9DBIlgBR3BoDhBpD8B2CJGS/DI
   qDjDvBkEQxE4DxBoBetBuChC5ImEiHpDpBgC7CUWzrBBXTgBpBvDmF/SvDKrLkBdYhRiBRkBFfBGMqBVD5PBpEEvHQPWELD
   1JBzBIhCvClH7J/GdF7ZMFOMvJEE9EGrGZiBTDDQGHD7ULxLevBoB2ClEHkBJKbFg/T/kVBrDtElD/MEULIsBZSbNhC7JT5
   czBYpB8C4BrE2E7CDFlG8E2B3BiEhDYyC7G2CWyC1CoDV3nBnIOnB0BNRqBbxXzGBkBjNlBpKpCYRmCJlBNYWmBLK/B1gBh
   C5CZUTHOJaFERQjNMK5EdmBdUMdsBpTIH/JjJNKNOH3McnBYpGDzGpEBb2BpBkBFUTl4BMKLDEK3PHIePBN4BjB5DHEDBvC
   FzNxDBD9NFJORMhMErxCTHgloB1iBPIBjBQmBVHavBvbSLjGNGGB3E/qBRsBlByBbsBTjBBVsBN6BB9B6BxUB1UcNEFOtBg
   ChCoCvBiBQ3RzVPFeEEUdiBtrBL5N5C/EEzEtElFD3WYxD0C6CvCmCPNrEGSRgBWc2BQhDzOBhf1CiCXFfkB8BZSQxCiCBk
   BrWlDhBtOeGBbmBnBYrHhpBwCoB5BwBahCsEjFyD7BFcYrCZ0CLS3e1C7EEnBzCpqBZnC8BXmDZzCGiCcnCGgBrC4DLvCf2
   CIZzpBVfM4B7BYfO2BxBQyBjCmBnOvBpObOEhTsBMTE8BGzBDBzRDvIiBhBgBERJYE1OB3HfMSJrBgBDiBRFO3I/JjC0BBa
   IcpBDqB1PJD1qFgnF9FGLaVEhIBtNxEiGbQzUDD7N2BvBiBbqDlhBMBPtDEKjLD7CG5OEPoBRJSbBqB9JjE1jBY2DanEgBJ
   mClCkBgCQ3CDLHwCvhBGFzJzBYEQGINBFH9UrIYJFKJHwBVIzMtEvINBcFNtBY0B5DgDnByBYXGZD8DzCzfvCEhEIBKmBhB
   EF3RGRNHNiBOD3MhFLYXpJlBxJERkBjByBxBMUPEEHoBFhNJpFGE/F7G/BgCJFG5BiBxBoB8BpBHSaL1B7zB/PKBvDGGB5C
   HGI/F7BDzJBDUPO/OSRBpLGF5SvgBxZ3IJZ0jnBNUgBtBoBMOD/BoC1BxHhJ/IE9K3HhlBD1BK2BtBeFHBwB9BRwBP2BjSG
   9VRJfUkBXS/HvCIDrEEvXJFmBEDVjJxGROHBDODM7CpFjSFnNPeDI9HFnD3DzCxE7YSX3CsBBKMG5BpL5lBgDK/E6C0B1B0
   CrBoDxDbtP9CrDE3MLY9vBXoB3CoBpCSiD3BHiBR3BIiC9BuC5BiCraFtO/vBgCuBpBgCpDpB+BX8Bc/BoCiBtB1CNOgBer
   BHxF+F+DpBgBuC1C5pBJ6BZOb3KnFH7KXnRENLItJ5IrJ2BGGT7MDhKQD+B/VmCPXWO1OBGhKFxHEnEDjLaWuBjCLUMxCkD
   IpTHB5PYqBhCB+BzCuBGERyB5BWFYpCY4Bnc/GBG9HK5CxM/CdQDYFpGlBZZT5C7nBWNG4CJnBuB9CoBPlBoE3CpBQpnBoC
   9B0BFd6B5D+BezcdeJEJsBjD4Ctb2BjBJuBnBehBLMFiBQRZlclCEtEGBxJ7CKtGvRGFG/I5LSHNWJHMG7LELtFFEInQPJl
   BG4BvBRX6CpB/wBNBODEpPFEhDL7C3HRhHhCBtJDjFDNIvL7OBrD1FBjbDIxc9HduknBKMOHRLBKtN1KBBHIrGjM3nBZGQZ
   YYzCMR5B+DQB/kB9BEpBwBjBMItM3ZefuBtBKrOGIDxHBvTU7MIDhISJGLIvGxCrEGhcgBNkBS5COaMlBxCwB1B8B7BmBTi
   BzB/H1jBLTpCnB2CP/BYmBDnBwB3BEGkBjBoBRhBjMDBrTIRIj3BKwDxB5BM6BnCeUwBdFyBnC9TGrFhCBx3B5DPoDpBmBj
   D0BmB5BW/BqBWalDgEoIzJgBE/jBZJU7KpElLRjRjCSMD9PhKRWJDMBvH/BzCzKQJJO/TOYfatB0BnB9WIHIOHnHE9PHlBi
   BjBBOkC3C7PrRnBMXoCnBgBVMUHV4E1DxBN3XDvDzD5DpXBBFOG93BrCoC6C7DB2BGjBGcyCxDuCN3nBeDuBLjBiBgBGYNv
   QDlLUVBDYjbrBYIgDrD5CuEtBQIgBrCUwBFjChXD7BnHGPGPBYBQbU3IjDHvI4BZJoBzBWDI3JlGGHTIHeDNnUJOJTxLIOT
   rFDDSjUWKlD+DvDoCeRrBYxC+D1vBHlVDBDtF5CGHjJTgBtJtFRELpMcdKWHIN7NtDBvD7BElDStZFOrapBfuijBzqjBikn
   BLKKJ1GzClDnLD/Fr2BjBbiBMnBeGIXGIWnB1kBIRGxK9atBnEvH7B3zBvmBkCvBgClEwBPXGvGppBKTiBB7BuBFMVelBDu
   BrLjVFiBVFgBp4BMD9BjBoBgCV7BEuBKmBzCwBhR7B7I57BkBiBjCgC5B2BXZQIiBOnBzgBVNDWZ6BpBVF0BBnanTNYNEnE
   zCBtSHD5KG1LGBLlUejBM9LtKBSLE9G9RvDyE1BULPI9OBnTNUlBPMEqBNxWxD7DBIzD1YWElFZ/EBhvBdkB/BBuCLnCIap
   iB3BEHsBnNxMPcLWxIK/TnBgBLdqCVNfFBYWLFL9WDrChG/UoBFbUKrQaRMpHG9MEHOTGzL7F7YrB+D1DKcuC9CwCrBWrBM
   axBsBjqB3OBD1CxDFJULK3EBTjDvJPFKWXsB3OvBWILQlNYdtMH9De1DxGnYbFDuBR5bKxLdmnnBYDhBlcx5BefYDPrkBGG
   IjmBOOrF5LhDnVGFMlLhOhH3gBQJ9B4BtGDzpBKbPfWLJgBVpJBrVIz6BnBiB7BO9DyDsCxBQf3LjF3C7C/8BxBmBBMRNHg
   H3GYPqBxBDtfSdSEPEPqBpFhBzSDtTNWD7ZKT7JxMULKMLjEvQFOMjBrKF5KvGvULgBQpB6C/PKDHIOHhVfPgBMhByBjBan
   BKcJdoBTiBpR9KRpHBGEHlVIUPGEGXYzChCvGxzBuCO7BYF1BqBqBhC+B5NxVhB+B9Ba4BfEbF/WMbaJ9GjWRDDkBrBI0BX
   hTGnDtIFEKF5KhKDIDzPOHFO/TGNIBGxLzGMGhbpD2F5E4C1B2BoDrGmBkBpBuBOrnBBBKG1ON7BrEDjIlDlH/G9H3MG9aI
   EF7YH3UnEdGBGlGZ02lBlrBxB1iBE/lBpiCroB/EhsBGXPaBK/LpSzE54BQtBSITqBB/KxBtDzlCDcPatBG3eBDO9XGjTvB
   rFhUDO1WDKBjV/JlLBGnGBrWKFaJGrM5WBRKNgBN9OhLD3HEtVD1Dp8BuCnCFQ0BTEoBxkBILmBra3CjEnThBcEpSpLnVTF
   GMW1GxIHzTKJlSBnCncWXXhBMGHyBDI5jBDOJ5QOIDFrE9HFN3EnFDIDJtGnIBGgBtHxGlLjEFxEEE5HEnDsDShZXF/XpDt
   B0/mBj3CxjBBFlxB15hBqqgBrwBJEE1wBdhdIvgCSIQv0CHReFSF7eN1EzErNDlUZxBnKExNDrWjVvJzLGpdBQJOR1iBDXi
   BB1RmRlUFE/hBhhCaZsBdBjBngBTPqBJjWEUPle1BKgBhBaBUlB9aDjXWpBkBWbO/NO9F5NBrSIljBiBb6BJnBBQXsBVXch
   BnfvN9CtEIzD1H9BlGOFhGxIH5MFnP1NEkBJ7ayChBSDrSJKhC67lB/6BdEGPviB3lBFzDxHld9iCD7xBKJ5chEp8Bj1CeD
   7d1WnVlZFhsBHDE3Z9CrVUTjKB7rJkzIELzMnLzd3Ip5BGvBwBXJKFzgBB9UrF7DvXKORiBXnaG3XSHIjzBtB5kBsBOne9U
   nZ7IEtFlIJNG7dO3mB3DlDtE/CHG2inBBx4CEDjlBv1BhW9iCD9xBExHnVjhCRWvLzpC9c3I9iBGpZzW5nC9jBI/S1lDrBo
   BxgBEEG1UDhFtbFLrZtXFGnN/E1gBnnBJDJGOQtbrVBQ5MvGGjP7OGIGhJpII3NSzYJbWpOjFzClETB4inBE54CDErrCplB
   G3XhrBpyBr+CtF/uCNvyBnWrKnOGt0B5qBE9hCEjWl5DI5InYrZBzXD7Mte3vBZB1uBBpIGzKzO/PSpIvE9SyBZIvZH5VvD
   GzCyskBzwDziClyBPEjcniCz8E/+CzZED7iBFG70BrlCNjfx1BrwCEn9BIHnwBtQ5O7PBK3HBIlYFE9YzLpFoikBvhBlkGj
   zFlhDBpWx3DvD7qEFxChzBEHgyEnqFpqCzqBvtBLKjIzK9elMrDtQzZBjIBzI/GMgogBliG50CxgGD58FpYhuC/xBhrBGhg
   C5OvX5Ex6BymXr3D/7J5tEj1BxpBF08N/vG7wB1xBvrBBG1/DB9nBoqJ1iE15Em/VjkUtMzuBF66QmhsBBBBBBBBBBVBBBB
   BBBBB8wBBBBBBBBBB5rWRrE1BjuBnBpB7U9DhD5En1CrnB1lByqX30XpH3FhBl9C3Kj7HnO9zMhwD+grC7hBtjXBkGB4Jzt
   PytPBBpP9jnDDigsDnwEBBBBBBBBBBBBBBBBBBBBBBBBBBBBBBBBBBBBBBBBBBBBBBBBBBBBBBBBBBBBBBBBBBBBBBBBBBB
   BBBBBBBbBBBBBBBBBBBBBBBBBBBBBBBBBBBBBBBBBBBBBBBBBBBBBBBBBBBBBBBBBBBBBBBBBBBBBBBBBBBBBBBBBBBBBuu
   WBBBBBqBpBBBBBBBBBBBBBBBBBBBBBBBBBBBBBBBB3B4BBBBBBBBBBBBBBBBBBBBBBBBBBv5OgDBrhI5vnHmn5G/i5Gyo3G
   k3G9xtByinBxinBrlrHAAAAAAAAAAAAAAAAAAAAAAAAAAAAAAAAAAAAAAAAsi7FD8NMktmD4xIVz3HB6hBHDBBDDBPNBPDF
   DDPLDPHDBDNBNJAAAimWoDVQhCmS4FlF9TiCv9lBzBx5BpSvG43CJ1DrEzkEpzxC+5uCpwBq2Iv3B03B/BpG9CNE/sBnW/G
   5Et2BlexCnuB9ej+Dj9CxBvE1iD+gSV3KaZSKIjzB/Q/Cr9BBnfvBjlBF7IxCxDEhZ3HDtU/jBtEp8EhCZKKlnDDzN7iDjt
   Dn5KixjBTnBwD9BoCdUhBpB4BF5BgBgBiB7B9pBjGWNrJ3HI7C5D5HztBG9EKTvgBnEKRWFQPtd9LftFGBFhWrJd7HvBzFh
   GEM5oBDLIJKUNOVz4BE/UMEFEJIUpuC7CXTcMTUBpiC5erFBxN3ZpVr/B3tCtyBHHID78BhzB1xDGBFQ74CDKF8sjB4BtC0
   BThBuCxCsBZ+BtB4CLXjC7iBzClGDF3IB1FzFd3BBhKNczCgB6CFRcpCjBe0BKlCtqBQG3FHNIDNnbzDrGePUUnBmBEvBO5
   eHrJDlGDQFGRSKZD1UzCH5HGFKJvHvB1FG3FEE5BMLJmBFEtBYPHJarkBxERDBJcuBTEWhBNkBLYDlsBxLHEEF/UDjBKUKp
   BiBZgBpoCxEB7FkBHxBNH+BGOhD8CzBbNuDZerBlBr+BLxe3FGLFMQV/MDKBGvaE1FB3O3rBtvDhGHUDTnfEWRFDUQBn/Eh
   1BW/NDHQRQ/4CSNG2/jBpW6BRSFNkBGpBMc4C1E8C/CkCPUvBXSTaiBlB2CF/iB7BDtHIBlBsB1I7EBhDrFDlPSDfgBL8Bd
   H0BNPetC+BeEvDsDHIlpBDrHFMGLELTYLSBmBLpB9YxD/GJpBE6BzBYYLNlBsCXFPqBlB1ZF7CD9KFtGWKpBOQHcHTYPIWP
   hBOWhXIJ9QOBB/C7CKEhGNvEQcxBwCxC2CZ3B0BHbWsBF7B4BGMIlBvfxC/GN5BoBqBXnB6BJKXmBNPpoB1GlB7EcPbWcPP
   DSSnBErOnB1H0BjCH6BJ5BmBGiBxBEmBpCePuBOHUB1Bh5B1FG/F9DrHxFEFsBoC7BwCzDiDxBeSRFtCJiCV0C2ClB8B7F+
   B/GoGOwBxE2CzByBl8BHoBbcGZJqBvBwBte3GYZgBlBWDLeJlNIXQKGXgB/TVtFBG7EXtRnEGEJlQHIDEI1UIrIlLF/HzXv
   IvzBzF9BYpBISlX/H/BsBkBGFzBeNb+B3BOaQPxB+B9BcqB78BEGBv+C33BQPORED1NDMHIx4CHEGRunjBSbkCtBDWlBPI+
   BSvCqBd6BLQlDvlBJtHD1H9D1BEFEjS0BXSzCazkXulXUvCiCdBuCiD3E2B3B6E3G+CpwBwBBJyBVLGQHUTXYM9VxBrE7II
   fjBgBqB5BFEOmBbJ6BbTDsB7BWQ1bnKnIPaVafFKkBGFXIBMQGPhBxBhQvCBBIH3IaGQPDjGtCvC/ChLD1B7BqB0BbaDjBg
   BaD5B4D/BnBbPndB3I7DGuBxBYyBbrBIqBGTlBB2B1B2BYhlBDtGpBtHsBhBF0BTKhBSd8BtBJYhOBhLhD2CejCkC5DiCyB
   UbrCQM2CvB2BnEESYkCUpBxBR+DzEuDtCkC+BvDY9BkDBQtCgC51BzFDjD/BDP/DBtQXQe5BF8CSiDxFgDpBhCiCUkB5BpC
   kEtB9BqDXhD0DxBXqCzB0BNt6ByB9BcEgBlBBavZPBjCHFM3FzBHFaVKIjKtEWLIaIEEtD6CPUJFelBhSD/DxBB9FF9M1En
   EMBBJoBHE5OB7BVBcVEEMOftTDEOEhJSDNSjLGlF9CBxXGBLBBjIJQtlBxDKhDxENBJlChKkBxBgBUObY7BWFmBVaLPd0Bj
   TjClHpEpCMbgCvB4CpGgFsB7BSYhBFtBkBMOOOKzBQOz4BIPU7cZxBFEzWhDF12BhnBGZehRqDDrBiBQRHI3QEhoCMDDUHi
   jjB0BDXdbsBuCE9DHYuDB/BJHNbODoC3UzDEtDOBFLlJQSXBWZ1GhE/IvYqEpDM4CXgBrD4BJH8BrCaqBxBgBKByB7CYPrf
   BzMrG8FIyBXUEKGRPRwBP5U3D9MItBB0BOPcnBpBxT1DLEtFlFGvJlBkBFLRQ/SE/HLKDtIItDrPIZuChG2BSjBkB3B2BjB
   LKiBpBe1Y5C3K7BrE2CvBBgBZhK4KjBEeoBvBcnCKJ6CzBqBtCU0B9BwBPjgBK/HIBGvIpByBThMB3QM9CwBBPfH0D1BsBx
   BWDD9BWiBwBYDjBDL9BoBsBM3wBFGHFxDpxK2vK7FGHMEJ7DpVwBBjB0GnFhD2DTVDjCKjGiHNyCRQtDwCX8BlCrB0GxDlC
   cDH+G5GSDS1B30BUGXmB7mHwlHYMXDaQSBBlBalBhWrDEEzIOOTSIPLjNLXgB2B1CKLcWRQRIIBfrPBpBB3CzDHhFhBORKE
   UH/M9DnFGYFEhBmBHHBPJ3PRWlBOQLIWPTUNlSNaZUEEzJBabEIeDExKFKLBGIhFvDadeTQDHMRjXZQDKJSxJEaITGIXcII
   /kBJIDIG1DKhDEGrFvCMhMSNKXOJhQ7CW7QOtB4CvD6ChDwBD4BWL/BXoDdmCnDhBwDbKtBSO7BGNNsDb9BqChC1wBE/ELm
   BUHZwBfkBJdsB/BaPLmBFWdcH9aBxCPBKbgBbiBnBMWPrZpjBfnCxCElND5DDE1RD1SUZIKRSO/NTQBRKLcFKJP3GGBrIZS
   joCF5FtiB3f/EirmBhfOUIDcSjBpB2CJazBkBvB8E/CzBTDSB+BO7CJ6BO9X1JDEDvGIzF9GxdB2DhBF6BWtChB6CEMjCc0
   DrClDwBsBd4BbJV9bInPxBmDnB2BvBXoBfViBlByBqCvD0BYdcNY5CmBnB0CzBV4BSN5BUvVnQSIjBUuCIvD8BdLN0BhBcq
   BzBYetBoBrEiFdqBlBnCQmCTJqBzBrRKlFExJpMoBjBILqB3B4BxBEuBhC+BhBKd/QW5HFJQBlIDlGMR1OLWvDeTxBBMpBY
   HsBwBzCqClBYHTcjnBlDpCSM/DgCdiBOnB8BgCvBRmChE2DtCgDhEmDvC0GnGwCZKfK8BlezHvJKOGFLrLhWbRXgDB/DI1K
   wOnDRIqDE7DoCyB1BuBkBNvD2CgBZ5BMYpBwB1B6CFrBMGcxrBIHBxFGGBG7JrZsBREhMyM5DQ4C9DmC3CyDvBEUyBtCUBG
   xB2Cc/CFuD1BoBZONjCgCzCuCWrByC9zBlBuB/BoCvB6BnBkB5BqBFNZoBSGpBUX/WIBF7JOiBTNeGUfdzG7GDIdIKTQODF
   ZEwBnB3VE1GHIKBJE9LOzErGWGHBDETyBrBOlRTUHIDuC9BVnRFDBQPWzF9DGGBvJJKpKjBoBgBVeDd4BjBcnBODDFL+BRh
   XHGZjJPMGHV0BIvBLUBVgBoB1jBjDNBG9CBDFBWPOrFEI3CKJ/MZaDjBeZeFajBWJ9OtCMNOGjE3RlBJ4BoBQhDiD1BenBH
   qC9BpB6CLRhBGdgCctCTwCdxBkDtCgCtCyDnC9rBIxGSVEHYWvBgBOJnByBNBNOBnZtDXlBOPiBUfGQdeDKZPiCNMnPnFFK
   1FUJe1hBDhCB/BvCvNGGlELULDtRLEEMRBlU0BLViBpB7MMLHGBgCtBBI5GDDQDtJPIDJqBpBgBBXgBL34BXDnPgBGLG/E1
   KzJhOjL6vkBOEToBvBiCRDdsDnDWiBJvNpH7TElJFzetBIPuD7MoKgBYNrCqDjCkBjBwCdzBwCrBXoB7X5Rb+BJRKJoDlFo
   CUEvBXUSVEYEdrS7U4BVsCvCKuC7C2CxCNwBxBwH5ELZqBP7B+CDdfcHT5U8BGRIQH7DnCtQXvC2CTaW3BINmCNvBsBavCw
   BUfkBHWHTJ9PItR7EEL7RiBlBrBqBW/EmCvBXkBiB7B4BHD8DjEpBJckBJN9TzU5BE7BtBFN6CzN2K0CrBrBkC5BF3GmIkC
   9BEyBnBMkBJJEIvC0BDxVpDFOSXItChBBfjCDzKiBdJgBPgBP9I1gB0DhDyC7E+DGN7B0DhCaQjB5BI8BmBrC4D3DvG6L5F
   mC0C7E6ByC5CEqBlCEZ0EOpBBPboCpDmDpB3Cf+FjnBDHIvFFDKvClDDB5D3czEByCzC9D6EBP5BwDnBD3BrBwFtBvBYhBu
   ByD1C/CTaJiDUvDhBOmDwBblCjB+DhFqBlBmCnCwCnBkDBnCrsBGhBqDlDFeDIfoBRjBgC/Sd7CBIELtIQpCedDaVMQIjB0
   CjSGHMsBHNXHcEOXUjBxMnD/DI1HcNJUDJc7LIvE3GBIRSJHIBjJbnHHBUhBHQHDQEWHjREEGjJPQRSpJ5EGrGgBRHHDevB
   oB5VKTQtLtBaiBFhBF4B7BkBd0BDpByBbkB/eBrCB3DGBrDzHGB7K2C9GNPISWfoB3KPRBBVvDBDrDrMnJzCzCoGvCzC4CI
   vBOzB2EDlCSqCjEqCPctC+BuBFP9B6C/DLkDlDYqEhD+BpCoDTxBxCiFxCD2CtDqCVxDiElCztBTHoBfUfcbgBfImBhBwBt
   XbEpG5B+BEPGSLMLY9EyD3MFErEIBlHEqB/B0BtBBqBBZWRQDF/gBjCEzDHeRK9MKR9EMOOdLcLHkBdmBzSPFEoBPUfeBbY
   LMPYnUNMtNrCyCMIXgBDLENGG7FFMFGhKR1BmCtBXwBIajBoBGRGlCsCzBPYGmBhBp2BjBEHtPUTBOIjELM7CE3HHGxJjKj
   E1/BlhBunoBBjDtgBDNyBrBLuBnBOmBhBQUzBGoBD9RlKGFBt0BvBgBHMElB8BnBiBpC2ClBsEjELZaezCsCXwBjV9TpBKs
   BGKrC2BQdKXW+BrCb1I1cINkBGQHMdRcVgBRTuBDtBqB0CrUDBrEnB7Te0B1BZOeTEM7I9FEKFGzHNOJKxH9GGzUjFBgCzB
   gBKKvBwB/BuCtB/Nv0Xs0XDEha3COpCDUtBHdfqCWFhCGsBBwBzBTSxBaOsCfrC4BD6BqCnDlBcoBhWlChElLLRMMEdM6Bv
   KrkBQwCrBnBdmDLpCkDRpBDhCmDBqBtD0DTvCsHvIqEpD0C9C4CjD+BwBlDyCkBfqBpCcDgC/BoC3EgEzgBEGELQzFjnnCm
   hnCBIGBlqB1De0DhDkCaBXhBPZXsBHoC1CmBQ5BwCxC8BXJxBKgEQKEtBI7Ba5BOoDtBYnqBZGhBIgC3BJfLeUgCrBsBPpC
   kBgBFgBRZpP7DEJEG7KLQELTE1PLBNELwBdBGaHNN5I7BEE/B3FGq/F3mG/BaaNGIEvBsBMUPP3J3BvCvHTBeHHdGoBJnBl
   HtKlBOMYhBiBB1B+BW/B0BrB4BhQLMKvJNBQJGZgBPYlJEK5E1HGRNYRcbGEgBtBGoB9UDMxNGOZeLYnBoBPQfPiBQpB1dG
   KBHzDEDnDBpElUKtB4BZeNfklN5jNvBgBP4C5B3L3CMKDF3qBmLtB/BFrBGyCqBkBrEgCwD5B/CoCE1BEuBzK0KwCFOrEwD
   pDuElB6BiFjH6BlBsBjDhBwDpBGL5BrFwDoFXkBIpDrB2D0BpDazB+B1rBQcpBmBqC9BvFsFrBMSYtBShdYDBfIEeHpLrBn
   ELEIEDOT/IfQ+BmCvDVDgBbGcLjcdE1BED/BGBtE3JBvCMDBGLBKD7FiBXJI+BxBOEJVQRjRQDEJDBORtUoBJJalNIDDJGU
   F/FBxNTmCT3CoDjDQpCsF3BKtCE8BhBNP0D1CdgElCdoBjCqCJQTqC52BIDItPBGLtD3CFMI7HHBO5JGB7JzEFrLFGJvPG/
   K9YFOxZ5HwhnBmBFhBVyBdcNkBxBHEaIvPvKBvGDpE3H1nBmBULuBlBZ4BjBkBSlC0BMO/oBcnBPmBMGYtBkBZTIyBXLcxB
   M9G5GhXjBUiBpBiBlBGPkBGMhBeEKdUvJxGF/H9RGIRaNWlBEEWGhBqBLxNBOpIQLUbQHQD/GE3CtErXKxB5BlBDkCB9BOn
   BaiCrCgCT2C9CUYlNGH/fjCbDtBDKBTSgB/DyFnDqCGkBPZiB9CiE5CEmBXjB3P5ChQEErGE7B9oBJlB0C7CyDzBKf4CPYx
   B2B3BpBgBfJQ0B/C4BhBiDpD6BiCtBUI1DmEQjDciBhCnYFGlFBBlCBzD/sBtCKjBjC8C9D6DlDsCpEsDBZgBlC0CsC5B3C
   5D2HY9DlBiBXQ2E3BNpD+DSQlE8BiC7D4BmBhBuBxBrmBRQUJIZqBVMrB5KdnEGG/KTHMrRhBGHIYNjJDBzHlBrIeHRKQTn
   KxMMRIqBjBkBdJ9SSTQM2C5CcNMXWDnPeBVEEEHgBTG1J9B2BEQGjIFBjEzJnBmBNELUEdcUlBqxUpxUVmCxTHIG5OfVgCN
   tBEJyChDWDJB8BToCrC8BNPMSvCza9GBDQrExDE5SIIHLEEzIjoBZIG1BnBauBDIbMZXoCiBtB9BoDTnB0BelDJkDbLQ7C+
   D7BxBgDtDIGR4CgC/cjNiBJlE4CmBiBFSDvCwBpBIPuCjBSFd2CvCUHZ6BBhBqBWrBgCreiBTBPHiBbOJYKEjLHGE1EDIlM
   mBeNINta1CB3GOP9LlHQIbiBZQHEEQDH3QBIErhBQHDIGITIO9FSNOjTE+CpCkCrCarB8BxBahBmD7ByBnC1EiGalBZsCVx
   BwBKLZb0CRjCamB+FhnCF7FxFpCIHJIDQRIG9EExEtJBnFGNrJEtCWDEPMTzOjDHtFBhCBGjZBFjby6mBH5CyDbBkBPZBgB
   ZhYBpGGx1BOTwBXREIjBD2BcTkBjBOef/NhZenBkBFXIQK7F/fYROEZYTUPLGTvVjTGPcfgBDVKJQH1MaFKt5PyxPFFvGxG
   xdSWvDEe0BjBS3BGecvBUqBwC5EzHhkBDrCT4BjBJcKEDtBKwDxE0B7NHEDtDBjQMQRJcJh1BLhBmDlB5BqCc3DkCoBWxDD
   gCxCsDKrC8BiBxFyDmCpBjBkBkB7BMnBZuB0B/CgCoBjC1TnFGEH1FEEF9zB4BvFR9DqDMKF2CoBrD4C3DiCWrB8C5BiCGN
   5DEuD8FhGTjBuBxC8DvDmCrBrBmDnBchBtjBIqBpBiBOdXyBPQLIReVXpOD7LOXBBIGLQERpSDBKMKPFaI9IEtHtKQMHENU
   bchIBBIjPDOEpUmBnBIJILaMBJhNNEKLQsiHlsHxHDEnQnBcmBjCgCThBsB/QFHE3S6BdIiBTjCUqBfMEGgBtZrDHI/DGED
   OD3HF3TKEUZUG9HxDHEGGFltBtB6CgBxC4BMHjBsB5BYkC/CkDbHyBrDyDlC+BaPRrByCE5CyBzCYhB6CMhCyC1DYgEBPET
   9BPfsCbrBlTnPZBlBzG+G4BKNUdQUZdI2BGhBGjBIbamBRuB3COoBJDhP1KNPUXBBoBfMIMxJDEzEFKlOUe1BGFB2B3B0BD
   JlBsBUF3BpWdjErFOOdeFTxLKJOpIFDET0BLMMPZBoBGLMRMFjRSaDLFcB3VIESHnMKGBPaPtFBHUBDK/UcBKxBoCxBjCmB
   QhBmBLkBlC8CrC+BGLvB0BPatBGRuBD+B3C4BmBvsB/CEFDnPGhDjDFOvF/CHOvEE9EERFESMX1IrFetBFDBGtMgBDHBOMZ
   DcXYtOxDEPEEpFInCZIYfEMSKP/YGFDSfQQDZIE9X/E3DBq/mBUHFU5MrV5K9oBiBbJcITJqBxBpKE5aYXWMPOThlBDDLcE
   ILjBeLGhN5bJSGbMGKGTMDJlLBGRzHGEDIrGhHheVmB9CkBjBMVmBJQ6C10BEOEOaqDzDvBvB2BzF3EIrCrSWDTBHmBGEjB
   tFhxBjD8B7BsDrD2C9BfR4BW0CjDgCHDxCOqBEJ1BOUqCjCSESBS9QEDhFFB5BE5DEFt6B7ByCnCYjBO2GrGQgC3CmC3FgG
   RXeGpCiBQuBtC+BjC+BFGphBIIQ7BuBBTRWIPmB1B6BTnBBjMB1MIBJQLEpR1BLaGFXzGpH9KGHXWRQIG1I1CnLFHMENBeH
   GrUXKJaJSLBVeBnM/JHE9GDIKLtSJHWSfYbhBsCrBSOdoBNlPDFQBhUdWYlBBcMbQJPwBHNUNhBE9RvDBGtD7D1DElEpUYP
   VKWJKPGJiB1ElGBB9vBkBrC+BLbUyBL7BoChC+BZW3BsC5BrBoC/BNiCjBQ3CuCUUhBNtPDEtTaPKEWQpBDgCb3B+BVBX0B
   fPGkBpZPTIBQTgBNOXIcjN9ODfDByBtDiDMhByCrBFNtBiBXrZBGpGQFEFxHDtDD3IVOPJgBLBHkBd7HxHSNINGIjUFDVnH
   xDDB5FIBKDvZUuBtB0BR1GmEHkCPkBkBpE0BgCEmEjFoC1CmB2BG5DmDjCsCzCfKYuBSEcVUM1BrqBhBgBMBKRWP3O1CtDN
   GxIGI3FP5DOFjPMPDpH/EGQEXcNEGjNLYN1DHEG3D5EJDYDINhBEGuB1ByBV5ZeRGWpBaMTmBRLxWGBtCEvCBnCvB1CwhnB
   EIDKR1c95BQBQGEMHIDplBGMF1lBSZgBRMERE5ErHBpcpLGnVIvgBeN1CQJEHWhxBOOPQHxJErDnCvP17BRsBnC6BrBKLIw
   BXMNmBpCKoBmBtCasBNLxMjF3Fl8BoC1EiCdQhBOESnBsBJLxffUTeXehZMBvS1BQ4BzBFHaThGBBIpH9LJBG5FpE3MWNJE
   GIUvElQTJQBWlBaJLtKInLEMDKLnGDBnUT8BbEKlB2BtByBdNOGUJRuBB9BO7NpUdLgBphNihNe9BUN+BlC6BVMbW1QzDEE
   tHGzD9YRPGMDY5CjHEDtyBIdvBmBVsBvByCxCWHwCJZvBwCGkCtDPiBNXH6BhCiCLIaIjCSdxMrVqBFvBsBKZKNe1BOETsB
   SpBLuBDRQJhC6ClYGRDFhB4BV1GDEnEB1SOGMaLtBoBFFeLMGrBUNpThCDEGrCEpGrH9NELIKM3PIpUQzLjGPQGLDKFhgB+
   B3C4EegBpDqCHzB8CNBdZjCoE7BdmCGIIjCLH2BIJHxBmDV7mBQRODetPDKnHEQJKhINMDEvDE5B/EFLEKGjOLBGREIGHEv
   GVGhGSOFDEGJDBGN1L/DEHM3EjFbWIVMHE+B3BGdnYbrCkDSBDNSpBIBMQRIy0OvzO5VEHlCvBjBhCHpCEEjD3EgnnBKBz2
   CHMFFKttB3c5SBrV5KBz2BNbBFQLMsBlBrxBJQMRDQvJtE9PBI5+BaHnC4BaKBfoBQhL1GjE3/BJBaHdOgBBM1C2CMlBtfG
   OTOxXjUPYXISJNjFExUPYUFHF3EtB9CrNSpUZNBYNDE3JElL5bZiBNEbiBRDOFV3iBaLZYTIedUKjWGnEB5H3VBG9IEr1Bj
   BOFEgBDPTIMXFOIqBJ3BjF6GEN1K7XEKQfEMOnBgBiBPUzBsBVgElDDvCcaYrXSHIOTBSheIKfIJjByBZDcajBkBfSWtBDI
   vQlDnCEEtGLGG3VLGUEPNDaENKXsBjPBBF5djBBFzGIDPM1gB0CLpC6BDqB7B0B3BaPkBchBLmBnCiChCeHXkBD5iBBGjOn
   CFyxc5xcQJrEEFtIDOFQLSFjDDIDjCrFBBrGxIMGpNKGHUZQMDEzL3B3CKBnCXpBDE3HEIKDaF1B8BbYH9ZUKMhBiBbIWVM
   DVQDnTGlFjCErBdLEEEnCRkinBBhWhG5LtvBDQBFD7iBFGtD1iBBBnoB5K9U3jB3wBRIKFDrHzFEhQxgCQqBJPenBIa1B6B
   GhBjI/E3F5gCbQWpBWBBLmBZSbjeGIMF/JBGEGziBOeXlFzUxWBO5C3SGLMMNjJtLB1cRIcdhLG3YEFSNSVSDalOExDFhDr
   EBzH9VG9IIDv4BLKqBPNeIpBLLiCNHQY9BWRkBH7hBORcBjBFEMWXUVS/VSBKTMKJK9C9CE/DzVSDWlBFGUTKgBfJ3OnDEn
   C3GBDlKGFGjMVMUJXtE/IEGBFhG3YEhHIhjBwBPcvBWxCciCZiD5D6BTzBYekBTejBpBrZ5FBrQvEDBKG5IHEtCBB5HIHOv
   GGGFzIEKlGBlHMfSNUNGNKMGS7KxEEHG1ClLBYGLDKb6BFpBiBIXiBXQ5ZTROHwBdSbJBgBmBRBMQ3BmBPNoBTLPgC3SI9C
   3DhDlBBXRBBkimB13BFG/iBjmBhoBBtSBhNBvjB7xBEEG3MxQMB9gCIOGhBSIB50CQOPIIhBWNMENMSbjdBnJpNE7ThfEnB
   9C9NDBGpClTGHBKJxI3LGBzIjVEDIGxK5YFFEzTpEzHjWGjD5FBx7BoCDI5B4BWbJKNgB3hBUBLKF5UFlF7DxWTcVMDDLhk
   BvNDKpNIBGFDlTrLGrHGIBvlBPyBpCkBJuBtBMvBgBayBVUfNPKyBdkBjBYIfuB1BYvdDE9UBzIDjEBjGDBKjGB7IGVcEP9
   NDIMGXcJTYzJFKzEDEzPIkBbZ2BvE0DNShBIYrZOVQYLSVJaPboBTQPLWJ3BuBoBfBjPDE1EEFEzEG5CJGEKvDwlnBE9VE3
   iCOBzoCEnoBHjS3wB7xBt+CONYPl0CBLGBKBtdIEpWxZlVrW5VHGpyBE9JvZIBFMN/L7GpH5a1jCjBKQHQIbNcERYNngBaG
   JHSd9BlSKJI9I9XEoDpDBpZH1J9NGjNIDxeGBnHroBKMcnBEaRgBZYnBgBnbEEjVJpIjClIpGIOvJGlOHRGGEQJ7IvEDBGn
   CvBxNeEfUJBMIrZELJLFJkBNGSOxBsBBe3BwBK9B0BzB4BvMjC9EFE7CIDtB5BtBE7C0toB5gEELrqBzdBxoBKhS9iDELKx
   +CIBnQvkCBBM3cBzIrNxVIHGrZ/DvoB9H3LBreJIDEzJI/Z7LvDtlB5Ix8BBGQLHrfKGHM3U7EE5DlYLGHEOrZ/XELSGLBx
   MDpepwBHOBHSGFBIxvBnKtIEjGxINlPJBSFQDERG/HxEjBf1BEhPDUJYObMMIGVQpaUXKgBJXYbTiBEG9BiCPxNzDpEGEfx
   CzCZsmnB3V9kDE1I1d1oBtlViuUjrBDBpyBKhHpVriCBI1LhpCEvc/VED5uBnWlpCE9iBt9B78BLQFYTFjfDKJlUGE1I7YD
   II5LnN9X3MExlBrqBcPONr2BB1DrlBFpMBBjTLSOFGTHcD5aKSaPZqBjBsBZSXGeTPEYJpNbjCBlBrB3BEEZXjCEGB6pkBO
   hoC9R/rE/bBpiC30CDKFlcvrBT/uBlW9HEnrB5iBjPnuBr9BpfEGrBx0BBxwBBBIhyBEJxqBIB3nBhGIH/H7BxnBtHnIzQH
   EKKDjaKRKFEMBPWGN3J7HvC7CBBmqkBzlHzI/1CBGFv0CncnI7yCB/V/yBD1InaGFGt0BBpmCBBhzBBDEnIxZB3wBEE18CE
   DDDrtBxS5OxwBLE7ZDFEFE/InFnB7DhDFEE4lkBv0MxgG58Fr3CnP5xBhrBHGE1+CnhBEGH9ZElOnBzJ6zXIjpGl3EndED9
   1B7P5gB/BjoEvSBvFpJzExLDB5LhvBDhTk0etxExwDpiK3lEz9CGBv+CErM1uBi/VjiKn1CnuEr/D7jBmkUr/R9gBlaq7WB
   zjXzNsD9EwxTvjN2+EqhYt5DplO86Qu6ajBgBRXUUdaYjBgBRXUUdaSjBgBRXUUdaYE5BBDE7ntDz1iE6m5Fnw5Fr+c0n9G
   wphBzzY2jR62NxvpIjqgBiq7HtpjG8urGz98G6oiHyvIsmCnlzHtngB2wjClx0B+qsB21hHj0qHsuqHhyuI11GqoiBhrK+5
   S2uqHp15G29xG39xG0D6mqGn0qGm65GnIwoOnpO71jB0ywBltmB74iH8xiBwy5GnlxH2kxHpp9G5vKwhP1kRm6PpqWirMkg
   /G1/Vrj/Frubwu1HL33lB42lBLDsvKtvKlt8Hov8H9C/VsV/9YgpN9+mHm7rHi3G1BrBxH+F5DpCX/0U5yEmmZ5yZrwyH+g
   sIx97Is56I/4MtqoH6ibvpb0r2HhB7p8GwxvG1l1G4w3Gz7F44Ji6Q+9C3hvH4wyG4zW1sHNtz5I8y5IBthhH5H8ivGolSv
   w7I4v7IVFx/P18xH0hsIlka49PHnoMigPp7EsiC+yMnuoHg77G1g2HykJ86sHho8Gqm8GrmO+0N3yInwD+uMrurIg+uBwh8
   G+MpB+vGt2nHijE0yoHx5nH9m+BqyxBk1oH2lEj0Dv+PkpPlC3FjthHl2Tyu9Hlu/Hm4uHhg1G8n9GrpI57lHu+lHRimIDj
   qRigRrpgB04hBjwBkBGxn6Io0qJ3iuH0w9G9l1HwzqH5hC00MkpQ586IypqI/i+Goh+Ghl+G9wX8z1H985H055H7E00R93R
   K/18Gk08GnwB6rC5glJytvBsq3GmjvB73Rt4Ho+Yr5bp+zG2h+GktC9zgH84oG6zVp45GlzvBxK+0qBog/Gji/G0En/qBsj
   gItr1GoV6t+G3kqI25pIyE83RlspImz3Hg3R74R98Mm5M7sqI8klBg9zH34tHg+wHr4vHsj8Go7FrqEjhF6gFjpvI2g9Ixl
   Et68GgjzG14Cnt8Gv5fwiqBm70GuF8oHpvH9z/Gkz/G17L27LhpgHlonBgunI62Jv6JnGL3J7mgH7DwygHP7C71gH2+gH5R
   pySgtlBntoIyrUzS6uvGkllB34B3mR3lGshGJjkzH0+b8y8GgvCxhIyyFx8hHy28G1O74yI04yID4lT3lTj0E59V+wanrxG
   lt7Du7+K/8G3olHig6G70kIyriByniHxxiH+wiHzlchrrH6vnI78Zrv7Hgp1IkfwlQhvqIuuZ74oBiplBmpqGvs4F14jCy/
   0InlDj/4GqxvHnmC+4Dt1QnioHok3Gkzd7lRLd9s0HZnsYg7iIo8R97EnsD/rRmuRn2rKq9kCk1mI84Hjm6GgtyG89C5gyH
   y1L6ojHz80I/7G847I+pU7k4HgM+pkHxTj8BoZ54uGolvG1q6G4p6GvzlHkqlHlnzHy8nIhiViEr53G7mC625GzvF3q/Gmi
   rGvn0GhpL6j5HHr5XshtBn9Uo+UrvVx8EjxtHM+pyHyBe9xlH0slH14xH0g/HzpN0vSh1rH0k5GFqgDhiqHy+mH99lHBq7l
   H/1lHB21lHzi0G+g0G931Ho31HBx87Gn/Jl8pB6iqB10Q+0tHjz4Go1nGmqZzpuHpoDuvnI9sXv8mHqmoHRM1mtH/xnBux0
   I+uRxzR7iD3+R4jVp+lHz7co0iIjhmH+olHzCntwI62wIiLzwmH6smHE+8VkzB1j+H6r9H3iWpbxuwI+0jJzjTjGw/WvikH
   umgGotZx2M/lmHgzKsu7G7rmHummH2qX77VtxBntzIg5qJ/wXrgvGsk0GtlF9Dxl+Gyx8GrimHuybl6KyhxHhuOxzzH03nH
   1xpHiypH1Fnl8GrmS/lRwv/H38K86Kl0oHwv8Hvv8Ht+Bv2DawjGq+iIrgDtkoHg74FrnrGy2GmwyGy1L7uiI3HzEslgI2D
   /RvI1ntH2vE5+Wg00Hhk1H86uIptNhYhhLlvjImvuI//nH69kH9ylHu7iH83F+7Jz7qHolgH4uc/oclpnHuznH55yGr6Vyu
   9H1pnB6qSvB+gZriZ3/wIsjqJnmZp6oHk3oH7roHnM6R0E6D1Yi23Ht33HBwB5pQm54HlDxCuC1ERBR49X6xB38Z+BhuoH6
   0oHzB8rLjsLnCmtKxszHuhpHlhR913Gs5oH7ypH58CMymsH7itI4ytIhVnjR8iRqwMjzdgiR5xQnshHw9xHjBnzrHwrwHv5
   EDmga9+4HwjkH/yDp0BvKBvvqHvggB+z/Itx/I6tqILhKsC/osGn/uBsm7H/Hx5mH4vV5zZkgyH+1XjvpI2C7GqgrH7BmxF
   lywH8+qHz4oG6ujHp4ahl6G8k6GjltI4mtIoGjJl0H80H6zen0e53Ps8UrlFgzVxzgI8yEzxErxgB0k4I5r4Is25Bu9xG/r
   yG2nyGsCpD17sI+o6Bqn/Gpt5Iwy9HyjPI5BNnhtH+noI9gnIs4rHkThUrB7EzCpCG/BN932Hs22H91Fw/kBxx4II8m5HHj
   BpBlt8H8z1H1jmH/Nk2Z+vzGPzBkpJh32HystHn19G8v9Gp7oIHwq5B8svGpB52tG3pby0wHp+HvBXj9Ow3OjruH0wuH5Fo
   I11+HqlzHqzDtqhIyqVwmdup2Gz3H+/P7nIttvH2rvH35gI8/gI5Gg4F3vhI+n5I7xdt0rI0zrI"

/-- A pair stands for a letter with a mark in four cases. -/
def chars? (number : Nat) : Option (List Char) :=
  match number with
  | 1133 => some ['Ê', '\u0304']
  | 1135 => some ['Ê', '\u030c']
  | 1164 => some ['ê', '\u0304']
  | 1166 => some ['ê', '\u030c']
  | number => (pairs.char? number).map ([·])

def pairChars? (first second : UInt8) : Option (List Char) :=
  if (0x40 ≤ second && second ≤ 0x7E) || (0xA1 ≤ second && second ≤ 0xFE) then
    chars? (157 * (first.toNat - 0x81) + (second.toNat - if second < 0x7F then 0x40 else 0x62))
  else none

def front (b : UInt8) (rest : List UInt8) : Front :=
  if b < 0x80 then .ascii b
  else if 0x81 ≤ b && b ≤ 0xFE then
    match rest with
    | [] => .fault 0
    | second :: _ => .pair (pairChars? b second) second
  else .fault 0

def decode (bytes : List UInt8) : List Char := decodeBy front bytes.length bytes

end SessionGateway.Text.Big5
