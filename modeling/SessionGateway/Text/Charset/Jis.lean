import SessionGateway.Text.Charset.CodeTable

/-! Two Japanese sets of characters, by row and column: each row has ninety-four columns. -/

namespace SessionGateway.Text.Jis

/-- The basic set with the extensions of its vendors. -/
def basic : CodeTable := .ofText
  "hgYBBzwnDDohnD9hnDBH+BumnDBy+X3o/Dyp/Drp/DpKqKmknDBkGB4JztPytPBBpPwuIM9vvD5CjC0zuDtzuDuzvDEcBFB
   1uvDBsvnDBrynDD7BDs1nDBBBBBBBBBzvnDD6l/DrC/Bri/D8ruD3ruDDyruDB0ErB7gCGi5Sj4PB/MjuvDkO3NB6NGFHrB
   0n/D91SE2DHEQEsCElBEVEk4Ct9HioHGBD/nHAAAAAAAAAAA4gHF1HBMB0FEAAAAAAAAGBz7uDihvDD3CFAAAAAAAAAAA5B
   pI5GiRJzFgBvBBkFlCiCvBWBAAAAAAAkQ4P9jDGI2kDB42PAAAAxzSAAAAAAAAAAAAAAAhysDBBBBBBBBBAAAAAAAPBBBBB
   BBBBBBBBBBBBBBBBBBBBAAAAAANBBBBBBBBBBBBBBBBBBBBBBBBBAAAA0xnDBBBBBBBBBBBBBBBBBBBBBBBBBBBBBBBBBBB
   BBBBBBBBBBBBBBBBBBBBBBBBBBBBBBBBBBBBBBBBBBBBBBBAAAAAAAAAAAbBBBBBBBBBBBBBBBBBBBBBBBBBBBBBBBBBBBB
   BBBBBBBBBBBBBBBBBBBBBBBBBBBBBBBBBBBBBBBBBBBBBBBBBAAAAAAAAs2WBBBBBBBBBBBBBBBBDBBBBBBAAAAAAAAPBBB
   BBBBBBBBBBBBBDBBBBBBAAAAAAAAAAAAAAAAAAAAAAAAAAAAAAAAAAAAAAtEBBBBBqBpBBBBBBBBBBBBBBBBBBBBBBBBBBA
   AAAAAAAAAAAAAABBBBBB3B4BBBBBBBBBBBBBBBBBBBBBBBBBBAAAAAAAAAAAAAhrQDTHPKPfSfP4DDXHPKXfSff4CdQdPmC
   lBYlBTAAAAAAAAAAAAAAAAAAAAAAAAAAAAAAAAAAAAAAAAAAAAAAAAAAAAAAAAAAAAAAAAAAAAAAAAAAAAAAAAAAAAAAAAA
   AAAAAAAAAAAAAAAAAAAAAAAAAAAAAAAAAAAAAAAAAAAAAAAAAAAAAAAAAAAAAAAAAAAAAAAAAAAAAAAAAAAAAAAAAAAAAAA
   AAAAAAAAAAAAAAAAAAAAAAAAAAAAAAAAAAAAAAAAAAAAAAAAAAAAAAAAAAAAAAAAAAAAAAAAAAAAAAAAAAAAAAAAAAAAAAA
   AAAAAAAAAAAAAAAAAAAAAAAAAAAAAAAAAAAAAAAAAAAAAAAAAAAAAAAAAAAAAAAAAAAAAAAAAAAAAAAAAAAAAAAAAAAAAAA
   AAAAAAAAAAAAAAAAAAAAAAAAAAAAAAAAAAAAAAAAAAAAAAAAAAAAAAAAAAAAAAAAmOBBBBBBBBBBBBBBBBBBBoxBBBBBBBB
   BBA/9IsDb1CsDdqClD1BL2ExBIP9BgBhGBBiBBpDoCAAAAAAAAuC+1BD0wHtrJ6qJl4IBBBBwHBNpUEE2yIduDF8BR1IsIE
   /J2IaBAAAAAAAAAAAAAAAAAAAAAAAAAAAAAAAAAAAAAAAAAAAAAAAAAAAAAAAAAAAAAAAAAAAAAAAAAAAAAAAAAAAAAAAAA
   AAAAAAAAAAAAAAAAAAAAAAAAAAAAAAAAAAAAAAAAAAAAAAAAAAAAAAAAAAAAAAAAAAAAAAAAAAAAAAAAAAAAAAAAAAAAAAA
   AAAAAAjnWznD5uC3jeg4gB1lG5gBmzE3ib86F0V6sEu6MtzBnkFyjExnPic90Mm2Z62IznHizButD4c1qWxnJm5N3F/8Oy3
   cxoNvhG+yW3yBnlC74Bhb93Wrc+jY2mMpClE/E3KxqDpkB5J5CvgBrtC/ChGlqCjvBp7DppChC1oCj7BjEntB10BplC9pBl
   1CpCg0euqCfzzEltU9gIm9LgvVhvFh7Kr5QugLrvE8Jn6M+ulB9iB5UnC9f1xBzxC59cwwVxvJxkCpzIb/C1Vi/hByBn5Dv
   0K7uHpgIryD03hB5+kBmqR0qWjoVx2Eu9J+gMqRxhL5/MhyLulhB6jD57Mr3DlrQ80fk7Dz7gBtqDo6J57K4yiBpdz3ChkC
   9qDlNhRnjC1LrDjzD5mBr4Br+Oo0Kz2CpgB5oE4zSx/D9R1vRgyc1lVxoBviEqiWk+KwiB34C7RnR/mBj0BjTh4B1E1sEpl
   BzXrIpE3HzWjsFpnC1FrsBxsF1f/rFmriBl1G7pD1sE6yRpzDtD1hD3F/tB7zB/iC5P5It9DrjGp5Er9J+BrboihBp/HpuL
   wnZt0F12C/gQi1M1+EygSha73BhvG/7GriGn6Oy+kB1wCyiCtGyBnG+C5yB9UzhBrwBjbpP1C/+O20JpRzBr5BtWv7Bt1B1
   8ChD7H1UzyDzCxClHvH6Bl5B30B0oa9nb7zBvG/sDqpIusbnyGxyCvkIjuBzqGvNhkCj8CpgF7kBjM2wlB9ExsdswZ3W/Hh
   jD/O9DzGmD7WjE7LxmBvgb4tazkBtsCxvB3tCzT9uD/yCn1Cj5GlQk/E6qd5MvlDomC/vDlWjlCzhE5iC7tF7jG34B1hBpz
   EhxD60W3jWgtJuzX3lI9sP/zF44fngCooB9sF7gCvdl4BKl4Bt7Dv0Chb9yHvDx5BvZzerrChPpNoge5UzsG/sXBorap4Ls
   vInF0ct1Z+qW8uO1yBltF3nB9kF3MzMz4KprCnjDizgBpinBokkBpyK9Rz0W21X+sLt2U9+EzyG/akze5sjBuwaluN3S64D
   8pV5rYg+GymTpQ5hBjjFy8E7MdnxFkmE/oB3braXlEtpBNziB3HnE1F5hBtY9mBjItKnkBpBnQ1sBpHmF12CvG1cvCn/BjK
   /Hvc5UzL5KxcvTphDxR9dx9B58BjUGhBlM7WpVixLi+Zl/C5oEnR59KlqB/OopNj0R/xGr7E/UlEHw1kBZlmC1iB3MjZ5Uj
   c1L3M3XjH7UjiC30BoWV5T3aQ1ZgjGp5GjFrGjwEx8Bs+O5pP/vBo0Oj9UxI3pBlMpVhFp8E3S7S6rmB5flIlpExgBlpDhF
   3mB7kDr2DhvBr7BjmDjlEhsBnLq8T7hQr9Jw5hBOvaxqJngBvhQ0kJmrIv1b01lB7iEv3SrzCr7E++gB5CjIzExrC7Gr3Dp
   2BjR3yC3epwC/ChHp5B14BlnDvDzFjhB6BvGg4LnnGiqPzoElazuCbxDtwFzjMt9B36B1xCw/RpqFn7QmrmBFB9OJhTrH96
   Us4UpI7VoD7F3GhcttB7lCrlBlBpOhC5BjrBzjBjvCrnBhgD1CjwCxwEZlQr0Bx6FzuB7hCvVlQ22lB5uB/kFnlF3uB8yGj
   rFloBnhF0zFhjK67V9hBlmCtrDvyam4W93CzBtvE50C3D7Y9nB9uClRlrC/NzdvpC/fm7ehmfoiiBxd96B4K55P9LllC5vF
   x8FtxFDT4lkBl6Hn0S+qYzsSqgV51Fnna7jDolkBxqO3wTu5aU/0DtwL6gHhuVohEwrKiyE7vSugN4mKxlLgiL1xV2ngBxS
   /4YvmCgnFxyHnhB43ejyaw0Hg4U3PlV8M9gCzd5rOgmOrchhDjChPhQgBjExgBvIjTlQldh9Cl1DttC7rBhF5EjL/Rl6B3D
   l4B1zB1FlQt5B5xEp3CwtNrxGzhGk2kBv5HnmB5zFxtTylXi7L9oNzVztB/xF3tB/uFle4xRmhMlUoB9DtR3L1Cn0BvWrPt
   sB7iCvrBrE1P9Hz6C5QnlE9CjIruC1FzwC8mD55EjuE7Yxc/ehZjxBpwB1d7bpmCszmB3lBnBvsF1KpvHpHnvCzHp0EnvCx
   8DzPr1FmgkB5bx9BvJ7nBttBlZ5oBzL3HhxB5wBzmBtqDznCz/Ez+FohE/D9wB7lBxjCh2B9kC/oC/Z3qDgooBG1H1jChQY
   h/C51CpB7PvgEte38EtiC5hJLlNxhDmzhB12mBsymBvNlDzGIlTlClTzBpE3JxE7CI1XvchF1dtdRjDrlBDfhIVtB5BhGzT
   zP1UhE9MnZtMhEhLxHnLrHnTnpB1M9DrM7GppDpVpeldhqBpClBrElFnmBmB3KDlK1D1JvSzvCpBzrBtYzF78B1K3PmjN5r
   NvqBxKvbnZ9TlmBiulB/E3UhB5sCjiFxuGzoOpvBz1H+2mB/O9gBlrBl0RtzLx+FjX+4V4jCtmJgmGqxK5N78c88ThuOylS
   9pW0zkBriEnHzV3Z7gD9VvkCUljBvHr0C79Dp2DnzCntMwqmBpLxnC5TxmEtHP5gF7pCz9D94B7kJr0EwrFg5Yt1DnoCunJ
   UhOl3KwjJp5B5Vpfx7BnuBnV3pCrzBppBpnBz0Qw0Pp5ChBtUg+Jj6L3qDpuCvkDj5DwjiBnsCviIzhMtzG8ud74Cvufi/e
   /0IzyLmgW3lEmxCxpQp2S+pnB7uBhkBl7Hze3OhO9oJjN3c5gLotVh1ZqnQiiUgZ5Kv6EtxDvbvDtkB5oC9+MvyIkkQr0S2
   ocz7XpqE6uS8mI0kM9oBzyB9qEtnCz6BhN3vBt4EnexVnnD1uBlhE7uCvV5pCv5Dq2Z9P/tCurOErGpE1rB7bOhfvP/gB/N
   GrDhV5PpbxC3arEzuBviBo9EllFb1Cpbp8BxBnJrzDngDvHtzBhCjBt3B/FhPl6DvMVIrCjGxdpB/+E/iB84WquOhLhFlct
   gFlK70Cxbh0B9tCz6BihBl4C9nBtR5uBxHjtDtCtbzqBzwF+0R9iZi3fxkWl9IkjR7/J42Z71dyukB7+CrgCzTvZ1NpuCr/
   GtIvrD3yL40Yh2UiyE+2Vj4LxqN6jTxuU6yD/+BsnY1mFn2D7/U28Tj9F/8Dx9B7uBvxF56Bnaw6El+E4ogB1tB/zExxFxy
   ExbtxP3HlWukIoyT92Bvc+rJ15Cj7DlsDruCxlC91DtP7kD5zDvjG96BnkEqokBpsBlJp5Dx4DhrDl3Jn1MuigB6wBzJ9yD
   zJ5ai/GlxI5fnjF7oGVt3B1QpY1hBjDhnBr7B3S7hBnuB1LjQzRhCz1C2yC6thB9Irf3fjlG1nBr8C5mCzcv1ClsFt6JrLg
   rfp0CrqBjhJ34FhtCoZ8hShyMs6Pxlb55DuigBhzGzyEt4ItzBxzDl+L0jkBn+GjkDl4BzhBzmBlK7Mz5DrhDozPnpZjR9n
   DiijBtDliIhlCvEh0Dq2H3xP/Z2nMtrPvEhwCglc/Sz5C3xChQpM9oZ/3B86iBvG7blEtCpK3P7FsBrOh1BrF7HxXhFRDRz
   mBLrF/I9wBJtFhLsB/oBJhCxEvQnS5XrBtoB3MhI9EnuBuBhE/lCzT3VnKnG1I/OhDrZjJ51B/zBpL7LnxBrJ3S5BvB9B7e
   5HrsCjMvRzJnoB3P+4kBGrBxD/zBxN71CrGvJrlBrxB5oBxjClmBY7+Cj3C5rB/uCplFzrDrkDvWgvelczwgBkhb/hDxoBt
   lDtmGliB1fn3DxvH24I3lEu3ZowGxK6Cj1CxxC5bXz9B1YhehoB1JlqB5K59BxHj0DrIrW9jBvI50B/qC3M1vB//B/IhnC/
   OtJ1azyC8kkBNj0BjnDtH9xB9wM8tMhxS3rE17C7pDzQykOz6HxzGuqDgnd40B9me+9dx0BlqDl4C3oErlCttDzyCp1B/oE
   j9DjR3bPt3BkjRrmT87ejGtgEjjBrgTlzE82Z19B/c3qNjlKwVm8G23M2wFmoEm+GrhRhzC+yH4mKjH3KhvD76CrKxe9yBp
   D1KpF7nB6N50BjqB5mC5qB3bl+Cv5Bu2T5gYjIhScvDj1CpX/7CNi9YpoKvvDp7K+oc9qB7T14B9G3XlmIzlB/fhf3sBj6F
   vL5H7Hu7KmqTjtI3M5J2ap5T26H5T3uH7jGq3MrpC5zCinc9mB1f5BlkE9FnBtcxkChCxmBl2BhCppC3H+Cq0Cx4Djf9Cm7
   FnrK7S5iB/G7VjdhK7B52BvsC/lBtSloBErjB6BjvB1iDk2kBtzBn7M7f+8P5hU/sC71BsuCmoTpgBtlCjwDn1BE5lB93Er
   rBE/3BvExIvrBxInClsE5iCtgG29C9rH0jnB7YtVrB09Bh6Cn0BhG7uMmrLxNw0Er8GfxmBtCqE3HjR3R/QuxEz+F/CvxC/
   sB61R/1T9Q15B3kB/OoDpsBvuBdnR/E9TzsB1qChpB3GzyBp4BrvBo0kBv8DtvEpkQj2Bl9DvxB8lgBhLld3S3vGztBrhC5
   sDt4P3mBykgBtoG3mY4vT18LykVn0aiyb5kJ4mElB9JlgEn0B1wUu4gBnkFfr0Jh+OoxattB/Y10DlW72CnnNiuM1uWn4Bn
   GstlBlrEv/BjhSg2R7XrV1J1SxO1sCh/C7e/+IhLpVt7C5iCv0B7C3lDhlEiwByvmB5wCtzCpgRhmL9rD56C6xXzUqtOhfh
   kDltDrEpD98E50BljCp/KhiFwnS5zNu8Dk1Yhxa+wZEoqC7wgBqKukbt8TqzR5uOptKsuT51Rg0M/0U4gZlnQwne9xC7qB/
   V91F5NnkBv2ClpBzHjlB/zDjwB1LhhBjoBxIpgDz8BrsEynenetnD9mDxOz+BpTj4E/4Koqdh8TsrQ1+DzUphDr+Cn5EriC
   n1CroBnyC5yE72E2+O8mD55CvFl3E30FwiLxKnqEslU9lOoxUpMtqGtkC5tB93BpbtvCl4M3gBnclxDpa5tD07X9gDnwB57
   H/WvlE+qfp0BpI/7BzmDhiB5B7ElJhCrDxE7jB9Rh5B1HhlEnuBvuB/fzzEpM9D7/Cx0B5BxqB7GtqC5tB1oBluCiilBjpI
   55Jg+Hl3Cp0DrvM1uDpsB+0U0oKjnI7LhjT55Bg8O9jNi8bv6H+kCtkDyrNx+Pq1Dl+TspFm3D/5KshVhjDugM5YpjB//Qm
   wFiiPx9eh9FwwnBhK7QxB7c1ldulc39Br3BloBvHvBzEvC5WxiBpIrJ9tCh5BtkGtQ5Hp9BtmC17DnO71B9cpKpH1KrzG0i
   Z8oEzIlJ93E/4DtpC70Kv2BwxSy8MtsF1uCxqV/JtlB6sgBlvD7L3yBjkBn2HnpIo3E/5LriBx3Em6T65QjqOj/B93C18Q8
   6iBjsBpiCjCpVnrBjzBpgDpcpsDzlEn2G7wEtyBxO/kByyNpBi5S3/Fw4DplB7pDigIvUjFhClD/wBn0BH9P7jBhWpJhzBx
   dvZn0BjNxHlCv/GgwEtJqNntBxVsnJpoL95BjdVGnY1Jk0VljZrQ1HziCrPjUxcnfXzgC5lBtblgBylC4wiBvgBtTr/B3gC
   x5CtvB/nEppFjzB9gD/wB9kGjjBs6atigBy8kBvlG3Bx+G5tCzuC3lBpiBmhIzxDh8L2qR7lB0mMxoU80I2uG3qgB4gNuyT
   n4a4yQu6Mt/CvlC9pCryD78Pt+Bj9Dm8hBrnJr0Vssc11b+xfyzB55B96Zp3CurN+tGh9X0+UjlYi7N8oEiiRxgL93SngEu
   oVk9O/6GntBxtYwue98cykG/+C23TruDm3LjvB5hE5rB96dovkB9oFlkD/rV6qN98E+E43OzoUu0I2X8zJhYr4B9RxyGptF
   slXxrIkrIh5E2TtgFzxHz0G/+BrD3Il/G4hDovBirUrpCliBztSihR12C3FvvD7/B++O9ySvzB9vL07kB/sHzhCpLpcvhBn
   1HwnC/nHmB9mHniBi0gB3+DxpBl/G7Oh/DxZz7Ms8Z7+Zz4EklD2pE45G8fjkG2varzBpPl3HjwC1vCl7EtxChQh6C70Btm
   F+wUlkEruBphG/4CrhLpuC0qmBn7Ug0Br0B9sCg0CimIwoG1iR4zFds/RtvgBu9R7+D5xNl1E29lB/lYqtOlrMrlNn0Dgnj
   B9d1oXv9Hy4jB/uBrSlIb1iFriDpW7e9rCfz/CtG7TtW5uE1+B57B/rDsuIjgL8lQxqT5Nm7a3yBhwHzX3elnG1aq8ZtCpN
   51CnwCpPrTtZ/CjDpuBnkDvPruE3PletUl/B3a7SrgE7gBjgBn8B9tD5XitX5iJg6Vp6F/2Bx9DhlC5lEntBpoE56Pk3b5k
   J+tTjlRj2Sw4dtjRnlB01B61QxI55Kn+CrvKs9T6nH/KpnRmpD7qKwzdp3H9qF7hB1sB/9CroC/vH5eniB25W/uCr/I5gCp
   wEhlIuDulHhlB/zK62jB1qF/hD/8DxrBjpO3Cv2F6uZt6H0uT1MvwE1U1TrWqiF1lGxJzX/lBhwB/CtM/vDvsC/uEziDzE9
   PlsEnUrE7IvqEvCupjB5vK1rDvrLlkBxQ73Fwuaj1Gp1X+iK5Nykb/1BzzGqWvsEjoJz+D74D9Hk5N+tH7zBlmF0+Oz5Rxy
   U64kBpjBxjB9jBhvEzM3qH66L1xRpF5Dp9M02YttNskZ3V/f1sDliDftJzrE+5Mtxb3kIjNy+M74NuwjBr8Dp5OhlBmoT/3
   S32G44EwzVzrE7zM/3EhiBj9IzBxH+ogBzwB/1DvtC3qci9jBzjZltIw+djlGnhEj8Eh7JvjDmtKo2Tn7CjsEpLnqC9xCjn
   Iz6Du8Z4C5wBhU1+BvRnlBlVEzD5W1hCrLtd1HjVz8CXvhCxzDx/ClrBpdxV/NrhB/gBvR/hB3lC3iB1iDr/BxH8xnBjF3e
   xcnvC7lBppC1ZBrmBpnCtGpLjQi0L94Vx4B7Pv1E3YlD97Cn7BmhhB3giBsxiBmkBtoB30CzgGjoBlzF9vC/tB/5Loyf79M
   4Ru4J3kDyvCv9G9sM2hXpuS8lJ9nK3mRt2BivjB7e7mGlXnjCsuL/uKq4Ft0RwgNpha66Znlas/Zw7M5Tp+BhvHjnC/3Cxx
   RwhgB/rXjlQyroB11J7xG1Kv+KiqYtrJ1ham1ej6O0uPuOr1VmtMtoL8rFnvDg3TnvR6nI9wFwkSxkD9/L7T33C30PzjDul
   a6oHwGonEvmB/Gh5IhtIvxMhqB3lF2whBlnMy5By3O33LrvK5Cr3Mv1Dmkdx6ChuM+3U1d3nI/zDt9B/rDpmBjoCw2Zr/Kh
   7b4+T64HomKrgjBkuethDlkNjjIk2bt2FplOpnMgohBmqCt1Br2D7xM3/Gv5I0qZ5rM+lSp/F14OvqEtoCzlCxsEo2X17Op
   qH20ZEh7Fx5E1pK1kC0gd+9Cxd5ZnQz9DvtBliBjOnlBlzBhN5oD4Nz6CBzf9hCp4Hlcj7CtEnG98CwzHynX8oFhN4U1ner
   rChtEo2jB98GuuCliB9vBjyC/BtM1hB7mB7IlzB1a7tBn5Bt4C1tCrHxkC/HvrC/ZxuB1lBvhD5oB64blRhqEhVhPvlJ/C6
   jJp8IpjE7To5Q3kO1oKsU69UrkI3tD5yG0vhBnwC19En7GtuCj+K/Fz3B+3brerlExuFzV71F5H9V5uJjB1uErxC2G8ub3/
   Jn0Dl4E+qQp8I6tRvrN1V52C/UjxBtiCn/M26NhrSw9nBv7ItlCtpQu9bvC3iB0rB16BjiF16EvuB1zCl2ClyB1W9mB1sBv
   4ClmEz6ClVrqCla83iBrzVu6W52B9/JnjDpgClmBp7Gj0Gx3Dn7CvkBgkVgiOv1Kr5H9yN23kBjFpF3iBzPxwFjmBr5Jz4C
   t5Eh2HloC9DnB54D1M6rc7sC81M3IpiPz/L0/UjYpUl5GriBpvFrb1nB9nCpzFxwB2uf5yjB6pYr7CxjO5Sl0E+niB54Dxo
   CzDlhEpmBvBr9Bpal1BzJhvEnhC5H5sDl4Ek2frymBgxStwDtqJ6lE0qd9lCp+awwPz1Q87FujQ9sDjlb01nBEv3mBs6I2q
   C0FymO73CxhF7rEAAAAAAAAAAAAAAAAAAAAAAAAAAAAAAAAAAAAAAAAAAA0kR6vIJpBNJLFFnBDzCFr+ek+ev4ZswRgoIfB
   BDbFFvBEUDKpBNdevBjBhF2C1CDOiB9CjBNR8BmBNhCmCtBfjYqUVkBTFWRWnBBpDbqBrBMiC0OzN1CPF+CgBjCY5DH3rL+
   qLMSjBKrBXPzBsB9CGtBBwBdnBPNPWVVKnBSBnBEELNxBIJEHBjBOPbr5Ug5UBHjBDr1C60CILDDDBbDKNBBPGBGJPPHjBJ
   pna6maHFJRLNROxBFHJLrBYNBjBWrBTYTXGfNGkCtBRtxeE4veBdQXXTNJFtgjB8gjBlBDFBZD/iR4iRFELJRXDDJPLE+yC
   jzCHwXvYVJz6C85CKVnBTLERDLZ9kUtsN2vhB5xJjvFigPOJZN3DFqBBdePcahDhE2BxBgDjBLQjCwBJWbXWhEsCrBoBNvB
   HiCFtB+BzBG3BZBxCJwBgBEZyBtFNlCwB+B7CwBhBBgCMzC3D0BkN1NpBqCFzBLfmDNrCmChCjDsBzB4BvBPiB/D8B9ByBE
   7BmCpFD94N46NDKLlDQsD5DG3BOTrBaMrBRPGbOJDIPLFDHtBVNEJJEFDLJGgVpVThBBrBoBJdzBtFyDwC7BTTZlBgBLLlB
   FbGBtDqDZvCbHpFkFhEwBpC/0J+2JsB3DXnD2BXdnCoCIWtBbGLDEZUPMfVEDBBJPLV14Hk4HNBJLLn5Q83QMGXGTGNJIdR
   3BgkF5Ev/EdnBjCagF3EB1EOeVoBhBrC3CoCqBB3CP/CjCDZUMrCadFoBnCBhBEV3BmGzFXPJDMhBHJBTHNFDF/gF+gFLFl
   CjBVHDVKnBDKKNLJLIjBDBJLZDLfBPJPJIE+N1PD6gHnhHFlBJF0vB/wBfMLMbQRjBfnBIc9JmKhCTDpE8DKWFbSEEnDLKI
   hCNFhBIG/BMdDd8CtCJZHLEHJfNFrBdEST1BBZEIbRIVFD8B7CBHjkgB8jgBhChCBLPENZOIBNENBFJDIHHLJLnFEkFLJlB
   HVRNHDgCjCJBDPXLHXEIVGRWtBMEPPJdzBpCwBnBQqBrNqLjC9DwEUxB4BlCuBOrBMwB1C/B0BxCZyBsBKNrBiChCmCzCEm
   BvCXzFqGtBuBtBMBMpB6BrF0CvCcgCqM5MRkBlCpHyDgBiBBRaLR7BuCW3BBxDUuBElCYIiBPRJD9CHgCBBhBRMWXmBGWjC
   nCIgBpCyBLiBNzBF7BGE7CgDMFahB76O66OxBIlBHOVGEDDPBHEPNFFRHDDBbZfJSJPnBLNYnBBF7DkFhBlEOuBnB/C0D7g
   B6gBnBiBGSJ6C7ClE+BFrDsCL0BL1FmBd9M8MtESe1CsD5CqBOrBrB2EGpF1C0CL5B2BRnCmDjF7B+CZlBftOuQhB0BvFPN
   yC3NsJGjBHkCnD7BScDa5BuB9CWjyO0yOBsjBtjBX5DuDGGPLI1BHwB9BEPRBDEDlhIogIbESVLEpBLTBtgTg/SHXXXFMFP
   LRGNBfhYyWQSvX+TBGyBlDYJS5BENFBUFblBJLMMnBJnCSfYGPa7BHLkKtKFNJDvBNPPBhhY2gYhBUVUEdvBDQTBpC0BxD8
   CmBjCE1BM6BjDvD4DvD0DrDkD3COEJXsDpBShCprB+nBvC8BtBZ4B3BpGyI7CTnBP/BiB7B0BRGyB1iBsfsEhEsBzBpFmIg
   BlIwD7DiDzEHsE1CgENlBmBhGqCe8CXjE6C0BdxDDiBRG4FlLG4B3BcwBzCiBsD1DwD3B0ChDIEnCwBvEKjCkBDjBsBfu+G
   j+GlBmCP6BtI8JdKQ9BzCTzBxB6B1QkRQY7BqF5GkDtC0C9BP9K+JiBhDyDrG6DjEkD1BUZ+BiBuB7GIlB6B7BBa/3N61NP
   EWMQjDcbsD/CfhBThxN6xNvBH1hYmhYxBEp6Fo6Fp7Ww6WKLNRMNHDtBBLBHETVIRLLBHFEDHJTJPXZEPK9sZurZVBNRE1D
   UZPvBVZ0BzB8BuBV9BGnD5C+BuBzBmBvBgDFZKhCnBuBhBpD7yNwxNYjBMgC3BGkCOtF/CgDW9BiCpDN9kBgmBnH3BYsFjB
   9B+CbrCemB3BuBcpDkCVgBpBH9DhEiEsBxFoBkC4BvEiE1E0C+CnCUnB2C1NmO1BzEvCmBhDmB3BuBepBmBjCBuErB5BoCj
   KiD1TiWXLhE8E9DmElEuGjH4C6B9IaGREkBqBvJuIpBOqCrDFhD6F5EiBGFpBZ6BpDWtByBHxBIoB7CDkBtBiBbkB5BEuKx
   KMNhBba9BjBrDQ5BjEsEXMMhDqBjBK/Ca9BI3EiBlDmCKuBTrBlC3GwHhBlBH1C+BJnBUVOjBXMbNILbFVZJEHDRBFBLJZ3
   BTHELVHXJjBQhBFGTHfGBvBGyuRvwRcjBONtBMOKxBfBx4Vk4VlBGPPILE7EsB1BoBJpCRiBnM8JzG2E8CzDP1BuB/BOyB1
   BZNcNXPZlBRlCJJoO9OFHDJHGBNEZEDNDEPGVPLfPRIEjBsBnBdMFHDVGfBoBrBEQjBLFPG9BgBfePMHY3BIPNTM/BBIJkB
   TSBvBDKrBPQBBDfKVXBGrBKRBLBBIJHDHDHHFJFFPILBrBHHBBPVRKXFHDFp0HqzHZEIpCMONBY3BBdlBbFiBTzBEMpBILd
   GjBLFLIBGXLTFDNVbfLnRuQzQsOxE2BjBW7BetBjBYJjCYJRuBGRJjCMclCUlBVEPlBEpB/BUPMMGtCJVlBTn6Sk6SHJLBd
   XjBJYDpCJVBNEgKhLTFQXnBevBBNnzS8ySRHVdGFGlB9ByBLdEMn8K67KFFDLGLBFHBHNFjBZMK5C4BBJtBcbzBzCuHxEmE
   hEQ/CiBdcRBMD9CMNmBdGgBNImD3DjDWVF4BjBtBXvCF+CE1HiGNXiCH/BWwB5CHFYvBajBdUhBMgBfPNJedNRbZnBRYRWN
   VEEIVHFJIrBOTLxlP6kPFDDHXKzBQY1DL8BHZWhB5C8BSnCWLgCnB/CW+CnDmB7B9BaYjBjBWmBjJ4JZ5CqC0BhBvCJNO5B
   UkBnCJxBGgB9BmBuBDtBnC/B4COHTaMP5CWQPMB9BgBElBEP+KvKhzIgzIRBFLGFBDSZB3JDVNBBDBHEHNBPBGhBTHIJEJP
   TEIRXFNYPDx7F66FBHVEZJFTLluMutMGNNLBFJNtBKdKXLDJFLVEGLFHDJDErBSNlB8xX3xX9CTaH0BrBKlD2BDzCbOX3B/
   zKs0KSpBGsFpHIUBbdJDWD7BYdEqEnDrBNJROJFDSdHHPEiBjBJBNlBBFFBFDFFFLlBDZMZxBEJIJJGLDB8DlELBLdJxBa3
   BgBpDDKcjCENxJiJSG4BvC2C5CiD3FE+B3BEdQtBYuBKqBB5GpBfYFaoH1GQFexDmED1CwB9B3E9ByC8B9CL4ClD2ErDfwC
   jB1BpBGoG1H7M4QjHoEjB7RuNcajEgEnB0BoC2BlETqEpJyGtFLiCzDamB9BWgBJfsD/HmCYlCBnBcWEyBnElCYiBQhMwLT
   1CnC6BRQ7B4DtCN9EoGpBsCNjBxDgBpBuBtBJPPU5BhBRScKX3BSrBdby/b9/bVPTjCfLBgCBzCQpBDuBxBzVyXxCTVFcKn
   BlCaDSFSrBSHqBhBzCVSHuBHgBrEExB6CDrC8BhBLsBOfN1JoGI8B5C3BeFfrwH4yHxBkBnBEYnDFmB9CGgBSBtB6D9DJEZ
   EfJFmBnBRGfNJHRrBI/B0CPvDoEfpBM3BsBRsBtBXdejBBfHBH3BROSaTjBPGR/CsCNJBrBFUMDnBgDlEGPGRIJJFNJJDRJ
   RPILFFPFDBzBDBTZHVlBOKdDPhBVzBUaDnDgBEWlCIDnCQiBnBBaRhCRYvBhBPaIZlCqDDpB0BIhDMlB0DpDONRlBvnGsoG
   JlBuBxBVFEMZJEhBaZFJRFXDHBFFB/JNGRHDDJZTXDPNKJFBLyB3B4nV/oVIlBYBMPjBQlCEUlCIBRBJIPGF7jJ4jJuEtED
   hFLHDbvBxCKKpBVKWdiB9BBaHxBXBW7BBedlCcMHrBIDFHShBVKuDxDehCKTJLGENERGFJhBUVHrBsBZNFFfPxBEiBlBXMf
   INORFKgBzBZPGXIKbIIPRJLBBvDFHTDPlCVIPJvJoJhBaBtBHXqBhBSY3BdEHkEtFBBBqE1DYvBDLTNNjjDujDfMHETELxB
   NDH5CD6pXlpXtCfNxBGzBXDVDHTExBGQ/BRHMVELLBPDJLRDOhCQBvCgCpBvBwBK5EQmBH1B6B5EuFXJ3EOIPkEpHuBGjDr
   CsBzEuBsBRSRtBMLhCH3BeyBzFKB0BpC5BBhBIcsBzBcS3BrDOEiBHRrCYTqBxBNhBetBJDKXkkBtkBJDLoCjCDFGlQJFTD
   DBNPELdEGJXq9S58STEREDLJHI9DNLBlBTFK3C4BDEDNXOhCVIDlBITBGHDDBpBIGHi4G94GhDyDnCVDDVMFGNFVLLRHBLD
   DONlBHHDDupiBxpiBLPXUJQXJHBXXGIfBdFDFhBhBj2D81DoxOtxOEzBI3CqBIrBLRRK/BHBBFEtDJDJbEFlCDvBLRDHRKB
   LKXDdBHNKVMLBORjEBZPBblCKDMQ3BBFBRIRbWoCtDjBXbIGFMtBSbKPFFEJDElEFXHdDDBTBFBFRKFLILHVjBDJFBDDBBB
   HBFjBEXGBFN3B9BiBbJBPBPXXTkBZRDBhBEDiBZxFyEEEpCEYTQODTSOzCoBTEIdtBsBnBS3BLNdD9GJHxBE8BvBFnCKxI6
   IKpCgDI9CGEPDpBBLoBERxBtBGnC6DV/BTJRjBIOIDXRctBOpCmBNDb5BBFtFHHHNFBLFKXPHdeF60D12DDBBHPDEFJFNJD
   BDDBBTBklU7lUXVjBXPDdKBBJBJGZMH9BNHk3jBv5IjpTs/NyoR57PAAAAAAAAAAAAAAAAAAAAAAAAAAAAAAAAAAAAAAAAA
   AAAAAAAAAAAAAAAAAAAAAAAAAAAAAAAAAAAAAAAAAAAAAAAAAAAAAAAAAAAAAAAAAAAAAAAAAAAAAAAAAAAAAAAAAAAAAAA
   AAAAAAAAAAAAAAAAAAAAAAAAAAAAAAAAAAAAAAAAAAAAAAAAAAAAAAAAAAAAAAAAAAAAAAAAAAAAAAAAAAAAAAAAAAAAAAA
   AAAAAAAAAAAAAAAAAAAAAAAAAAAAAAAAAAAAAAAAAAAAAAAAAAAAAAAAAAAAAAAAAAAAAAAAAAAAAAAAAAAAAAAAAAAAAAA
   AAAAAAAAAAAAAAAAAAAAAAAAAAAAAAAAAAAAAAAAAAAAAAAAAAAAAAAAAAAAAAAAAAAAAAAAAAAAAAAAAAAAAAAAAAAAAAA
   AAAAAAAAAAAAAAAAAAAAAAAAAAAAAAAAAAAAAAAAAAAhvGjpF3iFiM66GoxajvQ2oFtpBhjV+/Vu7D8xIxL1BHFrD5B3DSf
   OxDlH+BoC9BvCzC+CjF/F6BjHzBxDhC7CxCtITzB1BpCN5B7EhC9B1ChjzCm3yCmB9BrFtIldXtE3BEvkxCBm3wCnBxFvEP
   DLhErB3ZzG92Mw1MnBjDvInB1DjD3C7ruCgtuC1C1EBtBhVlBlD/EtC9HvCJnFU1E+C9BrCQvG1HlJ9U1G5DhD/HjLpBrCm
   DpCiBLhEeDx7pCg6pCrCNjBZ1DnB1hpCo8oCpFtJmJhElE1In0oC4qoC3qoC6noCzE7E1DsC5CVnGDjPxG5BzCwB1GzClIy
   BtCrBlCxCOT5DlCsDpBlIxM5C/DfDhC5FrCnGYvFuBB7skCqlkC5DlLZrGjvjCgqjCrEXZZkBpDmBhDHEJnDtCrBjG7GlRz
   BDIVh3hCkthCwpSj3S5CrBrBrLvugCBBuogCtogCiogCrTrBpz/Bkz/BlL9n/Bst+BnB1FwBrD3HpPzF5n9B8x7BhG5BvE9
   CjF3G9JLjBnr6Bgn6B/m6BB2h5B7O5RpCjE7CtBhCl03B6y3B5F3ChXH7BnG5q2Bq11Bp11BB+70BtHv00Bkx0BjBlLINdB
   WBhCTO/CLKjBVSyB7C/DiDB9GiBDUt1zBm1zBVcjFKuC5yzB2wzBgC7B4B7G0B5EjCvBzBxDnBFzUzkyB5E64xBjBnIPPTD
   DHjQbp8wBBqwwBpwwB+owB/K1IFxJI5BjCTpE/WMjsuBqhuBvLAAk2+BBBBBBBBBBxmvDD8NMAAAAAAAAAAAAAAAAAAAAAA
   AAAAAAAAAAAAAAAAAAAAAAAAAAAAAAAAAAAAAAAAAAAAAAAAAAAAAAAAAAAAAAAAAAAAAAAAAAAAAAAAAAAAAAAAAAAAAAA
   AAAAAAAAAAAAAAAAAAAAAAAAAAAAAAAAAAAAAAAAAAAAAAAAAAAAAAAAAAAAAAAAAAAAAAAAAAAAAAAAAAAAAAAAAAAAAAA
   AAAAAAAAAAAAAAAAAAAAAAAAAAAAAAAAAAAAAAAAAAAAAAAAAAAAAAAAAAAAAAAAAAAAAAAAAAAAAAAAAAAAAAAAAAAAAAA
   AAAAAAAAAAAAAAAAAAAAAAAAAAAAAAAAAAAAAAAAAAAAAAAAAAAAAAAAAAAAAAAAAAAAAAAAAAAAAAAAAAAAAAAAAAAAAAA
   AAAAAAAAAAAAAAAAAAAAAAAAAAAAAAAAAAAAAAAAAAAAAAAAAAAAAAAAAAAAAAAAAAAAAAAAAAAAAAAAAAAAAAAAAAAAAAA
   AAAAAAAAAAAAAAAAAAAAAAAAAAAAAAAAAAAAAAAAAAAAAAAAAAAAAAAAAAAAAAAAAAAAAAAAAAAAAAAAAAAAAAAAAAAAAAA
   AAAAAAAAAAAAAAAAAAAAAAAAAAAAAAAAAAAAAAAAAAAAAAAAAAAAAAAAAAAAAAAAAAAAAAAAAAAAAAAAAAAAAAAAAAAAAAA
   AAAAAAAAAAAAAAAAAAAAAAAAAAAAAAAAAAAAAAAAAAAAAAAAAAAAAAAAAAAAAAAAAAAAAAAAAAAAAAAAAAAAAAAAAAAAAAA
   AAAAAAAAAAAAAAAAAAAAAAAAAAAAAAAAAAAAAAAAAAAAAAAAAAAAAAAAAAAAAAAAAAAAAAAAAAAAAAAAAAAAAAAAAAAAAAA
   AAAAAAAAAAAAAAAAAAAAAAAAAAAAAAAAAAAAAAAAAAAAAAAAAAAAAAAAAAAAAAAAAAAAAAAAAAAAAAAAAAAAAAAAAAAAAAA
   AAAAAAAAAAAAAAAAAAAAAAAAAAAAAAAAAAAAAAAAAAAAAAAAAAAAAAAAAAAAAAAAAAAAAAAAAAAAAAAAAAAAAAAAAAAAAAA
   AAAAAAAAAAAAAAAAAAAAAAAAAAAAAAAAAAAAAAAAAAAAAAAAAAAAAAAAAAAAAAAAAAAAAAAAAAAAAAAAAAAAAAAAAAAAAAA
   AAAAAAAAAAAAAAAAAAAAAAAAAAAAAAAAAAAAAAAAAAAAAAAAAAAAAAAAAAAAAAAAAAAAAAAAAAAAAAAAAAAAAAAAAAAAAAA
   AAAAAAAAAAAAAAAAAAAAAAAAAAAAAAAAAAAAAAAAAAAAAAAAAAAAAAAAAAAAAAAAAAAAAAAAAAAAAAAAAAAAAAAAAAAAAAA
   AAAAAAAAAAAAAAAAAAAAAAAAAAAAAAAAAAAAAAAAAAAAAAAAAAAAAAAAAAAAAAAAAAAAAAAAAAAAAAAAAAAAAAAAAAAAAAA
   AAAAAAAAAAAAAAAAAAAAAAAAAAAAAAAAAAAAAAAAAAAAAAAAAAAAAAAAAAAAAAAAAAAAAAAAAAAAAAAAAAAAAAAAAAAAAAA
   AAAAAAAAAAAAAAAAAAAAAAAAAAAAAAAAAAAAAAAAAAAAAAAAAAAAAAAAAAAAAAAAAAAAAAAAAAAAAAAAAAAAAAAAAAAAAAA
   AAAAAAAAAAAAAAAAAAAAAAAAAAAAAAAAAAAAAAAAAAAAAAAAAAAAAAAAAAAAAAAAAAAAAAAAAAAAAAAAAAAAAAAAAAAAAAA
   AAAAAAAAAAAAAAAAAAAAAAAAAAAAAAAAAAAAAAAAAAAAAAAAAAAAAAAAAAAAAAAAAAAAAAAAAAAAAAAAAAAAAAAAAAAAAAA
   AAAAAAAAAAAAAAAAAAAAAAAAAAAAAAAAAAAAAAAAAAAAAAAAAAAAAAAAAAAAAAAAAAAAAAAAAAAAAAAAAAAAAAAAAAAAAAA
   AAAAAAAAAAAAAAAAAAAAAAAAAAAAAAAAAAAAAAAAAAAAAAAAAAAAAAAAAAAAAAAAAAAAAAAAAAAAAAAAAAAAAAAAAAAAAAA
   AAAAAAAAAAAAAAAAAAAAAAAAAAAAAAAAAAAAAAAAAAAAAAAAAAAm5uDBBBBBBBBB0BBBBBBBBBBxnvDD8NMktmD4xIVnRpl
   uBjpF3iFiM66GoxajvQ2oFtpBhjV+/Vu7D8xIxL1BHFrD5B3DSfOxDlH+BoC9BvCzC+CjF/F6BjHzBxDhC7CxCtITzB1BpC
   N5B7EhC9B1ChjzCm3yCmB9BrFtIldXtE3BEvkxCBm3wCnBxFvEPDLhErB3ZzG92Mw1MnBjDvInB1DjD3C7ruCgtuC1C1EBt
   BhVlBlD/EtC9HvCJnFU1E+C9BrCQvG1HlJ9U1G5DhD/HjLpBrCmDpCiBLhEeDx7pCg6pCrCNjBZ1DnB1hpCo8oCpFtJmJhE
   lE1In0oC4qoC3qoC6noCzE7E1DsC5CVnGDjPxG5BzCwB1GzClIyBtCrBlCxCOT5DlCsDpBlIxM5C/DfDhC5FrCnGYvFuBB7
   skCqlkC5DlLZrGjvjCgqjCrEXZZkBpDmBhDHEJnDtCrBjG7GlRzBDIVh3hCkthCwpSj3S5CrBrBrLvugCBBuogCtogCiogC
   rTrBpz/Bkz/BlL9n/Bst+BnB1FwBrD3HpPzF5n9B8x7BhG5BvE9CjF3G9JLjBnr6Bgn6B/m6BB2h5B7O5RpCjE7CtBhCl03
   B6y3B5F3ChXH7BnG5q2Bq11Bp11BB+70BtHv00Bkx0BjBlLINdBWBhCTO/CLKjBVSyB7C/DiDB9GiBDUt1zBm1zBVcjFKuC
   5yzB2wzBgC7B4B7G0B5EjCvBzBxDnBFzUzkyB5E64xBjBnIPPTDDHjQbp8wBBqwwBpwwB+owB/K1IFxJI5BjCTpE/WMjsuB
   qhuBvL"

/-- The supplementary set. -/
def supplement : CodeTable := .ofText
  "AAAAAAAAAAAAAAAAAAAAAAAAAAAAAAAAAAAAAAAAAAAAAAAAAAAAAAAAAAAAAAAAAAAAAAAAAAAAAAAAAAAAAAAAAAAAAAA
   AAAAAAAAAAAAAxtBkBghBhiBH+iB3iBEno+D299DBAAAAAAAAquBJxBAAAAAAAAAAAAAAAAAAAAAAAAAAAAAAAAAAAAAAMi
   BEJnnQ+nQjnQAAAAAAAAAAAAAAAAAAAAAAAAAAAAAAAAAAAAAAAAAAAAAAAAAAAAAAAAAAAAAAAAAAAAAAAAAAAAAAAAAAA
   AAAAAAAAAAAAAAAAAAAAAAAAAAAAAAAAAAAAAAAAAAAAAAAAAAAAAAAAAAAAAAAAAAAAAAAAAAAAAAAAAAAAAAAAAAAAAAA
   AAAAAAAAAAAAAAAAAAAAAAAAAAAAAAAAAAAAAAAAAAAAAAAAAAAAAAAAAAAAAAAAAAAAAAAAAAAAAAAAAAAAAAAAAAAAAAA
   AAAAAAAAAAAAAAAAAAAAAAAAAAAAAAAAAAAAAAAAAAAAAAAAAAAAAAAAAAAAAAAAAAAAAAAAAAAAAAAAAAAAAAi5ODBB/BA
   +BAD5BA6BAAAA5BBBB1B2D3DWVG4B7BAAAAAAAAAAAAAAAAAAAAAAAAAAAAAAAAAAAnDBBBBBBBBBBDBAAAAAAAAAAAAAAA
   AAAAAAAAAAAAAAAAAAAAlEBBBBBBBBBBDBAAAAAAAAAAAAAAAAAAAAAAAAAAAAAAAAAAAAAAAAAAAAAAAAAAAAAAAAAAAAA
   AAAAAAAAAAAAAAAAAAAAAAAAAAAAAAAAA05BzEArBAXAdGAVmHzHAnByIAAAAAAAAAAAAAAAAP1CkCtDTDJTGRDoF1FqHvI
   0GAAAAAAAAAAAAAAAAAAAAAAAAAAAAAAAAAAAAAAAAAAAAAA8DEHG/D1M8MHgEGlEDHsElEHsEEFE/EKKLAHDHGHwFEFEhQ
   gKOHOXDFHGPHGqHDEHG5PkIKwH9HHGHDHGLGyIEFEhJtGoGOPKO9GHGKkGwJ1JGFHGAAAAAAA2JEHGhC1M8MHiCGnCDHuCn
   CHuCEFEhDKKL3NyNDADHyDEFEjOAsKHOXDFHGPHGsFDEHG7NkIKyF/FHGHDHGLG0GEFEjHtGoGOPKO9GHGKkGyHDvHFHGAA
   AAAAAAAAAAAAAAAAAAAAAAAAAAAAAAAAAAAAAAAAAAAAAAAAAAAAAAAAAAAAAAAAAAAAAAAAAAAAAAAAAAAAAAAAAAAAAAA
   AAAAAAAAAAAAAAAAAAAAAAAAAAAAAAAAAAAAAAAAAAAAAAAAAAAAAAAAAAAAAAAAAAAAAAAAAAAAAAAAAAAAAAAAAAAAAAA
   AAAAAAAAAAAAAAAAAAAAAAAAAAAAAAAAAAAAAAAAAAAAAAAAAAAAAAAAAAAAAAAAAAAAAAAAAAAAAAAAAAAAAAAAAAAAAAA
   AAAAAAAAAAAAAAAAAAAAAAAAAAAAAAAAAAAAAAAAAAAAAAAAAAAAAAAAAAAAAAAAAAAAAAAAAAAAAAAAAAAAAAAAAAAAAAA
   AromBDBNLZHBHFFBBJVBFFTRDNJBVBHLbRBLjBTTZTBJBBLNDDDPBBBDBJFBLFBBDpBF9C8CDDDDFDDLBDBLDDDNHNDDFLB
   BBFBFBDBHBDDDDBBFDBHBlBJDDBBBDBHBDBDBBDFTHDbDTBDBBFFFDDDFHBFBBBHJNDDBDVBBFBHDDFBBHDLBDBFBFFFBuD
   rEDBDHHBBDBBDJBDBBBBPJBRBFFFBFJDDFBHHBDFDDDBLDJHHJFBBFBBB6B7BNDDBBBJHBHBDDDBBFBRPJHDDBNJDvBJBNF
   TJHDTVDDDBFLNDBBDFLHFRHBBFTBFZBDBDTLRBFNRHXDBDDFBBJPRBBNDFJDNDBBBDDPBBBPBLBBDBDFHDDHFDFDJBJHFBB
   DHBFDBRFNBBJDJFBDBLDBBDBBFDFNBBHTEbDLDDNBJNJJHBLJBJHHFLBHFDBDBDFFJTFBDJFBDLBbZhBNNLBDJDFBbBFLDd
   HDDBDDDBLVDDDFBHHHBLFDJBDBFBFLDBBHNHFBjBTDFNLDBBBHFBFBBNpBBNFBJBBHLDBFFBNDBFDBFDxBDBHDLBDBBBFXB
   RJZDDFFDBDFBBHBFFHNZRLFDFBBBBBNlBHFDDDDBBDBBDBDFDDDJTDBBBFFHDDBFdBFFBRHBFBBNBBBDBBHDHNNHBBHBKBX
   FBDDFBBBBRODRBTBJFDJHJBDFDBBBHBDDBHBRBBLBLBJfFDBFDBBBBDBBDDBBBDFDRPFDBDBBBDajBBBFXJTBHFLPBLDBDH
   FJBDJBBHBHByC1CBbFBBLBLJNLTFBDBJTDFFBfHFBBLBBBDBDBHDNFBBHFPBjBSLLJBDDDDHFHBNTjBBJBLBB5yWqyWHDBH
   NBFDBRHFXBLDDBBDDPDDFFBFDBdBDHFDPJFLBBBFHFDJDBHDFJVBBHBFNBDBDFRHPBBHBVJBFBDFFnBBDBHHJRJDDLTFBFZ
   JFFFFDBBDJJJBBDFDBHJDDNVDHJJHNBNFBNd5B4BDDHHPVRTBLHPTLBZBBBDFDHHDBDBDjBBFBDDBJFDHBXDNBBBBLdDFRd
   VNBHFFDBDDDFBlCBDLBHBBHFHBJBBBTBDJFVDBDBFHPDBJdDNVOtBFBDZJNJxBSBDBTFJHDFBFDZKPgBpBBBBDLFFRBHBDD
   JDPBBBHDHBNHJHHBTHHJGTBNHJdBNNLJDBFNBbOTFRZJQPJDFBDTDBBBBDfVFnBDBFDDJDTBBNLEFFBDBNDNLtBHBBLVFBH
   BBBHFBDDHDJDDBHBDLFHHFJFBFPFDBFDFBVHDNLBJJHQPFBBNXFBBDJBBBBTFBLBBDBBBFBFHDVFFLBFBDJJRLDVNBBFJFD
   BLHLTZBFHDDHFDDFJBHDBFPBLHFHDHBBBFBJBHDDBHFZFFHBJJFDHBBBBDBDFDHPBJBHBBDPHBFpBDXLLFBFBBDBNDJBHBH
   BDBJFDFVBFHBBXBLNBBBDBJDKNBDjBDBFXDNHDBHDDbHJBBDLHBBDDHDPRDHNFfBBBrBDVFBFHBJTNBHfPDPBLBLBDFFFDh
   BBFPBFFJBBBDHBFHBBHFTBLBHFBFHBDFDFFLHBHBHLDNBBbHHFLFDBBNHJJDLBDFBfBLDDHLDDDBHBJBJPDXHDBBBLBBBDB
   BDTLBNDPDPBBNBDDDDDFDHNTBBJJBBBDDBHDZBHBFFJDHHDFHBBJHBDFDFBFHFJFRDBLHDNDDVBNHdFHHJPFFJFFFPHBBVF
   LBJDHDDNhBDDBHJBBHHBHHBFBNBFBBBDFBBBDDBDLGRJBHDJIRBBDBHBzJkJBBjBYDTSBBDJKdBBFDNBBBFBHRHBFLHBDBJ
   HDBJNHRFBDXVDNJLFHDhBVNDBHPBPRLDLDJLFTBDDFDBDpBBBFLBB3D0DDBDFBRJDFJJTDHB1F+DJHDREJBDBBDPHJBJDRD
   BFfFBBBBFHBBBLDDDbDDDJDDHBHHRTFHFBBDFFFBPFDBBBFBHBJBBRFBLBDFBzBDDFFNFHJRHPBBBDBFHBBPBHBZJHDRHBD
   FDDPBDDRFRJBVFRBDDDRDBDXDHJFFHHPDDFHFBLBFBHDBBFBJRFFNDVFDFBDDLTDBBLLHBBFRBBNFEHHHBBLBNFJHBBTBJB
   FBDLBBLHFLHFBFLBJHNHFJHDJFNHFDJPBHFjBHHBDBJBFBBDPBHBJBJFTHNDFBNFLDLFDBHHBDDNLNBBHDJDBHBHVBDDFDJ
   DBdDDJDDBDTBBDVBDBHFhBDDbHNDBBBDDHDHNDDBDHDfFFHBDDNXBBkMtMBDPFFvBNBDHDPBXLJTBDDBBjBDPFDHDJHDHBN
   JDDBDFHLBHDLHHzBHJVHFDBPBFBDHDBBBFJBBHBJVPDfLLNNLBFDPHBBDHBDFBB3BDBVDDNHDDBRDDBVFBJBFFJBgBjCDBB
   HDBFBFBLHhBBJHBFBBFDBBDHJBJBBBLBBJBLRDBDfHTBNJHFBFJBBLTRFXJFDFNBHBBBRBPBiBrBBNDNBPFHBbBBBBFRNJB
   FFlBNDBBBDHPrBRBBBBHBFdDVDDBBNRHBBFBJDJFDDDPhBNJDJLPBJDZBDBNJBBFNBNFFBD3BLDNBBTHFFDJNHJHBPBBDRB
   BFDBHDDDFJFFBDLBFBFJJHBJPZJBFFTFLDFRBDNLbBLBFHDBDHDJBJBJHDFBHJBFJBDLTFDHDJBBBLBDDBDBDLDFHBDDBPD
   FDDBHDBBDFBHBDPDDFBDLBFDBFFBFFHHDFBDVBDDBBDDBBFFFNRBRDDBBBBBBBBBPNFBDBHDHBJLJHBBFDBFBbBHBBDLBBB
   LBBDFBBDFDBBBFBDBFHDHRBFHFJDBFBJHDBHJLBBFNXHBRBFFDBJNFHBBBFHBLDDJNBDbDPBBBBBFHVDBDHFLDfLJBBFDLD
   BPJFBBFFJDBDPNDBBFBDDFFBDBFDBBBJDBFHJBDFBBDbWBDBBHDTHLJBPBBDFZHNBPLBBDBDBBBBBBDFfHHHDBDLJNLDHHB
   JFFHLHHHDBDDBDLLJBBJBBFHBHFBHFBBFHBJDBBDDFFDHDBBLFFHPBNBBHJFJFHBDHRJLPBFHJBBHDHDHBFHFTBFHBFXHBB
   TBDJDXBFBHDHTDDBDBHDHXHXJJHRKBBJHHBFBBBPDDPBBFDHBDBbUHBBJHPBZWBFBHNLHTDDBBJDDHHFBLDDJBBHBHDFHFB
   VDDNNDBDZBJDBBBDFBJNBDHDFHFNDFBDJJDHFBDDFJBDHNHLBHDBDJHLFFLHDDBHBFBBTBDBHRBFFBDBJDFFPFLDDFBHBJB
   FTDFRNDHDBTFFDFTZBDBJFNDBRZVHHDBBDBBBBFRDBBLNNVHDFBFDFBHZJJDBJJFDJNFBDFBHBBBJFFDTDBDBBZDPDBFBBD
   DFBBBDFDBDBTDJJBDHJDBDFBXHVKBBLBBBBBFDHDHBDDNFBRBPJTDLTLBFBBFJFBBHDHBBDDBFRFDTbHBBLDBBFNBJFHFHV
   BBDBLBJHDHDBDBPDFLPDBHDBBDBDFBBHJBLBPBFRFBDRBBBBLBBRDtC+BFBHBDHHBFBbPBHDJBFNBHBDHFRJBDNDDLNDBFL
   FBHJLFJBFFHHFDFB7JEDBBHBFPFBPBBHDBBBNHXBBBVDDBBJBJJBHHFNPFBFJLBXHHDFHDBFPFBBPBDFBBDDBDNBBBHDLDD
   HBDDBDDDH3BHDNHHXNLbDPBHZBdJDFDBDBPZBDDBFFBHJPVBBHDDHFJHJJDRDFDLJRBLBBHDPTdaBBJFPDFFHXHDNfSDJHB
   LDHDBFFNBHBBFBDBHDBFXHBJBFHBLTDLRBBBJFBDJLHFHLNNDDBBDBFDBHFFDDDBJBDBFBBBHDDDFFDDBNTJJLDDHDFDNBL
   BDBLBDBxE0DDBBDBTBBDFHFDBJBBFLBFHBBxBPJDBDDDNJDBFBDBBRBDFjBBBNDLBBFR2IpJDXDBFJJHJDHH6GjITXDBDFD
   DBHDBBDHHBDFLFBDDHBHHZBDRPDBBJDFLFBDDJBHFHRVFJBBBJ1DyDBDJBHJDDXDHBBBDFBHHBDRNRBBBBFFFBBBBBBDNHT
   BBDDDHBFDBFHJJDBDFDZDBBHBBBFJFBFkC1CDJBLDJLFLFBHBPBDBBLBDFFLDZDDDBFDHXBFBBBHFBBBBJFFLBBFlBHJDDD
   JJBBJHDBBDBBLBBDDXBFDFDHFDDgGjHDBNBDHFBBFBJJBDDJLBDBNBDBBDFDPVJHFBTDBRPBBBBBBDBHFDDBBJDFHJBBFHR
   BDNBBHNBFBDFFBBLBDHDJDJDDFFBBJRQBBHDBBDBRJBDDFJDJDDFBBBFFHBDDDFBHJPPDJvBDBBFBPDfFBDTBBBBFBBPFRP
   BBHDTJNBBLBDBBDHLBBPBBFHBHDDFBFLFJFBBJBBPFDFDJBBBXHFHBLBFBJVHBBBJvBBBBBZHDDHDFFHDJBDPDBDBRDDDDJ
   BFLDLBDFDDDHBJFBBHBHHDbBBDBBFBBFFJHBDHBDLPDJBHFBHFJFDBBNDBBDLDZHHBBLFLBJLVDBsBlCFNJLBBBBDTBBJah
   BJTRDBFDFFBLDDJBNDBxJBHBNDDDHDDBFBFDKTBDDBHLDBJFPBHJDBLDBPpBBVBFDHNEHHHNHFBDFDBLBDDLRJHzEHFDhBF
   DHJFBHRBBLJBFFFDDDJJBBBDHFFBDDVBDJHqDpDBDRHFBBJLFDTBBBFBTDFBBBHFBTDBBJNBBBFBNFBDBBPBBNBLNDFJBDB
   HJDHBJDJBJBDBFPDFPXLDBLDBclBDJBNBLBBLDBDDDBHBBLBBBFLBDHPDBBBBFJBNvDFBFBBdBDLDBJHBDFDBDVFBHLFHBJ
   FHDHHXFZBLMDBLBFPHBPdDJHBJHHJXFFBDDJDBBDJBBFVDBBDNdeJBBDBZDBBFBDLoBnCYHBHTBBHBBDJFHDBBDDDDJIBHD
   JBDFDBDBDBLHBNHHDBBLFFLNJBBLDDBHHFDBBFLFJDHBBDBBBFJBBDFBDbBFDBHLBHBDBBBBBLDDDFBFBBBDBDHDBFDHBLB
   BBDLBBFDBDBBDDDDBFBFFBBDNBFBFBHDBBJBBJBBBBDBBDRBBFBHJDLBHBDBFHFHDDBBBDBBBBDBBBFBBBDFDDBBFBDBBDD
   DBHDDRDHBDLJHFBNBBBDFBDDBRBDBfBBNBBFDBDHLBDDBFDBBDBDHFDBBBLDBDDFFFFFFDBDDFRBBHkBvBFBBBDBBBBLLFD
   BFHBjBGBDBDHBDHBHBBLBBPdBDBBBNHGLDFDDRHFFDDJFDBBDBjBEpPBJLHHBBdBBDJFDBPDHFDNDBDJBBBLBFBBBHDtDBH
   DBBLJDHBBBDBHhBDDBBRZLNBDBDBBBJPJHFDJBBFJBHNfPiycrycDFBBTLDRPBDHhBBDHBBJRDbDNHBLDBDBPHFHJFBBFDD
   BRXBBDBHBFTDFBFBDBBDDBDFBDDBDBBDBFFBBHBDMLFVDFFBDZFdaBLDLDDFFJFBBDBDiBxBLFFNBBFBDBPBDBHD9DDBDHF
   BDBHFFFHpBDDBBFRFXJBRHBBFBBFFHBHLBBBBHBBBHBJBBJBLHBDBDBB1DDDNTBBFHBFDHLTBJBDDRFBBHHBHHBHBBNBHBJ
   PDDBBFLBJDBDdOFLBBDFFDN5EDDBFDBBFDFBDDFDLDDFBBHBHHBDDFLBDHBFDBBBBBBFBDBBBDDHFDBHLJDLBBDDBFVFBRB
   BHFFDDBDDBBBBJDDBBLBHBBBDBBDDBHLFBPBDFHBBJBFBDBDLBLDNBJDLDFBHHHBBBFDBDRHDJDBBDDHBFBBBBNHBBLHDBB
   HBHBBFBDDFDBBHLBedILDDFDH1GXJDjBUdLBHBBhBBDBBLDRSJBHFRBVHEFHBBJLBHBDJBDHFBHBDBBBRRDDFHHFFHHDBTB
   BBFHBBJDDDFDFBTXSJNDBBFBFFB5FBBHDBBBDNBNDFFLHHDBBFBBhBDFTTJFJBBDBBFFNFBLLBBBDDBDBBHFHHBHDBDFDBD
   BDDDBBBBXDBBBDFBTBHBBBBDDJFjBBBBDDBNFBBD"

end SessionGateway.Text.Jis
