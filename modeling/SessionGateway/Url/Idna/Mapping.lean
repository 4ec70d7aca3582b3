import SessionGateway.Text.Normal

/-! How the characters of a domain name are brought into one spelling: capitals become small,
compatibility forms plain, and characters without meaning vanish. Some are not allowed at all. -/

namespace SessionGateway.Url.Idna

open Text

/-- Characters beyond the ASCII range that stand for others. -/
def spellings : CharMap := .ofText
  "gFAB/HIACvIgmBCABxEFAC9IqlBDCB/HBACnJ6kBBABuwBDACvJ+mBBABvIBAB1ECAD1Iw4PvIBAD3Iu4P1IBAD1Is4PzIC
   sBBgCCMBgCiBvBBCCACtMudCACxMvMBACzMxMBDBCDFBCCAClNvIBACnNxIBHBCCACmX1NBtBBCCABxHBFBCCAB3QCABkNB
   DBCCAB8MBABCCCB6MBABCDAB+EBAB0MBAB2MBABCCAB6MBAB+MCABmNBABiNBABCEABmNBABqNCABsNBFBCCAB0NBABCCAB
   0NDABCCAB0NBABCCCByNBDBCCAB2NBABCEABCIAC/VrEBAChWtEBACjWvEBAC1V5VBAC3V7VBAC5V9VBAC3V/VBAC5VhWBA
   C7VjWBPBCDRBCDAC5YtXBAC7YvXBAC9YxXBABCCABhGBABvDBnBBCCABjICRBCIAB2iVBABCCABlKBABwiVDABCCABlMBAB
   qEBABuEBJBCiDABvkBBAB1EBABvkBBABhkBBAB1DBABzDBABpDBAB/jBBAB9jBgBACvrB8CBACxrB8CBACzrBgDBAC1rB6E
   BAC3rBuCBAC5rB8CDAB5HBABpnBBAB9mBBAB1mBBAB9EhDABoHrBDBCEABCEACz1B+DFABoHFACn2BlIBADp2B5HnIBABsC
   CEBqCCABgECCB+DCgBBgCCQBgCkBABQBAB7BBABxBBABZBABLBABRBABdBABrBCXBCCABrDBAB/CBAB9CCAB3DBAB/DCABC
   CABrDBABCDEBjIBeBgFB+BBgCxBhBBCK1BBCCABeBNBCD/CBCDqCBgDxBACjCJuHAC7EBBAC7CDBACgFFBAC7CH79BAC0BB
   gEAC0BBpBAChDlEBACjD3DvBABBrDAD2DLSCAD0DPOnJqCBgmOCABgmOGABgmOvBAB/B8XKBPjkCAB7kMBAB5kMBABnkMBC
   BjkMBABlkMBAB3jMBABniMBABm8kCBABCH0CB/7FDEB/7FtDAB1sOBABtkOBDB3sOBAB3sOBABp1NBOB3sOCAB5sOBABzxN
   BAB7sOBAB5sOBCB3sOBAB1sOBABjuOBCBnvNBABnEBABpuOBCBnuOBABhvNBCB/uNBABruOCABnuOBABluOBABrgOBABluO
   BAB9vNBCB7DBABruOBCBluOBAB3DBAB1uNBABpuOBABtDBEB16MBCBz5MBABxvOBABhvOBCB9uOBCBn7MBABt6MBCBl6MOA
   B1zMjBABx0NBABxzOBABv0NBAB7qOBABl0NBABzzOBABj0NBABh0NBAB7zNBEB3zNBAB3CBAB1wNBAB3zNBABpCBAB3wNBA
   B1zNBAB5zNBGB3zNBABzzNBCBhzNBABzgOBCB5yNBAB3JBCB7yNBABh0OBEB3yNBABtgNhC1EBCGACxjP39NBABzDDAB97O
   C/CBCKOBPJKBPLOBPJOBPJKBPMHBPJOBPRAC/Ht8NBAC/Hv8NBAC/Hx8NBAC/Hz8NBAC/H18NBAC/H38NBAC/H58NBAC/H7
   8NBACvI98NBACvI/8NBACvIh9NBACvIj9NBACvIl9NBACvIn9NBACvIp9NBACvIr9NBAC/Gt9NBAC/Gv9NBAC/Gx9NBAC/G
   z9NBAC/G19NBAC/G39NBAC/G59NBAC/G79NBACvH99NBACvH/9NBACvHh+NBACvHj+NBACvHl+NBACvHn+NBACvHp+NBACv
   Hr+NBAC/Dt+NBAC/Dv+NBAC/Dx+NBAC/Dz+NBAC/D1+NBAC/D3+NBAC/D5+NBAC/D7+NBACvE9+NBACvE/+NBACvEh/NBAC
   vEj/NBACvEl/NBACvEn/NBACvEp/NBACvEr/NDACjEx/NBACjgOz/NBACvgO1/NDACB7/NBCBPBABzEBAB9gOBAC1gOlgOB
   AC55PzqOCAC95P3qOBAC/5P7nOBADh6PxrO9nOBAC7ExgOBAC3gOzgOBACrhO1gODACB7gOBABrFBAB3hOBABrFBAB5hOBA
   CphOlhOBAD56PzrO5sOBAD76P1rO5sOBAD96P3rO5oOJCBPBABnGBAB3iOCAD57PxsO5tOBAD77PzsO5tOBAD97P1sO5pOJ
   CBPBAB/GBAB7hOBABNBAD58PpuO5uOBAD78PruO5uOEACrHxjOBACziOzjOBACriO1jODACB7jOBAB/HBAB5iOBAB7HBAB5
   iOBACljOlkOBAC59P3vOBAC79PzuOCAB/9PBABh+PBABj+PBABl+PBABn+PBABp+PBABr+PBABt+PBABv+PBABx+PBABz+P
   HABBGACt/PnuOYAB9gQEACBBBADDDDCACBBBADDDDFAC1hQ1hQCAC7hQxzOJACvgQvgQBACxgQtiQBACviQzgQOAEpCpCpC
   pCIAB9jQRAB/jQBABvgQDKB/jQBAB9kQBABuZBAB9jQBCBplQBABhhQBSB/kQBAB9lQBABuYBAB9kQBCBpmQCAB9iQBAB3i
   QBABliQBAB1hQBAB1jPBAB5iQBGB1iQBABziQBCBviQMACrjQpjQ4CAD9pQhtQ5pQBAD/pQjtQ7oQBAB9pQBACllQ/pQCAD
   jqQrtQrpQBADlqQttQhpQBAB3qPCACxlQlqQBCBlqQBABnqQBABpqQBABrqQBABv+PBABtqQBABvqQBABrqQBDBtqQBACvq
   QtqQDEBxqQBABzqQBAB1qQDAC5qQlrQBAD5qQ3rQprQBAC7qQprQCABzqQCAB51OCAB7qQCAB9rQBABrkQBCBzsQCABzsQB
   CB1sQBAB4BBABrsQBABpsQBGBp2NBAB/sQCADptQztQlsQBAB33OBABz4OBAB14OBAB93OBABiNFABhuQBCBjuQBCB9tQHA
   D9xQ3QxxQBAD/xQ5QvxQBAEhyQ7QhyQjyQBADjyQ9Q/xQBADjyQ/QhyQBADnyQhR/xQBADnyQjRhyQBADnyQlRjyQBADnyQ
   nRlyQBADvyQpRlyQBADpyQrRnyQBADzyQtRlyQBADxyQvRnyQBADvyQxRpyQBADtyQzRryQBAC7yQ1RBABtvQBACvvQvvQB
   ADxvQxvQxvQBACzvQ5uQBAB7uQBAC9uQ3vQBAD/uQ5vQ5vQBAEhvQ7vQ7vQ7vQBAC9vQ/uQBABhvQBACjvQhwQBADlvQjwQ
   jwQBAB/vQBCBzwQBABjwQBABtwQBACvwQvwQBADxwQxwQxwQBACzwQ5vQBAB7vQBAC9vQ3wQBAD/vQ5wQ5wQBAEhwQ7wQ7w
   Q7wQBAC9wQ/vQBABhwQBACjwQhxQBADlwQjxQjxQBAB/wQBCBzxQBABjxQEABCGADx1QpUr1QjFACBBBADDDDCACBBBADDD
   DwRQB9iSBACvjSxjSBACxjSxjSBACzjSxjSBAC1jSxjSBAC3jSxjSBAC5jSxjSBAC7jSxjSBAC9jSxjSBAC/jSxjSBAChkS
   xjSBAChkSlkSBAD3kSlkS1kSBAD5kSlkS3kSBAD7kSlkS5kSBAD9kSlkS7kSBAD/kSlkS9kSBADhlSlkS/kSBADjlSlkShl
   SBADllSlkSjlSBADnlSlkSllSBAEplS3kS5kSnlSBAErlS5kS5kSplSBAEtlS7kS5kSrlSBAEvlS9kS5kStlSBAExlS/kS5
   kSvlSBAEzlShlS5kSxlSBAE1lSjlS5kSzlSBAE3lSllS5kS1lSBAE5lSnlS5kS3lSBAE7lSplS5kS5lSBAE9lSplStlS7lS
   VADnnS1jSlnSBADpnS1jSnnSBADrnS1jSpnSBADtnS1jSrnSBADvnS1jStnSBADxnS1jSvnSBADznS1jSxnSBAD1nS1jSzn
   SBAD3nS1jS1nSBAD5nS1jS3nSBAD7nS1jS5nSBAD9nS1jS7nSBAD/nS1jS9nSBADhoS1jS/nSBADjoS1jShoSBADloS1jSj
   oSBADnoS1jSloSBADpoS1jSnoSBADroS1jSpoSBADtoS1jSroSBADvoS1jStoSBADxoS1jSvoSBADzoS1jSxoSBAD1oS1jS
   zoSBAD3oS1jS1oSBAD5oS1jS3oSByBBplSByBB9mSBABzrSipBAEh+Dh+Dh+Dh+DoDADzjVzjVtjVBACvjVvjVBADxjVxjV
   xjVqM+CBgDxBABCCABt/UBABruHBABt+UDFBCCAB3hVBAB5/UBAB9hVBAB7hVCABCDABCHABjhWBABtgWBCB9jVBjDBCJDB
   CFABC9DABbwJAB8ye0CAB4q4BNABgwPBABuyPBABozPBAB4zPBABq1PBABg4PBABs4PBABy5PBABk7PBABsjRBAB2lRBABg
   mRBABsnRBAByoRBAB6pRBABitRBABquRBAB+uRBABy4RBABs+RBABigSBABqgSBABkiSBAB0iSBABokSBABglSBABwmSBAB
   2pSBAB4qSBABssSBABy7TBABggUBAB28UBABi+UBABw+UBABk/UBABmgVBAB8kVBAB0iWBABylWBABgtWBABsuWBABwvWBA
   B6wWBABk0WBABo0WBAB6qXBABsrXBABisXBAB6sXBABg0XBABu0XBAB20XBAB+7XBABw8XBABo9XBAB29XBABuhYBABuiYB
   ABwjYBABuoYBAB2sZBABwvZBAB4wZBAB++aBABm/aBABqkbBABolbBABgmbBABonbBAB0pbBAB8pbBABw6bBAB+7bBAB89b
   BABq9dBABsheBAB4ieBABqmeBAB4neBABooeBAB0oeBAB6reBABiseBABgueBABsxgBBABothBBAB+thBBABmuhBBABsuhB
   BAB6uhBBAB8vhBBAB+vhBBAB+0hBBABsiiBBAB0iiBBAB43iBBABq4iBBABs7iBBAB47iBBABo8iBBAB28iBBABqijBBAB2
   ijBBAB8wjBBABoxjBBABo0jBBABo1jBBABk4jBBAB8mkBBABonkBBABookBBAB08kBBABuklBBAB4klBBABiwlBBABu1lBB
   ABo4lBBAB6vmBBABi4mBBAB87nBBABw9nBBABghoBBABkkoBBABqooBBAB+ooBBABopoBBABoroBBAB+voBBABwwoBBABim
   pBBABumpBBAB+mpBBABunpBBABsopBBABoppBBABuppBBABqupBBABwupBBAB6upBBABisrBBAB8trBBABkrsBBAB6rsBBA
   BmtsBBAB6+sBBABy/sBBAB+jtBBAB4mtBBABkquBBABgruBBAB8ruBBABguuBBABowuBBAB08uBBABq9uBBABuhvBBAB8wv
   BBAB4yvBBAB4/vBBABghwBBABohwBBAB+uwBBABs6wBBABkixBBABuixBBAB2ixBBABg9yBBABw9yBBABmnzBBAB4wzBBAB
   8wzBBAB4zzBBABo6zBBABg7zBBABm7zBBABy7zBBAB0h0BBAB2j0BBABgk0BBAB6k0BBABmv0BBABqy0BBABwy0BBAB890B
   BABg+0BBABk/0BBAB6u1BBAB4x1BBABky1BBABu21BBABg31BBABk31BBAB231BBABw51BBABky2BBABir3BBAB0r3BBAB+
   t3BBABov3BBAB2v3BBABow3BBABuw3BBAB8y3BBABiz3BBABi03BBABq03BBABi13BBAB223BBABy33BBABg43BBAB073BB
   ABw83BBAB283BrBAB/9XCABn9X0BABnCCABywRBCB2wRhDAC1nYDBAC3nYDDACtBpBgDAC3EtDyBCBhjQBABx4PBABjjQBC
   Bx4PBEBnjQBKBz4PBABriQBEB1jQBABliQBSB3jQBoBB7+PCCBhlQBCB/5PBAB55PBAB35PBABv5PBABp5PBABn5PBABjlQ
   BABj5PBABh5PBCBnlQBABllQBCBjlQBAB9kQBAB7kQBIB5kQBAB1kQBABvkQBAB9jQBABxjQBABpjQBCBh5PBEB5iQBCBlg
   QBABhgQBCBx/PBABv/PBAB9+PBAB5+PEAB8mOBAByvOBABqnOBABs0SBABonOBABspOBABmnOBABy5hBBAB+rOBAB8nOBAB
   qmOBAB44TBABk5SBAB2xOhDADv9Y/vQt9YBADx9Y9vQv9YBADz9Y9vQx9YBAD19Y7vQz9YBAD39Y7vQ19YBAD59Y7vQ39YB
   AD79Y5vQ59YBAD99Y3vQ79YBAD/9Y3vQ99YBADh+Y1vQ/9YBADj+Y1vQh+YBADl+Y1vQj+YBADn+Y1vQl+YBADp+Y1vQn+Y
   BADr+Yk/8Bp+YBADt+Yyo/Br+YBADv+YotgCt+YBADx+Y22iCv+YBADz+Ys7jCx+YBAD1+YiglCz+YBAD3+YwpnC1+YBAD5
   +Y+ypC3+YBAD7+Y03qC5+YBAD9+YihtC7+YBAD/+Y4luC9+YBADh/YuqvC/+YBADj/YkvwCh/YBADl/Y6zxCj/YBADn/Ygu
   rCl/YBAEp/YugqCu+qCn/YBAEr/YsgqCsqyCp/YCADv/Yg+Nt/YBADx/Y2mOv/YBADz/Yu+Nx/YBAD1/YwrSz/YBAD3/Ygn
   O1/YBAD5/Yw0P3/YBAD7/Y69N5/YBAD9/Yo0P7/YBAD//YqjO9/YBADhgZwxQ//YBADjgZ8tahgZBADlgZgkfjgZBADngZw
   gdlgZBADpgZ2vangZBADrgZm6vBpgZBADtgZgvSrgZBADvgZq7ZtgZBADxgZy/avgZBADzgZutaxgZBAD1gZ2wjBzgZBAD3
   gZy9Q1gZBAD5gZokgB3gZBAD7gZ2mtB5gZBAD9gZsyjB7gZBAD/gZ4nQ9gZBADhhZ0qO/gZBADjhZkkRhhZBADlhZ2yUjhZ
   BADnhZuqiBlhZBADphZosOnhZBADrhZyotBphZBADthZqxQrhZBADvhZ6yjBthZBADxhZgtOvhZBADzhZw6nBxhZBAD1hZg
   7nBzhZBAB2wRBABujWBABi0ZBABw0kBJAD/9Y39Y1+YBAC9hZ/hZBAC/hZ/hZBAChiZ/hZBACjiZ/hZBACliZ/hZBACniZ/
   hZBACpiZ/hZBACriZ/hZBACtiZ/hZBACtiZziZBACviZziZBACxiZziZBACziZziZBAC1iZziZBAC3iZziZBAB/1QBCB91Q
   BEB71QBAB51QBCB31QBIB11QBABk58BBAByi/BBABongCBAB2wiCBABs1jCBABi6kCBABwjnCBAB+spCBAB0xqCBABi7sCB
   AB4/tCBABukvCBABkpwCBAB6txCBAC47sCom9BBAC+nrC2tqCBABkjqCCABg4NBAB2gOBABu4NBABwlSBABghOBABwuPBAB
   63NBABouPBABq9NBABwrQBAB8naBABg+eBABw6cBAB2paBABm0vBBABgpSBABq1ZBABy5aBABunaBAB2qjBBABy3QBABo+f
   BAB2gtBBABssjBBAB4hQBAB+zjBBAB6phBBABwtTBAB68uBBAB6oPBABktQBABykdBABq2yBBABgnOBABuvPBABgscBABs2
   NBABw4NBABq2NBAB+zVBAB20QBABkpQBAB6uUBAB2rUBABujiBBABolOBAByhtBBABqqQBAB4mTBAC7nZ1nZBAC9nZ1nZBA
   C/nZ1nZBAChoZ1nZBAChoZpoZBACjoZpoZBACloZpoZBACnoZpoZBACpoZpoZBACroZpoZBACtoZpoZBACvoZpoZBACxoZp
   oZBACzoZpoZBACzoZ9oZBAC9oZwkaBAC9oZukaBAC9oZskaBAC9oZqkaBAC9oZokaBAC9oZmkaBAC9oZkkaBAC9oZikaBAC
   9oZgkaBADvpZxpZ+jaBADxpZxpZ8jaBADzpZxpZ6jaBACnmZpmZBADvmZ1lZrmZBACxmZvlZBADlmZ1lZ1mZBAB7iBBAB5i
   BBAB3iBBAB1iBBCBziBBABxiBBABviBBABtiBBABriBBABpiBBABniBBABliBBABjiBBABhiBBAB/hBBAB9hBBAB5hBBAB3
   hBBAB1hBBKBzhBBABvhBBABrhBBABnhBBABjhBBIB/gBBAB9gBBAB7gBBKB5gBBGB3gBBACq+N64QBAE7lB9iBngBvjBBAE
   9lBrhB3iB/lBBAE/lB9gBviB/lBBADhmBtgBvhBBAE/lBxjBhhBnlBBADhmBjhBnkBBAD/lB5lBlhBBAF9lB7kBvlB1gB7j
   BBAE/lB3gB5lB3gBBAD9lBrhB/kBBAD/lB7gBziBBAD/lBtmBhiBBAEhmBliBxkBnkBBAEjmB/hBliBhhBBADjmBhiB1hBB
   ADlmB3hBhjBBACjmBnmBBADlmBrkBphBBAEpmB5iBviBrhBBAEpmBviBllBthBBACtmBtiBBAFvmBviBpmB3iBpjBBAGxmB
   xiBpjBzhB7kB1iBBAFzmBziBviBnlB9kBBADvmB9iBvjBBAFxmB/iBxjBhlBriBBAF1mB9iB7lBrnB5iBBAE3mB7iB9hB7k
   BBAD1mB/hBlmBBADzmBjjBllBBAD1mBjiBhkBBAEzmB1nB/mBnjBBAF1mB5iB9lBniB/jBBAEzmBtjB7iBhnBBADtmB9iBh
   mBBADvmB/iB1lBBADnmBviB1mBBAC7lB7mBBAC5lB1jBBAC9lBnjBBAC7lBzlBBAD1lBrmBhmBBAD1lBroBrmBBAFzlB9iB
   /mBvjBlmBBAD1lB/iBvmBBAE5lBhjBhkBjkBBAFzlB3oBpnBrmBlkBBAD1lB/nBnkBBAC3lB5nBBAC7lBrkBBAF5lBhpBxk
   B9mBxmBBAE7lB/oBtjB1mBBAF7lBhnB5nB5oBxkBBAD/lB3kBjkBBAF7lBtoBtnBzjB1kBBAC5lBznBBAD7lB5mBrmBBADh
   mB7kBpnBBAD/lBtkBhoBBADhmB9jBloBBADlmB/jB5nBBAE/lBxpBzkBpnBBADjmBllBrnBBACnmB3kBBADlmB5kBtnBBAD
   rmBpkBrlBBADtmBrkB9kBBAEpmB9pBnpBrlBBADrmB/pBxlBBADtmBjoBrnBBADvmB1lBtpBBAFxmBnlB/oB/lBnlBBAExm
   BxpB1lBplBBACzmB9lBBAF1mB/lBznB7kB9lBBACzmB9pBBAE1mB/pBnoBxlBBAE3mBhlBpoBjmBBADzmBjlBpoBBAD1mBl
   lBnmBBADzmB7qB5lBBAEtmB7oBxoBrmBBACvmBxmBBADvmB9nBtlBBAExmBvlB7nBxmBBACxmBpnBBAFzmBlmB7oBnqBlmB
   BADvmBnpB9oBBACvyZi2eBACvyZg2eBACvyZ+1eBACvyZ81eBACvyZ61eBACvyZ41eBACvyZ21eBACvyZ01eBACvyZy1eBA
   CvyZw1eBADhzZjzZu1eBADjzZjzZs1eBADlzZjzZq1eBADnzZjzZo1eBADpzZjzZm1eBADrzZjzZk1eBADtzZjzZi1eBADv
   zZjzZg1eBADxzZjzZ+0eBADzzZjzZ80eBADzzZ3zZ60eBAD1zZ3zZ40eBAD3zZ3zZ20eBAD5zZ3zZ00eBAD7zZ3zZy0eBAD
   xwZhwZ/wZBAC7wZhxZBACjxZ7vZBADjxZlxZjwZBACrwZ9vZBACrwZlxZBAClxZzwZBADnxZ1wZr0ZBADpxZ3wZr0ZBAChx
   ZpwZBACwvVqpXBACirZgxQBAC06Ss+bBACgpZ6zcBAE2qag5V25N+7iBBAC/wZ9xZBAClxZ/xZBACr8XhyZBACrxZjyZBAC
   xxZlyZBACzxZlyZBACxxZnyZBAC/xZpyZBADpyZtyZ3xZBAE7xZryZvyZ5xZBACzxZnyZBAC5xZpyZBAC/8XryZBACh9Xry
   ZBAChyZtyZBACnyZvyZBACvyZrxZBADryZxyZtxZBADpyZzyZvxZBAD3yZ1yZxxZBAD/xZ3yZzxZBACx9XxyZBACxyZzyZB
   AClzZ1yZBAC5yZ3yZBAClzZ3yZBAC3yZ5yZBAC99X7yZBAC9yZ9yZBACzzZ/yZBAClzZhzZBADjzZjzZ52ZBAD5zZlzZ72Z
   BACnzZ92ZBADtzZpzZ/2ZBADrzZrzZ/2ZBADh0ZtzZh3ZBACvzZj3ZBAD1zZxzZl3ZBADzzZj5InzZBAE1zZl5IpzZr3ZBA
   CxzZv0ZBAD9zZzzZx0ZBAD7zZ1zZz0ZBADp0Z3zZ10ZBAD1zZ30Zx0ZBAF3zZ50Zz0Zx5I1zZBAG5zZ70Z10Zz5I3zZ53ZB
   AC/zZ5zZBACl0Z7zZBACr/X9zZBACr0Z/zZBACn0Z7zZBACt0Z9zZBACz/X/zZBACz0Zh0ZBAC50Zj0ZBAC30Zl0ZBACz0Z
   l0ZBAC50Zn0ZBAC//Xp0ZBAC/0Zr0ZBACl1Zt0ZBACj1Zv0ZBACp1Zt/XBACn1Zv/XCACh2Zj1ZBACh2Zh2ZBACj2Zh2ZBA
   El2Zh7I11Z91ZCACn2Zr2ZBACj2Z/0ZBACj2Zx2ZBACl2Z11ZBACl2Z71ZBACj2Zj2ZBACl2Zh2ZBACn2Z11ZBACn2Zl2ZB
   ACp2Zl2ZBADr2Zl2Z12ZBACt2Z11ZBACt2Zj3ZBADv2Z32Zx2ZBADx2Zt2Zz2ZBACt2Z92ZCADx2Zx2Z32ZBACz2Zv2ZBAC
   v2Zx2ZBACx2Zr2ZBACr2Z13ZBADv2Zx8Ih3ZBAD73Zz8Ij3ZBAC96ZqgZBAC96ZogZBAC96ZmgZBAC96ZkgZBAC96ZigZBA
   C96ZggZBAC96Z+/YBAC96Z8/YBAC96Z6/YBADv7Zx7Z4/YBADx7Zx7Z2/YBADz7Zx7Z0/YBAD17Zx7Zy/YBAD37Zx7Zw/YB
   AD57Zx7Zu/YBAD77Zx7Zs/YBAD97Zx7Zq/YBAD/7Zx7Zo/YBADh8Zx7Zm/YBADh8Zl8Zk/YBADj8Zl8Zi/YBADl8Zl8Zg/Y
   BADn8Zl8Z++YBADp8Zl8Z8+YBADr8Zl8Z6+YBADt8Zl8Z4+YBADv8Zl8Z2+YBADx8Zl8Z0+YBADz8Zl8Zy+YBADz8Z58Zw+
   YBAD18Z58Zu+YBADv5Z75Zl5ZhyctBBCUbBCCABjlxCBABhlxClENBCE9BBCCABBJDBCCABnglCBJBCFABCCABvyyCDDBCE
   TBCCABn0yCBAB90yCBAB10yCBABh0yCBABn0yCCABjxyCBABzyyCBABpxyCBABg6BBPBCCAB/CBABl0yCBABvjlCBDBCCAB
   t2yCBPBCCABhkzCVAB73zCBAB94zCBAB54zCBABl4zCBABCDABhtzCBABrqzCjbABpjCBABrCBABlv0CBABZKAB3t0CH+EB
   /8rCh6TACzp9Dzp9DBAC1p9Dvp9DBAC3p9Drp9DBAD5p9D5p9Dzp9DBAD7p9D7p9Dvp9DBACjp9Dhp9DBAClp9Djp9DNAC9
   56D556DBAC/56D966DBACh66Dz66DBACv56D/56DBACl66Dz66DJAB7z6DBABh16DBCB906DBEBx06DBAB9z6DBAB7z6DBA
   B7v9DmBAC936Dl36DBAB9t6DBAB/t6DBABtt6DBABvt6DBABxt6DBABzt6DBABvt6DBABxt6DBABzt6DBAB1t6DBABzt6DB
   AB1t6DBAB3t6DBAB5t6DBABnu6DBABpu6DBABru6DBABtu6DBABlu6DBABnu6DBABpu6DBABru6DBAB5u6DBAB7u6DBAB9u
   6DBAB/u6DBABrs6DBABts6DBABvs6DBABxs6DBABvs6DBABxs6DBABzs6DBAB1s6DBAB7u6DBAB9u6DBAB/u6DBABhv6DBA
   Blv6DBABnv6DBABpv6DBABrv6DBABnv6DBABpv6DBABrv6DBCBtv6DBABvv6DBABxv6DBABzv6DBABpv6DBABrv6DBABvv6
   DBABxv6DBABvv6DBABxv6DBAB/v6DBABhw6DBABjv6DBABlv6DBAB1v6DBAB3v6DBABpu6DBABru6DBABtu6DBABvu6DBAB
   lu6DBABnu6DBABpu6DBABru6DBABlu6DBABnu6DBABpu6DBABru6DBABxu6DBABzu6DBAB1u6DBAB3u6DBABnu6DBCBpu6D
   BABru6DBABtu6DBABvu6DBABnu6DBCBpu6DBABru6DBABtu6DBABvu6DBAB3u6DBAB5u6DBAB7u6DBAB9u6DBAB3t6DBCB5
   t6DBAB7t6DiBABry6DBABty6DBABvy6DBABxy6DBAB/w6DBABhx6DBABlx6DBABnx6DBABlx6DBABnx6DBACrx6Dx26DBAB
   lx6DBABnx6DBAB1x6DBAB3x6DBABxx6DBABzx6DBABnx6DBABpx6DBABrx6DBABtx6DBAB956DBAB/56DBACn86Dl86DBAC
   p86Dn86DBACr86Dtx6DBACt86Dvx6DBACv86Dr66DBACx86Dt66DBACz86Dxy6DBAC186Dzy6DBAC386D3y6DBAC586D5y6
   DBAC786D3y6DBAC986D5y6DBAC/86Dry6DBACh96Dty6DBACj96Dvy6DBACl96D/66DBACn96Dh76DBACp96Dj76DBAB/y6
   DBABhz6DBABjz6DBABlz6DBACz96Dn96DBAC196Dn96DBAC396D576DBAC596Dz76DBAC796Dz76DBAC596Dx96DBAC796D
   x96DBAC996Dx96DBAC/96Dl86DBACh+6D/76DBACj+6D/76DBACh+6D996DBACj+6D996DBACl+6D996DBACn+6Dx86DBAC
   p+6Dr86DBACr+6Dr86DBACr+6Dp+6DBACt+6D586DBACv+6Dz86DBACx+6Dz86DBACx+6Dv+6DBACz+6Dh96DBACz+6D1+6
   DBAC1+6Dl96DBAC1+6D5+6DBAC3+6D5+6DBAC5+6Dr96DBACx+6D/+6DBACz+6D/+6DBAC1+6D/+6DBAC3+6Dz96DBAC1+6
   Dl/6DBAC3+6D396DBAC3+6Dr/6DBAC5+6Dr/6DBAC7+6Dr/6DBAC9+6D/96DBAC9+6Dx/6DBAC/+6Dj+6DBAC/+6Dl+6DBA
   C/+6D5/6DBACh/6Dp+6DBACh/6D9/6DBACj/6Dt+6DBAC3+6Dhg7DBAC5+6Dhg7DBAC7+6Dhg7DBAC9+6D1+6DBAC/+6Dv+
   6DBACh/6Dv+6DBACh/6Drg7DBACj/6D9+6DBACl/6D3+6DBACn/6D3+6DBACn/6D/g7DBACp/6D3g7DBACr/6D3g7DBACt/
   6D3g7DBACv/6Dt/6DBACx/6Dt/6DBACz/6Dn/6DBAC1/6Dn/6DBAC1/6Dlh7DBAC3/6Dlh7DBAC5/6Dlh7DBAC7/6D5/6DB
   AC9/6Dz/6DBAC//6Dz/6DBAC//6Dxh7DBAChg7Dxh7DBACjg7Dxh7DBAClg7Dlg7DBACng7D//6DBACpg7D//6DBACpg7D9
   h7DBACrg7D9h7DBACtg7D9h7DBACvg7Dxg7DBACxg7Drg7DBACzg7Drg7DBACzg7Dpi7DBAC1g7D5g7DBAC3g7Dzg7DBAC5
   g7Dzg7DBAC1g7Dxi7DBAC3g7Dxi7DBAC5g7Dxi7DBAC7g7Dlh7DBAC9g7D/g7DBAC/g7D/g7DBAC1i7D1+6DBAC1i7D3+6D
   BACnh7D5+6DBAD7j+Djh7D5g7DBAD9j+Djh7D7g7DBAD/j+Djh7D9g7DBADhk+Djh7D/g7DBADjk+Djh7Dhh7DBADlk+Djh
   7Dl/6DBAC7j7Dlj7DBAC9j7Dlj7DBAC/j7Dhi7DBAChk7Dhi7DBACjk7D9h7DBAClk7D9h7DBACjk7Dxj7DBAClk7Dxj7DB
   ACnk7Dti7DBACpk7Dti7DBACrk7Dpi7DBACtk7Dpi7DBACrk7D9j7DBACtk7D9j7DBACvk7D5i7DBACxk7D5i7DBACzk7D1
   i7DBAC1k7D1i7DBAC1k7Dpk7DBAC3k7Dpk7DBAC5k7Dlj7DBAC7k7Dlj7DBAC9k7Dhj7DBAC/k7Dhj7DBAC1j7Dlj7DBAC3
   j7Dlj7DBAC3j7Dpj7DBAC5j7Dpj7DBAC5j7Dxl7DBAC7j7D5j7DBAC9j7D5j7DBAC/j7Dzj7DBAChk7Dzj7DBAChk7D/j7D
   BACjk7D5j7DBAClk7D5j7DBAClk7Dhm7DBACnk7Dnk7DBACnk7Dxl7DBACpk7Dxl7DBACrk7Dtk7DBACtk7Dtk7DBACvk7D
   pk7DBACxk7Dpk7DBACtk7D/h7DBACtk7D/l7DBACvk7D/l7DBACxk7D7k7DBACzk7D7k7DBAC1k7D3k7DBAC3k7D3k7DBAC
   hn7D1m7DBACjn7D1m7DBACln7D1m7DBACnn7Dpl7DBACpn7Dnl7DBACnn7D/m7DBACpn7D/m7DBACrn7D/m7DBACtn7Dzl7
   DBACvn7Dxl7DBACtn7Dpn7DBACvn7Dpn7DBACxn7Dpn7DBACzn7D9l7DBAC1n7D7l7DBAC1n7Dhm7DBAC1n7Dzn7DBAC3n7
   Dlm7DBAC3n7D5n7DBAC5n7Dpm7DBAC5n7D9n7DBAC7n7Dtm7DBACzn7Dho7DBAC1n7Dho7DBAC3n7Dho7DBAC5n7D1m7DBA
   C3n7Dno7DBAC5n7Dno7DBAC7n7D7m7DBAC7n7Dvo7DBAC9n7Dvo7DBAC/n7Dvo7DBACho7Djn7DBACho7D1o7DBACho7Dnn
   7DBACho7D7o7DBACjo7Drn7DBACjo7D/o7DBAClo7Dvn7DBAC5n7Djp7DBAC7n7Djp7DBAC9n7Djp7DBAC/n7D3n7DBAC/n
   7Dpp7DBACho7D7n7DBACho7Dvp7DBACjo7Dvp7DBAClo7Dvp7DBACno7Dlo7DBACpo7Dlo7DBACpo7D5p7DBACro7D5p7DB
   ACto7D5p7DBACvo7Dto7DBACxo7Dro7DBACxo7Djq7DBACzo7Djq7DBAC1o7Djq7DBAC3o7D3o7DBAC3o7Drq7DBAC5o7Dr
   q7DBAC7o7Drq7DBAC9o7D/o7DBAC/o7D9o7DBAC/o7D1q7DBAChp7Dlp7DBACjp7Dxm7DBAC/o7D7q7DBAChp7D7q7DBACj
   p7D7q7DBAClp7Dvp7DBACnp7Dtp7DBACxr7Dzp7DBACzr7Dxp7DBACxr7D3p7DBACzr7D1p7DBACxr7D7p7DBACzr7D5p7D
   BACzr7D/p7DBAC1r7D9p7DBACnr7Djq7DBACpr7Dhq7DBACpr7Dnq7DBACrr7Dlq7DBACvq7Dtq7DBACxq7Dtq7DBACxq7D
   vq7DBACvq7Dxq7DBACxq7Dvq7DBACrq7D1q7DBACtq7Dzq7DBADjr7Dnq7Dhq7DBADlr7Dnq7Djq7DBADnr7Dnq7Dlq7DBA
   C7r7D3q7DBAC9r7D3q7DBAC7r7D7q7DBAC9r7D7q7DBAC9r7D/q7DBAC/r7D/q7DBACvs7Djr7DBACxs7Djr7DBACxs7Dnr
   7DBACzs7Dnr7DBACjt7Drr7DBAClt7Drr7DBACpt7Dvr7DBACrt7Dvr7DBACpt7Dzr7DBACrt7Dzr7DBAC/s7D3r7DBACht
   7D3r7DBACht7D7r7DBACjt7D7r7DBACpt7D5t7DBACrt7D5t7DBACtt7D5t7DBACvt7Dts7DBACxt7D3t7DBAC1t7D5t7DB
   ACzt7D7t7DBACzt7D9t7DBACzt7Dvs7DBAC1t7Dvs7DBACzt7Dzs7DBAC1t7Dzs7DBAC1t7D3s7DBAC3t7D3s7DBACnu7D7
   s7DBACpu7D7s7DBACpu7D/s7DBACru7D/s7DBAC7u7Djt7DBAC9u7Djt7DBAChv7Dnt7DBACjv7Dnt7DBAChv7Drt7DBACj
   v7Drt7DBAC3u7Dvt7DBAC5u7Dvt7DBAC5u7Dzt7DBAC7u7Dzt7DBAChv7Dxv7DBACjv7Dxv7DBAClv7Dxv7DBACnv7Dlu7D
   BACpv7Dvv7DBACtv7Dxv7DBACrv7Dzv7DBACrv7D1v7DBACxv7Dhw7DBACzv7Dhw7DBAC1v7Dhw7DBAC3v7D1u7DBAC7v7D
   zu7DBAC7v7D1u7DBAC3v7D7u7DBAChw7Dvw7DBACjw7Dvw7DBAClw7Dvw7DBAClw7D1w7DBACnw7D1w7DBACpw7D1w7DBAC
   lw7Dpv7DBAClw7Drv7DBACpx7Dhv7DBACrx7Djv7DTADry7Dny7D1w7DBADty7Dny7Dpy7DBADvy7Dpy7Dry7DBADxy7Dry
   7D7w7DBADzy7Dry7D9w7DBAD1y7D/w7Dxy7DBAD3y7Dhx7Dxy7DBAD5y7Djx7Dxy7DBAD3y7Dlx7D1y7DBAD5y7Dnx7D3y7
   DBAD5y7Dpx7D/w7DBAD7y7Drx7Djx7DBADxy7D9y7D/y7DBADzy7Dhz7D/y7DBAD1y7Djz7Dpx7DBAD3y7Dzx7Djz7DBAD5
   y7D1x7Dlz7DBAD7y7D3x7Dpz7DBAD9y7D5x7D5x7DBAD/y7D7x7D7x7DBAD9y7Dtz7Dtz7DBAD/y7Dvz7Dvz7DBADhz7Dhy
   7Dhy7DBADlz7Dzz7Djy7DBADnz7D1z7Dly7DBADpz7D5z7D9x7DBADrz7Dpy7D3z7DBADtz7Dry7D5z7DBADvz7Dty7Dty7
   DBADxz7Dvy7Dvy7DBADvz7Dh07Dpy7DBADxz7Dh07Dzy7DBADzz7Dj07D1y7DBADzz7D3y7Dn07DBAD1z7D5y7Dp07DBAD3
   z7D7y7D7y7DBAD5z7D9y7Dzy7DBAD3z7Dx07D/y7DBAD5z7Dhz7Dhz7DBAD7z7Djz7Djz7DBAD9z7Dlz7D9y7DBAD9z7Dnz
   7Dnz7DBAD/z7Dpz7D/y7DBADh07Drz7Djz7DBAD1z7D707Dtz7DBAD3z7D907Dvz7DBAD3z7Dxz7Dh17DBAD5z7Dzz7Dzz7
   DBAD3z7Dl17D1z7DBAD5z7Dn17Dtz7DBAD7z7Dp17Dxz7DBAD9z7Dt17Dt17DBAD/z7Dv17Dv17DBADh07Dt17D/z7DBADj
   07Dv17Dh07DBADl07Dj07Dz17DBADn07Dl07D117DBADn07D317D517DBADp07D517Dp07DBADr07D717Dh07DBADt07D/1
   7D917DBADv07Dh27Dv07DBADx07D/17Dj27DBADz07Dh27Dz07DDAD507Dr27Dn27DBAD307D707Dt27DBAD507D907D907
   DBAD907Dv27D/07DBAD/07Dx27D507DBADh17D127Dj17DBADj17D327Dl17DBADl17D527D/07DBADn17Dp17D/07DBADp
   17Dr17Dj17DBADj17Dt17Dt17DBADl17Dv17Dv17DBADr37D/27Dn17DBADp37Dl37Dp17DBADr37Dn37Dt17DBADt37Dl3
   7Dt17DBADv37Dn37Dx17DBADx37D717Dx17DBADz37D917D117DBADx37D/17D117DBADz37Dx37D517DBAD137Dj27D717
   DBADp37Dz37D917DBADn37D337D917DBADr37D537D/17DBADp37D737Dh27DBADv27D/37Dj27DBADx27Dv27Dl27DBADn
   27Dh47Dn27DBADp27Dl47Dp27DBADr27D127Dr27DBAD327D327Dt27DBAD/27D527Dv27DBAD527Dr47Dx27DBADj37D92
   7Dt47DBADh37Dv47D/27DBAD537Dh37D327DBADn37Dj37D527DBADj37D347D147DBADn37D147D927DBADr37D747Dp37
   DBADv37Dr37Dr37DBADv37D/47Dt37DBADt37Dh57D/47DBADj57Dh57Dn37DBADj57Dl57Dp37DBAD137Dn57Dr37DBAD/
   37D337Dt37DBADz57Dp57Dv37DBAD/37D737D737DBAD147Dv57D937DBAD/47D/37D/37DBADl57Dv57D337DBADh47D15
   7D537DpBAD177D367D7x7DBAD967D567D9x7DBAE187D767D767D167DBAE387D/67D187Dj87DBAE967Dt87D967Dp87DB
   AE/77Dh77D377D/67DBAEp87Dl87D767Dj77DBAE777Dl77D567D/67DBAE/67Dp87Dn77Dl77DBADn87Dp77D/67DBASp8
   7Dr77Dh77Dz9+Dl97Dr77Dr77Dl77Dz9+Dh87Dr77D/67Dl77Dz9+Dj77Dt87Dr77Dp77DBAI987Dt77D19+D987Dt77Dn9
   7Dt77Dn77DBAE187D/y7Dp97Dv77DUABn++DBAB/gnDCCBx9+DBABn/+DBABt9+DBCBhgnDZAB5hvDBAB9hvDBABn9+DBAB
   p9+DBCB5g/DBAB37+DBAB17+DBCBpinDBCB1inDBCBljnDBCBtjnDBGBpjnDDAB3++DBAB1++DBACxi/Dn09DBACzi/Dp09
   DBAC1i/Dr09DBAC3i/Dt09DBAB7++DBAB9++DBAB/++DBABni/DBAB/knDDABxh/DBAB1h/DBABth/DBABrj/DBABnkvDBC
   Bhj/DBAB/9+DBAB99+DBCBxknDBAB3j/DBABzj/DBCBtj/DBABrj/DBABvi/DBABti/DBABxi/DCAB3g/DBCBpk/DBAB1i/
   DFAC/k/Dpi8DBAChj8Dri8DBACjl/Dri8DCACnl/Dti8DCACrl/Dvi8DBACtj8Dxi8DBACvl/Dxi8DBACxj8Dzi8DBACzl/
   Dzi8DBAC1j8D1i8DBAC3l/D1i8DBAC5j8D3i8DBAC7l/D3i8DBAC9j8D5i8DBCB9l8DBCB/l8DBCBhm8DBCBjm8DBCBlm8D
   BABnm8DBABpm8DBCBrm8DBCBtm8DBABvm8DBABxm8DBCBzm8DBCB1m8DBAB3m8DBAB5m8DBCB7m8DBAB9m8DBAB/m8DBCBh
   n8DBABjn8DBABln8DBCBnn8DBABpn8DBABrn8DBCBtn8DBABvn8DBABxn8DBCBzn8DBCB1n8DBCB3n8DBCB5n8DBCB7n8DB
   AB9n8DBAB/n8DBCBho8DBABjo8DBABlo8DBCBno8DBABpo8DBABro8DBCBto8DBABvo8DBABxo8DBCBzo8DBAB1o8DBAB3o
   8DBCB5o8DBAB7o8DBAB9o8DBCB/o8DBABhp8DBABjp8DBCBlp8DBABnp8DBABpp8DBABrp8DBAB/o8DBABhp8DBABjp8DBC
   Blp8DBABnp8DBABpp8DBCBrp8DBABtp8DBABvp8DBCBxp8DBABzp8DBAB1p8DBCB3p8DBAB5p8DBAB7p8DBCB9p8DBAB/p8
   DBABhq8DBCBjq8DBABlq8DBABnq8DBCBpq8DBCBrq8DBCBtq8DBABvq8DBABxq8DBABzq8DBAChr8Dlt8DBACjr8Dnt8DBA
   Clr8Dnt8DBACnr8Dpt8DBACpr8Dnt8DBACrr8Dpt8DBACtr8Dnt8DBACvr8Dpt8DF+BB/t/DByBB/r/DBmCB/t/DBCBz9qD
   BABlz/DBCBr1nDBABl2nDBABzmnDBABnnnDBABrsnDBABpsnDBABnsnDBABlsnDBABjsnDBABxonDBABvonDBABtonDBAB3
   qnDBABnnnDBAB9snDBAB7snDBAB5snDBAB3snDBCB1snDBABzsnDBABxsnDBABvsnDBABtsnDBABrsnDBABpsnDBABnsnDB
   ABlsnDBABjsnDBABhsnDBAB/rnDBAB7rnDBAB5rnDBAB3rnDBKB1rnDBABxrnDBABtrnDBABprnDBABlrnDBIBhrnDBAB/q
   nDBAB9qnDBKB7qnDBAB5qnDBABzqnDBCBpwnDCCBhq3DBABx/2DBABjq3DBCBx/2DBEBnq3DBKBz/2DBABrp3DBEB1q3DBA
   Blp3DBSB3q3DEKBhm3DDKBlm3DDKBpm3DDEBtm3DECB7z/DBABrz/DBACl8/D9t+DBAB7z/DBAB/z/DBAB5zvDCABrutDBG
   BxlvDBAB5ktDBABlitDygBuCBwCpEmCBwC9EUBuCCcBuCCMBuCCCBuCsPCBhriEBAB5pjEBAB1uiEBABjziECABnuiEBABj
   iuBBABnuiEBABruiEBCBpziEBAB3/0DBABrziEBABhziEBABtuiEBAB5yiEBAB/yiEBABlziEBABxviEBAB7mjEBABzviEB
   AB/yiEBABnxiEBCB9uiEBAB9yiEBABw2rDBAB9gwBBAB/yiEBABs2rDBABjxiEBABq2rDBABzqjEBCB5yiEBABnzjEBAB3y
   iEBABi2rDBCB1yiEBABzyiEBABlwiEBABrwiEBABrkuBBABtwiEBABtyiEBAB9ztDCABlyiEBCBjxiEBAB5xiEBEBr/iEBA
   Bi1rDBABo2rDmmBkDBgE+EqBBgC75C+BBgChsV+BBgChCwBB2B+wXyBBpnmHBSB/rmHn4ByBB95pHByBBx7pHByBBl9pHBM
   B5+pHCiBB5+pHByBBtgqHByBBhiqHBDB1jqHBAB1jqHDAB1jqHDCB1jqHDGB1jqHCOB1jqHBGBplqHCDBplqHBKBplqHCUB
   plqHByBB9mqHByBBxoqHBCBlqqHCGBlqqHDOBlqqHCMBlqqHCyBB5rqHBCBttqHCGBttqHCIBttqHCABttqHEMBttqHCyBB
   hvqHByBB1wqHByBBpyqHByBB9zqHByBBx1qHByBBl3qHByBB54qHByBBt6qHByBBh8qHByBB19qHByBBp/qHByBB9grHByB
   BxirHBABl3qHBAB7mqHDgBBtvpHBABhwpHBMBtvpHBABzr6GBgBBhxpHBAB/wpHBMBhxpHBABxt6GBABtypHBABpypHBABn
   ypHBABxxpHBAB9xpHBABhypHBgBBhzpHBAB1zpHBMBhzpHBABnv6GBgBB10pHBABz0pHBMB10pHBABlx6GBABh2pHBAB91p
   HBAB71pHBABl1pHBABx1pHBAB11pHBgBB12pHBABp3pHBMB12pHBAB7y6GBgBBp4pHBABn4pHBMBp4pHBAB506GBAB15pHB
   ABx5pHBABv5pHBAB54pHBABl5pHBABp5pHBgBBp6pHBAB96pHBMBp6pHBABv26GBgBB97pHBAB77pHBMB97pHBABt46GBAB
   p9pHBABl9pHBABj9pHBABt8pHBAB58pHBAB98pHBgBB99pHBABx+pHBMB99pHBABj66GBgBBx/pHBABv/pHBMBx/pHBABh8
   6GBAB9gqHBAB5gqHBAB3gqHBABhgqHBABtgqHBABxgqHBAB5+pHBAB7+pHDSB75rHBSBv6rHBSBj7rHBSB37rHBSBr8rHxh
   CQB//tHBEB9/tHBUB7/tHBAB3/tHBCB1/tHBABh88EBABj3tHBABr/tHBABp/tHBABp2tHBAB/5tHBABh4tHBQBhiuHBCB/
   huHBCB7huHBAB5huHBKB3huHBCB1huHBABr9tHBABjhuHBABnhuHBAB1guHBAB/7tHBAB1h9EBAB37tHzkCiCBkC/mBCBx9
   zHBABr9zHBABn9zHCAB57zHBABn9zHBABz9zHBABh9zHBAB97zHBGBt8zHBAB19zHBABr9zHBAB98zHBAB39zHBAB/8zHBA
   Bj+zHBAB/9zHBCB1+zHBABx+zHBABv+zHBABl+zHBABj+zHBABh+zHBAB76zHBABl2zHBAB53zHBAB/6zHCABx/zHBABr/z
   HCAB59zHDABz/zHCAB99zHBGBt+zHBAB1/zHBABr/zHBAB9+zHBAB3/zHBAB/+zHCAB//zHBCB1g0HBABxg0HCABlg0HCAB
   hg0HHABrh0HFABzh0HCAB9/zHCDBtg0HBAB1h0HBABrh0HCAB3h0HBAB/g0HCAB/h0HDABxi0HCABli0HCABhi0HCABl6zH
   CAB/+zHCABxj0HBABrj0HCAB5h0HDABzj0HBABhj0HBAB9h0HBDBti0HBABti0HBAB1j0HBABrj0HBAB9i0HBAB3j0HBAB/
   i0HCAB/j0HBCB1k0HBABxk0HCABlk0HBABjk0HBABhk0HBAB7g0HCAB59zHCCBxl0HBABrl0HBABnl0HBCB5j0HBABnl0HB
   ABzl0HBABhl0HBAB9j0HCEBtk0HBAB1l0HBABrl0HBAB9k0HBAB3l0HBAB/k0HBABjm0HBAB/l0HBCB1m0HBABxm0HBABvm
   0HBABlm0HBABjm0HBABhm0HGABxn0HBABrn0HBABnn0HCAB5l0HBABnn0HBABzn0HBABhn0HBAB9l0HCEBtm0HBAB1n0HBA
   Brn0HBAB9m0HBAB3n0HBAB/m0HBABjo0HBAB/n0HBCB1o0HBABxo0HBABvo0HBABlo0HBABjo0HBABho0HmSACht4Hpt4HB
   ACht4Hrt4HBACht4Htt4HBACht4Hvt4HBACht4Hxt4HBACht4Hzt4HBACht4H1t4HBACht4H3t4HBACht4H5t4HBACht4H7
   t4HGADvu4H9q4Htu4HBADxu4H9q4Hvu4HBADzu4H9q4Hxu4HBAD1u4H9q4Hzu4HBAD3u4H9q4H1u4HBAD5u4H9q4H3u4HBA
   D7u4H9q4H5u4HBAD9u4H9q4H7u4HBAD/u4H9q4H9u4HBADhv4H9q4H/u4HBADjv4H9q4Hhv4HBADlv4H9q4Hjv4HBADnv4H
   9q4Hlv4HBADpv4H9q4Hnv4HBADrv4H9q4Hpv4HBADtv4H9q4Hrv4HBADvv4H9q4Htv4HBADxv4H9q4Hvv4HBADzv4H9q4Hx
   v4HBAD1v4H9q4Hzv4HBAD3v4H9q4H1v4HBAD5v4H9q4H3v4HBAD7v4H9q4H5v4HBAD9v4H9q4H7v4HBAD/v4H9q4H9v4HBA
   Dhw4H9q4H/v4HBADrxgHtr4HpxgHBABvs4HBABzr4HBACzs4Hxs4HBACtr4Hnr4HCyBB9s4HBACju4Hnt4HBAC7t4Hpt4HB
   ACxt4Hvu4HBACzt4Hzt4HBAD7t4H7t4Hvt4HBACvt4H3u4HbAC5v4Htw4HBAC7v4Htw4HBAC9v4Hzv4HkBAC3y4Hry4HwDA
   Cp4gHp7gHBAC70gH70gHBAB50gHOABp8nGBABzrrGBABrkvGBAB30gHBABv4xGBAB1vsGBABlj0FBAB7usGBABn3xGBABx/
   lGBABxvgGBABjomGBAB98vGBABhppGBABhpwGBAB9mmGBABlgwGBAB9t6FBABlw+FBABz3yFBABnzsGBAB3+uGBABjxhGBA
   Bj5nGBABltnGBABxiyGBABhiyGBABh+wFBABrkqGBAB//xGBAB1jvGBABvynGBAB/ryFBAB79nGBABhr8FBABx77FBAB3iv
   GBABp7hGBAB5ylGBAB9ylGBABpw+FBABt8vGBABnouGBAB7uwFFAD3ihHnxlG1ihHBAD5ihHvjyG3ihHBAD7ihHr7xG5ihH
   BAD9ihHzrrG7ihHBAD/ihH14gG9ihHBADhjhHj/nG/ihHBADjjhH929FhjhHBADljhHz2vGjjhHBADnjhHhvmGljhHIABxr
   pGBABjmvG/sCSB/79H"

/-- Characters that vanish. -/
def ignored : CharClass := .ofText
  "tFAhVAvwDBzyBB1CE7/BA0CEFF0nEA7kzBPvHAgFA/nvBDvmFHl8rYvH"

/-- Characters beyond the ASCII range that no domain name has. -/
def disallowed : CharClass := .ofText
  "gEf4WBGDHABAUAtMAmBByBBDA3BHbDGQWAgGAwBB7BBlDN7BBxBBPAcBBALEgBGrCAhFAIBCBWAHABCEBJBCBEHBDCAFBZB
   DAGDCBWAHACACACBBAFDCBDCBGEABGRJDAJADAWAHACAFBKADADBBOEBMGHADAIBCBWAHACAFBJBCBDGDDCAFBSJCAGCDAE
   CCABACCCCDCMDFCDAEBBFBNVENADAXAQBJADAEGCADACBEBKGWADAXAKAFBJADAEGCEDAEBKADLNADAzBADAGDQBaADASCY
   AJABBHCBDGABAIFKBDL6BDdkBCABAFAYABAXBFABAHAKBEfoCAkBDnBAkBAPANkBmGABEBB5LAEBHABAEBpBAEBhBAEBHAB
   AEBPA5BAEBjCBgBCaF2CBGBgUAcC5CGWIYIULNADACL+CBKFKFaF5CGrBEmCJfAMDMDBCqBBFKsBDaFLC+BBhCAdBLFKFOB
   uBBMTtCAmFH8BCPC+BErBBLHrBE2QBGBmBBGBIABABABAfB1BAPAOBGATBDAJAOBUCBG2BEIBbANCiBNhBOsED6UVLUoBT4
   2BB+LEtBABEBB4BGCNYIHAHAHAHAHAHAHAHA+DhBaA5CL2GpBgCA2CBnDErBA+CA2CJvBAiNAEAQA0lcC3BI8KT4FH9GT8B
   CKF4BHmCHMF0DKeCuCALDhBA3BIOBKBnDXcJGBGBGIHAHA8BD+DBKFk9KLXDxBjoIuLBqDlBHLFEaAFABACACAqUfiBAGGQ
   AhBBTAEDFAnEBBA+FCGBGBGBDCHAHQMAaATACAPBOhB7DEDDtBC4CANCBuBuBhEdCxBOcDkBIeErBEeAlBDOpB+EBKFkBDk
   BDoBH0BKMAPAHACALAPAHACC0BL3JIWJIXGAqBAJkCGBBAsBACCBBXAoCHJvBTACEhBCbEblB4BDUByBACEIADAdBDDKGJG
   gCfnBDMI2BCdBbEaGELHvCpC2BzBMzBGuBHKFmBCdHCvGfAqBADBCPGHJgBuBHqBValBcTXIuCDkBI+BAFMZGKF1BASHnBI
   gDAUKSAvB9BHABAEAPALF7BEKFEAIBCBWAHACAFAKBCBDBBFBEHBHCFKKABBBAmBAKABBBAEAKACHCc8CAFdoCHKlF2BBmB
   hBlCKKFNS6BFKFUbbBPDX4F8BjDzCLIBBBIACAeACBMIKlCIBuBBLaoCHzCMpCGK1CI3CiBNKFJAtBAOJdCgBBWAOoCHACA
   sBCBACAJHKFGACAlBACAGGKFsBDK1HZGRApBCd0CBOyBM7clDvDAFKkGryCjDMwhBPWJ78DEnS41G6Bl2B5RGfAKDxCAKFe
   BGJmCJKAHAVETvN6BlG7CEZBZrBrCD5BGR/BFKHI2mHoBgBgDzD8vIEAHACAjJOBcDBBNEHsMjoCrDENCJGKBI76D9HC0NF
   XOROuBBXI0D7B2HJnBBiGUmC5DULUL3CIZmE1CAnCACBBBCBEAMABAHAhCAEBIAHAcAEAFABCHA0KBkJB+VOFAPviBfFG0G
   HARBHACAFE+BgBBvDtBCOBKDC/JfQ6BEBvOqB1GrBDB/FfAWHC/GHAEACAPAlGBQoBsCDKDCwYkCrC9BhGEAbACABBBAKAE
   ABABFBDBABABADACABBBABABABABACABBEAHAEAEABAKAREDAFARzBCtIsBDkDLPBPAPAlBKtF3BdMsBDJGCNG5E5eCRCNC
   6GFMDBOMD4BHKFoBHeBMDCNJmB4KHOBNCLC5BABDQBMDKGzEAnDkgBg3pBf+oEBu0FBxpHOuThtC+QhvBr6EEqpIlkzVwHv
   w/F"

/-- The characters that one of a domain name stands for, if it is allowed. -/
def spelled? (c : Char) : Option (List Char) :=
  if c.toNat < 0x80 then some [c.toLower]
  else if disallowed.contains c then none
  else if ignored.contains c then some []
  else some ((spellings.lookup? c).getD [c])

/-- The name in its one spelling. -/
def mapped? (cs : List Char) : Option (List Char) :=
  (cs.mapM spelled?).map fun parts => normalForm parts.flatten

end SessionGateway.Url.Idna
