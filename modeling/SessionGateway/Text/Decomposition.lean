import SessionGateway.Text.CharClass

/-! Canonical decompositions of characters, and the classes that order marks after a letter. The
syllables of the Korean script are taken apart by arithmetic. -/

namespace SessionGateway.Text

/-- Characters other than syllables, each with all its parts. -/
def decompositions : CharMap := .ofText
  "gGAC9HgkBBAC/HgkBBAChIgkBBACjIgkBBAClIokBBACnIqkBCACnIgmBBAClIwjBBACnIwjBBACpIwjBBACrI6jBBAClIo
   jBBACnIojBBACpIojBBACrIyjBCAClIkjBBAClI8iBBACnI8iBBACpI8iBBACrI8iBBACtIkjBDACnIuiBBACpIuiBBACrI
   uiBBACtI4iBBACnIoiBDAC9HgiBBAC/HgiBBAChIgiBBACjIgiBBAClIoiBBACnIqiBCACnIgkBBAClIwhBBACnIwhBBACp
   IwhBBACrI6hBBAClIohBBACnIohBBACpIohBBACrIyhBCAClIkhBBAClI8gBBACnI8gBBACpI8gBBACrI8gBBACtIkhBDAC
   nIugBBACpIugBBACrIugBBACtI4gBBACnIogBCACrIygBBAC9LogBBAC/JmgBBAChMogBBACjKmgBBAClMoiBBACnKmiBBA
   ClM2fBACnK0fBACpM0fBACrKyfBACtM6fBACvK4fBACxMggBBACzK+fBACzM8fBAC1K6fDAC5MkfBAC7KifBAC9MkfBAC/K
   ifBAChNifBACjLgfBAClNghBBACnL+gBBACpNkfBACrLifBACpNseBACrLqeBACtNweBACvLueBACxNueBACzLseBAC1Nqg
   BBAC3LogBBAC3N8dBAC5L6dDAC9N2dBAC/L0dBAChO0dBACjMydBAClO0dBACnMydBACpO0fBACrMyfBACtOudEACzO8cBA
   C1M6cBAC1OifBAC3MgfCAC5OwcBAC7MucBAC9O4eBAC/M2eBAChP+cBACjN8cFACpP8bBACrN6bBACtPkeBACvNieBACxPq
   cBACzNocEAC5PwbBAC7NubBAC9PwbBAC/NubBAChQ2bBACjO0bDACjQ6aBAClO4aBACnQidBACpOgdBACrQobBACtOmbBAC
   tQuaBACvOsaBACxQsaBACzOqaBAC1QycBAC3OwcBAC5Q4aBAC7O2aBAC7QqcBAC9OocBAC/QwaBAChPuaDAClR2ZBACnP0Z
   BACpR0ZBACrPyZBACtR0ZBACvPyZBACxR4ZBACzP2ZBAC1R2ZBAC3P0ZBAC5RsbBAC7PqbBAC5R8YBAC7P6YBAC5R4YBAC7
   P2YBAC9RgZBAC9RwYBAC/PuYBAChS4YBACjQ2YBAClS+YBACnQ8YiBAChV2XBACjT0XOACzV4WBAC1T2WdAC3Y+TBAC5W8T
   BACrY6TBACtW4TBACjY2TBAClW0TBAC7XyTBAC9VwTBAD/XmT+SBADhWkT8SBADjYiT0SBADlWgTySBADnY+SmTBADpW8Sk
   TBADrY6SqSBADtW4SoSCAD5Z0SsSBAD7XySqSBAD9ZuSoSBAD/XsSmSBAC3RkSBAC5PiSDAC9ZsSBAC/XqSBAC5ZoSBAC7X
   mSBAC1Z8TBAC3X6TBAD5Z4TwRBAD7X2TuRBACtD8RBACmK6RBACrY4REAC5a6QBAC7Y4QDACzawQBAC1YuQBADxbgRuQBAD
   zZ+QsQBACrTqQBACtRoQBACrSmQBACtQkQBAC9b+QBAC/Z8QBAChc+QBACja8QBAC9b2QBAC/Z0QBAChc2QBACja0QBAC9b
   uQBAC/ZsQBAChcuQBACjasQBAC5bmQBAC7ZkQBAC9bmQBAC/ZkQBAC7b+PBAC9Z8PBAC/b+PBACha8PBAC9b2PBAC/Z0PBA
   Chc2PBACja0PBACpc8QBACra6QBACrc4QBACta2QDACrd8OBACtb6OHACpeiOBACrcgOBACle+PBACnc8PBAD1d8N0NBAD3
   b6NyNBAD5duNwNBAD7bsNuNBAC9dyNBAC/bwNBADheuNoNBADjcsNmNBACxdkNBACzbiNtICB/DCAB/CBAC3DlEwBAB1LKA
   Bl0BHAC5tBnIBACWpIBAB/sBBACatIBACcvIBACexICACmB1ICACuB5IBAC0B7IBADyCvI9IaAChBjKBACLlKBACK1KBACQ
   3KBACS5KBACU7KBADqBvK9KaAChBjMBACLlMBACZ1MBACP3MBACJ5MFACBjNBACD3MsBACqB/PBACoBxPCACgBjQEACB9PF
   ACc1QBACW5QBACqBvQLACBlRgBACBlTXAC1B/UBAC3BxUCAC/BjVEACB9UFACjC1VBACpC5VBAC1BvVYACDtWBACDvWqCAC
   1K1bBAC3I3bOAC/LzcBAChK1cBACjMzcBAClK1cDAChM/cBACjKhdDACDjdBACDldBACrMndBACtKpdBACtMrdBACvKtdDA
   CzM7dBAC1K9dBAC3M3dBAC5K5dBACvM7dBACxK9dDACDjeBACDleBAC9LneBAC/JpeBAC1MzeBAC3K1eBAC5MveBAC7KxeB
   AC9MteBAC/KveBAC5M3eBAC7K5eDAC5M/eBAC7KhfpJACKiDBACIiDBACoCgDBACEgDBACoC8C6EACqB3GCACB7GRACB9H2
   SACBmBIACBWDACBQkBAClE3BBAClE5BBAClE7BBAC9D9BBAC1D/BBAC1DhCBAClDjCBAC/ClCsDACHZBACJWQAC1D/BBAC1
   DhCCAC/ClC0CACBSDACEMjBAClE5BBAClE7BBAC9D9BDAClDjCqHACBcDACHZBACJWQAC1D/BBAC1DhC3BACDmE2BACHXBA
   CHZBACLW8DACDc4DACBqBHACBcBACDcCACHPBADJRU/DACHXBACHZBACLWuEACBfCACFZBADHblBBACJClLACBoHKACB0GF
   ACBqGFACBgGFACB2FNACxC4EKACDBCACHBBAC4DUCAC2DQJACfBSACBoCKACB0BFACBqBFACBgBFACBWNACxCHtDACBQg3C
   ACB+CCACB6CCACB2CCACByCCACBuCEACBmCpBACBLCACBPDACDVBACDXCACBb9VAC97O1tNBAC/5O3tNBAC/7O1vNBACh6O
   3vNBACj8OhuNBACl6OjuNBACn8OptNBACp6OrtNBADp8OhuNtwNBADr6OjuNvwNBACr8OlwNBACt6OnwNBACv8OxuNBACx6
   OzuNBACz8O5tNBAC16O7tNBAC38OxuNBAC56OzuNBAC78OpuNBAC96OruNBAD98O/wNnxNBAD/6OhxNpxNBADh9OjxNpxNB
   ADj7OlxNrxNBACl9O1uNBACn7O3uNBACp9OzuNBACr7O1uNBADt9OpvNrxNBADv7OrvNtxNBACv9OtxNBACx7OvxNBACx9O
   3xNBACz7O5xNBACz9O1xNBAC17O3xNBAC39OhwNBAC57OjwNBAC79O7xNBAC97O9xNBAC/9OhwNBACh8OjwNBACj+O3vNBA
   Cl8O5vNBACl+O3vNBACn8O5vNBADp+OryN5yNBADr8OtyN7yNBACp+O9yNBACr8O/yNBACt+O9wNBACv8O/wNBACx+OlwNB
   ACz8OnwNBACz+OlxNBAC18OnxNBAD3+OpxNnzNBAD58OrxNpzNBAC7+OxwNBAC98OzwNBAC/+O9wNBACh9O/wNBACh/O5zN
   BACj9O7zNBACl/OxzNBACn9OzzNBACp/O9xNBACr9O/xNBACr/O5zNBACt9O7zNBACv/OlyNBACx9OnyNBACz/OtxNBAC19
   OvxNBAC3/O5xNBAC59O7xNBAD5/Ox0N10NBAD79Oz0N30NBAD9/O10Nr0NBAD/9O30Nt0NBADhgP30N/0NBADj+O50Nh1NB
   ADlgP70Nh1NBADn+O90Nj1NBACngPl1NBACp+On1NBACrgP90NBACt+O/0NBACrgPh1NBACt+Oj1NBACvgPtzNBACx+OvzN
   BADzgPxzNv1NBAD1+OzzNx1NBAC3gP5yNBAC5+O7yNBAC5gPx1NBAC7+Oz1NBAC9gP9zNBAC/+O/zNBADhhPl2N51NBADj/
   On2N71NBADlhPz1N91NBADn/O11N/1NBADphPp0Nh2NBADr/Or0Nj2NBACrhPl2NBACt/On2NBACvhPx0NBACx/Oz0NBACz
   hP5zNBAC1/O7zNBAC3hPl0NBAC5/On0NBAC5hP70NBAC7/O90NBAC9hPn0NBAC//Op0NBAChiPx0NBACjgPz0NBADliPp3N
   t3NBADngPr3Nv3NBADpiPr3Nj3NBADrgPt3Nl3NBACriPx3NBACtgPz3NBACviP11NBACxgP31NBACxiP/3NBACzgPh4NBA
   C1iPh4NBAC3gPj4NBAC5iP33NBAC7gP53NBAC9iP93NBAC/gP/3NBAChjPp2NBACjhPr2NBACjjPl4NBAClhPn4NBACnjPn
   4NBACphPp4NBACpjPt4NBACrhPv4NBACrjP74NBACthP94NBACvjP92NBACxhP/2NBACzjPl2NBAC1hPn2NBAC7iPp2NBAC
   liP94NBAChiP74NBAC/hP94NCAC3xOn5NFAC9lP53NBAC/jP73NBAChmPx5NBACjkPz5NBADlmPj6Nl6NBADnkPl6Nn6NBA
   DpmPn6Nr6NBADrkPp6Nt6NBADtmPr6N95NBADvkPt6N/5NBADxmPv6Nt6NBADzkPx6Nv6NBAD1mPx4Nz6NBAD3kPz4N16NB
   AD5mPv6N56NBAD7kPx6N76NBAD9mPz6N/6NBAD/kP16Nh7NBADhnP36Nx6NBADjlP56Nz6NBADlnP76Nh7NBADnlP96Nj7N
   BADpnPl5N/6NBADrlPn5Nh7NBAClnPp5NBACnlPr5NBACpnPh7NBACrlPj7NBACtnPx7NBACvlPz7NBADxnP37N57NBADzl
   P57N77NBAD1nP77N/7NBAD3lP97Nh8NBAD5nP/7Nx7NBAD7lPh8Nz7NBAD9nPj8Nh8NBAD/lPl8Nj8NBADhoPl6Nn8NBADj
   mPn6Np8NBAC9nP97NBAC/lP/7NBAChoPt6NBACjmPv6NBAC5nPx6NBAC7lPz6NBAC9nPp8NBAC/lPr8NBADhoP78N98NBAD
   jmP98N/8NBADloP/8Nj9NBADnmPh9Nl9NBADpoPj9N18NBADrmPl9N38NBADtoPn9Nl9NBADvmPp9Nn9NBADxoPp7Nr9NBA
   DzmPr7Nt9NBAD1oP97Nx9NBAD3mP/7Nz9NBAD5oPh8N39NBAD7mPj8N59NBAD9oPl8Np9NBAD/mPn8Nr9NBADhpPp8N59NB
   ADjnPr8N79NBADlpPt8N97NBADnnPv8N/7NBAC9oPh8NBAC/mPj8NBAChpP59NBACjnP79NBADlpP58Nt+NBADnnP78Nv+N
   BADppP98Nz+NBADrnP/8N1+NBADtpPh9Nl+NBADvnPj9Nn+NBADxpPl9N1+NBADznPn9N3+NBAD1pPp9N58NBAD3nPr9N78
   NBACxpPj/NBACznPl/NBAC1pPh9NBAC3nPj9NBAC5pP5+NBAC7nP7+NBAC9pPp/NBAC/nPr/NHAC90N5+NBAC/0N5+NBADh
   1N9+NjgOBADj1N9+NlgOBADl1Nh/NlgOBADn1Nh/NngOBADp1Nl/Nn8NBADr1Nl/Np8NBACt3Np/NBACv3Np/NBADx3Nt/N
   zgOBADz3Nt/N1gOBAD13Nx/N1gOBAD33Nx/N3gOBAD53N1/N38NBAD73N1/N58NBAC11N5/NBAC31N5/NBAD51N9/NjhOBA
   D71N9/NlhOBAD91NhgOlhOBAD/1NhgOnhODACl4NpgOBACn4NpgOBADp4NtgOzhOBADr4NtgO1hOBADt4NxgO1hOBADv4Nx
   gO3hODACx2N5gOBACz2N5gOBAD12N9gOjiOBAD32N9gOliOBAD52NhhOliOBAD72NhhOniOBAD92NlhOn+NBAD/2NlhOp+N
   BACh5NphOBACj5NphOBADl5NthOziOBADn5NthO1iOBADp5NxhO1iOBADr5NxhO3iOBADt5N1hO3+NBADv5N1hO5+NBACt3
   N5hOBACv3N5hOBADx3N9hOjjOBADz3N9hOljOBAD13NhiOljOBAD33NhiOnjOBAD53NliOn/NBAD73NliOp/NBAC95NpiOB
   AC/5NpiOBADh6NtiOzjOBADj6NtiO1jOBADl6NxiO1jOBADn6NxiO3jOBADp6N1iO3/NBADr6N1iO5/NBACh4N5iOBACj4N
   5iOBADl4N9iOjkOBADn4N9iOlkOBADp4NhjOlkOBADr4NhjOnkODACx6NpjOBACz6NpjOBAD16NtjOzkOBAD36NtjO1kOBA
   D56NxjO1kOBAD76NxjO3kODAC14N5jOBAC34N5jOBAD54N9jOjlOBAD74N9jOllOBAD94NhkOllOBAD/4NhkOnlOBADh5Nl
   kOnhOBADj5NlkOphOCACn7NpkOCADr7NtkO1lOCADv7NxkO3lOCADz7N1kO5hOBACt5N5kOBACv5N5kOBADx5N9kOjmOBAD
   z5N9kOlmOBAD15NhlOlmOBAD35NhlOnmOBAD55NllOniOBAD75NllOpiOBAC97NplOBAC/7NplOBADh8NtlOzmOBADj8Ntl
   O1mOBADl8NxlO1mOBADn8NxlO3mOBADp8N1lO3iOBADr8N1lO5iOBAC97N/mOBAC/7N/mOBAC57NjnOBAC77NjnOBAC57Nn
   nOBAC77NnnOBAC57NrnOBAC77NrnOBACx7NvnOBACz7NvnOBACp7NznOBACr7NznOBACl7N3nOBACn7N3nODAD98N5mO1jO
   BAD/8N5mO3jOBAEh9N9mOjoO5jOBAEj9N9mOloO7jOBAEl9NhnOloO9jOBAEn9NhnOnoO/jOBAEp9NlnOnkOhkOBAEr9Nln
   OpkOjkOBADt/NpnOlkOBADv/NpnOnkOBAEx/NtnOzoOpkOBAEz/NtnO1oOrkOBAE1/NxnO1oOtkOBAE3/NxnO3oOvkOBAE5
   /N1nO3kOxkOBAE7/N1nO5kOzkOBADx9N5nO1kOBADz9N5nO3kOBAE19N9nOjpO5kOBAE39N9nOlpO7kOBAE59NhoOlpO9kO
   BAE79NhoOnpO/kOBAE99NloOnlOhlOBAE/9NloOplOjlOBADhgOpoOllOBADjgOpoOnlOBAElgOtoOzpOplOBAEngOtoO1p
   OrlOBAEpgOxoO1pOtlOBAErgOxoO3pOvlOBAEtgO1oO3lOxlOBAEvgO1oO5lOzlOBADt9N5oO1lOBADv9N5oO3lOBAEx9N9
   oOjqO5lOBAEz9N9oOlqO7lOBAE19NhpOlqO9lOBAE39NhpOnqO/lOBAE59NlpOnmOhmOBAE79NlpOpmOjmOBAD9/NppOlmO
   BAD//NppOnmOBAEhgOtpOzqOpmOBAEjgOtpO1qOrmOBAElgOxpO1qOtmOBAEngOxpO3qOvmOBAEpgO1pO3mOxmOBAErgO1p
   O5mOzmOBAC9/NzqOBAC//N5qOBADhgOjrO5mOBACjgO7mOBADlgOlrO9mOCACpgOnnOBADrgOpnOjnOBACtiOjrOBACviOp
   rOBACxiOzrOBACziOzrOBAC1iOtnOCABpgODACxxP9nOBAD1gOjsO5nOBAC3gO7nOBAD5gOlsO9nOCAC9gOnoOBAD/gOpoO
   joOBACljOvsOBACnjOvsOBACljOzsOBACnjOzsOBACpjOtoOBACb5sOBACd5sOBACf5oOBACthOzsOBACvhO5sOBADxhOzs
   OjtOBADzhO1sOjtODAC5hOnpOBAD7hO9sOppOBAC9jOjtOBAC/jOptOBAChkOztOBACjkOztOCACiC5tOBACgC5tOBAC+B5
   pOBAC1hOztOBAC3hO5tOBAD5hOztOjuOBAD7hO1tOjuOBACliOhtOBACniOhtOBAChiOnqOBADjiO9tOpqOBAClkOjuOBAC
   nkOpuOBACpkOzuOBACrkOzuOBAC1kOvtOBACp0P5uOBACr0P5uOBAB94PDADxiOjvO5qOBACziO7qOBAD1iOlvO9qOCAC5i
   OnrOBAD7iOprOjrOBACxlOvvOBACzlOvvOBAChlOzvOBACjlOzvOBACllOtrOBABx0PDCBElJAB53OEAB9tQBACzuQhiPvD
   ACTjmPBACRlmPTACzBrnPfACGppPBACMrpPBACGtpP1BACB3sPFACBhtPDACBntPYACB3uPCACB7uPbACJxwPDACB3wPDAC
   D9wPCACBhxPXACliRvyPCACBzyPLAC/BpzPBACjjRrzPBAChjRtzPBACXvzPBACXxzPDACD3zPBACD5zPDACD/zPBACDh0P
   HACLv0PBACLx0PDACD30PBACD50PDACD/0PBACDh1PjBACTn3PBACJp3PBACJr3PBACHt3PxBACnGv6PBACnGx6PBAChFz6
   PBAChF16PHACvDj7PBACvDl7PBACvDn7PBACvDp7P8BCB+tGy9BACCn6TwrBACB6ECACB2ECACByECACBuECACBqECACBmE
   CACBiECACB+DCACB6DCACB2DCACByDCACBuDDACBoDCACBkDCACBgDHACByCBACDyCCACBsCBACDsCCACBmCBACDmCCACBg
   CBACDgCCACB6BBACD6BXAC7EKKACBJOACBlBCACBpBCACBtBCACBxBCACB1BCACB5BCACB9BCACBhCCACBlCCACBpCCACBt
   CCACBxCDACB3CCACB7CCACB/CHACBtDBACDtDCACBzDBACDzDCACB5DBACD5DCACB/DBACD/DCACBlEBACDlEXAC7E1FDAC
   P7FBACP9FBACP/FBACPhGEACBpGigyBABvr2BBAB5gpCBABvj1BBAB1j2BBABljlCBABlt1CBABhyyCBAB12sBBAB32sBBA
   Bv7vCBABxzzBBABn4xCBABn8vCBABtxrCBABpqhCBABz48BBABht5BBABt14BBABzh4BBABno0BBABjxnCBABz/lCBAB5jk
   CBABxziCBAB1t6BBAB96zBBABxyvBBABxp1CBABt6yCBABxhnCBABlwjCBABjv5BBABjwtBBABh9tCBABtzkCBABr15BBAB
   /73BBAB3lrCBAB707BBABvw4BBAB7ltCBABjhpCBAB/7lCBAB9ijCBAB7l0BBABt60CBABt3zCBABhlzCBAB3mqCBAB7lnC
   BABjyjCBAB3khCBABlz8BBAB9y5BBABzt5BBABv01BBABrgxBBABz8uBBAB/ztBBAB9qgCBAB57/BBAB559BBABp36BBAB1
   jzBBABhstBBAB1m3BBABlmwCBAB9jtCBABnu+BBABts8BBABnujCBAB5ngCBABro2BBABjlxBBABjnwCBABxuuCBABxznCB
   ABl3lCBAB9jlCBAB/h+BBABxx9BBABrwxBBAB/nzCBABvs8BBABv3zCBABx4zCBABzz/BBABx59BBABt26BBABnuxBBABz9
   2BBAB3orCBABz1nCBAB9l3BBABpy1CBABv3uCBAB70sCBABz9iCBABj/hCBAB3kzCBABxmgCBABr60CBAB57sCBABz11CBA
   B3pmCBABh/pCBABvk+BBABv6yCBAB7wwCBAB3mhCBABpy6BBABps3BBABr7mCBABh80BBABzumCBABpnrCBAB9o7BBABp9q
   CBABhhiCBABxs1CBAB9g0CBAB/6zCBABxvoCBABnp+BBAB5w7BBAB1q3BBAB96zBBABzozCBAB7zyCBAB7gwCBABrptCBAB
   77pCBABr4kCBAB1lgCBABx9xBBAB5xvBBABhvtBBAB1rtBBAB9uzCBABpspCBABphnCBAB1i1BBABzxtCBAB9/rCBAB/4rC
   BABtvqCBAB9mlCBABzkkCBAB1wiCBAB18/BBABj69BBABvy8BBABjn1BBAB1q6BBABt30BBABhlzBBABp4zCBABzvzCBABh
   uyCBABttkCBAB7t4BBABtv3BBABxttCBAB76sCBABxirCBABt/mCBABv2+BBABjjjCBABns1CBAB/qxCBABl8uCBABh/tCB
   AB/4sCBAB1/iCBABp0iCBABph9BBABz28BBAB53zBBAB3rxBBAB1mxBBAB35wBBABzi1CBABvggCBABlg0BBAB/vxBBABvt
   sCBABnz1CBABhu0CBAB78uCBAB73uCBABpiqCBAB57nCBABj/jCBAB93hCBABrs6BBABt00BBABtjtBBAB5zpCBABv5xBBA
   B7zzCBAB5kpCBABr9oCBABxomCBAB9ylCBABl8iCBABnniCBABl2gCBAB9r+BBABj3wBBABnm0CBABn6rCBAB11xBBABx60
   CBAB3ruCBAB3+lCBAB5q1BBAB5ktCBABppsCBABl8oCBABnljCBABr1xBBABn7zCBAB98yCBABz3uCBAB58pCBABlppCBAB
   zzoCBAB7vmCBAB79iCBABlgiCBAB5m9BBABvx4BBABtw4BBAB5h0BBABvwxBBAB3qzCBABjzlCBAB/8yCBAB7hkCBABt1iC
   BABr/5BBAB70xBBAB15uBBABn1tBBAB5lpCBABzimCBAB7g8BBAB3y/BBABvt/BBABt2+BBABzzjCBABj2kCBABnq3BBAB5
   z1CBABvs7BBABp8zCBABx/zCBAB11tCBAB9yrCBAB5y+BBAB9nvCBABtumCBABj1pCBAB3s1BBAB374BBAB37xBBAB9n4BB
   ABvztCBAB3s0CBAB5kyCDABr7wCCAB75pCDABtj0CBAB3ujCBAB50hCBAB3tgCBAB1rgCBABprgCBAB3ogCBABrsxBBAB91
   +BBABhm9BCAB7g6BCABzy3BDAB5+0BBABxy0BEAB1zwBBAB9ywBBABnwwBBABxnuBBAB/00BBABv3xBBABjo1CBABz00CBA
   Bpu0CBABz2zCBAB/0zCBABnuzCBABxpyCBABhjyCBAB/8xCBABx/wCBABj5wCBABt9uCBAB78uCBABx6sCBABrtsCBABhrs
   CBAB7ksCBABjvqCBAB/lqCBABj7pCBAB97oCBAB7smCBAB3imCBABpylCBABztkCBAB7hkCBABvijCBABz7gCBAB7wgCBAB
   nwgCBABrwgCBAB9vgCBABzvgCBABnvgCBCBpsgCBABnhgCBABn9/BBABrp/BBABlm+BBAB9k+BBABvh+BBABvu9BBABrl9B
   BAB9m8BBABn+7BBABp+7BBABvg7BBAB/04BBAB1s4BBABh23BBABzy3BBABh52BBAB512BBAB/q1BBAB9i1BBABp4xBBABz
   mxBBAB9ixBBABr/sCBABkokFBABpl8BDABzk2CBAB3r0CBABzw0CBABlv1CBAB9y0CBABpv0CBAB96zCBAB53zCBAB1tyCB
   ABnyyCBABhuyCBABxpyCBABjixCBABz8wCBABzzwCBAB1ywCBAB7hwCBABx1vCBAB/6tCBABz6tCBAB1xtCBABvttCBAB76
   sCBABxzsCBAB/3sCBAB1vsCBABzysCBABxpsCBABvlsCBABxsrCBABjnrCBAB5jrCBABzzqCBAB5hqCBAB13pCBABv3pCBA
   B7zpCBAB3xnCBAB3tnCBABr1mCBAB57lCBAB78lCBABv3lCBAB5nlCBAB7ykCBABrvhCBABxmkCBAB/+jCBABr3jCBAB/ij
   CBAB35iCBABv2iCBABtoiCBABroiCBAB39hCBAB38hCBABn7hCBAB91hCBABz2hCBAB99gCBAB1//BBAB5u/BBABlj/BBAB
   n1+BBAB3r+BBABl39BBAB5q9BBABh27BBABps7BBAB3z5BBABp34BBABhz4BBABjy4BBABz/3BBABj83BBAB/+3BBAB173B
   BAB973BBABh93BBABr43BBABrz3BBABx72BBABz41BBABhl1BBAB1y0BBAB9k0BBABzkyBBABn+xBBABj3xBBAB7uxBBAB1
   sxBBAB/rxBBABhpxBBAB17vBBABjztBBAB232EBABo32EBABow8EBABpz/CBAB1r9CBAB1p9CBABo3rFBAB0/wFBAB4/hGB
   ABp5tBBAB10tBkCACn06Dx26DCAC5y6Dv26DLACh06Dx26DBACj06Dx26DBADl06D/26D126DBADn06Dh36D126DBAC716D
   t36DBAC916Dt36DBAC/16Dn36DBAC/16Dp36DBAC/16Dr36DBAC/16Dt36DBAC/16Dv36DBAC/16Dx36DBAC/16Dz36DCAC
   /16D336DBAC/16D536DBAC/16D736DBAC/16D936DBAC/16D/36DCAC/16Dj46DCAC/16Dn46DBAC/16Dp46DCAC/16Dt46
   DBAC/16Dv46DCAC/16Dz46DBAC/16D146DBAC/16D346DBAC/16D546DBAC/16D746DBACr36Dj56DBAC136D546DBACj36
   D746DBACz26D946D7zCACSjshEbACT5thE21CACBgCCACB8BPACLejEACGNBACGP8QACHZBACJW3BACBsECACBsDJACFoDD
   ACBwD0BACFFCACJdBACLCzHACDBBACFXCACJB8HACDVBACDX9bACFPp/RACFFBACHOBACJHBACKJBACNJBADPPNBADREPBA
   DTTPgiDACBBBACLDBADNFF0/YACNOBACNMBADPKcBADRIcBADTGcBADVEcBADXCc3CACDrFBACDtFBADHvF9EBADHxF/EBA
   DLzF/EBADL1FhFgypCABl80KBABx80KBABh80KBABhu7DBABnq0KBABtl0KBAB1k0KBABpg0KBAB74zKBAB/2zKBABlyzKB
   AB3zzKBAB72hLBABl94DBABhszKBAB1rzKBAB3qzKBABzpzKBABrv5DBABz1hLBAB5qzKBABvozKBAB1s5DBAB/nzKBABnn
   zKBAB500KBAB7mzKBABrmzKBAB5jzBBABvizKBAB1hzKBAB/zhLBABp+yKBAB19yKBAB/6yKBAB36yKBAB9whLBAB71yKBA
   B51yKBABl0yKBAB7yyKBCBnyyKBABnxyKBABluyKBAB3tyKBABntyKBAB3ryKBABlryKBABjryKBABlryKBABnryKBABvg3
   DBABp8jKBAB3myKBABvlyKBABpt2DBAB7kyKBABxkyKBABpjyKBAB75xKBABpgyKBABr/xKBABt9xKBAB75xKBAB10xKBAB
   jzxKBAB/uxKBABhuxKBABhsxKBABjsxKBAB7qxKBAB5pxKBABrpxKBABvoxKBABpzwKBABrkxKBABrzwKBAB5/wKBAB19wK
   BABxkzKBABl2vKBABnowKBAB9lwKBABtkwKBABzswKBABniwKBABriwKBAB36vKBABp3xDBABv2vKBABn2vKBABr1vKBABl
   0vKBAB3zvKBAB5vvKBABv7wDBABt3wDBABrnvKBABvkvKBAB5jvKBAB5ovKBAB//uKBABx3gLBAB32gLBABh2uKBAB3yuKB
   AB5yuKBABnqvDBABzquKBABrpuKBABvouKBAB5nuKBABx1uDBABlnuKBAB5muKBABhysKBABlluKBABpvgLBABthuKBABzg
   uKBABx7tKBAB5+tKBABtptDBABxztKBABtptDBAB/wtKBABnxtKBABnwtKBCB/ptKBABnlgLBABtotKBAB5ltKBABxktKBA
   B7htKBABrigLBABrwrDBAB7ggLBAB19sKBABx9sKBABt9sKBABn8sKBAB5vqBBABj5sKBAB/1qDBABh2qDBABjp7JBABj3s
   KBABl3sKBAB98/KBAB99iDBAB7rrCBABtzsKBAB9ysKBABv7/KBABjwsKBAB/ssKBABtssKBABrqsKBAB9hsKBABt2/KBAB
   r4/KBAB9gsKBAB/8oDBAB79rKBAB71rKBAB11rKBABz1rKBAB51rKBAB/yrKBAB5xrKBABzvrKBABxwrKBAB9vrKBABhtrK
   BAB7rrKBAB1rrKBABjqrKBABvprKBABtlrKBABngrKBABj+qKBABt2qKBAB36mDBAB33qKBAB77qKBABl1qKBABxzqKBABx
   tqKBAB5smDBAB5pqKBAB1vqKBABvxqKBABnp/KBABzlqKBABrkqKBABviqKBAB9kqKBAB1l/KBABx3pKBAB51pKBAB/rkDB
   ABvupKBABn9oKBABnopKBABp7+KBAB7jpKBABv8+KBAB5++KBAB/zzKBAB7zzKBABn9oKBABxjpKBABxi8JBAB7v6KBABh8
   oKBAB77oKBABx7oKBAB53oKBABx4oKBABzxiDBABp5+KBABpuoKBAB11oKBAB9ooKBAB5loKBABrniDBABrloKBABrsoKBA
   Bj9nKBABz0+KBABr6nKBABr0nKBAB/vnKBABlknKBABxkhDBABjhnKBABrt+KBAB78mKBABxkgDBAB55mKBABnq+KBABh4m
   KBABp1mKBCB1zmKBABzm/CBAB5+tDBAB9/+CBAB3qmKBAB9j+CBAB5jmKBAB/imKBABtpmKBABx+lKBABj8lKBABz4lKBAB
   h8lKBABz5lKBAB34lKBAB/3lKBABv+9CBABl9lKBABxtlKBAB1plKBABt99KBAB/jlKBABpklKBAB3j9CBABpxlKBABh6kK
   BABj78CBABl48CBAB30kKBABztkKBABrvkKBABzvkKBAB/39KBAB5skKBAB1pkKBABjqkKBAB5mkKBABr/5DBABt9jKBABz
   r7CBABj4jKBABn36CBABvvjKBAB3ujKBABjtjKBAB1x5CBABnqjKBAB/ojKBABh/4CBABlx4CBAB76iKBAB75iKBAB7n9KB
   ABr4iKBABnn9KBABpn9KBABtuiKBABltiKBAB9riKBAB3qiKBABvmiKBABvh9KBAB/giKBAB9v2CBABv/hKBABpq2CBABv8
   hKBABz5rDBABzyhKBABz50CBABn40CBABxv0CBABj08KBABtz8KBAB3khKBAB7k0CBAB/k0CBABzi0CBABhh0CBCBtihKBA
   BvihKBAB7/gKBAB/w8KBAB97gKBABpw8KBABrr8KBAB/yyCBAB/vgKBABlsgKBABnogKBAB7m8KBAB3yxCBAB5//JBABzrx
   CBAB/oxCBABt8/JBAB32/JBABxi8KBABxx/JBAB/w/JBAB3w/JBAB/9vCBABrrvCBABtrvCBABhn/JBAB717KBABr7uCBAB
   35+JBABz5+JBAB5z7KBABpuuCBABnp+JBABts7KBAB/n+JBABro+JBABzm+JBABp+sCBABxg+JBAB3m7KBABt69JBAB529J
   BAB1y9JBAB5j7KBABz0rCBAB3yrCBAB1h7KBAB3prCBAB3/8JBABxjrCBABl+8JBAB938JBABp38JBABhqqCBABxlqCBAB5
   x8JBABr9pCBAB9w8JBABhijDBAB366KBAB/s8JBAB/n8JBABx36KBABtk8JBABhtvKBAB/9oCBABl9oCBABr/iDBAB7+iDB
   ABz47JBABv47JBAB9+0JBABly6KBAB7v7JBABpw7JBABnv7JBAB9tzKBABju7JBABhu7JBABvt7JBAB/q7JBAB1lnCBABlr
   7JBAB3n7JBABtj7JBAB7+6JBABxn7JBAB/96JBABt76JBABv06JBAB5k7JBABt96JBABr96JBABt86JBAB72mCBABzjmCBA
   BhtmCBAB3n6KBABtr6JBABrr6JBABnp6JBABh+iCBABvk6JBABholCBABhl6KBAB7k6KBAB9/kCBAB9tkCBABtk6KBABl25
   JBABv15JBAB705JBAB505JBAB7w5JBAB/y5JBAB1q5JBABvt5JBABjk5JBABnp5JBABjl5JBABvj5JBABv+5KBAB994JBAB
   /74JBABx85KBABl24JBABh24JBAB71hCBAB9u4JBABxu4JBABl55KBAB9s4JBAB9wiLBAB5xgCBABrmgCBAB9w5KBABtw5K
   BAB9y3JBABlu3JBABtk3JBAB532JBAB1y+BBABxy2JBABnx2JBAB1r2JBAB/l2JBABxq9BBABp94DBAB9g2JBAB9h2JBAB3
   +1JBAB9v4DBABzw1JBABtq1JBAB7g6BBABn/5BBAB700JBABjv0JBABlt0JBABtr5BBAB1s0JBAB96zJBCBhxzJBAB72zJB
   ABj/yJBABt9yJBABl/2BBABlmyJBABzl4KBABxjyJBABzn2BBAB3g4KBAB/yxJBABjkuKBABjtxJBABhr0BBAB59zBBABz4
   3KBABl43KBABzhxJBABh/yBBABz03KBABt2yBBABl/wJBABn/wJBABt9wJBAB1kyBBAB/xwJBAB/s3KBAB1twJBAB7lwJBA
   BnkwJBABxgwJBABzj3KBABxtvBBABvvvJBAB18uJBAB9wuJBAB9z2KBABhy2KBABvquJBABj0sBBABxx2KBAB5wsBBABpgs
   BBABl4rBBABz1tJBAB/r2KBAB7xtJBABzxtJBABnxtJBAB1wtJBABpwtJBABhutJBAB5hqB"

/-- Characters that their parts are never joined to. -/
def uncomposed : CharClass := .ofText
  "gaBBBvBAJAIAwuBH8DBBAzCACAiBCCA9HBlfAJAEAEAEAMAJABBBAIARAJAEAEAEAMA39DABABABABABABA9BACAKABAHAH
   AHAHACBJABABACBkJADB9PBx9BAjxzBtICABACJBABACBDjCCpDjCABAKMBEBABBBBBIvw1BG2CF/xpC9Q"

/-- Runs of characters of one class: the gap before each run, its extent and the class. -/
def combiningText : String :=
  "gYUmHAAoHAD8GAAoHAA4GAE8GABqGAD8GABqGAK8GAEBAD8GACmHCAmHCAwHAAmHAC8GACmHAB8GBCmHAD8GAAmHAAoHAB8
   GAAmHAApHABqHAApHABqHAApHAMmHzIEmHpIA8GADmHAA8GACmHAA+GAA8GAFmHAF8GABmHAA8GABmHAA+GAAkHAAmHAAKA
   ALAAMAANAAOAAPAAQAARAASABTAAUAAVAAWBAXBAYAAZBAmHAA8GBASoCHmHAAeAAfAAgBwBAbAAcAAdAAeAAfAAgBAAhBA
   AiBABmHAB8GAEmHAA8GABmHAA8GQAjBlDGmHCDmHAA8GAAmHCBmHBA8GABmHAA8GjBAkBeAmHAA8GABmHAA8GABmHAC8GAA
   mHAB8GAAmHAA8GACmHAA8GAAmHAA8GAAmHAA8GAAmHAA8GABmHgFGmHAA8GAAmHJA8GYDmHBImHBCmHBEmHrBC8G7BBmHAC
   8GADmHqBEmHAE8GANmHBA8GABmHAA8GABmHAA8GACmHAC8GAAbAAcAAdACmHAA8GABmHAB8GAEmH8BAHQAJDAmHAA8GABmH
   nDAHQAJwBAmH9BAHQAJuDAHQAJuDAHQAJ/DAJuDAHQAJHA0CAA7ClDAHQAJtDBJQAJ8DAJtDBnDAAJNDrDsDB2DAAJND6Ds
   CB8GbA8GBA8GBA4G3BAhEAAiEBAkEFDiECAiEBBmHAAJBBmH+BA8GwDAHBBJyCA8GvWCmH0dBJeAJ9EAJKAmHrGAkHvEA+G
   AAmHAA8G7GAmHAA8GnCAJUHmHCA8GwBEmHAF8GABmHAA8GBB8GABmHAB8GAEmHAA8GARmHAA8GCFmHAA8GADmHAAqHoCAHP
   AJmBAmHAA8GAGmH2BBJ6BAHLBJjCAH4ECmHBABAE8GABmHAD8GAAmHBGBEA8GGAmHDBmHmGBmHAA8GAGmHAA8GABmHAAqHA
   A2GAA8GAAqGAkBmHAAoHABkHAA8GAA6GAAmHAApHAA8GAAmHAA8GwWBmHABBADmHACBABmHEAmHDBBAAmHAA8GAAmHABBAD
   8GAAmH+/CCmHtEAJgDfmHqRA6GAAkHAAoHAA+GABgHpDBI0udAmHEJmHgBBmHwCBmH0IAJlBAJ3EAJbRmH5BC8GlBAJ/CAH
   MAJvHAmHBBmHAA8GCBmHFBmHBAmH0BAJ2HAJw5TAahYGmHAG8GABmHteA8GiHA8G1EEmHy0BA8GBAmHoBAmHAABAA8GEAJl
   FAmHAA8G9RDmHhCEmH9JBmHtCB8GBC8GmCB8GACmHAA8GAAmHAD8GxBAmHAA8GAAmHAA8GgGAJpBAJOAJ5BAJAAHlCCmHwB
   BJ+BAHsCAJJAHqDAJAAHyFAHAAJwCBHQAJYGmHDEmH5CCJxDAJDAHXAmHjDAJAAH7HAJAAH+DAJ2DAJAAHzDAJtIAJAAHiI
   BJEAH8EAJzCAJSAJxCAJlNAJiIAHBBJxCAJpNBJsvQAJguCEB7BGmH5lBBGslTABmmFB4GACBDAiHAE4GIH8GCEmHAB8GeD
   mH0ECmH7tDGmHBQmHCGmHBBmHBEmHkDAmHgFGmH3LAmH9BDmH8PBoHAA8GAAmH+HAmHAA8GzHAmHCAmHHBmHFAmH6OG8GtD
   FmHAAH"

/-- The first and the last character of a run, and the class of its characters. -/
def combiningRunsOf (next : Nat) : List Nat → List (Nat × Nat × Nat)
  | gap :: extent :: cls :: rest =>
    (next + gap, next + gap + extent, cls) :: combiningRunsOf (next + gap + extent + 1) rest
  | _ => []

def combiningRuns : List (Nat × Nat × Nat) :=
  combiningRunsOf 0 (Packed.numbers combiningText).toList

/-- The class of a mark; zero for all characters that start a new letter. -/
def combiningClass (c : Char) : Nat :=
  if c.toNat < 0x80 then 0
  else match combiningRuns.find? fun run => run.1 ≤ c.toNat && c.toNat ≤ run.2.1 with
    | some run => run.2.2
    | none => 0

def isSyllable (n : Nat) : Bool := 0xAC00 ≤ n && n ≤ 0xD7A3

/-- The initial, the vowel and, if there is one, the final of a syllable. -/
def syllableParts (n : Nat) : List Char :=
  let place := n - 0xAC00
  let final := if place % 28 = 0 then [] else [Char.ofNat (0x11A7 + place % 28)]
  Char.ofNat (0x1100 + place / 588) :: Char.ofNat (0x1161 + place % 588 / 28) :: final

def decompose (c : Char) : List Char :=
  if c.toNat < 0x80 then [c]
  else if isSyllable c.toNat then syllableParts c.toNat
  else (decompositions.lookup? c).getD [c]

end SessionGateway.Text
