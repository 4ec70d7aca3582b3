import SessionGateway.Text.Charset.CodeTable

/-! The Chinese national encoding: pairs of bytes by a table, and groups of four that run through
all that the table leaves out. -/

namespace SessionGateway.Text.Gb18030

/-- Characters of the pairs, in rows of a hundred and ninety. -/
def pairs : CodeTable := .ofText
  "lgnBDBBRFJPBBDFFJBDDDDJHBBDDHNHDFBNBBBDBDBBBBBFDBBBBBBBBBDBBBBBBDFLLBDFBBJNJBBFDBBBFBBTHFBDPBBH
   DHBDHBBDFHBBDDDDBBBBBBFBLBBBBLBHDJBFBBFDDDDDFBBBBDBDBBBBBLDDVBHDDBDBFBFDBBBFFBBFBBFDDDDBDBDBBDD
   BDBDNDFBBBBDBBBBBBBBDBBHBBBDBBJBBBBFDJDDBDHBHDDBBBDDBBDBBBBBBBBBBBBFDBDDBBHDBDDBBFHHBBBBBBBBBBD
   DDBBBDBBFBBDFBBBBDBBBDDBBBBBBBDBBBBBDBBBBBBBBFBBDBHBBBDBDBBBDBBBBBBBBBBBBBBBBBBBBDDHBDBBBBDBBBB
   BBFBBBBBBBBBBBBBBBBBBDBBBBBDBBDBBBBBBBBBBFBBBHBBBDDBBBBDBBBBBBBBBFBBDBBBBBDBBBBBBBBBBBBBDBBBBBB
   BBBBBBBBBBBBBBBBBBBBBBHJFDDBBDBHBBDDBBBBDBDBDBJFPHBHBDBFBFBBBDBHDFBBDDFBBBBFBLHBBHBDBBDFDFBDDBB
   BBBBBBDDBFBDBBBBBDDFBDFNLBHDBFBFBBNDBDBBDBBFDFDBDBNDLBBBBBDFBFBDDBBBBDDBDBBDDFBBBDBDBBBBBBBBBDD
   FBBBBDBBBBBBDBDBBBBBBDPBBBNBBHBBBBBBBBBFBBDBBDDDBBBDDBBDDBBBBBDBBBDBBBBBBBBBBDBBBBBBBFBBHBBBFDB
   BBDFBBBHFBDBFDBDBBDBBDBBBBBBBBBHBFDDDJBBFHHBDDPFDDBJHFDBBBDBDHBDHBBBBBBDBDDBDDBFFFBBBDBBBBBBDBB
   BDBBDFBBBBNBBDBDJDBBFBJZLHBBDFDHRHBBDLDBJLFFBFFDDBDBDDFBBBDRFBBBBDDDDBBBBBBBHJBHBDDDDBBBFHDHBHD
   BBBBFRDDFBBDBDDJDJBVDFJBBBBNBFBBFBBBBBDFDDBBBFDBBBBHBDBBBBBDBBBDHBDBDDJDBBDBBBDFDFDBFBBBBDBBBFB
   BBBDBBBDBJBDHBBBBBJBFDLBLBBDDBDBBFBFDBBBBBBDBBBBBBBBDDDDDDFBBBBFBBDBFBBJDBBBBFDDJDHBDBFDDBBBBFF
   BBBBBFBDFBBBBBBBDBDBFBBFBDBBBFBBFDDBDDBBDBBBBBBBBBBBHBBBBDBHBDBBBBDDBBLBBBDBBBDBBBFBBBBBBBFBBBB
   BBFBBDBBBBBBBBBBBBBBDBBBBBBBBBBDBBBBBBDBBBDBBBBBBBBBBBBDBBBBBBBBDBDBFNDBBBBBDDBFBFBBFBHBBFDHBBB
   BBBBBBBBBBBBBDBDBBDBBBHLBDBBBBHBDDDBBBDBDNBBBBDBRBDDJDDBBDBFBBFBBBBLBBBFBBBBFBBBBBBDBBBLFDDFBBD
   DBBDBBBBBBBBFBBBBBBDBFBDFBHBDFBBDBBBBBBBDDBBBDBBHBDBDDBBFBBDDBBDBBDBBDBBBDFBDBBBBDBBBBDBBBDBBBB
   BBBBBBBBBDBBBBBBFBBDBDBBDBBBBDBBBBBDBBBBFBBBBBBBBBBBBBBBBDFDDBBDBBBBBBBFBBBBFBBFBBBBBBBFBBBBBBB
   BBBBBBBBBBDBBBDBBDBBBBBBBBBBDBBDBBBBBBBBBBBBBDBBBBBFDDBDBDBDBBBBBBBDDBDBBBBDDBBBHBFDBDBBBFDHHDB
   DBJDBBBFDBHDBFDBLDBBBBDDBDBBBBBBBBBBBBFDFBBDBBJHDBDBBBFBFDBBBDBBBHBJBFBDBBBBBDDBDBBBBBBDBBFBBBL
   BFDFBBBBDDBDBBDBBBBBBBBBBBDDBBDDPBDBBBDDBBBDBBDBFBDDBBDBBBBBBFDDBBBBDBBDBBBBDBFBBBBBBBBBDBBBDBB
   BBBBDBBBDBDBBBBBBBBJBDBBBDBBBBBBBBBBBBBBBBBDBBBBBBFBBBBBBBBBBBBBDBBBBBBFDBDBBBBDBFBBBBBDBDBBBBD
   DDDBBDBBFDBDBDDBBBBDBBBBBBBBBBBBBBBBBBBBBBDBBBBBBBBBBBFBBBBBBBBBBBBBBBBBBBBBBBBBDDBDBBBBBBBDBBB
   BBBBBBBBBBBFHPDBLBFDBBFDDBBBDBDBFHHFBDBBDDRPBBFBBBDBJFBBHBDJBBBDBBDFBBBBBBBBHDBFBDBBBBDDBBBBBBL
   BDDBDDBFBBBDDBHDDFBBBDFDBBBDBBBDBDBBXBDBJBJBBDBBDBBBDFDFBBBBBBFDBBBBBBFBBBDFBBBBDBBFBFBDPBBBBFB
   BBBDHBBDDDFBBBDDDBDBBBBBDBBBBBDBBBBBDBBBBBBDBHDDBDBDBBBBBBBBBDBBBBBFBFBBBBBDBBBBDDBBBDBDBBBBDFD
   BBFBBBBDBBBBBBBFBBBBBBBDBHBBBBBBBBBBDBDDBBBBBBBBBBDFBDBBBDBBBBBBBBBBBBDBBBBBBBBBBBBBBBBBBBBBDBB
   DBBBBBBBBBBBBBBBBBBBBBBBBDBBBBBBBBBBBBDBBBBBBDBBBBBBBBBBBBDFBFBLDBFJBDBBBBFBHFDBBDBHBHNBBBBBBBF
   BBBBFBDBBBBFBHBBBDFBBBBBDBBBBBBFBBBBDBDBFBBBBBBBBBBBBBBHDDJFBBDFBFBBHLFDHBBBHBBBBDBBBBDLBBBDBBB
   BBBBBBFBBBBBHBDBBBDBBBBBBBBBBBDDBBBBBBBBDFBDBBPBBDFBBDDDDFBDBBFBBBHFBDDDBBBBBBFDBBDBBBBBBBBBBBB
   BBDFJBBBDBBFDDBFFBFDBBDDFBBHFNBBDDBDHBDBBBDBBBBBDDBFBBBBBDDBBBFBBBBJBDBFJBBJBBDBFBDBDBFFBDBBDBD
   BDVBBDBHBDHBDHBFBBPBBDBBBBDBBBBFBDHBBBBBBDDBDDBDBBFBDBBBHBPFBDBDNDBBFBBBDBFBBBDDDBBFDFBDBDDBHDF
   DBBDBFBBBBBBBFBBFBBBBDBBDBDDFFBBBBJNBFDBFBBBBFBBBDFBBHBBBBDBBBDBBBFBFFBBDBBBBBBBBBBBBBBBBBBDBBB
   BBBBDDDDBDBBDBBBBBBDBBBDBBBFBBBBBBDBBBDDBBBBBBBBBBBBBBBBBBDBDBBBBDBBBBBBBDBBBBBBBBHBDBBBBBBBBBD
   BBBBBDBBDBBBBDFBBBBFDBBBBBBBBBBBBBBBBDBBBBBBBBBBBBBDBBBBBBBBDBBBBBDDTBJFBBDFFBBBDDDBBBFBDBBBBLD
   BBHJBJBBDBDBBBBBBDBFRBDBDBDBDHBBDBBBFBBBBBHJFBBJFBDBFBBBDBBDBBDHDBDPHDHPBDBFLBJDFFBBBJFBBBHBBBD
   BDBBBDBBFTBDFBBDBDBBBBBFBDBBBFFBDNBBBDBBBBBBBFHBBDDBBFBDBBBFBFBBBDDBBBJDHDBBDDBBBBBBDFDJHDBFBFD
   DDBBBBDDBDBBJDBBDBBBBBBDFDBBBBFBDBBBDDDDBBBDJBDBBBBFBFBFBBBBBFDFBBBDBBDFBBBBBDBBBBDBDDDBLDBBBBB
   BDDBBDBBBBDBBBBBBBDDBBDBBBBBBBBBHBBBBBBDFDBBBBBBBBFBFBDBBBDBBBBDBBBDBHDBBBDFDDBBDDBDBBBBBBFDDBB
   BFBBBBDBBDDDBBBBBBBBBBBBBBBBBBBBBBBBDBBBBBBBDBBBBBBBDBBBBDBBBBBBBBBBBDBBBBDBFBBBHFDBFBBBBDBFBDB
   DDBBFBDDFBBFBDBBBFBBDDDBDBBBBBBBBBBBBBBDBBFBBFDBBDDFBDDBFDDDDFBBBBBBBDBFBBDJBBBFFBDBBFBBBBBBBDD
   BLBNBBBFBDBBBBDFBDBBDDFBBHBBDBBDFBBBDFBBBDDDBHBBBBDDBDDBBBBBBFBDBNBDBBBDDBDDDBBBBHBBDFBDBBDBBDD
   BDBBBDBBBDBBBFBBBBDBBBBBBBBFBBBBDBBBBDBBBDBBBDBBBBBBBBBBBBBBBBBBBBBBBBBDHBBBBBBBDBDBBBBBDHBDDBD
   HBBBBBBJDBDBBFDBBDDDBBBBBDDJDDBFBBBDBDBDFBDFBDJDBDBBBBDJBBDBHBDFFDDBBBDFDBDBDDDBBBDBBBDFDHBBFDF
   FDFBDJBBBBBBBDFBBBBBBBBBNBBHHDDBDBBDBDBHFBBBBBBBDFBBBDNFDDBFBBBBDBBDBBBBBBFBBBBBBFBBHBHPHDDFHBB
   BBBBBBBVDBBBBBBBDFBBBBBBBBDDFBBBBBBBDBBDBBDBBBBBBBBBDBBHBBBDFBDDBBBBBBBBBDDBBBBBDDDBBBDBDBDDBBB
   BDBDBBBBBBBBBDFBBDBBFDBBBDBBDBBBBDFDDBBBBBBBBBBBFBBDBBBBBBBDBDBBDBBBDBBDDBDBBBBBBBBBBBBBBBBDBDB
   DBFDBDBDBBBDBDBDBBBBHBDBBDDDJBBDBBBBBFBDBFBBBBBBBBBFBDDBBDBDBDBBDBBBBDBBBBBBBDDDDBBDBBBBBDBBFBB
   BBBBBBBBBDBBBDBBBBBBBBBDDBBBBBBBBBDBBBBBBBBBBBFBBBBBDDBBBBBDDBBBDDBBDBBBBBBFBBBBDBDBBBBBBBDBBBB
   BBFDBBBBDBBDBBBBBBBBBBDBBBBBBDBDBBDBBDBBBBBBBBDFBBBBDBBBBBBBDBBBBBBBDFBBBBBBBBBBBBBBBBBBBBBBBBB
   BBBBBBBBBBBBBBBBBBBBBBBBBBBBBBBBBBBBBBBBBBBBBBBBBBBBBBBBBBBBBBBBBBBBBBBBBBBBBBBBBBBBBBBBBLBDBBB
   BBBBBBDBBBDFBBDBBBDBFDBDBBBBBBBBBBBDBBBBBBBNBDBBBBBBBBBBBBBDFBBBJFHDBBBFBDBBFBBBBDBBBBBBBDBBBBB
   BBHDBBBBBBDFBDBBBBDDDBNDDBBBBDBBBBBBBFBBDBBDDBBDBBDBBBBBBHBBBBDHJJBBDFDLBBHDFBDBBBDBHBBFFBBBBDB
   BFDBBPBDBBHBBBBDDDDBDBBFBHFFBDBFBFBBBDDBBDDLHFBHBBBFLBBBFBBFDBBDBLBBDBDJDBDFBJDJLBDBDBDBBFDBBDB
   BBDHBDBBBBBDDBFBDBHDBBDJBDDJFHJBBBFDDDBDBDBFBBFBBBDBFBBDBBBBDBDBFBDDBDHBBBBDLFNBFBDBDBDBBBBBFBB
   JBBFBBBDBBBDFBBFFBDDBBBFDBDDBBDDFBBBBBBBDBBBDHFBDFBDBDBFHBBDDDDBDDBBDDBBBBBBBFBBBBBBBFBBBFDDBDB
   BDBBBBBBBBBBDBDBBBBBBBBBBBBBBFBBDFBDBBBBFBBBBBBDBBDBDBDBDDBDBBBDFDFBFDBBFBBBDBBDBBDDHDBDBBLHFBB
   BBBBBBBDBBBDBBBBBBBDBBDBDBBBBDBBHBBBBBBBBBDBBDBBBHDDDDBDBBBBBBDBBBBBBFBBDDBBBBBBBBBDBBDDBBDBBDB
   BBBBFBBDDBBDDDBBBBBBDBBFBHBBBBBBBBBBBBDBBBDBBBBDBBBBBBBBBBDBDBDBBBBBDDBBBBBDBBBBBBFBBBBBBBBBBDF
   BBBBBBBBBBBFBBBBBBBBBBBBBBBBBBBBBBBBBBBBBBBBDBBBBBBBFBBBBBBDBBBBBBBBBBBBBBBBDBBDBBBBBBBBBBBBBBB
   BBDBDBBBBBBBBBBBBBDBBBBBBBBBBBHFBBBFDBBDHBBBDBBFBBDBBDHBDBFBBBBBBBBBBBBLDDBBHHBJBBBDDBBBBBBBBBB
   BBFDBBDBBBDJHDBBBBBBDDBBDBBBBBBBBBBFBBBBDBDFHBBBBBBBBBBDBBBBBBBHBBBDBBBBBBBBBBBBBDBBBDDDBBBBBBB
   BBBBBDDBBBBDHBBBBDBBFBBBDDBDBBBBBDBBBBDBBBDBBBDBBFBBBBFBBBBBBDBBDBBBBBDDBBDBBBBBBBBDBBBBBBBBBDB
   BBBFBBBBBBBBBDBBBDDBBBBBDBBBBBBBBBDBBBBBBBBBBBDBBBBBBBBBBBBBBBBBBBBBDBBBBBBBBBDDDBBFBBLDDDBBBBB
   BFBBFBBBDBBDBDDDDFBBFDBBBFBDBDBBFBBJBDBBBBFDDBDBBBBBBBBBBBDBBBBBBBBBBBFFBBDJBBBBBBJBBDBBBFDDBBB
   DDB1+4BBBBBBBBBBBBBBBBBBBBBBBBBBBBBBBBBBBBBBBBBBBBBBBBBBBBBBBBBBBBBBBBBBBBBBBBBBBBBBBBBBBBBBBBB
   BBBBBBBsy6CBB40XjhBGgiB11XDk/Hz0vDy0vDfeBFBt/HBcBBBBBBBNBQBi2XrC/B9zQgBBwBG1BEkC9C8B1IiIMjP0H+G
   FlDsBKYiClEbBYBwEtBE7gCGi5Sj4PB/MhgvDim/D3z/DBk7vD04P9mQ/uCE2DHEQEsCElBEw3CtVGBD/nHlx6CBBBBBBBB
   BBBBBBBBBBBBBBBBBBBBBBBBBBBBBBBBBBBBBBBBBBBBBBBBBBBBBBBBBBBBBBBBBBBBBBBBBBBBBBBBBBBBBBBshiDBBBB
   BBBBB5+iDBBBBBouhDBBBBBBBBBBBBBBBBBBBwCBBBBBBBBBBBBBBBBBBBwCBBBBBBBBB87BhsjD806CBBBBBBBBBp06CBg
   hjDBBBBBBBBBBBpgjDB4eBBBBBBBBBBBBBBBBBBBBBBBBBBBBBBBBBBBBBBBBBBBBBBBBBBBBBBBBBBBBBBBBBBBBBBBBBB
   BBBBBBBBBBBBBBBBBBBBq+6ChwnDBBjOiOBBBBBBBBBBBBBBBBBBBBBBBBBBBBBBBBBBBBBBBBBBBBBBBBBBBBBBBBBBBBB
   BBBBBBBBBBBBBBBBBBBBBBBBBBBrI8/MBBBBBBBBBBBBBBBBBBBBBBBBBBBBBBBBBBBBBBBBBBBBBBBBBBBBBBBBBBBBBBB
   BBBBBBBBBBBBBBBBBBBBBBBBBBBBBBBBqg7CBBBBBBBBBBBBBBBBBBBBBBBBBBBBBBBBBBBBBBBBBBBBBBBBBBBBBBBBBBB
   BBBBBBBBBBBBBBBBBBBBBBB9t7CBBBBBBBBBBuTBBBBBBBBBBBBBBBBBBBBBBBBBBBBBBBBBBBBBBBBBBBBBBBBBBBBBBBB
   BBBBBBBBBBBBBBBBBBBBBBBBBBBBBBBBBBBBBBBqg7CBBBBBBBBBBBBBBBBBBBBBBBBBBBBBBBBBBBBBBBBBBBBBBBBBBBB
   BBBBBBBBBBBBBBBBBBBBBBBBBBBBBBBBBto7CBBBBBBB+NBBBBBBBBBBBBBBBBBBBBBBBBBBBBBBBBBBBBBBBBBBBBBBBBB
   BBBBBBBBBBBBBBBBBBBBBBBBBBBBBBBBBBBBBBBBBBBBBBq3xDBBBBBBBBBBBBBBBBDBBBBBB39xDBBBBBBB49xDBBBBBBB
   BBBBBBBBBDBBBBBBtk9DDEDBBB9BBFBJBIBFBBB8CBlCBMBQyBzBB8pLBBBBBBBB0JBBBBBBBBBBBBBBBBBBBBBBBBBBBBB
   BBBBBBBBBBBBBBBBBBBBBBBBBBBBBBBBBBBBBBBBBBBBBBBBBBBBBBBBBBBBBBBBBBs1xDBBBBBqBpBBBBBBBBBBBBBBBBB
   BBBBBBBBBh3xDBBBBBBBBBBBBBB+3xDBBBBB3B4BBBBBBBBBBBBBBBBBBBBBBBBBB/1xDBBBBBBBBBBBBkvyDBbzzODff/M
   H5IBBB3HTH9CnBBvFhpBBBBBBBBBBBBBBBBBBBBBBBBBBBBBBBBBBBBbBBBBBBBBBBBBBBHBBtCBpCBBBnCq3B53GVB757C
   BBBBBBBBBBsszDiC5O+OlD2CjDoDlE+DlOqOhG2F9NiOxHkHzN4N5NDDDiOmBtW7+N4vOHhLvGv2yDBBBws7CBBBBBBBBBB
   BBBBBBBBBBBBBBBBBBBBBBBBBBnq7CBBBBBBBBBBBBBBBBBBBBi87CBBBBBBBBznB1OBZBBFlCTFBF1llDjbDmgMksjD/wI
   j76Co9jDn9jDBB2u7CkGBhGByPtJB16mDBBBBBBBBBDBBBDBBBBBBBBBBBBBDBBB8inD+EBBBBBBBBBBBX5+7CBBBBBBBBB
   BBBiwhDBBBBBBBBBBBBBBBBBBBBBBBBBBBBBBBBBBBBBBBBBBBBBBBBBBBBBBBBBBBBBBBBBBBBBBBBBBBrrhDBBBBBBBBB
   BBBBBoz6BBDFBBBBBFBTBFHBBBDDBBBBBDBBDBBBDHBBJBFBDBBJDBDBDBHBBBFBBBBBBBBBBBBDBDDBBBDBBBBBBBDBBBB
   BBBBBBFDB9o2BBBBBBBBBBBBBBBBBBBBBBBBBBBBBBBBBBBBBBBBBBBBBBBBBBBBBBBBBBBBBBBBBBBBBBBBBBBBBBBBBBB
   BBBBBBBBBBB4u2BBBBBBBBBBBBDBBBBDBDDDBDBDBBBDBBBDBBDBDBBBBBDDBHFBBDBFBBBDDBBBBHBDHBBBBBBDBBBDDBB
   BDDDBBDBBBDBBBBtm2BBBBBBBBBBBBBBBBBBBBBBBBBBBBBBBBBBBBBBBBBBBBBBBBBBBBBBBBBBBBBBBBBBBBBBBBBBBBB
   BBBBBBBBBBBBBBBBBos2BBBBBBBBBBBDFBFBBBFBBBBBBBBFBBBBBDBFDDDDDBJBBBBDBBBDBBBBBBBBBBBBBBBBBBDDJFB
   BBBBBBBBBBBDBDBBBBFBBjk2BBBBBBBBBBBBBBBBBBBBBBBBBBBBBBBBBBBBBBBBBBBBBBBBBBBBBBBBBBBBBBBBBBBBBBB
   BBBBBBBBBBBBBBBBBBBBBBB+p2BBBDFDBBDBBDBDDBBBBBBBBBBDDBBBBBBBHBBBBBBBBBBBBBBBDBBBBBBBBBBBBBBBBBB
   BBBBDBBBBBBBBDDDHDBBBBBBFBBvi2BBBBBBBBBBBBBBBBBBBBBBBBBBBBBBBBBBBBBBBBBBBBBBBBBBBBBBBBBBBBBBBBB
   BBBBBBBBBBBBBBBBBBBBBBBBBBBBBqo2BDFBBBBBBDBBBDBBBBBBBDDDDBBBHDBDBBBBDBFHLDFFBDDBBBDBDBFFBBBDBBB
   JBBBBBBBFBBDBBBBBBDDBBFBBBBDBBDBDh/1BBBBBBBBBBBBBBBBBBBBBBBBBBBBBBBBBBBBBBBBBBBBBBBBBBBBBBBBBBB
   BBBBBBBBBBBBBBBBBBBBBBBBBBBBBBBBBBB8k2BBBDBBDFDFFBDHHBBBBFRBFBHBBJJBDBBBDHDBDBDBBHHFBBBFBDBBBDB
   DBHDDBBBDDBBDBBBDHDBBFDHBHDBDBHBDBBDHBDj51BBBBBBBBBBBBBBBBBBBBBBBBBBBBBBBBBBBBBBBBBBBBBBBBBBBBB
   BBBBBBBBBBBBBBBBBBBBBBBBBBBBBBBBBBBBBBBBB++1BBBBBBBFBBBBBDDBBBBDDBBBDBBBBBBDBBDBBBBBBBDBDFBBDDH
   BDBDBDDBDBDBBBBBBBBBDBBBBBBBBDBFDBBBBBBBBBDBD03QpvgB6nfp2F2lH1D0Eh9QsE/uH+0G/oFk/E6lDtmSpPs2Vgq
   Ig5F9wJ74Bg+EjkSmrMrmM6qN3sIstS51JrlGpkHlpEm9blrEpmEx+GzvJk2P2PsmHzD9tT45UxjSi7L/tCtvV16E6ua94O
   6rU19fu9L2yGpkC+qH9qHyjJutKp7e0kV1zLuoK3lHk8H0bx7PplLmwYxsF29H7Fy5J96S05Q6K3iW39IynZvlFrRn+LgrB
   ggLl/Ht8GpsHqsiBt5du0EigB09W5gb8qb9lSFDDBNDHBDBBDBBBBDBBBBBBBFFDBBFBDDBDBDBHDDBBBBBBBBBBFBBBFDB
   BDFBBDDBBBBJDDBBFDBBDBBBBBBBFBBBBBBBFviHp3I6xjBnkE/0gBq9enxDa9gCp8SnhIwoVwpFjyIg+Lk2G2Dhne6rHhl
   Gn4DqpiB1rRk8Mn+D7iIj5Lw1X15Uo8N3/JggP78Q28EyjEh3QjZnE9vHw2Zp0SsgLy5N1yM9iGtGy2MHIs9GrIj3Ln/Pip
   YolD1Lz9X+tbhwU5rH39CjVq/DoqIrhH4uVmoJxhC2HzkeBDjKukU8pE7iR/sD7mK40di2H9/R+rL/hDrkF2O2yJzoEotJ1
   DnhL46M/6Vl7P0sUzqDBBBHFDBFBBBBBBBBBBBDBBJBBFBBBBBHBFBBBBBBBBBBBFDBDDFDBBDBDDBBBBDDDBBBBBBBBBBB
   BDBBBBBBBBDBBFBBBBFgiBg1Lp0KpiIozPsc58Yo9Ty4MwJ30IlrY+yMsmW3uH1hSiSnHu2J2Vx6W+xb0/H7Z12ZsoYo9Er
   /Hj2GztIxqKmtY/sCrjHp6Kk3QowCptVu7K5rL75B+lZlnSpU9+J+0iBltZ2wN+pFMt5H7kJ6J+1Zn9OvyMmwQ3gM6tJqwB
   /kOq7Xh8Tg7Vpe97N0wI1iZ4pV0gIl2XTk1N9sIwnK+lEpLzVx/WkyU7yCroS2nUuE94RjkJq3GwvGj9K4kjBx2jBnpBypZ
   zwG/sCDDJBBBDBDDBBBNBBBBBDBFBBFDHDFDBBDHDBFBDBBDBNDDBBBDDBBBDDDDBHBBBBDBBBBBBBBBBBLBBBBBBBDBBBD
   BBBBBB00QluC1hBt0biwiBhiY+xW39It+HqhQixCn2ekwVzhZk4W4uI3zM64I86E5lOntPwvWpjBkQyiC5gI32QkxH58Gy5
   Z/kFwnDvpG97UwsEsxC49R91KmiR1oJ0kEy8Gi/Cl7VmyM1pHrlO41U95W5mFwqQk+Sh/QovJy+Ht0M93RqsYp1dsjNn0Pw
   /nBjrGzyYg6GiiNvxFy3P5Gxraq2UwW5xD9qXy/NvpM6+JgyMvnNmrWhjYo3Dq3U39Zi9XoCtnM0sL9td5nD1c+gUl6T2wW
   zyHBBDDBHBDDBBFHBDDDDDBBBBBBBLBBBDBBBDBDBBDBBHBBBDBBFBBDBBBBBBBBBBBBBDBBDBBBBDDBDBDBBBBBDBBDBBB
   BBB6My5T9yTw8Jr9SmuY9tFugDjqOm0I8hNxxZkqWu2D33TxuCsjOvCp2bq9hB7hBhlOqxG76Ym6elqHzxBvkUioe3uM3rI
   l3Eg/S5rO4zEl3GwmF1gP+yDulX96JrtL0mQ2yMrxdgjRx0KtgCi4W4+ByjCoLr7BrsVnvKq4KqkW3rf+pJsUsjLo1DymGz
   lYswFvrD8sHn/IgpM0/F/JltO8hK4J0GgI7+Y6uYh5V2mK4yCu9J6yEkuClzLutNh5I+gC/1GoqOnlf6qCuwUxqYkyLBBBB
   BDBBBBBBBBBDBBBBDBBBBBBBBBBBBBBDBBBBHDFBBBDFBBBBBBBBDBFBPDBDFBBBDDBBBBBBFDBBBBFBFBBBDBBBDBBm3M5
   hQy3O6oK3xCl6ei0W7wOiuNvkDyuOv6IlvG5/OsqWj5Ty3T78Bw8ItgZ+vNomLl2IpuVujfxoG3tO43O68E1gUg4Mt5X63M
   iyLiC5uLv+L8/O3gD7sCg6Bw7S/pfgncutEr6PrvQ+pV98KwlEiyC1jJ+vSn9DiiCs2Dj1Wu1EgxOjQlvY+vI34M+xap0Fh
   9Eg+Dk0Pl+iBi7fz4Om/Sp/SkqL9kBu4D/lKkgBzsG8oSxthB2wiBrDv4Ig4HxogBipExco5NrmDttHtnEi+B8icl7SBBBB
   BBDBBBBBBBBBBBDBBBBBBBBBBDBBBBHFFDBDBDDDBBFBDBDBBBBBDBBFFDDDFBBBBBBDBDDBDFBDBBBDFBBBBDBDBDB4hW7
   uUkwR1pgB5+BvpDk+Eo5cvgYi4eO/4BtrZkqR2xHl2KqnMntIirHl2Nm8NzzIhwBzsY4hFh9BgkNpyN25Mk5FvrDjG9wMu8
   Zn0Pl9Ki/Sn+WuqKq/Q13HgpK51QmwB70Ou4UygDh2MywTsrD7siBuidi1BkoCzkd6wUxxZ45gBx7eg6Ol0M2rWksHnlC/B
   gatxb83TpsTs8Fq/X9qH4tExuXuhV51gBkonBxtkBquGq5YhlDmvGvvHl9WlL5nEuxcl6P8sXnvXgiSh2eqkWsqPh5VDDBD
   BBBBBBBBBBBBBBDBBDDHDBBBBBDBBBBBBBBBDBBBBDBBBBBBBBBBBBBBBBBBBBBBBDBBDLBBBHFDDBBBDBBFBJBBFFB7oJg
   2cx4V4gCgkWkMh7jB4yU1vDxhJo+Tn2LhpFk/Kn/GnpOklLimWpwP0xOtgektGriF2nN7rTmpWk5Kx2V2vOhvN4mPl/Z2oe
   0qF/reswG63MnrP32J8/gB53hB0jM43Wltc89bzpW4hRxhHhoQ8oF7qHkzej/LshNhrWy1T17M6pC1gI+zR+kFjwIpSr4N2
   nXh9Gz6Ft1PmhV1hcl8BgyRmrCpyPonf72W/pGqnZs2D0oB1sCpwC3kG5yNgzShwD3E7sW40Yz9GtwHwhWxMpzLr5JBFDBB
   FBBBBDBBBBBBBBBBDBBBBBBBBBBDBBBBBBBBBDBDBBBHBDFBBBBBDDBBBBBBBBFBDDBBFDDFBBDDBFBBDDBDDBBHDHg8G3D
   p+FjyH25UnhLkpJ1uWu5f5+gBsjWv4NjCsrRnrRniGswdtxbp8B+jayoE8an0jBu+Rl0Hr6Fo1Yt9XhqF8rel5S2oVreyGt
   9a6qTxkCtxVo8O8kEwhIrqLm9G1I7yJ75CxtGwlWtqMqmKhgU49djJvohB22KlW0e4hRv5IgtDxnK+0C5kS00M4fgsBwrMj
   zYkxNs/S1JtmL40D0fpje20O21FwyRtviB+wJgiOvqP5xHlJyamsjBz9CptViqLr6S28GkyM2lE9xQ2oCBDDBBBDDDDBBBB
   BDDDFBJDDDFDBDDBBBBBBBBBBDBFBDDDDBDDBBBDBBBBBBDBDBBFDBBBFBBFBBRBBDBDBBDBBBBBBBDBBmgS5nUy6LmrFr1
   D6pJ78G5yfggoBhxfi0e9jFv2B2SpnH82E/iVi7dvzhB46gBh6M/jLygIszNj+Hx6S+ga5nbs9FmzXvvT8lW54O01IoZj0i
   BgzlBruZ79JknHu5F61NxzZq4gB58f0piB7qR6oRh5EhyD//S6qdznKuqB/sEw4LpiFy/EjickiHp+OujNkmP51HluOu+dr
   zG35Y46Nn1KwpZvxQovM5kgBs6EmpDn9F41H02KujHuG7gTsLyvd50eirQ8gDvjWyhCi/c9pI51Q7sDgwd5vTFBBBDBBBDD
   BBBBFBDBBDBBFBBDBBDBDBBBBDBBBDDBBBBBBBDBBFBDBBBBBDBBBBBBBDBBBBBFBDBBBBBBBBBBBBDBBBBBHrnPg1f7gJk
   Vk4O7wGntfqyE47XtwXzzD+7hBz4Mo+Is9E54B18U1JqzNgXnqBojCkT5nIorCe2xJ7jH5rNs1UwkB39agoQjvSi2bzpTii
   Wj3MqvMvSz9WvFw5Nr4ImzSwzClrCzsRt7Kx3Eg1UpQl7P4lCn1K2yI4vbjpkB6vU8kLv1JynJ62FqlDj4NtjPghU7xX6qd
   nhOh6Kr8LsxY45Ix4Bz4P0xU29Cp4RyvPmKk4Bp/B7G+iD96I5lKq2Np3V24BlpDqqKz/EqnH5+GBBBBBBBBBDBBBBBBBBB
   BBBBBBBBBBBBBBBBBBBBBBBBBBBFBBBBBHBBBBBBBBBBDBBBBBBFBDFBBJBDFBBBDBBDBHBBBBDBq5OtyTmyYv3GmhKvhPo
   nFznQ29W0Y/+P8mCzmD0yRnQtsc8gRukFrH7+GgqLl9J5oE61Fp4TssIk7NgsBg4FrsQvnL80Nm3B8/IptBttSugRv3e28S
   5lHizFi6CwpSrwHrlI0wFw/DhgBh8V+5N40GnmW68XpKjnTu/XluK8yFlN+hHt5Gr4CxtTm0JouV98QmqC32P9D2xG3oCs1
   Os7FvugBk/WrKzkPuwPmiPj1Q30Jk6QsU3jbu+Eg7J83Tl0C3L/zH7jHpsC+ErazSBDBBDFDFBBBBBBHDBDBFBBBBBBDBBB
   BBDBBBBBBBDBDBBBBBBBBBBBBBDBBBBBBBBBBBBBBBBBBBBDDBBBDBBDBBDBBBBBBr1BxtM62E0jQp+N3nJsjiB5vS/BiwV
   v3JtVxrTq0JxnN6vhB1lGx5K60EgwMr1D79Ro4Nq0IzyX0xR7uTgmRiwIl+EslG9lV4yTrnHrpG24IG99Xd+8SuhDxnbmre
   n1S8DkqU76I+nHu8ElkGuxEzrY/yK60F6gM34PwniBp/Us0V9rMvsZ87f1rIp1Fw3P3rCnyPzrNuqSm9P5yXtcyvU34SliC
   wmNqNpsI2Dq5K7H9hMo5V5nB4Jh4Ys3MxpUgoCqMi3B52Fk4MwrWhkXBBBBBBBBBBBBBBBBBBBBBBBBBBBBBBBBBBBBBBBB
   BBBBBBBBBBBBBBDBBBBBBBDBBBBBBBBBBBBBBBBBBBBBBBBBBBBBBBBozW18Yg+X7xjBg2VpH+N8qHsgHtuEziB/zIwOtyE
   pwHoiOmxH3lZmpchlf3tCqwIwjO9+H49D/8HmlZrihBo4R5zW8ngB40Bx0G1uYswOukUp3Y0jHhvLv6HukNuFgmWztJ3hWu
   fHy5d1qT0qLyEhuJj3B9lH99G6gag4Ht9X+iNqO0/Bn/Jj4B6+Gj9I/wFohYjkEt7RqyB01G8ySqVztTrkLk6Xnb50Ow6K5
   iWwwhB1lPzjOyjG9/LkmjBl2el7Bv5DyyYrzJ/kLsuPq3BhiIBBBBBBBBBBBBDBBBBBBDBBBBBBBBBBBBBBBBBBBBBBBBBB
   BBBBBBBBBBBBBBBBBBBBBBBBBBBBBBBBBBBBBBBBBBBBBBBBB87Q44EnpYq+Y36Yo7FsuIjkb6gnB7hJn/NY3hB2jYhtewv
   SxhZgTutfxuG/+Xy9apkL54QwnOE+xU9uPx+E+qL3oLziC2wFtlSy6kBljR4hRpvhB06ev6IrJphORw3Wl6Dx2MrgRysahg
   InuBy3MnjfgrL24Ti8Dx2R46U/mP36Jy4O3Ju4CknGrmehEhxD+ziBn/BjwGp8HskPxuIlvdqiiB0/EhxTi8R12V8lNrKmq
   B9Qq4JhiRn5Luhc5gdouGu5TpoW1tI6whB/nB/tE/vQBBBBBBBBBBBBBBBBBBBBBBBBBBBBBBBBBBBBBBBBBBBBBBBBBBBB
   BBBBBBBBBBBDBBBBDBBBBDBBBBBBBBBBBBBBBBBBBBBopXxxV04Gt4R76EgxiB2OsT7UhlFxuC74Cy4Lx3H+1H/hDm1CrnC
   9rQmQqlM/rBx2NsoN3Ds/Jl/Q72H6wO5+G3nT0+fn2V6uNrQ/9Hj8PusP+tQikCqMpkN0uO/Ot2E3lYg1F62VlmB5sEmyEq
   yB5kT2iN6vCllEwQ8rH/nH6pDv+FmsJj7StkEhpHquZhlV66X2Y/1FztV0vGy5U/hS+8VjkI+iCh4H8hM9iU+oE6nFx7H0M
   g0ImkKuyBpkUshNr+O/8EwyVl/gBkslB79WBBBBBBBBBBBBBBBBBBBBBBBBBBBBBBBBBBBDBBBBBBBBBBBBBBBBBBBBBBBD
   BBfLNBzBbPZhBLbxBDDBBBBBBDFBBBBBBBBBFBpjNkmc31GgyLjqHisBulG3/FoIu5Bh0bkpfr0Fm0Gz5Yw9CxlH8jd1kX6
   kOh/S0nEonVp6G0yCvwMliNkqiB3iPnpOojU18Su/TnzOqkH8d/xCknFv2EmjKngZw7UllD6gF4qI96P95GspYxnFp4bkpQ
   6zB4sNmoCtqkB2Yg/HqrGpmC+gWhnD/yGx8NihCk5H0/B5Gw6Lhe/wKx9E5kW8tR0vElsDyqFlvCyrG7nVvtFy2R5kFsDs0
   XvgK29M30CyN54SyrS8Vka8PpEr4XFDBBBDFBBBBHBBDBFDBBBDBBBDBDBBBBBBBDDDBBBBDBBBBDBHDBDBDBBBBBBFDBBB
   BFBFDDBBDBBBDDDBBBBFBDBBBBBHBkgFxuCtc8+HhhV4hiBv+Q25PiwC1mY71B3iGj5CwqblVl4Gw4Hl0D59Nr8JorahnIt
   gHshBsuVvrL/iK77C4kaj2gBxkBk1Vi9Lt1e61Th6Ni3X5rS08B0+Kv9ZwlQiuQ3/KhuY8oblsDm4J1qb2/LsiP1mQpS6pG
   /1I9hPmukBtohBliGoxXi/Nr2dqychrHnuI9jIpwJ7oEksF84iBnmY+8WxqP//Sy8cx9diqiBmwCv7P52CslFtrHnyQujSk
   0R3gSouE+0CuoL3inB+0Pm7VlqT8HpyCFBDBBBDFDBBBBBBFBBFJBBBHBDDNBDBBDDBNBBBBBDDJBDDDBFBDBBJBBBDDBBD
   DBBBBBBBBBBBBBFBBBBBDBBBBBBBBBBBxgLmwf71Fp2Z4sWy3H7/Eh9LqsG3zTs6Jq0XlyiBs/cx/IutGglI1uZjjLjhBwg
   TrqPo0E8K5zIkyXriFgjNhvbyharkcgmjBvsgB2ziBjiLi2EKnrR3zDmiNqqG3/JoqC1hI0hRpjDk7D33Jk3NqwC9yKp8Iq
   sJ5sWykgBsFp9O/gJnwG85D55BomEnuIvuC23MvvP06I4rCmyL12W26Nq1SlziBiyVrmChoHz+JrBwmiBqgBn7B41ErjoBi
   1lBjnegsHw3E//QqqJ8gMjjLwhP25Cx8Gl1IFBFFDFBBBBBDBDDJJFBBHHFDBDBDTDBBBBHBBBBBBFNBDBFPNDDDFBBBDBB
   DBFBRDDDBBDBBBBBBBBBBBBDBDFBBDDBBBBDzuFw5ExJ0jGguF2jGn+RmpIz9HphJg0U//F1uOw1gBl5Xi3Y1qG9kX3Kivf
   l2SkhG1OhvUl5Cs6SosCvmFwnO9qdm3U97Jw2MwlFwhBhO70dd4wjB/xa5I8+MljGhlPshRsnFw0G/8N1mNt8CsoN1xJ49B
   wvW70O4pB5+H0vO/kNu1V3nBtoFtlHp9Di2WyE3X/1D3tS5lM4oKywPp7J3kH+/Fy5Fk6HiwCv3VqqK6lCm1E//Ji3IiqC7
   0ag/Xh5QnoLuzEiugB/G96bq7TvsOBBBBBDDHBBFHBBFBBBBDBBBDDDBBFFBDBBBRDBBBBDDBBBDDBBBBBDBHBBBBDBDDDB
   BBBBBBDBBBBBFBBBJBDBBDDBBBBBB21Ov5Qi/N13LqrEgoK1ub4pcjnC/nOowV/ijB8iZpnBm0J7mdkkF66MgpF0wCz5Hy7
   R5xFtgJ2zJ1hH0lEu3FrnHl9Cr8HvHgwC99Dw0LshH2J/kgB8/BwobtpS8pJo9OlzFzpTysTk/C/9Qt4Qq/frlGh/OspQ53
   aoiUq3M9xiB6/jBn2EnhTg1Tp2e0ujB1rO0qIlqDg4J99B3jX1oH60QhnLomRqlCzkN0gK2Tu4B89Ct2b/pGi+gB/wDlvOs
   sSghD39fFy8T8tGvzD7vFkwQn6EllTBBBBBBBBBBBBBBDBBDBDFBBBBFBBBBBFDHHBBBBFBDDDBBBBBFFHBBBDJHPDBDBBB
   BDBDDDBBDBBBBBBBDDBBBDBBBBBBBDm4Pt/E53C++HhkZk/KrlBi8Jw7Nv2Gi5C2sDv2GgqDlyGz7PkrIsnJqUxwN1wHqxb
   hkL7vZknZhiNi4Yg+B7iO2zLzkcy4NwhK/fhiK02IpMzrHqrJ1qHsQ+jEvlF/3DvfqdyaizRtby4C1kIlyDxmN3K4jPshH+
   lBroP99Ln0CivQ0mMjmWkuU1vY/lCrxE8xCq+gBjzOquL9wQzWy4KhlH4WkiI93SmhOj6H13Bh7C8pNn0byudx0Kk0QlqQt
   yPisajDoiI56Q+lElpLBBBHHBBBFBHBDDBBDFHFBBBHBFDDBHVFBHBBFBDBDBFNLFBFJJBBBDBBDDBDBDDDBBBBTBDFDBFD
   BHBBBBBBBBBFBHDDJHD09Wz9V64F3Ps3RpqRouSr0F1yXs6Hy3Vv/Q/kUgcu9U/9CroCkuK7xJ0qKp5au2F2mct5VugZvxE
   94VnR25SuoGxwR7sLs3X+uC15K14Vkkf7+O/wR01Fu1JgkV1/HxqZqjjB/ra1NyHxM+tW/1HkjI12HvvD1sPq1SnzEmvE1h
   CqyB6/CgmEy7Fh8Bj0OqzD5rC0xNp1Lq4H/hJ9/EylMjgS/jP03ch3JQ/0Q2xGsvYqiHlK7yCjyC1rPq6Q36K/6RksYz3Gr
   GvsP4hU76PBDBDBFDBBBBJDBBBBHJbBBBBBBFBHBBBBBBFBDBBBDBBFBBBDBFDDBBBBBBJBBBLLFBFBBDDBDDBDBBBDDDBB
   FHBBDBBFBB83R5sGvzCghIviZtDm4gB7neokKgqWt0ey6erloBoiFDumhB9wOtwQ+xR9uPoia1zCn9GxCg6Bg1JxvWycovT
   7pW8/Sv2Bp6DjvVw8X+uCh+Dj0Ho1UnV9jHh7c6uZ3yN4uR+xG7rVuoU5vYiva1hJnlNliNkviBoQnzVm7Ci1Qp9Xw+O1uK
   i+OnqIhtVw9D01Rq+Nh0BroNwzEra37C42Fj7bioGk3Wr7K1jD6Ko7VxphB+qOk8Dy2KhnduoSrsQkld34Zq9P57TwmZxif
   klW78KBHBBBBFBBDBBDFDBBBLDBBBBBDBBFBBBBBLBBBBBBBDBBBBBDBBFBBBBBBBDBBBBBBBBBDBBBBDJBBBDDBBBBDHBB
   DDFDDBuqY/lDp1iBy+Iy+c50B95gBq2YvlVmtSk2NjmSwtJx7HqnQpG5pWuqHn6CqsRrtlBopatrHjlPw+GszE+mH5I2jQz
   kLhxGigOnjGkmHjva58GuwbpmO69On/HkgM4iFQlxIzhc6ukBxqek6ct4DhySwlOw4JvxLw9BzyQhZuWziC0/K+tB8vJxxR
   4zWjjJ1gCprM/qB3tCowbvmFyf9ib+zgBz+OyvN/7bzkD9rDquI6uIjrQ/N2kU9zKq7Rh2C/nErxL2rBp1NsmiB5vam1fv7
   C3rYBBBBDBBBHFDBBBBBBBDDBDBBBDBBBBBBBBBBBBDBDDBBHBDDDBDBBBFBDBFDBDBBBBBDFBDFBBBBDBBDBBBBBBBBBBD
   BDBBq+apkL7uB+nJ66D5+Krobgjc06D55MlhH0sK4rCwgMtqZ64FmsIwwK/lNvhJu/WzqCx/N5/E0wKv3GhyHm6NytFklF5
   1P7uL93G1Gi5Y3pU+6FgjWhtL+gFtuO6pT+2EjiDxgcowTmkM/gHxtWklQq1C9rLuyEr6Io5X3viBs+d0yD58dy+I42Sv+Z
   ooD4rCBx1FmyUikE50CvjGp7F/nJw4JqwByrQo0Cl3f2rQk9JpqSw2CutGwuI4SnqNn6Fi3PxsGwyK9iOLorB4yP36V/gDB
   BBBBBBBDBBBDDBBDBDBBBDDBBBBBBBBFBBBBBBBBBPBBBBDBBBHBBBBBBBBBBDBDBBBDBBBBDBBDBBBBBBBBDDBBBHBDBBi
   oHuCmnSlnX07UpuDwtC57MkzGjsEv1Og6XxjVizZjrSsvKvvBuzL9hlBgmJmuVviYq9b/+RomU9sGvif4qgBn0C1iNglQst
   Fx+Mq3MjmKr6Tz4C+1e/2JolI/Ir5c8ygBvL5jhBr6Dk2W8gHhkBgqCjiX9gBgqT4uB10b+gftHx4D2lHwV9kR0qS96Z24O
   hRttByvEhwWg8d7jXkkK77D0yTvuf+9Y9iL/gK+xPvExpM74D58LlFmshBhtFhsUg+TmLm1CxsMklRhjDzrDh8EhlLBFDBB
   BBBBDBBBBBBBBBBFBBBBBBDBBDDBBHBBBBBDDBBBBBBDBBBBBBDBBBBFBDDBBBBBDBBBBBBDBBBDBBBBBBBBBBBBBBo6S+h
   Hr9W07N3hSw0JqyL7gFgyCviai1hBhnPn8M88P5yF5qBi+S73R7sQ+lLv9Eg6Jk0I56EmxF2RgmHt+En6M08S49C71O1wK6
   oSwhDvPk6DDrjlBg4d14EzrMujQ/nckoEunahjYxD09T3jP23OkuHjtWrpH+4gBx0W9vJi4J66V71D7lLivJzgYu0FpvI6t
   GswEruF7gIH26L7+NskR8gOr9O1+KpmDy0OugPrgE36Lr8EqiOw6JliV0xFjxE99LksZq/Eu3E5qG2gBsSp6WBDBBDBBBBD
   BBBBBBBBBBDBBBDBBBBBBBBBBBBBBBDDBBBBBBBBBBBBBDBBDBBBBBBBBBBBBBBBLBDBBBBDBBDBBDBBBBBBB8vJglI5yV6
   Dk0GrgByiQ6rH/vM7mSqjcttD9mGoyK5vG/tUgwLm0D+4LpyJ/2FooD/rOsCmqaxoKlqOg+HkxK06HnrO0kC6gKj9FyiG7t
   I1rM4oWr8T+rWjqf+uQl9PqrO61G3gFxTjhI7xCk8N/7T4iR7pU+sFklZjyM12JumCm8F7sK49Q4lL78d9uDk0YvsaqlFys
   c0iD36LinIrkF/rGm1NrgFiyBjtKi5KpsOqBirKv6Q+MsjP/kChoUyqMxrLgM54D4qbkpFtKtpOz6KDBDBBBBBBVBBBBBBJ
   BBBBDDBBBBBFBBBBFBJDBHBHBBDBBBBDBBDFHBJBDBBFDBFBBBDBBBDBBFLBBFBBBDDFBBJBDBBBFDutN00G4pHgb//H5oC
   5wPl9G28T7xU47Mw6R/sgBy3ah4NgnJkzC5gM54BqwEq2S7hJk2E1tbwhf18T7Lo4RnpEjoYmpRmyIk0CgxB6rBxvO42Lrs
   G1uaqxLr5CphBrtDm+dhlEh1S2uP+HxtPnwOs/D7iCbg1Yy4H7yEs5Gv9GglHjhZ85M0zJluNr7JmzOqlJrzZ8xW90H1yCn
   tSsklB9rR42K1wO21K5xB3jI48KizCmVmkG70Z4uKhyD2uSvuMv8Lk9PznDhSo0DqlD5HvxWDDDBHDBBDBBBDBDBDBDBBDB
   FBBBBBBHBDDBBBDBBDDBBBBBDBHBBBBBBBDDBBDDBBBJBBFDBDBDDBBBBDBBDBBBBBBDBBBBw9Uhe8jGpniB0gEy5Tk1Isc
   /6FsqJlxQt6Hl9BtU2jVsrFVnxG7mRm4L/+OwqY3tQn3Fk0V58iBmgmB/tPr+O2gYt2CsgHnrRu/DhmMowQnnYm0L+nVv/S
   ttBnuM8ggB/9UotFk9Iz/Ru3M3vG6oM/4B2jJznIjqEypHg5E3kgB6ljBphP14Pk6Xp5E3rOs/M0mKWt5LsGmtO7qK2/Hrt
   XkxZhK/6D3qFnva2pYpgG22P+F7/G/0V49Sp4F0gF9+Q8yIsF84IsjIogBxugBwqR1yKBBDBHDBBDDBBBDBDBDBBBBDBBFB
   BBBHBBBBBBDBBBDBBBDBBBDBBDBBBBBBBBBDBBBDBBBDBBBBBDBBBBBBBDFBBBDBBBBFoiHk5MomB5nBnxQyoUt8DvqIsJs
   kB2lB/iD6/DxiPioV88HllGwxCt0f68Tn+H75M2oatrOyzD/uH41Z1/hBy4DgxUu6Ek0G50RmuS15Cx2C6vC52Hv6Yi+hBg
   nBl8mBy/O6+U3mcitC8hD17JqmUymH2lCj3F1iY0rRmIg3P17W1gMq+Mw/R5sdwCk5Lw8Du1Rn9gBliCy+Ol5G6uNw/Pl3Y
   gnDhoJovVuiGmiD78kBmodzmGm5Mj0B/kc2jE28FtqP2riBnqBpb5lfy3To9IhhJo3Dh9QBBBBBBBBBBBBBDBBBBBDBDBBD
   BBFBBBBBFBBBBBDBDDBBBBBBLBFFDDDBBBDBBBBHFFBDBDDBBBDBBDBBBBDBBBBDDBBBBB4pWmLnsGpnM+xVx5S08K3gC0r
   N3qOtgO5jI6jiB/8H1R/mW+wVpyN90FwndtxLyzKhoakjT3vFtDtyPk9Xx1U4vB5lJ0+UvnS4+Us7CyDm+HnmcuiRr0N6jH
   gjJu4H5Jz3Ct9D/zYulEr0E2xZttEyyDqlDgpEjLjwXi/Wh3M1kV2zS0nR5N/6XkmMy3Il0fy0NrtHo7EqkT52EnvauqImk
   YlmhB4ucviWqvDlpG+3enhJ+1D5sLyvKzwOgvR1mSF3nIm8c3/CxwC9xCx7GvyKDBBDBBBBDBBBDBBBFBFBDBBBDBBDFBFB
   BBBDBJBDBBBBBBFFBBFBDDBBDBBBBBBDBBBBDFBBBBHBBBBDBBDBBBFBBBDBBDDjtDu6MrMh7DzpM09IsjV7wPrnO2qHs3a
   nsPs+IjkDr/Sw+Xnnf+oev6GjNj1PD1lCsE2jehzHz2dN8+kBshDjpaqmIlkKu4Ul0V2qNrxUq/gBwjD3xe8qN6kO30gB2y
   SuuBttE4qU9+U7vH0mV5kBzwV3pH+oBi4Sg9B43JpmFl5JhxI0zM91JokVp6M0kP7oStqPi8gBpmFz8I63KrmYjnH0wXslJ
   hwiBykSgoJ6vC8vJjjTx+EgoJvyU6gVwzOjuTwlS3rLtwDj0QixH29T/tNjsKBBBBBBBBDBDBBBBBBBBBBBBBBBBBBBBBBB
   BFBBBBBDBBBBBBBBBBBBBBBBBBBDBBDDDBDBBBBBBBBBBBBBBBBBBBBBBBBBB21SiiE7jaq9Kj5I0kZ+yCn1W9WjhDk4Eit
   LmuJv+UggHt5PyhgBw1BrhlBgua63K39C5vJvlNgjUrpKm7PxvF+7C1pI1xYq1iBoJx1c5iI01f/xb6lLkxVrgZg2FgxEuu
   Iqbp3Cv6E33Owmbv9G05Hz4U+vUp5Z0+Pj4B7nVyha27GzrI5kRjnHq7H0tFswT7ids8TrrFggG83IhoUyiEh0OsD3F0Dgt
   WzvQiD+PtmCrD4oWttK3jWgc0je69CttgB4wTuiJx6esze3tB13b+uGBBBBBBBBBBBBBBBBBBBBBBBBBBBBBBFTLBBDBBDD
   DBBBDFBBBDBBDBBDBBBBBBBBBBBDBBBBBDBBBBBBBBBBBBBBBBBBBBB8qbh4XisM87H3/hB69fnpQhpC1GB+L/9BtoE6mB2
   pLw1Lpyc2iQ6kJk0IrgHm4J/lZ4/FixLphcosEkxD2mZnmMxJqV07Fy7GhmR4qLs2Hv4I0Lo8B5wM53NjhCwgRigD9XhxRi
   kV+zJvCmqCvnhBy9C0icnrFr0Y+9Qu1PnjU6zGvtOq0S3uQ8qZpI/lgB7jGo3dnxGUhnU8/jBx6Ftre2tkBhnHzzOmjPrmY
   ijGqjG26N3qVrjHiserke6od9yDtrBtWziF97Dh8Gt9E4GBBBBBBBBBBBBBBBBBBBBBBBBBBBBBBBDBBBBBBBBDBBBBBBBB
   BBBBBBBBBBBBBBBBBBBBBBBBBBBBBBBBBBBBBBBDBBBBBB6wOk6IjwW96H0hGjgHr8B0iYumOkG/lD7tYmuaplIh6Vyqcsp
   B7qBxjOgrCvoInsI4wGm5QwRzjbm3Xr7LnuHxDjuDm/bh/P65KmmD91a8+Kw4YrlhBw+ev2hBwyiB9of6lFx+FywV/5Yiqe
   yjE1xSuvI1Pq3Jp7N+sK58Zi/e15CwnBhmI/W3tT4BqjG51BhgG+4JiuV3/ZylP2bv7ElwL59Dwhcr7c+5M6gD9W7zN2jVi
   tInuN9jQ+yWi3D/uE/2CjmTmxV4pG/mMuvDzjUuuCBBBBBBBFBBBBBBBDBBBBBBBBBBBBBBBBBBBBBBBBBBBBBBBBBBBBBB
   BBBBBBBBBBBBBBBBBBBBBBBBBBBBBBBBBBBBBBBBB7/EtRitPoyHla8xK+jD1mR/wNi3TlTugF9vP2kV76Fl9N29FvpPk+G
   29HhhFuyI7+U2mZyNl+UijPyqKvrHhsM+nGjqI+tKhsIi3Nl8HohI3mC3hFmlD+0MvgIrxXglfx+Y6oFvmQk8Zj1Bg7B7jF
   xrQ+gOjgHoiXh0X4pWjoeu9Wu6G7/YxqEq5HjxKigIjsFioRnnD+iH/3I4hBlyBn9ElyFz2DmuiB9+LniHhhL5zFy9ZvhZ7
   O83Is5Q7hKi8L92JwmS14I/1CsoBnnEqiDp6SBBBBBBBBBBBBBBBBBBBBBBBBBBBBBBBBBBDBBBBBBBBBBBBBBBBBBBBBBB
   BBBBBBDBBBBBBBBBBBBBBBBBBBBBBBBBBBBBB+xW/5LzwNixCqyEiwN+mB+vItuZozH5rE/FksKu/O3nYpYy1Ew+GxoBgzE
   4iJyL37Dt8F1lE3lRq9c7/I/sMkuPl0B5J3jPBuoBm1QoUoqFnkK92JhD7wJgpO1zCuvDoiBt9GsmWvpUsuL9rayiGg7E4v
   CjvD7wI4thBpCvwZw7Wr3En1HzpPwyH9sJ6tH+nRy4E9hRyxNlqFvmaqsTu7FhrP26Px/F7sM8BpjCwxK+hFlJ2qHpuKy3Q
   u/D3hbumOy0Ktha7mDz8Dw6Mp/HBBBBBBBBBBBBBBBBBBBBBBBBBBBBBBBDBBBBDBBBBBBBBBBBBBBBBBBBBBBBBBBBBBBB
   BBBBBBBBBBBBBBBBBBBZJTXRzB9BpBgtex5OpnG7xQy+bt5H8yH2uKlgVr1L6rVzqUq5I81Js+EhkVg0XvxFi7Fv8My6Eth
   WyyCsqBy/a/5TrwGikdl4IiHu4HxvKr9F9tH1kHyge3/QqsDmzBk9N9yB3pcs0Z3sKwQymJ98QwlXx6W26Go4JzpT89JurJ
   36f+iZp1SopZp2RksPznPngJ00Bkia7nFjhLn9Jkmd5nJt4J9mJrnFw3Lt/K0jL+kUp1d0oVzmMi2R1ma8kVmkEupH7oMq4
   L+Pn/Dt1Dx2kCBBBB69tBBBBBBBBBDBBBFDBDBBBBBBBDBBBDBBBBBFBBBBBBFBBBBBBDBBBHBBBBBBDBDBBFDBBBBBBDBB
   DBBBBBBBBBBBBBBBBBBBBiifkInzBizB9uI27FizClI2HnxmBu8fowCkkEj5V43VrtC+sCruF7wM8sPjqMkzKpgVlrMq8W1
   6Fx5TkuoBxGhnoBqroBZzCp/Z8yTg/ClK40DxsCfLDRt7hBygFokd1NgNPf7hdu/cIkWLL9BLXBXjBFMllZmjZJEdFkRj9W
   0pYPLQrCQTc5DyC9CjEgH/CD+BjClDRh9K+9KFh1eBBBBBBBBBBBBBBBBBBBBBBBBBBBBBBBBBBBBBBBBBBBBBBBBBBBBBB
   BBBBBBBBBBBBBBBBBBBBBBBBBBBBBBBBBBBBBBBBB+6eSsCVxDG5BSOXkBI9C+C/CyBjFDDsCpBRQYbxBhDlC0FxD8B9BEg
   D7BiBxBFrF4DjBcL7BdzCDDhB3B/C0BEOPxBH+iB/1OsuOZxGj9nB21Z7iIuwV9oG3sgBkzCwhkBl5D4hDnBzvbwvbsS7yD
   q8DsrBrrBoqB17crDg/c9lZ77Dm1H6kP9sW4kE8gXLXEj1dBBBBBBBBBBBBBBHhDBJPLFBBDDBDBLBBBBBBBBDBFBBBFBBB
   BDBDBBBBBBBBBDBBDBBBBBBBBBBBBDHBDDDFBBFDBBBFFDBB8gekDXF1/cLBFTBDVBPHEHBBDDBFFBHHBJDFFFFFBDDFJFD
   BDBBFDIJDBBHDFBFBFBDB8schBlqhBJEfQlBELNVVPJLDnBJTxB0hDHDKlBYlBEFHsuBFBFHBBFBBDHBDBBDDLDBBBBBBDB
   BFDBDBBBDBBBBBBBHBFBBBBFDFDBBDBBFBDBHDBLBBBBFBBBBBDBBBBBBBBBBBDBDBFFtkBS9BWQjBaFXlBKOMHfHdL7BKJ
   bGTTF0zfpzDiqDTBhBhkBgjBLzB9O9gP99C0tMgwGNlzkB03jB10FxlL42LoqD5FS5N7DRXyaFGRLYB5CkCNtC3B2B1BWEo
   BJRIzDUyBrC5ByCZkCZpDFDEQ2B3DMRqBQrpbDDBBBBDBDDBBDDBBBBBBFBBDBBBBBBDDBBBBBBBBBBBFBDBDBBBBBBDBBB
   BBBBBBBBBBBBBBBDBBBBBBBBBBBBBBBBBBBBB0tbDiBiBlB7BM1CqCpENpBPhB2BvygBh3C2xeznQHDfM7BqCTFLDjBZLev
   BDxB4E9BU5BBYyBVoBRYpCT2C5DvCmBoB1CS4CvBmCLnDkByC7DRqBbBsDYtEpDTBqFzIuFSIzG8DgD/BSK3BgC0CxEoDZQ
   lDE/3FBBBBBBBBBBBBBBBBBBBBBBBBBBBBBBBBBBBBBBBBBBBBBBBBBBBBBBBBBBBBBBBBBBBBBBBBBBBBBBBBBBBBBBBBB
   BBBBBB69F8E7EFGFBjEyD1DBqBTwBRwBUzDc6C1D8D5BLTjBDJ/D6Bck9VhhWc+C/BwCrE3BwCYmDV/CaYBgBsCMrGuDgB1
   HYREzBnBBedkB6DTlCZrBD8F3DnFXFrB0CrBUYMrCgEvBM8B7EGxCggI1iIyExE2B1B1gFBBBBBBBBBBBBBBBBBBBBBBBBB
   BBBBBBBJrBXLVFBBDBBBFDBBBFBBBDBDBBFBFFFBBBBDFHBFLBDHJFDBDBBHBBDBPBHDJDFmsF4B6DI5FkB/BKO3By9Gh6G
   9CRxCHkCPuBpDmBwBnDGQlCmB1BlCvCmCnCoBrC+zTT68CJrvTmuTJG0kDlxEFNPvhD7BpD3BdfItBnD6ClEjBSzGxEsIRn
   BrCwE9DmCkCpEbrDLyB9B4DzBiBnI6IStIKuDfJqBzBM5DrCwBxCl4VFNBBDBBBBBHBBBBFDBFDBFDBDBBBBDLBBFBDBBBB
   BFDBDBBBFBBBBFBBBBBBDFFBBBDBDBBBBDDDDDDDBBHBDBBDDJJJBDBukW5DBgChCLfNZGtC3BRoiDtMt0KygLm7FjJXqBE
   lBtBHiBpENBBDoBmCrDDuDd/EjB8BOcrDBwBeiBtDlDoCpBe7B4CE5CBmGhDjD2BHZZBDoDBOxDed5DqDxDoCtBkC9CBqBD
   rBF5DvCrC6GnC6CnBuBhBqBr4dBFDBDBBJDBBDBBHBBFBBHBDDDBBBDBBDBBBFBBDDBBBBBBBBBBBBBBBBBBBDBBBDBBFBB
   BBBBBBBBDDBBBBBBDBBBBBBBBD8ge9B9BBBqEI3C9CtEgF7CPkDQ7BkCvFsEuBnGmCB2CJhFZ+CrF+EzBByBjBU0B1CWZBw
   CB1BZkB/6cu3cuBHYlCEsCDtCL1CgC7B4ChCpBUFiBPjDmCZOfBRb3BpCFLHnBWbLJLElBlvDTMI/BTBxwZDBRDBBBDBDBF
   BLBBFDLNBBHBBBBDDDHBHBBBBBBFBBBBBFBBBBBDBHBBBFBBBDBBBBBBBBBBBDFJDBBBBBBBBBDBBBBBBBB+6ZZfNFFsdmB
   lBFLefBSRDxBoB1BkBELe7BWZbjB0BzB5BBnCEPWOyBpB5D2BWR9CkBnBmBbiCE9BVbtBHrtX6rXb7aHVJDFRHFXJPNrqUk
   wU30JFHFBVGZEJrBNORDFTefU3uPBBBBBBBBBBBBBBBBBBBBBBBBBBBBBBBBBBBBBBBBBBBBBBBBBBBBBBBBBBBBBBBBBBB
   BBBBBBBBBBBBBBBBBBBBBBBBBBBB20P3BKbwBnBESZtBqBNXQ9BITRXFd5pHuvUj8fo8fmChmgBHBBBBBPFLFHFFFFBDBBs
   xdhBOVdMxBKRY/pXkoXETZD/sRu/QJZQnDsBrBoCFzBNB6BFVhC3BgBYaG3BDkCpD+BtFBDEyDngZBBBBBBBBBBBBBBBBBB
   BBBBBBBBBBBBBBBBBBBBBBBBBBBDBBBBBBBBBBBBBBBBBBBBBBBBDBBBBBBBBBBBBBBBBBBBBBBBB8jZlBxBHlBiB2BdOdh
   FkDW3CMmBnBuC3GLkBbgDXb5B9B1CtDyBlBf5BhCyhBrtb2MDLDDBLDJBDDDBBBDFFBBDB++jBlhS2iI/hF9BPmBxF+BVHS
   qCBVDflCtCHwCzEBQ2BsC7CWnCgBF8DjC3Bdz6SBBBBBDBBBBBBBBBBBBBBBBBBBBBBBBDBBBBBBBBBBBBBBBBBBBBBBBBB
   BBBBBBBBBBBBBBBBBBBBBBBBBBBBBBBBBBBBBBBi9SmB4BtDJkEIpBY5BjCgCN4BpDFDkC7FmC9CDmEpDByDH3B0BtLoFGx
   B/CgFhChD4CUK5D4GhG+F5HlEiC5BtEoFtCoDBmCc9B1J+C0BvE5E4E8DDrBGK/BoC1BiElDoClM6BBoCgB6BrDNpBxC2Ek
   C/B/FHEqBOTGtFxzRBBBBBBBBBBBBBBBBBBBBBBBBBBBBBBBBBBBBBBBBBBBBBBBBBBBDBBBBBBBBBBBBBBBBBBBBBBBBBB
   BBBBBBBBBBBBBBBBDm6RmCjBIX9BZiBDd1CRS7BKzBd+tKHhBGjBlBt3M92S2mbilETj0Wi0WtlZi0B9qC5BDfRWJIZY5BE
   N1BsBKRVnBBUDpBZBGvBiBTQm6U17URJLMP4zYNED8xBi5Dp6DRyOjPFr1RmpQEHt0RyzR9/d8sf8uBDT3BBQx8cBBBBBBB
   BBBBBBBBBBBBBBBBBBBBBBBBBBBDBBBBBBBBBBBBBBBBBBBBBBBBBBBBBBBBBBBBBBBBBBBBBBBBBBBBBBBBBDBBujdlDgC
   cL7CiCIvC0BtEB0C1CsCYhClBIxCDoCjBiB5CtC8BV0BrClBtnTmkTgBqCFnE5C0D/BD6BvCFb4BfeH5CbE3BJRpNNmMVbm
   CDdlxfDBDJGFBHFDLDBFDFBBDBDBDDygODDDFBpyKBBBBBBBDBBBBBBBBBBBBBBBBBBBBBBBBBBBBBBBBBBBBBBBBBBBBBB
   BBBBBBBBBBBBBBBBBBBBBBBBBBBBBBBBBBBBBBBBBk4KFbDBBNDBHHFHJBNFFBDB1BwBHBFFBBHBFBFDBJDFEHDBBBBBBFB
   BBDBBBBD4rQpwLq6Ll2Lt1NwwOF5BaI/Ccd2BKZRE5BalqSmnSkCGUqCvD5B1BhDsDEFPGGlgQBBBBBBBBBBBBBBDBBBBBB
   BBBBBBBBBBBBBBBBBBBBBBBBBBBBBBBBBBBBBDBBBBBBBBBBBBBBBBBBBBBBBBZJD9CPHBLXpBhCHswQEtC1BMGH7BWhB7B
   eeBLHlBTB0BtB1CyB/yRBBiqYNVuBhC3D+B8BRpCdmDlDWdmCqBJnHxBkDjDkC0D3FoDqCpCwCzClC8DYzC3C8E3DpDB5CB
   oBnB+B/B9BuGvDhBsCrCwCGXEiC3IuC4BF3ByCtF3KmHlCBwC7iWXTLJFTJLbLBDBBBBBBBDBBBBBBBBBBBBBBBBBBBBBBB
   BBBBBBBBBBBBBBBBBBBBBBBBBBBBBBBBBBBBBBBBBBBBBBBBBBBBwqWqD1BWrFqH5ChGyDtC+B1BtC0BpBvBiCqEvJsEBrE
   sEoCIrBjCXnBiBDtCoCfRpB2E1EoFjH/CmEzCB5EoHjFOjGiFVuCxFsB6DsB/CnCpBExBmBnB3oE1Bk9DBJIbBOZBLRh8RD
   HBBDBDEDBDDFBDFHhkDBBBBBBBBBBBBBBBBBBBBBBBBBBBJlBPXJFFDFBBBBBBDBBDBNBBBHFDNHBDBBFBBBBDBBDFDBJDB
   BBBDJBBBBBBBBBBBBFDB8vDBBRD6MosWXHHFEHEP17PyvGJVfDDg+HzLBBzBdxVgXjBsBpoF+4E2NtBIJEh9Mw6MYoBbNVW
   /BZP1BWhC5BBTFxkTBFJDFJBDBGLPHm5BFBBDBBBo2LhDmERRdBJNDDF24HzC7H3tZDFBBDBHBDBBBBBBBBBDBBBBBBBDBD
   BDBDBHFBJDBJBDBDBBBBBBBBBDBBBBBBHBBBDBBDBFDBBBDFBDJBBHBBDBDBBBBDDBkuZxJ3yN2hKRTSHXDENPFBBNPMLP8
   vD/BrBjuGJHuCjjK6kaxoXIUxCm7Ml7MaODNF/CBBBgB0BDpBaTw8M58MbLFQ/BB6BTw+M5/Mv0FqyFyBbqBzBrBHNhC4BB
   tBkBRlBBiBO2xUvmBltTOd6rJ7sJNjCuqNnqNgBr2KBBBBBBBBDBDBDDBBBBFBBBDBBBBBBBBBBBBBBBBBBFBDBDDBDHBDB
   BDBBBBBBBBFDBBBBDBBBBBBBDBBBBDDBBFDBBDBBBB69K4BmoLlBDTFlBv3WBBDHBwyWonGjoGhjPomSh8c+7cxCTGERDHH
   zqF3BON7BJUaLtD+BrEFFxBDjEwBXoC5CyC7CD7B1BDcS/DalBjBnCV6b3K7ElF43HELJBjvLJLFjBBUNPYRdSlBVJfZXm+
   ME78bBDBDBBBBBBDDDBDDBBBBBBBBBBBBBBBBBBBBBBBBBBBBBBBBBBBBBBBBBBBBBBBBFLBBBBDFBBBBBBBBBBBBBBBBBB
   BBBBBm9bhCIZuCvBTvE1FN/E3Ea7CLpDznPE6+JlGrQz/EDPRbBQumJjoJkBB3BBB6B5BwBNULpC9BwBBkDzCUJ7BhDSNoB
   pBJDdNqB9CJiBlCLlBkB9BhBOrBtmTmKDB4gUlBRqBbBjBPUnBQdFvBBWKtBbtqQBBBBBBBBBBBBBBBBBBBBBBBBBBBBBBB
   BBBBBBBBBBBBBBBBBBBBBBBBBBBBBBBBBBBBBBBBBBBBBBBBBBBBBBBBBBBBBBBB6wQFzBbiBFXJbBfJPooBLbIIlBtBNTp
   9ERGxuFiuFXIPPIkrEvB50IllGBBHEDBDBHFGJBBNBNEFEFBDDDBBBBDBDJHBBBBBBDBBFBBDEFFBBDDBDBDp4BBBBBBtBF
   HFHTJBBBBBBBBBBBBBBBBBBBBBBBBBBBBBBBBBBBBBDBHDBHBBFBBBBBBFBBBBBBBBBBBBBBBBBBBBBBBBBBBBBB+hCDFBH
   BBDDFBDHEHBDBFBBFBBBBDFDBBFPBGFJBDDBBHDBFcdBBFFDBFBBDBBBDFBGHBDBBBBBBBBFDBB0Do1OJ5tPqvOvBWP1Bgs
   O3rOE3BWnvPBBBBDBDBBBBBBBBBBBBBBBBBBBBBBBBBBBBDBBBBBBBBBBBBBBBBBBBBBBBBBBBBBBBBBBBBFBBBBBBBBBBB
   BDDZJBDFHBLi1PGzB7nS2yCszPy+BLJLVucD3EnvUDLBBBBLEJDEDBHFBDDBBBDBDFHDFBBDJFBBBBBBJKLkuUDDTIdUfBH
   XoBElBEnBUrBJGGNK3BmBVFhBiBJNVc1BcIHl3RDXBBBBBBBBBBDBDBBBBBBBBBBBBBBBBBBBBBBBBBBBBBBBBBBBBBBBBB
   BBBBBBBBBBBBBBBBBBBBBBBBBBBBBBBBBBBBBBB+9RhC2BG/BoBFdWbMYzBhBWPOpBH11EquC+GBNLDZhBOXKJLh7GJRVDF
   /BnCgBJZxBqBpBDXxC+BqBrBehDSOPkBzCUVVpCpBi/Jz1FojFDvSrjEDDLHDFBBDERuCzCbFNJtBPjxEpvHPFtXBBBBBBB
   BBBBBBBBBBBBBBBBBBBBBBBBBBBBBBBBBBBBBBBBBBBBBBBBBBBBBBBBBBBBBBBBBBBBBBBBBBBBBBBBBBBBBBBBidFBDJL
   BFBDBFB0lJNvBDhBMDE5C4BGhCgBTKNwBrBZbgBxB+BTUGzBL4BpDPBMLoClEsDrBsBQQjDHgBfDFKzBvB8BNRqBnCTqBIS
   bPlEiG1FBI4BfqCjC5ByDfxByBYX7C3BQzCvoJBBBBBBBBBBBBBBBBBNhBLHBLBHZFBBBBBBFBBBHDDBBHBDBBBBFBBBDDB
   BBDBBBBBDDBBBDBBBDDDBBBBBBBBDDBBBBBBDBBi0J+DIvCuBqBvCzD0DRGvBPuBnBkBThBdWbvCIsBXhBLvBFuwEXDB1sB
   uxDFVMBhBYhC6BvDgBekBpBFkBJEdViCzDDsB/C0ChBFbZ0BfE9BrBBhBagBVoCpCeLRR5BiBVhBIVBHjCeGlBNY3vPDBBB
   BBDBBDBBBBBBBBBBDBBDBBBBBBBBBBDBDBBBBBBBFBBBLHBBDDDBDBBBBBBBBBBBBBBBBBBBBBBBBBBBBBBBBBBBBBB61PV
   KjBRE77CFBDyBvlDoiDBBTDQFZFSBTLJDHVJRrhDNF/EN9Hk8EDPPBDuzBozLv0LXEDHfTBHLJBMIjBhBr4Cu8NtxMdNfKJ
   FJJ4vB9H9CPxJnF5hQKk0IhBfI/B2ELuSDhwCLGBpBvhFBBBBBBBBBBBBBBBBBBBBBBBBBBBBBBBBBBBBBBBBBBBBBBBBBB
   BBBBBBBBBBBBBBBBBBBBBBBBBBBBBBBBBBBBBBBBBBBBB0nFEdQLbBaDJlBQVIHhBBNFBBLELs2CxiJusIlDzBnFfqLTIGT
   jBBFHiBBXsBrCVBsBrBDwBpCatBRDZDYXVLQKPavBSBdBSrCLLcJhBTJKXDuiBTPMlBK0vT1jSPKD//IBBBBBBBBBBBBBBB
   BBBBBBBBBBBBBBBBBBBBBBBBBBBBBBBBBBBBBBBBBBBBBBBBBBBBBBBBBBBBBBBBBBBBBBBBBBBBBBBBulJLH9EvO5iG2GT
   KtBMNNE3BFFbjkEFDBBBBBD+IZDqlEFBhBHoxPhyPmlC/BzBrH3C/F4D9K5CnhEFFBBBsmRvmRFDBBDBJBFBBBBBDBBBBDD
   BDBBBBBBBFBBBNBBBFBgJBBBBBBBBBBBBBBBBBBBBBBBBBBBBBBBBBBBBBBBBBBBBBBBBBBBBBBBBBBBBBBBDBDFBJBDFHF
   BBBHZDFTJBBBBLBPBPBJBsBBBBBFBBDBBFBDFu2CRXBD1BKSdD5vBENh6Bm6BHDJEJIRBJnHGHDEJH0mBpChCtCE1YDJRKf
   eXdNHXHz5BBooQtkQJBFN6rFtsFD3DBBFEFNGGJJlDTFTGLBLkmBBBBBBBBBBBBBBBBBBBBBBBBBBBBBBBBBBBBBBBBBBBB
   BBBBBBBBBBBBBBBBBBBBBBBBBBBBBBBBBBBBBBBBBBBBBBBBBBBBjviBBBBBBBBBBBBBBBBBBBBBBBBBBBBBBBBBBBBBBBB
   BBBBBBBBBBBBBBBBBBBBBBBBBBBBBBBBBBBBBBBBBBBBBBBBBBBBBB+0iBBBBBBBBBBBBBBBBBBBBBBBBBBBBBBBBBBBBBB
   BBBBBBBBBBBBBBBBBBBBBBBBBBBBBBBBBBBBBBBBBBBBBBBBBBBBBBBBBB/uiBBBBBBBBBBBBBBBBBBBBBBBBBBBBBBBBBB
   BBBBBBBBBBBBBBBBBBBBBBBBBBBBBBBBBBBBBBBBBBBBBBBBBBBBBBBBBBBB60iBBBBBBBBBBBBBBBBBBBBBBBBBBBBBBBB
   BBBBBBBBBBBBBBBBBBBBBBBBBBBBBBBBBBBBBBBBBBBBBBBBBBBBBBBBBBBBBBBB7uiBBBBBBBBBBBBBBBBBBBBBBBBBBBB
   BBBBBBBBBBBBBBBBBBBBBBBBBBBBBBBBBBBBBBBBBBBBBBBBBBBBBBBBBBBBBBBBBB20iBBBBBBBBBBBBBBBBBBBBBBBBBB
   BBLFNDHNBHZFDBBDFHDBBBFRBFDBBBBBBBBBFBDBBBFBDBBBBBFBBBBBBBBDDBBBBBDBBBnqiBBBBBBBBBBBBBBBBBBBBBB
   BBBBBBBBBBBBBBBBBBBBBBBBBBBBBBBBBBBBBBBBBBBBBBBBBBBBBBBBBBBBBBBBBBBBBBBBiwiBBBBBBBBBDBBDBDFBBBB
   DBBBDBBHDBDBBDBHFDBDDFBBBDBBBBBBBBDFDBBBBBBBBBBBDFDBDBBDDBBBBBDDBBBBBBBBDBDB1niBBBBBBBBBBBBBBBB
   BBBBBBBBBBBBBBBBBBBBBBBBBBBBBBBBBBBBBBBBBBBBBBBBBBBBBBBBBBBBBBBBBBBBBBBBBBBBBBwtiBBBBBDDDFBBBBD
   BBBBBBBBBBFBBBBBBBBBBBBBBBBBBBBBBBBBBBBBBBBBBBBBBBBBBBBFBVBBBBBBBBBBBHBBFBBBBt4sB5E3BjFTw+KBBBB
   BBBBBBBBBBBBBBBBBBBBBBBBBBBBBBBBBBBBBBBBBBBBBBBBBBBBBBBBBBBBBBBBBBBBBBBBBBBBBBBBBBBBBBBBBp6KBBB
   DDBHNBBDBFBBy6lDp58CBBq58C9+C6Cg8CFxy4Buh1B3Ham4DVttFuF5pzBu+yBfnJoKr+yBB0myB/RjH0jHz48C0nkB+w4
   B36IxQkrJxoKqoKFBn48C2oyCMkvKjyKxP1YsB52sBupsBLlFhBosM5nNlDFJBDBxBK3BEngrB1pkBm7tCKBB2C1ChHBBBB
   BBpJ5gpB5qiBBBBBBBBBBBBBBBBBBBBBBBBBBBBBBBBBBBBBBBBBBBBBBBBBBBBBBBBBBBBBBBBBBBBBBBBBBBBBBBBBBBB
   BBBBBBBBBB"

/-- Runs of the groups of four: the number of the first in each, and its code point. -/
def rangesOf : Nat → Nat → List Nat → List (Nat × Nat)
  | number, code, distance :: shift :: rest =>
    (number + distance, code + shift) :: rangesOf (number + distance) (code + shift) rest
  | _, _, _ => []

def ranges : List (Nat × Nat) := rangesOf 0 0 (Packed.numbers
  "AgEkBlBCEHJFGfgBIKGJBDEGDEBDBCEFRSHIPQYZDEEFdeiDjDBCBCBCBCBCBCBCcd3C4CPQlDmDBENO3FoGBIHYBI3B4BO
   uCBC+9G/9GCGBDCEHJJKBDBCFGwDxD2C3CBCDEMNKL+BqCEOWaCGuDvDGHBCDEEFCGCDBCBGCDFJFGKLDEFGNPCGGIlBmBD
   ELMZayCzCtK3KKyBkDwFEoBNcDGKMQSIKIKDECESWfhBCD2B3BBC+hC/hCCDDECEKLPQCDDEEFCEDEOPlJxJEIBUFHCLUVC
   1CHLC4CFIGrB2HgIHIxDyDqHsHMPCDiBjBJKCECDxDyDrBsBqJrJvDwDLM9X+X1C2CgDiDOPzE0E6G7G/IgJxDyD1b2boIp
   I3O4O0D1DEFrBsB4H5H1L2LUVhGiGFGyCzCQR5N6NyBzBCDEGBDUVDEWY/VgWnBsBvD2D0E1ExC3vU6iOm+RB8CBfNuBBEF
   GHIEGEGIJHIQSOPnmEomEsCtCbcxCyCJKaeBCBDDEGJBDCFmgBogBBTEOBFBPBF1EzHhEnE").toList

/-- The one group that stands outside its run. -/
def stray : Nat × Nat := (7457, 0xE7C7)

/-- Groups of the basic plane, and the first and the last of the other planes. -/
def basicLast : Nat := 39419

def astralFirst : Nat := 189000

def astralLast : Nat := 1237575

def groupChar? (number : Nat) : Option Char :=
  if number = stray.1 then some (Char.ofNat stray.2)
  else if number ≤ basicLast then
    (ranges.reverse.find? (·.1 ≤ number)).map fun run => Char.ofNat (run.2 + (number - run.1))
  else if astralFirst ≤ number && number ≤ astralLast then
    some (Char.ofNat (0x10000 + (number - astralFirst)))
  else none

def pairChar? (first second : UInt8) : Option Char :=
  if (0x40 ≤ second && second ≤ 0x7E) || (0x80 ≤ second && second ≤ 0xFE) then
    pairs.char? (190 * (first.toNat - 0x81) + (second.toNat - if second < 0x7F then 0x40 else 0x41))
  else none

def isDigitByte (b : UInt8) : Bool := 0x30 ≤ b && b ≤ 0x39

def isFirst (b : UInt8) : Bool := 0x81 ≤ b && b ≤ 0xFE

def groupNumber (a b c d : UInt8) : Nat :=
  12600 * (a.toNat - 0x81) + 1260 * (b.toNat - 0x30) + 10 * (c.toNat - 0x81) + (d.toNat - 0x30)

/-- What follows a first byte and a digit. A group that breaks off counts from its second byte on
for itself, and one that the text ends in is one fault. -/
def groupFront (first second : UInt8) (rest : List UInt8) : Front :=
  match rest with
  | [] => .fault 1
  | third :: rest =>
    if !isFirst third then .fault 0
    else match rest with
      | [] => .fault 2
      | fourth :: _ =>
        if isDigitByte fourth then
          ⟨(groupChar? (groupNumber first second third fourth)).map ([·]), 3⟩
        else .fault 0

def front (b : UInt8) (rest : List UInt8) : Front :=
  if b < 0x80 then .ascii b
  else if b == 0x80 then .char '€'
  else if isFirst b then
    match rest with
    | [] => .fault 0
    | second :: after =>
      if isDigitByte second then groupFront b second after
      else .pair ((pairChar? b second).map ([·])) second
  else .fault 0

def decode (bytes : List UInt8) : List Char := decodeBy front bytes.length bytes

end SessionGateway.Text.Gb18030
