import SessionGateway.Text.Charset.CodeTable

/-! The Korean encoding, with all syllables. -/

namespace SessionGateway.Text.EucKr

/-- Characters of the pairs, in rows of a hundred and ninety. -/
def pairs : CodeTable := .ofText
  "lg2CBDBJBBBBRLBDBBDBBBBBBFHBBAAAAAABBBFBDBBDBBBBBBBBBDDBBBBBDAAAAAABBDBBDBBBBBBBBBBBBBBBBBBFBDB
   FDBBBBFJBJBBDBBDBBBBBBFHBBBBBHDBFBBBBBBFHBBDBDBBDBBDBBBBBBBDDBBBBBBBFBDBFDDBHDFBBBBFBDBBDDBBBBF
   DDBBBBBDBBDBBDBBBBBBBDBFBBBBBAAAAAAFBDBBDBBBBBBFDDBBBBBDBBDBBAAAAAADBBBBBBBDDBBBBBBBFBDBJBBBHDF
   BBBBFBDBBDBBBBBBBBBBFBBBBBDBBBBBBBBBBBBBBBBBDBBBBBBBFBDBBDBBBBBBFDBBBBBBBDBBDBBDBBBBBBBBBBBBBBB
   BBBFBDBHBBBBBFDDBBBBBDBBBBBBBAAAAAABBBBBBBBBBBBBBBBBBBFBDBFDBAAAAAABBBFDFBBDHDBBDDBBBBFHBBDBFBD
   BBDBBBBBBFHBBBBBFBBBBBDBBBBBBBBBBBBBBBBBBBBBBBBBBBBBBBBBBBBBBBBBBBBBBHDBBDBBBBBBFHBBBBBFBDBBBBB
   BBBBBDBDDBBBBBDBBDBBDBBBBBBBBAAAAAABFBBBDBDBBBBBBBBBBBBBBBBBBAAAAAABBBBBBBBFBDDDBBBBBBFDHBBBFBB
   BBBDBBBBBBBBBBFBBBBBFBBBBBBBBBBBBBBBBBBDBBBBBDBBDBBDBBBBBBFBBDBBBBBDBBBBBBBBBBBBBBBBBBBBBBBBBBF
   BDBBDBBBBBHDFBBBBDBBBBBBDBBBBAAAAAABBBBBBFBBBBBFBDBBDBBBBBBFBAAAAAADBBBBBBDBBDBBDBBBBBBFBBBBBBB
   BBDBBBBBBBBBBBBBBBBBBBBBBBBBBFBDDDDBBBHDDBBDBBBBBBBBBBBBBBBBBBBBBBBBBBBBBFBDBBDBBBBBBFDDBBBBBHD
   BJBBBBFLDHBDBBDBBBBBBFHBBBBBFAAAAAABDBBDBBBBBBDBBBDBBBBBBBBBBAAAAAABBBBBBBBBBBBBBBBBBBBBBBFFBBD
   FBBBFHBBBBHBDBBDBBBBBBFHBBBBBFBDBBDBBBBBBFBFBDBBDBBDBBBBBBBBBBBBBBBBBBBBBBFBDBBDDBBBBFDDBBBHBBD
   BBDBBBBBBBBBBDBBBBBBBBBBBBBBBAAAAAABBBBBBBBBBBBBBBBBBBDBBDBBDAAAAAABBBBBBFDBBBBBBBFBDBBDBBBBBBB
   DDDBBBBBFBDBFBBBBBBFDDBBBBBDBBBBBBBBBBBBBBBBBBDBBBBBBDBBBBBBBBBBBBBBBBBBBBBBBBBBDBBDBBDBBBBBBFB
   BBBBBBBBFBBBBBDBBBBBBFBBDBBBBAAAAAABFBDBBHBBBBFDFBBDDBBDBBDBBAAAAAABBBBBBBBBBBBBBBBFBDBBDDBBBBF
   DDBBBDHDBLBBHLBBHBDBBDBBBBBBFHBBBBBDBBBBBBBBBBBBBBBBBBBBBBBBBBBBBBBBBBBBBBBBBBBBBBBBBBBBBBHDBFF
   BBBFDDDBDFBDBBDBBBBBBFHBBBBBDAAAAAABBDBBDBBBBBBBBBBFBBBBBDBBDAAAAAABBBBBBBBBBBBBBBBBBBBBBFBDBFD
   DBBFDDDDBDBBDBBDBBBBBBBBBBBBBBBBBBDBBBBBBBBBBBBBBBBBBDBBBBBBDBBDBBDBBBBBBFDBBBBBBBDBBBBBBBBBBBB
   BBBBBBBBBBBBBBFBDBBDBBBBBBFDDAAAAAABBBBBDBBBBBBBBBBBBBBBBBBDBAAAAAABBBBBDBBBBBBBBBBBBBBBBBBBDBB
   BBBDBBDBBDBBBBBBBDDDBBBBBDBBDBBDBBBBBBDBBBDBBBBBFBDBFDBBBBFDDBBBBBDBBBBBBBBBBBBBBBBBBBBBBBBBBFB
   DBFBBBBBBFJBBBBFBDBBDBBBBBBFHAAAAAABBBBHBDBBDBBBBBBFHBBBBBBBBAAAAAABBBBBBBBBBBBBBBBBBBBBBBBBBBB
   BBBBBBBBBBBBBBBBBBBBBBBBBFBDBBDFBBBFHBBBBHBDBBDBBBBBBFHBBBBBDBBBBBBBBBBBBBBBBBBDBBBBBBBBBBBBBBB
   BBBBBBBBBBBBBBBBBBBFBDBBDBBBBAAAAAABBBBBBBDBBBBBDBBBBBBDBBBBBAAAAAABBBBBBBBBBBBBDBBBBBBBBBBBBBB
   BBBBBBBBBBBBDBBDBBBBBBBBBBBBBBBBBBBBBBBBBBBBBBBBBBBBBBBBBBBBBBBBBBFBDBBDBBBBBFBBBDBBBBBBBBBBBBB
   BBBBBBBBBBBBBBBBBBBBDBBBBBBBBAAAAAABBBBBBBBBBBBBBBBBBDBBDBBDBAAAAAABBBBBFBBDBBBBBBBBBBBBBBBBBBB
   BBBBBBBBBBBBBBFBDBFBBBBBBFDBBBBBBBDBBDBBDBBBBBBFBBBBBBBBBDBBDBBDBBBBBBFDDBBBBBFBDBBDBBBBBBFJBBJ
   BDBBDBBBBBBFHBBBBBFBDBBBBBBBBAAAAAABBBBBDDBBBBBBBBBBBBBBBBBBBAAAAAABBBBBBBBBBBBBBFBDBBDBBBBBBFH
   BBBBHBDBBDBBBBBBFDDBBBBBFBDBBDBBBBBBFHBBBBBDBBDBBBBBBBBBBBDDBBBBBBBFBDBBDBBBBBBFDDBBBBBDBBDBBBB
   BBBBBBBBBBBDBBBBBBBBBBBBBBBBBAAAAAABBBBBBBBDBBBBBBDBBDBBDBBBBAAAAAABBFDDBBBBBDBBDBBDBBBBBBBDDDB
   BBBBFBDBBDBBBBBBFDDBBBBBDBBBBBBBBBBBBBBBBBBDBBBBBBDBBBBBBBBBBBBBBBBBBBBBBBBBBFBDBBDBBBBBBDBDDBB
   BBBFBDBBDBBBBBBFDDBBBBBFBDBBDAAAAAABBBBBBFDFBFBBBBBBBBBBBBBBBAAAAAABBBBBBBBBBBBBFBDBBDBBBBBBFDD
   BBBBBFBDLBBBBFDFBDHBDBBDBBBBBBFJBBBBFBBBBBDBBBBBBBBBBBDBBBBBBBBBBBBBBBBBBBBBBBBBBBBBBBBBFBDBBDD
   BBBBFDFBBBHBDBBDBBBBBBFHBBBBBAAAAAAFBDBBDBBBBBBBBBHDBBBDBBBBBAAAAAABBBBBBBBBBBBBBBBBBBBBFFBBDDB
   BBBFDDBBBBBDBBDBBBBBBBBBBBBBBFBBBBBBBBBBBBBBBBBBBBBBBBBBBBBBBBBDBBDBBDBBBBBBBDDDBBBBBDBBDBBDBBB
   BBBBDDBBBBBBBHDBJBBBBFDDBBDFBAAAAAABDBBDBBBBBBBDDBBBBBBBDBBBBAAAAAABBBBBBBBBBBBBBBBBBBBBBDBBDBB
   DBBBBBBBBBBBBBBBBBBDBBDBBDBBBBBBDBDBBBBBBBDBBDBBDBBBBBBDBDBBBBBBBBBBBBBBBBBBBBBBBBBBBBBBBBBBBFB
   DBFDBBBBFHDDBLBLBBBFDDBBDBFBDAAAAAABBDBBBBBBFHBBDBFBDBBBBBBBBAAAAAABBBDBBBBBBBBBBBBBBBBBBBBBBBB
   BBBBBBBBBBBBBFBDBFDBBBBFDFBBBBFBDBFBBBBBBFHBBBBBFBDBBDBBBBBBBDHBBDBDBBDBBBBBBBBBBBBBBBBBBBBBBHD
   BBDBBBBBBFDDBBBBBDBBDBBBBBBBBAAAAAABBBBBBDBBBBBBDBBBBBBBBBBBBAAAAAABBBBBBDBBBBBBFBDBBDBBBBBBFBB
   BBBBBBBDBBDBBBBBBBBBBBBBBBBBBBBBBFBDBJBBBBFDDBBFDBBBBBBDBBBBBBBBBBDBBBBBBDBBBBBBBBBBBBBBBBBBBBB
   BBBBBFBDBBDBBBBBBBBBBBDBBBBBDAAAAAABBDBBDBBBBBBDBDDBBBBBFBDBBAAAAAADBBBBBBFDBBBBBBBBBBBBBBBBBBB
   BBBBBBBBBBBBBBBBFBDBBDDBBBBFDHBBBFBDBBDDBBBBFHBBBBHBDBBDBBBBBBFHBBBBBFBBBBBBBBBBBBBDBBBBBBBBBBB
   BBBBBBBBBBBBBBBBBBBBBBBBBBBFBAAAAAADBFBBBBBBDBHBBBBBDBBBBBBBBAAAAAABBBBBBBBBBBDBBBBBFBBBBBBBBBB
   BBBFHBBBBBBBBBBBBBBBBBBBBBBBBBBBBBBBBBFBDBBDBBBBBBFBBDBBBBBBBBBBBBBBBBBBBBBBBBBBBBBBBBBBBBBBBBB
   BBBBBBBBBBBBBBBBBBBBDBBBBBBBBAAAAAABBBBBBBBBBBBBBBBBBDBBBBBBBAAAAAABBBBBBBBBBBBDBBBBBFBDBBDBBBB
   BBDBDDBBBBBBBBBBBBBBBBBBBBBBBBBBBBBBBBBBBBBBBBBBBBBBBBBBBBBBBBBBBBBBBBBBBBBBBBBBBBBBBBBBBBBBBBB
   DBBBBBBBBBBBBBBBBBBBDBBBBBDBBAAAAAADBBDBBBBBBFBBBBBBBBBBBBBBBAAAAAABBBBBBBBBBBBBBBBBBBBBBFBDBBD
   BBBBBBFDDBBBBBFFBJBBBBFHBBDBFBDBBDBBBBBBFHBBBBBFBDBBDBBBBBBFDDBBBBBDBBDBBDBBBBBBDBBBDBBBBBLBFFB
   BBFHBBBDFBDBBDBBBBBBFHBBBBBFBAAAAAADBBDBBBBBBFHBBBBBDBBDBBDBBAAAAAABBBBBBBBBDBBBBBHDBBDDBBBBFDD
   BBDBFBDBBDBBBBBBBBBBBDBBBBBDBBDBBDBBBBBBDBFBBBBBBDBBDBBDBBBBBBFDBBBBBBBFBDBBDBBBBBBFDDBBBBBFBDB
   FBBBBBBFDDDFDBBBBBBBBBBBBBBBBAAAAAABBDBBBBBBFBDBBDBBBBBBDBBBDAAAAAABBBBBFBDBBDBBBBBBFDDBBBBBFBB
   BBBDBBBBBBDBDDBBBBBFBDBBFBBBBBFDDBBBBBBBBBBBBBBBBBBBBBBBBBBBBBBBBBFBDBFBBBBBHDDBBBDFFBBDBBBBBBF
   BFBBBBHBDBBDBBBBBBFBFBBBBBBBBAAAAAABBBBBBBBBBBBBBBBBBDBBBBBBBAAAAAABBBBBBBBBBBBBBBBBBBBBBBBBBFB
   DBBDDBBBBFBFBBBBBDBBDBBDBBBBBBBBBBBBBBBBBBBBBBBBBBBBBBBBBBBBBBBBBBBBBBBBBBDBBBBBBBBBBBBBBBBBBBB
   BBFBDBFDBBBBFBBDBBBBBFBDBBBBBAAAAAABBBBBBBBBDBBBBBBDBBBBBBBBBAAAAAABBBBBBBBBDBBBBBBDBBDBBDBBBBB
   BFBBBBBBBBBDBBBBBBBBBBBBBBBBBBBBBBBBBBFBDBBDBBBBBBFBBDBBBBBDBBBBBBBBBBBBBBBBBBDBBBBBBDBBBBBBBBB
   BBBBBBBBBBBBBBBBBDBBDBBBBBBBBAAAAAABBBBBBBBBBBBBBBBBBBBBBBBBBAAAAAABBBBBBBBBDBBBBBFBDBBDDBBBHBB
   BBBBBBBDBBDBBDBBBBBBDBBBBBBBBBBFBDBBDBBBBBBFDDBBBBBFBHHBBBHHBBFFBDBBDBBBBBBFHBBBBBFBDBBDBDBBBFD
   DBBDFBBDBBDBBBBBBBDBBBBBBBBBFAAAAAABFJBBBBPDDFBDBBDBBBBBBFDDBAAAAAABBBBHDBBDFBBBNBBJBBDBBDBBBBB
   BFFBBBBBBFBDBBHDBHDDDBBBFBDBBDBBBBBBFHBBBBBFBDBBBBBBBBBBDBDDBBBBBFBDBBDBBBBBBFDDBBBBBFBDBBDBBBB
   BBFDDBBBBBFBDBBHBBBBFDDBBBBBFAAAAAABDBBDBBBBBBFBFBBBBBFBDBBDBAAAAAABBBBBFBBDBBBBBFBDBBDBBBBBBFD
   DBBBBBFBDBBDBBBBBBFDDDBBBFBDBBDBBBBDFDRBBDBBDBBBBBBDBDBBBBBBBFBDBBHBBBHJBBDFBDHDBBBBFJBBBBFBDBB
   DBBBBBBFHBBBBBFBDDDBBBBBBDBBBAAAAAADBBBBBDBBDBBDBBBBBBBBBBBBBAAAAAABBBBBFBDBBDDBBBBFDFBBBBFBDBB
   DBBBBBBFDDBBBBBDBBDBBDBBBBBBFBFBBBBBDBBBBBBBBBBBBBBBBBBBBBBBBBBFBDBBDDBBBBFDHBBHBBBBBDBBBBBBBDD
   DBBBBBDBBBBBBBBBBBBBBBBBBFBBBAAAAAABBDBBDBBDBBBBBBFDDBBBBBFBDAAAAAABBBBBBBBBBBBBBBDBBBBBFBDBBHB
   BBBF+wsCBB40X72PB+3P11Xu1Xv2P/gBtxuDiwuDqiBBFBt/HBcBBBBBBBBBi2XrC/Bx2QHBwErBq4Qj4PB/MvCprvDBHo6
   sDGiiCpI5GiRJzFgB46Qn5P18CE2DHEQEsCElBEVE2iCGBDB9nH06GBkFlCiCvBWBqCF1HBMB0FEGBz7uDmtbDBBBBBDBBB
   BBBBBBBBBBBBBBBAAAAAADBBBBBBDBBBBBBBBBBBBBBBBBBAAAAAABBBBBBBBFBDBBDBBBBBBFDBBBBBBBDBB85zCD3CFg1
   Qzq/Dwp+DhBJIEkiBliB2jB7BhhB71P8BG42QpmQ0Nh5CEUE7KKBHDK28B9yBsC5CBgEjBBFEEF9L0FEbDy2Sz2PBnXDDID
   ptCKBDlhGoGuwIhrJsqJ/pJrBwrJsH+/PAAAAAAAAAAAAAAAAAAAAAAAlskDBBDBBBBBBDBBBBBBBBBBFBDBBAAAAAADBBB
   BBBFDDBBBBBBBBBBBBBBBBAAAAAABBBBBBBBBBBBBBBBBFBDBFDBBBBFDFBFryaBBBBBBBBBBBBBBBBBBBBBBBBBBBBBBBB
   BBBBBBBBBBBBBBBBBBBBBBBBBB1K0KBBBBBBBBBBBBBBBBBBBBBBBBBBBBBBBBrIsgbBDDDBDBBBFHBBBBBFBDBBDBBBAAA
   AAABBBFHBBBBBDBBDBBBBBBBBBBBBAAAAAABBBDBBBBBBBBBBBBBBBBBBBBBBBBBBBBsxsCBBBBBBBBBBBBBBBBBBBBBBBB
   BBBBBBBBBBBBBBBBBBBBBBBBBBBBBBBBBBBBBBBBBBBBBBBBBBBBBBBBBBBBBBBBBBBBBxrsCBBBBFBDBBDBBBBBBFHBBBB
   BDBAAAAAABBBBBBBBBBBBBBBBBBDBBBBBDBAAAAAABBBBBBBBBBBBBBBBBDBBBBBBBBBBBBBBwz0CBBBBBBBBBAAAAA0BBB
   BBBBBBBAAAAAAAy9OBBBBBBBBBBBBBBBBDBBBBBBAAAAAAAAPBBBBBBBBBBBBBBBBDBBBBBBAAAAAA9tjDBBBBBBBBBBBBB
   BBBBBBFBDBBDAAAAAABBBBBBFDDDBBBFBBBBBDBBBBBBAAAAAABBBBDBBBBBBDBBBBBBBBBBBBBBBBBBDB2gzCDTHPKPfSf
   P4DDXHPKXfSff4CdQdPmClBYlBTiDEREIEQEhBBDBHBDBFBFBFBFBFBDBDBBBBBBBAAAAAAAAAAAAAAAAAAAAAAAAAAh8yC
   BBBBDBBDBBDBBBBBBFBBBBBBBAAAAAABBBBBBBBBBBBBBBBBBBBBBBDBBAAAAAABBBFBDBBDBBBBBBFBBDBBBBBDBBBBBBB
   w9rCBBqoJpoJ3CkCBBBcBBBBBBBBBvC8DBB/DwEB9DkCBPBBBBBBBBB0DBBBBrDBBBBBgDBBBB+mJzpJBwDBBzEkByBBB3C
   mDBBBhDcFiBLlBuBAAAAAAAAAAAAAAAt6rCBBBBBBBBBBFBBBBBBBBBBBBBBAAAAAABBBBBBBBBBBBBBBBBBBDBBBBBBAAA
   AAABBBBBBBBBBBBBBBBBBBBDBBBBBBBBBBB+vlDTuC3HAXAZD0GzHyJnCvI6BArxYBBBBBBBBBBBBBBBBBBBBBBBBBBB46G
   BBBBBBBBBBBBBBBBBBBBBBBBB0IBBBBBBBBBBBBBBk7RrpQBypQD5pQBBBtm1CBBBBBBBBBBBBBBDBBBBBBBBBBAAAAAABB
   BBDBDDBBBBBBBBBBBBBBBBBBAAAAAABBBBBBBBBBBBBBBFBDBBDBBBBBBFBBFB+zlD1CkCtDTDJPD2E1FqH9BxG6BGtrYBB
   BBBBBBBBBBBBBBBBBBBBBBBBBg4GBBBBBBBBBBBBBBBBBBBBBBBBBkEBBBBBBBBBBBBBB08RQBh8PVDBBBh61CBHBDDDBBB
   BBBFJBBBBFBDBBDBAAAAAABBBBBFHBBBBBDBBDDDBBBBBBDBAAAAAABBDBBBBBBBBBBBBBBBBBBBBBBBBBBBBBmluCBBBBB
   BBBBBBBBBBBBBBBBBBBBBBBBBBBBBBBBBBBBBBBBBBBBBBBBBBBBBBBBBBBBBBBBBBBBBBBBBBBBBAAAAAAAAAAAhguCBBB
   FBDBBDBBBBBBFHBBBBBFBDAAAAAABBDBBBBBBFDDBBBBBDBBDBBBBBAAAAAABBBBBBBBBDBBBBBBDBBDBBBBBBBBBBBB6lu
   CBBBBBBBBBBBBBBBBBBBBBBBBBBBBBBBBBBBBBBBBBBBBBBBBBBBBBBBBBBBBBBBBBBBBBBBBBBBBBBBBBBBBBAAAAAAAAv
   guCBBDBBBBBFBDBBDBBBBBBFDDBBAAAAAABBBDBBDBBDBBBBBBBBBBBDBBBBAAAAAABBBBBBBBBBBBBBBBBBBBBBBBBBBBB
   DBBg1kDBBBBBqBpBBBBBBBBBBBBBBBBBBBBBBBBBBAAAAAAAAAAAAAAABBBBBB3B4BBBBBBBBBBBBBBBBBBBBBBBBBBAAAA
   AAAAAAAAAjxkDBBDBBBBBBFDDBBBBBDBBBBBBBAAAAAABBBBBBBDBBBBBBBBBBFBDBBDBBAAAAAABBBBFDDBBBBBDBBBBBB
   BBBBBBBBBBBBDAAAAAAAAAAAAAAAAAAAAAAAAAAAAAAAAAAAAAAAAAAAAAAAAAAAAAAAAAAAAAAAAAAAAAAAAAAAAAAAAAA
   AAAAAAAAAAAABBBBBBDBBDBBBBBBBBBBBBBBBBAAAAAABBBBBBDBBDBBDBBBBBBFDDBBBBAAAAAABDBBDBBDBBBBBBDBBBD
   BBBBBFBDBBDBBAAAAAAAAAAAAAAAAAAAAAAAAAAAAAAAAAAAAAAAAAAAAAAAAAAAAAAAAAAAAAAAAAAAAAAAAAAAAAAAAAA
   AAAAAAAAAAAABBBBFDDBBBBBBBBBBBBBBBBBBBAAAAAABBBBBBBBBBBBBBFBDBHBBBBBFDAAAAAADBBBBBFBDBBDBBBBBBF
   DDBBBBBFBDBBDAAAAAAAAAAAAAAAAAAAAAAAAAAAAAAAAAAAAAAAAAAAAAAAAAAAAAAAAAAAAAAAAAAAAAAAAAAAAAAAAAA
   AAAAAAAAAAAABBBBBBFHBBBBBFBBBBBBBBBBBBAAAAAABBBBBBDBBBBBBBBBBBBBBBBBBBAAAAAABBBBBBBBBBBBBBFBDBF
   BBBBBBFHBBBBBgwRBFFBBBLBBBBBBBDBBBBFHPBDBBNBFHVDNHHnBBFFBDLBDBBBFBBBHHPBDBBNBBDFBPBDBBHFHHRDRBF
   FBDDFBBDDBLBFHD3/QBDBBDBBBBBBFDDBBBBBDBBDBBAAAAAADBBBBBBFHBBBBBDBBBBBBBBBBBAAAAAABBBBBBBBBBBBBB
   BFBDBBDBBBBBBFDDBBimRBDDNHHRFBNBFHPBDDNHHRDRBFFBBBJBBDDBLBFHXBNlBRBFHPBDRHHnBBFFBBNBDDN3BBFFBDL
   BDDBHDBBDHDLBDBBHFBFHPpvQBBFBDBBDBBBBBBDBBBDBBBBBDAAAAAABBBBBBBBBBBBBBBBBBBDBBBBBDAAAAAABBBBBBD
   BBBBBBBBBBBBBBBBBBDBBBBBBm1QDBBNBN/CBBDHPBDBBNBFXFDNHHVBJF3BBFDDPBDDBBJBNXBNBnBNHHPBHN3BBFHNBBD
   DBLPXBNBFHPBFPHHPBV3BBFDDDJBBDDl3PBBBBBBBBBBBBBBBBBBBFBDBBDAAAAAABBBBBBFDDBBBBBDBBDBBDBBBBBAAAA
   AABBBBBBDBBBBBDBBBBBBBBBBBBBBBBBBBg9P9BBFHPBDDNBBDFBBBLBDBBBBDDBBFHPBDBBNBFHPJlCBDBHDBJBDBBLBBF
   HPBDBBNBFHPBFBFHHvBBFHDLBDDJBBHHXnCHHPBhlPBBBBBFBDBBDBBBBBBFDDBBBBBAAAAAADBBDBBDBBBBBBDBBBBBBBB
   BBFBAAAAAADBBDBBBBBBFBBDBBBBBBBBBBBBBBBBBBsrPRBFHRDDNBFFBPBDDNnBP3BHHPBVBNPBHNBFHBBLBDDBHDHHnBB
   FHDLBDDJDBBDFBBBBHBBDBBBBHBBFHPBDBBNvDBBDFBDBJB/yOBBBBBBBBBBBBBBFBDBBDBBBBBAAAAAABFDDBBBBBFBDBB
   FBBBBBFHBBBBAAAAAABFBDBBDBBBBBBFHBBBBBDBBBBBBBBBBB85ODDFDBFHPBDBBNHHXBNHvBBFFBDDHBDDDDFHHnBnBPH
   HPBDR3BBFHPBDDNnBPpBNHHRDDNHHPJNBFFBDLBDDN3BBFFBPBDBBBLBFH58NBBBBBBBDBBBBBBBBBBBBBBBBBAAAAAABBB
   BBBBBBBBBBBBBFBDBBDDBBBAAAAAABFHBBBBBFBDBBDBBBBBBFDDBBBBBDBBD8iOBDBBLBBFHPBDBB9DBFHDBJBDBBLBBFH
   PBDBBNnBnCBFHZNPnB3BHnDBFHNBJlC3BHHPBHlCBFFBPBDRHHPBVHHPBDDNBFHPBDBBBHBt9MBBBBBBBBBBBBBDBBBBBBD
   BBDBAAAAAABBBBBBBBBBBBBBBBBBBBBFBDBBAAAAAADBBBBBBFDDBBBDDBBDBBBBBBBBBBBBBBwjNBFHPBDBBNBFdDlCBFH
   PBDBBLBBFHPBDDNBFHPBDBBNHZDRBFHPBDDNHhB1BPHHPBDDNHHRDDNBFHPBDDNnBP3BBFHPFDNBFHPBtmMBBBBBBBDBBBB
   BBBBBBBBBBBBBAAAAAABBBBBBBBBDBBDBBBBBBBBBBBBBAAAAAADDBBBBBDBBBBBBBBBBBBBBBBBBBBBBBB+rMDNBFHPBDD
   BFB7BBFHPBDDNBFDBBBBLBDDBFDBBFHPBDBBBLBNZlCBFHDLBDDBJBBFHPBDBBNBFHVBBDJ3BBDBHDLBDDNHfBlC7yLBFBD
   BBDBBBBBBFDDBBBBBDBBBAAAAAABBBBBBBBBBBBBBBDBBBBBBDBBBAAAAAABBBBBBBBBBBBBBBBBBBBBBBFBDBBDBBB64LH
   RDDNHHRDRBBDFBBBLBDDHDBHHRDR3BHHnBHHPFRHHPFpCBFFBDLBDBBDDFBBBBFBBBBJBDDHFBFHPBDBBHFBFZtCBFFBDLB
   Dr/KBBFBBDBBBBBDBBDBBDBBBBBBDAAAAAABBBDBBBBBFBDBFDBBBBFDBBBBBAAAAAABBDBBDBBDBBBBBBFBBBBBBBBBFBD
   BBDBkmLBLBFFBPBDBBNBFHRDBBHFHvBBBDHPBDDNHfPnBPBFHPBVHvBBFFBBBLBDDHBDPXP3BBFHZNHHPFDNBFHPBDpCBFH
   DLBDDBBJBFtpKBBBBFDDBBBBBHDBBDDBBBBFHBAAAAAABDBFBDBBDBBBBBBFHBBBBBFBBBAAAAAABBBBBBBBBBBBBBBBBBB
   BBBBBBBBBBBBBkwKDLBDBBLBBFHPBDBBNBdvCBFFBPFBBNpBNBdBDBBlCBFHPBH9D3BpBNBFHPFD1FpBNHHPBtCBFHPBDDN
   BDBFBBBLBDBBHFBFHPBDBBNroJBBBBBBBBBBBBBBBBBFBDBBDBBAAAAAABBBBFHBBBBBFBDBBDBBBBBBFDDAAAAAABBBBBD
   BBDBBDBBBBBBFBFBBBBBDBBBBBkvJFHPBDDNHHPJNBBBBFBDBJBDBBJDBFHPBDBBNBFHPBDBBNHHZNBBDHDLBDDHFBFHZNH
   HPFBPHHPBDRBFHPBDDNBFFBPBDDz6IDBBBBBBBDDBBBBBBBFBDBBDBBAAAAAABBBBFDDBBBBBDBBBBBBBBBBBBBAAAAAABB
   BBBBDBBBBBBBBBBBBBBBBBBBBBBBBBygJDBDnBPBFHPJNBFHPBDDNBNPFDNBFHBNBDDlCBFFBNBBDDJDBDBHPBFBLBBFHPB
   FB3BlCBFHDLBFBNHHnDvBBFFBDLBHNBFfPnBPHvgIBBBBBBBDBBDBBBBBBBBBBBBBBAAAAAABBBBBBBBDBBDBBDBBBBBBBD
   DBBAAAAAABBBBBFBDBFDBBBBFDDBBBBBDBBBBBBBB0mIPBV3BBFHPBHNnBP3BH5CNBFHDJBBVHHPXBFHPBDDNBFBBDBBJBB
   DBBHBDBFHPBDBBNBFHFJBDDHDBHHRVBFBDBBBLBBBBBBDD/sHBBBBBBBBBBDBBBBBBBBBBBBBBAAAAAABBBBBBBBBBBBBBB
   BBBBDBBDBBDAAAAAABBBBBBDBDBBBBBBBDBBDBBDBBBBBBDBD6yHBFHPBDDNBBDHDBJBBBBBHBBBHHPBDBPBFHBBDFBBDDD
   JBFHPBDBBNBFXFDNBFHPBDDNBFHPBDDNBFHBBLBDDNBFHPBFBNrhHBBBBBDBBDBBDBBBBBBFDBBBBBAAAAAABBBBBBBBBBB
   BBBBBBBBBBBBBBBAAAAAABBBBFBDBBDBBBBBBFDDBBBBBFBDBBDBB2nHFHPBHNBFHPBDDNBFHPBDDDJBFHLDBDDBBBBBBBH
   HPFRBFHBBJBBDBBBHDBFDBBDLBDBBBLBFHPBDBBNBFDDPJNHHnBBFHDz1GDBFDDBBBBBFBDBBDBBBBBBFHBAAAAAABBBBDB
   BBBBBBBBBBBBBBBBBBDBAAAAAABBBBBBBBBBBBBBBBBBBBBBBBBBBBBBBBw7GBDDBLBFHPBDDNHHPBFBN3BBFHDLBDDBBHB
   BNRDDNnBBNHHPBDDNBFhBNBFHBBLBDDNnBP3BBFHPBDRHHPXBFHPBDDlCBFFBDLBDt/FBDBBDDBBBBFDDBBBBBFBDBBDBAA
   AAAABBBBBFDDBBBBBFBDBBDBBBBBBFAAAAAAHBBBBBDBBDBBDBBBBBBBDBBBBBBBBBFBumGBFBDBFDDFJBDBBNBFHPBDBBN
   HhBlCBFHPBDBBNpBNnBnCBFHPBDDDJBNXPnBPHHPB/BNBFHPBHNnBBlC3B3BfFDlCBFHPBHBJBBFDDPBDjgFBBDBBBDBFDD
   BBDBFBDBBDBBBBAAAAAABBBBBDDBBBBBFBDBBBBBBBBBBBAAAAAABBDDBBBBBFBDBBDBBBBBBBDDDBBBBBDB+mFBBLBFHPB
   DBBNHDDPJlCBFHPBDBBNBFHPBDDNHfPHhBNBFHPBDDNHHZlCHHPBDDNfXBFHPBDDNnBPHvBHHPBDDNHHPJNBFHPBDDrnEDB
   BDBBBBBBBDDBBBBBBBFBDBBAAAAAADBBBDBDBDDBBBBBDBBDBBDBBBBAAAAAABBDBBBDBBBBBFBDBBDBBBBBBBBBBBDBB6r
   EBFFBBNBDDNBFHPBDDNBFHPBDBBNBnBlCBFFBPBDBBNBFHPBDDNHHPBDBBN3BBFHPBDDNBFHPJNpBNPnB3BBFHPBDDNHHZN
   pBNBFHxtDBBFBDBBDBBBBBBFDDBBBBBFBDAAAAAABBDBBBBBBDBDDBBBBBFBDJBBBBAAAAAABFDDBBDBDBBDBBDBBBBBBFB
   BDBBBBBFBw0DBDDNHHPXBFHPBHlCBFHPBDDNBFHBNBDBBNBFHPBDBBNpBlCBFHDLBDBBNBFHPBDDNHfPHvBBFHPBDDJDHvB
   3BHdDN3BBFHPBDDNnBhzCBBDBBBBBBFDDBBBBBAAAAAAAAAAAAAAAAAAAAAAAAAAAAAAAAAAAAAAAAAAAAAAAAAAAAAAAAA
   AAAAAAAAAAAAAAAAAAAAAg0C3BBFHPBHNHHPJNBFFBDLBDRHHPBVBFHPBDDNBBDHDLBDBBHFBFHPBDBBNBtDBFHPBDBBNBF
   HPBDDNHHPBFBNPRDRBFHPBDDAAAAAAAAAAAAAAAAAAAAAAAAAAAAAAAAAAAAAAAAAAAAAAAAAAAAAAAAAAAAAAAAAAAAAAA
   AAAAAAAAAAAAAAAAAAAAAAAAANpBlCHvBHHRDRBFFBDLBDDNpBlCHHPFRHHPFDNHHPBDpCBFHPBDDNBFHJFBDDNBFHPBDBB
   NpBlCBFHDLBDDNBFHPBDDNBFHPBDBBNHAAAAAAAAAAAAAAAAAAAAAAAAAAAAAAAAAAAAAAAAAAAAAAAAAAAAAAAAAAAAAAA
   AAAAAAAAAAAAAAAAAAAAAAAAAAAAAAAAAHRVBFHJFBDDHFBFHVDNBFdDNBFHRDDNHHRDRBFHJFFDNHHPJNBFHZNBFHPBDDN
   BFHPFDNBFDBBBNBDDHFHHPBHNBFHPBDDAAAAAAAAAAAAAAAAAAAAAAAAAAAAAAAAAAAAAAAAAAAAAAAAAAAAAAAAAAAAAAA
   AAAAAAAAAAAAAAAAAAAAAAAAAAAAAAAAAAAAAAAAAAAAAAAAAAAAAAAAAAAAAAAAAAAAAAAAAAAAAAAAAAAAAAAAAAAAAAA
   AAAAAAAAAAAAAAAAAAAAAAAAAAAAAAAAAAAAAAAAAAAAAAAAAAAAAAAAAAAAAAAAAAAAAAAAAAAAAAAAAAAAAAAAAAAAAAA
   AAAAAAAAAAAAAAAAAAAAAAAAAAAAAAAAAimkCrDnNjLta9UrI/GnSvrCpPhtF9SBvD51BrnE/fznC9pExCl1ChD7ajpBtQ3
   S1O9+E25jBxT/IrmGzPvlFlhE10G/pEvBh9FiijBtoBnrDzL7G3oCN70Bxfr4BrKlJvxDtrD5LzelRtPjS3nChdFznEvqFy
   yjBjzDz1I5zD9mFzkB72EprCmczlIitiBrnC3NjyCl9B9JlGh0B9mBlnBt9B5vD1J/S5Mz4Cp3Jj6BBl0FAAAAAAAAAAAAA
   AAAAAAAAAAAAAAAAAAAAAAAAAAAAAAAAAAAAAAAAAAAAAAAAAAAAAAAAAAAAAAAAAAAAAAAAAAAAAAAAAAAmnmBx4EroMx6
   Fp2Iv1B8zhB56CndpsBrH/ZlIf5iBvuF1xEXz1DlJ7D1dvc5M/2B/6Bzdh+Dh1Bz/C63mB3CnRre7lDvuENzCh9BhrCtyCn
   pDhO/EhrC7xDriBpj6B01yBne4ggBjiDklC/6wC+k+BrwB3/I84gBl5BzoElazuC3J3WZxzE3oB9qEjoKhEnu1Bso0BvclL
   2niBvH9Wx5G3P3gBhlEzhMluCl/D7yCrrD88lBljB9tL/MwzLnYJ/gMAAAAAAAAAAAAAAAAAAAAAAAAAAAAAAAAAAAAAAAA
   AAAAAAAAAAAAAAAAAAAAAAAAAAAAAAAAAAAAAAAAAAAAAAAAAAAAAAAAzxGnlNnsG0imBn4Gl8X26fh2InkB5Nj3BvkB3zC
   v8IxhElvGgpfvnN9CvlBpnEnP3jBjuExe9uC7uGysdh/EztB3/GzexuFwqc78HllN33H7zDpTiuiBtS1E/JvE1bXjLh/BlR
   thDtPperDjyB7JlQ3ExDla/uC7vB3G76BLpC9QlpB/HlftB9kB7EjoBzC3N1nB/8D96B/P38BjiCpDjiB7YuimBh5CtuBtR
   jhBlOjnCzV/iD7GAAAAAAAAAAAAAAAAAAAAAAAAAAAAAAAAAAAAAAAAAAAAAAAAAAAAAAAAAAAAAAAAAAAAAAAAAAAAAAAA
   AAAAAAAAAAAAAAAAvDj8CjqD3SrlB9W7rB/WhB34FxJ7Z9kFrzDi+kBJhGtCxoBttBlZtN/mB3kC/jBb5C7S9QjhB3vB9zE
   nJ7OhsBp1C9G7J7OtVtBlPhd/mBlIhf7l3Bw20Bj5Bx5B/ZhnB1jCuilB7qItV5Zh7It/IxyIinjBnH56CpvE1qB3BhjDzy
   CrnKr0J63X3pmC6lvB8wlBhdJ7SprEhpB1mB5BnoBrLnZ7pHhqDxiG9/C5uF81kB96GtiDn5C/zGAAAAAAAAAAAAAAAAAAA
   AAAAAAAAAAAAAAAAAAAAAAAAAAAAAAAAAAAAAAAAAAAAAAAAAAAAAAAAAAAAAAAAAAAAAAAAAAAAApvCjgFnrD1CrzBrmB5
   vB1vCo3cpxFthO7uFvh0Bs2zCv/EnFt3Ct5DnkB7wCl+BxKxsD96BpnC1/C1uBhzE30B2vjB9iH9oBrxWyngB9bvdv7CzgD
   5/DvlDj2BviBnRz3Dh6Cz2JsvgBpjI/8NsxYziBz8DnJ30D5Pxa/vDh3Ym7fx4Qx5B7qH4rgB5iB19B/P/1CnpBtEl0DnCl
   tBziBrpE56BhW92C1pBta76BhZniE1E3XxjEjVrVo5mB5CvBzGzSrYtYAAAAAAAAAAAAAAAAAAAAAAAAAAAAAAAAAAAAAAA
   AAAAAAAAAAAAAAAAAAAAAAAAAAAAAAAAAAAAAAAAAAAAAAAAAAAAAAAAAjElKDxKrYhW5CpiC/bxU3yB3NxnBtmBhDjepYr
   HrCrF1lB1d9lB9L5G37BzC5oBxwBzoBlfRJpNl4ChtBxcnchV/JlbjF3xDlHnqB7OpckpkBpzCz4Tr9JVxwD0plB5nT3wCp
   zEn/CnhBkucvkC/0DtwLkvPp2Br2NpD/9D7hGuofjhB/L9Hh5B1+F9Hv5DxrBn3Em5Rj7PhhJ7wE91D4pXx4B5qC5vN9lC9
   nF17vBgppChwC3zQAAAAAAAAAAAAAAAAAAAAAAAAAAAAAAAAAAAAAAAAAAAAAAAAAAAAAAAAAAAAAAAAAAAAAAAAAAAAAAA
   AAAAAAAAAAAAAAAAAvoH18uB6xyCj0BhiBvnFpjD9+E1lCpnBVxjBt3DzxCn+BjsBl3C8qhB3kC//OxhD3mEjlHzuzBirnC
   8wM/P3Dv5HxrD5JnyWq9iB9d/D9tHh+BppBrc9nF5sD72DjTt8CtYvpCv3E/7vBgk1C5sF1zF9T5nCr6E50C3D3uEp9CB/N
   163Bq+yB4hiB9rC1lG3kBhgFvqI3E+sXzsBznTltE+6YZvmBT3lC3IlN9LDvRlD3EhjB3M7HlO5I7UnrBt1BXAAAAAAAAAA
   AAAAAAAAAAAAAAAAAAAAAAAAAAAAAAAAAAAAAAAAAAAAAAAAAAAAAAAAAAAAAAAAAAAAAAAAAAAAAAAAAAAAAA1TB9D5WQ1
   Z1NxOzFJpUh9C7IHvFhCpNNjwB7GjFLBjD1hB1WzL7c7HtC9F34EtTxP9Sz6CF77C9G5LBrF5iCysQqlXlpCpuHr2C53Uui
   eknCh9zCBivvCz8DtyrC+jrC/C9grCBBBBBin0Bhn0BBBBB2h3B1h3BBBBuopCtopCw8jCv8jCB6jxB5jxBk9qC1CoiIz8y
   Cm5oChdlxC9qlC4+hC3+hCBBAAAAAAAAAAAAAAAAAAAAAAAAAAAAAAAAAAAAAAAAAAAAAAAAAAAAAAAAAAAAAAAAAAAAAAA
   AAAAAAAAAAAAAAAAAAAAAAAAAyh+Bxh+BBsr4By6Y70B/wvCBBBB0u1Czu1Cu8zCh+DvqH/hM7x8B47vChwCriD/yKs9MtH
   3lBlLq5DiB8yEpozC47vCp7CxO7xsCBB0tiCztiCBBBBBw2vBv2vBBBBBBBBBBBi4kCh4kCBu47Bl/GksXplsCBk+7Bj+7B
   B2wuC1wuCBBBBBBBymvC3zX2qRp5Kjk+BBBBBB2l8B1l8BB8xuCxqIu6M13Ni6K3hVAAAAAAAAAAAAAAAAAAAAAAAAAAAAA
   AAAAAAAAAAAAAAAAAAAAAAAAAAAAAAAAAAAAAAAAAAAAAAAAAAAAAAAAAAAAAAAAAAA8va5H/IvmDzW9a9oDhmD9CzpCpTv
   pB/5EjwB9S/b5uEtc/pExiBiqXlwF37B7jB3pN+vdtf5mFzxBlfzxDzHjR3EtjDllFzXn4BjkCnUlJp8D6oT/rEhgD1rJ7k
   B80djvBrFzgDp6BtpBjkCrpG/1D5tFpzLsgoBpqE2BxbruBnKpY9U9qB5qBjtHtkHhpD5iCj9EhlEu1hBjjC3PkqI7e/Cru
   C9RjCt7BjFrJpJ1R3OzSplBvH7I3iCAAAAAAAAAAAAAAAAAAAAAAAAAAAAAAAAAAAAAAAAAAAAAAAAAAAAAAAAAAAAAAAAA
   AAAAAAAAAAAAAAAAAAAAAAAAAAAAAAArLxcrxBxElL/QzhB7tC5JvjBzIx8Ep6Cn0BrQpF1bhB9DzK/kBxyBrW2gWnjCjlB
   zErM1/B3lBpiBtrBpuGwtZ7hE9pCtJhM78CjpC1KhpNx7Fu6kBnhWq6V9sBhCvQtT15Gz8C9N9I9jC7lB/jDtfjzB9gD92B
   jiH0ygB1jKpctDpkH9uC3qEt+6Bqx2Bh9BrhE+7dh1SzNt6G7C7ZunZ2f3rG92DlrC7sC1pF/xCliDxwE0qiB9mGp2rCmvh
   C3xEAAAAAAAAAAAAAAAAAAAAAAAAAAAAAAAAAAAAAAAAAAAAAAAAAAAAAAAAAAAAAAAAAAAAAAAAAAAAAAAAAAAAAAAAAAA
   AAAAAzrD1X7Tt5D5s0BkkmC77BpwBl4E3tD/x6Bo/zBtoE52vB6t1ClvC94Lb3yC5djhKh/Lm9lBt1eolZp5DtEz+CptCvl
   GxlBhzDt5BxFqvT9wPtkDs1U5kEllDj5CxQzGlxJ31Ey1gBt4GlpBzmSolZx+Ip8IwrTvVlW/FvrL/Y5pJFrDv4ClmExkCn
   rB0hhBhY7b5UzqFjoB/Mt4BpxCnyC3yEjrGtkBz4GprCP5iCtDojmB1iKhrCrqC7wEtjL/9Dm7a/GlyB//EAAAAAAAAAAAA
   AAAAAAAAAAAAAAAAAAAAAAAAAAAAAAAAAAAAAAAAAAAAAAAAAAAAAAAAAAAAAAAAAAAAAAAAAAAAAAAAAAAAriB/zB12E1n
   B9nCvjF5PtyB84gBzF3IxmN37Bz/L0/UxrD3iDnhC3nG0sEkpSjFl8DrmxCsquC/PjmBr5J13D5mCnDvHv9HrhBjsCjF/Mx
   0Du9nB3hQtgFrgMlwC09hBjozCytqC3D9gD1oCzLvfttCzxEpgDrFl5DrR5iE5jC1oB1H0+SlPhiCxiD1zH13FnB87Jw/Yp
   iDliE/vEvqCh5D7hC81XtwPzjBvmDv/JvBzBlgFknkBnlBnxFvuBlsDpjGnnC1W5pEjrCAAAAAAAAAAAAAAAAAAAAAAAAAA
   AAAAAAAAAAAAAAAAAAAAAAAAAAAAAAAAAAAAAAAAAAAAAAAAAAAAAAAAAAAAAAAAAAAAAA/3F1qFrmCsrjBxWhiBh7Gt8Bp
   T3yDnvDvQtuDzhC3qFtmBm8hBx0JhiBhc54B1VlXz/BtFxP1MtkBhsJjzGkvjBhsIzkamujBpJ7uGhtI78Hj3Ig6XxbltDz
   0oC4txBq7hBx7WgrXiBj5L7rIj6BljDnoJ4pjB9kB9WtH9Pt1DjkCtqDzVnsCpxCtH7Q5H9tiCi4hCzoD5wB9Dh9Br0CjB1
   uEHjxCtuC66jBh2NjlBvsBj2I/qEx/Dn7CvkBywbnjDvmDp7G7yK2uPAAAAAAAAAAAAAAAAAAAAAAAAAAAAAAAAAAAAAAAA
   AAAAAAAAAAAAAAAAAAAAAAAAAAAAAAAAAAAAAAAAAAAAAAAAAAAAAAAA9pBpFjX0iMhgIvYzsB3CnsQvat2B8thBtnB1sI3
   nJ9gB5tGkohBr0C3tDx6B3XnhB1d3yBlJlgE3CvT1zD7oGtOvyBvtDjjFrvBgyjB55GjnC/3C7lLhmD/gH0tkBluFnlDBj0
   DtpLja7zBxJjJh2F1X+sc7exN7TtlFlX1Oz0Bp5ChhHj0G3C75BnsF8jNj4Fj8En/BpmCu0hBnrIvwDt9BoB5yGmmZx+buk
   cvEnT//K18B/mF3B9pD5Cr3Ml1Di/XAAAAAAAAAAAAAAAAAAAAAAAAAAAAAAAAAAAAAAAAAAAAAAAAAAAAAAAAAAAAAAAAA
   AAAAAAAAAAAAAAAAAAAAAAAAAAAAAAA3kL62ZvmB/Gh5I9IzoBv3C/hEjNr4F1a5tBz8E9S3lFmnKqtcne5UtuDtnCvxBly
   BBpjBjShlB3abnoDD/dtvBlK3jEpqBxE1/DvCnWq2Sv2Ct9CtoCvH/tBl2R2iZlRi3JngHl3O2yYnyCrQr0C/uCpmB9TtsD
   hvC36D//DhlIglgBjxFl8B5B9D5LnepTx3B5gBpGr1CrtBrWxuEv9BnOvmBxzC3hBvmFzjD0riB/ijBwsnB5f5iBnRvjIAA
   AAAAAAAAAAAAAAAAAAAAAAAAAAAAAAAAAAAAAAAAAAAAAAAAAAAAAAAAAAAAAAAAAAAAAAAAAAAAAAAAAAAAAAAAAAAAAA9
   uDnpIBl1B3iDrvH9Wi/hBr5Mn9Cu/OtiDna5QhgBjG33D3Y5KxtCPpsEz2C1xBx/Ct4CxuCz2Dl5D8jhB9/BtF7Jn6B3KBp
   hD7N/qDzCvhFl7L+8cr1Vn/Borc5Pl3HjUlKjoBnwBjpBrvD7NrvDhQrY92B3K70BtmF7wDvsB8olBrhClIbhvH/VnNhJjj
   C1yBzmBppCtW7MjMvBnd1ChDzhCruCn7Cn/D7jE5N6ijBhhIhd93E5SAAAAAAAAAAAAAAAAAAAAAAAAAAAAAAAAAAAAAAAA
   AAAAAAAAAAAAAAAAAAAAAAAAAAAAAAAAAAAAAAAAAAAAAAAAAAAAAAAA1yD90Lr+BhL3oEpFiylBzG5rD7lB/nB9hB/SvsB
   9vB1HPvEjYhhBryClgF3lCx4BrN1KvI7e1e75B5O94C34C71Eo4nB2B/20C22wC95Dn0BrL59BntDrtBz6CxgFbzhEBnCt8
   BxkBniB5xC4zjBhE1qHn7ElF1lHBrsSouex6F91D1Gr5Bz/hCoy9BjwDrKlvJ68kB9jWhiCpjLq8hBpiG9qFx4Bf5In9Cpx
   E9zD+iLp2Dg0R5YxjDthG97C/gF9aAAAAAAAAAAAAAAAAAAAAAAAAAAAAAAAAAAAAAAAAAAAAAAAAAAAAAAAAAAAAAAAAAA
   AAAAAAAAAAAAAAAAAAAAAAAAAAAAAAhlB/2G18HtV3ixBwgzCl6FxoW7hCN1Nsmf/3SnqS9rBgvoBxelXruF3hBt6D3BzYh
   Q7+D7kCnMngCnRzkKx/EvO4ilBnkEfp8BvnFtvC3axWlQtmCtU7rHlvCtDxkBv7BsggBrc1jB3EtjErhCn2DjoJz+Drbpel
   /B9Hl7CDzmF5mBuuaurMjYh1EvrB7OBtnD12C1iEpKxoB//EhsDrhB/xE/qBhiFuunB1MtRrJhdxBtbzG/0B1U1TAAAAAAA
   AAAAAAAAAAAAAAAAAAAAAAAAAAAAAAAAAAAAAAAAAAAAAAAAAAAAAAAAAAAAAAAAAAAAAAAAAAAAAAAAAAAAAAAAAnP1BtF
   /sBzstCivrChwB/Ct8DtTh5B/uExRtvBzhBBxErKxF/QzlD5pBrEpBxHrE7yBnP/jCvCp5B7wBi9kBkRliB1kB9jBhKzBhp
   DpazMj6B7mD3pC36Cl8CpF5Dh5CphF9iFtnxB6g1C37HvGl0B05Cj+E9cj6Ht8CxyPw1nBnoB3nBpBtCjjD9NpiC1iBvN9L
   /CtxBtf/hB5iBDBB/N/qmCoziCpcvhB9HnUF1qBvUrhBnMAAAAAAAAAAAAAAAAAAAAAAAAAAAAAAAAAAAAAAAAAAAAAAAAA
   AAAAAAAAAAAAAAAAAAAAAAAAAAAAAAAAAAAAAAAAAAAAAAAxJnI/iBvyB7chdlL9U7lCpkD5X/lDgpkB7nCjkC/hDtyC3P5
   appBnCvkB/UzvM3Cv2F2qbrqFhiKx6Mq7lB7DfzDpGDlE/F/RlvBL7Q5NvP/gBtH9KzddT9evD7WnI10BnjBlBtkBJjL7sB
   7R7D3Ure3zB5rC3TD/BhGviB7S1FnxBtYhYlUrfvhBhXb9L9bzItkB5PjlElO7rColmB9xzCslpCrlpCAAAAAAAAAAAAAAA
   AAAAAAAAAAAAAAAAAAAAAAAAAAAAAAAAAAAAAAAAAAAAAAAAAAAAAAAAAAAAAAAAAAAAAAAAAAAAAAAAAmt0CjZtkFjvEjv
   Dp3DxVzHz/CpwE3tGv7C0rkB1hLvyDn6C1kKi6bj21CmipCpaxyCvoKxnBl1BqnSz4FhpR5pDsqlB5qBvB/EtiCnG5GxyCx
   NtMvVjFrBjChjB71D/gBt/Bp+BF/HvjC5mB3kBliC9xEhQ9H7e5H7jF+rf9lO/jMuzbp6xC4w/BhsB/0CigI5qBLvkiCql/
   BqpRrHhsClNtCzNpM5jB5O7cnUvE9B7R3N74E7d/wD/fvG3ZAAAAAAAAAAAAAAAAAAAAAAAAAAAAAAAAAAAAAAAAAAAAAAA
   AAAAAAAAAAAAAAAAAAAAAAAAAAAAAAAAAAAAAAAAAAAAAAAAAlX5S55B/8BnRz4CtsBx+FlF4gjBvF/rC9qBvzC9F5R/rCp
   XzZnpErL5hGpwG/VmliBhf7H3jCt4CvJnqDtzB5EtmE10BnoBlElEvD5a7zB/iC1HlVjdxDrIh+BjdxoB72BppBxhBnZvyC
   hmBukkBxuElwG/2BpGjQh+J94B/5BjP5H/jG5nEuwmBvlKxvCnuJv2E9wCrnEzNi0Y3mEpmC/3jCi6wCpgBxd1nClNrR9gC
   /DzsG/MjuBrC1mCAAAAAAAAAAAAAAAAAAAAAAAAAAAAAAAAAAAAAAAAAAAAAAAAAAAAAAAAAAAAAAAAAAAAAAAAAAAAAAAA
   AAAAAAAAAAAAAAAAzuC3BlP1zEjvD63hB3sC/oMpa7uGnTtf9j+Bgs2BqsclkBjiBn2BzFDhd7lClUhJxhBroBxgC3MtS/W
   pI7Sn1BxGE1IvvC9M1EpPxBl/DhEzJ5iCx9CnFnFjgB9zChkBimlBppGlvFjjD7wH5ezoG/fxwBqrajpB/gDlrQ35FpoE21
   S6/L9wCnuD/lDhkOtI11C1gEs9iBxzzCgykC5jEvwNuyFt2E0+gBx+BriB5NvK1XpcrMlSpBpW3tBAAAAAAAAAAAAAAAAAA
   AAAAAAAAAAAAAAAAAAAAAAAAAAAAAAAAAAAAAAAAAAAAAAAAAAAAAAAAAAAAAAAAAAAAAAAAAAAAAA3Q7D5TnJzRjEhsChV
   zKpOvhBrrBjQ9I9I1KnX1T9lBtJlJ9crN5BpL5T1YvgB9VzE/Q3qBzhB/Nv6BzQhExOzSlCj9B3BB7CzCvQ7Y5TtEu0jBzq
   C1JtlB9EjhJxYpkBjoBvJ38Fv3B6hTralCvJz6CriB5VnOrT3a7L/+C1xB7Kh6Btc9gCxPnSnb9G9vCjGlsDtZvuC7ay6bt
   kT55DpnB+1a/BAAAAAAAAAAAAAAAAAAAAAAAAAAAAAAAAAAAAAAAAAAAAAAAAAAAAAAAAAAAAAAAAAAAAAAAAAAAAAAAAAA
   AAAAAAAAAAAAAAjErvL7zG18Co5LwtGntOn2E3Dq1dzD9oBrfzGvzHv4BjmM35ExlHktjB34B5xBp5BxNnZrBEpb9QjTz3C
   jHlB3XrDvyFrsCvV1oD9sCxDxsC/MFvHnXpCuoa/9B1zB/V7nB/hDxoBrsBvyB7kFl4FlgCr6Bh+E9Bu8kBxE/FzpCp6CvZ
   n4CnnCvLn5FtzB1iCp9B1hCpJpbjhBnCpTtwBhqC/Or90B660BqpblnBjElqCiqCjCv7B7rGAAAAAAAAAAAAAAAAAAAAAAA
   AAAAAAAAAAAAAAAAAAAAAAAAAAAAAAAAAAAAAAAAAAAAAAAAAAAAAAAAAAAAAAAAAAAAAAAAAhvmCk4lCzhB9wCp5GtkEuj
   ehoCjjzC2pxB2sVk3OrS7Y3gCtsClsBxyCvkInmI5On1B1VncjiGrI7kBr/BnFo1iBxqCzQtI5pBnD3sBhiDliC5tRjlBzv
   Cj8Bt2B++hB9ShlDr0BxfnvHp4P3MtM10B+/a/1Sz8BhvDwogBn3D5S9Nj+Dp7Hv6Gl9Iqvex+EjhIzlVyjnB7jFhuD3iDv
   0CnmH9zRo5kB5SlwBl1CpgC17CxtD7tFh/EzhK3Ki8hBvvHzR3hFvlIh0BjwLAAAAAAAAAAAAAAAAAAAAAAAAAAAAAAAAAA
   AAAAAAAAAAAAAAAAAAAAAAAAAAAAAAAAAAAAAAAAAAAAAAAAAAAAAAAAAAAAAAm1WhlKlmP1G47nB3d1Xr2D59D5vBzzCzw
   E3/G7z8Bu6zB8pZnktCBmn+Bh+CzY3EzSvqEzu1Byg1Cxg1CBspwC9lBrxCh4B7TpF1SjupCijoCxNvuBrvB1WrmC1Dr6B5
   L1w/Bk/8Bj/8Byj4Bxj4B2+2B5iD5rChwxBqnwBughB5pE1hDp0E9vDr6BvvI9wH5ajhCymnBjrI1N3/DxzLo4Y5+DrzDl6
   ItvMzP+3XzpV6hbjUv3C/oBpmF/kFglIl8Fw+L+vBhNri1CBBggwC//vCAAAAAAAAAAAAAAAAAAAAAAAAAAAAAAAAAAAAAA
   AAAAAAAAAAAAAAAAAAAAAAAAAAAAAAAAAAAAAAAAAAAAAAAAAAAAAAAAAABqinC7PtymCgtiChmC9mgC+37B7DnPrgG7Bxi
   1B+mwB9mwBBBou1Cnu1C46wCz5DzpDv3pCBk+hC7sErvG7h3Bw40BplFu7hBjYhdtCpZz9uCyptCxptCBikrCsBrlrCqloC
   z0BvD9MJjG9R7nlCorkCtFlCzjkCi9jCjB97jCs0gC/BrygCii/B7mBl79Bw29Bv29B204BjpDxr1BBBg0zB/zzBsquBrqu
   BBB0xsC/vGzhmC++jC9+jCBi/xBqghBp/yCBBk9oCj9oCwxkCjK/vBrkH3FAAAAAAAAAAAAAAAAAAAAAAAAAAAAAAAAAAAA
   AAAAAAAAAAAAAAAAAAAAAAAAAAAAAAAAAAAAAAAAAAAAAAAAAAAAAAAAAAAAnt7B4+xBzyCv5B07blupCu+jCvoJ916BB+1
   wC91wCBo/tCxb1jtC64pC7G1uBpDzoB1LlU1QxJhEnBhS9IhZ5jjCm1iCl1iC2tiCnfr4BpkC3x9BBgs7B92D72Cl+0B0mz
   BzmzB0pxBzpxBBm31Cve140C86zCxdjxJz3C51B/zBpnCluB3kE9yBpCn75Bmu4B9YzR7O302BqwzBpwzBsqxB5P63kBxH3
   LxOrpBrPYtavoBvF5KnLxc1rCzxsCg/rC34BxKpGlkBl7Bx1BAAAAAAAAAAAAAAAAAAAAAAAAAAAAAAAAAAAAAAAAAAAAAA
   AAAAAAAAAAAAAAAAAAAAAAAAAAAAAAAAAAAAAAAAAAAAAAAAAA3R5Nra1iE14F35B74IptB6rhBvjIhsDpEhrPg5Rz7Czbz
   kC36Bp/D2sap4D3/F5iItC1Vh1EntIvjDtoB+yV/rDl8CB1zDnvC9JlqBm9XlUdrwG9FlmCrkDzGxB1mCj1CjgB5S5DxkB7
   qEj+ElekyYi3DznD9YhuChyD+1Rr9Et2InoGytPrlChGv1KziB1miCBut0CnRrjD7PxGnE1gBt9uCB4huCpzC9T5H1G/rqC
   mupClupCw3nCv3nCk8jCpmB51iCAAAAAAAAAAAAAAAAAAAAAAAAAAAAAAAAAAAAAAAAAAAAAAAAAAAAAAAAAAAAAAAAAAAA
   AAAAAAAAAAAAAAAAAAAAAAAAAAAA0z/BtCv5BtBja/Wjl8Bo94BjZ9ZxzCz20Bo00BjtEq9bn7EjkB1qIrwF3oDi+f3NzO/
   S/vCjM/yB9vBzoBllEt/B1N9E7tB7sBrMHt0FpsBhZh0Ez4CzEr+yBuz1ClMpSnL7pBFvCn5D3EhFrvCvGjnCtmG3TxKjoB
   7oBhEvC50BtrB7sBz0BxIn2EpI7KpP1pClGBohiBhpGroDnE7f5yEztE1oLx0D03kBnz1Co3nC3Uj/Bxf9oH/pB1pBAAAAA
   AAAAAAAAAAAAAAAAAAAAAAAAAAAAAAAAAAAAAAAAAAAAAAAAAAAAAAAAAAAAAAAAAAAAAAAAAAAAAAAAAAAAAAAAAAAvvFz
   kD5FxQkuJthLkqmBzvRzzSk4iB3lBjUjjBEhJvvBxC9PpmCtRprBhpEnLxT7B/5B9QvRznH/6CnsD1Rr20Bq2xBrflsCohb
   joTntCkxhB3PpJlpB35BtsB5CvgBt2C/xC55DpgCxhBn6EntB10BvFxN/hB3P5Lzel1Cr3Dn4B6tmB7RhYvF5l0CypyCzHh
   9C1CttBBhEje9DxCB1rBnXhd9rpCq/oCL9+oCymoCBt1B7GlqmCm5lCl5lCAAAAAAAAAAAAAAAAAAAAAAAAAAAAAAAAAAAA
   AAAAAAAAAAAAAAAAAAAAAAAAAAAAAAAAAAAAAAAAAAAAAAAAAAAAAAAAAAAA2+kCp1BBppjCi3iCpN3piC43hC33hCBmi+B
   hlCzjB5pClclEjBl0BjBvgBa3D9M/HpajmzBBy8wCx8wCggnCrrKxChy8BBop0CziE7sB35uCBmnlClkC5zGliG/s2Bi8zB
   v3BxkyBBBB618BknP7gH30GpiF9k5B6jxCxsE7N/mFtwPj8DhjCylkBr8C38Mj0Ll0IlY1Pyxa5wE76Rqrf3+Hh/P9jO6ln
   B5HrO3pFl3C/O5uBxhC/rB38EjlBr8D1rB1yB3mBvGxlBAAAAAAAAAAAAAAAAAAAAAAAAAAAAAAAAAAAAAAAAAAAAAAAAAA
   AAAAAAAAAAAAAAAAAAAAAAAAAAAAAAAAAAAAAAAAAAAAAAnL1jDgyhBxFpClt1CBwqwChLt/vC8+tCxS/DrM97sCBBBs6jC
   ta9/iCqniC5FvhiC2+/B1+/B298BtChF5lB/Grp7BB4y2BWn9Bj20BBuvwBvB9twBBs7kClpD/vED/C7xFimeNj0B5W5nzC
   izyCliB1xBzc/0BvLhqH/3lCBso+B18C1r7B815Bz/Bn23BqoxBT1nxBBo/1CzVnC13E3uG5rEr5Qv3BxgD+rlBh/E7J9Ev
   mDl7sCBk+/Bj+/Bwq7Bn3E+1d9dAAAAAAAAAAAAAAAAAAAAAAAAAAAAAAAAAAAAAAAAAAAAAAAAAAAAAAAAAAAAAAAAAAAA
   AAAAAAAAAAAAAAAAAAAAAAAAAAAAlrzCBB6y1C35B3uEz2T4+Zr2B7mBhyCrDhVNJtwCpOl4G7cpNvhBhX7L3wBzmCztBpe
   7T9ejLpyCxdpgFi3jB75Bj8B9uH5HnlF3D5Xv4F/sC9rHn3CjrDkghBr3GhrBj+Bn2D8kNzhF/qExlGrH3gGrqHqtkB9Mxk
   CnxCtInD5H1pB3iBhFhLtlCryBnKxsBnIxGljCtwBn7jC2qjC1TplDtchtCtGPlajOtLhH1D7wBrjCxpC18BAAAAAAAAAAA
   AAAAAAAAAAAAAAAAAAAAAAAAAAAAAAAAAAAAAAAAAAAAAAAAAAAAAAAAAAAAAAAAAAAAAAAAAAAAAAAAAAAAApSgxiB3zB9
   lBvoC5pDlwC5OrFz6CrJzan6G/pF/9BvmBjkIFkyWj2E7zH5kEo9hBNne70B/0CpsC/hC/rCxfxKtpB3W9rChFlpB1/C5Xj
   7CjR7F/ZnmCnlBvdjZ9JrhDhpE6nmBtSttDhOrpE5R93E/8BtzjCw3hCx8B7MjThfha35B/6D9ZzJ5H7H1Yd/Gv2B+oiBtD
   xTpLfpN5Bt/C1BnOvqB5EroB/bpZl+C36BxEx6BAAAAAAAAAAAAAAAAAAAAAAAAAAAAAAAAAAAAAAAAAAAAAAAAAAAAAAAA
   AAAAAAAAAAAAAAAAAAAAAAAAAAAAAAAAAAAAAAAA5ZjtB/QPxBhSztC9DjCxBxsB99F/sCVrvBnF9IxQ/sB9VhBlLwxjBli
   I7GhsF1wErmCrPrbuhV71ExdhqIhY99FxnN5nC/0B0zdpN3vRs3cnJvB9axBl9B13CtdrqB5GzEzInUpnBpgBpDvFzKDrYz
   WhSzN5N/XvCtD9D/blI5uB9G5ThiB3StQ5HjHhkB/MxrC17DvOnb9oC5B7I7IrGnFr+B/EAAAAAAAAAAAAAAAAAAAAAAAAA
   AAAAAAAAAAAAAAAAAAAAAAAAAAAAAAAAAAAAAAAAAAAAAAAAAAAAAAAAAAAAAAAAAAAAAAALrK3wDytmB1F1uBvqBx/CjQ5
   Wn0B9tC/yD74E9bhqD5+Bl0B1f30Bx0BttCtDjK9Q7vD63nBvXpI7Nx4BjuEtF9jClS3RvFxLEnC/XzDrSvxCxFxf7HpE/n
   B/oB3hBHpIhEpHjgBvEpG3SthBn3CxK/6B1GztBvO9Z5ErXvlCzJ/gDuxbvjL36I/gD4mcjLyrEt4HnkIuvR/2FtgCjR1Lz
   2DnwCplD//CnxBzFpJzzBAAAAAAAAAAAAAAAAAAAAAAAAAAAAAAAAAAAAAAAAAAAAAAAAAAAAAAAAAAAAAAAAAAAAAAAAAA
   AAAAAAAAAAAAAAAAAAAAAA9rGVx0CzJysiB//DrpDhMnoC9jOgzYnR/D1Ml4EtuT2lWGrZh1BzkBpkB3Pl4DnN/LxD7rCzE
   vRlUzSxyBtapsDrLzCrH5nC3rC/1BzE1uBzRxK7P5RHjvB34CwtP3a4tWtTpMjgDtiC3Q71En+B5xB3TrV/RlmCn3C9zG9/
   DnFrlDnzB+vLqtapMn1ct4Eilf71LiXrtBxjM69V/uE/2CghC7+GnjCrL1oErmDhpD9b8rf95CAAAAAAAAAAAAAAAAAAAAA
   AAAAAAAAAAAAAAAAAAAAAAAAAAAAAAAAAAAAAAAAAAAAAAAAAAAAAAAAAAAAAAAAAAAAAAAAAAAhMpoBftpEzyBLvW/LxLj
   JlSrB96B7PzDjpBxrE/DnSbj8Bx4B/FhPzKzBhmCn3B/23Byv2BzLnrB+3MpyB7B5hCliBi3V5MhqBzrFlPtiBDjiB7Sxeh
   a3Y3xC1JxDzL7FvS5D5G1lBliCnB79BnzBv2BlatpBzhBpMjI13BrrBfnJo4jB5mCx/C9N/0BpjFvnGvP1iCxKhxDz0C5/C
   jOhiB+kVrXvupCugxC/1LroHj1IAAAAAAAAAAAAAAAAAAAAAAAAAAAAAAAAAAAAAAAAAAAAAAAAAAAAAAAAAAAAAAAAAAAA
   AAAAAAAAAAAAAAAAAAAAAAAAAAAAtsC/sBkxb5jBj5Gi3QnYtIz6BrhB/4D9HlzGlEt2G9sBnm/Bs71BhInasyWpPjwJn0B
   1qM/U1uF2rd9vFtjBjsBjDz+C7U/mBidrejwG/Wl3DlpC3DoxjBr6EtwEtkBhgLkkWrtBrrC9tEBhKj7B5yKxrIH84dvBnl
   B3rB1wCnqC/IncziC7KzC3G1yBtvC7Gn+B1wBjnCrqD/R5XrOwga1zD/8BvCh4BvjCpoK94CtiDpUrqG7C4mgB1mLh2JAAA
   AAAAAAAAAAAAAAAAAAAAAAAAAAAAAAAAAAAAAAAAAAAAAAAAAAAAAAAAAAAAAAAAAAAAAAAAAAAAAAAAAAAAAAAAAAAAAr1
   Iyudt/DjwDv5S0jbl+0C46zCr+El0C5JxL9hBlLtyEn1DzuFr1G9/D3F69jBnmCplBh5BnrCvuDngEhTz5C1uD35D14B7zD
   3StmB/Wz/B/Dpa+8iBzvBnJljF1uCnuF3iH12I7CvuC62hB50FvqI5T/xD/pBjoCtCphHxEqqZ/ZvlCh2C1tHvzBheh3J/d
   rlBgiYh4Dn4DpoJn0BzwDroGpoCzivB87zC3rKrpDzVhvHrwGv0C/CrnFwrkBjGxmB3qG/OtFt8CAAAAAAAAAAAAAAAAAAA
   AAAAAAAAAAAAAAAAAAAAAAAAAAAAAAAAAAAAAAAAAAAAAAAAAAAAAAAAAAAAAAAAAAAAAAAAAAAAA/GvE1N5lDnJtzDnKZn
   M1DxoDje5FnH/fxzDlQ59BxClC4+gB7wD3xNz+CxyHvvBigX79B13Dt1UusevnC15B9qC5N9tB59MljBprC71Gs9WmgKvmG
   3+EqmHhiF1Or2CzGrK5kC9kEhxB/uE7WrqDxtBplBpRxDhFnXPjIh0B11Btd6/mB10ThgC5ZtFvHpmBrpDp5E1BnIvR4+Uz
   xBnwF0kRnzK76bw5mB1pHrrG31N1GzBo8ThwQ7kBAAAAAAAAAAAAAAAAAAAAAAAAAAAAAAAAAAAAAAAAAAAAAAAAAAAAAAA
   AAAAAAAAAAAAAAAAAAAAAAAAAAAAAAAAAAAAAAAAAjwEgzclG1fjgC1fxlKr1HzH3KtOr7Fr+BrtEl5B+3mBib3tC11GhzG
   y8I6tG3J/7CpvDrYrgB9iEtiCxQz/BrhC/B5Gx7B9C73BnDlXroBprClnE56DzuB95C4wmB7HvijBo0Hw6d98MnzDk1P5iG
   l7FlvC/OlqD3gCr7M9Zy7Fi+G5EukNsxI78CzJ/2BtP10DlWlI/lC9hB/tM1gKh3B3Ck7kBtyBhfvjBpoxC06rCz6rCiyqC
   xYjXn+D7CljCrB99KAAAAAAAAAAAAAAAAAAAAAAAAAAAAAAAAAAAAAAAAAAAAAAAAAAAAAAAAAAAAAAAAAAAAAAAAAAAAAA
   AAAAAAAAAAAAAAAAAAhiFw+fpb/Vj+DjlBn7EzwCpF7wGztG4yYh8T04Or2JpzE5mGulax9F74CuiH3nB7lIn5lC2p6B8ha
   nqBzzCrvD1S1jFzO/H7iH/6CrgBjvFzuBhgEl1wB8zqC5tFoxFlHu7JjsB9wB9uZgrUtxD94oC2iiCt3C9hBxqJqhcr8Il7
   L16DrtDxjEk8jB9tEpFxuEz3W1xF88c3xI51RsnfpuB76BrpCliB5E5nB12C3F7uCzgB7/Bl0DrzB7yF3jFo/iB7xC5jIxs
   F1pBr8L5vB1mBAAAAAAAAAAAAAAAAAAAAAAAAAAAAAAAAAAAAAAAAAAAAAAAAAAAAAAAAAAAAAAAAAAAAAAAAAAAAAAAAAA
   AAAAAAAAAAAAAAxhCgsiBjoB91Ho+J15Cj5FhsCn0DnO5sChLzxD/2HrxBizWhiI1W9qI2pQg1I/Ij/IrgI/3EhiBhgBnmI
   /1D3mBo2G60axwD5zE5lOvkDsjbrvD50B9HvCxnDtzNloC3kIjNoxjB57BPDtXnHxgB/vDlhBpoBrBnKhrrCsymCpI1kEho
   B3qEhF9alYhF19BpIxvD9tBlhDnpB60e9mExCnzEpfhgkCmh1CvoB5uGxe//CrsBxuC/9CroC/vHhhC7kGI9XAAAAAAAAAA
   AAAAAAAAAAAAAAAAAAAAAAAAAAAAAAAAAAAAAAAAAAAAAAAAAAAAAAAAAAAAAAAAAAAAAAAAAAAAAAAAAAAAAAm4iB71S6s
   In6QlV7lGrQmjd9yBtwJ3P5/In9Dl8C0whBlgGxItwG/vDrZxC17Cv7D9pL+0lB5+gBkjhBzUhlCx2Cx7Cv2DloDj6DjyH9
   +Bz1C/4B7sDtvCq0hBtqBvtVnsC/pJm+gBrpCpCn2CrmD1sBhItH1zH1Jh6KB7LlYk2iBjtew0e7iB5I1KtChzKzvBliI7o
   CrjI19BjgEknlB/LzgRjhI/rH/CvI27jBtGpuFvPhxB1lBpkBrtCnNpkCxaxwIlW9YAAAAAAAAAAAAAAAAAAAAAAAAAAAAA
   AAAAAAAAAAAAAAAAAAAAAAAAAAAAAAAAAAAAAAAAAAAAAAAAAAAAAAAAAAAAAAAAAAA797BBqgxBi2kB/a7lC/tBtc9gBzE
   phD96D//B3qBr9Lze9IpH15C12E1M2/jBz3KmiMjmHttEv/NpwCk6cr2C5pBvzO9yOzuDzQ7EjEu0hB3kB37Wr9BgoUn0Ep
   oEt1N44Rl2V56BmwgB1qM12N7/Es5jB/xGjjBjtBlmC/oD/7BxtBpDpE1yBnCr/C9BhMnhC1hDv74Byy2Bt2CriD+xelyP3
   8Gh8Hsze6uFn3Bz+C97BhkD1jF/3C3gHD1pB5yHh2Cy4kB3pB5Mz3CAAAAAAAAAAAAAAAAAAAAAAAAAAAAAAAAAAAAAAAAA
   AAAAAAAAAAAAAAAAAAAAAAAAAAAAAAAAAAAAAAAAAAAAAAAAAAAAAAAt9D/1G3gBtT1E9FlOtlB/HhuHvlC9Lt6DzJhwBpg
   D2jkBx+GxYtI30CrqPhvEp2B39C8zkBnEz+CxlCpClIvzBjnB9wBjBj8B5Fn4C7XrGtIjK3J3ERnHlnBpVpDrIlbxsB72Bn
   VlsBpcpcnF9YhBpRlgClPj0DnlCpGq5bpUh2X8xbp7Fv+DtEhgDlwTs0d5NpjN4kTnlFr0GpHtF76B5iGn3El5B9yJsilBr
   XxnDpzHhjDzwCAAAAAAAAAAAAAAAAAAAAAAAAAAAAAAAAAAAAAAAAAAAAAAAAAAAAAAAAAAAAAAAAAAAAAAAAAAAAAAAAAA
   AAAAAAAAAAAAAAvhChDlvE7TjoD/MtW3sFtpxBwxqCtD94JB/aojWj2Dr7BrlBptBviBvzBr4D6vC7er8C30B10BvlE33Jp
   +E3b2uXrZ5mClwMx4E29hB3lG3VpKxKzD3BtvCBh2B3xB7ZzGxJze/0B1ezzCrG1yDpgCzvE3jDrjEq5lB96B5hE9IvNjDl
   W9mC5Jx5Bj1B/bjMzvB/vFn1BrX/5Bn9B3hBkkd9uQ69LptHx5UuxfvZttC1+E5DnUrd7uCxDAAAAAAAAAAAAAAAAAAAAAA
   AAAAAAAAAAAAAAAAAAAAAAAAAAAAAAAAAAAAAAAAAAAAAAAAAAAAAAAAAAAAAAAAAAAAAAAAAApnCxnHhsIvtE+plBzGh4B
   nH7C5U3DznE5Uh7DxiFtnBviO2yevBh3CzGrjM1I3Gp7JlmC44R/xPkgY5tIrsFtuJyuY/kBviLymGnGhjC1pB7rFz6M3iC
   h6H86nBxyKhpG1pChwIogTzuVzqJkrmB9KjR7iNj8Jx9O6rc7wCp3C5zCm9QrnE7oQ9wGuvP5BR+wLvjG5sGvpJljBmzYvQ
   77B9MjG9xB5RlwB54BExJ5iCvIlrF/BB5O/vDxFj7C7rF"

def pairChar? (first second : UInt8) : Option Char :=
  if 0x41 ≤ second && second ≤ 0xFE then
    pairs.char? (190 * (first.toNat - 0x81) + (second.toNat - 0x41))
  else none

def front (b : UInt8) (rest : List UInt8) : Front :=
  if b < 0x80 then .ascii b
  else if 0x81 ≤ b && b ≤ 0xFE then
    match rest with
    | [] => .fault 0
    | second :: _ => .pair ((pairChar? b second).map ([·])) second
  else .fault 0

def decode (bytes : List UInt8) : List Char := decodeBy front bytes.length bytes

end SessionGateway.Text.EucKr
