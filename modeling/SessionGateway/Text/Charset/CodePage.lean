import SessionGateway.Text.Charset.CodeTable

/-! Encodings of one byte for each character: ASCII, and a table for the other half. -/

namespace SessionGateway.Text

inductive CodePage where
  | ibm866
  | iso8859Part2
  | iso8859Part3
  | iso8859Part4
  | iso8859Part5
  | iso8859Part6
  | iso8859Part7
  | iso8859Part8
  | iso8859Part10
  | iso8859Part13
  | iso8859Part14
  | iso8859Part15
  | iso8859Part16
  | koi8r
  | koi8u
  | macRoman
  | windows874
  | windows1250
  | windows1251
  | windows1252
  | windows1253
  | windows1254
  | windows1255
  | windows1256
  | windows1257
  | windows1258
  | macCyrillic
  deriving DecidableEq, Repr

namespace CodePage

def all : List CodePage :=
  [ibm866, iso8859Part2, iso8859Part3, iso8859Part4, iso8859Part5, iso8859Part6, iso8859Part7,
    iso8859Part8, iso8859Part10, iso8859Part13, iso8859Part14, iso8859Part15, iso8859Part16,
    koi8r, koi8u, macRoman, windows874, windows1250, windows1251, windows1252, windows1253,
    windows1254, windows1255, windows1256, windows1257, windows1258, macCyrillic]

/-- The characters of the bytes from `0x80` on. -/
def upperHalf : CodePage → CodeTable
  | ibm866 => .ofText
    "hhCBBBBBBBBBBBBBBBBBBBBBBBBBBBBBBBBBBBBBBBBBBBBBBBj1QBBkJjC5DBaEbmBLLEE4EH/BSiB6B3DjCBMOpBIOi
     B3BMBKBaEOBvBEmFa3HKPHiBi0QBBBBBBBBBBBBBBB+E/E8E/E8E/E0E/E+6Bx2Qm2Ql2QqQmnQ3vSiwS"
  | iso8859Part2 => .ofText
    "hIBBBBBBBBBBBBBBBBBBBBBBBBBBBBBBBBnGndwZ8JxJ5BoLBvLGLpB6M/MG4MpFrd0Z+IzI5B3WghBxKGLpBlWgWGyCo
     JB/D+DpHoDgEpEoE9E8E9E8EB/DDlDHqHB3H2HBhIrBqJrJqJBpIoIrHqHBhCgCrFoDiCrCqC/C+C/C+CBhCDlDHsFB5F
     4FBjGrBsHtHsHBrGrX"
  | iso8859Part3 => .ofText
    "hIBBBBBBBBBBBBBBBBBBBBBBBBBBBBBBBBrIjbsjBBA/H8HBvI7CiErBwIA7M4MtHsHBBB/G+GBxH7CiErByHA9L6LBBA
     DrEGkEBBBBBBBBADBBB3E2EBpEoEBBB/IiB8HBBBADtCGmCBBBBBBBBADBBB5C4CBrCqCBBBhHiB3X"
  | iso8859Part4 => .ofText
    "hIBBBBBBBBBBBBBBBBBBBBBBBBBBBBBBBBnGnD7BmLnIlBqJBvL+EfnE0L/M+MBpFrdqYoKpHlB1YghBxK+EfnE8BnDoD
     4EgEBBBBBvGmCoE9E8E1E0EB3F2BpDNuBmGBBBBzJyJBB3ID4IjCiCBBBBBxEmCqC/C+C3C2CB5D2BpDNuBoEBBBB1H0H
     BB5GD7W"
  | iso8859Part5 => .ofText
    "hIBBBBBBBBBBBBBBBBBBBBBBBBBBBBBBBBh2BBBBBBBBBBBBg2Bh2BBBBBBBBBBBBBBBBBBBBBBBBBBBBBBBBBBBBBBBB
     BBBBBBBBBBBBBBBBBBBBBBBBBBtsOssOBBBBBBBBBBBs7Bt7BB"
  | iso8859Part6 => .ofText
    "hIBBBBBBBBBBBBBBBBBBBBBBBBBBBBBBBBAAAHAAAAAAAv2Cg2CAAAAAAAAAAAAA72CAAAHADBBBBBBBBBBBBBBBBBBBB
     BBBBBAAAAALBBBBBBBBBBBBBBBBBBAAAAAAAAAAAAA"
  | iso8859Part7 => .ofText
    "hIBBBBBBBBBBBBBBBBBBBBBBBBBBBBBBBBv3PBu3PxgQF0gQBBBhtBgtBBBAv2Ps2PBBBhtBBBgtBhtBBBgtBhtBgtBht
     BBBBBBBBBBBBBBBBBBBBADBBBBBBBBBBBBBBBBBBBBBBBBBBBBBBBBBBBBBBBBBBBA"
  | iso8859Part8 => .ofText
    "hIBBBBBBBBBBBBBBBBBBBBBBBBBBBBBBBBADBBBBBBB7C6CBBBBBBBBBBBBBB7D6DBBBAAAAAAAAAAAAAAAAAAAAAAAAA
     AAAAAAAx1PwkNBBBBBBBBBBBBBBBBBBBBBBBBBBAAniNBA"
  | iso8859Part10 => .ofText
    "hIBBBBBBBBBBBBBBBBBBBBBBBBBBBBBBBBnGbfPGbgJnJ4C/ELtBiN5LiC2JpFbfPGbiIpI4C/ELtBtpP2qPiC4EgEBBB
     BBvGmCoE9E8E1E0EBBBpHN0HBBBjJiJzJyJBBBBBjCiCBBBBBxEmCqC/C+C3C2CBBBrFN2FBBBlHkH1H0HBBBBzD"
  | iso8859Part13 => .ofText
    "hIBBBBBBBBBBBBBBBBBBBBBBBBBBBBBBBB53P43PBBz3Py3PBhDgD5K4KBBBvBuBBBBx2Pw2PBBhEgE7J6JBBBvC7BzC+
     CLmEBlFOOoE/KoGXnBahBpC8BDmHxHwHBB1JkDxBf+I9JD+JrCzC+CLoCBnDOOqChJoGXnBahBpC8BDoFzFyFBB3HkDxB
     fgH/HD1pP"
  | iso8859Part14 => .ofText
    "hIBBBBBBBBBBBBBBBBBBBBBBBBBBBBBBBBj2OBi2OtGB9vOo2Ox9Ow9Ox9OwHtOskPBzMrqOBgwOB9xOB44O/5O1C2C3C
     oClJgHBqCk6OBBBBBBBBBBBBBBBpKoKBBBBBn5Om5OBBBBBxJwJBBBBBBBBBBBBBBBBrIqIBBBBBp3Oo3OBBBBBzHyH"
  | iso8859Part15 => .ofText
    "hIBBBBBBBBBBBBBBBBBBBBBBBBBBBBBBBBBBBxgQwgQ1L0LzLyLBBBBBBBBBBzMyMBBtMsMBBtJBpC0LBBBBBBBBBBBBB
     BBBBBBBBBBBBBBBBBBBBBBBBBBBBBBBBBBBBBBBBBBBBBBBBBBB"
  | iso8859Part16 => .ofText
    "hIBBBBBBBBBBBBBBBBBBBBBBBBBBBBBBBBnGB3D12P+I+rP0LzLyL9W8W7M6M5MB4MB1FrD1D/pPw2PBtMkH3Q+VtJBpC
     H6LBB/D+DjEiEBBBBBBBBBhElDkHBB3H2HnIrBwJBBB3DjQ4TBBBhCgClCkCBBBBBBBBBjClDmFBB5F4FpGrByHBBB5Bj
     Q6R"
  | koi8r => .ofText
    "hwSDTHHHHPPPPnEHHHHBBBonB/nBw4BB7C3BBs8QhoRknRDJ/DxlSBBkwQjwQBBBBBBBBBBBBBBi2Qh2QBBBBBBBBBBos
     Sp6B+BBpBmBBdkBjBcBBBBBBBfgBBBBcKzBEqBhBJKGF6B+BBpBmBBdkBjBcBBBBBBBfgBBBBcKzBEqBhBJKGF"
  | koi8u => .ofText
    "hwSDTHHHHPPPPnEHHHHBBBonB/nBw4BB7C3BBs8QhoRknRDJ/DxlSBBkwQF/vQ+vQB/vQBBBB2sQoD/vQBBBi2QF91Q81
     QB91QBBBB2tQmIs2Bp6B+BBpBmBBdkBjBcBBBBBBBfgBBBBcKzBEqBhBJKGF6B+BBpBmBBdkBjBcBBBBBBBfgBBBBcKzB
     EqBhBJKGF"
  | macRoman => .ofText
    "pMBDDPJLJEDDEDDDEDBDEDBDDEDDEJEDBnyPi3PeBH13P62PxCkDMxnQ+mQav7Q25QjBr0Q82Ql7QBi8Qf50QdGglP1mP
     k4Qf9uBosBjB0D+BV72QyoQrrQmE41Qf12Pu4P/BFjB5HB/rPBPBMBmyPltS4sSxH3sPvGoHBtstDBkutD22Pl2PHjB+2
     PPUTIJBBINB1i8D8i8DPBGvFpZrB8iBxiBBBmiBpiBGqB"
  | windows874 => .ofText
    "5qQ4iQBBBj6Pi6PBBBBBBBBBBv4PBFBJgBB63PBBBBBBBBh2GBBBBBBBBBBBBBBBBBBBBBBBBBBBBBBBBBBBBBBBBBBBB
     BBBBBBBBBBBBBAAAAJBBBBBBBBBBBBBBBBBBBBBBBBBBBBAAAA"
  | windows1250 => .ofText
    "5qQ4iQx5Pw5P15PPOB05Pv6PitPxtPguPTxBK0Ov4PBFBJgBB63PzoQk8PxtPguPTxBK2NtiBhBwZ8J/F+FBBBpLoLBBB
     5M4MBziB0Z+IBBBB5EzFqKjI/Zga7DyCoJB/D+DpHoDgEpEoE9E8E9E8EB/DDlDHqHB3H2HBhIrBqJrJqJBpIoIrHqHBh
     CgCrFoDiCrCqC/C+C/C+CBhCDlDHsFB5F4FBjGrBsHtHsHBrGrX"
  | windows1251 => .ofText
    "lgCBthOw8N18NPOB1I6HwiO/iOgjODEHlEr8NBFBJgBB63PzoQ0sOh+Ni+NDEHg8B72B/EuFq2B3+B2+BBz1By1B11B01
     BBBBx1Bw1BBp1B/E1D69BBBz5BpsOmsO05B55BoF/EDwEBBBBBBBBBBBBBBBBBBBBBBBBBBBBBBBBBBBBBBBBBBBBBBBB
     BBBBBBBBBBBBBBB"
  | windows1252 => .ofText
    "5qQ4iQx5PyoP3oPPOB41Oz2OitPxtPwuPsM/O+OBv4PBFBJgBByzOrkPk8PxtPwuPuLhOOyNBBBBBBBBBBBBBBBBBBBBB
     BBBBBBBBBBBBBBBBBBBBBBBBBBBBBBBBBBBBBBBBBBBBBBBBBBBBBBBBBBBBBBBBBBBBBBBBBB"
  | windows1253 => .ofText
    "5qQ4iQx5PyoP3oPPOB05Pv6Pu6P96P86PBBBBv4PBFBJgBB63PzoQyoQ/5P+5PBBBBpuBBouBBBBBBBADBBBt2Ps2PBBB
     htBgtBBBhtBBBgtBhtBgtBhtBBBBBBBBBBBBBBBBBBBBADBBBBBBBBBBBBBBBBBBBBBBBBBBBBBBBBBBBBBBBBBBBA"
  | windows1254 => .ofText
    "5qQ4iQx5PyoP3oPPOB41Oz2OitPxtPwuPsMBBBv4PBFBJgBByzOrkPk8PxtPwuPuLBzNyNBBBBBBBBBBBBBBBBBBBBBBB
     BBBBBBBBBBBBBBBBBBBBBBBB9E8EBBBBBBBBBBBnF7CgIBBBBBBBBBBBBBBBB/C+CBBBBBBBBBBBpD7CiG"
  | windows1255 => .ofText
    "5qQ4iQx5PyoP3oPPOB41Oz2Ou6P96P86PBBBBv4PBFBJgBByzOrkPyoQ/5P+5PBBBBBBBtgQsgQBBBB7C6CBBBBBBBBBB
     BBBB7D6DBBBBhvCBBBBBBBBBBBBBBBBBBB5CBBBBAAAAAAAqCBBBBBBBBBBBBBBBBBBBBBBBBBBAAniNBA"
  | windows1256 => .ofText
    "5qQ+iN35MyoP3oPPOB41Oz2Ow7M/7MwuPnzCjBiBtCx2MBFBJgBB42MxnNkpNx6MwuPxrPBo1M2hD32C22CBBBBBBBphD
     ohDBBBBBBBBBBBBBBj2Ci2CBBBh2CjKiKBBBBBBBBBBBBBBBBBBBBBg2C/1CBBBLBBBo2Cn2Cm2Cl2CBBBk2CBBBB71CB
     61CB31CBBB21C11CB01Cz1Cy1Cx1Cw1CBjxPB8zM"
  | windows1257 => .ofText
    "5qQ4iQx5Pw5P15PPOB05Pv6Pu6P96P86P3B9hBghByCv4PBFBJgBB63PzoQyoQ/5P+5PlB3iB6jBBADBBADBhDgD5K4KB
     BBvBuBBBBBBBBhEgE7J6JBBBvC7BzC+CLmEBlFOOoE/KoGXnBahBpC8BDmHxHwHBB1JkDxBf+I9JD+JrCzC+CLoCBnDOO
     qChJoGXnBahBpC8BDoFzFyFBB3HkDxBfgH/HD1V"
  | windows1258 => .ofText
    "5qQ4iQx5PyoP3oPPOB41Oz2Ou6P96PwuPsMBBBv4PBFBJgBByzOrkPyoQ/5PwuPuLBzNyNBBBBBBBBBBBBBBBBBBBBBBB
     BBBBBBBBBBB/D+DBBBBBBBpjBojBBBhEgEvjBujBB3M2MBBBBBBlNnVqiBBBBhCgCBBBBBBBrhBqhBBBjCiCjjBijBB5K
     4KBBBBBBnL1vP66P"
  | macCyrillic => .ofText
    "hhCBBBBBBBBBBBBBBBBBBBBBBBBBBBBBBBh/Ni3P/9B8+BH13P62P/0By1BMxnQiyO/E7gP8lP/E18O82Ql7QBghPk6B3
     9B0IK/E8E/E+E/EgF/EGoF01B72QyoQrrQmE41Qf12Pu4P12B/EgF/EQ77NBPBMBmyPtyPihO/EgF/EtrOsxO/EGgCBBB
     BBBBBBBBBBBBBBBBBBBBBBBBBBB7lO"

def front (table : CodeTable) (b : UInt8) (_ : List UInt8) : Front :=
  if b < 0x80 then .ascii b else ⟨(table.char? (b.toNat - 0x80)).map ([·]), 0⟩

def decode (page : CodePage) (bytes : List UInt8) : List Char :=
  decodeBy (front page.upperHalf) bytes.length bytes

end CodePage

end SessionGateway.Text
