import SessionGateway.Text.CharClass

/-! Lower case of a text: single-character mappings from a table, the dotted capital I, which
becomes two characters, and the capital sigma, which takes its final form at the end of a word. -/

namespace SessionGateway.Text

/-- Capital letters beyond the ASCII range with their small letters. -/
def lowerForms : CharMap := .ofText
  "gGsBBgCCMBgCiBvBBCEFBCDPBCDtBBCCABxHBFBCEABkNBDBCCAB8MBABCCCB6MBABCDAB+EBAB0MBAB2MBABCCAB6MBAB+
   MCABmNBABiNBABCEABmNBABqNCABsNBFBCCAB0NBABCCAB0NDABCCAB0NBABCCCByNBDBCCAB2NBABCEABCIABEBABCCABE
   BABCCABEBRBCDRBCDABEBDBCCABhGBABvDBnBBCCABjICRBCIAB2iVBABCCABlKBABwiVDABCCABlMBABqEBABuEBJBCiJD
   BCEABCJABoHHABsCCEBqCCABgECCB+DCgBBgCCQBgCkBABQJXBCGAB3DDABCCABNBABCDEBjIBeBgFB+BBgCxBhBBCK1BBC
   CABeBNBCD/CBCDqCBgDq6CqCBgmOCABgmOGABgmOzW+EBg9rCBKBQ0kCABCH0CB/7FDEB/7FhK1EBCKAB97OC/CBCKOBPJK
   BPLOBPJOBPJKBPMHBPJOBPZOBPJOBPJOBPJCBPBCBzEBABRMGBrFBABRMCBPBCBnGNCBPBCB/GBABNMCB/HBCB7HBABRqJA
   B51OEAB9rQBABrkQHAB4BuBeBgBUABCzZyBB0Bx5B+CBgDxBABCCABt/UBABruHBABt+UDFBCCAB3hVBAB5/UBAB9hVBAB7
   hVCABCDABCJCB9jVBjDBCJDBCFABCuqetBBCUbBCoENBCE9BBCLDBCCABnglCBJBCFABCCABvyyCDDBCETBCCABn0yCBAB9
   0yCBAB10yCBABh0yCBABn0yCCABjxyCBABzyyCBABpxyCBABg6BBPBCCAB/CBABl0yCBABvjlCBDBCCABt2yCBPBCCABhkz
   CZABCs5VyBBgCmmBuCBwCpEmCBwC9EUBuCCcBuCCMBuCCCBuCr3BkDBgE+EqBBgC75C+BBgChsV+BBgChCwBB2BoyeiCBkC"

/-- Letters of either case beyond the ASCII range. -/
def casedChars : CharClass := .ofText
  "qFAKAEAFWBeBiGBDEvGCiBHBeEgDAqBDCBCDBAGABCBABTByCBqEIlFBlBJoB34ClBBAFACqBBDgV1CCFikCKFqBCCgC/Fg
   C1ICFClBCFCHBABABABeC0BBGBADCBGDDCFEMFCBG0DANAQMlDAEACJBADEGABABABDBFEACDFEEARfDBxZzB24BkHGDDBM
   lBBAFAyoetBSdkElDDDBsCUFBC1ZqBBNGvCg6TGMEpgBZGZllBvCgDjBEjB0DKBOBGBBBKBOBGBBjOACCBpBBIlmByBNyB9
   CVKV64C/BgrV/BgBYCYspZ0CBmCBBCACBCDBLBABGBgCBDCHBGBbBDBEBADGBzKCYBYBeBYBeBYBeBYBeBYBH05BJBTGFlI
   9BykCjCs/BZGZGZ"

/-- Marks inside a word that do not end it. -/
def caseIgnorables : CharClass := .ofText
  "nBAGALAjBABAnCAEABAEACB3P/FEBEAJBBA7HGvGAFAxBsBBABBBBBAsBALFKKBAjBAKUQAlDHBJBDhBABAea7CK6BKEACA
   YXrBCsBAHBFIpB5B3BABAEHEADGKBNAPA6BAEDIAUBaACB5BAEBEBCCDAeBDALB5BAEEBBEAUBWFBA6BACABDIAHBLBeA9B
   AMAyBADA3BABCFCBDHBLBdA6BACAGAFBUBcB5BBEDIAUBdAoCAHCBA6CACGLIiDACIJABGpCBbABABA3BNBEBBFKBjBJAmD
   DBFBBCBZBECQDNACBGAPA+CAgTCydCdBeBeBgCBBGIACKDAFAtBEzBAhCBiBA2DCEBJAGC7GBCA6BABGBABACHGJCAnBAIt
   BCLUDwBABEBAFAoBIMBgBDCBBC4BABBDABC6BHCBgCFyCCBMBGEAGADByB+BNAiBkD9NABCLCNCNCNBMEIBKACACExBEBJB
   ANAQMzBgBr8CBxDC9DAPAgDfvBA1OAkBDDEFA9CF9CC24bAinBFuIAiDDBJBAcDwCBOhBuCAXCmDDDBIADAEAZBFA3EBaRN
   AmBHZKuBCwBACDCBRAVBiCFCBCBMAIAjBALAzBABCCBFBBAbAOBFBBAkDEJC5DACAEAw5TAzEQ9RPDAMPiBACApFAHAGALA
   jBABAvBAtBBjCAVChQAiHA1EElgBFBpBBImSCBBFDoBCEAlFB9RDmBAaEBA7JBYA0BFmCKxBD7DA2BOpBACBKCxBDCBCAEA
   KAyBCkBEBH+BAMB0BIKDCA/CCCABBGACA9EADHVB5BBDAlBGDEmCFNABABAOB1CHCCBAXA0CFBAEBBBuHDGBBBbB1CHCABB
   qDABACFBAlDABACDBEjIIBBgIBBAEAwEDCBEAgBJoBFCDIAJFCCuBMBBmGABCBApGGBFBAyCVCGBBBB6DFDABBBGBAoCBDA
   BAhCA5IBLB0BEFABAXA1mFQGOomLLDCguCE7BGJD8PCoBBiPA/BQgCBBBNB8/PDBGBB+kDBBD8yEtBCWgRCJPCGeD0EC79B
   2BExBIAOAWEBOwqBGBQCGBBBEF9BhBAgFNwLA9BD7PE+HBzHACAHBFAJAwOGtDHv1CEhgjYAe/CgEvH"

/-- The lower-case form of a character wherever it stands. -/
def lowerOf (c : Char) : List Char :=
  if c.toNat < 0x80 then [c.toLower]
  else if c = 'İ' then ['i', Char.ofNat 0x307]
  else (lowerForms.lookup? c).getD [c]

def isCased (c : Char) : Bool :=
  if c.toNat < 0x80 then c.isAlpha else casedChars.contains c

def startsCased (cs : List Char) : Bool :=
  match cs.dropWhile caseIgnorables.contains with
  | [] => false
  | c :: _ => isCased c

/-- `before` holds the characters already read, the nearest first. -/
def lowerChars (before : List Char) : List Char → List Char
  | [] => []
  | c :: rest =>
    let lowered :=
      if c = 'Σ' then
        if startsCased before && !startsCased rest then ['ς'] else ['σ']
      else lowerOf c
    lowered ++ lowerChars (c :: before) rest

def lowercase (s : String) : String :=
  String.ofList (lowerChars [] s.toList)

end SessionGateway.Text
