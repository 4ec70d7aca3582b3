import SessionGateway.Text.Decomposition

/-! Characters that combine with the one before them, which letters of a cursive script join their
neighbours, and where the two invisible joiners may stand in a label. -/

namespace SessionGateway.Url.Idna

open Text

/-- Marks of all kinds, with a width or without. -/
def combiningMarks : CharClass := .ofText
  "gYvDzIGnIsBBABBBBBAoCKwBUQAlDGCFCBBDjBAea7CK6BIJAYDBIBCBErBC7BIqBXBgB2BCBRBGKBdC4BABGCBCCJAKBaA
   CC4BABEEBCCDAeBDALC4BABHBCBCUBWFBC4BABGCBCCHCKBeA7BEDCBDJAoBE3BABGBCBDHBLBdC4BABGBCBDHBLBPAMD3B
   BBGBCBDJAKBdCmCAEFBABHSB9BACGMHiDACILGpCBbABABAEBxBTBBFKBjBJAkDTXDECBCCGDDNLBAKD/VCydDcCdBeBgCf
   JAtBCBA1DBiBA2DLEL7GE5BJBcCAwBtBCLUEvBQmBIMCeM4BNwBT4ECBUEAGACCmG/BwWgB+/CCtEAgDfqRFpDB0udDBJgB
   BwCBwIADAEAXEEAzCByBRaRNAmBHZMsBDvBNkBAjCNMAIBtBCyBABCCBFBBApBEFBsHHBBw5TAhXPQPteAiHA1EEm0BCBBF
   DoBCEAlFB9RDhCE9JBtCFmCKxBD6DC1BOpBACBKDtBKHA9BCkBNQBsBAMCwBNIDBB8CLGACA9ELVD3BBBGCBCCJAKBCGDEj
   CIBACABDBEBAOByCRXAxCTrHGCIbByCQqDMlDOgIO1HFBBCDBABBtEGCGDAcJoBGBDIAJKuBPmGHnGHBHyCVBN6DFDABBBG
   BAiCEBBBE7KDJBBAwBGDEXAlnFAGOomLRguCE7BG4gBAB2BHDxCALBrlTBhzEtBCW+QEDFIHCGeD0EC79B2BExBIAOAWEBO
   wqBGBQCGBBBEkDAgFG3LA9BD8PD+HBzHACAHBFA6OGtDG19lYvH"

/-- Letters that join both neighbours. -/
def joinsBoth : CharClass := .ofText
  "gxBAFABABEEMBGBBjBBIPSlBBBJABABBoBCCASCFDBIBABABBfKDOCDBACCCFqCgB2CECABJBAKABDCAdACEBAQJFBCFBO+
   5DAY4COhBBA18jBxBuyYEODBEBCKDxEABADCBBBACAcByKgBBA/MBBBoDCBQMCcDCLuBABBEACBBBBACAFA1p2BjC"

/-- Letters that join only the one after them. -/
def joinsNext : CharClass := .ofText
  "yjqBA6yYAJAoRAqWA"

/-- Letters that join only the one before them. -/
def joinsPrevious : CharClass := .ofText
  "ixBDBABAFDVAoBCBCQRmBACIBABACBBAYBgBAEEEAJABABACAdALCPBEABBDBmGAFBBAKABCOABBFSLAbCBACBGArwgCABA
   BBDEKADACAKAxEABCDACABBBAXD1LA/MAwDAgBAfB+BCCBCAEBFA"

/-- Marks that joining passes over. -/
def seenThrough : CharClass := .ofText
  "tFAySvDzIGnIsBBABBBBBAoCKBAuBUQAlDGCFCBBDhBABAea7CK6BIJAYDBIBCBErBC7BIqBXBf3BABAEHEADGKBdA6BAED
   IAUBaACB5BAEBEBCCDAeBDALB5BAEEBBEAUBWFBA6BACABDIAHBLBeA9BAMAyBADA3BABCFCBDHBLBdA6BACAGAFBUBcB5B
   BEDIAUBdAoCAHCBA6CACGMHiDACILGpCBbABABA3BNBEBBFKBjBJAmDDBFBBCBZBECQDNACBGAPA/VCydCdBeBeBgCBBGIA
   CKJAtBCBA1DBiBA2DCEBJAGC7GBCA6BABGBABACHGJCAwBtBCLUDwBABEBAFAoBIMBgBDCBBC4BABBDABC6BHCB4ECBMBGE
   AGADBmG/BrQACBaExBEFFgDgB+/CCtEAgDfqRDrDB0udDBJgBBwCBwIADAEAZBFA3EBaRNAmBHZKuBCwBACDCBnBAjCFCBC
   BMAIAvBAzBABCCBFBBAqBBIAuHACAEAw5TAhXPQPvGA5HChQAiHA1EEm0BCBBFDoBCEAlFB9RDhCE9JBtCFmCKxBD7DA2BO
   pBACBKCxBDCBHA9BCkBEBH+BAMB0BIKDCA/CCCABBGACA9EADHVB5BBDAlBGDEmCFNABABAOB1CHCCBAXA0CFBAEBBBuHDG
   BBBbB1CHCABBqDABACFBAlDABACDBEjIIBBgIBBAEAwEDCBEAgBJoBFCDIAJFCCuBMBBmGABCBApGGBFBAyCVCGBBBB6DFD
   ABBBGBAoCBDABA7KBLB0BEFABAXA1mFQGOomLLDCguCE7BG4gBA/BDxCA4lTBBD8yEtBCWgRCJPCGeD0EC79B2BExBIAOAW
   EBOwqBGBQCGBBBEkDAgFG3LA9BD8PD+HBzHACAHBFA6OGtDH11lYAe/CgEvH"

/-- Whether the first character that joining does not pass over joins this way. -/
def reachesJoining (side : CharClass) : List Char → Bool
  | [] => false
  | c :: rest =>
    joinsBoth.contains c || side.contains c || (seenThrough.contains c && reachesJoining side rest)

/-- The class of the marks that suppress a vowel. -/
def viramaClass : Nat := 9

/-- A joiner stands after a mark that suppresses a vowel; the one that keeps letters apart may also
stand between letters that would join. `before` holds the characters in front, the nearest first. -/
def joinersFit (before : List Char) : List Char → Bool
  | [] => true
  | c :: rest =>
    let fits :=
      if c.toNat = 0x200C ∨ c.toNat = 0x200D then
        before.head?.any (combiningClass · == viramaClass) ||
          (c.toNat == 0x200C && reachesJoining joinsNext before &&
            reachesJoining joinsPrevious rest)
      else true
    fits && joinersFit (c :: before) rest

end SessionGateway.Url.Idna
