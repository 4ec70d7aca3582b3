import SessionGateway.Text.CharClass

/-! Letters and numbers of all scripts. -/

namespace SessionGateway.Text

/-- Alphabetic characters and numbers beyond the ASCII range. -/
def alphanumerics : CharClass := .ofText
  "qFAHBBADBBCBWBeBpOELOEHABA2CAdRBBCDBAGABCBABTByCBqEIlFBlBCAGoBnBNBABBBBBAIaEDdKF3BBQElDBHEHEPCA
   QvBNkDOqBJBEAFXCSTYHKFXBGHAIpBKLDGGrCBPBCEOCJBSBHCBCVBGBADDDHCBCBBAIAEBBECLCFCAECBFEBCVBGBBBBBB
   EEEBCBEAHDBAHPLCBIBCBVBGBBBEDIBCBBDAPDCJJDECBHCBCVBGBBBEDHCBCBJBEBBECJBGKBBFDCBDDBBABBDBDCDLEED
   CBCDAGAOMNMBCBWBPDHBCBCIBBCBBCDCJIGBDBHBCBWBJBEDHBCBCIBFCBDCJBCMMBCBoBCHBCBCBAFPCSBFBCBRDXBIBAC
   GIFBABHGJCBN5BFGGACJnBBBABEBXBABSBCCEBAGACJCDgBAfTMHBjBESEPBjBjC2BBACOGtCClBBAFACqBBsKBDCGBABDC
   oBBDCgBBDCGBABDCOB4BBDCiCOTDPQ1CCFDrTCQBZFqCDKHTLUMTMMBCBBMzBCSOAEADJGJWJG4CHqBFlCKeBLEINnBCELr
   BEZGKlBbE+BCTLJGJNAXBLCxBzBBOBHDJmBpBC5BBKO2BJJDwBCKFqBCCpBDBFBBDAF/FThBL1ICFClBCFCHBABABABeC0B
   BGBADCBGDDCFEMFCBGzDBCFFKGMlDAEACJBADEGABABABDBKCDFEEAB5B2W7BapC2TdsjBkHGDDBJAClBBAFAC3BHAQWJGB
   GBGBGBGBGBGBGBfvBA1OCZIHECEE1CGCB5CBDFqBB9CDDKfwBPgBJeHBOgBJnBOgK/tGgCs0VjCtBCsIDbUuBFHDwDnBICm
   DCxCUUBgBIFKzBMjCBAKJYFDABtBFiBNcDyBBLPKGeB2BJNCJGWDkCBABAYCCPCDLFCFCFJGBGBqBBNG6DFJGj9KMWEwBko
   ItLCpDmBGMEFLBMBEBABBBBBrDhBqLS/BC1BoBL0DEBmETJHZGZL4CDFCFCFCCjBLBZBSBBBOCNiB6DMsBM4BRB0HcDwBQa
   EjBJdFqBFdCjBEHBEqB9ECJGjBEjBEnBIzBMKBOBGBBBKBOBGBBDzBM2JJVKHYFBpBBIlCFCABrBBBDACWCeClBIIwBSBBF
   gBEZGZmB3BETCxBBBFHBCBcKIXeBfgBHBbGEQ1BKVCaFZXGwCoC3ByBNyBHtBIJGlBDAFW6GeBpBBBDBQFyBCDnBIVLDbRu
   BbUWJlCMdBEK4BJANYHJGyBDJEDIiBDAJ/BBDJMBAETLRBhBCAGD+BGBABDBOBJH4BHJGDBHCBCVBGBBBEDHCBCBDAGAFGc
   JBACABlBBJBACABDBBDABAsBhCBCBDFJFCehCCBBAIJmF1BCGZFiB+BBADALJmB1BCAHJGTcaCNFLEG5F4BnDyCMHCACHBB
   BdBBCBCDNJmCHCtBCFBABBbyBCJRnCFASoCnDH4CgBPJGIBsBBGBAPcFdCVBNpCGBBBrBDABBBCBACBIJGFBBBkBBBBDBAH
   JGrBEJ2HWJQBoBDCPJ2CAPUrB5cmDuDRjGsyCgDPvhBRFZ68DFmS51GuBBJm2B4RHeBJGuCBJGdSvBQDMJBGBUFSwNsBDJm
   G2CJYCYsBqCE4BHQgCBBAMGJ1mHpBfhDyD9vIDBGBBBiJPAdCCAODIrMkoCqDFMDIHJEAxiEJmuBTMTsDYnE0CBmCBBCACB
   CDBLBABGBgCBDCHBGBbBDBEBADGBzKCYBYBeBYBeBYBeBYBeBYBHCxBg4BeGF1GGBQCGBBBEF9BhBAwDsBKGCJEAhKdSrBE
   J2ObEJ2GdCKlGeBVIBgHGBDBBBOBkGCIwBjCDADAEJ3Y6BBCBDsCsBBOiGDBaBBBACABJBDBABAGAEABABABCBBBACABABA
   BABABBBACDBGBDBDBABJBQFCBEBQkSMjBZGZGZmzCJmgB/2pBgB9oECt0FCwpHPtTitC9QivBq6EFppI"

def isAlphanumeric (c : Char) : Bool :=
  if c.toNat < 0x80 then c.isAlphanum else alphanumerics.contains c

end SessionGateway.Text
