import SessionGateway.Text.Ascii
import SessionGateway.Text.CharClass

/-! The shown form of texts and records: a text stands in double quotes with escapes for whatever
is not printable, an optional value as `Some(…)` or `None`, a record as its name and fields. Control,
format, private, unassigned and separator characters are not printable, nor are fillers without a
shape and marks that attach to the character before them. -/

namespace SessionGateway.Text

/-- Characters beyond the ASCII range that are written as escapes. -/
def shapelessChars : CharClass := .ofText
  "gEgBMAySvDIBGDHABAUAgHGmFAmBByBBDtBBABBBBBIbDGQKKBAuBUQAlDHBFCBBDgBBBAec5CKBNrBIHCYDBIBCBGPAZEB
   ALEgBPqB4B3BABAEHEADGKBdACAIBCBWAHABCECBACFCBCABMCADDYEBAGDCBWAHACACACDDXEABGKBDABLBAJADAWAHACA
   FCEHBACCBOCDMGBHCAIBCBWAHACAFCBBBFCBCOCADDSKBAGCDAECCABACCCCDCMEBACCDADCBUVFDAIADAXAQCBCESDACBC
   DKGKALADAXAKAFCCBBACWDACDKADNLADApBBBACEDADACDDAKDaBCASCYAJABBHICFHGKBDLwBACKIHNkBCABAFAYABAKAC
   IBBFABIKBEfYBbABABAOAkBRBEBBFwBIAGANkBtBDBFBBCBZBECQDNACBGAPAoBABEBBvEBoHAEBHABAEBpBAEBhBAEBHAB
   AEBPA5BAEBjCEdCaF2CBGBgUAcC5CGSMTCCISNNADO0BBBGIACKJCKFKFLEKF5CGFBiBABEmCJfDEBDDCAGGBCqBBFKsBDa
   FLC5BBCC4BABIBACHGMKFKFO1CwBJECIAdIMBgBDCF4BABBDABMwBHCEPC+BErBBLKBMBGEAGADBBEgG/B2IBGBmBBGBIAB
   ABABAfB1BAPAOBGATBDAJQYHvBQCBbANCiB9BsED6UVLU04BB5LCCEtBABEBB4BGCOXIHAHAHAHAHAHAHAHgB+ChBaA5CL2
   GZQApBFQA2CDlDErBAzBAqBA2CIwBAtzcC3BI8KTvBDBJgBBwCBGH9GTRADAEAZBFDKF4BHkCJMXNAmBHZKBLeFwBACDCBC
   ANALDHAZApBFCBCKDAIABBKBgBAzBABCCBFBBABXRBIKGBGBGIHAHA8BD1DACAECKFk9KLXDxBjoIuLBqDlBHLFEBAYAFAB
   ACACAqUfQPKVjBATAEDFAnED/EAeCGBGBGBDCHAHMCBMAaATACAPBOhB7DEDDtBC4CANCBuBtBiEdCxBPbDkBIeEmBJeAlB
   DOpB+EBKFkBDkBDoBH0BKMAPAHACALAPAHACC0BL3JIWJIXGAqBAJkCGBBAsBACCBBXAoCHJvBTACEhBCbEblB4BDUBvBOE
   ADAdJJGJGgCflBFMI2BCdBbEaGELHvCpC2BzBMzBGqBLKFmBHYHCvGfAqBCBBCPGHJmBoBHWKJVSDElBcTXIBA2BOHDeACB
   BLxBDCBCAENZGKIkBEBISHjBADK0BIBAIDCAQAUKSAcCCDGAC+BHABAEAPALFvBADMKHCAIBCBWAHACAFCBABAEBCBCCBLH
   bKABBBAmBABACOBACCBADACmB4BHCCBAVABADdwBACFBACABBBBEHKlFvBACFEBBBbjBzBHCABBEKKFNSrBABACHCFKFUbb
   CBACDBIX4FvBIBBBjDzCLIBBBIACAYAFACFEADIKlCIBqBHEAEaBJoBFCDIIBFCCuBMBBJMpCGK2CBCBAB3CiBNKFJAmBNB
   AGJdCgBYBGBBBqCHACAmBUBIKFGACAlBDCABABGKFsBDK1HTBEIPAkBHCCX1CBOyBM7clDvDAFKkGryCjDMwhBQGY78DEnS
   41GeLDCKl2B5RGfAKDxCAKFeGBJwBGPJKAHAVETvN6BlG7CEZBZrBrCE4BKN/BENFI2mHoBgBgDzD8vIEAHACAjJOBcDBBN
   EHsMjoCrDENCJGKBBBB/6D9HC0NFXOR+C0D7B2HJnBB8BEDVCGeD9BUiCCB5DULUL3CIZmE1CAnCACBBBCBEAMABAHAhCAE
   BIAHAcAEAFABCHA0KBkJByR2BExBIAOAHzjBfFGkI+BxEtBJHBKDC/JeRsBDKEBvOcDK1GeBLDB/FfADACAHBFIC/GHAEAC
   APAlGBJvBkCGBDKDCwYkCrC9BhGEAbACABBBAKAEABABFBDBABABADACABBBABABABABACABBEAHAEAEABAKAREDAFARzBC
   tIsBDkDLPBPAPAlBJuF3BdMsBDJGCNG5E5eCRCNC6GFMDBOMD4BHKFoBHeBMDCNJmB4KHOBNCLC5BABDQBMDKGzEAnDkgBg
   3pBf+oEBu0FBxpHOuThtC+QhvBr6EEqpIl8yb"

def isPrintable (c : Char) : Bool :=
  if c.toNat < 0x80 then 0x20 ≤ c.toNat && c.toNat ≠ 0x7F else !shapelessChars.contains c

def quotedChar (c : Char) : List Char :=
  if c = '\x00' then ['\\', '0']
  else if c = '\t' then ['\\', 't']
  else if c = '\r' then ['\\', 'r']
  else if c = '\n' then ['\\', 'n']
  else if c = '"' then ['\\', '"']
  else if c = '\\' then ['\\', '\\']
  else if isPrintable c then [c]
  else ['\\', 'u', '\x7b'] ++ hexText c.toNat ++ ['\x7d']

def quoted (s : String) : String :=
  String.ofList ('"' :: s.toList.flatMap quotedChar ++ ['"'])

def shownOption (shown : α → String) : Option α → String
  | none => "None"
  | some a => "Some(" ++ shown a ++ ")"

/-- A record with its fields already shown. -/
def shownRecord (name : String) (fields : List (String × String)) : String :=
  name ++ " \x7b " ++ ", ".intercalate (fields.map fun f => f.1 ++ ": " ++ f.2) ++ " \x7d"

end SessionGateway.Text
