import SessionGateway.Text.CharClass

/-! Scripts written from right to left: in a domain name with letters of one, each label must keep
to one direction, so that it reads the same wherever it is shown. -/

namespace SessionGateway.Url.Idna

open Text

/-- Letters of the scripts written from right to left. -/
def rightToLeft : CharClass := .ofText
  "wsBAtBABACACAB3BIACABANvBiBCBkDPBHBKWBdb6CL5BJBECBXEAJADAFqBDzBCEJpBl6FAt42BABJBzQS+DhBMzDuEhoC
   +IBgHDACEEnBDDBkFCxCHjPEHKuBGwHfrBCiBJgBGlCLwBE5Dgg2BvGHsDHktBCtI"

/-- Numbers of these scripts. -/
def arabicNumbers : CharClass := .ofText
  "gwBF6CJBBwDAyNBwCAtihCJmJe"

/-- Numbers of both directions. -/
def europeanNumbers : CharClass := .ofText
  "wBJ4DBFA2xBJ2rGADFGJ+fT0z2BJnea0vyBJ02CxBgoGKl3CJ"

/-- Marks that take the direction of what they stand on. -/
def attachedMarks : CharClass := .ofText
  "gYvDzIGnIsBBABBBBBAoCKwBUQAlDGCFCBBDjBAea7CK6BIJAYDBIBCBErBC7BIqBXBf3BABAEHEADGKBdA6BAEDIAUBaAC
   B5BAEBEBCCDAeBDALB5BAEEBBEAUBWFBA6BACABDIAHBLBeA9BAMAyBADA3BABCFCBDHBLBdA6BAPBUBcB5BBEDIAUBdAoC
   AHCBA6CACGMHiDACILGpCBbABABA3BNBEBBFKBjBJAmDDBFBBCBZBECQDNACBGAPA/VCydCdBeBeBgCBBGIACKJAtBCBA1D
   BiBA2DCEBJAGC7GBCA6BABGBABACHGJCAwBtBCLUDwBABEBAFAoBIMBgBDCBBC4BABBDABC6BHCB4ECBMBGEAGADBmG/BwW
   gB+/CCtEAgDfqRDrDB0udDBJgBBwCBwIADAEAZBFA3EBaRNAmBHZKuBCwBACDCBnBAjCFCBCBMAIAvBAzBABCCBFBBAqBBI
   AuHACAEAw5TAhXPQPteAiHA1EEm0BCBBFDoBCEAlFB9RDhCE9JBtCFmCKxBD7DA2BOpBACBKCxBDCBHA9BCkBEBH+BAMB0B
   IKDCA/CCCABBGACA9EADHVB5BBDAlBGDEmCFNABABAOB1CHCCBAXA0CFBAEBBBuHDGBBBbB1CHCABBqDABACFBAlDCCDBEj
   IIBBgIBBAEAwEDCBEAgBFCBoBFCDIAJFCCuBMBBmGABCBApGGBF0CVCGBBBB6DFDABBBGBAoCBDABA7KBLB0BEFABAXAlnF
   AGOomLLDCguCE7BG4gBA/BDxCA4lTBhzEtBCWgRCRHCGeD0EC79B2BExBIAOAWEBOwqBGBQCGBBBEkDAgFG3LA9BD8PD+HB
   zHACAHBFA6OGtDG19lYvH"

/-- Signs of either direction. -/
def neutrals : CharClass := .ofText
  "AIFNFOKGaFaJBjBBGCABCCEXAfAhOBHNCNFIBQ0DBIAFBBAuDAzMACC2DBBBBABB6CAzDAKAsID4PBHA1HAhIH9DGgOA6HD
   yiBJmDA6UB+JAUJGKDAxJADB4EhBuKBvBA9hBABCLCNCNCNBMCCXHvBBFEFKELERvBwBBBDBBKABCFFBABABAEALBEEFDCP
   pBCElNlCZBzEWKVnBiDhOByKgIzTCpElHFOGgI9CiBZB4CM1GaPBDDYPAFBFC7CBDA6CAkGlBJAtBBxBPcCyBOMDnFDjDBf
   AguG/Bw0V2BmKCjDAKBgEhBmDA/EDMB6BDyXB99TA0QR/DgBNCQJWiBBSBDzEABOKGaFaK6DGBGBPhIA+BsCDMDA+7BA5QG
   uRAhLI5LTubBBBnUM0rBAzfc7rTCyTA9lTD86DvHKCDzNGWPQiUHuDBVhCDA6F2CkcA5BA5BA5BA5BA75CA/XAwnCBuIrBE
   jDMOCOBOBkBVEfA6BF9BAyFF6E4eDQDMD5GGLEAPLE3BIJGnBIdCLEBOInB3KINCMDKD4BBAEPCLEJHyEB7CKAjgBB+//BB
   +//BB+//BB+//BB+//BB+//BB+//BB+//BB+//BB+//BB+//BB+//BhIwHvwD+/7BB+//BB+//BB"

/-- Blanks and signs that steer the direction. -/
def directionless : CharClass := .ofText
  "JEOEkDA6vFA/rCKdGwBAGD28DA"

inductive Direction where
  | left
  | right
  | arabicNumber
  | europeanNumber
  | mark
  | neutral
  | none
  deriving DecidableEq, Repr

def Direction.ofChar (c : Char) : Direction :=
  if rightToLeft.contains c then .right
  else if arabicNumbers.contains c then .arabicNumber
  else if europeanNumbers.contains c then .europeanNumber
  else if attachedMarks.contains c then .mark
  else if neutrals.contains c then .neutral
  else if directionless.contains c then .none
  else .left

open Direction

/-- A label from right to left: it ends in a letter or a number and has numbers of one kind. -/
def runsLeftward (label : List Direction) : Bool :=
  label.all ([right, arabicNumber, europeanNumber, neutral, mark].contains ·) &&
    (label.reverse.find? (· ≠ mark)).any ([right, arabicNumber, europeanNumber].contains ·) &&
    !(label.contains arabicNumber && label.contains europeanNumber)

/-- A label from left to right: it ends in a letter or a number. -/
def runsRightward (label : List Direction) : Bool :=
  label.all ([left, europeanNumber, neutral, mark].contains ·) &&
    (label.reverse.find? (· ≠ mark)).any ([left, europeanNumber].contains ·)

/-- A label keeps the direction of its first letter; an empty one has none. -/
def keepsDirection (label : List Direction) : Bool :=
  match label with
  | [] => true
  | right :: _ => runsLeftward label
  | left :: _ => runsRightward label
  | _ => false

/-- Whether the labels can stand together: all keep their direction, or none goes leftward. -/
def directionsFit (labels : List (List Char)) : Bool :=
  let labels := labels.map (·.map Direction.ofChar)
  if labels.any (·.any fun d => d = right ∨ d = arabicNumber) then labels.all keepsDirection
  else true

end SessionGateway.Url.Idna
