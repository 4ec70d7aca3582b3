import SessionGateway.Toml.Layout

/-! Dates and times. What is read is given back in its normal form. -/

namespace SessionGateway.TomlText

/-- So many digits. -/
def readDigits (count : Nat) (cs : List Char) : Except Fault (Nat × List Char) :=
  let digits := cs.take count
  if digits.length = count && digits.all Char.isDigit then
    .ok (Text.decimalValue digits, cs.drop count)
  else .error (.before cs)

/-- Two digits between two bounds. -/
def readPart (low high : Nat) (cs : List Char) : Except Fault (Nat × List Char) := do
  let (n, rest) ← readDigits 2 cs
  if low ≤ n && n ≤ high then return (n, rest) else .error (.because .outOfRange cs)

def isLeapYear (year : Nat) : Bool :=
  year % 4 == 0 && (year % 100 != 0 || year % 400 == 0)

def daysIn (year month : Nat) : Nat :=
  if month = 2 then if isLeapYear year then 29 else 28
  else if month = 4 ∨ month = 6 ∨ month = 9 ∨ month = 11 then 30 else 31

/-- A date, copied as it stands. A year with a dash behind it has to be one of a date. -/
def readDate (cs : List Char) : Except Fault (List Char × List Char) := do
  let (year, rest) ← readDigits 4 cs
  let rest ← expectChar '-' rest
  committed do
    let (month, rest) ← readPart 1 12 rest
    let dayText ← expectChar '-' rest
    let (day, rest) ← readPart 1 31 dayText
    if daysIn year month < day then .error (.because .outOfRange dayText)
    else return (cs.take 10, rest)

/-- A fraction of a second after its point: nine digits are kept, and no zeros at the end. -/
def secondFraction (cs : List Char) : List Char × List Char :=
  match cs with
  | '.' :: rest =>
    let digits := rest.takeWhile Char.isDigit
    if digits.isEmpty then ([], cs)
    else
      let kept := ((digits.take 9).reverse.dropWhile (· == '0')).reverse
      (if kept.isEmpty then [] else '.' :: kept, rest.dropWhile Char.isDigit)
  | _ => ([], cs)

/-- A time of a day. An hour with a colon behind it has to be one of a time. -/
def readTime (cs : List Char) : Except Fault (List Char × List Char) := do
  let (_, rest) ← readPart 0 23 cs
  let rest ← expectChar ':' rest
  committed do
    let (_, rest) ← readPart 0 59 rest
    let rest ← expectChar ':' rest
    let (_, rest) ← readPart 0 60 rest
    let (fraction, rest) := secondFraction rest
    return (cs.take 8 ++ fraction, rest)

/-- The distance from universal time; no distance has no minus sign. -/
def readOffset (cs : List Char) : Except Fault (List Char × List Char) :=
  inside "time offset" <|
    match cs with
    | [] => .error (.before [])
    | c :: rest =>
      if c = 'Z' ∨ c = 'z' then .ok (['Z'], rest)
      else if c = '+' ∨ c = '-' then committed do
        let (hour, after) ← readPart 0 23 rest
        let after ← expectChar ':' after
        let (minute, after) ← readPart 0 59 after
        let sign := if hour = 0 ∧ minute = 0 then '+' else c
        return (sign :: rest.take 5, after)
      else .error (.before cs)

/-- The time that may follow a date, with its mark. -/
def readTimeOfDate (cs : List Char) : Except Fault (List Char × List Char) := do
  match cs with
  | c :: rest =>
    if c = 'T' ∨ c = 't' ∨ c = ' ' then
      let (time, rest) ← readTime rest
      let (zone, rest) := (← attempt (readOffset rest)).getD ([], rest)
      return ('T' :: time ++ zone, rest)
    else .error (.before cs)
  | [] => .error (.before [])

/-- A date with a time or alone. -/
def readDateTime (cs : List Char) : Except Fault (Toml × List Char) :=
  inside "date-time" do
    let (date, rest) ← readDate cs
    let (time, rest) := (← attempt (readTimeOfDate rest)).getD ([], rest)
    return (.moment (String.ofList (date ++ time)), rest)

/-- A time without a date. -/
def readLoneTime (cs : List Char) : Except Fault (Toml × List Char) :=
  inside "time" do
    let (time, rest) ← readTime cs
    return (.moment (String.ofList time), rest)

def readMoment : Reader Toml := oneOf [readDateTime, readLoneTime]

end SessionGateway.TomlText
