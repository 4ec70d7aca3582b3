import SessionGateway.Number.Binary64

/-! What is made of a reading of the clock and of random numbers for a call: its stamps, and nonces,
which end in eight characters of the alphabet of digits and small letters. -/

namespace SessionGateway

/-- Milliseconds since the epoch, as a signed word. -/
abbrev Millis := Int64

namespace Nonce

def alphabet : List Char := "0123456789abcdefghijklmnopqrstuvwxyz".toList

def length : Nat := 8

/-- The last `k` digits of a number to base 36, the most significant first. -/
def lastDigits (n : Nat) : Nat → List Char
  | 0 => []
  | k + 1 => lastDigits (n / 36) k ++ [alphabet.getD (n % 36) '0']

/-- How many suffixes there are. -/
def count : Nat := power 36 length

/-- The suffix that a random number below `count` picks. -/
def suffix (n : Nat) : String := String.ofList (lastDigits n length)

end Nonce

namespace Millis

def text (now : Millis) : String := toString now.toInt

/-- Whole seconds, toward zero. -/
def seconds (now : Millis) : Int := now.toInt.tdiv 1000

end Millis

def correlationId (now : Millis) : String := "sdkpy_" ++ Millis.text now

def idempotencyKey (now : Millis) : String := "idem_" ++ Millis.text now

def nonceText (now : Millis) (suffix : String) : String := Millis.text now ++ "_" ++ suffix

end SessionGateway
