import SessionGateway.Url.Percent

/-! A name and a password as the value of a header, written in base 64: three bytes as four letters,
with equals signs for what is missing at the end. -/

namespace SessionGateway.Text

def base64Alphabet : List Char :=
  "ABCDEFGHIJKLMNOPQRSTUVWXYZabcdefghijklmnopqrstuvwxyz0123456789+/".toList

def base64Letter (n : Nat) : Char := base64Alphabet.getD (n % 64) '='

def base64 : List UInt8 → List Char
  | a :: b :: c :: rest =>
    let n := (a.toNat * 256 + b.toNat) * 256 + c.toNat
    base64Letter (n / power 2 18) :: base64Letter (n / power 2 12) ::
      base64Letter (n / power 2 6) :: base64Letter n :: base64 rest
  | [a, b] =>
    let n := (a.toNat * 256 + b.toNat) * 4
    [base64Letter (n / power 2 12), base64Letter (n / power 2 6), base64Letter n, '=']
  | [a] =>
    let n := a.toNat * 16
    [base64Letter (n / power 2 6), base64Letter n, '=', '=']
  | [] => []

end SessionGateway.Text

namespace SessionGateway.Http

structure Credentials where
  name : String
  password : Option String
  deriving DecidableEq, Repr

namespace Credentials

/-- A name, and what follows the first colon, with percent signs decoded. What is no text then is
replaced. -/
def ofUserinfo (userinfo : List Char) : Credentials :=
  let decoded (cs : List Char) := String.ofList (Text.ofUtf8Lossy (Url.percentDecode cs))
  match userinfo.span (· != ':') with
  | (name, _ :: password) => ⟨decoded name, some (decoded password)⟩
  | (name, []) => ⟨decoded name, none⟩

/-- The header's value. -/
def basic (c : Credentials) : String :=
  let plain := c.name ++ ":" ++ c.password.getD ""
  "Basic " ++ String.ofList (Text.base64 (Text.utf8 plain.toList))

end Credentials

end SessionGateway.Http
