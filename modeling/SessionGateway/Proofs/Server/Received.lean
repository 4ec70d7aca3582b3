import SessionGateway.Proofs.Server.Authority
import SessionGateway.Proofs.Server.HeaderLines

/-! A request as the server reads it from the bytes of the connection: a line with the method and
the target, header lines, and as many bytes of a body as its length announces. A request whose parts
can be sent is read as it was made, whatever bytes follow it. -/

namespace SessionGateway.Http

/-- What is read from the bytes of a request. -/
structure Received where
  method : List UInt8
  target : List UInt8
  /-- Names in lower case with the bytes of their values. -/
  headers : List (String × List UInt8)
  body : List UInt8
  deriving DecidableEq, Repr

namespace Received

/-- The length that headers announce for a body. Without one there is no body, and two contradict
each other. -/
def bodyLength? (headers : List (String × List UInt8)) : Option Nat :=
  match (headers.filter (·.1 == "content-length")).map (·.2) with
  | [] => some 0
  | [digits] =>
    if digits.isEmpty || !digits.all isDigit then none
    else some (Text.decimalValue (digits.map fun b => Char.ofNat b.toNat))
  | _ => none

/-- The bytes up to the first blank, and those from there on. -/
def word (bytes : List UInt8) : List UInt8 × List UInt8 :=
  (bytes.takeWhile (· != space), bytes.dropWhile (· != space))

def headers? (bytes : List UInt8) : Option (List (String × List UInt8) × List UInt8) :=
  match readHeaders headerLimit bytes with
  | .done headers rest => some (headers, rest)
  | _ => none

/-- The first request in the bytes of a connection, and the bytes behind it. -/
def ofBytes? (bytes : List UInt8) : Option (Received × List UInt8) := do
  let (method, rest) := word bytes
  let rest ← after? [space] rest
  let (target, rest) := word rest
  let rest ← after? (Text.utf8 " HTTP/1.1".toList ++ lineBreak) rest
  let (headers, rest) ← headers? rest
  let length ← bodyLength? headers
  if rest.length < length then none
  else some (⟨method, target, headers, rest.take length⟩, rest.drop length)

/-- A text without blanks is a word up to the blank behind it. -/
theorem word_append {cs : List Char} (hcs : ' ' ∉ cs) (rest : List UInt8) :
    word (Text.utf8 cs ++ space :: rest) = (Text.utf8 cs, space :: rest) := by
  have hclear : ∀ b ∈ Text.utf8 cs, (b != space) = true := by
    intro b hb
    rw [bne_iff_ne]
    rintro rfl
    exact hcs (Text.mem_of_mem_utf8 hb (by decide))
  have hstop : ∀ b ∈ (space :: rest).head?, (b != space) = false := by
    rintro b ⟨⟩
    rfl
  rw [word, (Url.takeWhile_append_of_head? hstop _).1, (Url.takeWhile_append_of_head? hstop _).2,
    List.takeWhile_eq_self_iff.mpr hclear, List.dropWhile_eq_nil_iff.mpr hclear, List.nil_append]

end Received

theorem after?_append (wanted rest : List UInt8) : after? wanted (wanted ++ rest) = some rest := by
  rw [after?, expect_append]

/-! ## Requests -/

/-- A name that a header line gives back. -/
def isHeaderName (name : String) : Bool :=
  let bytes := Text.utf8 name.toList
  !bytes.isEmpty && bytes.all isNameByte && lowerName bytes == name

theorem isLine_of_isHeaderName {name value : String} (hname : isHeaderName name = true)
    (hvalue : isSendableValue value = true) :
    IsLine (Text.utf8 name.toList) (space :: Text.utf8 value.toList) := by
  simp only [isHeaderName, Bool.and_eq_true, Bool.not_eq_true', List.isEmpty_eq_false_iff,
    List.all_eq_true] at hname
  refine ⟨hname.1.1, hname.1.2, fun b hb => ?_⟩
  rcases List.mem_cons.mp hb with rfl | hb
  · decide
  · exact isValueByte_of_isSendableValue hvalue b hb

namespace WireRequest

/-- Every part of a request can be told from the others. -/
structure IsClear (r : WireRequest) : Prop where
  target : ' ' ∉ r.target.toList
  names : ∀ h ∈ r.headers, isHeaderName h.1 = true
  values : ∀ h ∈ r.headers, isSendableValue h.2 = true
  few : r.headers.length ≤ headerLimit
  length : r.headers.filter (·.1 == "content-length") = lengthHeader r.body

/-- The request as it is to be received. -/
def received (r : WireRequest) : Received where
  method := Text.utf8 r.method.name.toList
  target := Text.utf8 r.target.toList
  headers := r.headers.map fun h => (h.1, strip (Text.utf8 h.2.toList))
  body := Text.utf8 (r.body.getD "").toList

@[simp] theorem method_received (r : WireRequest) :
    r.received.method = Text.utf8 r.method.name.toList := rfl

@[simp] theorem target_received (r : WireRequest) :
    r.received.target = Text.utf8 r.target.toList := rfl

@[simp] theorem headers_received (r : WireRequest) :
    r.received.headers = r.headers.map fun h => (h.1, strip (Text.utf8 h.2.toList)) := rfl

@[simp] theorem body_received (r : WireRequest) :
    r.received.body = Text.utf8 (r.body.getD "").toList := rfl

variable {r : WireRequest}

theorem IsClear.bodyLength?_received (h : r.IsClear) :
    Received.bodyLength? r.received.headers = some r.received.body.length := by
  have hfilter : (r.received.headers.filter (·.1 == "content-length")).map (·.2) =
      (lengthHeader r.body).map fun h => strip (Text.utf8 h.2.toList) := by
    rw [← h.length, received, List.filter_map, List.map_map]
    rfl
  rw [Received.bodyLength?, hfilter, received]
  cases hbody : r.body with
  | none => rfl
  | some body =>
    have hvalue : (lengthHeader (some body)).map (fun h => strip (Text.utf8 h.2.toList)) =
        [digits body.utf8ByteSize] := congrArg (fun v => [v]) (strip_digits _)
    have hall : (digits body.utf8ByteSize).all isDigit = true :=
      List.all_eq_true.mpr fun b hb => isDigit_of_mem_digits hb
    rw [hvalue]
    simp only [List.isEmpty_eq_false_iff.mpr (digits_ne_nil _), hall, Bool.not_true, Bool.or_self,
      Bool.false_eq_true, if_false, map_ofNat_digits, JsonText.decimalValue_toDigits,
      Option.getD_some, Text.length_utf8]

theorem IsClear.headers?_bytes (h : r.IsClear) (rest : List UInt8) :
    Received.headers? (r.headers.flatMap (fun h => headerLine h.1 h.2) ++ (lineBreak ++ rest)) =
      some (r.received.headers, rest) := by
  let lines := r.headers.map fun h => (Text.utf8 h.1.toList, space :: Text.utf8 h.2.toList)
  have hlines : r.headers.flatMap (fun h => headerLine h.1 h.2) =
      lines.flatMap fun l => line l.1 l.2 := by
    rw [List.flatMap_map]
    exact congrArg (r.headers.flatMap ·) (funext fun h => headerLine_eq h.1 h.2)
  have hread : ∀ l ∈ lines, IsLine l.1 l.2 := by
    intro l hl
    obtain ⟨e, he, rfl⟩ := List.mem_map.mp hl
    exact isLine_of_isHeaderName (h.names e he) (h.values e he)
  have hfew : lines.length ≤ headerLimit := by
    rw [List.length_map]
    exact h.few
  have hreceived : lines.map (fun l => (lowerName l.1, strip l.2)) = r.received.headers := by
    rw [List.map_map]
    refine List.map_congr_left fun e he => ?_
    have hname := h.names e he
    simp only [isHeaderName, Bool.and_eq_true, beq_iff_eq] at hname
    exact Prod.ext hname.2 (strip_space _)
  rw [Received.headers?, hlines, readHeaders_lines hread, if_pos hfew, hreceived]

/-- The bytes of a request are read as the request, and no byte behind them is taken for one of
its own. -/
theorem IsClear.ofBytes?_bytes (h : r.IsClear) (rest : List UInt8) :
    Received.ofBytes? (r.bytes ++ rest) = some (r.received, rest) := by
  have hmethod : ' ' ∉ r.method.name.toList := by cases r.method <;> decide
  let version := Text.utf8 " HTTP/1.1".toList ++ lineBreak
  let after := r.headers.flatMap (fun h => headerLine h.1 h.2) ++
    (lineBreak ++ (r.received.body ++ rest))
  obtain ⟨more, hmore⟩ : ∃ more, version ++ after = space :: more := ⟨_, rfl⟩
  have hbytes : r.bytes ++ rest = r.received.method ++ space ::
      (r.received.target ++ (version ++ after)) := by
    simp only [bytes, received, version, after, String.toList_append, Text.utf8_append,
      List.append_assoc]
    rfl
  have hfirst : Received.word (r.received.method ++ space ::
      (r.received.target ++ (version ++ after))) =
        (r.received.method, [space] ++ (r.received.target ++ (version ++ after))) :=
    Received.word_append hmethod _
  have hsecond : Received.word (r.received.target ++ (version ++ after)) =
      (r.received.target, version ++ after) := by
    rw [hmore]
    exact Received.word_append h.target more
  have hversion : after? version (version ++ after) = some after := after?_append version after
  have hlength : ¬ (r.received.body ++ rest).length < r.received.body.length := by
    rw [List.length_append]
    omega
  rw [Received.ofBytes?, hbytes]
  simp only [hfirst, after?_append, hsecond, Option.bind_eq_bind, Option.bind_some]
  rw [hversion, Option.bind_some, h.headers?_bytes]
  simp only [Option.bind_some, h.bodyLength?_received, hlength, if_false, List.take_left,
    List.drop_left]

end WireRequest

end SessionGateway.Http
