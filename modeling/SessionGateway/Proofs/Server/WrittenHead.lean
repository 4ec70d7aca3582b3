import SessionGateway.Proofs.Exchange
import SessionGateway.Proofs.Server.HeaderLines

/-! The head of a final reply as a server may write it: a status line with or without words, and
header lines in any spelling. It is read as its status and its headers, whatever comes behind it,
and not at all if there are too many lines or bytes. -/

namespace SessionGateway.Http

/-- What every status line starts with. -/
def protocol : List UInt8 := "HTTP/1.".toList.map byte

structure WrittenHead where
  /-- Of the older of two protocol versions. -/
  isOld : Bool
  status : Nat
  /-- The words behind the status and a blank. -/
  reason : Option (List UInt8)
  lines : List (List UInt8 × List UInt8)

namespace WrittenHead

def bytes (w : WrittenHead) : List UInt8 :=
  protocol ++ byte (if w.isOld then '0' else '1') :: ([space] ++
    (digits w.status ++ (w.reason.elim [] (space :: ·) ++ (lineBreak ++
      (w.lines.flatMap (fun l => line l.1 l.2) ++ lineBreak)))))

/-- What is read. -/
def head (w : WrittenHead) : Head :=
  ⟨w.isOld, w.status, w.lines.map fun l => (lowerName l.1, strip l.2)⟩

@[simp] theorem status_head (w : WrittenHead) : w.head.status = w.status := rfl

/-- A head that announces no other one, and whose parts can be told from one another. -/
structure IsFinal (w : WrittenHead) : Prop where
  status : 200 ≤ w.status ∧ w.status < 1000
  reason : ∀ words ∈ w.reason, ∀ b ∈ words, isValueByte b = true
  lines : ∀ l ∈ w.lines, IsLine l.1 l.2

/-- A head that has no more lines and no longer names than are read. -/
def IsModest (w : WrittenHead) : Prop :=
  w.lines.length ≤ headerLimit ∧ ∀ l ∈ w.lines, l.1.length ≤ nameLimit

instance : DecidablePred IsModest := fun _ => inferInstanceAs (Decidable (_ ∧ _))

/-- A head that is within the limits of what is read. -/
def Fits (w : WrittenHead) : Prop := w.IsModest ∧ w.bytes.length ≤ headSizeLimit

instance : DecidablePred Fits := fun _ => inferInstanceAs (Decidable (_ ∧ _))

end WrittenHead

theorem readDigits_append {cs : List Char} (h : ∀ c ∈ cs, c.isDigit = true) (n : Nat)
    (rest : List UInt8) : readDigits cs.length n (Text.utf8 cs ++ rest) =
      .done (cs.foldl (fun n c => 10 * n + (c.toNat - 48)) n) rest := by
  induction cs generalizing n with
  | nil => rfl
  | cons c cs ih =>
    have hc : isDigit (UInt8.ofNat c.toNat) = true ∧ (UInt8.ofNat c.toNat).toNat = c.toNat :=
      Url.of_isUnreserved (p := fun d => d.isDigit = true →
        isDigit (UInt8.ofNat d.toNat) = true ∧ (UInt8.ofNat d.toNat).toNat = d.toNat)
        (isUnreserved_of_isDigit (h c List.mem_cons_self)) (by decide) (h c List.mem_cons_self)
    have hascii : c.toNat < 0x80 :=
      Url.toNat_lt_of_isAlphanum (by simp [Char.isAlphanum, h c List.mem_cons_self])
    have hsplit : Text.utf8 (c :: cs) = UInt8.ofNat c.toNat :: Text.utf8 cs := by
      rw [Text.utf8, List.flatMap_cons, Text.utf8EncodeChar_of_lt hascii]
      rfl
    rw [List.length_cons, hsplit, List.cons_append, readDigits, if_pos hc.1,
      ih fun d hd => h d (List.mem_cons_of_mem _ hd), hc.2]
    rfl

theorem length_toDigits_of_three {n : Nat} (hlow : 100 ≤ n) (hhigh : n < 1000) :
    (Nat.toDigits 10 n).length = 3 := by
  rw [Nat.toDigits_of_base_le (by decide) (show 10 ≤ n by omega),
    Nat.toDigits_of_base_le (by decide) (show 10 ≤ n / 10 by omega),
    Nat.toDigits_of_lt_base (show n / 10 / 10 < 10 by omega)]
  rfl

theorem readDigits_digits {n : Nat} (hlow : 100 ≤ n) (hhigh : n < 1000) (rest : List UInt8) :
    readDigits 3 0 (digits n ++ rest) = .done n rest := by
  have hread := readDigits_append (JsonText.isDigit_toDigits n) 0 rest
  rw [length_toDigits_of_three hlow hhigh, ← digits_eq] at hread
  exact hread.trans (congrArg (Progress.done · rest) (JsonText.decimalValue_toDigits n))

theorem readVersion_append (isOld : Bool) (rest : List UInt8) :
    readVersion (protocol ++ byte (if isOld then '0' else '1') :: rest) =
      .done isOld rest := by
  have hstart (more : List UInt8) :
      expect ("HTTP/1.".toList.map byte) (protocol ++ more) = .done () more :=
    expect_append protocol more
  rw [readVersion, hstart]
  cases isOld <;> rfl

theorem skipReason_append {reason : Option (List UInt8)}
    (h : ∀ words ∈ reason, ∀ b ∈ words, isValueByte b = true) (rest : List UInt8) :
    skipReason (reason.elim [] (space :: ·) ++ (lineBreak ++ rest)) = .done () rest := by
  cases reason with
  | none => rfl
  | some words =>
    have hstop : ∀ b ∈ (lineBreak ++ rest).head?, isValueByte b = false := by
      rintro b ⟨⟩
      rfl
    have hskipped : (words ++ (lineBreak ++ rest)).dropWhile isValueByte = lineBreak ++ rest := by
      rw [(Url.takeWhile_append_of_head? hstop words).2, List.dropWhile_eq_nil_iff.mpr (h words rfl),
        List.nil_append]
    show skipReason (space :: (words ++ (lineBreak ++ rest))) = _
    simp only [skipReason, beq_self_eq_true, if_true, hskipped]
    exact lineEnd_lineBreak rest

theorem length_lowerName (name : List UInt8) : (lowerName name).length = name.length := by
  simp [lowerName, Text.foldAscii]

theorem readStatusLine_append {status : Nat} (hlow : 100 ≤ status) (hhigh : status < 1000)
    {reason : Option (List UInt8)} (hreason : ∀ words ∈ reason, ∀ b ∈ words, isValueByte b = true)
    (isOld : Bool) (rest : List UInt8) :
    readStatusLine (protocol ++ byte (if isOld then '0' else '1') ::
      ([space] ++ (digits status ++ (reason.elim [] (space :: ·) ++ (lineBreak ++ rest))))) =
        .done (isOld, status) rest := by
  simp only [readStatusLine, readVersion_append, expect_append, readDigits_digits hlow hhigh,
    skipReason_append hreason]

theorem skipEmptyLines_append (fuel : Nat) (rest : List UInt8) :
    skipEmptyLines (fuel + 1) (protocol ++ rest) =
      .done () (protocol ++ rest) := by
  have hletter : (byte 'H' == lineFeed || byte 'H' == carriageReturn) = false := by decide
  have hstart : protocol = byte 'H' :: protocol.tail := by decide
  rw [hstart, List.cons_append, skipEmptyLines, if_neg (Bool.eq_false_iff.mp hletter)]

namespace WrittenHead

variable {w : WrittenHead}

theorem IsFinal.readWholeHead_bytes (h : w.IsFinal) (rest : List UInt8) :
    readWholeHead (w.bytes ++ rest) = if w.IsModest then .done w.head rest else .malformed := by
  have hlow : 100 ≤ w.status := Nat.le_trans (by decide) h.status.1
  have hbytes : w.bytes ++ rest =
      protocol ++ byte (if w.isOld then '0' else '1') :: ([space] ++
        (digits w.status ++ (w.reason.elim [] (space :: ·) ++ (lineBreak ++
          (w.lines.flatMap (fun l => line l.1 l.2) ++ (lineBreak ++ rest)))))) := by
    simp only [bytes, List.append_assoc, List.cons_append, List.nil_append]
  have hnames : ((w.lines.map fun l => (lowerName l.1, strip l.2)).any
      (nameLimit < ·.1.length)) = true ↔ ¬ ∀ l ∈ w.lines, l.1.length ≤ nameLimit := by
    simp [length_lowerName]
  rw [readWholeHead, hbytes, skipEmptyLines_append]
  simp only [readStatusLine_append hlow h.status.2 h.reason, readHeaders_lines h.lines]
  by_cases hfew : w.lines.length ≤ headerLimit
  · simp only [hfew, if_true, Nat.not_lt_of_le hlow, decide_false, Bool.false_or, hnames, IsModest,
      true_and, ite_not]
    rfl
  · simp only [hfew, if_false, IsModest, false_and]

theorem IsFinal.readOneHead_bytes (h : w.IsFinal) (rest : List UInt8) :
    readOneHead (w.bytes ++ rest) = if w.Fits then .done w.head rest else .malformed := by
  rw [readOneHead, h.readWholeHead_bytes]
  by_cases hmodest : w.IsModest
  · have hsize : headSizeLimit + rest.length < (w.bytes ++ rest).length ↔
        ¬ w.bytes.length ≤ headSizeLimit := by
      rw [List.length_append]
      omega
    simp only [hmodest, Fits, true_and, if_true, hsize, ite_not]
  · simp only [hmodest, Fits, false_and, if_false]

/-- The head is the first that is not interim. -/
theorem IsFinal.readHead_bytes (h : w.IsFinal) (rest : List UInt8) (fuel : Nat) :
    readHead (fuel + 1) (w.bytes ++ rest) =
      if w.Fits then .done w.head rest else .malformed := by
  have hfinal : w.head.isInterim = false := by
    have hstatus : ¬ w.status < 200 := Nat.not_lt_of_le h.status.1
    simp [Head.isInterim, head, hstatus]
  rw [readHead, h.readOneHead_bytes]
  split_ifs with hfits
  · simp only [hfinal, Bool.false_eq_true, if_false]
  · rfl

theorem IsFinal.opened?_bytes (h : w.IsFinal) (rest : List UInt8) (stalls : Bool) :
    Delivery.opened? ⟨w.bytes ++ rest, stalls⟩ =
      if w.Fits then w.head.framing?.map (w.head, ·, rest) else none := by
  unfold Delivery.opened?
  rw [h.readHead_bytes]
  split_ifs <;> rfl

/-- A head beyond the limits is no answer. -/
theorem IsFinal.conclusion_of_not_fits (h : w.IsFinal) (hfits : ¬ w.Fits) (rest : List UInt8)
    (stalls : Bool) (first : String) :
    Delivery.conclusion first ⟨w.bytes ++ rest, stalls⟩ = .error (.unsent first) := by
  unfold Delivery.conclusion
  rw [h.opened?_bytes, if_neg hfits, h.readHead_bytes, if_neg hfits]

/-- A head beyond the limits leads nowhere. -/
theorem IsFinal.onward?_of_not_fits (h : w.IsFinal) (hfits : ¬ w.Fits) (rest : List UInt8)
    (stalls : Bool) (hop : Hop) : hop.onward? ⟨w.bytes ++ rest, stalls⟩ = none := by
  rw [Hop.onward?, h.opened?_bytes, if_neg hfits, Option.bind_none]

end WrittenHead

end SessionGateway.Http
