import Mathlib.Data.List.TakeWhile
import Mathlib.Tactic.ByContra
import Mathlib.Tactic.SplitIfs
import SessionGateway.Settings.Load

/-! What becomes of the text of an environment variable when it is typed by how it looks. -/

namespace SessionGateway

namespace Text

/-- The lower case of a text begins with the lower case of its first character, sigma apart. -/
theorem lowercase_eq_append {s : String} {c : Char} {cs : List Char} (hs : s.toList = c :: cs)
    (hc : c ≠ 'Σ') : ∃ rest, (lowercase s).toList = lowerOf c ++ rest := by
  refine ⟨lowerChars [c] cs, ?_⟩
  unfold lowercase
  rw [hs, String.toList_ofList]
  simp only [lowerChars, hc, if_false]

end Text

namespace Binary64

theorem ofDecimal_zero {n : Nat} (negative : Bool) (hn : n ≠ 0) (h : n < power 2 64) :
    ofDecimal negative n 0 = ofRatio negative n 1 := by
  have hcount : digitCount n ≤ 20 :=
    (Nat.length_toDigits_le_iff (by decide) (by decide)).mpr (Nat.lt_trans h (by decide))
  have hhigh : ¬ ((digitCount n : Int) + 0 > 310) := by omega
  have hlow : ¬ ((digitCount n : Int) + 0 < -330) := by omega
  have hone : power 10 0 = 1 := rfl
  simp only [ofDecimal, hn, ↓reduceIte, hhigh, hlow, Int.toNat_zero, Int.neg_zero, hone,
    Nat.mul_one]

end Binary64

namespace Environment

/-- A text that is no truth value and no number. -/
structure IsWords (s : String) : Prop where
  notTrue : Text.lowercase s ≠ "true"
  notFalse : Text.lowercase s ≠ "false"
  notInteger : readInt64? s = none
  notReal : readBinary64? s = none

theorem typed_of_isWords {s : String} (h : IsWords s) : typed s = .text s := by
  unfold typed
  split
  · rename_i htrue
    exact absurd htrue h.notTrue
  · rename_i hfalse
    exact absurd hfalse h.notFalse
  · rw [h.notInteger, h.notReal]

theorem toNat_of_isDigit {c : Char} (h : c.isDigit = true) : 48 ≤ c.toNat ∧ c.toNat ≤ 57 := by
  simpa [Char.isDigit, UInt32.le_iff_toNat_le] using h

theorem toLower_of_isDigit {c : Char} (h : c.isDigit = true) : c.toLower = c := by
  have hrange := toNat_of_isDigit h
  apply dif_neg
  rintro ⟨hupper, -⟩
  have hlow : 65 ≤ c.toNat := by simpa [UInt32.le_iff_toNat_le] using hupper
  omega

theorem typed_of_lowercase {s : String} {b : Bool}
    (h : Text.lowercase s = bif b then "true" else "false") : typed s = .boolean b := by
  unfold typed
  rw [h]
  cases b <;> rfl

/-! ## Numbers -/

theorem isFinite_infinity (negative : Bool) : (Binary64.infinity negative).isFinite = false := by
  cases negative <;> decide +kernel

theorem isFinite_nan (negative : Bool) :
    (Binary64.ofMagnitude negative (2047 * power 2 52 + power 2 51)).isFinite = false := by
  cases negative <;> decide +kernel

theorem readUnsigned?_eq_none {negative : Bool} {c : Char} {cs : List Char}
    (hdigit : ¬ c.isDigit = true) (hpoint : c ≠ '.') :
    readUnsigned? negative (c :: cs) = none := by
  have htake : (c :: cs).takeWhile Char.isDigit = [] := by simp [hdigit]
  have hdrop : (c :: cs).dropWhile Char.isDigit = c :: cs := by simp [hdigit]
  simp only [readUnsigned?, htake, hdrop]
  split
  · rename_i heq
    exact absurd (List.cons.inj heq).1 hpoint
  · rfl

/-- A finite number is spelled with digits, which a sign or a point may precede. -/
theorem exists_head_of_readBinary64? {s : String} {x : Binary64} (h : readBinary64? s = some x)
    (hx : x.isFinite = true) :
    ∃ c cs, s.toList = c :: cs ∧ (c.isDigit = true ∨ c = '.' ∨ c = '+' ∨ c = '-') := by
  unfold readBinary64? at h
  cases hs : s.toList with
  | nil =>
    rw [hs] at h
    revert h
    simp [splitSign, readUnsigned?]
  | cons c cs =>
    refine ⟨c, cs, rfl, ?_⟩
    by_contra hc
    simp only [not_or] at hc
    obtain ⟨hdigit, hpoint, hplus, hminus⟩ := hc
    have hsplit : splitSign (c :: cs) = (false, c :: cs) := by
      unfold splitSign
      split
      · exact absurd (List.cons.inj ‹_›).1 hminus
      · exact absurd (List.cons.inj ‹_›).1 hplus
      · rfl
    rw [hs, hsplit] at h
    dsimp only at h
    split_ifs at h with hinf hnan
    · obtain rfl := Option.some.inj h
      rw [isFinite_infinity] at hx
      contradiction
    · obtain rfl := Option.some.inj h
      rw [isFinite_nan] at hx
      contradiction
    · rw [readUnsigned?_eq_none hdigit hpoint] at h
      contradiction

/-- A sign, a digit or a point is its own lower case. -/
theorem lowerOf_head {c : Char} (hc : c.isDigit = true ∨ c = '.' ∨ c = '+' ∨ c = '-') :
    Text.lowerOf c = [c] := by
  rcases hc with hdigit | rfl | rfl | rfl
  · have hascii : c.toNat < 0x80 := by
      have hrange := toNat_of_isDigit hdigit
      omega
    simp only [Text.lowerOf, hascii, if_true, toLower_of_isDigit hdigit]
  all_goals rfl

/-- A finite number is no truth value. -/
theorem not_word_of_readBinary64? {s : String} {x : Binary64} (h : readBinary64? s = some x)
    (hx : x.isFinite = true) : Text.lowercase s ≠ "true" ∧ Text.lowercase s ≠ "false" := by
  obtain ⟨c, cs, hs, hc⟩ := exists_head_of_readBinary64? h hx
  have hsigma : c ≠ 'Σ' := by
    rintro rfl
    revert hc
    decide
  obtain ⟨rest, hrest⟩ := Text.lowercase_eq_append hs hsigma
  rw [lowerOf_head hc] at hrest
  have hne {d : Char} {ds : List Char} (hd : d.isDigit = false ∧ d ≠ '.' ∧ d ≠ '+' ∧ d ≠ '-') :
      (Text.lowercase s).toList ≠ d :: ds := by
    intro heq
    obtain ⟨rfl, -⟩ := List.cons.inj (hrest.symm.trans heq)
    rcases hc with hdigit | rfl | rfl | rfl
    · rw [hd.1] at hdigit
      contradiction
    · exact hd.2.1 rfl
    · exact hd.2.2.1 rfl
    · exact hd.2.2.2 rfl
  constructor
  · intro htrue
    exact hne (d := 't') (by decide) (congrArg String.toList htrue)
  · intro hfalse
    exact hne (d := 'f') (by decide) (congrArg String.toList hfalse)

theorem exists_digits_of_readInt64? {s : String} {n : Int} (h : readInt64? s = some n) :
    ∃ negative digits, splitSign s.toList = (negative, digits) ∧ digits ≠ [] ∧
      (∀ c ∈ digits, c.isDigit = true) ∧
      n = (if negative then -(Text.decimalValue digits : Int) else Text.decimalValue digits) ∧
      -(power 2 63) ≤ n ∧ n < power 2 63 := by
  unfold readInt64? at h
  generalize splitSign s.toList = split at h ⊢
  obtain ⟨negative, digits⟩ := split
  dsimp only at h
  by_cases hdigits : (digits.isEmpty || !digits.all Char.isDigit) = true
  · rw [if_pos hdigits] at h
    contradiction
  rw [if_neg hdigits] at h
  simp only [Bool.or_eq_true, not_or, Bool.not_eq_true, List.isEmpty_eq_false_iff,
    Bool.not_eq_false', List.all_eq_true] at hdigits
  generalize hvalue : (ite (negative = true) _ _ : Int) = m at h
  split_ifs at h with hrange
  obtain rfl := Option.some.inj h
  exact ⟨negative, digits, rfl, hdigits.1, hdigits.2, hvalue.symm, hrange⟩

theorem readBinary64?_of_digits {s : String} {negative : Bool} {digits : List Char}
    (hsplit : splitSign s.toList = (negative, digits)) (hne : digits ≠ [])
    (hdigits : ∀ c ∈ digits, c.isDigit = true) :
    readBinary64? s = some (.ofDecimal negative (Text.decimalValue digits) 0) := by
  have hlower : digits.map Char.toLower = digits :=
    (List.map_congr_left fun c hc => toLower_of_isDigit (hdigits c hc)).trans (List.map_id digits)
  have hword {word : String} {d : Char} {ds : List Char} (hd : d.isDigit = false)
      (hchars : word.toList = d :: ds) : String.ofList digits ≠ word := by
    rintro rfl
    rw [String.toList_ofList] at hchars
    have hdigit := hdigits d (hchars ▸ List.mem_cons_self)
    rw [hd] at hdigit
    contradiction
  have htake : digits.takeWhile Char.isDigit = digits := List.takeWhile_eq_self_iff.mpr hdigits
  have hdrop : digits.dropWhile Char.isDigit = [] := List.dropWhile_eq_nil_iff.mpr hdigits
  unfold readBinary64?
  rw [hsplit]
  simp only [hlower]
  rw [if_neg, if_neg]
  · simp only [readUnsigned?, htake, hdrop]
    simp [hne, readExponent?]
  · exact hword (d := 'n') (by decide) rfl
  · rintro (hinf | hinf)
    · exact hword (d := 'i') (by decide) rfl hinf
    · exact hword (d := 'i') (by decide) rfl hinf

/-- Equal as numbers: zeros of either sign are. -/
def SameNumber (x y : Binary64) : Prop := x = y ∨ x.isZero ∧ y.isZero

/-- The real number that a whole number is spelled like is the same number. -/
theorem sameNumber_ofInt {s : String} {n : Int} {x : Binary64} (hn : readInt64? s = some n)
    (hx : readBinary64? s = some x) : SameNumber (.ofInt n) x := by
  obtain ⟨negative, digits, hsplit, hne, hdigits, hvalue, hlow, hhigh⟩ :=
    exists_digits_of_readInt64? hn
  rw [readBinary64?_of_digits hsplit hne hdigits] at hx
  obtain rfl := Option.some.inj hx
  generalize Text.decimalValue digits = m at hvalue
  have h63 : power 2 63 = 9223372036854775808 := rfl
  have h64 : power 2 64 = 18446744073709551616 := rfl
  -- Only for zero do the two differ: a minus sign is lost in the whole number.
  by_cases hm : m = 0
  · right
    subst hm
    have hzero : n = 0 := by cases negative <;> simpa using hvalue
    subst hzero
    cases negative <;> decide +kernel
  · left
    have hsign : decide (n < 0) = negative := by
      cases negative <;> simp at hvalue <;> simp <;> omega
    have habs : n.natAbs = m := by
      cases negative <;> simp at hvalue <;> omega
    unfold Binary64.ofInt
    rw [Binary64.ofDecimal_zero negative hm (by omega), hsign, habs]

/-- A finite number is typed as it is, or as the whole number that it is. -/
theorem typed_of_readBinary64? {s : String} {x : Binary64} (h : readBinary64? s = some x)
    (hx : x.isFinite = true) :
    typed s = .real x ∨ ∃ n, typed s = .integer n ∧ SameNumber (.ofInt n) x := by
  obtain ⟨hyes, hno⟩ := not_word_of_readBinary64? h hx
  have htyped : typed s = (readInt64? s).elim (.real x) .integer := by
    unfold typed
    rw [h]
    split
    · contradiction
    · contradiction
    · cases readInt64? s <;> rfl
  cases hn : readInt64? s with
  | none =>
    rw [hn] at htyped
    exact .inl htyped
  | some n =>
    rw [hn] at htyped
    exact .inr ⟨n, htyped, sameNumber_ofInt hn h⟩

end Environment

end SessionGateway
