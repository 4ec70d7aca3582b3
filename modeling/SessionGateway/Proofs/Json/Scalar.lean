import SessionGateway.Proofs.Json.Tokens

/-! Strings and whole numbers are read back from what is written for them. A string ends itself; a
number ends where something follows that no number goes on with. -/

namespace SessionGateway.JsonText

/-! ## Strings -/

theorem hexValue?_digitChar : ∀ d < 16, Text.hexValue? (Nat.digitChar d) = some d := by decide

/-- Two digits write any control character. -/
theorem readEscape_control {c : Char} (hc : c.toNat < 0x20) (rest : List Char) :
    readEscape ('u' :: '0' :: '0' :: Nat.digitChar (c.toNat / 16) ::
      Nat.digitChar (c.toNat % 16) :: rest) = .ok (c, rest) := by
  have hhigh := hexValue?_digitChar (c.toNat / 16) (by omega)
  have hlow := hexValue?_digitChar (c.toNat % 16) (by omega)
  have hzero := hexValue?_digitChar 0 (by decide)
  have hvalue : ((0 * 16 + 0) * 16 + c.toNat / 16) * 16 + c.toNat % 16 = c.toNat := by omega
  have hhex : readHex4 ('0' :: '0' :: Nat.digitChar (c.toNat / 16) ::
      Nat.digitChar (c.toNat % 16) :: rest) = .ok (c.toNat, rest) := by
    change Text.hexValue? '0' = some 0 at hzero
    simp only [readHex4, hexValue4?, hzero, hhigh, hlow, Option.bind_eq_bind, Option.bind_some,
      hvalue]
    rfl
  have hplain : simpleEscape? 'u' = none := by decide
  have hnolow : ¬ (0xDC00 ≤ c.toNat ∧ c.toNat ≤ 0xDFFF) := by omega
  have hnohigh : ¬ (0xD800 ≤ c.toNat ∧ c.toNat ≤ 0xDBFF) := by omega
  simp only [readEscape, hplain, ↓reduceIte, hhex]
  change (if 0xDC00 ≤ c.toNat ∧ c.toNat ≤ 0xDFFF then _ else _) = _
  rw [if_neg hnolow, if_neg hnohigh, Char.ofNat_toNat]
  rfl

theorem readChars_escapedChar (c : Char) (fuel : Nat) (done rest : List Char) :
    readChars (fuel + 1) done (Json.escapedChar c ++ rest) = readChars fuel (c :: done) rest := by
  unfold Json.escapedChar
  split_ifs with hquote hslash hb hf hn hr ht hcontrol
  · subst hquote
    rfl
  · subst hslash
    rfl
  · subst hb
    rfl
  · subst hf
    rfl
  · subst hn
    rfl
  · subst hr
    rfl
  · subst ht
    rfl
  · have hnoquote : ('\\' : Char) ≠ '"' := by decide
    simp only [List.cons_append, List.nil_append, readChars, hnoquote, ↓reduceIte,
      readEscape_control hcontrol rest]
    rfl
  · simp only [List.cons_append, List.nil_append, readChars, hquote, hslash, hcontrol, ↓reduceIte]

/-- The characters of a string are read up to its closing quote. -/
theorem readChars_escaped (cs : List Char) {fuel : Nat} (done rest : List Char)
    (hfuel : cs.length < fuel) :
    readChars fuel done (cs.flatMap Json.escapedChar ++ '"' :: rest) =
      .ok (done.reverse ++ cs, rest) := by
  induction cs generalizing fuel done with
  | nil =>
    obtain ⟨fuel, rfl⟩ := Nat.exists_eq_succ_of_ne_zero (Nat.ne_of_gt hfuel)
    simp [readChars]
  | cons c cs ih =>
    obtain ⟨fuel, rfl⟩ := Nat.exists_eq_succ_of_ne_zero (Nat.ne_of_gt (Nat.zero_lt_of_lt hfuel))
    have hless : cs.length < fuel := Nat.lt_of_succ_lt_succ hfuel
    rw [List.flatMap_cons, List.append_assoc, readChars_escapedChar, ih (c :: done) hless]
    simp

theorem length_le_escaped (cs : List Char) : cs.length ≤ (cs.flatMap Json.escapedChar).length := by
  induction cs with
  | nil => exact Nat.le_refl _
  | cons c cs ih =>
    have hone : 1 ≤ (Json.escapedChar c).length := by
      unfold Json.escapedChar
      split_ifs <;> simp
    simp only [List.flatMap_cons, List.length_append, List.length_cons]
    omega

/-- What is written for a string, its opening quote taken, is read back. -/
theorem readString_escaped (s : String) {fuel : Nat} (rest : List Char)
    (hfuel : (s.toList.flatMap Json.escapedChar ++ '"' :: rest).length < fuel) :
    readString fuel (s.toList.flatMap Json.escapedChar ++ '"' :: rest) = .ok (s, rest) := by
  have hlength := length_le_escaped s.toList
  rw [List.length_append] at hfuel
  rw [readString, readChars_escaped s.toList [] rest (by omega)]
  change Except.ok (String.ofList ([].reverse ++ s.toList), rest) = _
  rw [List.reverse_nil, List.nil_append, String.ofList_toList]

/-! ## Whole numbers -/

/-- What no number goes on with. -/
def EndsNumber (rest : List Char) : Prop :=
  ∀ c ∈ rest.head?, c.isDigit = false ∧ c ≠ '.' ∧ isExponentMark c = false

theorem takeWhile_isDigit {digits rest : List Char} (hdigits : ∀ c ∈ digits, c.isDigit = true)
    (hrest : EndsNumber rest) : (digits ++ rest).takeWhile Char.isDigit = digits := by
  rw [List.takeWhile_append_of_pos hdigits]
  cases rest with
  | nil => simp
  | cons c rest =>
    have hc := (hrest c rfl).1
    simp [hc]

theorem dropWhile_isDigit {digits rest : List Char} (hdigits : ∀ c ∈ digits, c.isDigit = true)
    (hrest : EndsNumber rest) : (digits ++ rest).dropWhile Char.isDigit = rest := by
  rw [List.dropWhile_append_of_pos hdigits]
  cases rest with
  | nil => rfl
  | cons c rest =>
    have hc := (hrest c rfl).1
    simp [hc]

theorem isDigit_toDigits (n : Nat) : ∀ c ∈ Nat.toDigits 10 n, c.isDigit = true := fun _ hc =>
  Nat.isDigit_of_mem_toDigits (by decide) (by decide) hc

theorem decimalValue_toDigits (n : Nat) : Text.decimalValue (Nat.toDigits 10 n) = n := by
  have h := Nat.ofDigitChars_ten_toDigits (n := n)
  rwa [Nat.ofDigitChars_eq_foldl] at h

/-- Only zero is written with a zero in front. -/
theorem eq_zero_of_head?_toDigits (n : Nat) (h : (Nat.toDigits 10 n).head? = some '0') : n = 0 := by
  induction n using Nat.strongRecOn with
  | ind n ih =>
    rw [Nat.toDigits_eq_if (by decide)] at h
    split at h
    · simpa using h
    · have hlead : (Nat.toDigits 10 (n / 10)).head? = some '0' := by
        cases hd : Nat.toDigits 10 (n / 10) with
        | nil => exact absurd hd Nat.toDigits_ne_nil
        | cons c digits => simpa [hd] using h
      have := ih (n / 10) (by omega) hlead
      omega

theorem readWhole_toDigits (n : Nat) {rest : List Char} (hrest : EndsNumber rest) :
    readWhole (Nat.toDigits 10 n ++ rest) = .ok (Nat.toDigits 10 n, rest) := by
  have hdigits := isDigit_toDigits n
  have hzero := eq_zero_of_head?_toDigits n
  cases hd : Nat.toDigits 10 n with
  | nil => exact absurd hd Nat.toDigits_ne_nil
  | cons c digits =>
    rw [hd] at hdigits hzero
    have hc := hdigits c List.mem_cons_self
    have htail : ∀ d ∈ digits, d.isDigit = true := fun d h =>
      hdigits d (List.mem_cons_of_mem c h)
    have hlead : ¬ ((decide (c = '0') && decide (digits ≠ [])) = true) := by
      rw [Bool.and_eq_true, decide_eq_true_eq, decide_eq_true_eq]
      rintro ⟨rfl, hne⟩
      obtain rfl := hzero rfl
      exact hne (List.cons.inj hd).2.symm
    simp only [List.cons_append, readWhole, hc, takeWhile_isDigit htail hrest,
      dropWhile_isDigit htail hrest, Bool.not_true, Bool.false_eq_true, if_neg hlead, ↓reduceIte]

theorem readFraction_of_endsNumber {rest : List Char} (hrest : EndsNumber rest) :
    readFraction rest = .ok ([], rest) := by
  unfold readFraction
  split
  · exact absurd rfl (hrest '.' rfl).2.1
  · rfl

theorem readExponent_of_endsNumber (isZero : Bool) {rest : List Char} (hrest : EndsNumber rest) :
    readExponent isZero rest = .ok (none, rest) := by
  cases rest with
  | nil => rfl
  | cons c rest =>
    have hc := (hrest c rfl).2.2
    simp [readExponent, hc]

/-- Digits behind a number make it no smaller. -/
theorem le_foldl_digits (cs : List Char) (n : Nat) :
    n ≤ cs.foldl (fun n c => 10 * n + (c.toNat - 48)) n := by
  induction cs generalizing n with
  | nil => exact Nat.le_refl n
  | cons c cs ih => exact Nat.le_trans (by omega) (ih (10 * n + (c.toNat - 48)))

/-- Nothing is left over of digits that give a number of 64 bits. -/
theorem goOn_of_lt (n : Nat) (cs : List Char)
    (h : cs.foldl (fun n c => 10 * n + (c.toNat - 48)) n < power 2 64) :
    goOn n cs = (cs.foldl (fun n c => 10 * n + (c.toNat - 48)) n, 0) := by
  induction cs generalizing n with
  | nil => rfl
  | cons c cs ih =>
    have hnext : 10 * n + (c.toNat - 48) < power 2 64 := (le_foldl_digits cs _).trans_lt h
    rw [goOn, if_pos hnext]
    exact ih _ h

/-- Digits are read back as the whole number they write, if it has 64 bits. -/
theorem readNumber_toDigits {n : Nat} (negative : Bool) {rest : List Char} (hn : n < power 2 64)
    (hnegative : negative = true → n ≠ 0) (hrest : EndsNumber rest) :
    readNumber negative (Nat.toDigits 10 n ++ rest) =
      .ok (Json.ofInt (if negative then -n else n), rest) := by
  have hdigits := decimalValue_toDigits n
  have hall : goOn 0 (Nat.toDigits 10 n) = (n, 0) := by
    rw [goOn_of_lt 0 _ (Nat.lt_of_le_of_lt (Nat.le_of_eq hdigits) hn)]
    exact congrArg (·, 0) hdigits
  have hkept : (!(negative && n == 0)) = true := by
    cases negative <;> simp_all
  simp only [readNumber, bind, Except.bind, readWhole_toDigits n hrest,
    readFraction_of_endsNumber hrest, hall, goOn, readExponent_of_endsNumber _ hrest, hkept,
    Option.isNone_none, beq_self_eq_true, decide_true, Bool.and_self, ↓reduceIte]
  rfl

end SessionGateway.JsonText
