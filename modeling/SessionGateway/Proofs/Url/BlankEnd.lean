import Mathlib.Data.Option.Basic
import Mathlib.Tactic.SplitIfs
import SessionGateway.Url.Host

/-! No host ends in a blank. A control character or a space at the end of a name stays there through
decoding and the normal form, no label gets rid of it, and a host may hold none. -/

namespace SessionGateway

variable {c : Char}

/-- Control characters and the space. -/
def IsLow (c : Char) : Prop := c.toNat ≤ 0x20

theorem IsLow.lt (h : IsLow c) : c.toNat < 0x80 := Nat.lt_of_le_of_lt h (by decide)

theorem IsLow.ne (h : IsLow c) {d : Char} (hd : 0x20 < d.toNat) : c ≠ d := by
  rintro rfl
  exact absurd h (Nat.not_le_of_lt hd)

/-- They are few, so that each can be looked at. -/
theorem IsLow.of_forall {p : Char → Prop} (h : IsLow c) (hp : ∀ n ≤ 0x20, p (Char.ofNat n)) :
    p c := by
  simpa using hp c.toNat h

/-- What a computation makes of the last member of a list. -/
theorem mapM_concat_eq_some {α β : Type} {f : α → Option β} {front : List α} {last : α}
    {results : List β} (h : (front ++ [last]).mapM f = some results) :
    ∃ before b, front.mapM f = some before ∧ f last = some b ∧ results = before ++ [b] := by
  rw [List.mapM_append] at h
  obtain ⟨before, hbefore, h⟩ := Option.bind_eq_some_iff.mp h
  obtain ⟨behind, hbehind, h⟩ := Option.bind_eq_some_iff.mp h
  simp only [List.mapM_cons, List.mapM_nil, Option.bind_eq_bind] at hbehind
  obtain ⟨b, hb, hbehind⟩ := Option.bind_eq_some_iff.mp hbehind
  obtain rfl := Option.some.inj hbehind
  exact ⟨before, b, hbefore, hb, (Option.some.inj h).symm⟩

namespace Text

/-! ## Bytes -/

theorem utf8EncodeChar_of_isLow (h : IsLow c) :
    String.utf8EncodeChar c = [UInt8.ofNat c.toNat] := by
  have hsmall : c.val.toNat ≤ 127 := Nat.le_trans h (by decide)
  simp only [String.utf8EncodeChar, if_pos hsmall]
  rfl

theorem hexValue?_of_isLow (h : IsLow c) : hexValue? c = none := by
  have hle (d : Char) (hd : 0x20 < d.toNat) : ¬ d ≤ c := fun hdc =>
    Nat.not_lt_of_le (Nat.le_trans (show d.toNat ≤ c.toNat from hdc) h) hd
  simp [hexValue?, hle]

end Text

namespace Url

/-- A character that two digits do not follow as they follow a sign. -/
def StandsAlone (d : Char) (rest : List Char) : Prop :=
  ∀ a b more, rest = a :: b :: more →
    d ≠ '%' ∨ Text.hexValue? a = none ∨ Text.hexValue? b = none

theorem percentDecode_cons {d : Char} {rest : List Char} (h : StandsAlone d rest) :
    percentDecode (d :: rest) = String.utf8EncodeChar d ++ percentDecode rest := by
  by_cases hform : ∃ a b more, d = '%' ∧ rest = a :: b :: more
  · obtain ⟨a, b, more, rfl, rfl⟩ := hform
    rw [percentDecode]
    split
    next ha hb => simpa [ha, hb] using h a b more rfl
    next => rfl
  · rw [percentDecode]
    exact fun a b more hd hrest => hform ⟨a, b, more, hd, hrest⟩

theorem StandsAlone.concat {d : Char} {rest : List Char} (h : StandsAlone d rest)
    (hc : Text.hexValue? c = none) : StandsAlone d (rest ++ [c]) := by
  intro a b more hrest
  match rest, hrest with
  | [_], hrest =>
    obtain ⟨-, rfl, -⟩ : _ ∧ c = b ∧ _ := by simpa using hrest
    exact .inr (.inr hc)
  | a' :: b' :: more', hrest =>
    obtain ⟨rfl, rfl, -⟩ : a' = a ∧ b' = b ∧ _ := by simpa using hrest
    exact h a' b' more' rfl

theorem percentDecode_concat (h : IsLow c) (cs : List Char) :
    percentDecode (cs ++ [c]) = percentDecode cs ++ [UInt8.ofNat c.toNat] := by
  have hc := Text.hexValue?_of_isLow h
  have hcons {d : Char} {rest : List Char} (halone : StandsAlone d rest)
      (ih : percentDecode (rest ++ [c]) = percentDecode rest ++ [UInt8.ofNat c.toNat]) :
      percentDecode (d :: rest ++ [c]) = percentDecode (d :: rest) ++ [UInt8.ofNat c.toNat] := by
    rw [List.cons_append, percentDecode_cons halone, percentDecode_cons (halone.concat hc), ih,
      List.append_assoc]
  induction cs using percentDecode.induct with
  | case1 a b rest m n ha hb ih => simp only [List.cons_append, percentDecode, ha, hb, ih]
  | case2 a b rest hnone ih =>
    refine hcons (fun a' b' more hmore => .inr ?_) ih
    obtain ⟨rfl, rfl, -⟩ : a = a' ∧ b = b' ∧ _ := by simpa using hmore
    cases ha : Text.hexValue? a with
    | none => exact .inl rfl
    | some m =>
      cases hb : Text.hexValue? b with
      | none => exact .inr rfl
      | some n => exact (hnone m n ha hb).elim
  | case3 d rest hnot ih =>
    exact hcons (fun a b more hmore => .inl fun hd => hnot a b more hd hmore) ih
  | case4 =>
    have halone : StandsAlone c [] := by simp [StandsAlone]
    rw [List.nil_append, percentDecode_cons halone, Text.utf8EncodeChar_of_isLow h]
    simp [percentDecode]

end Url

namespace Text

theorem length_takeContinuation_concat {b : UInt8} (hb : b < 0x80) (count : Nat) (low high : UInt8)
    (hlow : 0x80 ≤ low) (bytes : List UInt8) :
    (takeContinuation count low high (bytes ++ [b])).length ≤ bytes.length := by
  induction bytes generalizing count low high with
  | nil =>
    cases count with
    | zero => simp [takeContinuation]
    | succ count =>
      have hnot : ¬ low ≤ b := fun hle => UInt8.not_lt.mpr (UInt8.le_trans hlow hle) hb
      simp [takeContinuation, hnot]
  | cons x bytes ih =>
    cases count with
    | zero => simp [takeContinuation]
    | succ count =>
      simp only [takeContinuation, List.cons_append]
      split
      · simpa using ih count 0x80 0xBF (by decide)
      · simp

theorem le_of_sequenceShape? {x low high : UInt8} {count : Nat}
    (h : sequenceShape? x = some (count, low, high)) : 0x80 ≤ low := by
  unfold sequenceShape? at h
  split_ifs at h <;> cases h <;> decide

/-- A character of several bytes does not take one of the ASCII range. -/
theorem snd_nextChar_le {b x : UInt8} (hb : b < 0x80) {rest : List UInt8} {d : Char}
    (h : (nextChar x (rest ++ [b])).1 = some d) :
    (nextChar x (rest ++ [b])).2 - 1 ≤ rest.length := by
  by_cases hx : x < 0x80
  · simp [nextChar, hx]
  cases hshape : sequenceShape? x with
  | none => simp [nextChar, hx, hshape]
  | some shape =>
    obtain ⟨count, low, high⟩ := shape
    have hlength :=
      length_takeContinuation_concat hb count low high (le_of_sequenceShape? hshape) rest
    simp only [nextChar, hx, hshape, ↓reduceIte] at h ⊢
    split_ifs at h ⊢ with hcount
    rw [hcount] at hlength
    exact hlength

theorem decodeUtf8_concat {b : UInt8} (hb : b < 0x80) {fuel : Nat} {bytes : List UInt8}
    (hfuel : bytes.length < fuel) {name : List Char}
    (h : (decodeUtf8 fuel (bytes ++ [b])).mapM id = some name) :
    ∃ front, name = front ++ [Char.ofNat b.toNat] := by
  induction fuel generalizing bytes name with
  | zero => exact absurd hfuel (Nat.not_lt_zero _)
  | succ fuel ih =>
    cases bytes with
    | nil =>
      have hend : decodeUtf8 fuel [] = [] := by cases fuel <;> rfl
      simp only [List.nil_append, decodeUtf8, nextChar, if_pos hb, List.drop_nil, hend] at h
      exact ⟨[], (Option.some.inj h).symm⟩
    | cons x rest =>
      simp only [List.cons_append, decodeUtf8, List.mapM_cons, Option.bind_eq_bind] at h
      obtain ⟨d, hd, h⟩ := Option.bind_eq_some_iff.mp h
      obtain ⟨later, hlater, h⟩ := Option.bind_eq_some_iff.mp h
      obtain rfl := Option.some.inj h
      have hused := snd_nextChar_le hb hd
      rw [List.drop_append_of_le_length hused] at hlater
      have hless : (rest.drop ((nextChar x (rest ++ [b])).2 - 1)).length < fuel := by
        simp only [List.length_cons, List.length_drop] at hfuel ⊢
        omega
      obtain ⟨front, rfl⟩ := ih hless hlater
      exact ⟨d :: front, rfl⟩

theorem ofUtf8?_concat {b : UInt8} (hb : b < 0x80) {bytes : List UInt8} {name : List Char}
    (h : ofUtf8? (bytes ++ [b]) = some name) : ∃ front, name = front ++ [Char.ofNat b.toNat] := by
  refine decodeUtf8_concat hb ?_ h
  simp

/-! ## The normal form -/

section Normal

variable (h : c.toNat < 0x80)
include h

theorem combiningClass_of_lt : combiningClass c = 0 := by
  unfold combiningClass
  exact if_pos h

theorem decompose_of_lt : decompose c = [c] := by
  unfold decompose
  exact if_pos h

theorem join?_of_lt (a : Char) : join? a c = none := by
  unfold join?
  exact if_pos h

theorem placeMark_concat (d : Char) (cs : List Char) :
    placeMark d (cs ++ [c]) = placeMark d cs ++ [c] := by
  induction cs with
  | nil => simp [placeMark, combiningClass_of_lt h]
  | cons e cs ih =>
    simp only [List.cons_append, placeMark, ih]
    split <;> rfl

theorem decomposed_concat (cs : List Char) : decomposed (cs ++ [c]) = decomposed cs ++ [c] := by
  simp only [decomposed, orderMarks, List.flatMap_append, List.flatMap_singleton,
    decompose_of_lt h]
  induction cs.flatMap decompose with
  | nil => rfl
  | cons d ds ih => simp only [List.cons_append, List.foldr_cons, ih, placeMark_concat h]

theorem joinFrom_concat (letter : Char) (held cs : List Char) :
    joinFrom letter held (cs ++ [c]) = joinFrom letter held cs ++ [c] := by
  induction cs generalizing letter held with
  | nil => simp [joinFrom, join?_of_lt h, combiningClass_of_lt h]
  | cons d cs ih =>
    simp only [List.cons_append, joinFrom]
    split
    · exact ih _ held
    · split
      · simp only [ih, List.cons_append, List.append_assoc]
      · exact ih letter (d :: held)

theorem composed_concat (cs : List Char) : composed (cs ++ [c]) = composed cs ++ [c] := by
  induction cs with
  | nil => simp [composed, joinFrom, combiningClass_of_lt h]
  | cons d cs ih =>
    simp only [List.cons_append, composed]
    split
    · exact joinFrom_concat h d [] cs
    · rw [ih, List.cons_append]

theorem normalForm_concat (cs : List Char) : normalForm (cs ++ [c]) = normalForm cs ++ [c] := by
  rw [normalForm, decomposed_concat h, composed_concat h, normalForm]

end Normal

/-- The last piece goes on with a character that separates nothing. -/
theorem splitAtChar_concat {p : Char → Bool} (hc : p c = false) (cs : List Char) :
    ∃ front last, splitAtChar p cs = front ++ [last] ∧
      splitAtChar p (cs ++ [c]) = front ++ [last ++ [c]] := by
  induction cs with
  | nil => exact ⟨[], [], by simp [splitAtChar], by simp [splitAtChar, hc]⟩
  | cons d cs ih =>
    obtain ⟨front, last, hcs, hcons⟩ := ih
    simp only [List.cons_append, splitAtChar, hcs, hcons]
    split
    · exact ⟨[] :: front, last, rfl, rfl⟩
    · cases front with
      | nil => exact ⟨[], d :: last, rfl, rfl⟩
      | cons piece front => exact ⟨(d :: piece) :: front, last, rfl, rfl⟩

end Text

/-! ## Labels -/

namespace Url

namespace Punycode

theorem digitValue?_of_isLow (h : IsLow c) : digitValue? c = none :=
  h.of_forall (p := (digitValue? · = none)) (by decide)

/-- No number goes on beyond a character that is no digit. -/
theorem readNumber?_concat (hc : digitValue? c = none) {bias : Nat} {letters : List Char}
    {k weight total number : Nat} {rest : List Char}
    (h : readNumber? bias (letters ++ [c]) k weight total = some (number, rest)) :
    ∃ front, rest = front ++ [c] := by
  induction letters generalizing k weight total with
  | nil => simp [readNumber?, hc] at h
  | cons d letters ih =>
    simp only [List.cons_append, readNumber?, Option.bind_eq_bind] at h
    obtain ⟨digit, -, h⟩ := Option.bind_eq_some_iff.mp h
    split at h
    · obtain ⟨-, rfl⟩ := Prod.mk.inj (Option.some.inj h)
      exact ⟨letters, rfl⟩
    · exact ih h

theorem insertCodes?_concat (hc : digitValue? c = none) (fuel bias code place : Nat)
    (done letters : List Char) :
    insertCodes? fuel bias code place done (letters ++ [c]) = none := by
  induction fuel generalizing bias code place done letters with
  | zero => cases letters <;> rfl
  | succ fuel ih =>
    rw [insertCodes?.eq_3 _ _ _ _ _ _ (by simp)]
    cases hread : readNumber? bias (letters ++ [c]) 36 1 place with
    | none => rfl
    | some read =>
      obtain ⟨total, rest⟩ := read
      obtain ⟨front, rfl⟩ := readNumber?_concat hc hread
      simp [ih]

theorem decode?_concat (h : IsLow c) (letters : List Char) : decode? (letters ++ [c]) = none := by
  have hmark : c ≠ '-' := h.ne (by decide)
  have htail : ((letters ++ [c]).reverse.takeWhile (· ≠ '-')).reverse =
      (letters.reverse.takeWhile (· ≠ '-')).reverse ++ [c] := by
    simp [hmark]
  unfold decode?
  rw [htail]
  dsimp only
  split <;> exact insertCodes?_concat (digitValue?_of_isLow h) ..

end Punycode

namespace Idna

theorem spelled?_of_isLow (h : IsLow c) : spelled? c = some [c] := by
  have hlower : c.toLower = c := h.of_forall (p := fun d => d.toLower = d) (by decide)
  rw [spelled?, if_pos h.lt, hlower]

theorem mapped?_concat (h : IsLow c) {name mapped : List Char}
    (hmapped : mapped? (name ++ [c]) = some mapped) : ∃ front, mapped = front ++ [c] := by
  obtain ⟨parts, hparts, rfl⟩ := Option.map_eq_some_iff.mp hmapped
  obtain ⟨before, b, -, hb, rfl⟩ := mapM_concat_eq_some hparts
  rw [spelled?_of_isLow h] at hb
  obtain rfl := Option.some.inj hb
  refine ⟨Text.normalForm before.flatten, ?_⟩
  simp [Text.normalForm_concat h.lt]

/-- No label of ASCII letters after the mark ends in a blank. -/
theorem ofLetters?_concat (h : IsLow c) (letters : List Char) :
    ofLetters? (letters ++ [c]) = none := by
  unfold ofLetters?
  rw [Punycode.decode?_concat h]
  simp only [Option.bind_eq_bind, Option.bind_none, Option.bind_fun_none]

theorem mem_label? (h : IsLow c) {label result : List Char}
    (hlabel : label? (label ++ [c]) = some result) : c ∈ result := by
  have hshort : ¬ asciiMark.isPrefixOf (label ++ [c]) = true ∨ 4 ≤ label.length := by
    by_cases hlength : 4 ≤ label.length
    · exact .inr hlength
    left
    intro hstart
    have hless : (label ++ [c]).length ≤ asciiMark.length := by
      rw [List.length_append]
      exact Nat.lt_of_not_le hlength
    have hsame := List.IsPrefix.eq_of_length_le (List.isPrefixOf_iff_prefix.mp hstart) hless
    have hlast : asciiMark.getLast? = some c := by simpa using congrArg List.getLast? hsame
    have hmark : asciiMark.getLast? = some '-' := by decide
    exact h.ne (by decide) (Option.some.inj (hlast.symm.trans hmark))
  have hkept : Text.afterStart? asciiMark (label ++ [c]) = none ∨
      ∃ letters, Text.afterStart? asciiMark (label ++ [c]) = some (letters ++ [c]) := by
    unfold Text.afterStart?
    split_ifs with hstart
    · have hlength := hshort.resolve_left (not_not_intro hstart)
      exact .inr ⟨label.drop 4, congrArg some (List.drop_append_of_le_length hlength)⟩
    · exact .inl rfl
  rcases hkept with hnone | ⟨letters, hletters⟩
  · simp only [label?, hnone] at hlabel
    obtain ⟨kept, hkept, hlabel⟩ := Option.bind_eq_some_iff.mp hlabel
    obtain ⟨-, -, hlabel⟩ := Option.bind_eq_some_iff.mp hlabel
    obtain rfl := Option.some.inj hlabel
    obtain rfl := Option.some.inj hkept
    simp
  · simp [label?, hletters, ofLetters?_concat h] at hlabel

theorem mem_asciiLabel? (h : IsLow c) {label result : List Char}
    (hlabel : asciiLabel? label = some result) (hmem : c ∈ label) : c ∈ result := by
  have hbasic : Punycode.isBasic c = true := decide_eq_true h.lt
  unfold asciiLabel? at hlabel
  split_ifs at hlabel
  · obtain rfl := Option.some.inj hlabel
    exact hmem
  · obtain rfl := Option.some.inj hlabel
    simp [Punycode.encode, hmem, hbasic]

theorem mem_intercalate {α : Type} {a : α} {sep part : List α} {parts : List (List α)}
    (ha : a ∈ part) (hpart : part ∈ parts) : a ∈ sep.intercalate parts := by
  induction parts with
  | nil => cases hpart
  | cons first rest ih =>
    cases rest with
    | nil =>
      obtain rfl := List.mem_singleton.mp hpart
      simpa using ha
    | cons second rest =>
      rw [List.intercalate_cons_cons]
      rcases List.mem_cons.mp hpart with rfl | hrest
      · simp [ha]
      · simp [ih hrest]

theorem mem_toAscii? (h : IsLow c) {name result : List Char}
    (hresult : toAscii? (name ++ [c]) = some result) : c ∈ result := by
  have hpoint : decide (c = '.') = false := decide_eq_false (h.ne (by decide))
  unfold toAscii? at hresult
  obtain ⟨mapped, hmapped, hresult⟩ := Option.bind_eq_some_iff.mp hresult
  obtain ⟨labels, hlabels, hresult⟩ := Option.bind_eq_some_iff.mp hresult
  obtain ⟨-, -, hresult⟩ := Option.bind_eq_some_iff.mp hresult
  obtain ⟨asciis, hasciis, hresult⟩ := Option.bind_eq_some_iff.mp hresult
  obtain rfl := Option.some.inj hresult
  obtain ⟨front, rfl⟩ := mapped?_concat h hmapped
  obtain ⟨pieces, last, -, hpieces⟩ :=
    Text.splitAtChar_concat (p := fun d => decide (d = '.')) hpoint front
  rw [hpieces] at hlabels
  obtain ⟨before, label, -, hlabel, rfl⟩ := mapM_concat_eq_some hlabels
  obtain ⟨before', ascii, -, hascii, rfl⟩ := mapM_concat_eq_some hasciis
  exact mem_intercalate (mem_asciiLabel? h hascii (mem_label? h hlabel)) (by simp)

end Idna

end Url

/-- No host ends in a blank. -/
theorem Host.ofChars?_concat (h : IsLow c) (cs : List Char) : Host.ofChars? (cs ++ [c]) = none := by
  have hforbidden : isForbiddenInDomain c = true := by
    have hspace : c.toNat < 0x20 ∨ c = ' ' := by
      rcases Nat.lt_or_eq_of_le h with hlt | heq
      · exact .inl hlt
      · exact .inr (Char.toNat_inj.mp heq)
    rcases hspace with hlt | rfl
    · simp [isForbiddenInDomain, hlt]
    · decide
  unfold ofChars?
  split
  next rest hrest =>
    have hlast : rest.getLast? ≠ some ']' := by
      intro hlast
      have hmine : ('[' :: rest).getLast? = some c := by rw [← hrest]; simp
      rw [List.getLast?_cons, hlast] at hmine
      exact h.ne (by decide) (Option.some.inj hmine).symm
    exact if_neg hlast
  next =>
    cases hname : Text.ofUtf8? (Url.percentDecode (cs ++ [c])) with
    | none => rfl
    | some name =>
      rw [Url.percentDecode_concat h] at hname
      have hsmall := h.lt
      have hbyte : (UInt8.ofNat c.toNat).toNat = c.toNat := by
        rw [UInt8.toNat_ofNat']
        omega
      have hless : UInt8.ofNat c.toNat < 0x80 := by
        rw [UInt8.lt_iff_toNat_lt, hbyte]
        exact hsmall
      obtain ⟨front, rfl⟩ := Text.ofUtf8?_concat hless hname
      simp only [hbyte, Char.ofNat_toNat]
      cases hascii : Url.Idna.toAscii? (front ++ [c]) with
      | none => simp [hascii]
      | some ascii =>
        have hany : ascii.any isForbiddenInDomain = true :=
          List.any_eq_true.mpr ⟨c, Url.Idna.mem_toAscii? h hascii, hforbidden⟩
        simp only [Option.bind_eq_bind, Option.bind_some, hascii, hany, Bool.or_true, ↓reduceIte]

end SessionGateway
