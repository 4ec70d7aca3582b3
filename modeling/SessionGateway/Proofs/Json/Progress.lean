import SessionGateway.Proofs.Json.Skipping

/-! Readers go forward. What a reader leaves is shorter than what it was given, so that a bound on
the length of a text is a bound on the steps that reading any part of it takes. -/

namespace SessionGateway.JsonText

theorem eq_append_of_readWord {word cs rest : List Char} (h : readWord word cs = .ok rest) :
    cs = word ++ rest := by
  induction word generalizing cs with
  | nil => exact Except.ok.inj h
  | cons w word ih =>
    cases cs with
    | nil => simp [readWord] at h
    | cons c cs =>
      simp only [readWord] at h
      split_ifs at h with hc
      rw [hc, ih h, List.cons_append]

/-! ## Numbers -/

theorem length_lt_of_skipWhole {cs rest : List Char} (h : skipWhole cs = .ok rest) :
    rest.length < cs.length := by
  unfold skipWhole at h
  split at h
  · contradiction
  · split_ifs at h
    obtain rfl := Except.ok.inj h
    exact Nat.lt_succ_of_le (List.dropWhile_suffix _).length_le

theorem length_le_of_skipFraction {cs rest : List Char} (h : skipFraction cs = .ok rest) :
    rest.length ≤ cs.length := by
  unfold skipFraction at h
  split at h
  · split_ifs at h
    obtain rfl := Except.ok.inj h
    exact Nat.le_succ_of_le (List.dropWhile_suffix _).length_le
  · exact (congrArg List.length (Except.ok.inj h)).ge

theorem length_le_of_skipExponent {cs rest : List Char} (h : skipExponent cs = .ok rest) :
    rest.length ≤ cs.length := by
  unfold skipExponent at h
  split at h
  · exact (congrArg List.length (Except.ok.inj h)).ge
  · rename_i mark tail
    by_cases hmark : (!isExponentMark mark) = true
    · rw [if_pos hmark] at h
      exact (congrArg List.length (Except.ok.inj h)).ge
    · rw [if_neg hmark] at h
      dsimp only at h
      generalize hunsigned :
        (if decide (tail.head? = some '-') || decide (tail.head? = some '+') then tail.drop 1
          else tail) = unsigned at h
      have hsigned : unsigned.length ≤ tail.length := by
        rw [← hunsigned]
        split
        · exact (List.drop_suffix 1 tail).length_le
        · exact Nat.le_refl _
      split_ifs at h
      obtain rfl := Except.ok.inj h
      exact Nat.le_succ_of_le ((List.dropWhile_suffix _).length_le.trans hsigned)

theorem length_lt_of_readNumber {negative : Bool} {cs rest : List Char} {v : Json}
    (h : readNumber negative cs = .ok (v, rest)) : rest.length < cs.length := by
  obtain ⟨behind, hwhole, hskip⟩ := bind_eq_ok_iff.mp (skipNumber_of_readNumber h)
  obtain ⟨back, hpart, hexponent⟩ := bind_eq_ok_iff.mp hskip
  have := length_lt_of_skipWhole hwhole
  have := length_le_of_skipFraction hpart
  have := length_le_of_skipExponent hexponent
  omega

/-! ## Strings -/

theorem length_lt_of_readHex4 {cs rest : List Char} {n : Nat}
    (h : readHex4 cs = .ok (n, rest)) : rest.length < cs.length := by
  unfold readHex4 at h
  split at h
  · rename_i r hr
    obtain rfl := Except.ok.inj h
    unfold hexValue4? at hr
    split at hr
    · simp only [Option.bind_eq_bind, Option.bind_eq_some_iff, pure, Option.some.injEq,
        Prod.mk.injEq] at hr
      obtain ⟨-, -, -, -, -, -, -, -, -, rfl⟩ := hr
      simp only [List.length_cons]
      omega
    · contradiction
  · split_ifs at h

theorem length_lt_of_readLowSurrogate {high : Nat} {cs rest : List Char} {d : Char}
    (h : readLowSurrogate high cs = .ok (d, rest)) : rest.length < cs.length := by
  unfold readLowSurrogate at h
  split at h
  · contradiction
  · contradiction
  · obtain ⟨⟨low, behind⟩, hlow, h⟩ := bind_eq_ok_iff.mp h
    have hless := length_lt_of_readHex4 hlow
    dsimp only at h
    split_ifs at h
    obtain ⟨-, rfl⟩ := Prod.mk.inj (Except.ok.inj h)
    simp only [List.length_cons]
    omega
  · contradiction
  · contradiction

theorem length_lt_of_readEscape {cs rest : List Char} {d : Char}
    (h : readEscape cs = .ok (d, rest)) : rest.length < cs.length := by
  unfold readEscape at h
  split at h
  · contradiction
  · rename_i c tail
    split at h
    · obtain ⟨-, rfl⟩ := Prod.mk.inj (Except.ok.inj h)
      exact Nat.lt_succ_self _
    · split_ifs at h
      obtain ⟨⟨n, behind⟩, hhex, h⟩ := bind_eq_ok_iff.mp h
      have hless := length_lt_of_readHex4 hhex
      dsimp only at h
      split_ifs at h
      · have := length_lt_of_readLowSurrogate h
        simp only [List.length_cons]
        omega
      · obtain ⟨-, rfl⟩ := Prod.mk.inj (Except.ok.inj h)
        exact Nat.lt_succ_of_lt hless

theorem length_lt_of_readChars {fuel : Nat} {done chars cs rest : List Char}
    (h : readChars fuel done cs = .ok (chars, rest)) : rest.length < cs.length := by
  induction fuel generalizing done cs with
  | zero => simp [readChars] at h
  | succ fuel ih =>
    cases cs with
    | nil => simp [readChars] at h
    | cons c cs =>
      simp only [readChars] at h
      split_ifs at h
      · obtain ⟨-, rfl⟩ := Prod.mk.inj (Except.ok.inj h)
        exact Nat.lt_succ_self _
      · obtain ⟨⟨d, behind⟩, hd, h⟩ := bind_eq_ok_iff.mp h
        exact Nat.lt_succ_of_lt ((ih h).trans (length_lt_of_readEscape hd))
      · exact Nat.lt_succ_of_lt (ih h)

theorem length_lt_of_readString {fuel : Nat} {cs rest : List Char} {s : String}
    (h : readString fuel cs = .ok (s, rest)) : rest.length < cs.length := by
  obtain ⟨⟨chars, behind⟩, hchars, h⟩ := bind_eq_ok_iff.mp h
  obtain ⟨-, rfl⟩ := Prod.mk.inj (Except.ok.inj h)
  exact length_lt_of_readChars hchars

/-! ## Containers -/

theorem length_skipBlanks_le (cs : List Char) : (skipBlanks cs).length ≤ cs.length :=
  (List.dropWhile_suffix _).length_le

theorem length_le_of_nextItem {first more : Bool} {cs front : List Char}
    (h : nextItem first cs = .ok (more, front)) : front.length ≤ cs.length := by
  have hcs := length_skipBlanks_le cs
  cases more with
  | false =>
    rw [← (nextItem_eq_false h).1]
    exact hcs
  | true =>
    obtain ⟨c, rest, hblank, -, ⟨-, rfl⟩ | ⟨-, -, rfl, -⟩⟩ := nextItem_eq_true h
    · rw [← hblank]
      exact hcs
    · rw [hblank, List.length_cons] at hcs
      have := length_skipBlanks_le rest
      omega

theorem length_le_of_nextKey {first more : Bool} {cs front : List Char}
    (h : nextKey first cs = .ok (more, front)) : front.length ≤ cs.length := by
  have hcs := length_skipBlanks_le cs
  cases more with
  | false =>
    rw [← (nextKey_eq_false h).1]
    exact hcs
  | true =>
    obtain ⟨c, rest, hblank, -, ⟨-, -, rfl⟩ | ⟨-, -, hquote⟩⟩ := nextKey_eq_true h
    · rw [hblank, List.length_cons] at hcs
      omega
    · have hrest := length_skipBlanks_le rest
      rw [hquote, List.length_cons] at hrest
      rw [hblank, List.length_cons] at hcs
      omega

theorem length_lt_of_readColon {cs front : List Char} (h : readColon cs = .ok front) :
    front.length < cs.length := by
  have hcs := length_skipBlanks_le cs
  unfold readColon at h
  split at h
  · contradiction
  · rename_i hcolon
    obtain rfl := Except.ok.inj h
    rw [hcolon] at hcs
    exact hcs
  · contradiction

section

variable {value : Reader Json}
  (hvalue : ∀ {cs rest : List Char} {v : Json}, value cs = .ok (v, rest) →
    rest.length < cs.length)

include hvalue

theorem ItemsRead.length_le {first : Bool} {cs left : List Char} {items : List Json}
    (h : ItemsRead value first cs items left) : left.length ≤ cs.length := by
  induction h with
  | stop hnext => exact length_le_of_nextItem hnext
  | more hnext hitem _ ih =>
    have := length_le_of_nextItem hnext
    have := hvalue hitem
    omega

theorem MembersRead.length_le {length : Nat} {first : Bool} {cs left : List Char}
    {pairs : List (String × Json)} (h : MembersRead value length first cs pairs left) :
    left.length ≤ cs.length := by
  induction h with
  | stop hnext => exact length_le_of_nextKey hnext
  | more hnext hkey hcolon hitem _ ih =>
    have := length_le_of_nextKey hnext
    have := length_lt_of_readString hkey
    have := length_lt_of_readColon hcolon
    have := hvalue hitem
    omega

end

/-! ## Values -/

theorem length_lt_of_readValue {fuel depth : Nat} {cs rest : List Char} {v : Json}
    (h : readValue fuel depth cs = .ok (v, rest)) : rest.length < cs.length := by
  induction depth using Nat.strongRecOn generalizing cs rest v with
  | ind depth ih =>
    obtain ⟨c, tail, hblank, hbegins⟩ := exists_begins h
    have hcs : tail.length < cs.length := by
      have hle := length_skipBlanks_le cs
      rw [hblank] at hle
      exact hle
    have hword {word : List Char} (hw : readWord word tail = .ok rest) :
        rest.length ≤ tail.length := by
      rw [eq_append_of_readWord hw, List.length_append]
      exact Nat.le_add_left _ _
    refine Nat.lt_of_le_of_lt ?_ hcs
    cases hbegins with
    | null hw => exact hword hw
    | yes hw => exact hword hw
    | no hw => exact hword hw
    | negative _ hnumber => exact (length_lt_of_readNumber hnumber).le
    | natural _ _ hnumber => exact Nat.le_of_lt_succ (length_lt_of_readNumber hnumber)
    | string hstring => exact (length_lt_of_readString hstring).le
    | array hdepth hitems =>
      obtain ⟨items, left, hall, -, rfl⟩ := exists_itemsRead hitems
      have hle := hall.length_le (ih _ (hdepth ▸ Nat.lt_succ_self _))
      exact (List.drop_suffix 1 left).length_le.trans hle
    | object hdepth hmembers =>
      obtain ⟨pairs, left, hall, -, rfl, -⟩ := exists_membersRead hmembers
      have hle := hall.length_le (ih _ (hdepth ▸ Nat.lt_succ_self _))
      exact (List.drop_suffix 1 left).length_le.trans hle

end SessionGateway.JsonText
