import SessionGateway.Proofs.Json.Progress

/-! Whatever can be read can be passed over, as long as the bounds exceed the length of the text. -/

namespace SessionGateway.JsonText

/-! ## Strings -/

theorem length_lt_of_skipEscape {cs rest : List Char} (h : skipEscape cs = .ok rest) :
    rest.length < cs.length := by
  unfold skipEscape at h
  split at h
  · contradiction
  · split_ifs at h
    · obtain rfl := Except.ok.inj h
      exact Nat.lt_succ_self _
    · obtain ⟨⟨n, behind⟩, hhex, h⟩ := bind_eq_ok_iff.mp h
      obtain rfl := Except.ok.inj h
      exact Nat.lt_succ_of_lt (length_lt_of_readHex4 hhex)

theorem skipString_of_readChars {fuel n : Nat} {done chars cs rest : List Char}
    (h : readChars fuel done cs = .ok (chars, rest)) (hn : cs.length < n) :
    skipString n cs = .ok rest := by
  induction fuel generalizing n done cs with
  | zero => simp [readChars] at h
  | succ fuel ih =>
    cases cs with
    | nil => simp [readChars] at h
    | cons c cs =>
      obtain ⟨n, rfl⟩ := Nat.exists_eq_add_one_of_ne_zero (Nat.ne_zero_of_lt hn)
      have hcs : cs.length < n := Nat.lt_of_succ_lt_succ hn
      simp only [readChars] at h
      simp only [skipString]
      split_ifs at h ⊢ with hquote hescape hcontrol
      · obtain ⟨-, rfl⟩ := Prod.mk.inj (Except.ok.inj h)
        rfl
      · obtain ⟨⟨d, behind⟩, hd, h⟩ := bind_eq_ok_iff.mp h
        rcases skipEscape_of_readEscape hd with hone | ⟨tail, hfirst, hsecond⟩
        · rw [hone]
          exact ih h ((length_lt_of_skipEscape hone).trans hcs)
        · -- The second half of a pair of surrogates takes another step.
          have hlow := length_lt_of_skipEscape hfirst
          have hbehind := length_lt_of_skipEscape hsecond
          rw [List.length_cons] at hlow
          obtain ⟨n, rfl⟩ := Nat.exists_eq_add_one_of_ne_zero (Nat.ne_zero_of_lt hcs)
          rw [hfirst, ok_bind, skipString, if_neg (by decide), if_pos rfl, hsecond]
          exact ih h (by omega)
      · exact ih h hcs

theorem skipString_of_readString {fuel n : Nat} {cs rest : List Char} {s : String}
    (h : readString fuel cs = .ok (s, rest)) (hn : cs.length < n) :
    skipString n cs = .ok rest := by
  obtain ⟨⟨chars, behind⟩, hchars, h⟩ := bind_eq_ok_iff.mp h
  obtain ⟨-, rfl⟩ := Prod.mk.inj (Except.ok.inj h)
  exact skipString_of_readChars hchars hn

/-! ## Containers -/

section

variable {value : Reader Json} {skip : List Char → Except Fault (List Char)} {bound : Nat}
  (hvalue : ∀ {cs rest : List Char} {v : Json}, cs.length < bound → value cs = .ok (v, rest) →
    skip cs = .ok rest ∧ rest.length < cs.length)

include hvalue

theorem skipItems_of_itemsRead (hblanks : ∀ cs, value (skipBlanks cs) = value cs)
    {first : Bool} {n : Nat} {cs left : List Char} {items : List Json}
    (hread : ItemsRead value first cs items left) (hn : cs.length < n) (hbound : cs.length < bound) :
    skipItems skip n first cs = .ok (left.drop 1) := by
  induction hread generalizing n with
  | stop hnext =>
    obtain ⟨n, rfl⟩ := Nat.exists_eq_add_one_of_ne_zero (Nat.ne_zero_of_lt hn)
    obtain ⟨hblank, rest, rfl⟩ := nextItem_eq_false hnext
    simp only [skipItems, hblank, if_true, List.drop_one, List.tail_cons]
  | @more first cs front behind left v items hnext hitem hrest ih =>
    obtain ⟨n, rfl⟩ := Nat.exists_eq_add_one_of_ne_zero (Nat.ne_zero_of_lt hn)
    obtain ⟨c, rest, hblank, hc, hfront⟩ := nextItem_eq_true hnext
    have hcs := length_skipBlanks_le cs
    rw [hblank, List.length_cons] at hcs
    -- An item is passed over with the blanks that stand before it.
    have hstep {cs' : List Char} (hcs' : cs'.length ≤ cs.length)
        (hitem : value cs' = .ok (v, behind)) :
        (skip cs' >>= skipItems skip n false) = .ok (left.drop 1) := by
      obtain ⟨hskip, hless⟩ := hvalue (hcs'.trans_lt hbound) hitem
      rw [hskip]
      exact ih (by omega) (by omega)
    simp only [skipItems, hblank, hc, if_false]
    rcases hfront with ⟨rfl, rfl⟩ | ⟨rfl, rfl, rfl, -⟩
    · exact hstep hcs hitem
    · rw [hblanks] at hitem
      exact hstep (Nat.le_of_succ_le hcs) hitem

theorem skipMembers_of_membersRead {length fuel : Nat} {first : Bool} {n : Nat}
    {cs left : List Char} {pairs : List (String × Json)}
    (hread : MembersRead value fuel first cs pairs left) (hn : cs.length < n)
    (hbound : cs.length < bound) (hlength : cs.length < length) :
    skipMembers length skip n first cs = .ok (left.drop 1) := by
  induction hread generalizing n with
  | stop hnext =>
    obtain ⟨n, rfl⟩ := Nat.exists_eq_add_one_of_ne_zero (Nat.ne_zero_of_lt hn)
    obtain ⟨hblank, rest, rfl⟩ := nextKey_eq_false hnext
    simp only [skipMembers, hblank, if_true, List.drop_one, List.tail_cons]
  | @more first cs keyed colon front behind left key v pairs hnext hkey hcolon hitem hrest ih =>
    obtain ⟨n, rfl⟩ := Nat.exists_eq_add_one_of_ne_zero (Nat.ne_zero_of_lt hn)
    obtain ⟨c, rest, hblank, hc, hfront⟩ := nextKey_eq_true hnext
    have hkeyed := length_le_of_nextKey hnext
    have hcolonLess := length_lt_of_readString hkey
    have hfrontLess := length_lt_of_readColon hcolon
    obtain ⟨hskip, hless⟩ := hvalue (by omega) hitem
    have hmember {cs' : List Char} (hcs' : skipBlanks cs' = '"' :: keyed) :
        skipMember length skip cs' = .ok behind := by
      simp only [skipMember, hcs', skipString_of_readString hkey (hkeyed.trans_lt hlength),
        ok_bind, hcolon, hskip]
    have hbehind := ih (n := n) (by omega) (by omega) (by omega)
    simp only [skipMembers, hblank, hc, if_false]
    rcases hfront with ⟨rfl, rfl, rfl⟩ | ⟨rfl, rfl, hquote⟩
    · have hquoted : skipMember length skip ('"' :: keyed) = .ok behind := hmember rfl
      simp only [if_true, hquoted, ok_bind, hbehind]
    · simp only [Bool.false_eq_true, if_false, if_true, hmember hquote, ok_bind, hbehind]

end

/-! ## Values -/

/-- A value that is read can be passed over, by bounds on the steps and on the lengths of strings
that exceed the length of the text. -/
theorem skipValue_of_readValue {fuel depth length n : Nat} {cs rest : List Char} {v : Json}
    (h : readValue fuel depth cs = .ok (v, rest)) (hn : cs.length < n)
    (hlength : cs.length < length) : skipValue length n cs = .ok rest := by
  induction n generalizing depth cs rest v with
  | zero => contradiction
  | succ n ih =>
    obtain ⟨c, tail, hblank, hbegins⟩ := exists_begins h
    have htail := length_skipBlanks_le cs
    rw [hblank, List.length_cons] at htail
    simp only [skipValue, hblank]
    -- What stands inside a container is shorter than the container, so a step less is enough.
    have hinside {below : Nat} {cs' rest' : List Char} {v' : Json}
        (hcs' : cs'.length < tail.length + 1) (hread : readValue fuel below cs' = .ok (v', rest')) :
        skipValue length n cs' = .ok rest' ∧ rest'.length < cs'.length :=
      ⟨ih hread (by omega) (by omega), length_lt_of_readValue hread⟩
    cases hbegins with
    | null hword => rw [if_pos rfl, hword]
    | yes hword => rw [if_neg (by decide), if_pos rfl, hword]
    | no hword => rw [if_neg (by decide), if_neg (by decide), if_pos rfl, hword]
    | negative _ hnumber =>
      rw [if_neg (by decide), if_neg (by decide), if_neg (by decide), if_pos rfl,
        skipNumber_of_readNumber hnumber]
    | natural _ hdigit hnumber =>
      have hne {d : Char} (hd : d.isDigit = false) : c ≠ d := by
        rintro rfl
        rw [hdigit] at hd
        contradiction
      rw [if_neg (hne rfl), if_neg (hne rfl), if_neg (hne rfl), if_neg (hne rfl), if_pos hdigit,
        skipNumber_of_readNumber hnumber]
    | string hstring =>
      simp only [Char.reduceEq, if_false, Char.reduceIsDigit, Bool.false_eq_true, if_true]
      exact skipString_of_readString hstring (by omega)
    | array hdepth hitems =>
      simp only [Char.reduceEq, if_false, Char.reduceIsDigit, Bool.false_eq_true, if_true]
      obtain ⟨items, left, hall, -, rfl⟩ := exists_itemsRead hitems
      exact skipItems_of_itemsRead hinside (readValue_skipBlanks fuel _) hall (by omega)
        (Nat.lt_succ_self _)
    | object hdepth hmembers =>
      simp only [Char.reduceEq, if_false, Char.reduceIsDigit, Bool.false_eq_true, if_true]
      obtain ⟨pairs, left, hall, -, rfl, -⟩ := exists_membersRead hmembers
      exact skipMembers_of_membersRead hinside hall (by omega) (Nat.lt_succ_self _) (by omega)

end SessionGateway.JsonText
