import Mathlib.Data.List.DropRight
import SessionGateway.Json.Reader

/-! What a text must hold where a reader of values succeeds: how a value begins, and the items or
members of a container one after the other. -/

namespace SessionGateway

theorem bind_eq_ok_iff {α β ε : Type} {x : Except ε α} {f : α → Except ε β} {b : β} :
    (x >>= f) = .ok b ↔ ∃ a, x = .ok a ∧ f a = .ok b := by
  cases x <;> simp [bind, Except.bind]

theorem bind_eq_error_iff {α β ε : Type} {x : Except ε α} {f : α → Except ε β} {e : ε} :
    (x >>= f) = .error e ↔ x = .error e ∨ ∃ a, x = .ok a ∧ f a = .error e := by
  cases x <;> simp [bind, Except.bind]

@[simp]
theorem ok_bind {α β ε : Type} (a : α) (f : α → Except ε β) : (Except.ok a >>= f) = f a := rfl

theorem map_eq_ok_iff {α β ε : Type} {x : Except ε α} {f : α → β} {b : β} :
    x.map f = .ok b ↔ ∃ a, x = .ok a ∧ f a = b := by
  cases x <;> simp [Except.map]

namespace JsonText

variable {α : Type}

theorem skipBlanks_skipBlanks (cs : List Char) : skipBlanks (skipBlanks cs) = skipBlanks cs :=
  List.dropWhile_idempotent _ cs

theorem readValue_skipBlanks (fuel depth : Nat) (cs : List Char) :
    readValue fuel depth (skipBlanks cs) = readValue fuel depth cs := by
  unfold readValue
  rw [skipBlanks_skipBlanks]

/-- A whole text is read where nothing but blanks is left behind. -/
theorem readWhole?_eq_ok_iff {read : Nat → Reader α} {text : String} {a : α} :
    readWhole? read text = .ok a ↔
      ∃ rest, read (text.toList.length + 1) text.toList = .ok (a, rest) ∧ skipBlanks rest = [] := by
  unfold readWhole?
  dsimp only
  constructor
  · intro h
    split at h
    · contradiction
    · rename_i heq
      split at h
      · rename_i hrest
        obtain rfl := Except.ok.inj h
        exact ⟨_, heq, hrest⟩
      · contradiction
  · rintro ⟨rest, hread, hrest⟩
    simp only [hread, hrest]

theorem exists_of_readWhole? {read : Nat → Reader α} {text : String} {a : α}
    (h : readWhole? read text = .ok a) :
    ∃ rest, read (text.toList.length + 1) text.toList = .ok (a, rest) := by
  obtain ⟨rest, hread, -⟩ := readWhole?_eq_ok_iff.mp h
  exact ⟨rest, hread⟩

/-! ## Containers -/

/-- The items that are read up to a closing bracket, from which on `left` is left. -/
inductive ItemsRead (item : Reader α) : Bool → List Char → List α → List Char → Prop where
  | stop {first : Bool} {cs left : List Char} (hnext : nextItem first cs = .ok (false, left)) :
      ItemsRead item first cs [] left
  | more {first : Bool} {cs front behind left : List Char} {v : α} {items : List α}
      (hnext : nextItem first cs = .ok (true, front)) (hitem : item front = .ok (v, behind))
      (hrest : ItemsRead item false behind items left) : ItemsRead item first cs (v :: items) left

/-- The members that are read up to a closing brace, from which on `left` is left. -/
inductive MembersRead (value : Reader α) (length : Nat) :
    Bool → List Char → List (String × α) → List Char → Prop where
  | stop {first : Bool} {cs left : List Char} (hnext : nextKey first cs = .ok (false, left)) :
      MembersRead value length first cs [] left
  | more {first : Bool} {cs keyed colon front behind left : List Char} {key : String} {v : α}
      {pairs : List (String × α)} (hnext : nextKey first cs = .ok (true, keyed))
      (hkey : readString length keyed = .ok (key, colon)) (hcolon : readColon colon = .ok front)
      (hvalue : value front = .ok (v, behind))
      (hrest : MembersRead value length false behind pairs left) :
      MembersRead value length first cs ((key, v) :: pairs) left

/-- Each item is read somewhere. -/
theorem ItemsRead.exists_read {item : Reader α} {first : Bool} {cs left : List Char}
    {items : List α} (h : ItemsRead item first cs items left) :
    ∀ v ∈ items, ∃ front behind, item front = .ok (v, behind) := by
  induction h with
  | stop => nofun
  | more _ hitem _ ih => exact List.forall_mem_cons.mpr ⟨⟨_, _, hitem⟩, ih⟩

theorem MembersRead.exists_read {value : Reader α} {length : Nat} {first : Bool}
    {cs left : List Char} {pairs : List (String × α)}
    (h : MembersRead value length first cs pairs left) :
    ∀ m ∈ pairs, ∃ front behind, value front = .ok (m.2, behind) := by
  induction h with
  | stop => nofun
  | more _ _ _ hvalue _ ih => exact List.forall_mem_cons.mpr ⟨⟨_, _, hvalue⟩, ih⟩

theorem exists_itemsRead {item : Reader α} {fuel : Nat} {first : Bool} {done all : List α}
    {cs rest : List Char} (h : readItems item fuel first done cs = .ok (all, rest)) :
    ∃ items left, ItemsRead item first cs items left ∧ all = done.reverse ++ items ∧
      rest = left.drop 1 := by
  induction fuel generalizing first done cs with
  | zero => simp [readItems] at h
  | succ fuel ih =>
    simp only [readItems] at h
    obtain ⟨⟨more, front⟩, hnext, h⟩ := bind_eq_ok_iff.mp h
    cases more with
    | false =>
      simp only [Bool.false_eq_true, ↓reduceIte, pure, Except.pure, Except.ok.injEq,
        Prod.mk.injEq] at h
      exact ⟨[], front, .stop hnext, by simp [h.1], h.2.symm⟩
    | true =>
      simp only [↓reduceIte] at h
      obtain ⟨⟨v, behind⟩, hitem, h⟩ := bind_eq_ok_iff.mp h
      obtain ⟨items, left, hrest, hall, hleft⟩ := ih h
      exact ⟨v :: items, left, .more hnext hitem hrest, by simp [hall], hleft⟩

theorem exists_membersRead {value : Reader α} {length fuel : Nat} {first : Bool}
    {done all : List (String × α)} {cs rest : List Char}
    (h : readMembers value length fuel first done cs = .ok (all, rest)) :
    ∃ pairs left, MembersRead value length first cs pairs left ∧ all = done.reverse ++ pairs ∧
      rest = left.drop 1 ∧ pairs.length < fuel := by
  induction fuel generalizing first done cs with
  | zero => simp [readMembers] at h
  | succ fuel ih =>
    simp only [readMembers] at h
    obtain ⟨⟨more, keyed⟩, hnext, h⟩ := bind_eq_ok_iff.mp h
    cases more with
    | false =>
      simp only [Bool.false_eq_true, ↓reduceIte, pure, Except.pure, Except.ok.injEq,
        Prod.mk.injEq] at h
      exact ⟨[], keyed, .stop hnext, by simp [h.1], h.2.symm, by simp⟩
    | true =>
      simp only [↓reduceIte] at h
      obtain ⟨⟨key, colon⟩, hkey, h⟩ := bind_eq_ok_iff.mp h
      obtain ⟨front, hcolon, h⟩ := bind_eq_ok_iff.mp h
      obtain ⟨⟨v, behind⟩, hvalue, h⟩ := bind_eq_ok_iff.mp h
      obtain ⟨pairs, left, hrest, hall, hleft, hlength⟩ := ih h
      exact ⟨(key, v) :: pairs, left, .more hnext hkey hcolon hvalue hrest, by simp [hall], hleft,
        by simpa using hlength⟩

/-- What is left after the last item begins with the closing bracket. -/
theorem nextItem_eq_false {first : Bool} {cs left : List Char}
    (h : nextItem first cs = .ok (false, left)) :
    skipBlanks cs = left ∧ ∃ rest, left = ']' :: rest := by
  unfold nextItem at h
  split at h
  · contradiction
  · rename_i c rest hskip
    split_ifs at h with hbracket hfirst hcomma
    · obtain ⟨-, rfl⟩ := Prod.mk.inj (Except.ok.inj h)
      exact ⟨hskip, rest, by rw [hbracket]⟩
    · simp at h
    · split at h <;> simp at h

/-- Where an item follows, its text comes first, or a comma before it. -/
theorem nextItem_eq_true {first : Bool} {cs front : List Char}
    (h : nextItem first cs = .ok (true, front)) :
    ∃ c rest, skipBlanks cs = c :: rest ∧ c ≠ ']' ∧
      (first = true ∧ front = c :: rest ∨
        first = false ∧ c = ',' ∧ front = skipBlanks rest ∧ front.head? ≠ some ']') := by
  unfold nextItem at h
  split at h
  · contradiction
  · rename_i c rest hskip
    split_ifs at h with hbracket hfirst hcomma
    · simp at h
    · obtain ⟨-, rfl⟩ := Prod.mk.inj (Except.ok.inj h)
      exact ⟨c, rest, hskip, hbracket, .inl ⟨hfirst, rfl⟩⟩
    · refine ⟨c, rest, hskip, hbracket, .inr ⟨by simpa using hfirst, hcomma, ?_⟩⟩
      split at h
      · contradiction
      · contradiction
      · rename_i hnil hclose
        obtain ⟨-, rfl⟩ := Prod.mk.inj (Except.ok.inj h)
        refine ⟨rfl, ?_⟩
        intro hhead
        cases hrest : skipBlanks rest with
        | nil => exact hnil hrest
        | cons d tail =>
          rw [hrest] at hhead
          obtain rfl := Option.some.inj hhead
          exact hclose tail hrest

/-- What is left after the last member begins with the closing brace. -/
theorem nextKey_eq_false {first : Bool} {cs left : List Char}
    (h : nextKey first cs = .ok (false, left)) :
    skipBlanks cs = left ∧ ∃ rest, left = '\x7d' :: rest := by
  unfold nextKey at h
  split at h
  · contradiction
  · rename_i c rest hskip
    split_ifs at h with hbrace hfirst hquote hcomma
    · obtain ⟨-, rfl⟩ := Prod.mk.inj (Except.ok.inj h)
      exact ⟨hskip, rest, by rw [hbrace]⟩
    · simp at h
    · split at h <;> simp at h

/-- Where a member follows, its opening quote comes first, or a comma before it. -/
theorem nextKey_eq_true {first : Bool} {cs keyed : List Char}
    (h : nextKey first cs = .ok (true, keyed)) :
    ∃ c rest, skipBlanks cs = c :: rest ∧ c ≠ '\x7d' ∧
      (first = true ∧ c = '"' ∧ keyed = rest ∨
        first = false ∧ c = ',' ∧ skipBlanks rest = '"' :: keyed) := by
  unfold nextKey at h
  split at h
  · contradiction
  · rename_i c rest hskip
    split_ifs at h with hbrace hfirst hquote hcomma
    · simp at h
    · obtain ⟨-, rfl⟩ := Prod.mk.inj (Except.ok.inj h)
      exact ⟨c, rest, hskip, hbrace, .inl ⟨hfirst, hquote, rfl⟩⟩
    · refine ⟨c, rest, hskip, hbrace, .inr ⟨by simpa using hfirst, hcomma, ?_⟩⟩
      split at h
      · contradiction
      · rename_i hquote
        obtain ⟨-, rfl⟩ := Prod.mk.inj (Except.ok.inj h)
        exact hquote
      · contradiction
      · contradiction

/-! ## Values -/

/-- The numbers among the values. -/
inductive IsNumber : Json → Prop where
  | integer (i : Int) : IsNumber (.integer i)
  | real (x : Binary64) : IsNumber (.real x)

theorem isNumber_ofInt (i : Int) : IsNumber (.ofInt i) := by
  unfold Json.ofInt
  split_ifs
  · exact .integer i
  · exact .real _

/-- A number has a whole part, a fraction and an exponent, whose sizes decide its value. -/
theorem exists_of_readNumber {negative : Bool} {cs rest : List Char} {v : Json}
    (h : readNumber negative cs = .ok (v, rest)) :
    IsNumber v ∧ ∃ whole behind part back isZero exponent, readWhole cs = .ok (whole, behind) ∧
      readFraction behind = .ok (part, back) ∧
        readExponent isZero back = .ok (exponent, rest) := by
  simp only [readNumber] at h
  obtain ⟨⟨whole, behind⟩, hwhole, h⟩ := bind_eq_ok_iff.mp h
  obtain ⟨⟨part, back⟩, hpart, h⟩ := bind_eq_ok_iff.mp h
  obtain ⟨⟨exponent, left⟩, hexponent, h⟩ := bind_eq_ok_iff.mp h
  dsimp only at h
  generalize real? negative _ _ = x? at h
  generalize (ite (negative = true) _ _ : Int) = i at h
  suffices hnumber : IsNumber v ∧ left = rest by
    obtain ⟨hv, rfl⟩ := hnumber
    exact ⟨hv, whole, behind, part, back, _, exponent, hwhole, hpart, hexponent⟩
  split at h
  · obtain ⟨rfl, rfl⟩ := Prod.mk.inj (Except.ok.inj h)
    exact ⟨isNumber_ofInt i, rfl⟩
  · cases x? with
    | none => contradiction
    | some x =>
      obtain ⟨rfl, rfl⟩ := Prod.mk.inj (Except.ok.inj h)
      exact ⟨.real x, rfl⟩

/-- How the text of a value goes on after its first character, up to the rest. -/
inductive Begins (fuel depth : Nat) (tail rest : List Char) : Char → Json → Prop where
  | null (hword : readWord "ull".toList tail = .ok rest) : Begins fuel depth tail rest 'n' .null
  | yes (hword : readWord "rue".toList tail = .ok rest) :
      Begins fuel depth tail rest 't' (.bool true)
  | no (hword : readWord "alse".toList tail = .ok rest) :
      Begins fuel depth tail rest 'f' (.bool false)
  | negative {v : Json} (hv : IsNumber v) (hnumber : readNumber true tail = .ok (v, rest)) :
      Begins fuel depth tail rest '-' v
  | natural {c : Char} {v : Json} (hv : IsNumber v) (hdigit : c.isDigit = true)
      (hnumber : readNumber false (c :: tail) = .ok (v, rest)) : Begins fuel depth tail rest c v
  | string {s : String} (hstring : readString fuel tail = .ok (s, rest)) :
      Begins fuel depth tail rest '"' (.string s)
  | array {below : Nat} {items : List Json} (hdepth : depth = below + 1)
      (hitems : readItems (readValue fuel below) fuel true [] tail = .ok (items, rest)) :
      Begins fuel depth tail rest '[' (.array items)
  | object {below : Nat} {pairs : List (String × Json)} (hdepth : depth = below + 1)
      (hmembers : readMembers (readValue fuel below) fuel fuel true [] tail = .ok (pairs, rest)) :
      Begins fuel depth tail rest '\x7b' (.object (Members.ofPairs pairs))

theorem exists_begins {fuel depth : Nat} {cs rest : List Char} {v : Json}
    (h : readValue fuel depth cs = .ok (v, rest)) :
    ∃ c tail, skipBlanks cs = c :: tail ∧ Begins fuel depth tail rest c v := by
  unfold readValue at h
  split at h
  · contradiction
  · rename_i c tail hskip
    refine ⟨c, tail, hskip, ?_⟩
    split_ifs at h with hn ht hf hminus hdigit hquote hbracket hbrace
    · obtain ⟨left, hword, h⟩ := bind_eq_ok_iff.mp h
      obtain ⟨rfl, rfl⟩ := Prod.mk.inj (Except.ok.inj h)
      rw [hn]
      exact .null hword
    · obtain ⟨left, hword, h⟩ := bind_eq_ok_iff.mp h
      obtain ⟨rfl, rfl⟩ := Prod.mk.inj (Except.ok.inj h)
      rw [ht]
      exact .yes hword
    · obtain ⟨left, hword, h⟩ := bind_eq_ok_iff.mp h
      obtain ⟨rfl, rfl⟩ := Prod.mk.inj (Except.ok.inj h)
      rw [hf]
      exact .no hword
    · rw [hminus]
      exact .negative (exists_of_readNumber h).1 h
    · exact .natural (exists_of_readNumber h).1 hdigit h
    · obtain ⟨⟨s, left⟩, hstring, h⟩ := bind_eq_ok_iff.mp h
      obtain ⟨rfl, rfl⟩ := Prod.mk.inj (Except.ok.inj h)
      rw [hquote]
      exact .string hstring
    · cases depth with
      | zero => contradiction
      | succ below =>
        obtain ⟨⟨items, left⟩, hitems, h⟩ := bind_eq_ok_iff.mp h
        obtain ⟨rfl, rfl⟩ := Prod.mk.inj (Except.ok.inj h)
        rw [hbracket]
        exact .array rfl hitems
    · cases depth with
      | zero => contradiction
      | succ below =>
        obtain ⟨⟨pairs, left⟩, hmembers, h⟩ := bind_eq_ok_iff.mp h
        obtain ⟨rfl, rfl⟩ := Prod.mk.inj (Except.ok.inj h)
        rw [hbrace]
        exact .object rfl hmembers

end JsonText

end SessionGateway
