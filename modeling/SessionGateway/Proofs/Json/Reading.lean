import SessionGateway.Proofs.Json.Scalar
import SessionGateway.Proofs.Members

/-! Values without reals are read back from their tokens, whatever blanks stand between them.
Readers are described by the tokens that they take, so that the readers of containers need to know
no more of those of their parts. -/

namespace SessionGateway

namespace JsonText

variable {α : Type} {tokens more : List (List Char)} {cs : List Char}

/-- What may come after a value. -/
def EndsValue (more : List (List Char)) : Prop :=
  ∀ token ∈ more.head?, token = [','] ∨ token = [']'] ∨ token = ['\x7d']

/-- Tokens of a value: they begin with neither a blank nor a closing bracket. -/
def StartsValue (tokens : List (List Char)) : Prop :=
  ∃ c token rest, tokens = (c :: token) :: rest ∧ isBlank c = false ∧ c ≠ ']'

/-- In texts shorter than `limit` the reader takes the tokens for `a`, and leaves what comes after
them. -/
structure Reads (read : Reader α) (limit : Nat) (tokens : List (List Char)) (a : α) : Prop where
  starts : StartsValue tokens
  reads : ∀ {more : List (List Char)} {cs : List Char}, EndsValue more →
    Spaced (tokens ++ more) cs → cs.length < limit →
      ∃ rest, read cs = .ok (a, rest) ∧ Spaced more rest ∧ rest.length < cs.length

theorem endsValue_itemTokens (items : List Json) (more : List (List Char)) :
    EndsValue (Json.itemTokens items ++ [']'] :: more) := by
  cases items <;> simp [EndsValue, Json.itemTokens]

theorem endsValue_memberTokens (members : List (String × Json)) (more : List (List Char)) :
    EndsValue (Json.memberTokens members ++ ['\x7d'] :: more) := by
  cases members <;> simp [EndsValue, Json.memberTokens]

theorem Spaced.endsNumber {rest : List Char} (hmore : EndsValue more) (h : Spaced more rest) :
    EndsNumber rest := by
  have hblank : ∀ c, isBlank c = true → c.isDigit = false ∧ c ≠ '.' ∧ isExponentMark c = false := by
    intro c hc
    simp only [isBlank, Bool.or_eq_true, decide_eq_true_eq] at hc
    rcases hc with ((rfl | rfl) | rfl) | rfl <;> decide
  intro c hc
  cases h with
  | last hrest => exact hblank c (hrest c (List.mem_of_mem_head? hc))
  | @token blanks rest tokens hfront token _ =>
    cases blanks with
    | cons b blanks =>
      obtain rfl : b = c := by simpa using hc
      exact hblank b (hfront b List.mem_cons_self)
    | nil =>
      rcases hmore token rfl with rfl | rfl | rfl
      all_goals
        obtain rfl := Option.some.inj hc
        decide

/-! ## Items -/

theorem nextItem_bracket (first : Bool) (h : Spaced ([']'] :: more) cs) :
    ∃ rest, nextItem first cs = .ok (false, ']' :: rest) ∧ Spaced more rest ∧
      rest.length < cs.length := by
  obtain ⟨rest, hskip, hrest, hlength⟩ := h.skipBlanks_cons (by decide)
  refine ⟨rest, ?_, hrest, by simpa using hlength⟩
  simp only [nextItem, hskip, List.nil_append, ↓reduceIte]

theorem nextItem_first (hstart : StartsValue tokens) (h : Spaced (tokens ++ more) cs) :
    ∃ rest, nextItem true cs = .ok (true, rest) ∧ Spaced (tokens ++ more) rest ∧
      rest.length ≤ cs.length := by
  obtain ⟨c, token, tail, rfl, hblank, hbracket⟩ := hstart
  obtain ⟨rest, hskip, hrest, hlength⟩ := h.skipBlanks_cons hblank
  refine ⟨c :: (token ++ rest), ?_, hrest.cons (c :: token), ?_⟩
  · simp only [nextItem, hskip, if_neg hbracket, ↓reduceIte]
  · simp only [List.length_cons, List.length_append]
    omega

theorem nextItem_comma (hstart : StartsValue tokens) (h : Spaced ([','] :: (tokens ++ more)) cs) :
    ∃ rest, nextItem false cs = .ok (true, rest) ∧ Spaced (tokens ++ more) rest ∧
      rest.length < cs.length := by
  obtain ⟨behind, hskip, hbehind, hlength⟩ := h.skipBlanks_cons (by decide)
  obtain ⟨c, token, tail, rfl, hblank, hbracket⟩ := hstart
  obtain ⟨rest, hskip', hrest, hlength'⟩ := hbehind.skipBlanks_cons hblank
  refine ⟨c :: (token ++ rest), ?_, hrest.cons (c :: token), ?_⟩
  · have hnot : (',' : Char) ≠ ']' := by decide
    simp only [nextItem, hskip, List.nil_append, hskip', if_neg hnot, Bool.false_eq_true,
      ↓reduceIte]
    split
    · contradiction
    · rename_i hcons
      exact absurd (List.cons.inj hcons).1 hbracket
    · rfl
  · simp only [List.length_nil] at hlength
    simp only [List.length_cons, List.length_append]
    omega

/-- An item that comes next is read, and then the others. -/
theorem readItems_step {item : Reader Json} {limit : Nat} {v : Json}
    (hv : Reads item limit v.tokens v) (hmore : EndsValue more) {first : Bool} {front : List Char}
    (hnext : nextItem first cs = .ok (true, front)) (hfront : Spaced (v.tokens ++ more) front)
    (hlimit : front.length < limit) (fuel : Nat) (done : List Json) :
    ∃ behind, readItems item (fuel + 1) first done cs =
        readItems item fuel false (v :: done) behind ∧
      Spaced more behind ∧ behind.length < front.length := by
  obtain ⟨behind, hread, hbehind, hless⟩ := hv.reads hmore hfront hlimit
  refine ⟨behind, ?_, hbehind, hless⟩
  simp only [readItems, hnext, bind, Except.bind, hread, ↓reduceIte]

/-- The items after the first, up to the closing bracket. -/
theorem readItems_itemTokens {item : Reader Json} {limit : Nat} {items : List Json}
    (hitems : ∀ v ∈ items, Reads item limit v.tokens v) (fuel : Nat) (done : List Json)
    (h : Spaced (Json.itemTokens items ++ [']'] :: more) cs) (hfuel : cs.length < fuel)
    (hlimit : cs.length < limit) :
    ∃ rest, readItems item fuel false done cs = .ok (done.reverse ++ items, rest) ∧
      Spaced more rest ∧ rest.length < cs.length := by
  induction items generalizing fuel done cs with
  | nil =>
    obtain ⟨rest, hnext, hrest, hlength⟩ := nextItem_bracket false h
    obtain ⟨fuel, rfl⟩ := Nat.exists_eq_succ_of_ne_zero (Nat.ne_of_gt (Nat.zero_lt_of_lt hfuel))
    refine ⟨rest, ?_, hrest, hlength⟩
    simp [readItems, hnext, bind, Except.bind, pure, Except.pure]
  | cons v items ih =>
    have hv := hitems v List.mem_cons_self
    rw [Json.itemTokens, List.cons_append, List.append_assoc] at h
    obtain ⟨front, hnext, hfront, hless⟩ := nextItem_comma hv.starts h
    obtain ⟨fuel, rfl⟩ := Nat.exists_eq_succ_of_ne_zero (Nat.ne_of_gt (Nat.zero_lt_of_lt hfuel))
    obtain ⟨behind, hstep, hbehind, hless'⟩ :=
      readItems_step hv (endsValue_itemTokens items more) hnext hfront (by omega) fuel done
    obtain ⟨rest, hrest, hspaced, hless''⟩ := ih (fun w hw => hitems w (List.mem_cons_of_mem v hw))
      fuel (v :: done) hbehind (by omega) (by omega)
    refine ⟨rest, ?_, hspaced, by omega⟩
    rw [hstep, hrest]
    simp

theorem readItems_first {item : Reader Json} {limit : Nat} {v : Json} {items : List Json}
    (hitems : ∀ w ∈ v :: items, Reads item limit w.tokens w) {fuel : Nat}
    (h : Spaced (v.tokens ++ (Json.itemTokens items ++ [']'] :: more)) cs)
    (hfuel : cs.length < fuel) (hlimit : cs.length < limit) :
    ∃ rest, readItems item fuel true [] cs = .ok (v :: items, rest) ∧ Spaced more rest ∧
      rest.length < cs.length := by
  have hv := hitems v List.mem_cons_self
  obtain ⟨front, hnext, hfront, hless⟩ := nextItem_first hv.starts h
  obtain ⟨fuel, rfl⟩ := Nat.exists_eq_succ_of_ne_zero (Nat.ne_of_gt (Nat.zero_lt_of_lt hfuel))
  obtain ⟨behind, hstep, hbehind, hless'⟩ :=
    readItems_step hv (endsValue_itemTokens items more) hnext hfront (by omega) fuel []
  obtain ⟨rest, hrest, hspaced, hless''⟩ := readItems_itemTokens
    (fun w hw => hitems w (List.mem_cons_of_mem v hw)) fuel [v] hbehind (by omega) (by omega)
  refine ⟨rest, ?_, hspaced, by omega⟩
  rw [hstep, hrest]
  rfl

/-! ## Members -/

/-- A key, its opening quote taken, and the colon. -/
theorem readKey {k : String} {limit : Nat} {rest : List Char}
    (h : Spaced ([':'] :: tokens) rest)
    (hlimit : (k.toList.flatMap Json.escapedChar ++ '"' :: rest).length < limit) :
    ∃ behind, readString limit (k.toList.flatMap Json.escapedChar ++ '"' :: rest) = .ok (k, rest) ∧
      readColon rest = .ok behind ∧ Spaced tokens behind ∧ behind.length < rest.length := by
  obtain ⟨behind, hskip, hbehind, hlength⟩ := h.skipBlanks_cons (by decide)
  refine ⟨behind, readString_escaped k rest hlimit, ?_, hbehind, by simpa using hlength⟩
  simp only [readColon, hskip, List.nil_append]

theorem nextKey_brace (first : Bool) (h : Spaced (['\x7d'] :: more) cs) :
    ∃ rest, nextKey first cs = .ok (false, '\x7d' :: rest) ∧ Spaced more rest ∧
      rest.length < cs.length := by
  obtain ⟨rest, hskip, hrest, hlength⟩ := h.skipBlanks_cons (by decide)
  refine ⟨rest, ?_, hrest, by simpa using hlength⟩
  simp only [nextKey, hskip, List.nil_append, ↓reduceIte]

theorem writeString_eq (s : String) :
    Json.writeString s = '"' :: (s.toList.flatMap Json.escapedChar ++ ['"']) := rfl

theorem nextKey_first {k : String} (h : Spaced (Json.writeString k :: tokens) cs) :
    ∃ rest, nextKey true cs = .ok (true, k.toList.flatMap Json.escapedChar ++ '"' :: rest) ∧
      Spaced tokens rest ∧
      (k.toList.flatMap Json.escapedChar ++ '"' :: rest).length < cs.length := by
  rw [writeString_eq] at h
  obtain ⟨rest, hskip, hrest, hlength⟩ := h.skipBlanks_cons (by decide)
  have hnot : ('"' : Char) ≠ '\x7d' := by decide
  refine ⟨rest, ?_, hrest, ?_⟩
  · simp only [nextKey, hskip, if_neg hnot, ↓reduceIte, List.append_assoc, List.cons_append,
      List.nil_append]
  · simp only [List.length_append, List.length_cons, List.length_nil] at hlength ⊢
    omega

theorem nextKey_comma {k : String} (h : Spaced ([','] :: Json.writeString k :: tokens) cs) :
    ∃ rest, nextKey false cs = .ok (true, k.toList.flatMap Json.escapedChar ++ '"' :: rest) ∧
      Spaced tokens rest ∧
      (k.toList.flatMap Json.escapedChar ++ '"' :: rest).length < cs.length := by
  rw [writeString_eq] at h
  obtain ⟨front, hskip, hfront, hlength⟩ := h.skipBlanks_cons (by decide)
  obtain ⟨rest, hskip', hrest, hlength'⟩ := hfront.skipBlanks_cons (by decide)
  have hnot : (',' : Char) ≠ '\x7d' := by decide
  refine ⟨rest, ?_, hrest, ?_⟩
  · simp only [nextKey, hskip, List.nil_append, hskip', if_neg hnot, Bool.false_eq_true, ↓reduceIte,
      List.append_assoc, List.cons_append]
  · simp only [List.length_append, List.length_cons, List.length_nil] at hlength hlength' ⊢
    omega

/-- A member whose key comes next is read, and then the others. -/
theorem readMembers_step {value : Reader Json} {limit : Nat} {k : String} {v : Json}
    (hv : Reads value limit v.tokens v) (hmore : EndsValue more) {first : Bool}
    {keyed : List Char}
    (hnext : nextKey first cs = .ok (true, k.toList.flatMap Json.escapedChar ++ '"' :: keyed))
    (hkeyed : Spaced ([':'] :: (v.tokens ++ more)) keyed)
    (hlimit : (k.toList.flatMap Json.escapedChar ++ '"' :: keyed).length < limit) (fuel : Nat)
    (done : List (String × Json)) :
    ∃ behind, readMembers value limit (fuel + 1) first done cs =
        readMembers value limit fuel false ((k, v) :: done) behind ∧
      Spaced more behind ∧ behind.length < keyed.length := by
  obtain ⟨front, hkey, hcolon, hfront, hless⟩ := readKey hkeyed hlimit
  simp only [List.length_append, List.length_cons] at hlimit
  obtain ⟨behind, hread, hbehind, hless'⟩ := hv.reads hmore hfront (by omega)
  refine ⟨behind, ?_, hbehind, by omega⟩
  simp only [readMembers, hnext, bind, Except.bind, hkey, hcolon, hread, ↓reduceIte]

/-- The members after the first, up to the closing brace. -/
theorem readMembers_memberTokens {value : Reader Json} {limit : Nat}
    {members : List (String × Json)} (hmembers : ∀ m ∈ members, Reads value limit m.2.tokens m.2)
    (fuel : Nat) (done : List (String × Json))
    (h : Spaced (Json.memberTokens members ++ ['\x7d'] :: more) cs) (hfuel : cs.length < fuel)
    (hlimit : cs.length < limit) :
    ∃ rest, readMembers value limit fuel false done cs = .ok (done.reverse ++ members, rest) ∧
      Spaced more rest ∧ rest.length < cs.length := by
  induction members generalizing fuel done cs with
  | nil =>
    obtain ⟨rest, hnext, hrest, hlength⟩ := nextKey_brace false h
    obtain ⟨fuel, rfl⟩ := Nat.exists_eq_succ_of_ne_zero (Nat.ne_of_gt (Nat.zero_lt_of_lt hfuel))
    refine ⟨rest, ?_, hrest, hlength⟩
    simp [readMembers, hnext, bind, Except.bind, pure, Except.pure]
  | cons m members ih =>
    obtain ⟨k, v⟩ := m
    have hv := hmembers (k, v) List.mem_cons_self
    simp only [Json.memberTokens, List.cons_append, List.append_assoc] at h
    obtain ⟨keyed, hnext, hkeyed, hless⟩ := nextKey_comma h
    obtain ⟨fuel, rfl⟩ := Nat.exists_eq_succ_of_ne_zero (Nat.ne_of_gt (Nat.zero_lt_of_lt hfuel))
    obtain ⟨behind, hstep, hbehind, hless'⟩ := readMembers_step hv
      (endsValue_memberTokens members more) hnext hkeyed (by omega) fuel done
    simp only [List.length_append, List.length_cons] at hless
    obtain ⟨rest, hrest, hspaced, hless''⟩ := ih
      (fun w hw => hmembers w (List.mem_cons_of_mem (k, v) hw)) fuel ((k, v) :: done) hbehind
      (by omega) (by omega)
    refine ⟨rest, ?_, hspaced, by omega⟩
    rw [hstep, hrest]
    simp

theorem readMembers_first {value : Reader Json} {limit : Nat} {k : String} {v : Json}
    {members : List (String × Json)}
    (hmembers : ∀ m ∈ (k, v) :: members, Reads value limit m.2.tokens m.2) {fuel : Nat}
    (h : Spaced (Json.writeString k :: [':'] :: (v.tokens ++ (Json.memberTokens members ++
      ['\x7d'] :: more))) cs) (hfuel : cs.length < fuel) (hlimit : cs.length < limit) :
    ∃ rest, readMembers value limit fuel true [] cs = .ok ((k, v) :: members, rest) ∧
      Spaced more rest ∧ rest.length < cs.length := by
  have hv := hmembers (k, v) List.mem_cons_self
  obtain ⟨keyed, hnext, hkeyed, hless⟩ := nextKey_first h
  obtain ⟨fuel, rfl⟩ := Nat.exists_eq_succ_of_ne_zero (Nat.ne_of_gt (Nat.zero_lt_of_lt hfuel))
  obtain ⟨behind, hstep, hbehind, hless'⟩ := readMembers_step hv
    (endsValue_memberTokens members more) hnext hkeyed (by omega) fuel []
  simp only [List.length_append, List.length_cons] at hless
  obtain ⟨rest, hrest, hspaced, hless''⟩ := readMembers_memberTokens
    (fun w hw => hmembers w (List.mem_cons_of_mem (k, v) hw)) fuel [(k, v)] hbehind
    (by omega) (by omega)
  refine ⟨rest, ?_, hspaced, by omega⟩
  rw [hstep, hrest]
  rfl

/-! ## Values -/

/-- A value of one token is read from its first character on. -/
theorem Reads.of_token {read : Reader α} {limit : Nat} {c : Char} {token : List Char} {a : α}
    (hblank : isBlank c = false) (hbracket : c ≠ ']')
    (h : ∀ {cs rest : List Char}, EndsNumber rest → (token ++ rest).length < limit →
      skipBlanks cs = c :: (token ++ rest) → read cs = .ok (a, rest)) :
    Reads read limit [c :: token] a := by
  refine ⟨⟨c, token, [], rfl, hblank, hbracket⟩, fun {more cs} hmore hcs hlimit => ?_⟩
  obtain ⟨rest, hskip, hrest, hlength⟩ := Spaced.skipBlanks_cons hblank hcs
  have hshort : (token ++ rest).length < limit := by
    rw [List.length_append]
    omega
  exact ⟨rest, h (hrest.endsNumber hmore) hshort hskip, hrest, by omega⟩

theorem ne_of_isDigit {c d : Char} (hc : c.isDigit = true) (hd : d.isDigit = false) : c ≠ d := by
  rintro rfl
  rw [hc] at hd
  contradiction

theorem isBlank_of_isDigit {c : Char} (hc : c.isDigit = true) : isBlank c = false := by
  have hne : ∀ d : Char, d.isDigit = false → c ≠ d := fun d => ne_of_isDigit hc
  simp [isBlank, hne]

theorem reads_natural (fuel depth : Nat) {n : Nat} (hn : n < power 2 64) :
    Reads (readValue fuel depth) fuel [Nat.toDigits 10 n] (.integer n) := by
  have hdigits := isDigit_toDigits n
  have hread {rest : List Char} (hrest : EndsNumber rest) :=
    readNumber_toDigits false hn nofun hrest
  have hrange : Json.InRange n := by
    have : power 2 64 = 18446744073709551616 := rfl
    have : power 2 63 = 9223372036854775808 := rfl
    unfold Json.InRange
    omega
  have hof : Json.ofInt n = .integer n := if_pos hrange
  cases hd : Nat.toDigits 10 n with
  | nil => exact absurd hd Nat.toDigits_ne_nil
  | cons c digits =>
    rw [hd] at hdigits hread
    have hc := hdigits c List.mem_cons_self
    have hne : ∀ d : Char, d.isDigit = false → c ≠ d := fun d => ne_of_isDigit hc
    refine .of_token (isBlank_of_isDigit hc) (hne _ (by decide)) fun hrest _ hskip => ?_
    unfold readValue
    simp only [hskip, hne 'n' (by decide), hne 't' (by decide), hne 'f' (by decide),
      hne '-' (by decide), hc, ↓reduceIte]
    rw [← List.cons_append, hread hrest]
    simp [hof]

theorem reads_negative (fuel depth : Nat) {n : Nat} (hn : n ≤ power 2 63) (hpos : n ≠ 0) :
    Reads (readValue fuel depth) fuel ['-' :: Nat.toDigits 10 n] (.integer (-n)) := by
  have hrange : Json.InRange (-n) := by
    have : power 2 64 = 18446744073709551616 := rfl
    have : power 2 63 = 9223372036854775808 := rfl
    unfold Json.InRange
    omega
  have hn' : n < power 2 64 := by
    have : power 2 64 = 18446744073709551616 := rfl
    have : power 2 63 = 9223372036854775808 := rfl
    omega
  have hof : Json.ofInt (-n) = .integer (-n) := if_pos hrange
  refine .of_token (by decide) (by decide) fun hrest _ hskip => ?_
  unfold readValue
  simp only [hskip]
  have hread := readNumber_toDigits true hn' (fun _ => hpos) hrest
  simp [hread, hof]

theorem reads_string (fuel depth : Nat) (s : String) :
    Reads (readValue fuel depth) fuel [Json.writeString s] (.string s) := by
  rw [writeString_eq]
  refine .of_token (by decide) (by decide) fun {cs rest} _ hlimit hskip => ?_
  rw [List.append_assoc] at hlimit hskip
  have hread := readString_escaped s rest hlimit
  unfold readValue
  simp only [hskip]
  simp [hread, bind, Except.bind, pure, Except.pure]

theorem reads_integer (fuel depth : Nat) {i : Int} (hrange : Json.InRange i) :
    Reads (readValue fuel depth) fuel [(toString i).toList] (.integer i) := by
  have h63 : power 2 63 = 9223372036854775808 := rfl
  have h64 : power 2 64 = 18446744073709551616 := rfl
  obtain ⟨hlow, hhigh⟩ := hrange
  rw [Int.toString_eq_repr, Int.repr_eq_if]
  split
  · have hread := reads_natural fuel depth (n := i.toNat) (by omega)
    rw [Int.toNat_of_nonneg ‹_›] at hread
    rw [Nat.repr_eq_ofList_toDigits, String.toList_ofList]
    exact hread
  · have hread := reads_negative fuel depth (n := (-i).toNat) (by omega) (by omega)
    rw [Int.toNat_of_nonneg (by omega), Int.neg_neg] at hread
    simp only [Nat.repr_eq_ofList_toDigits, String.toList_append, String.toList_ofList]
    exact hread

theorem reads_array (fuel : Nat) {depth : Nat} {items : List Json}
    (hitems : ∀ v ∈ items, Reads (readValue fuel depth) fuel v.tokens v) :
    Reads (readValue fuel (depth + 1)) fuel (Json.array items).tokens (.array items) := by
  obtain ⟨tail, htail⟩ : ∃ tail, (Json.array items).tokens = ['['] :: tail := by
    cases items <;> exact ⟨_, rfl⟩
  refine ⟨⟨'[', [], tail, htail, by decide, by decide⟩, fun {more cs} _ hcs hlimit => ?_⟩
  rw [htail, List.cons_append] at hcs
  obtain ⟨front, hskip, hfront, hlength⟩ := hcs.skipBlanks_cons (by decide)
  have hread : ∃ rest, readItems (readValue fuel depth) fuel true [] front = .ok (items, rest) ∧
      Spaced more rest ∧ rest.length < front.length := by
    cases items with
    | nil =>
      obtain rfl := (List.cons.inj htail).2
      obtain ⟨rest, hnext, hrest, hless⟩ := nextItem_bracket true hfront
      obtain ⟨fuel, rfl⟩ := Nat.exists_eq_succ_of_ne_zero (Nat.ne_of_gt (Nat.zero_lt_of_lt hlimit))
      exact ⟨rest, by simp [readItems, hnext, bind, Except.bind, pure, Except.pure], hrest, hless⟩
    | cons v items =>
      obtain rfl := (List.cons.inj htail).2
      simp only [List.append_assoc] at hfront
      exact readItems_first hitems hfront (by omega) (by omega)
  obtain ⟨rest, hread, hrest, hless⟩ := hread
  refine ⟨rest, ?_, hrest, by omega⟩
  unfold readValue
  simp [hskip, hread, bind, Except.bind, pure, Except.pure]

/-- The members of an object are read in the order in which they stand. -/
theorem exists_readMembers {fuel depth : Nat} {members : Members}
    (hmembers : ∀ m ∈ members, Reads (readValue fuel depth) fuel m.2.tokens m.2)
    (hcs : Spaced ((Json.object members).tokens ++ more) cs) (hlimit : cs.length < fuel) :
    ∃ front rest, skipBlanks cs = '\x7b' :: front ∧
      readMembers (readValue fuel depth) fuel fuel true [] front = .ok (members, rest) ∧
      Spaced more rest ∧ rest.length < cs.length := by
  obtain ⟨tail, htail⟩ : ∃ tail, (Json.object members).tokens = ['\x7b'] :: tail := by
    cases members <;> exact ⟨_, rfl⟩
  rw [htail, List.cons_append] at hcs
  obtain ⟨front, hskip, hfront, hlength⟩ := hcs.skipBlanks_cons (by decide)
  suffices hread : ∃ rest,
      readMembers (readValue fuel depth) fuel fuel true [] front = .ok (members, rest) ∧
        Spaced more rest ∧ rest.length < front.length by
    obtain ⟨rest, hread, hrest, hless⟩ := hread
    exact ⟨front, rest, hskip, hread, hrest, by omega⟩
  cases members with
  | nil =>
    obtain rfl := (List.cons.inj htail).2
    obtain ⟨rest, hnext, hrest, hless⟩ := nextKey_brace true hfront
    obtain ⟨fuel, rfl⟩ := Nat.exists_eq_succ_of_ne_zero (Nat.ne_of_gt (Nat.zero_lt_of_lt hlimit))
    exact ⟨rest, by simp [readMembers, hnext, bind, Except.bind, pure, Except.pure], hrest, hless⟩
  | cons m members =>
    obtain ⟨k, v⟩ := m
    obtain rfl := (List.cons.inj htail).2
    simp only [List.append_assoc, List.cons_append, List.nil_append] at hfront
    exact readMembers_first hmembers hfront (by omega) (by omega)

theorem reads_object (fuel : Nat) {depth : Nat} {members : Members}
    (hkeys : members.Pairwise fun a b => a.1 < b.1)
    (hmembers : ∀ m ∈ members, Reads (readValue fuel depth) fuel m.2.tokens m.2) :
    Reads (readValue fuel (depth + 1)) fuel (Json.object members).tokens (.object members) := by
  obtain ⟨tail, htail⟩ : ∃ tail, (Json.object members).tokens = ['\x7b'] :: tail := by
    cases members <;> exact ⟨_, rfl⟩
  refine ⟨⟨'\x7b', [], tail, htail, by decide, by decide⟩, fun {more cs} _ hcs hlimit => ?_⟩
  obtain ⟨front, rest, hskip, hread, hrest, hless⟩ := exists_readMembers hmembers hcs hlimit
  refine ⟨rest, ?_, hrest, hless⟩
  unfold readValue
  simp [hskip, hread, Members.ofPairs_of_pairwise hkeys, bind, Except.bind, pure, Except.pure]

/-- A value is read back from its tokens. -/
theorem reads_readValue (fuel : Nat) {depth : Nat} {v : Json} (h : Json.Plain depth v) :
    Reads (readValue fuel depth) fuel v.tokens v := by
  induction h with
  | null depth =>
    change Reads _ _ [['n', 'u', 'l', 'l']] _
    refine .of_token (by decide) (by decide) fun {cs rest} _ _ hskip => ?_
    unfold readValue
    simp [hskip, readWord, bind, Except.bind, pure, Except.pure]
  | bool depth b =>
    cases b with
    | false =>
      change Reads _ _ [['f', 'a', 'l', 's', 'e']] _
      refine .of_token (by decide) (by decide) fun {cs rest} _ _ hskip => ?_
      unfold readValue
      simp [hskip, readWord, bind, Except.bind, pure, Except.pure]
    | true =>
      change Reads _ _ [['t', 'r', 'u', 'e']] _
      refine .of_token (by decide) (by decide) fun {cs rest} _ _ hskip => ?_
      unfold readValue
      simp [hskip, readWord, bind, Except.bind, pure, Except.pure]
  | integer depth hrange => exact reads_integer fuel depth hrange
  | string depth s => exact reads_string fuel depth s
  | array _ ih => exact reads_array fuel ih
  | object hkeys _ ih => exact reads_object fuel hkeys ih

end JsonText

/-- A text of a value's tokens, with blanks wherever they may stand, is read as the value. -/
theorem Json.ofText_of_spaced {v : Json} (hv : v.Plain JsonText.depthLimit) {text : String}
    (h : JsonText.Spaced v.tokens text.toList) : Json.ofText text = .ok v := by
  have hends : JsonText.EndsValue [] := nofun
  rw [← List.append_nil v.tokens] at h
  obtain ⟨rest, hread, hrest, -⟩ :=
    (JsonText.reads_readValue (text.toList.length + 1) hv).reads hends h (Nat.lt_succ_self _)
  simp only [Json.ofText, JsonText.readWhole?, hread, hrest.skipBlanks_nil]

theorem Json.ofText_write {layout : JsonLayout} (hlayout : layout.IsBlank) {v : Json}
    (hv : v.Plain JsonText.depthLimit) :
    Json.ofText (String.ofList (v.write layout 0)) = .ok v := by
  refine ofText_of_spaced hv ?_
  rw [String.toList_ofList]
  exact spaced_write hlayout 0 v

/-- Blanks may stand around a compact text. -/
theorem Json.ofText_text_between {v : Json} (hv : v.Plain JsonText.depthLimit)
    {front back : List Char} (hfront : JsonText.AllBlank front) (hback : JsonText.AllBlank back) :
    Json.ofText (String.ofList front ++ v.text ++ String.ofList back) = .ok v := by
  refine ofText_of_spaced hv ?_
  have hspaced := ((spaced_write JsonLayout.isBlank_compact 0 v).blanks_append hfront).append
    (.blank hback)
  simpa [text] using hspaced

end SessionGateway