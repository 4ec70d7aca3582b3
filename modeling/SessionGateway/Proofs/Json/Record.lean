import SessionGateway.Proofs.Json.Passing
import SessionGateway.Proofs.Members
import SessionGateway.Proofs.Record
import SessionGateway.Record.Text

/-! Reading fields and records from a text, set against taking them from the value of the text. -/

namespace SessionGateway.JsonText

variable {α : Type}

/-- What a reader takes from a text is what is taken from the value there, and as much is left, as
long as the bound exceeds the length of the text. -/
def Sound (read : FieldReader α) (take : Json.FieldReader α) : Prop :=
  ∀ {fuel depth : Nat} {cs rest left : List Char} {v : Json} {a : α}, cs.length < fuel →
    readValue fuel depth cs = .ok (v, rest) → read fuel depth cs = .ok (a, left) →
      take v = .ok a ∧ left = rest

/-- What is taken from a value is read from its text, and as much is left. -/
def Complete (read : FieldReader α) (take : Json.FieldReader α) : Prop :=
  ∀ {fuel depth : Nat} {cs rest : List Char} {v : Json} {a : α},
    readValue fuel depth cs = .ok (v, rest) → take v = .ok a → read fuel depth cs = .ok (a, rest)

/-- What is read from a whole text is taken from its value. -/
theorem Sound.take_of_readField? {read : FieldReader α} {take : Json.FieldReader α}
    (h : Sound read take) {text : String} {v : Json} {a : α} (hvalue : Json.ofText text = .ok v)
    (hread : readField? read text = .ok a) : take v = .ok a := by
  obtain ⟨rest, hvalue⟩ := exists_of_readWhole? hvalue
  obtain ⟨left, hread⟩ := exists_of_readWhole? hread
  exact (h (Nat.lt_succ_self _) hvalue hread).1

theorem refuse_ne_ok {fuel : Nat} {wanted : String} {cs : List Char} {a : α} :
    refuse fuel wanted cs ≠ .ok a := by
  intro h
  unfold refuse at h
  split at h
  · contradiction
  · obtain ⟨⟨found, rest⟩, -, h⟩ := bind_eq_ok_iff.mp h
    contradiction

/-! ## Scalars -/

theorem sound_stringField : Sound stringField Json.stringField := by
  intro fuel depth cs rest left v a _ hvalue hread
  obtain ⟨c, tail, hblank, hbegins⟩ := exists_begins hvalue
  unfold stringField at hread
  rw [hblank] at hread
  split at hread
  · rename_i heq
    obtain ⟨rfl, rfl⟩ := List.cons.inj heq
    cases hbegins with
    | natural _ hdigit => simp at hdigit
    | string hstring =>
      rw [hstring] at hread
      obtain ⟨rfl, rfl⟩ := Prod.mk.inj (Except.ok.inj hread)
      exact ⟨rfl, rfl⟩
  · exact absurd hread refuse_ne_ok

theorem complete_stringField : Complete stringField Json.stringField := by
  intro fuel depth cs rest v a hvalue htake
  obtain ⟨c, tail, hblank, hbegins⟩ := exists_begins hvalue
  unfold stringField
  rw [hblank]
  cases hbegins with
  | string hstring =>
    obtain rfl := Except.ok.inj htake
    exact hstring
  | negative hv => cases hv <;> simp [Json.stringField, Json.refuse] at htake
  | natural hv => cases hv <;> simp [Json.stringField, Json.refuse] at htake
  | _ => simp [Json.stringField, Json.refuse] at htake

theorem sound_boolField : Sound boolField Json.boolField := by
  intro fuel depth cs rest left v a _ hvalue hread
  obtain ⟨c, tail, hblank, hbegins⟩ := exists_begins hvalue
  unfold boolField at hread
  rw [hblank] at hread
  split at hread
  · rename_i heq
    obtain ⟨rfl, rfl⟩ := List.cons.inj heq
    obtain ⟨behind, hword, hread⟩ := bind_eq_ok_iff.mp hread
    obtain ⟨rfl, rfl⟩ := Prod.mk.inj (Except.ok.inj hread)
    cases hbegins with
    | natural _ hdigit => simp at hdigit
    | yes hyes =>
      rw [hyes] at hword
      exact ⟨rfl, (Except.ok.inj hword).symm⟩
  · rename_i heq
    obtain ⟨rfl, rfl⟩ := List.cons.inj heq
    obtain ⟨behind, hword, hread⟩ := bind_eq_ok_iff.mp hread
    obtain ⟨rfl, rfl⟩ := Prod.mk.inj (Except.ok.inj hread)
    cases hbegins with
    | natural _ hdigit => simp at hdigit
    | no hno =>
      rw [hno] at hword
      exact ⟨rfl, (Except.ok.inj hword).symm⟩
  · exact absurd hread refuse_ne_ok

/-- A number is read the same however deep containers may be nested. -/
theorem readValue_of_startsNumber {fuel depth : Nat} {cs rest : List Char} {v : Json}
    (hstarts : startsNumber cs = true) (h : readValue fuel depth cs = .ok (v, rest)) :
    IsNumber v ∧ ∀ depth', readValue fuel depth' cs = .ok (v, rest) := by
  obtain ⟨c, tail, hblank, hbegins⟩ := exists_begins h
  simp only [startsNumber, nextChar?, hblank, List.head?_cons, Option.any_some, Bool.or_eq_true,
    decide_eq_true_eq] at hstarts
  cases hbegins with
  | negative hv hnumber =>
    refine ⟨hv, fun depth' => ?_⟩
    simpa [readValue, hblank] using hnumber
  | natural hv hdigit hnumber =>
    refine ⟨hv, fun depth' => ?_⟩
    have hne {d : Char} (hd : d.isDigit = false) : c ≠ d := by
      rintro rfl
      rw [hdigit] at hd
      contradiction
    unfold readValue
    rw [hblank]
    dsimp only
    rw [if_neg (hne rfl), if_neg (hne rfl), if_neg (hne rfl), if_neg (hne rfl), if_pos hdigit]
    exact hnumber
  | _ => simp at hstarts

theorem startsNumber_of_isNumber {fuel depth : Nat} {cs rest : List Char} {v : Json}
    (hv : IsNumber v) (h : readValue fuel depth cs = .ok (v, rest)) : startsNumber cs = true := by
  obtain ⟨c, tail, hblank, hbegins⟩ := exists_begins h
  simp only [startsNumber, nextChar?, hblank, List.head?_cons, Option.any_some, Bool.or_eq_true,
    decide_eq_true_eq]
  cases hbegins with
  | negative => exact .inl rfl
  | natural _ hdigit => exact .inr hdigit
  | _ => cases hv

theorem sound_numberField {wanted : String} {take : Json.FieldReader α} :
    Sound (numberField wanted take) take := by
  intro fuel depth cs rest left v a _ hvalue hread
  unfold numberField at hread
  split_ifs at hread with hstarts
  · have hsame := (readValue_of_startsNumber hstarts hvalue).2 0
    obtain ⟨⟨n, behind⟩, hn, hread⟩ := bind_eq_ok_iff.mp hread
    obtain ⟨rfl, rfl⟩ := Prod.mk.inj (Except.ok.inj (hsame.symm.trans hn))
    dsimp only at hread
    split at hread
    · rename_i b htake
      rw [htake]
      obtain ⟨rfl, rfl⟩ := Prod.mk.inj (Except.ok.inj hread)
      exact ⟨rfl, rfl⟩
    · contradiction
  · exact absurd hread refuse_ne_ok

theorem complete_numberField {wanted : String} {take : Json.FieldReader α}
    (hnumber : ∀ {v : Json} {a : α}, take v = .ok a → IsNumber v) :
    Complete (numberField wanted take) take := by
  intro fuel depth cs rest v a hvalue htake
  have hstarts := startsNumber_of_isNumber (hnumber htake) hvalue
  have hsame := (readValue_of_startsNumber hstarts hvalue).2 0
  simp only [numberField, hstarts, if_true, hsame, bind, Except.bind, htake]
  rfl

/-! ## Values that may be null, and objects -/

theorem Begins.eq_null_iff {fuel depth : Nat} {tail rest : List Char} {c : Char} {v : Json}
    (h : Begins fuel depth tail rest c v) : c = 'n' ↔ v = .null := by
  cases h with
  | negative hv => cases hv <;> simp
  | natural hv hdigit =>
    have hne : c ≠ 'n' := by
      rintro rfl
      contradiction
    cases hv <;> simp [hne]
  | _ => simp

theorem optionalField_of_ne_null {take : Json.FieldReader α} {v : Json} (h : v ≠ .null) :
    Json.optionalField take v = (take v).map some := by
  cases v with
  | null => contradiction
  | _ => rfl

theorem sound_optionalField {read : FieldReader α} {take : Json.FieldReader α}
    (hread : Sound read take) : Sound (optionalField read) (Json.optionalField take) := by
  intro fuel depth cs rest left v a hlength hvalue hoption
  obtain ⟨c, tail, hblank, hbegins⟩ := exists_begins hvalue
  have hcs := length_skipBlanks_le cs
  unfold optionalField at hoption
  rw [hblank] at hoption
  split at hoption
  · rename_i heq
    obtain ⟨rfl, rfl⟩ := List.cons.inj heq
    obtain ⟨behind, hword, hoption⟩ := bind_eq_ok_iff.mp hoption
    obtain ⟨rfl, rfl⟩ := Prod.mk.inj (Except.ok.inj hoption)
    cases hbegins with
    | natural _ hdigit => simp at hdigit
    | null hnull =>
      rw [hnull] at hword
      exact ⟨rfl, (Except.ok.inj hword).symm⟩
  · rename_i hother
    obtain ⟨⟨b, behind⟩, hb, hoption⟩ := bind_eq_ok_iff.mp hoption
    obtain ⟨rfl, rfl⟩ := Prod.mk.inj (Except.ok.inj hoption)
    rw [← readValue_skipBlanks, hblank] at hvalue
    rw [hblank] at hcs
    obtain ⟨htake, hrest⟩ := hread (Nat.lt_of_le_of_lt hcs hlength) hvalue hb
    refine ⟨?_, hrest⟩
    have hnull : v ≠ .null := by
      rintro rfl
      obtain rfl := hbegins.eq_null_iff.mpr rfl
      exact hother tail rfl
    rw [optionalField_of_ne_null hnull, htake]
    rfl

theorem complete_optionalField {read : FieldReader α} {take : Json.FieldReader α}
    (hread : Complete read take) :
    Complete (optionalField read) (Json.optionalField take) := by
  intro fuel depth cs rest v a hvalue htake
  obtain ⟨c, tail, hblank, hbegins⟩ := exists_begins hvalue
  unfold optionalField
  rw [hblank]
  by_cases hnull : v = .null
  · subst hnull
    obtain rfl := hbegins.eq_null_iff.mpr rfl
    obtain rfl := Except.ok.inj htake
    cases hbegins with
    | natural hv => cases hv
    | null hword =>
      simp only [hword]
      rfl
  · have hc : c ≠ 'n' := fun hc => hnull (hbegins.eq_null_iff.mp hc)
    obtain ⟨b, hb, rfl⟩ : ∃ b, take v = .ok b ∧ some b = a := by
      rw [optionalField_of_ne_null hnull] at htake
      exact map_eq_ok_iff.mp htake
    rw [← readValue_skipBlanks, hblank] at hvalue
    split
    · rename_i heq
      exact absurd (List.cons.inj heq).1 hc
    · rw [hread hvalue hb]
      rfl

theorem sound_mapField : Sound mapField Json.mapField := by
  intro fuel depth cs rest left v a _ hvalue hread
  obtain ⟨c, tail, hblank, hbegins⟩ := exists_begins hvalue
  unfold mapField at hread
  rw [hblank] at hread
  split at hread
  · rename_i heq
    obtain ⟨rfl, rfl⟩ := List.cons.inj heq
    cases hbegins with
    | natural _ hdigit => simp at hdigit
    | object hdepth hmembers =>
      subst hdepth
      dsimp only at hread
      rw [hmembers] at hread
      obtain ⟨rfl, rfl⟩ := Prod.mk.inj (Except.ok.inj hread)
      exact ⟨rfl, rfl⟩
  · exact absurd hread refuse_ne_ok

theorem complete_mapField : Complete mapField Json.mapField := by
  intro fuel depth cs rest v a hvalue htake
  obtain ⟨c, tail, hblank, hbegins⟩ := exists_begins hvalue
  unfold mapField
  rw [hblank]
  cases hbegins with
  | object hdepth hmembers =>
    subst hdepth
    obtain rfl := Except.ok.inj htake
    simp only [hmembers]
    rfl
  | negative hv => cases hv <;> simp [Json.mapField, Json.refuse] at htake
  | natural hv => cases hv <;> simp [Json.mapField, Json.refuse] at htake
  | _ => simp [Json.mapField, Json.refuse] at htake

/-- A map is what is read as an object. -/
theorem mapField_eq_ok_iff {fuel depth : Nat} {cs rest : List Char} {members : Members} :
    mapField fuel depth cs = .ok (members, rest) ↔
      readValue fuel depth cs = .ok (.object members, rest) := by
  constructor
  · intro h
    unfold mapField at h
    split at h
    · rename_i hblank
      cases depth with
      | zero => contradiction
      | succ depth =>
        obtain ⟨⟨pairs, left⟩, hmembers, h⟩ := bind_eq_ok_iff.mp h
        obtain ⟨rfl, rfl⟩ := Prod.mk.inj (Except.ok.inj h)
        unfold readValue
        simp [hblank, hmembers, pure, Except.pure]
    · exact absurd h refuse_ne_ok
  · intro h
    exact complete_mapField h rfl

theorem readField?_mapField_eq_ok_iff {text : String} {members : Members} :
    readField? mapField text = .ok members ↔ Json.ofText text = .ok (.object members) := by
  unfold readField? Json.ofText
  rw [readWhole?_eq_ok_iff, readWhole?_eq_ok_iff]
  simp only [mapField_eq_ok_iff]

/-! ## Records -/

theorem orStop_eq_ok_iff {x : Except Fault α} {a : α} : orStop x = .ok a ↔ x = .ok a := by
  cases x <;> simp [orStop]

theorem settle_eq_ok_iff {closing : List Char → List Char} {x : Except Stop α} {a : α} :
    settle closing x = .ok a ↔ x = .ok a := by
  cases x with
  | ok b => simp [settle]
  | error e => cases e <;> simp [settle]

section

variable {ρ : Type} {s : Schema ρ} {get : ρ → (f : s.Field) → s.Carrier f}
  {read : (f : s.Field) → FieldReader (s.Carrier f)}
  {take : (f : s.Field) → Json.FieldReader (s.Carrier f)}
  {length depth fuel : Nat} {first : Bool} {slots slots' : s.Slots} {cs left back : List Char}

/-- The slots that are read are those that the values of the members fill, and no slot is filled
twice. -/
theorem filled_of_readSlots (hs : s.Lawful get) (hread : ∀ f, Sound (read f) (take f))
    {pairs : List (String × Json)}
    (hpairs : MembersRead (readValue length depth) length first cs pairs left)
    (hlength : cs.length < length)
    (hslots : readSlots s read length depth fuel first slots cs = .ok (slots', back)) :
    back = left ∧ s.Filled take slots pairs slots' ∧ s.Fits slots (pairs.map Prod.fst) := by
  induction hpairs generalizing fuel slots with
  | stop hnext =>
    cases fuel with
    | zero => simp [readSlots] at hslots
    | succ fuel =>
      simp only [readSlots, hnext, orStop] at hslots
      obtain ⟨rfl, rfl⟩ := Prod.mk.inj (Except.ok.inj hslots)
      exact ⟨rfl, ⟨nofun, fun _ _ => rfl⟩, Schema.fits_nil _⟩
  | @more first cs keyed colon front behind left key v pairs hnext hkey hcolon hvalue hrest ih =>
    cases fuel with
    | zero => simp [readSlots] at hslots
    | succ fuel =>
      have hkeyed := length_le_of_nextKey hnext
      have hkeyLess := length_lt_of_readString hkey
      have hcolonLess := length_lt_of_readColon hcolon
      have hvalueLess := length_lt_of_readValue hvalue
      have hfront : front.length < length := by omega
      have hbehind : behind.length < length := hvalueLess.trans hfront
      simp only [readSlots, hnext, hkey, orStop, ok_bind, if_true] at hslots
      cases hfield : s.field? key with
      | none =>
        simp only [hfield, hcolon, ok_bind, skipValue_of_readValue hvalue hfront hfront] at hslots
        obtain ⟨hleft, hfilled, hfits⟩ := ih hbehind hslots
        exact ⟨hleft, (hs.filled_cons_of_none hfield).mpr hfilled,
          (hs.fits_cons_of_none hfield).mpr hfits⟩
      | some f =>
        have hname := Schema.name_of_field? hfield
        simp only [hfield, hcolon, ok_bind] at hslots
        split_ifs at hslots with hrepeated
        obtain ⟨⟨a, behind'⟩, ha, hslots⟩ := bind_eq_ok_iff.mp hslots
        obtain ⟨htake, rfl⟩ := hread f hfront hvalue (orStop_eq_ok_iff.mp ha)
        obtain ⟨hleft, hfilled, hfits⟩ := ih hbehind hslots
        -- The slot is full from here on, so the name cannot come again without being refused.
        have hfresh : key ∉ pairs.map Prod.fst :=
          hname ▸ hfits.fresh f (by rw [Schema.put_self]; rfl)
        have hempty : slots f = none := by simpa using hrepeated
        exact ⟨hleft, (hs.filled_cons_of_some hname hfresh).mpr ⟨a, htake, hfilled⟩,
          (hs.fits_cons_of_some a hname).mpr ⟨hempty, hfits⟩⟩

/-- The object of some members fills what the members fill. -/
theorem filled_ofPairs {pairs : List (String × Json)} (h : s.Filled take slots pairs slots') :
    s.Filled take slots (Members.ofPairs pairs) slots' := by
  constructor
  · intro p hp
    exact h.given p (Members.mem_of_mem_ofPairs hp)
  · intro f hf
    exact h.kept f fun hmem => hf (Members.mem_keys_ofPairs.mpr hmem)

/-- Members that name no field twice fill what their object fills. -/
theorem filled_of_ofPairs {pairs : List (String × Json)}
    (hfits : s.Fits slots (pairs.map Prod.fst))
    (h : s.Filled take slots (Members.ofPairs pairs) slots') :
    s.Filled take slots pairs slots' := by
  constructor
  · intro p hp f hname
    have honce : (pairs.map Prod.fst).count p.1 ≤ 1 := hname ▸ hfits.once f
    exact h.given p (Members.mem_ofPairs_iff.mpr (Members.mem_latest_of_count_le_one hp honce))
      f hname
  · intro f hf
    exact h.kept f fun hmem => hf (Members.mem_keys_ofPairs.mp hmem)

theorem nextItem_skipBlanks (first : Bool) (cs : List Char) :
    nextItem first (skipBlanks cs) = nextItem first cs := by
  unfold nextItem
  rw [skipBlanks_skipBlanks]

/-- The slots that are read one by one are those that the items fill; the other items are left. -/
theorem fillSequence_of_readSequence (hread : ∀ f, Sound (read f) (take f))
    {fields : List s.Field} {items : List Json}
    (hitems : ItemsRead (readValue length depth) first cs items left) (hlength : cs.length < length)
    (hslots : readSequence s read length depth fields first slots cs = .ok (slots', back)) :
    ∃ more first', Json.fillSequence s take fields slots items = .ok (slots', more) ∧
      ItemsRead (readValue length depth) first' back more left := by
  induction fields generalizing first slots cs items with
  | nil =>
    obtain ⟨rfl, rfl⟩ := Prod.mk.inj (Except.ok.inj hslots)
    exact ⟨items, first, rfl, hitems⟩
  | cons f fields ih =>
    cases hitems with
    | stop hnext =>
      simp only [readSequence, hnext, orStop, ok_bind] at hslots
      obtain ⟨rfl, rfl⟩ := Prod.mk.inj (Except.ok.inj hslots)
      refine ⟨[], first, rfl, .stop ?_⟩
      rw [← (nextItem_eq_false hnext).1, nextItem_skipBlanks, (nextItem_eq_false hnext).1]
      exact hnext
    | more hnext hvalue hrest =>
      have hfront := (length_le_of_nextItem hnext).trans_lt hlength
      simp only [readSequence, hnext, orStop, ok_bind, if_true] at hslots
      obtain ⟨⟨a, behind⟩, ha, hslots⟩ := bind_eq_ok_iff.mp hslots
      obtain ⟨htake, rfl⟩ := hread f hfront hvalue (orStop_eq_ok_iff.mp ha)
      obtain ⟨more, first', hfill, hmore⟩ :=
        ih hrest ((length_lt_of_readValue hvalue).trans hfront) hslots
      refine ⟨more, first', ?_, hmore⟩
      simp only [Json.fillSequence, htake, ok_bind, hfill]

/-- A list is closed only behind its last item. -/
theorem eq_nil_of_closeList {value : Reader Json} {items : List Json} {out : List Char}
    (hitems : ItemsRead value first cs items left) (hclose : closeList cs = .ok out) :
    items = [] ∧ out = left.drop 1 := by
  have hbracket : skipBlanks cs = ']' :: out := by
    unfold closeList at hclose
    split at hclose
    · contradiction
    · rename_i heq
      obtain rfl := Except.ok.inj hclose
      exact heq
    · split at hclose <;> contradiction
    · contradiction
  cases hitems with
  | stop hnext =>
    obtain ⟨hblank, -⟩ := nextItem_eq_false hnext
    rw [← hblank, hbracket]
    exact ⟨rfl, rfl⟩
  | more hnext =>
    obtain ⟨c, rest, hblank, hc, -⟩ := nextItem_eq_true hnext
    rw [hblank] at hbracket
    exact absurd (List.cons.inj hbracket).1 hc

/-- A record that is read from an object is the one that its value stands for, and names no field
twice. -/
theorem take_of_recordField_object (hs : s.Lawful get) (hread : ∀ f, Sound (read f) (take f))
    {pairs : List (String × Json)} {tail rest out : List Char} {r : ρ}
    (hblank : skipBlanks cs = '\x7b' :: tail) (hlength : tail.length < fuel)
    (hmembers : readMembers (readValue fuel depth) fuel fuel true [] tail = .ok (pairs, rest))
    (hrecord : recordField s read fuel (depth + 1) cs = .ok (r, out)) :
    Json.recordField s take (.object (Members.ofPairs pairs)) = .ok r ∧ out = rest ∧
      ¬ s.Repeats (pairs.map Prod.fst) := by
  simp only [recordField, hblank] at hrecord
  obtain ⟨all, close, hpairs, hall, rfl, -⟩ := exists_membersRead hmembers
  obtain rfl : pairs = all := hall
  obtain ⟨⟨slots, back⟩, hslots, hfinish⟩ := bind_eq_ok_iff.mp (settle_eq_ok_iff.mp hrecord)
  obtain ⟨r', hr, hfinish⟩ := bind_eq_ok_iff.mp hfinish
  obtain ⟨rfl, rfl⟩ := Prod.mk.inj (Except.ok.inj hfinish)
  obtain ⟨rfl, hfilled, hfits⟩ := filled_of_readSlots hs hread hpairs hlength hslots
  refine ⟨?_, rfl, Schema.fits_noSlots_iff.mp hfits⟩
  apply (Json.recordField_object_eq_ok_iff hs (Members.nodup_keys_ofPairs _)).mpr
  refine ⟨slots, filled_ofPairs hfilled, ?_⟩
  rw [hs.finish_eq_ok_iff] at hr ⊢
  exact hr

/-- A record that is read from a text is the one that its value stands for. -/
theorem sound_recordField (hs : s.Lawful get) (hread : ∀ f, Sound (read f) (take f)) :
    Sound (recordField s read) (Json.recordField s take) := by
  intro fuel depth cs rest left v r hlength hvalue hrecord
  obtain ⟨c, tail, hblank, hbegins⟩ := exists_begins hvalue
  have htail : tail.length < fuel := by
    have hle := length_skipBlanks_le cs
    rw [hblank, List.length_cons] at hle
    omega
  have hwhole := hrecord
  unfold recordField at hrecord
  rw [hblank] at hrecord
  split at hrecord
  · rename_i heq
    obtain ⟨rfl, rfl⟩ := List.cons.inj heq
    cases hbegins with
    | natural _ hdigit => simp at hdigit
    | object hdepth hmembers =>
      subst hdepth
      obtain ⟨htake, hout, -⟩ := take_of_recordField_object hs hread hblank htail hmembers hwhole
      exact ⟨htake, hout⟩
  · rename_i heq
    obtain ⟨rfl, rfl⟩ := List.cons.inj heq
    cases hbegins with
    | natural _ hdigit => simp at hdigit
    | array hdepth hitems =>
      subst hdepth
      obtain ⟨items, close, hall, rfl, rfl⟩ := exists_itemsRead hitems
      obtain ⟨⟨r', back⟩, hfields, hclosed⟩ := bind_eq_ok_iff.mp hrecord
      obtain ⟨out, hclose, hclosed⟩ := bind_eq_ok_iff.mp hclosed
      obtain ⟨rfl, rfl⟩ := Prod.mk.inj (Except.ok.inj hclosed)
      obtain ⟨⟨slots, back'⟩, hslots, hfinish⟩ := bind_eq_ok_iff.mp (settle_eq_ok_iff.mp hfields)
      obtain ⟨r'', hr, hfinish⟩ := bind_eq_ok_iff.mp hfinish
      obtain ⟨rfl, rfl⟩ := Prod.mk.inj (Except.ok.inj hfinish)
      obtain ⟨more, first, hfill, hmore⟩ := fillSequence_of_readSequence hread hall htail hslots
      obtain ⟨rfl, rfl⟩ := eq_nil_of_closeList hmore hclose
      refine ⟨?_, rfl⟩
      rw [hs.finish_eq_ok_iff] at hr
      simp only [Json.recordField, hfill, ok_bind,
        hs.finish_eq_ok_iff.mpr hr, List.isEmpty_nil, if_true]
      rfl
  · exact absurd hrecord refuse_ne_ok

/-- Members that name no field twice fill the slots that their values fill; the others are passed
over. -/
theorem readSlots_of_filled (hs : s.Lawful get) (hread : ∀ f, Complete (read f) (take f))
    {pairs : List (String × Json)}
    (hpairs : MembersRead (readValue length depth) length first cs pairs left)
    (hfuel : pairs.length < fuel) (hlength : cs.length < length)
    (hfits : s.Fits slots (pairs.map Prod.fst)) (hfilled : s.Filled take slots pairs slots') :
    readSlots s read length depth fuel first slots cs = .ok (slots', left) := by
  induction hpairs generalizing fuel slots with
  | stop hnext =>
    cases fuel with
    | zero => contradiction
    | succ fuel =>
      have hsame : slots' = slots := funext fun f => hfilled.kept f List.not_mem_nil
      simp only [readSlots, hnext, orStop, ok_bind, hsame]
      rfl
  | @more first cs keyed colon front behind left key v pairs hnext hkey hcolon hvalue hrest ih =>
    cases fuel with
    | zero => contradiction
    | succ fuel =>
      have hkeyed := length_le_of_nextKey hnext
      have hkeyLess := length_lt_of_readString hkey
      have hcolonLess := length_lt_of_readColon hcolon
      have hvalueLess := length_lt_of_readValue hvalue
      have hbehind : behind.length < length := by omega
      rw [List.map_cons] at hfits
      cases hfield : s.field? key with
      | none =>
        have hskip : skipValue length length front = .ok behind :=
          skipValue_of_readValue hvalue (by omega) (by omega)
        have hslots := ih (Nat.lt_of_succ_lt_succ hfuel) hbehind
          ((hs.fits_cons_of_none hfield).mp hfits) ((hs.filled_cons_of_none hfield).mp hfilled)
        simp only [readSlots, hnext, hkey, orStop, ok_bind, if_true, hfield, hcolon, hskip, hslots]
      | some f =>
        have hname := Schema.name_of_field? hfield
        obtain ⟨a, htake, -⟩ := hfilled.given (key, v) List.mem_cons_self f hname
        obtain ⟨hempty, hbelow⟩ := (hs.fits_cons_of_some a hname).mp hfits
        have hfresh : key ∉ pairs.map Prod.fst :=
          hname ▸ hbelow.fresh f (by rw [Schema.put_self]; rfl)
        obtain ⟨b, hb, hfilled⟩ := (hs.filled_cons_of_some hname hfresh).mp hfilled
        obtain rfl := Except.ok.inj (htake.symm.trans hb)
        have hslots := ih (Nat.lt_of_succ_lt_succ hfuel) hbehind hbelow hfilled
        simp only [readSlots, hnext, hkey, orStop, ok_bind, if_true, hfield, hempty, hcolon,
          hread f hvalue htake, hslots, Option.isSome_none, Bool.false_eq_true, if_false]

/-- The slots that items fill are read from them one by one. -/
theorem readSequence_of_fillSequence (hread : ∀ f, Complete (read f) (take f))
    {fields : List s.Field} {items more : List Json}
    (hitems : ItemsRead (readValue length depth) first cs items left)
    (hfill : Json.fillSequence s take fields slots items = .ok (slots', more)) :
    ∃ back first', readSequence s read length depth fields first slots cs = .ok (slots', back) ∧
      ItemsRead (readValue length depth) first' back more left := by
  induction fields generalizing first slots cs items with
  | nil =>
    obtain ⟨rfl, rfl⟩ := Prod.mk.inj (Except.ok.inj hfill)
    exact ⟨cs, first, rfl, hitems⟩
  | cons f fields ih =>
    cases hitems with
    | stop hnext =>
      obtain ⟨rfl, rfl⟩ := Prod.mk.inj (Except.ok.inj hfill)
      refine ⟨left, first, by simp only [readSequence, hnext, orStop, ok_bind]; rfl, .stop ?_⟩
      rw [← (nextItem_eq_false hnext).1, nextItem_skipBlanks, (nextItem_eq_false hnext).1]
      exact hnext
    | more hnext hvalue hrest =>
      simp only [Json.fillSequence] at hfill
      obtain ⟨a, htake, hfill⟩ := bind_eq_ok_iff.mp hfill
      obtain ⟨back, first', hslots, hmore⟩ := ih hrest hfill
      refine ⟨back, first', ?_, hmore⟩
      simp only [readSequence, hnext, orStop, ok_bind, if_true, hread f hvalue htake, hslots]

theorem closeList_of_itemsRead {value : Reader Json}
    (hitems : ItemsRead value first cs [] left) : closeList cs = .ok (left.drop 1) := by
  cases hitems with
  | stop hnext =>
    obtain ⟨hblank, rest, rfl⟩ := nextItem_eq_false hnext
    simp only [closeList, hblank, List.drop_one, List.tail_cons]

/-- An object that names no field twice is read as the record that its value stands for. -/
theorem recordField_of_readMembers (hs : s.Lawful get) (hread : ∀ f, Complete (read f) (take f))
    {pairs : List (String × Json)} {rest : List Char} {tail : List Char} {r : ρ}
    (hblank : skipBlanks cs = '\x7b' :: tail) (hlength : tail.length < fuel)
    (hmembers : readMembers (readValue fuel depth) fuel fuel true [] tail = .ok (pairs, rest))
    (hkeys : ¬ s.Repeats (pairs.map Prod.fst))
    (htake : Json.recordField s take (.object (Members.ofPairs pairs)) = .ok r) :
    recordField s read fuel (depth + 1) cs = .ok (r, rest) := by
  obtain ⟨all, left, hpairs, hall, rfl, hfuel⟩ := exists_membersRead hmembers
  obtain rfl : pairs = all := hall
  obtain ⟨slots, hfilled, hfinish⟩ :=
    (Json.recordField_object_eq_ok_iff hs (Members.nodup_keys_ofPairs _)).mp htake
  have hfits := Schema.fits_noSlots_iff.mpr hkeys
  have hslots := readSlots_of_filled hs hread hpairs hfuel hlength hfits
    (filled_of_ofPairs hfits hfilled)
  simp only [recordField, hblank]
  apply settle_eq_ok_iff.mpr
  rw [hs.finish_eq_ok_iff] at hfinish
  simp only [hslots, ok_bind, hs.finish_eq_ok_iff.mpr hfinish]
  rfl

/-- An array is read as the record that its value stands for. -/
theorem recordField_of_readItems (hs : s.Lawful get) (hread : ∀ f, Complete (read f) (take f))
    {items : List Json} {rest : List Char} {tail : List Char} {r : ρ}
    (hblank : skipBlanks cs = '[' :: tail)
    (hitems : readItems (readValue fuel depth) fuel true [] tail = .ok (items, rest))
    (htake : Json.recordField s take (.array items) = .ok r) :
    recordField s read fuel (depth + 1) cs = .ok (r, rest) := by
  obtain ⟨all, left, hall, hsame, rfl⟩ := exists_itemsRead hitems
  obtain rfl : items = all := hsame
  obtain ⟨⟨slots, more⟩, hfill, htake⟩ := bind_eq_ok_iff.mp htake
  obtain ⟨r', hfinish, htake⟩ := bind_eq_ok_iff.mp htake
  split_ifs at htake with hempty
  obtain rfl := Except.ok.inj htake
  obtain rfl := List.isEmpty_iff.mp hempty
  obtain ⟨back, first', hslots, hmore⟩ := readSequence_of_fillSequence hread hall hfill
  rw [hs.finish_eq_ok_iff] at hfinish
  simp only [recordField, hblank, readArray, hslots, ok_bind, hs.finish_eq_ok_iff.mpr hfinish]
  show (closeList back >>= _) = _
  rw [closeList_of_itemsRead hmore]
  rfl

/-- A record is read from texts and taken from values field by field, each field alike. -/
inductive Fieldwise (s : Schema ρ) (get : ρ → (f : s.Field) → s.Carrier f) :
    FieldReader ρ → Json.FieldReader ρ → Prop where
  | intro {read : (f : s.Field) → FieldReader (s.Carrier f)}
      {take : (f : s.Field) → Json.FieldReader (s.Carrier f)} (lawful : s.Lawful get)
      (sound : ∀ f, Sound (read f) (take f)) (complete : ∀ f, Complete (read f) (take f)) :
      Fieldwise s get (recordField s read) (Json.recordField s take)

end

/-! ## Values of texts -/

/-- The value is read somewhere in a text. -/
def IsRead (v : Json) : Prop :=
  ∃ (fuel depth : Nat) (cs rest : List Char), readValue fuel depth cs = .ok (v, rest)

theorem isRead_of_ofText {text : String} {v : Json} (h : Json.ofText text = .ok v) : IsRead v := by
  obtain ⟨rest, hvalue⟩ := exists_of_readWhole? h
  exact ⟨_, _, _, rest, hvalue⟩

/-- The items of an array are read too. -/
theorem IsRead.items {items : List Json} (h : IsRead (.array items)) : ∀ v ∈ items, IsRead v := by
  obtain ⟨fuel, depth, cs, rest, hvalue⟩ := h
  obtain ⟨c, tail, -, hbegins⟩ := exists_begins hvalue
  cases hbegins with
  | negative hv => cases hv
  | natural hv => cases hv
  | array _ hitems =>
    obtain ⟨all, left, hall, hsame, -⟩ := exists_itemsRead hitems
    obtain rfl : items = all := hsame
    intro v hv
    obtain ⟨front, behind, hread⟩ := hall.exists_read v hv
    exact ⟨fuel, _, front, behind, hread⟩

/-- An object in a text keeps each key once, and its members are read too. -/
theorem IsRead.members {members : Members} (h : IsRead (.object members)) :
    (members.map Prod.fst).Nodup ∧ ∀ m ∈ members, IsRead m.2 := by
  obtain ⟨fuel, depth, cs, rest, hvalue⟩ := h
  obtain ⟨c, tail, -, hbegins⟩ := exists_begins hvalue
  cases hbegins with
  | negative hv => cases hv
  | natural hv => cases hv
  | object _ hmembers =>
    obtain ⟨pairs, left, hpairs, rfl, -⟩ := exists_membersRead hmembers
    refine ⟨Members.nodup_keys_ofPairs _, ?_⟩
    intro m hm
    obtain ⟨front, behind, hread⟩ := hpairs.exists_read m (Members.mem_of_mem_ofPairs hm)
    exact ⟨fuel, _, front, behind, hread⟩

end SessionGateway.JsonText
