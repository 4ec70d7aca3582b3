import SessionGateway.Proofs.Json.Inversion
import SessionGateway.Record.Value
import SessionGateway.Settings.Conversion

/-! Filling the slots of a record from keyed values. As long as no key comes twice, what a filling
leaves is told by the values under the names of the fields, whatever their order. -/

namespace SessionGateway

theorem mem_of_lookup_eq_some {β : Type} {key : String} {v : β} {l : List (String × β)}
    (h : l.lookup key = some v) : (key, v) ∈ l := by
  obtain ⟨before, after, rfl, -⟩ := List.lookup_eq_some_iff.mp h
  exact List.mem_append_right before List.mem_cons_self

theorem lookup_eq_some_of_mem {β : Type} {key : String} {v : β} {l : List (String × β)}
    (hkeys : (l.map Prod.fst).Nodup) (h : (key, v) ∈ l) : l.lookup key = some v := by
  obtain ⟨before, after, rfl⟩ := List.append_of_mem h
  refine List.lookup_eq_some_iff.mpr ⟨before, after, rfl, ?_⟩
  intro p hp
  rw [List.map_append, List.nodup_append] at hkeys
  have hne := hkeys.2.2 p.1 (List.mem_map_of_mem hp) key (by simp)
  exact bne_iff_ne.mpr (Ne.symm hne)

namespace Schema

variable {ρ β ε : Type} {s : Schema ρ} {get : ρ → (f : s.Field) → s.Carrier f}

/-- Fields are found by their names, and a record is assembled of its fields, which `get` gives
back. -/
structure Lawful (s : Schema ρ) (get : ρ → (f : s.Field) → s.Carrier f) : Prop where
  field?_name : ∀ f, s.field? (s.name f) = some f
  assemble_eq_ok_iff : ∀ {ε : Type} {read : (f : s.Field) → Except ε (s.Carrier f)} {r : ρ},
    s.assemble read = .ok r ↔ ∀ f, read f = .ok (get r f)

theorem name_of_field? {key : String} {f : s.Field} (h : s.field? key = some f) :
    s.name f = key := by
  have hname := List.find?_some h
  simpa using hname

theorem Lawful.mem_fields (hs : s.Lawful get) (f : s.Field) : f ∈ s.fields :=
  List.mem_of_find?_eq_some (hs.field?_name f)

theorem Lawful.name_injective (hs : s.Lawful get) : Function.Injective s.name := by
  intro f g hname
  have hfound := hs.field?_name f
  rw [hname, hs.field?_name g] at hfound
  exact (Option.some.inj hfound).symm

theorem Lawful.name_ne_of_none (hs : s.Lawful get) {key : String} (h : s.field? key = none)
    (f : s.Field) : s.name f ≠ key := by
  rintro rfl
  rw [hs.field?_name] at h
  contradiction

@[simp]
theorem put_self (slots : s.Slots) (f : s.Field) (v : s.Carrier f) :
    s.put slots f v f = some v := by
  unfold put
  cases s.same f f with
  | isTrue h => rfl
  | isFalse h => exact absurd rfl h

theorem put_of_ne (slots : s.Slots) {f g : s.Field} (v : s.Carrier f) (h : g ≠ f) :
    s.put slots f v g = slots g := by
  unfold put
  cases s.same g f with
  | isTrue hsame => exact absurd hsame h
  | isFalse _ => rfl

/-- Slots make the record whose fields they hold, or that stand for the empty ones. -/
theorem Lawful.finish_eq_ok_iff (hs : s.Lawful get) {missing : s.Field → ε} {slots : s.Slots}
    {r : ρ} :
    s.finish missing slots = .ok r ↔ ∀ f, (slots f <|> s.absent f) = some (get r f) := by
  unfold finish
  rw [hs.assemble_eq_ok_iff]
  apply forall_congr'
  intro f
  cases slots f <|> s.absent f <;> simp

/-- Fills slots one value after the other; values under no name of a field are passed over. -/
def fill (s : Schema ρ) (read : (f : s.Field) → β → Except ε (s.Carrier f)) :
    s.Slots → List (String × β) → Except ε s.Slots
  | slots, [] => .ok slots
  | slots, (key, v) :: rest =>
    match s.field? key with
    | none => fill s read slots rest
    | some f => do
      let a ← read f v
      fill s read (s.put slots f a) rest

/-- What a filling leaves: the slots of the fields that are named are read from their values, and
the others are as before. -/
structure Filled (read : (f : s.Field) → β → Except ε (s.Carrier f)) (slots : s.Slots)
    (pairs : List (String × β)) (slots' : s.Slots) : Prop where
  given : ∀ p ∈ pairs, ∀ f, s.name f = p.1 → ∃ a, read f p.2 = .ok a ∧ slots' f = some a
  kept : ∀ f, s.name f ∉ pairs.map Prod.fst → slots' f = slots f

variable {read : (f : s.Field) → β → Except ε (s.Carrier f)} {slots slots' : s.Slots}
  {pairs : List (String × β)}

/-- A field of the record that the slots make is read from the value under its name. -/
theorem Filled.read_of_mem (hs : s.Lawful get) (h : s.Filled read s.noSlots pairs slots)
    {ε' : Type} {missing : s.Field → ε'} {r : ρ} (hfinish : s.finish missing slots = .ok r)
    {f : s.Field} {v : β} (hv : (s.name f, v) ∈ pairs) : read f v = .ok (get r f) := by
  obtain ⟨a, hread, hslot⟩ := h.given _ hv f rfl
  have hget := hs.finish_eq_ok_iff.mp hfinish f
  rw [hslot] at hget
  obtain rfl := Option.some.inj hget
  exact hread

theorem Filled.perm {pairs' : List (String × β)} (h : s.Filled read slots pairs slots')
    (hperm : pairs.Perm pairs') : s.Filled read slots pairs' slots' := by
  constructor
  · intro p hp
    exact h.given p (hperm.mem_iff.mpr hp)
  · intro f hf
    exact h.kept f fun hmem => hf ((hperm.map Prod.fst).mem_iff.mp hmem)

/-- What stands under the names of the fields fills their slots, and nothing fills the others. -/
theorem filled_of_lookup (hkeys : (pairs.map Prod.fst).Nodup)
    (hsome : ∀ f a, slots f = some a → ∃ v, pairs.lookup (s.name f) = some v ∧ read f v = .ok a)
    (hnone : ∀ f, slots f = none → pairs.lookup (s.name f) = none) :
    s.Filled read s.noSlots pairs slots := by
  constructor
  · rintro ⟨key, v⟩ hp f rfl
    have hlookup := lookup_eq_some_of_mem hkeys hp
    cases hslot : slots f with
    | none =>
      rw [hnone f hslot] at hlookup
      contradiction
    | some a =>
      obtain ⟨w, hw, hread⟩ := hsome f a hslot
      obtain rfl := Option.some.inj (hw.symm.trans hlookup)
      exact ⟨a, hread, rfl⟩
  · intro f hf
    cases hslot : slots f with
    | none => rfl
    | some a =>
      obtain ⟨v, hv, -⟩ := hsome f a hslot
      exact absurd (List.mem_map_of_mem (mem_of_lookup_eq_some hv)) hf

/-- A value under no name of a field changes nothing. -/
theorem Lawful.filled_cons_of_none (hs : s.Lawful get) {p : String × β} (hp : s.field? p.1 = none) :
    s.Filled read slots (p :: pairs) slots' ↔ s.Filled read slots pairs slots' := by
  have hne := hs.name_ne_of_none hp
  constructor
  · intro h
    constructor
    · intro q hq
      exact h.given q (List.mem_cons_of_mem p hq)
    · intro f hf
      apply h.kept f
      simp only [List.map_cons, List.mem_cons, not_or]
      exact ⟨hne f, hf⟩
  · intro h
    constructor
    · intro q hq f hname
      rcases List.mem_cons.mp hq with rfl | hq
      · exact absurd hname (hne f)
      · exact h.given q hq f hname
    · intro f hf
      simp only [List.map_cons, List.mem_cons, not_or] at hf
      exact h.kept f hf.2

/-- A value under the name of a field fills its slot, which nothing behind it does again. -/
theorem Lawful.filled_cons_of_some (hs : s.Lawful get) {p : String × β} {f : s.Field}
    (hp : s.name f = p.1) (hfresh : p.1 ∉ pairs.map Prod.fst) :
    s.Filled read slots (p :: pairs) slots' ↔
      ∃ a, read f p.2 = .ok a ∧ s.Filled read (s.put slots f a) pairs slots' := by
  constructor
  · intro h
    obtain ⟨a, hread, hslot⟩ := h.given p List.mem_cons_self f hp
    refine ⟨a, hread, ?_, ?_⟩
    · intro q hq
      exact h.given q (List.mem_cons_of_mem p hq)
    · intro g hg
      by_cases hgf : g = f
      · subst hgf
        rw [put_self, hslot]
      · rw [put_of_ne slots a hgf]
        apply h.kept g
        simp only [List.map_cons, List.mem_cons, not_or]
        exact ⟨fun hname => hgf (hs.name_injective (hname.trans hp.symm)), hg⟩
  · rintro ⟨a, hread, h⟩
    constructor
    · intro q hq g hname
      rcases List.mem_cons.mp hq with rfl | hq
      · obtain rfl : g = f := hs.name_injective (hname.trans hp.symm)
        refine ⟨a, hread, ?_⟩
        rw [h.kept g (by rwa [hname]), put_self]
      · exact h.given q hq g hname
    · intro g hg
      simp only [List.map_cons, List.mem_cons, not_or] at hg
      have hgf : g ≠ f := fun hgf => hg.1 (hgf ▸ hp)
      rw [h.kept g hg.2, put_of_ne slots a hgf]

/-- Among the keys, the name of a field comes twice. -/
def Repeats (s : Schema ρ) (keys : List String) : Prop := ∃ f, 1 < keys.count (s.name f)

/-- Every key still finds the slot of its field empty, however often other keys come. -/
structure Fits (s : Schema ρ) (slots : s.Slots) (keys : List String) : Prop where
  fresh : ∀ f, (slots f).isSome → s.name f ∉ keys
  once : ∀ f, keys.count (s.name f) ≤ 1

theorem fits_noSlots_iff {keys : List String} : s.Fits s.noSlots keys ↔ ¬ s.Repeats keys := by
  constructor
  · rintro h ⟨f, hf⟩
    exact Nat.not_le_of_lt hf (h.once f)
  · intro h
    exact ⟨nofun, fun f => Nat.le_of_not_lt fun hf => h ⟨f, hf⟩⟩

theorem fits_nil (slots : s.Slots) : s.Fits slots [] := ⟨nofun, fun _ => Nat.zero_le _⟩

theorem Lawful.fits_cons_of_none (hs : s.Lawful get) {slots : s.Slots} {key : String}
    {keys : List String} (hkey : s.field? key = none) :
    s.Fits slots (key :: keys) ↔ s.Fits slots keys := by
  have hne := hs.name_ne_of_none hkey
  constructor
  · intro h
    refine ⟨fun f hf hmem => h.fresh f hf (List.mem_cons_of_mem _ hmem), fun f => ?_⟩
    rw [← List.count_cons_of_ne (hne f).symm]
    exact h.once f
  · intro h
    constructor
    · intro f hf
      rw [List.mem_cons, not_or]
      exact ⟨hne f, h.fresh f hf⟩
    · intro f
      rw [List.count_cons_of_ne (hne f).symm]
      exact h.once f

/-- The name of a field fits where its slot is empty and is not named again. -/
theorem Lawful.fits_cons_of_some (hs : s.Lawful get) {slots : s.Slots} {f : s.Field}
    (a : s.Carrier f) {key : String} {keys : List String} (hkey : s.name f = key) :
    s.Fits slots (key :: keys) ↔ slots f = none ∧ s.Fits (s.put slots f a) keys := by
  subst hkey
  constructor
  · intro h
    have hempty : slots f = none := by
      by_contra hfull
      exact h.fresh f (Option.isSome_iff_ne_none.mpr hfull) List.mem_cons_self
    have honce := h.once f
    rw [List.count_cons_self] at honce
    refine ⟨hempty, ?_, fun g => List.count_le_count_cons.trans (h.once g)⟩
    intro g hg
    by_cases hgf : g = f
    · subst hgf
      exact List.count_eq_zero.mp (by omega)
    · rw [put_of_ne slots a hgf] at hg
      exact fun hmem => h.fresh g hg (List.mem_cons_of_mem _ hmem)
  · rintro ⟨hempty, h⟩
    have habsent : s.name f ∉ keys := h.fresh f (by rw [put_self]; rfl)
    constructor
    · intro g hg
      have hgf : g ≠ f := by
        rintro rfl
        rw [hempty] at hg
        contradiction
      rw [List.mem_cons, not_or]
      refine ⟨fun hname => hgf (hs.name_injective hname), h.fresh g ?_⟩
      rwa [put_of_ne slots a hgf]
    · intro g
      by_cases hgf : g = f
      · rw [hgf, List.count_cons_self, List.count_eq_zero_of_not_mem habsent]
      · rw [List.count_cons_of_ne fun hname => hgf (hs.name_injective hname.symm)]
        exact h.once g

/-- As long as no key comes twice, a filling succeeds exactly with the slots that the values under
the names of the fields tell. -/
theorem Lawful.fill_eq_ok_iff (hs : s.Lawful get) (hkeys : (pairs.map Prod.fst).Nodup) :
    s.fill read slots pairs = .ok slots' ↔ s.Filled read slots pairs slots' := by
  induction pairs generalizing slots with
  | nil =>
    constructor
    · intro h
      obtain rfl := Except.ok.inj h
      exact ⟨nofun, fun _ _ => rfl⟩
    · intro h
      have hsame : slots' = slots := funext fun f => h.kept f List.not_mem_nil
      rw [hsame]
      rfl
  | cons p pairs ih =>
    rw [List.map_cons, List.nodup_cons] at hkeys
    cases hfield : s.field? p.1 with
    | none =>
      rw [hs.filled_cons_of_none hfield, ← ih hkeys.2]
      simp only [fill, hfield]
    | some f =>
      rw [hs.filled_cons_of_some (name_of_field? hfield) hkeys.1]
      simp only [fill, hfield]
      cases hread : read f p.2 with
      | error e => simp [bind, Except.bind]
      | ok a => simp [bind, Except.bind, ← ih hkeys.2]

/-- Slots whose values are changed, each as its field asks for. -/
def mapSlots (s : Schema ρ) (change : (f : s.Field) → s.Carrier f → s.Carrier f) (slots : s.Slots) :
    s.Slots := fun f => (slots f).map (change f)

theorem mapSlots_put {change : (f : s.Field) → s.Carrier f → s.Carrier f} (slots : s.Slots)
    (f : s.Field) (a : s.Carrier f) :
    s.mapSlots change (s.put slots f a) = s.put (s.mapSlots change slots) f (change f a) := by
  funext g
  by_cases hgf : g = f
  · subst hgf
    simp [mapSlots]
  · simp [mapSlots, put_of_ne _ _ hgf]

/-- The value is changed if it stands under the name of a field. -/
def mapNamed (s : Schema ρ) (change : s.Field → β → β) (p : String × β) : String × β :=
  match s.field? p.1 with
  | none => p
  | some f => (p.1, change f p.2)

/-- Values that are changed before they are read fill the slots as values that are changed after. -/
theorem fill_map_mapNamed {before : s.Field → β → β}
    {after : (f : s.Field) → s.Carrier f → s.Carrier f}
    (h : ∀ f v, read f (before f v) = (read f v).map (after f)) (slots : s.Slots)
    (pairs : List (String × β)) :
    s.fill read (s.mapSlots after slots) (pairs.map (s.mapNamed before)) =
      (s.fill read slots pairs).map (s.mapSlots after) := by
  -- A fault stops both fillings at the same value, so the slots so far are all that changes.
  induction pairs generalizing slots with
  | nil => rfl
  | cons p pairs ih =>
    rw [List.map_cons]
    cases hfield : s.field? p.1 with
    | none => simp only [mapNamed, fill, hfield, ih]
    | some f =>
      simp only [mapNamed, fill, hfield, h]
      cases read f p.2 with
      | error e => rfl
      | ok a =>
        show s.fill read (s.put (s.mapSlots after slots) f (after f a)) _ =
          (s.fill read (s.put slots f a) pairs).map _
        rw [← mapSlots_put, ih]

end Schema

theorem mapError_eq_ok_iff {α ε ε' : Type} {f : ε → ε'} {x : Except ε α} {a : α} :
    x.mapError f = .ok a ↔ x = .ok a := by
  cases x <;> simp [Except.mapError]

namespace Json

variable {ρ : Type} {s : Schema ρ} {get : ρ → (f : s.Field) → s.Carrier f}
  {fieldReader : (f : s.Field) → FieldReader (s.Carrier f)}

theorem fillSlots_eq_fill (slots : s.Slots) (members : Members) :
    fillSlots s fieldReader slots members = s.fill fieldReader slots members := by
  induction members generalizing slots with
  | nil => rfl
  | cons m members ih =>
    cases hfield : s.field? m.1 <;> simp only [fillSlots, Schema.fill, hfield, ih]

/-- An object with distinct keys is read as the record that its members tell. -/
theorem recordField_object_eq_ok_iff (hs : s.Lawful get) {members : Members}
    (hkeys : (members.map Prod.fst).Nodup) {r : ρ} :
    recordField s fieldReader (object members) = .ok r ↔
      ∃ slots, s.Filled fieldReader s.noSlots members slots ∧
        s.finish s.missingField slots = .ok r := by
  simp only [recordField, fillSlots_eq_fill, ← hs.fill_eq_ok_iff hkeys]
  cases hfill : s.fill fieldReader s.noSlots members with
  | error e => simp [bind, Except.bind]
  | ok slots => simp [bind, Except.bind]

/-- A field of a record is read from its member, if the object has one. -/
theorem take_of_recordField (hs : s.Lawful get) {members : Members}
    (hkeys : (members.map Prod.fst).Nodup) {r : ρ} {f : s.Field} {v : Json}
    (h : recordField s fieldReader (object members) = .ok r) (hv : (s.name f, v) ∈ members) :
    fieldReader f v = .ok (get r f) := by
  obtain ⟨slots, hfilled, hfinish⟩ := (recordField_object_eq_ok_iff hs hkeys).mp h
  exact hfilled.read_of_mem hs hfinish hv

/-- A field that an object has no member for is what stands for it. -/
theorem absent_of_recordField (hs : s.Lawful get) {members : Members}
    (hkeys : (members.map Prod.fst).Nodup) {r : ρ} {f : s.Field}
    (h : recordField s fieldReader (object members) = .ok r)
    (hf : s.name f ∉ members.map Prod.fst) : s.absent f = some (get r f) := by
  obtain ⟨slots, hfilled, hfinish⟩ := (recordField_object_eq_ok_iff hs hkeys).mp h
  have hget := hs.finish_eq_ok_iff.mp hfinish f
  rwa [hfilled.kept f hf] at hget

/-- An object with distinct keys gives each field what stands under its name, or else what stands for
the field. -/
theorem recordField_object_eq_ok_iff_lookup (hs : s.Lawful get) {members : Members}
    (hkeys : (members.map Prod.fst).Nodup) {r : ρ} :
    recordField s fieldReader (object members) = .ok r ↔
      (∀ f v, members.lookup (s.name f) = some v → fieldReader f v = .ok (get r f)) ∧
        ∀ f, members.lookup (s.name f) = none → s.absent f = some (get r f) := by
  constructor
  · intro h
    refine ⟨fun f v hv => take_of_recordField hs hkeys h (mem_of_lookup_eq_some hv), ?_⟩
    intro f hnone
    apply absent_of_recordField hs hkeys h
    intro hmem
    obtain ⟨m, hm, hname⟩ := List.mem_map.mp hmem
    have hfound := lookup_eq_some_of_mem hkeys (show (s.name f, m.2) ∈ members from hname ▸ hm)
    rw [hnone] at hfound
    contradiction
  · rintro ⟨hgiven, habsent⟩
    refine (recordField_object_eq_ok_iff hs hkeys).mpr
      ⟨fun f => (members.lookup (s.name f)).map fun _ => get r f, ?_, ?_⟩
    · refine Schema.filled_of_lookup hkeys ?_ fun f hnone => Option.map_eq_none_iff.mp hnone
      intro f a hslot
      obtain ⟨v, hv, rfl⟩ := Option.map_eq_some_iff.mp hslot
      exact ⟨v, hv, hgiven f v hv⟩
    · apply hs.finish_eq_ok_iff.mpr
      intro f
      cases hv : members.lookup (s.name f) with
      | none => exact habsent f hv
      | some v => rfl

/-- The items of an array fill slots as the members of an object do that has them, in turn, under the
names of the fields. -/
theorem fillSequence_eq_fill (hs : s.Lawful get) (fields : List s.Field) (slots : s.Slots)
    (items : List Json) :
    fillSequence s fieldReader fields slots items =
      (s.fill fieldReader slots ((fields.map s.name).zip items)).map
        (·, items.drop fields.length) := by
  induction fields generalizing slots items with
  | nil => rfl
  | cons f fields ih =>
    cases items with
    | nil => rfl
    | cons v items =>
      simp only [fillSequence, List.map_cons, List.zip_cons_cons, Schema.fill, hs.field?_name]
      cases fieldReader f v with
      | error e => rfl
      | ok a => exact ih (s.put slots f a) items

/-- An array is read as the object of its items under the names of the fields, in their order, as
long as there are not too many of them. -/
theorem recordField_array_eq_ok_iff (hs : s.Lawful get) {items : List Json} {r : ρ} :
    recordField s fieldReader (array items) = .ok r ↔
      items.length ≤ s.fields.length ∧
        recordField s fieldReader (object ((s.fields.map s.name).zip items)) = .ok r := by
  simp only [recordField, fillSequence_eq_fill hs, fillSlots_eq_fill]
  -- The two name an empty slot in different words, which success does not depend on.
  cases s.fill fieldReader s.noSlots ((s.fields.map s.name).zip items) with
  | error e => simp [bind, Except.bind, Except.map]
  | ok slots =>
    show (s.finish s.tooShort slots >>= _) = _ ↔ _ ∧ s.finish s.missingField slots = _
    rw [bind_eq_ok_iff, hs.finish_eq_ok_iff, ← List.drop_eq_nil_iff, ← List.isEmpty_iff]
    constructor
    · rintro ⟨r', hr', h⟩
      split_ifs at h with hempty
      obtain rfl := Except.ok.inj h
      exact ⟨hempty, hs.finish_eq_ok_iff.mp hr'⟩
    · rintro ⟨hempty, hr⟩
      exact ⟨r, hs.finish_eq_ok_iff.mpr hr, if_pos hempty⟩

/-- The order of the members does not matter, as long as no key comes twice. -/
theorem recordField_object_perm (hs : s.Lawful get) {members members' : Members}
    (hperm : members.Perm members') (hkeys : (members.map Prod.fst).Nodup) {r : ρ}
    (h : recordField s fieldReader (object members) = .ok r) :
    recordField s fieldReader (object members') = .ok r := by
  have hkeys' : (members'.map Prod.fst).Nodup := (hperm.map Prod.fst).nodup_iff.mp hkeys
  obtain ⟨slots, hfilled, hfinish⟩ := (recordField_object_eq_ok_iff hs hkeys).mp h
  exact (recordField_object_eq_ok_iff hs hkeys').mpr ⟨slots, hfilled.perm hperm, hfinish⟩

end Json

namespace Setting

variable {ρ : Type} {s : Schema ρ} {get : ρ → (f : s.Field) → s.Carrier f}
  {fieldReader : (f : s.Field) → FieldReader (s.Carrier f)}

theorem fillSlots_eq_fill (slots : s.Slots) (entries : List (String × Setting)) :
    fillSlots s fieldReader slots entries =
      s.fill (fun f v => (fieldReader f v).mapError (.within (s.name f))) slots entries := by
  induction entries generalizing slots with
  | nil => rfl
  | cons e entries ih =>
    cases hfield : s.field? e.1 with
    | none => simp only [fillSlots, Schema.fill, hfield, ih]
    | some f => simp only [fillSlots, Schema.fill, hfield, ih, Schema.name_of_field? hfield]

/-- What a table with distinct keys fills, up to the words of a fault. -/
theorem fillSlots_eq_ok_iff (hs : s.Lawful get) {entries : List (String × Setting)}
    (hkeys : (entries.map Prod.fst).Nodup) {slots : s.Slots} :
    fillSlots s fieldReader s.noSlots entries = .ok slots ↔
      s.Filled fieldReader s.noSlots entries slots := by
  rw [fillSlots_eq_fill, hs.fill_eq_ok_iff hkeys]
  constructor
  · intro h
    refine ⟨fun e he f hname => ?_, h.kept⟩
    simpa only [mapError_eq_ok_iff] using h.given e he f hname
  · intro h
    refine ⟨fun e he f hname => ?_, h.kept⟩
    simpa only [mapError_eq_ok_iff] using h.given e he f hname

/-- A table whose entries fill slots is the record of these slots. -/
theorem recordField_of_filled (hs : s.Lawful get) {origin : Option String}
    {entries : List (String × Setting)} (hkeys : (entries.map Prod.fst).Nodup) {slots : s.Slots}
    (h : s.Filled fieldReader s.noSlots entries slots) :
    recordField s fieldReader (table origin entries) =
      s.finish (fun f => .mismatch (s.missingField f)) slots := by
  simp only [recordField, (fillSlots_eq_ok_iff hs hkeys).mpr h]
  rfl

theorem exists_filled_of_recordField (hs : s.Lawful get) {origin : Option String}
    {entries : List (String × Setting)} (hkeys : (entries.map Prod.fst).Nodup) {r : ρ}
    (h : recordField s fieldReader (table origin entries) = .ok r) :
    ∃ slots, s.Filled fieldReader s.noSlots entries slots ∧
      s.finish (fun f => SettingsFault.mismatch (s.missingField f)) slots = .ok r := by
  simp only [recordField] at h
  cases hfill : fillSlots s fieldReader s.noSlots entries with
  | error e => simp [hfill, bind, Except.bind] at h
  | ok slots =>
    rw [hfill] at h
    exact ⟨slots, (fillSlots_eq_ok_iff hs hkeys).mp hfill, h⟩

end Setting

end SessionGateway
