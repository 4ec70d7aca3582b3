import Mathlib.Data.Finset.Card
import Mathlib.Data.List.Induction
import Mathlib.Data.List.Nodup
import SessionGateway.Proofs.HeaderList

/-! Header lists that are made by setting one header after another. Every spelling of a name has an
entry of its own, and of these the one that was set first answers for all: a header is replaced by
setting it again in that spelling, and in no other. The list holds each name where it was set first,
with the value that it was given last. -/

namespace SessionGateway.HeaderList

variable {n m : String}

/-- The stored name that a name is looked up under. -/
def spelling? (h : HeaderList) (name : String) : Option String :=
  h.names.find? (Text.sameName · name)

/-- Looking up a name that begins a list, or the list behind it. -/
theorem get?_cons (e : String × String) (rest : List (String × String)) (m : String) :
    get? ⟨e :: rest⟩ m = if Text.sameName e.1 m then some e.2 else get? ⟨rest⟩ m := by
  simp only [get?, List.find?_cons]
  split <;> simp_all

theorem get?_setEntry_of_ne {entries : List (String × String)} (v : String)
    (hne : Text.sameName n m = false) :
    get? ⟨setEntry n v entries⟩ m = get? ⟨entries⟩ m := by
  induction entries with
  | nil => simp [setEntry, get?, hne]
  | cons e rest ih =>
    by_cases hname : e.1 = n
    · simp [setEntry, hname, get?_cons, hne]
    · simp [setEntry, hname, get?_cons, ih]

/-- The first entry of a name answers. It changes only if it has that very spelling. -/
theorem get?_setEntry_of_same {entries : List (String × String)} (v : String)
    (hsame : Text.sameName n m = true) :
    get? ⟨setEntry n v entries⟩ m =
      if ∀ s ∈ spelling? ⟨entries⟩ n, s = n then some v else get? ⟨entries⟩ m := by
  have hname (a : String) : Text.sameName a m = Text.sameName a n := by
    have hfold : Text.foldAscii n = Text.foldAscii m := by simpa [Text.sameName] using hsame
    rw [Text.sameName, Text.sameName, hfold]
  induction entries with
  | nil => simp [setEntry, get?, spelling?, names, hsame]
  | cons e rest ih =>
    by_cases hself : e.1 = n
    · simp [setEntry, get?_cons, spelling?, names, hself, hsame, Text.sameName_self]
    · cases hother : Text.sameName e.1 n with
      | true =>
        simp [setEntry, get?_cons, spelling?, names, hself, hname, hother]
      | false =>
        have hspelling : spelling? ⟨e :: rest⟩ n = spelling? ⟨rest⟩ n := by
          simp [spelling?, names, hother]
        rw [hspelling]
        simp only [setEntry, hself, if_false, get?_cons, hname, hother, Bool.false_eq_true]
        exact ih

/-- Setting a header shows under every spelling of its name if the name is new or is stored in the
spelling that is set. Otherwise nothing shows. -/
theorem get?_set (h : HeaderList) (n v m : String) :
    (h.set n v).get? m =
      if Text.sameName n m ∧ ∀ s ∈ h.spelling? n, s = n then some v else h.get? m := by
  cases hsame : Text.sameName n m with
  | true =>
    simp only [true_and]
    exact get?_setEntry_of_same v hsame
  | false =>
    simp only [Bool.false_eq_true, false_and, if_false]
    exact get?_setEntry_of_ne v hsame

theorem map_fst_setEntry (n v : String) (entries : List (String × String)) :
    (setEntry n v entries).map Prod.fst =
      if n ∈ entries.map Prod.fst then entries.map Prod.fst else entries.map Prod.fst ++ [n] := by
  induction entries with
  | nil => simp [setEntry]
  | cons e rest ih =>
    by_cases hname : e.1 = n
    · simp [setEntry, hname]
    · simp only [setEntry, hname, if_false, List.map_cons, ih, List.mem_cons, Ne.symm hname,
        false_or]
      split <;> rfl

theorem names_set (h : HeaderList) (n v : String) :
    (h.set n v).names = if n ∈ h.names then h.names else h.names ++ [n] :=
  map_fst_setEntry n v h.entries

theorem ofPairs_concat (pairs : List (String × String)) (p : String × String) :
    ofPairs (pairs ++ [p]) = (ofPairs pairs).set p.1 p.2 := by
  rw [ofPairs, List.foldl_append]
  rfl

theorem mem_names_ofPairs {pairs : List (String × String)} {a : String} :
    a ∈ (ofPairs pairs).names ↔ a ∈ pairs.map Prod.fst := by
  induction pairs using List.reverseRecOn with
  | nil => rfl
  | append_singleton pairs p ih =>
    rw [ofPairs_concat, names_set, List.map_append, List.mem_append, ← ih]
    split
    next hp =>
      refine ⟨.inl, fun ha => ha.elim id fun ha => ?_⟩
      obtain rfl := List.mem_singleton.mp ha
      exact hp
    next => rw [List.mem_append]; rfl

/-- No name is stored twice in the same spelling. -/
theorem nodup_names_ofPairs (pairs : List (String × String)) : (ofPairs pairs).names.Nodup := by
  induction pairs using List.reverseRecOn with
  | nil => exact .nil
  | append_singleton pairs p ih =>
    rw [ofPairs_concat, names_set]
    split
    next => exact ih
    next hp =>
      rw [← List.concat_eq_append]
      exact ih.concat hp

/-- A name is looked up under the spelling that was set first. -/
theorem spelling?_ofPairs (pairs : List (String × String)) (n : String) :
    (ofPairs pairs).spelling? n = (pairs.map Prod.fst).find? (Text.sameName · n) := by
  induction pairs using List.reverseRecOn with
  | nil => rfl
  | append_singleton pairs p ih =>
    rw [spelling?, ofPairs_concat, names_set, List.map_append, List.find?_append, ← ih]
    split
    next hp =>
      cases hsame : Text.sameName p.1 n with
      | false => simp [spelling?, hsame]
      | true =>
        have hsome : ((ofPairs pairs).names.find? (Text.sameName · n)).isSome :=
          List.find?_isSome.mpr ⟨p.1, hp, hsame⟩
        rw [spelling?, Option.or_of_isSome hsome]
    next => rw [List.find?_append]; rfl

/-- After any settings, setting a header once more replaces it for all lookups of its name just if
the name was first set in that spelling, or never before, and it shows under no other name. Stored
names are never the same, and differ in more than case just if no name was set in two spellings. -/
theorem set_replaces_spelling (pairs : List (String × String)) (n v : String) :
    let h := ofPairs pairs
    let first := (pairs.map Prod.fst).find? (Text.sameName · n)
    let used := (pairs ++ [(n, v)]).map Prod.fst
    (∀ m, (h.set n v).get? m =
      if Text.sameName n m ∧ ∀ s ∈ first, s = n then some v else h.get? m) ∧
    (h.set n v).names.Nodup ∧
    ((h.set n v).names.Pairwise (fun a b => Text.sameName a b = false) ↔
      ∀ a ∈ used, ∀ b ∈ used, Text.sameName a b = true → a = b) := by
  intro h first used
  have hstored : h.set n v = ofPairs (pairs ++ [(n, v)]) := (ofPairs_concat pairs (n, v)).symm
  have hnodup : (h.set n v).names.Nodup := hstored ▸ nodup_names_ofPairs _
  have hmem (a : String) : a ∈ (h.set n v).names ↔ a ∈ used := by
    rw [hstored]
    exact mem_names_ofPairs
  refine ⟨fun m => ?_, hnodup, ?_⟩
  · rw [get?_set, spelling?_ofPairs]
  · have hfold : (h.set n v).names.Pairwise (fun a b => Text.sameName a b = false) ↔
        ((h.set n v).names.map Text.foldAscii).Nodup := by
      rw [List.Nodup, List.pairwise_map]
      simp [Text.sameName]
    rw [hfold, List.nodup_map_iff_inj_on hnodup]
    simp [hmem, Text.sameName]

/-- A token that is set again in another spelling is added and never found. -/
theorem set_respelled :
    let h := ofPairs [("authorization", "Bearer a")]
    (h.set "Authorization" "Bearer b").get? "Authorization" = some "Bearer a" ∧
      (h.set "Authorization" "Bearer b").names = ["authorization", "Authorization"] ∧
      Text.sameName "authorization" "Authorization" = true := by
  decide +kernel

/-! What remains of a history: where a name is set first, and what it is given last. -/

/-- The value that a name is given last. -/
def lastValue? (pairs : List (String × String)) (name : String) : Option String :=
  pairs.reverse.lookup name

theorem lastValue?_concat (pairs : List (String × String)) (p : String × String) (name : String) :
    lastValue? (pairs ++ [p]) name = if name = p.1 then some p.2 else lastValue? pairs name := by
  rw [lastValue?, lastValue?, List.reverse_concat, List.lookup_cons]
  split
  next hself => rw [if_pos (eq_of_beq hself)]
  next hother => rw [if_neg (ne_of_beq_false hother)]

/-- A name that is stored once is replaced, and the other names keep their entries. -/
theorem mem_setEntry {entries : List (String × String)} {v : String} {e : String × String}
    (hnodup : (entries.map Prod.fst).Nodup) :
    e ∈ setEntry n v entries ↔ e = (n, v) ∨ e ∈ entries ∧ e.1 ≠ n := by
  induction entries with
  | nil => simp [setEntry]
  | cons first rest ih =>
    rw [List.map_cons, List.nodup_cons] at hnodup
    by_cases hname : first.1 = n
    · have hrest : e ∈ rest → e.1 ≠ n := fun he heq =>
        hnodup.1 (List.mem_map.mpr ⟨e, he, heq.trans hname.symm⟩)
      rw [setEntry, if_pos hname, List.mem_cons, List.mem_cons]
      constructor
      · rintro (rfl | he)
        · exact .inl (hname ▸ rfl)
        · exact .inr ⟨.inr he, hrest he⟩
      · rintro (rfl | ⟨rfl | he, hne⟩)
        · exact .inl (hname ▸ rfl)
        · exact absurd hname hne
        · exact .inr he
    · rw [setEntry, if_neg hname, List.mem_cons, List.mem_cons, ih hnodup.2]
      constructor
      · rintro (rfl | rfl | ⟨he, hne⟩)
        · exact .inr ⟨.inl rfl, hname⟩
        · exact .inl rfl
        · exact .inr ⟨.inr he, hne⟩
      · rintro (rfl | ⟨rfl | he, hne⟩)
        · exact .inr (.inl rfl)
        · exact .inl rfl
        · exact .inr (.inr ⟨he, hne⟩)

/-- Each name stands with the value that it is given last. -/
theorem mem_entries_ofPairs {pairs : List (String × String)} {e : String × String} :
    e ∈ (ofPairs pairs).entries ↔ lastValue? pairs e.1 = some e.2 := by
  induction pairs using List.reverseRecOn with
  | nil => simp [ofPairs, empty, lastValue?]
  | append_singleton pairs p ih =>
    rw [ofPairs_concat, set, mem_setEntry (nodup_names_ofPairs pairs), ih, lastValue?_concat]
    split
    next hname =>
      simp [Prod.ext_iff, hname, eq_comm]
    next hname =>
      have hne : e ≠ p := fun h => hname (congrArg Prod.fst h)
      simp [hname, hne]

/-- The names stand in the order in which they are set first. -/
theorem names_ofPairs (pairs : List (String × String)) :
    (ofPairs pairs).names = (pairs.map Prod.fst).eraseDups := by
  induction pairs using List.reverseRecOn with
  | nil => rfl
  | append_singleton pairs p ih =>
    rw [ofPairs_concat, names_set, List.map_append, List.eraseDups_append, ← ih]
    have hmem : p.1 ∈ (ofPairs pairs).names ↔ p.1 ∈ pairs.map Prod.fst := mem_names_ofPairs
    split
    next hp =>
      have hnone : [p.1].removeAll (pairs.map Prod.fst) = [] := by
        simp [List.removeAll, hmem.mp hp]
      rw [List.map_singleton, hnone, List.eraseDups_nil, List.append_nil]
    next hp =>
      have hfresh : p.1 ∉ pairs.map Prod.fst := mt hmem.mpr hp
      have hadded : [p.1].removeAll (pairs.map Prod.fst) = [p.1] := by
        simp [List.removeAll, hfresh]
      rw [List.map_singleton, hadded]
      rfl

/-- The entries follow from the order of the names and from what each is given last. -/
theorem entries_ofPairs (pairs : List (String × String)) :
    (ofPairs pairs).entries.map (fun e => (e.1, some e.2)) =
      (pairs.map Prod.fst).eraseDups.map fun n => (n, lastValue? pairs n) := by
  rw [← names_ofPairs, names, List.map_map]
  refine List.map_congr_left fun e he => ?_
  rw [Function.comp_apply, mem_entries_ofPairs.mp he]

/-- Of the spellings of a name, the one that is set first answers, with the value it is given
last. -/
theorem get?_ofPairs (pairs : List (String × String)) (m : String) :
    (ofPairs pairs).get? m =
      ((pairs.map Prod.fst).find? (Text.sameName · m)).bind (lastValue? pairs) := by
  have hfound : (ofPairs pairs).spelling? m =
      ((ofPairs pairs).entries.find? fun e => Text.sameName e.1 m).map Prod.fst := List.find?_map ..
  rw [← spelling?_ofPairs, hfound, get?]
  cases hfind : (ofPairs pairs).entries.find? fun e => Text.sameName e.1 m with
  | none => rfl
  | some e => exact (mem_entries_ofPairs.mp (List.mem_of_find?_eq_some hfind)).symm

theorem get?_eq_none_iff {h : HeaderList} :
    h.get? m = none ↔ ∀ n ∈ h.names, Text.sameName n m = false := by
  simp [get?, names]

theorem ofPairs_eq_iff {pairs others : List (String × String)} :
    ofPairs pairs = ofPairs others ↔
      (pairs.map Prod.fst).eraseDups = (others.map Prod.fst).eraseDups ∧
        ∀ n ∈ pairs.map Prod.fst, lastValue? pairs n = lastValue? others n := by
  have hpaired : Function.Injective fun e : String × String => (e.1, some e.2) := by
    rintro ⟨a, v⟩ ⟨b, w⟩ h
    simpa using h
  have hentries : ofPairs pairs = ofPairs others ↔
      (ofPairs pairs).entries.map (fun e => (e.1, some e.2)) =
        (ofPairs others).entries.map (fun e => (e.1, some e.2)) := by
    rw [hpaired.list_map.eq_iff]
    exact ⟨congrArg entries, congrArg mk⟩
  rw [hentries, entries_ofPairs, entries_ofPairs]
  constructor
  · intro h
    have hnames : (pairs.map Prod.fst).eraseDups = (others.map Prod.fst).eraseDups := by
      simpa [Function.comp_def] using congrArg (List.map Prod.fst) h
    rw [← hnames] at h
    refine ⟨hnames, fun n hn => ?_⟩
    exact congrArg Prod.snd (List.map_inj_left.mp h n (List.mem_eraseDups.mpr hn))
  · rintro ⟨hnames, hvalues⟩
    rw [← hnames]
    refine List.map_congr_left fun n hn => ?_
    rw [hvalues n (List.mem_eraseDups.mp hn)]

/-- A list holds what its history of settings says and nothing else: each name once, where it is set
first and with what it is given last. A name is answered for by the spelling of it that is set
first. Two histories make the same list just if they have the same names, in the same order of first
settings, and give them the same last values. -/
theorem contents_ofPairs (pairs others : List (String × String)) :
    let h := ofPairs pairs
    let given := pairs.map Prod.fst
    h.names.Nodup ∧
    h.entries.map (fun e => (e.1, some e.2)) =
      given.eraseDups.map (fun n => (n, lastValue? pairs n)) ∧
    h.size = given.toFinset.card ∧
    (h.isEmpty = true ↔ pairs = []) ∧
    (∀ m, h.get? m = (given.find? (Text.sameName · m)).bind (lastValue? pairs)) ∧
    (∀ m, h.get? m = none ↔ ∀ n ∈ given, Text.sameName n m = false) ∧
    (∀ m, h.contains m = (h.get? m).isSome) ∧
    (h = ofPairs others ↔ given.eraseDups = (others.map Prod.fst).eraseDups ∧
      ∀ n ∈ given, lastValue? pairs n = lastValue? others n) := by
  intro h given
  have hmem (a : String) : a ∈ h.names ↔ a ∈ given := mem_names_ofPairs
  refine ⟨nodup_names_ofPairs pairs, entries_ofPairs pairs, ?_, ?_, get?_ofPairs pairs, ?_, ?_,
    ofPairs_eq_iff⟩
  · have hset : given.toFinset = h.names.toFinset := by
      ext a
      rw [List.mem_toFinset, List.mem_toFinset, hmem]
    rw [hset, List.toFinset_card_of_nodup (nodup_names_ofPairs pairs)]
    exact (List.length_map ..).symm
  · have hnames : h.entries = [] ↔ h.names = [] := List.map_eq_nil_iff.symm
    have hgiven : h.names = [] ↔ given = [] := by
      simp only [List.eq_nil_iff_forall_not_mem, hmem]
    rw [isEmpty, List.isEmpty_iff, hnames, hgiven, List.map_eq_nil_iff]
  · intro m
    rw [get?_eq_none_iff]
    exact forall_congr' fun n => imp_congr (hmem n) Iff.rfl
  · intro m
    rfl

end SessionGateway.HeaderList
