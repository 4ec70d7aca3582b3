import Mathlib.Data.List.Nodup
import Mathlib.Data.String.Basic
import SessionGateway.Json.Value

/-! Members of an object that are put in one after the other. As long as no key comes twice, the
object has the same members in another order. -/

namespace SessionGateway.Members

theorem insert_perm {key : String} {members : Members} (value : Json)
    (fresh : key ∉ members.map Prod.fst) :
    (members.insert key value).Perm ((key, value) :: members) := by
  induction members with
  | nil => exact .refl _
  | cons m rest ih =>
    obtain ⟨k, v⟩ := m
    simp only [List.map_cons, List.mem_cons, not_or] at fresh
    obtain ⟨hne, hrest⟩ := fresh
    simp only [insert, hne, ↓reduceIte]
    split
    · exact .refl _
    · exact ((ih hrest).cons (k, v)).trans (.swap (key, value) (k, v) rest)

theorem foldl_insert_perm (pairs members : Members)
    (distinct : ((pairs ++ members).map Prod.fst).Nodup) :
    (pairs.foldl (fun members p => insert p.1 p.2 members) members).Perm (pairs ++ members) := by
  induction pairs generalizing members with
  | nil => exact .refl _
  | cons p rest ih =>
    have hfresh : p.1 ∉ members.map Prod.fst := by
      simp only [List.cons_append, List.map_cons, List.map_append, List.nodup_cons,
        List.mem_append, not_or] at distinct
      exact distinct.1.2
    have hinsert : (rest ++ insert p.1 p.2 members).Perm (p :: rest ++ members) :=
      ((insert_perm p.2 hfresh).append_left rest).trans List.perm_middle
    have hdistinct : ((rest ++ insert p.1 p.2 members).map Prod.fst).Nodup :=
      (hinsert.map Prod.fst).nodup_iff.mpr distinct
    exact (ih _ hdistinct).trans hinsert

theorem ofPairs_perm {pairs : List (String × Json)} (distinct : (pairs.map Prod.fst).Nodup) :
    (ofPairs pairs).Perm pairs := by
  simpa [ofPairs] using foldl_insert_perm pairs [] (by simpa using distinct)

/-- A key behind all the others goes to the end. -/
theorem insert_of_forall_lt {key : String} {members : Members} (value : Json)
    (h : ∀ m ∈ members, m.1 < key) : members.insert key value = members ++ [(key, value)] := by
  induction members with
  | nil => rfl
  | cons m rest ih =>
    have hlt : m.1 < key := h m List.mem_cons_self
    have hnot : ¬ key < m.1 := String.lt_asymm hlt
    have hne : key ≠ m.1 := fun he => String.lt_irrefl key (he ▸ hlt)
    simp only [insert, hnot, hne, ↓reduceIte, List.cons_append,
      ih fun m hm => h m (List.mem_cons_of_mem _ hm)]

/-- Members that come in the order of their keys stay as they come. -/
theorem ofPairs_of_pairwise {pairs : List (String × Json)}
    (h : pairs.Pairwise fun a b => a.1 < b.1) : ofPairs pairs = pairs := by
  suffices hfold : ∀ rest done : Members, (done ++ rest).Pairwise (fun a b => a.1 < b.1) →
      rest.foldl (fun members p => insert p.1 p.2 members) done = done ++ rest by
    simpa [ofPairs] using hfold pairs [] h
  intro rest
  induction rest with
  | nil => simp
  | cons p rest ih =>
    intro done hdone
    have hlast : ∀ m ∈ done, m.1 < p.1 := fun m hm =>
      (List.pairwise_append.mp hdone).2.2 m hm p List.mem_cons_self
    rw [List.foldl_cons, insert_of_forall_lt p.2 hlast]
    have := ih (done ++ [p]) (by simpa using hdone)
    simpa using this

theorem mem_of_mem_insert {key : String} {value : Json} {members : Members} {m : String × Json}
    (h : m ∈ members.insert key value) : m = (key, value) ∨ m ∈ members := by
  induction members with
  | nil => exact .inl (List.mem_singleton.mp h)
  | cons n rest ih =>
    simp only [insert] at h
    split_ifs at h
    · exact List.mem_cons.mp h
    · rcases List.mem_cons.mp h with rfl | h
      · exact .inl rfl
      · exact .inr (List.mem_cons_of_mem n h)
    · rcases List.mem_cons.mp h with rfl | h
      · exact .inr List.mem_cons_self
      · exact (ih h).imp_right (List.mem_cons_of_mem n)

theorem mem_keys_insert {key k : String} {value : Json} {members : Members} :
    k ∈ (members.insert key value).map Prod.fst ↔ k = key ∨ k ∈ members.map Prod.fst := by
  induction members with
  | nil => simp [insert]
  | cons n rest ih =>
    simp only [insert]
    split_ifs with hlt heq
    · simp
    · simp [heq]
    · rw [List.map_cons, List.mem_cons, ih, List.map_cons, List.mem_cons]
      exact or_left_comm

/-- What is put in goes to its place in the order of the keys. -/
theorem pairwise_insert {key : String} (value : Json) {members : Members}
    (h : members.Pairwise fun a b => a.1 < b.1) :
    (members.insert key value).Pairwise fun a b => a.1 < b.1 := by
  induction members with
  | nil => exact List.pairwise_singleton _ _
  | cons n rest ih =>
    obtain ⟨hfirst, hrest⟩ := List.pairwise_cons.mp h
    simp only [insert]
    split_ifs with hlt heq
    · refine List.pairwise_cons.mpr ⟨?_, h⟩
      intro m hm
      rcases List.mem_cons.mp hm with rfl | hm
      · exact hlt
      · exact String.lt_trans hlt (hfirst m hm)
    · exact List.pairwise_cons.mpr ⟨heq ▸ hfirst, hrest⟩
    · refine List.pairwise_cons.mpr ⟨?_, ih hrest⟩
      intro m hm
      rcases mem_of_mem_insert hm with rfl | hm
      · exact lt_of_le_of_ne (not_lt.mp hlt) (Ne.symm heq)
      · exact hfirst m hm

/-- What holds of the empty object and is kept by every member put in holds of all of them. -/
theorem ofPairs_induction {P : Members → Prop} (hnil : P []) (pairs : List (String × Json))
    (hinsert : ∀ p ∈ pairs, ∀ members, P members → P (insert p.1 p.2 members)) :
    P (ofPairs pairs) :=
  List.foldlRecOn pairs _ hnil fun members h p hp => hinsert p hp members h

theorem mem_of_mem_ofPairs {pairs : List (String × Json)} {m : String × Json}
    (h : m ∈ ofPairs pairs) : m ∈ pairs := by
  revert h
  refine ofPairs_induction (P := fun members => m ∈ members → m ∈ pairs) nofun pairs ?_
  intro p hp members ih h
  rcases mem_of_mem_insert h with rfl | h
  · exact hp
  · exact ih h

theorem pairwise_ofPairs (pairs : List (String × Json)) :
    (ofPairs pairs).Pairwise fun a b => a.1 < b.1 :=
  ofPairs_induction .nil pairs fun p _ _ h => pairwise_insert p.2 h

theorem nodup_keys_ofPairs (pairs : List (String × Json)) :
    ((ofPairs pairs).map Prod.fst).Nodup :=
  List.pairwise_map.mpr ((pairwise_ofPairs pairs).imp ne_of_lt)

theorem mem_keys_ofPairs {pairs : List (String × Json)} {k : String} :
    k ∈ (ofPairs pairs).map Prod.fst ↔ k ∈ pairs.map Prod.fst := by
  suffices hfold : ∀ members : Members,
      k ∈ (pairs.foldl (fun members p => insert p.1 p.2 members) members).map Prod.fst ↔
        k ∈ pairs.map Prod.fst ∨ k ∈ members.map Prod.fst by
    simpa [ofPairs] using hfold []
  induction pairs with
  | nil => simp
  | cons p rest ih =>
    intro members
    rw [List.foldl_cons, ih, mem_keys_insert, List.map_cons, List.mem_cons, or_assoc,
      or_left_comm]

theorem mem_insert_iff {key : String} {value : Json} {members : Members} {m : String × Json}
    (h : members.Pairwise fun a b => a.1 < b.1) :
    m ∈ members.insert key value ↔ m = (key, value) ∨ m ∈ members ∧ m.1 ≠ key := by
  induction members with
  | nil => simp [insert]
  | cons n rest ih =>
    obtain ⟨hfirst, hrest⟩ := List.pairwise_cons.mp h
    have hbehind {k : String} (hk : k ≤ n.1) : ∀ m ∈ rest, m.1 ≠ k := fun m hm =>
      (lt_of_le_of_lt hk (hfirst m hm)).ne'
    simp only [insert]
    split_ifs with hlt heq
    · have hne : m ∈ n :: rest → m.1 ≠ key := by
        intro hm
        rcases List.mem_cons.mp hm with rfl | hm
        · exact hlt.ne'
        · exact hbehind hlt.le m hm
      rw [List.mem_cons, and_iff_left_of_imp hne]
    · have hne : m ∈ rest → m.1 ≠ key := hbehind heq.le m
      rw [List.mem_cons, List.mem_cons, or_and_right, and_iff_left_of_imp hne]
      have hn : ¬ (m = n ∧ m.1 ≠ key) := by
        rintro ⟨rfl, hkey⟩
        exact hkey heq.symm
      rw [or_iff_right hn]
    · have hn : m = n → m.1 ≠ key := by
        rintro rfl
        exact Ne.symm heq
      rw [List.mem_cons, ih hrest, List.mem_cons, or_and_right, and_iff_left_of_imp hn,
        or_left_comm]

/-- The pairs without those whose key comes again behind them. -/
def latest : List (String × Json) → List (String × Json)
  | [] => []
  | p :: rest => if p.1 ∈ rest.map Prod.fst then latest rest else p :: latest rest

theorem latest_sublist (pairs : List (String × Json)) : (latest pairs).Sublist pairs := by
  induction pairs with
  | nil => exact .slnil
  | cons p rest ih =>
    simp only [latest]
    split_ifs
    · exact ih.cons p
    · exact ih.cons_cons p

theorem nodup_keys_latest (pairs : List (String × Json)) :
    ((latest pairs).map Prod.fst).Nodup := by
  induction pairs with
  | nil => exact .nil
  | cons p rest ih =>
    simp only [latest]
    split_ifs with hkey
    · exact ih
    · exact List.nodup_cons.mpr ⟨fun h => hkey (((latest_sublist rest).map _).subset h), ih⟩

/-- A pair whose key comes once is a latest one. -/
theorem mem_latest_of_count_le_one {pairs : List (String × Json)} {m : String × Json}
    (hm : m ∈ pairs) (honce : (pairs.map Prod.fst).count m.1 ≤ 1) : m ∈ latest pairs := by
  induction pairs with
  | nil => exact hm
  | cons p rest ih =>
    rw [List.map_cons] at honce
    simp only [latest]
    rcases List.mem_cons.mp hm with rfl | hm
    · rw [List.count_cons_self] at honce
      rw [if_neg (List.count_eq_zero.mp (by omega))]
      exact List.mem_cons_self
    · have hrest := ih hm (List.count_le_count_cons.trans honce)
      split_ifs
      · exact hrest
      · exact List.mem_cons_of_mem p hrest

theorem mem_foldl_insert_iff {pairs members : Members} {m : String × Json}
    (h : members.Pairwise fun a b => a.1 < b.1) :
    m ∈ pairs.foldl (fun members p => insert p.1 p.2 members) members ↔
      m ∈ latest pairs ∨ m ∈ members ∧ m.1 ∉ pairs.map Prod.fst := by
  induction pairs generalizing members with
  | nil => simp [latest]
  | cons p rest ih =>
    have hp : m = (p.1, p.2) ↔ m = p := Iff.rfl
    rw [List.foldl_cons, ih (pairwise_insert p.2 h), mem_insert_iff h, hp, List.map_cons,
      List.mem_cons, not_or]
    simp only [latest]
    split_ifs with hkey
    · constructor
      · rintro (hlatest | ⟨rfl | ⟨hold, hne⟩, hm⟩)
        · exact .inl hlatest
        · exact absurd hkey hm
        · exact .inr ⟨hold, hne, hm⟩
      · rintro (hlatest | ⟨hold, hne, hm⟩)
        · exact .inl hlatest
        · exact .inr ⟨.inr ⟨hold, hne⟩, hm⟩
    · constructor
      · rintro (hlatest | ⟨rfl | ⟨hold, hne⟩, hm⟩)
        · exact .inl (List.mem_cons_of_mem p hlatest)
        · exact .inl List.mem_cons_self
        · exact .inr ⟨hold, hne, hm⟩
      · rintro (hlatest | ⟨hold, hne, hm⟩)
        · rcases List.mem_cons.mp hlatest with rfl | hlatest
          · exact .inr ⟨.inl rfl, hkey⟩
          · exact .inl hlatest
        · exact .inr ⟨.inr ⟨hold, hne⟩, hm⟩

/-- An object has the latest of the pairs that it is made of. -/
theorem mem_ofPairs_iff {pairs : List (String × Json)} {m : String × Json} :
    m ∈ ofPairs pairs ↔ m ∈ latest pairs := by
  rw [ofPairs, mem_foldl_insert_iff .nil]
  simp

theorem ofPairs_latest (pairs : List (String × Json)) : ofPairs (latest pairs) = ofPairs pairs := by
  have hperm : (ofPairs (latest pairs)).Perm (ofPairs pairs) := by
    refine (ofPairs_perm (nodup_keys_latest pairs)).trans ?_
    apply (List.perm_ext_iff_of_nodup (List.Nodup.of_map _ (nodup_keys_latest pairs))
      (List.Nodup.of_map _ (nodup_keys_ofPairs pairs))).mpr
    intro m
    exact mem_ofPairs_iff.symm
  exact hperm.eq_of_pairwise (fun a b _ _ hab hba => absurd hab hba.asymm)
    (pairwise_ofPairs _) (pairwise_ofPairs _)

end SessionGateway.Members
