import SessionGateway.Client.Header

/-! Header lists that are set up from a table of names, each with a value or without. As long as no
two names of the table are the same up to case, the list holds the rows with a value in the order of
the table, and what stands under a name is what its row says. -/

namespace SessionGateway

namespace Text

theorem sameName_self (a : String) : sameName a a = true := by simp [sameName]

theorem sameName_comm (a b : String) : sameName a b = sameName b a := BEq.comm

end Text

namespace HeaderList

/-- Names, each with a value or without. -/
abbrev Table := List (String × Option String)

variable {h : HeaderList} {name : String} {value : Option String} {table : Table}

def names (h : HeaderList) : List String := h.entries.map Prod.fst

/-- The entries of a name, whatever the case of its letters. -/
def under (h : HeaderList) (name : String) : List (String × String) :=
  h.entries.filter fun e => Text.sameName e.1 name

theorem get?_eq (h : HeaderList) (name : String) :
    h.get? name = (h.under name).head?.map Prod.snd := by
  rw [get?, under, List.head?_filter]

/-- What is left without the entries of a name. -/
def without (h : HeaderList) (name : String) : HeaderList :=
  ⟨h.entries.filter fun e => !Text.sameName e.1 name⟩

/-- The entry of a row, if it has a value. -/
def rowEntry (row : String × Option String) : List (String × String) :=
  (row.2.map (row.1, ·)).toList

def setAll (h : HeaderList) (table : Table) : HeaderList :=
  table.foldl (fun h row => h.set? row.1 row.2) h

theorem setEntry_of_notMem {entries : List (String × String)} (value : String)
    (fresh : name ∉ entries.map Prod.fst) :
    setEntry name value entries = entries ++ [(name, value)] := by
  induction entries with
  | nil => rfl
  | cons e rest ih =>
    simp only [List.map_cons, List.mem_cons, not_or] at fresh
    have hne : e.1 ≠ name := fun he => fresh.1 he.symm
    simp only [setEntry, hne, ↓reduceIte, ih fresh.2, List.cons_append]

theorem entries_set?_of_notMem (fresh : name ∉ h.names) :
    (h.set? name value).entries = h.entries ++ rowEntry (name, value) := by
  cases value with
  | none => simp [set?, rowEntry]
  | some value => exact setEntry_of_notMem value fresh

theorem names_set?_subset (fresh : name ∉ h.names) :
    (h.set? name value).names ⊆ h.names ++ [name] := by
  simp only [names, entries_set?_of_notMem fresh]
  cases value <;> simp [rowEntry]

/-- Each row of the table adds its entry at the end. -/
theorem entries_setAll (distinct : (table.map Prod.fst).Nodup)
    (fresh : ∀ row ∈ table, row.1 ∉ h.names) :
    (h.setAll table).entries = h.entries ++ table.flatMap rowEntry := by
  induction table generalizing h with
  | nil => simp [setAll]
  | cons row rest ih =>
    simp only [List.map_cons, List.nodup_cons] at distinct
    have hrow : row.1 ∉ h.names := fresh row List.mem_cons_self
    have hrest : ∀ later ∈ rest, later.1 ∉ (h.set? row.1 row.2).names := by
      intro later hl hn
      rcases List.mem_append.mp (names_set?_subset hrow hn) with hn | hn
      · exact fresh later (List.mem_cons_of_mem row hl) hn
      · have he := List.mem_singleton.mp hn
        exact distinct.1 (he ▸ List.mem_map_of_mem hl)
    have hset : (h.set? row.1 row.2).entries = h.entries ++ rowEntry row :=
      entries_set?_of_notMem hrow
    have := ih distinct.2 hrest
    simp only [setAll] at this
    rw [setAll, List.foldl_cons, this, hset, List.flatMap_cons, List.append_assoc]

theorem entries_setAll_empty (distinct : (table.map Prod.fst).Nodup) :
    (empty.setAll table).entries = table.flatMap rowEntry := by
  simpa [empty] using entries_setAll (h := empty) distinct (by simp [names, empty])

theorem filter_rowEntry (p : String → Bool) (row : String × Option String) :
    (rowEntry row).filter (fun e => p e.1) = if p row.1 then rowEntry row else [] := by
  rcases row with ⟨name, _ | value⟩ <;> cases hp : p name <;> simp [rowEntry, hp]

/-- Choosing entries by their names is choosing rows by their names. -/
theorem filter_flatMap_rowEntry (p : String → Bool) (table : Table) :
    (table.flatMap rowEntry).filter (fun e => p e.1) =
      (table.filter fun row => p row.1).flatMap rowEntry := by
  induction table with
  | nil => rfl
  | cons row rest ih =>
    rw [List.flatMap_cons, List.filter_append, filter_rowEntry, ih, List.filter_cons]
    cases p row.1 <;> simp

theorem all_flatMap_rowEntry (p : String → Bool) (table : Table) :
    (table.flatMap rowEntry).all (fun e => p e.2) = table.all fun row => row.2.toList.all p := by
  rw [List.all_flatMap]
  congr 1
  funext ⟨name, value⟩
  cases value <;> simp [rowEntry]

/-- A table gives no name but its own, and each where it stands. -/
theorem names_flatMap_rowEntry (table : Table) :
    ((table.flatMap rowEntry).map Prod.fst).Sublist (table.map Prod.fst) := by
  induction table with
  | nil => exact List.Sublist.refl _
  | cons row rest ih =>
    obtain ⟨name, _ | value⟩ := row
    · exact ih.cons name
    · exact ih.cons_cons name

/-- Of names that differ up to case, a name picks its own row. -/
theorem filter_sameName_of_mem
    (distinct : (table.map Prod.fst).Pairwise fun a b => Text.sameName a b = false)
    (hmem : (name, value) ∈ table) :
    (table.filter fun row => Text.sameName row.1 name) = [(name, value)] := by
  induction table with
  | nil => simp at hmem
  | cons row rest ih =>
    simp only [List.map_cons, List.pairwise_cons] at distinct
    have hother : ∀ later ∈ rest, Text.sameName row.1 later.1 = false := fun later hl =>
      distinct.1 later.1 (List.mem_map_of_mem hl)
    rcases List.mem_cons.mp hmem with rfl | hrest
    · have hnone : (rest.filter fun row => Text.sameName row.1 name) = [] := by
        rw [List.filter_eq_nil_iff]
        intro later hl
        rw [Text.sameName_comm, hother later hl]
        decide
      simp [Text.sameName_self, hnone]
    · rw [List.filter_cons, hother _ hrest]
      simpa using ih distinct.2 hrest

end HeaderList

end SessionGateway
