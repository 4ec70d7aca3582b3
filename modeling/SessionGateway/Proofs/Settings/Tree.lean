import SessionGateway.Settings.Path

/-! The parts of layered settings that two keys lead to, and what putting values into the settings
does to them. -/

namespace SessionGateway.Setting

variable {key k : String} {fresh s : Setting} {f : Setting → Setting}

/-- The part under a key. -/
def child? (key : String) (s : Setting) : Option Setting := s.entries.lookup key

/-- The part under a name below a home. -/
def at? (home name : String) (s : Setting) : Option Setting := (s.child? home).bind (child? name)

/-! ## Changing one key -/

theorem lookup_changeEntry_self (key : String) (fresh : Setting) (f : Setting → Setting)
    (entries : List (String × Setting)) :
    (changeEntry key fresh f entries).lookup key = some (f ((entries.lookup key).getD fresh)) := by
  induction entries with
  | nil => simp [changeEntry]
  | cons e rest ih =>
    obtain ⟨k, v⟩ := e
    by_cases hk : k = key
    · simp [changeEntry, hk]
    · have hne : (key == k) = false := beq_false_of_ne (Ne.symm hk)
      simp only [changeEntry, hk, if_false, List.lookup_cons, hne, ih]

theorem lookup_changeEntry_of_ne (hk : k ≠ key) (entries : List (String × Setting)) :
    (changeEntry key fresh f entries).lookup k = entries.lookup k := by
  induction entries with
  | nil => simp [changeEntry, List.lookup_cons, beq_false_of_ne hk]
  | cons e rest ih =>
    obtain ⟨j, v⟩ := e
    by_cases hj : j = key
    · subst hj
      simp [changeEntry, List.lookup_cons, beq_false_of_ne hk]
    · simp only [changeEntry, hj, if_false, List.lookup_cons, ih]

theorem entries_changeKey (key : String) (fresh : Setting) (f : Setting → Setting) (s : Setting) :
    (changeKey key fresh f s).entries = changeEntry (Text.lowercase key) fresh f s.entries := by
  cases s <;> rfl

theorem child?_changeKey_self (key : String) (fresh : Setting) (f : Setting → Setting)
    (s : Setting) :
    (changeKey key fresh f s).child? (Text.lowercase key) =
      some (f ((s.child? (Text.lowercase key)).getD fresh)) := by
  unfold child?
  rw [entries_changeKey]
  exact lookup_changeEntry_self _ fresh f s.entries

theorem child?_changeKey_of_ne (hk : k ≠ Text.lowercase key) :
    (changeKey key fresh f s).child? k = s.child? k := by
  unfold child?
  rw [entries_changeKey]
  exact lookup_changeEntry_of_ne hk s.entries

/-! ## Keys that come once -/

/-- No key of a table comes twice. -/
def Distinct (s : Setting) : Prop := (s.entries.map Prod.fst).Nodup

theorem map_fst_changeEntry (key : String) (fresh : Setting) (f : Setting → Setting)
    (entries : List (String × Setting)) :
    (changeEntry key fresh f entries).map Prod.fst =
      if key ∈ entries.map Prod.fst then entries.map Prod.fst
      else entries.map Prod.fst ++ [key] := by
  induction entries with
  | nil => rfl
  | cons e rest ih =>
    obtain ⟨k, v⟩ := e
    by_cases hk : k = key
    · simp [changeEntry, hk]
    · have hk' : key ≠ k := Ne.symm hk
      simp only [changeEntry, hk, if_false, List.map_cons, List.mem_cons, hk', false_or, ih]
      split <;> rfl

theorem distinct_changeKey (h : s.Distinct) : (changeKey key fresh f s).Distinct := by
  unfold Distinct
  rw [entries_changeKey, map_fst_changeEntry]
  split
  · exact h
  · rename_i hmem
    apply List.nodup_append.mpr
    refine ⟨h, by simp, ?_⟩
    rintro k hk l hl rfl
    exact hmem (List.mem_singleton.mp hl ▸ hk)

theorem distinct_put (v : Setting) (h : s.Distinct) : (put key v s).Distinct := by
  cases v <;> exact distinct_changeKey h

theorem distinct_putAll (entries : List (String × Setting)) (h : s.Distinct) :
    (putAll entries s).Distinct := by
  induction entries generalizing s with
  | nil => exact h
  | cons e rest ih => exact ih (distinct_put e.2 h)

theorem distinct_changeItem (index : Int) : (changeItem index f s).Distinct := List.nodup_nil

theorem distinct_putPath (v : Setting) (path : List PathStep) (h : s.Distinct) :
    (putPath v path s).Distinct := by
  match path with
  | [] => exact h
  | [.key name] => exact distinct_put v h
  | [.item index] => exact distinct_changeItem index
  | .key name :: _ :: _ => exact distinct_changeKey h
  | .item index :: _ :: _ => exact distinct_changeItem index

/-- A table in which no key comes twice, and neither does one in the tables right below. -/
structure Tidy (s : Setting) : Prop where
  isTable : ∃ origin entries, s = .table origin entries
  distinct : s.Distinct
  below : ∀ e ∈ s.entries, e.2.Distinct

theorem mem_changeEntry {e : String × Setting} {entries : List (String × Setting)}
    (h : e ∈ changeEntry key fresh f entries) :
    e ∈ entries ∨ e.2 = f fresh ∨ ∃ e' ∈ entries, e.2 = f e'.2 := by
  induction entries with
  | nil =>
    obtain rfl := List.mem_singleton.mp h
    exact .inr (.inl rfl)
  | cons d rest ih =>
    obtain ⟨k, v⟩ := d
    by_cases hk : k = key
    · simp only [changeEntry, hk, if_true, List.mem_cons] at h
      rcases h with rfl | h
      · exact .inr (.inr ⟨(k, v), List.mem_cons_self, rfl⟩)
      · exact .inl (List.mem_cons_of_mem _ h)
    · simp only [changeEntry, hk, if_false, List.mem_cons] at h
      rcases h with rfl | h
      · exact .inl List.mem_cons_self
      · rcases ih h with hmem | hfresh | ⟨e', hmem, heq⟩
        · exact .inl (List.mem_cons_of_mem _ hmem)
        · exact .inr (.inl hfresh)
        · exact .inr (.inr ⟨e', List.mem_cons_of_mem _ hmem, heq⟩)

/-- A change that keeps keys distinct below keeps a table tidy. -/
theorem tidy_changeKey (h : s.Tidy) (hfresh : fresh.Distinct)
    (hf : ∀ c : Setting, c.Distinct → (f c).Distinct) : (changeKey key fresh f s).Tidy := by
  refine ⟨?_, distinct_changeKey h.distinct, ?_⟩
  · obtain ⟨origin, entries, rfl⟩ := h.isTable
    exact ⟨origin, _, rfl⟩
  · intro e he
    rw [entries_changeKey] at he
    rcases mem_changeEntry he with hmem | heq | ⟨e', hmem, heq⟩
    · exact h.below e hmem
    · rw [heq]
      exact hf fresh hfresh
    · rw [heq]
      exact hf e'.2 (h.below e' hmem)

theorem tidy_emptyTable : emptyTable.Tidy :=
  ⟨⟨none, [], rfl⟩, List.nodup_nil, nofun⟩

theorem tidy_put (v : Setting) (h : s.Tidy) : (put key v s).Tidy := by
  cases v with
  | scalar origin value => exact tidy_changeKey h List.nodup_nil fun _ _ => List.nodup_nil
  | list origin items => exact tidy_changeKey h List.nodup_nil fun _ _ => List.nodup_nil
  | table origin entries =>
    exact tidy_changeKey h List.nodup_nil fun _ hc => distinct_putAll entries hc

theorem exists_ofKey_eq_cons (key : String) :
    ∃ name rest, PathStep.ofKey key = .key name :: rest := by
  unfold PathStep.ofKey
  cases hread : PathStep.read? key with
  | none => exact ⟨key, [], rfl⟩
  | some path =>
    obtain ⟨⟨name, cs⟩, -, hpath⟩ := Option.bind_eq_some_iff.mp hread
    obtain ⟨rest, -, hpath⟩ := Option.bind_eq_some_iff.mp hpath
    obtain rfl := Option.some.inj hpath
    exact ⟨name, rest, rfl⟩

theorem tidy_putPath_ofKey (v : Setting) (key : String) (h : s.Tidy) :
    (putPath v (PathStep.ofKey key) s).Tidy := by
  obtain ⟨name, rest, hpath⟩ := exists_ofKey_eq_cons key
  rw [hpath]
  cases rest with
  | nil => exact tidy_put v h
  | cons step rest => exact tidy_changeKey h List.nodup_nil fun _ hc => distinct_putPath v _ hc

theorem tidy_overlay (layer : List (String × Setting)) (h : s.Tidy) : (s.overlay layer).Tidy := by
  unfold overlay
  induction layer generalizing s with
  | nil => exact h
  | cons e rest ih => exact ih (tidy_putPath_ofKey e.2 e.1 h)

/-! ## Entries and the parts they change -/

/-- A path that ends at the part under a name below a home, or that goes through it or around it in
a way that may change it. -/
def Reaches (home name : String) : List PathStep → Prop
  | .key k :: .key l :: _ => Text.lowercase k = home ∧ Text.lowercase l = name
  | .key k :: _ => Text.lowercase k = home
  | _ => True

theorem child?_put_of_ne (v : Setting) (hk : k ≠ Text.lowercase key) :
    (put key v s).child? k = s.child? k := by
  cases v <;> exact child?_changeKey_of_ne hk

theorem child?_putPath_of_ne (v : Setting) (rest : List PathStep) (hk : k ≠ Text.lowercase key) :
    (putPath v (.key key :: rest) s).child? k = s.child? k := by
  cases rest with
  | nil => exact child?_put_of_ne v hk
  | cons step rest => exact child?_changeKey_of_ne hk

theorem at?_putPath_of_not_reaches {home name : String} {path : List PathStep} (v : Setting)
    (h : ¬ Reaches home name path) : (putPath v path s).at? home name = s.at? home name := by
  match path with
  | [] => exact absurd trivial h
  | .item _ :: _ => exact absurd trivial h
  | [.key key] =>
    unfold at?
    rw [child?_putPath_of_ne v [] (Ne.symm h)]
  | .key key :: .item _ :: rest =>
    unfold at?
    rw [child?_putPath_of_ne v _ (Ne.symm h)]
  | .key key :: .key inner :: rest =>
    unfold at?
    by_cases hhome : Text.lowercase key = home
    · subst hhome
      have hname : name ≠ Text.lowercase inner := fun heq => h ⟨rfl, heq.symm⟩
      have hchild := child?_changeKey_self key blank (putPath v (.key inner :: rest)) s
      change ((changeKey key blank (putPath v (.key inner :: rest)) s).child? _).bind _ = _
      rw [hchild, Option.bind_some, child?_putPath_of_ne v rest hname]
      cases s.child? (Text.lowercase key) <;> rfl
    · rw [child?_putPath_of_ne v _ (Ne.symm hhome)]

theorem child?_put_scalar (origin : Option String) (x : Scalar) :
    (put key (.scalar origin x) s).child? (Text.lowercase key) = some (.scalar origin x) :=
  child?_changeKey_self key blank _ s

/-- A scalar stands where its path leads. -/
theorem at?_putPath_scalar (home name : String) (origin : Option String) (x : Scalar) :
    (putPath (.scalar origin x) [.key home, .key name] s).at? (Text.lowercase home)
      (Text.lowercase name) = some (.scalar origin x) := by
  have hchild := child?_changeKey_self home blank (put name (.scalar origin x)) s
  change ((changeKey home blank (put name (.scalar origin x)) s).child? _).bind _ = _
  rw [hchild, Option.bind_some, child?_put_scalar]

/-- A table is merged into what is below its key. -/
theorem at?_putPath_table (home name : String) (origin : Option String)
    (entries : List (String × Setting)) :
    (putPath (.table origin entries) [.key home] s).at? (Text.lowercase home) name =
      (putAll entries ((s.child? (Text.lowercase home)).getD emptyTable)).child? name := by
  have hchild := child?_changeKey_self home emptyTable (putAll entries) s
  change ((changeKey home emptyTable (putAll entries) s).child? _).bind _ = _
  rw [hchild, Option.bind_some]

theorem child?_getD_emptyTable (home name : String) :
    ((s.child? home).getD emptyTable).child? name = s.at? home name := by
  unfold at?
  cases s.child? home <;> rfl

theorem putAll_eq_foldl (entries : List (String × Setting)) :
    putAll entries s = entries.foldl (fun s e => put e.1 e.2 s) s := by
  induction entries generalizing s with
  | nil => rfl
  | cons e rest ih => exact ih

end SessionGateway.Setting

namespace SessionGateway

section

variable {σ ε ω : Type} (step : σ → ε → σ) (view : σ → ω) (Q : ω → Prop)

/-- A step for `e` leaves what is seen of a state as it is. -/
def Keeps (e : ε) : Prop := ∀ s, view (step s e) = view s

/-- After a step for `e`, what is seen of a state has the property, whatever was there. -/
def Makes (e : ε) : Prop := ∀ s, Q (view (step s e))

variable {step view Q} {l : List ε} {s : σ}

theorem view_foldl_of_keeps (h : ∀ e ∈ l, Keeps step view e) :
    view (l.foldl step s) = view s := by
  induction l generalizing s with
  | nil => rfl
  | cons e rest ih =>
    rw [List.foldl_cons, ih fun d hd => h d (List.mem_cons_of_mem e hd)]
    exact h e List.mem_cons_self s

/-- The last step that does not keep what is seen decides on it. -/
theorem view_foldl_of_last {before after : List ε} {e : ε} (hmakes : Makes step view Q e)
    (hafter : ∀ d ∈ after, Keeps step view d) :
    Q (view ((before ++ e :: after).foldl step s)) := by
  rw [List.foldl_append, List.foldl_cons, view_foldl_of_keeps hafter]
  exact hmakes _

end

end SessionGateway
