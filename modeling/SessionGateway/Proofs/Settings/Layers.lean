import SessionGateway.Proofs.Settings.Items

/-! What sources say of the items, and the values that stand in a tree once sources are laid over
one another. -/

namespace SessionGateway

/-- Of the elements with a property, one is the last. -/
theorem exists_last {α : Type} {P : α → Prop} {l : List α} (h : ∃ x ∈ l, P x) :
    ∃ before x after, l = before ++ x :: after ∧ P x ∧ ∀ y ∈ after, ¬ P y := by
  induction l with
  | nil => simp at h
  | cons first rest ih =>
    by_cases hrest : ∃ x ∈ rest, P x
    · obtain ⟨before, x, after, rfl, hx, hafter⟩ := ih hrest
      exact ⟨first :: before, x, after, rfl, hx, hafter⟩
    · have hlater : ∀ y ∈ rest, ¬ P y := fun y hy hP => hrest ⟨y, hy, hP⟩
      obtain ⟨x, hx, hP⟩ := h
      rcases List.mem_cons.mp hx with rfl | hx
      · exact ⟨[], x, rest, rfl, hP, hlater⟩
      · exact absurd hP (hlater x hx)

namespace Item

/-- The value of a part that is a scalar of the item's own type. -/
def valueOf? (i : Item) : Setting → Option i.Carrier
  | .scalar _ x => i.value? x
  | _ => none

/-- The key leads to the item. -/
def LeadsTo (i : Item) (key : String) : Prop :=
  ∃ k l, PathStep.ofKey key = [.key k, .key l] ∧ Text.lowercase k = i.home ∧
    Text.lowercase l = i.name

/-- The key leads to the section of the item. -/
def LeadsHome (i : Item) (key : String) : Prop :=
  ∃ k, PathStep.ofKey key = [.key k] ∧ Text.lowercase k = i.home

theorem leadsTo_key (i : Item) : i.LeadsTo i.key :=
  ⟨i.home, i.name, i.ofKey_key, i.lowercase_home, i.lowercase_name⟩

theorem leadsHome_home (i : Item) : i.LeadsHome i.home := ⟨i.home, i.ofKey_home, i.lowercase_home⟩

/-- The entry sets the item to the value: its key leads to the item, or to a section where the value
and nothing else stands under the item's name. -/
inductive SetBy (i : Item) (a : i.Carrier) : String × Setting → Prop where
  | key {key : String} {s : Setting} (hkey : i.LeadsTo key) (hvalue : i.valueOf? s = some a) :
      SetBy i a (key, s)
  | home {key : String} {origin : Option String} {inner : List (String × Setting)}
      (hkey : i.LeadsHome key)
      (hvalue : ∀ d ∈ inner, Text.lowercase d.1 = i.name → i.valueOf? d.2 = some a)
      (hone : ∃ d ∈ inner, Text.lowercase d.1 = i.name) : SetBy i a (key, .table origin inner)

/-- The entry is read as the value for the item: its key leads to the item, or to a section where
what stands last under the item's name is read so. -/
inductive ReadBy (i : Item) (a : i.Carrier) : String × Setting → Prop where
  | key {key : String} {s : Setting} (hkey : i.LeadsTo key) (hread : i.read s = .ok a) :
      ReadBy i a (key, s)
  | home {key : String} {origin : Option String} {before after : List (String × Setting)}
      {d : String × Setting} (hkey : i.LeadsHome key) (hname : Text.lowercase d.1 = i.name)
      (hread : i.read d.2 = .ok a) (hafter : ∀ e ∈ after, Text.lowercase e.1 ≠ i.name) :
      ReadBy i a (key, .table origin (before ++ d :: after))

/-- The entry says nothing of the item: its key leads elsewhere, or to a section where nothing
stands under the item's name. -/
inductive Silent (i : Item) : String × Setting → Prop where
  | away {e : String × Setting} (hkey : ¬ Setting.Reaches i.home i.name (PathStep.ofKey e.1)) :
      Silent i e
  | home {key : String} {origin : Option String} {inner : List (String × Setting)}
      (hkey : i.LeadsHome key) (hnone : ∀ d ∈ inner, Text.lowercase d.1 ≠ i.name) :
      Silent i (key, .table origin inner)

/-- Items are read from nothing but scalars. -/
theorem exists_scalar_of_read {i : Item} {s : Setting} {a : i.Carrier} (h : i.read s = .ok a) :
    ∃ origin x, s = .scalar origin x := by
  cases s with
  | scalar origin x => exact ⟨origin, x, rfl⟩
  | list | table => rcases i with (_ | _ | _ | _) | (_ | _) <;> contradiction

theorem read_of_valueOf? {i : Item} {s : Setting} {a : i.Carrier} (h : i.valueOf? s = some a) :
    i.read s = .ok a := by
  cases s with
  | scalar => exact read_of_value? h
  | list | table => contradiction

theorem SetBy.readBy {i : Item} {a : i.Carrier} {e : String × Setting} (h : i.SetBy a e) :
    i.ReadBy a e := by
  cases h with
  | key hkey hvalue => exact .key hkey (read_of_valueOf? hvalue)
  | home hkey hvalue hone =>
    obtain ⟨before, d, after, rfl, hname, hafter⟩ := exists_last hone
    exact .home hkey hname (read_of_valueOf? (hvalue d (by simp) hname)) hafter

/-- The key of an item leads to no other item. -/
theorem not_reaches_key {i j : Item} (h : i ≠ j) :
    ¬ Setting.Reaches i.home i.name (PathStep.ofKey j.key) := by
  rw [ofKey_key]
  rintro ⟨hhome, hname⟩
  rw [lowercase_home] at hhome
  rw [lowercase_name] at hname
  exact h (ext_of_names hhome.symm hname.symm)

theorem reaches_key (i : Item) : Setting.Reaches i.home i.name (PathStep.ofKey i.key) := by
  rw [ofKey_key]
  exact ⟨i.lowercase_home, i.lowercase_name⟩

theorem key_injective : Function.Injective key := by
  intro i j hkey
  have hreaches := reaches_key i
  rw [hkey] at hreaches
  exact Classical.byContradiction fun hij => not_reaches_key hij hreaches

/-- The key of a section leads to no item of another. -/
theorem not_reaches_home {i j : Item} (h : j.home ≠ i.home) :
    ¬ Setting.Reaches i.home i.name (PathStep.ofKey j.home) := by
  rw [ofKey_home]
  intro hreaches
  exact h (j.lowercase_home.symm.trans hreaches)

/-- A value under the key of an item sets that item and says nothing of the others. -/
theorem silent_or_setBy {j : Item} {s : Setting} {a : j.Carrier} {G : Given}
    (hvalue : j.valueOf? s = some a) (hG : G j = some a) (i : Item) :
    i.Silent (j.key, s) ∨ ∃ b, i.SetBy b (j.key, s) ∧ G i = some b := by
  by_cases hij : i = j
  · subst hij
    exact .inr ⟨a, .key i.leadsTo_key hvalue, hG⟩
  · exact .inl (.away (not_reaches_key hij))

end Item

namespace ProbeSettings

/-- A source sets the items that have a value, each to that value, and is silent of the others. -/
structure Sets (layer : List (String × Setting)) (G : Given) : Prop where
  entry : ∀ i : Item, ∀ e ∈ layer, i.Silent e ∨ ∃ a, i.SetBy a e ∧ G i = some a
  all : ∀ {i : Item} {a : i.Carrier}, G i = some a → ∃ e ∈ layer, i.SetBy a e

/-- The last word of a source on an item is read as its value, and a source without a value for it
says nothing of it. -/
structure Reads (layer : List (String × Setting)) (G : Given) : Prop where
  some : ∀ {i : Item} {a : i.Carrier}, G i = some a → ∃ before e after,
    layer = before ++ e :: after ∧ i.ReadBy a e ∧ ∀ d ∈ after, i.Silent d
  none : ∀ {i : Item}, G i = none → ∀ e ∈ layer, i.Silent e

variable {i : Item} {t : Setting} {layer : List (String × Setting)} {G L : Given}

theorem Sets.reads (h : Sets layer G) : Reads layer G := by
  constructor
  · intro i a ha
    obtain ⟨before, e, after, rfl, hset, hafter⟩ := exists_last (h.all ha)
    refine ⟨before, e, after, rfl, hset.readBy, fun d hd => ?_⟩
    rcases h.entry i d (by simp [hd]) with hsilent | ⟨b, hb, hG⟩
    · exact hsilent
    · obtain rfl := Option.some.inj (ha.symm.trans hG)
      exact absurd hb (hafter d hd)
  · intro i hi e he
    rcases h.entry i e he with hsilent | ⟨b, -, hG⟩
    · exact hsilent
    · rw [hi] at hG
      contradiction

theorem Sets.perm {layer' : List (String × Setting)} (h : Sets layer G)
    (hperm : layer.Perm layer') : Sets layer' G where
  entry i e he := h.entry i e (hperm.mem_iff.mpr he)
  all hi := by
    obtain ⟨e, he, hset⟩ := h.all hi
    exact ⟨e, hperm.mem_iff.mp he, hset⟩

theorem sets_nil : Sets [] fun _ => none := ⟨nofun, nofun⟩

/-! ## Laying a source over a tree -/

/-- What stands at the place of an item. -/
abbrev place (i : Item) (t : Setting) : Option Setting := t.at? i.home i.name

/-- Lays one entry of a source over a tree. -/
abbrev lay (t : Setting) (e : String × Setting) : Setting :=
  Setting.putPath e.2 (PathStep.ofKey e.1) t

/-- Something stands there that has the value of the item. -/
def Shows (i : Item) (a : i.Carrier) (there : Option Setting) : Prop :=
  ∃ s, there = some s ∧ i.read s = .ok a

theorem keeps_of_not_reaches {e : String × Setting}
    (h : ¬ Setting.Reaches i.home i.name (PathStep.ofKey e.1)) : Keeps lay (place i) e :=
  fun _ => Setting.at?_putPath_of_not_reaches e.2 h

/-- A scalar stands where its key leads. -/
theorem place_scalar {key : String} (h : i.LeadsTo key) (origin : Option String) (x : Scalar)
    (t : Setting) : place i (lay t (key, .scalar origin x)) = some (.scalar origin x) := by
  obtain ⟨k, l, hpath, hhome, hname⟩ := h
  unfold place lay
  rw [hpath, ← hhome, ← hname]
  exact Setting.at?_putPath_scalar k l origin x

/-- A table is merged entry by entry into the section that its key leads to. -/
theorem place_section {key : String} (h : i.LeadsHome key) (origin : Option String)
    (inner : List (String × Setting)) (t : Setting) :
    place i (lay t (key, .table origin inner)) =
      (inner.foldl (fun s e => Setting.put e.1 e.2 s)
        ((t.child? i.home).getD Setting.emptyTable)).child? i.name := by
  obtain ⟨k, hpath, hhome⟩ := h
  unfold place lay
  rw [hpath, ← hhome, ← Setting.putAll_eq_foldl]
  exact Setting.at?_putPath_table k i.name origin inner

theorem keeps_of_silent {e : String × Setting} (h : i.Silent e) : Keeps lay (place i) e := by
  cases h with
  | away hkey => exact keeps_of_not_reaches hkey
  | @home key origin inner hkey hnone =>
    have hkeeps : ∀ d ∈ inner,
        Keeps (fun s e => Setting.put e.1 e.2 s) (Setting.child? i.name) d := by
      intro d hd s
      exact Setting.child?_put_of_ne d.2 (Ne.symm (hnone d hd))
    intro t
    rw [place_section hkey, view_foldl_of_keeps hkeeps]
    exact Setting.child?_getD_emptyTable i.home i.name

/-- A value that is put under the name of an item shows there. -/
theorem makes_put {a : i.Carrier} {d : String × Setting} (hname : Text.lowercase d.1 = i.name)
    (hread : i.read d.2 = .ok a) :
    Makes (fun s e => Setting.put e.1 e.2 s) (Setting.child? i.name) (Shows i a) d := by
  intro s
  obtain ⟨key, v⟩ := d
  obtain ⟨origin, x, rfl⟩ := Item.exists_scalar_of_read hread
  refine ⟨.scalar origin x, ?_, hread⟩
  rw [← hname]
  exact Setting.child?_put_scalar origin x

theorem makes_of_readBy {a : i.Carrier} {e : String × Setting} (h : i.ReadBy a e) :
    Makes lay (place i) (Shows i a) e := by
  intro t
  cases h with
  | key hkey hread =>
    obtain ⟨origin, x, rfl⟩ := Item.exists_scalar_of_read hread
    exact ⟨.scalar origin x, place_scalar hkey origin x t, hread⟩
  | home hkey hname hread hafter =>
    rw [place_section hkey]
    apply view_foldl_of_last (makes_put hname hread)
    exact fun d hd s => Setting.child?_put_of_ne d.2 (Ne.symm (hafter d hd))

/-- Where a source has no value, laying it over a tree changes nothing. -/
theorem place_overlay_of_eq_none (hlayer : Reads layer L) (hi : L i = none) :
    place i (t.overlay layer) = place i t :=
  view_foldl_of_keeps fun e he => keeps_of_silent (hlayer.none hi e he)

/-- Where a source has a value, that value stands once it is laid over a tree. -/
theorem shows_overlay_of_eq_some {a : i.Carrier} (hlayer : Reads layer L) (hi : L i = some a) :
    Shows i a (place i (t.overlay layer)) := by
  obtain ⟨before, e, after, rfl, hread, hafter⟩ := hlayer.some hi
  exact view_foldl_of_last (makes_of_readBy hread) fun d hd => keeps_of_silent (hafter d hd)

/-- A source laid over a tree gives its values, and leaves the others. -/
theorem Holds.overlay (h : Holds t G) (hlayer : Reads layer L) :
    Holds (t.overlay layer) fun i => L i <|> G i := by
  constructor
  · intro i a ha
    cases hi : L i with
    | none =>
      rw [hi] at ha
      obtain ⟨s, hs, hread⟩ := h.some ha
      exact ⟨s, (place_overlay_of_eq_none hlayer hi).trans hs, hread⟩
    | some b =>
      rw [hi] at ha
      obtain rfl := Option.some.inj ha
      exact shows_overlay_of_eq_some hlayer hi
  · intro i ha
    cases hi : L i with
    | none =>
      rw [hi] at ha
      exact (place_overlay_of_eq_none hlayer hi).trans (h.none ha)
    | some b =>
      rw [hi] at ha
      contradiction

theorem holds_emptyTable : Holds Setting.emptyTable fun _ => none :=
  ⟨nofun, fun _ => rfl⟩

/-! ## All layers -/

/-- The values that are built in. -/
def builtIn : Given
  | .gateway .timeoutSeconds => some ClientConfig.defaultTimeout
  | .logging .level => some LoggingSettings.default.level
  | .logging .json => some LoggingSettings.default.json
  | _ => none

theorem sets_defaults : Sets defaults builtIn := by
  constructor
  · intro i e he
    simp only [defaults, List.mem_cons, List.not_mem_nil, or_false] at he
    rcases he with rfl | rfl | rfl
    · exact Item.silent_or_setBy (j := .gateway .timeoutSeconds) rfl rfl i
    · exact Item.silent_or_setBy (j := .logging .level) rfl rfl i
    · exact Item.silent_or_setBy (j := .logging .json) rfl rfl i
  · intro i a ha
    rcases i with (_ | _ | _ | _) | (_ | _)
    · contradiction
    · contradiction
    · contradiction
    · exact ⟨_, List.mem_cons_self, .key (Item.leadsTo_key _) ha⟩
    · exact ⟨_, List.mem_cons_of_mem _ List.mem_cons_self, .key (Item.leadsTo_key _) ha⟩
    · exact ⟨_, List.mem_cons_of_mem _ (List.mem_cons_of_mem _ List.mem_cons_self),
        .key (Item.leadsTo_key _) ha⟩

end ProbeSettings

/-- The file that is looked for sets the items of `F`, or no file has to be there and none is. -/
inductive ConfigFile.Gives (directory : Directory) : Option String → Given → Prop where
  | found {name : Option String} {file text : String} {format : ConfigFile.Format}
      {entries : List (String × Setting)} {F : Given}
      (hfind : ConfigFile.find directory (name.getD ConfigFile.defaultName) =
        .found file format text)
      (hparse : ConfigFile.parse file format text = .ok entries)
      (hsets : ProbeSettings.Sets entries F) : Gives directory name F
  | missing (hfind : ∀ file format text,
      ConfigFile.find directory ConfigFile.defaultName ≠ .found file format text) :
      Gives directory none fun _ => none

namespace ProbeSettings

variable {file : List (String × Setting)} {environment : Environment.Variables} {E F : Given}

theorem exists_layer {directory : Directory} {name : Option String}
    (h : ConfigFile.Gives directory name F) :
    ∃ entries, ConfigFile.layer directory name = .ok entries ∧ Sets entries F := by
  cases h with
  | found hfind hparse hsets =>
    refine ⟨_, ?_, hsets⟩
    unfold ConfigFile.layer
    rw [hfind]
    exact hparse
  | missing hfind =>
    refine ⟨[], ?_, sets_nil⟩
    unfold ConfigFile.layer
    split
    · rename_i heq
      exact absurd heq (hfind _ _ _)
    · contradiction
    · contradiction
    · rfl

theorem tidy_layered (file : List (String × Setting)) (environment : Environment.Variables) :
    (layered file environment).Tidy :=
  Setting.tidy_overlay _ (Setting.tidy_overlay _ (Setting.tidy_overlay _ Setting.tidy_emptyTable))

/-- The environment stands over the file, and the file over what is built in. -/
theorem holds_layered (hfile : Reads file F)
    (henvironment : Reads (Environment.layer environment) E) :
    Holds (layered file environment) fun i => E i <|> F i <|> builtIn i := by
  have hbuiltIn : Holds (Setting.emptyTable.overlay defaults) builtIn := by
    have h := holds_emptyTable.overlay sets_defaults.reads
    have hnone : (fun i => builtIn i <|> none) = builtIn := by
      funext i
      cases builtIn i <;> rfl
    rwa [hnone] at h
  exact (hbuiltIn.overlay hfile).overlay henvironment

/-- Loading makes the settings of the values that the layers give. -/
theorem load_of_reads {directory : Directory} {name : Option String}
    (hlayer : ConfigFile.layer directory name = .ok file) (hfile : Reads file F)
    (henvironment : Reads (Environment.layer environment) E) :
    load directory environment name = ofGiven fun i => E i <|> F i <|> builtIn i := by
  unfold load
  rw [hlayer, ok_bind]
  apply ofSetting_eq_ofGiven (tidy_layered file environment) (holds_layered hfile henvironment)
  · cases E (.gateway .timeoutSeconds) <;> cases F (.gateway .timeoutSeconds) <;> rfl
  · cases E (.logging .level) <;> cases F (.logging .level) <;> rfl

theorem load_eq_ofGiven {directory : Directory} {name : Option String}
    (hlayer : ConfigFile.layer directory name = .ok file) (hfile : Sets file F)
    (henvironment : Sets (Environment.layer environment) E) :
    load directory environment name = ofGiven fun i => E i <|> F i <|> builtIn i :=
  load_of_reads hlayer hfile.reads henvironment.reads

end ProbeSettings

end SessionGateway
