import SessionGateway.Proofs.Settings.Layers
import SessionGateway.Proofs.Settings.Typed

/-! What a text setting becomes that an environment variable sets: the variable's text where that is
words, and where it looks like a truth value or a number, that value told in its own way. -/

namespace SessionGateway

/-- The text that a typed variable gives a setting. -/
def Environment.retold (value : String) : String :=
  match Environment.typed value with
  | .absent => ""
  | .boolean b => toString b
  | .integer i => toString i
  | .real x => NumberLayout.plain.write x
  | .text s => s

theorem Environment.retold_of_isWords {s : String} (h : IsWords s) : retold s = s := by
  unfold retold
  rw [typed_of_isWords h]

theorem Environment.typed_ne_absent (s : String) : typed s ≠ .absent := by
  unfold typed
  split
  · nofun
  · nofun
  · split
    · nofun
    · split <;> nofun

theorem Environment.stringField_typed (origin : Option String) (s : String) :
    Setting.stringField (.scalar origin (typed s)) = .ok (retold s) := by
  unfold retold
  cases htyped : typed s with
  | absent => exact absurd htyped (typed_ne_absent s)
  | boolean b => rfl
  | integer i => rfl
  | real x => rfl
  | text t => rfl

namespace Item

/-- The value of a text setting is that text. -/
def HoldsText : (i : Item) → i.Carrier → String → Prop
  | gateway .baseUrl, a, s => a = s
  | gateway .apiKey, a, s => a = s
  | gateway .projectId, a, s => a = some s
  | logging .level, a, s => a = s
  | gateway .timeoutSeconds, _, _ => False
  | logging .json, _, _ => False

/-- The settings that are texts. -/
def isText : Item → Bool
  | gateway .timeoutSeconds => false
  | logging .json => false
  | _ => true

theorem HoldsText.unique {i : Item} {a : i.Carrier} {s s' : String} (h : i.HoldsText a s)
    (h' : i.HoldsText a s') : s = s' := by
  rcases i with (_ | _ | _ | _) | (_ | _)
  · exact h.symm.trans h'
  · exact h.symm.trans h'
  · exact Option.some.inj (h.symm.trans h')
  · contradiction
  · exact h.symm.trans h'
  · contradiction

theorem holdsText_of_read {i : Item} (hi : i.isText = true) {origin : Option String} {s : String}
    {a : i.Carrier} (h : i.read (.scalar origin (Environment.typed s)) = .ok a) :
    i.HoldsText a (Environment.retold s) := by
  have hstring := Environment.stringField_typed origin s
  rcases i with (_ | _ | _ | _) | (_ | _)
  · exact (Except.ok.inj (hstring.symm.trans h)).symm
  · exact (Except.ok.inj (hstring.symm.trans h)).symm
  · have hoption : Setting.optionalField Setting.stringField
        (.scalar origin (Environment.typed s)) = .ok (some (Environment.retold s)) := by
      unfold Setting.optionalField
      split
      · rename_i heq
        exact absurd (Setting.scalar.inj heq).2 (Environment.typed_ne_absent s)
      · rw [hstring]
        rfl
    exact (Except.ok.inj (hoption.symm.trans h)).symm
  · contradiction
  · exact (Except.ok.inj (hstring.symm.trans h)).symm
  · contradiction

end Item

namespace ProbeSettings

variable {directory : Directory} {file : Option String} {before after : Environment.Variables}
  {name s : String} {i : Item} {p : ProbeSettings}

/-- The variable of an item stands at its place, if no later one reaches there. -/
theorem place_layered (entries : List (String × Setting))
    (hname : Environment.key? name = some i.key)
    (hafter : ∀ v ∈ after, ∀ key, Environment.key? v.1 = some key →
      ¬ Setting.Reaches i.home i.name (PathStep.ofKey key)) :
    place i (layered entries (before ++ (name, s) :: after)) =
      some (.scalar (some Environment.originName) (Environment.typed s)) := by
  -- The environment is laid on last, and of its entries this one is the last that reaches here.
  have hlayer : Environment.layer (before ++ (name, s) :: after) = Environment.layer before ++
      (i.key, .scalar (some Environment.originName) (Environment.typed s)) ::
        Environment.layer after := by
    unfold Environment.layer
    rw [List.filterMap_append, List.filterMap_cons]
    simp only [hname, Option.map_some]
  unfold layered Setting.overlay
  rw [hlayer, List.foldl_append, List.foldl_cons]
  have hkeeps : ∀ e ∈ Environment.layer after, Keeps lay (place i) e := by
    intro e he
    obtain ⟨v, hv, he⟩ := List.mem_filterMap.mp he
    obtain ⟨key, hkey, rfl⟩ := Option.map_eq_some_iff.mp he
    exact keeps_of_not_reaches (hafter v hv key hkey)
  exact (view_foldl_of_keeps hkeeps).trans (place_scalar i.leadsTo_key _ _ _)

/-- A text setting that a variable sets is what the variable's text is retold as, whatever the file
says: the text itself if that is words, and otherwise only if the value is told so. -/
theorem load_retold (hi : i.isText = true) (hname : Environment.key? name = some i.key)
    (hafter : ∀ v ∈ after, ∀ key, Environment.key? v.1 = some key →
      ¬ Setting.Reaches i.home i.name (PathStep.ofKey key))
    (hload : load directory (before ++ (name, s) :: after) file = .ok p) :
    i.HoldsText (i.get p) (Environment.retold s) ∧
      (i.HoldsText (i.get p) s ↔ Environment.retold s = s) ∧
      (Environment.IsWords s → Environment.retold s = s) := by
  obtain ⟨entries, -, hread⟩ := bind_eq_ok_iff.mp hload
  have hplace : place i (layered entries (before ++ (name, s) :: after)) = _ :=
    place_layered entries hname hafter
  have hholds : i.HoldsText (i.get p) (Environment.retold s) :=
    Item.holdsText_of_read hi (read_of_ofSetting (tidy_layered entries _) hread hplace)
  refine ⟨hholds, ?_, Environment.retold_of_isWords⟩
  constructor
  · intro hverbatim
    exact hholds.unique hverbatim
  · intro hsame
    rw [hsame] at hholds
    exact hholds

/-- A key of digits that begins with zeros is told without them. -/
theorem load_retold_digits :
    Environment.key? "CAAS__GATEWAY__API_KEY" = some (Item.gateway .apiKey).key ∧
      ∃ p, load ⟨"", fun _ => none⟩
          ([("CAAS__GATEWAY__BASE_URL", "https://gw")] ++ ("CAAS__GATEWAY__API_KEY", "007") :: [])
          none = .ok p ∧
        Item.HoldsText (.gateway .apiKey) (Item.get p (.gateway .apiKey))
          (Environment.retold "007") ∧
        Environment.retold "007" = "7" := by
  have hname : Environment.key? "CAAS__GATEWAY__API_KEY" =
      some (Item.gateway .apiKey).key := by decide +kernel
  have hload : load ⟨"", fun _ => none⟩
      ([("CAAS__GATEWAY__BASE_URL", "https://gw")] ++ ("CAAS__GATEWAY__API_KEY", "007") :: [])
      none = .ok ⟨⟨"https://gw", "7", none, .ofInt 10⟩, "info", false⟩ := by decide +kernel
  have hretold := (load_retold rfl hname (fun _ hv => absurd hv List.not_mem_nil) hload).1
  exact ⟨hname, _, hload, hretold, by decide +kernel⟩

/-- Not every text of the only variable of a setting is loaded as it is. -/
theorem load_apiKey_not_verbatim :
    ¬ ∀ (s : String) (p : ProbeSettings), load ⟨"", fun _ => none⟩
        [("CAAS__GATEWAY__BASE_URL", "https://gw"), ("CAAS__GATEWAY__API_KEY", s)] none = .ok p →
          p.gateway.apiKey = s := by
  intro hverbatim
  have hload : load ⟨"", fun _ => none⟩
      [("CAAS__GATEWAY__BASE_URL", "https://gw"), ("CAAS__GATEWAY__API_KEY", "007")] none =
        .ok ⟨⟨"https://gw", "7", none, .ofInt 10⟩, "info", false⟩ := by decide +kernel
  have hkey : "7" = "007" := hverbatim "007" _ hload
  exact absurd hkey (by decide)

end ProbeSettings

end SessionGateway
