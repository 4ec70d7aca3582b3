import Mathlib.Data.List.Nodup
import SessionGateway.Proofs.Settings.Layers
import SessionGateway.Proofs.Settings.Typed

/-! Loading from a file and an environment that set some of the items: the environment stands over
the file item by item, and the file over what is built in. -/

namespace SessionGateway

namespace Item

/-- The text of a variable is a spelling of the value. -/
def Spells : (i : Item) → String → i.Carrier → Prop
  | gateway .baseUrl, s, a => Environment.IsWords s ∧ a = s
  | gateway .apiKey, s, a => Environment.IsWords s ∧ a = s
  | gateway .projectId, s, a => Environment.IsWords s ∧ a = some s
  | gateway .timeoutSeconds, s, x => readBinary64? s = some x ∧ x.isFinite = true
  | logging .level, s, a => Environment.IsWords s ∧ a = s
  | logging .json, s, b => Text.lowercase s = bif b then "true" else "false"

/-- Equal values; timeouts are compared as numbers. -/
def Same : (i : Item) → i.Carrier → i.Carrier → Prop
  | gateway .timeoutSeconds, x, y => Environment.SameNumber x y
  | gateway .baseUrl, a, b | gateway .apiKey, a, b | gateway .projectId, a, b
  | logging .level, a, b | logging .json, a, b => a = b

theorem same_refl : (i : Item) → (a : i.Carrier) → i.Same a a
  | gateway .timeoutSeconds, _ => .inl rfl
  | gateway .baseUrl, _ | gateway .apiKey, _ | gateway .projectId, _
  | logging .level, _ | logging .json, _ => rfl

/-- Values that are the same as one value are the same. -/
theorem same_of_same {i : Item} {a b c : i.Carrier} (ha : i.Same a c) (hb : i.Same b c) :
    i.Same a b := by
  rcases i with (_ | _ | _ | _) | (_ | _)
  case gateway.timeoutSeconds =>
    rcases ha with rfl | ⟨ha, hc⟩
    · rcases hb with rfl | ⟨hb, hc⟩
      · exact .inl rfl
      · exact .inr ⟨hc, hb⟩
    · rcases hb with rfl | ⟨hb, -⟩
      · exact .inr ⟨ha, hc⟩
      · exact .inr ⟨ha, hb⟩
  all_goals exact ha.trans hb.symm

/-- What stands for an item that neither the file nor the environment sets. -/
def fallback : (i : Item) → Option i.Carrier
  | gateway .baseUrl => none
  | gateway .apiKey => none
  | gateway .projectId => some none
  | gateway .timeoutSeconds => some (.ofInt 10)
  | logging .level => some "info"
  | logging .json => some false

/-- The built-in layer and the fields' own defaults agree. -/
theorem builtIn_or_absent (i : Item) : (ProbeSettings.builtIn i <|> i.absent) = i.fallback := by
  rcases i with (_ | _ | _ | _) | (_ | _) <;> rfl

/-- A spelling of a value is typed as the same value. -/
theorem exists_value?_typed {i : Item} {s : String} {a : i.Carrier} (h : i.Spells s a) :
    ∃ b, i.value? (Environment.typed s) = some b ∧ i.Same b a := by
  rcases i with (_ | _ | _ | _) | (_ | _)
  · obtain ⟨hwords, rfl⟩ := h
    exact ⟨a, by rw [Environment.typed_of_isWords hwords]; rfl, rfl⟩
  · obtain ⟨hwords, rfl⟩ := h
    exact ⟨a, by rw [Environment.typed_of_isWords hwords]; rfl, rfl⟩
  · obtain ⟨hwords, rfl⟩ := h
    exact ⟨some s, by rw [Environment.typed_of_isWords hwords]; rfl, rfl⟩
  · obtain ⟨hx, hfinite⟩ := h
    rcases Environment.typed_of_readBinary64? hx hfinite with htyped | ⟨n, htyped, hsame⟩
    · exact ⟨a, by rw [htyped]; rfl, .inl rfl⟩
    · exact ⟨.ofInt n, by rw [htyped]; rfl, hsame⟩
  · obtain ⟨hwords, rfl⟩ := h
    exact ⟨a, by rw [Environment.typed_of_isWords hwords]; rfl, rfl⟩
  · exact ⟨a, by rw [Environment.typed_of_lowercase h]; rfl, rfl⟩

end Item

/-- The variables that set the items of `E`, each by a spelling of its value and by one variable.
The other variables say nothing of the items. -/
structure Environment.Sets (environment : Environment.Variables) (E : Given) : Prop where
  only : ∀ v ∈ environment, ∀ key, Environment.key? v.1 = some key →
    (∃ (i : Item) (a : i.Carrier), key = i.key ∧ i.Spells v.2 a ∧ E i = some a) ∨
      ∀ i : Item, ¬ Setting.Reaches i.home i.name (PathStep.ofKey key)
  all : ∀ {i : Item} {a : i.Carrier}, E i = some a →
    ∃ v ∈ environment, Environment.key? v.1 = some i.key
  once : ((Environment.layer environment).map Prod.fst).Nodup

namespace ProbeSettings

variable {directory : Directory} {environment : Environment.Variables} {name : Option String}
  {E F : Given}

theorem mem_environmentLayer {e : String × Setting} :
    e ∈ Environment.layer environment ↔ ∃ v ∈ environment, ∃ key,
      Environment.key? v.1 = some key ∧
        e = (key, .scalar (some Environment.originName) (Environment.typed v.2)) := by
  unfold Environment.layer
  rw [List.mem_filterMap]
  apply exists_congr
  intro v
  rw [Option.map_eq_some_iff]
  apply and_congr_right
  intro _
  apply exists_congr
  intro key
  exact and_congr_right fun _ => eq_comm

/-- The values that the variables have once they are typed. -/
def typedGiven (environment : Environment.Variables) : Given := fun i =>
  (environment.find? fun v => Environment.key? v.1 = some i.key).bind fun v =>
    i.value? (Environment.typed v.2)

/-- The variable of an item tells its value, since there is only one. -/
theorem typedGiven_eq (hone : ((Environment.layer environment).map Prod.fst).Nodup) {i : Item}
    {v : String × String} (hv : v ∈ environment) (hkey : Environment.key? v.1 = some i.key) :
    typedGiven environment i = i.value? (Environment.typed v.2) := by
  unfold typedGiven
  cases hfind : environment.find? fun v => Environment.key? v.1 = some i.key with
  | none =>
    have hnone := List.find?_eq_none.mp hfind v hv
    simp only [hkey, decide_true, not_true_eq_false] at hnone
  | some w =>
    have hw := List.mem_of_find?_eq_some hfind
    have hwkey := List.find?_some hfind
    simp only [decide_eq_true_eq] at hwkey
    have hsame := List.inj_on_of_nodup_map hone
      (mem_environmentLayer.mpr ⟨v, hv, _, hkey, rfl⟩)
      (mem_environmentLayer.mpr ⟨w, hw, _, hwkey, rfl⟩) rfl
    have htyped := (Setting.scalar.inj (Prod.mk.inj hsame).2).2
    exact congrArg i.value? htyped.symm

theorem sets_typedGiven (h : Environment.Sets environment E) :
    Sets (Environment.layer environment) (typedGiven environment) := by
  constructor
  · intro i e he
    obtain ⟨v, hv, key, hkey, rfl⟩ := mem_environmentLayer.mp he
    rcases h.only v hv key hkey with ⟨j, a, rfl, hspells, -⟩ | hfar
    · obtain ⟨b, hb, -⟩ := Item.exists_value?_typed hspells
      have hvalue : j.valueOf? (.scalar (some Environment.originName) (Environment.typed v.2)) =
          some b := hb
      exact Item.silent_or_setBy hvalue ((typedGiven_eq h.once hv hkey).trans hb) i
    · exact .inl (.away (hfar i))
  · intro i a ha
    obtain ⟨v, hfind, hvalue⟩ := Option.bind_eq_some_iff.mp ha
    have hkey := List.find?_some hfind
    simp only [decide_eq_true_eq] at hkey
    refine ⟨_, mem_environmentLayer.mpr ⟨v, List.mem_of_find?_eq_some hfind, _, hkey, rfl⟩, ?_⟩
    exact .key i.leadsTo_key hvalue

/-- The typed values are the values that the variables spell. -/
theorem rel_typedGiven (h : Environment.Sets environment E) (i : Item) :
    Option.Rel i.Same (typedGiven environment i) (E i) := by
  have hvariable {v : String × String} (hv : v ∈ environment)
      (hkey : Environment.key? v.1 = some i.key) : ∃ a, i.Spells v.2 a ∧ E i = some a := by
    rcases h.only v hv _ hkey with ⟨j, a, hij, hspells, ha⟩ | hfar
    · obtain rfl := Item.key_injective hij
      exact ⟨a, hspells, ha⟩
    · exact absurd i.reaches_key (hfar i)
  cases hi : E i with
  | some a =>
    obtain ⟨v, hv, hkey⟩ := h.all hi
    obtain ⟨a', hspells, ha'⟩ := hvariable hv hkey
    obtain rfl := Option.some.inj (hi.symm.trans ha')
    obtain ⟨b, hb, hsame⟩ := Item.exists_value?_typed hspells
    rw [(typedGiven_eq h.once hv hkey).trans hb]
    exact .some hsame
  | none =>
    cases hgiven : typedGiven environment i with
    | none => exact .none
    | some b =>
      obtain ⟨v, hfind, -⟩ := Option.bind_eq_some_iff.mp hgiven
      have hkey := List.find?_some hfind
      simp only [decide_eq_true_eq] at hkey
      obtain ⟨a, -, ha⟩ := hvariable (List.mem_of_find?_eq_some hfind) hkey
      rw [hi] at ha
      contradiction

/-- The item of settings that are loaded from a file and an environment. -/
theorem exists_same_of_load (hfile : ConfigFile.Gives directory name F)
    (henvironment : Environment.Sets environment E) {p : ProbeSettings}
    (hload : load directory environment name = .ok p) (i : Item) :
    ∃ a, (E i <|> F i <|> i.fallback) = some a ∧ i.Same (i.get p) a := by
  obtain ⟨entries, hlayer, hgives⟩ := exists_layer hfile
  rw [load_eq_ofGiven hlayer hgives (sets_typedGiven henvironment)] at hload
  have hget := ofGiven_eq_ok_iff.mp hload i
  have hrel := rel_typedGiven henvironment i
  generalize typedGiven environment i = typed at hrel hget
  generalize E i = given at hrel ⊢
  cases hrel with
  | some hsame =>
    obtain rfl := Option.some.inj hget
    exact ⟨_, rfl, hsame⟩
  | none =>
    cases hF : F i with
    | some a =>
      rw [hF] at hget
      obtain rfl := Option.some.inj hget
      exact ⟨_, rfl, i.same_refl _⟩
    | none =>
      rw [hF] at hget
      exact ⟨i.get p, (Item.builtIn_or_absent i).symm.trans hget, i.same_refl _⟩

/-- Loading succeeds where the address and the key of the gateway are set, in the file or in the
environment. -/
theorem exists_load_eq_ok_iff (hfile : ConfigFile.Gives directory name F)
    (henvironment : Environment.Sets environment E) :
    (∃ p, load directory environment name = .ok p) ↔
      (E (.gateway .baseUrl) <|> F (.gateway .baseUrl)).isSome ∧
        (E (.gateway .apiKey) <|> F (.gateway .apiKey)).isSome := by
  obtain ⟨entries, hlayer, hgives⟩ := exists_layer hfile
  have hisSome {i : Item} (hi : builtIn i = none) :
      (typedGiven environment i <|> F i <|> builtIn i).isSome = (E i <|> F i).isSome := by
    have hrel := rel_typedGiven henvironment i
    rw [hi]
    generalize typedGiven environment i = typed at hrel ⊢
    generalize E i = given at hrel ⊢
    cases hrel with
    | some => rfl
    | none => cases F i <;> rfl
  rw [load_eq_ofGiven hlayer hgives (sets_typedGiven henvironment), exists_ofGiven_eq_ok_iff,
    hisSome rfl, hisSome rfl]

/-- In whatever order the variables come, the same is loaded. -/
theorem load_perm (hfile : ConfigFile.Gives directory name F)
    (henvironment : Environment.Sets environment E) {environment' : Environment.Variables}
    (hperm : environment'.Perm environment) :
    load directory environment' name = load directory environment name := by
  obtain ⟨entries, hlayer, hgives⟩ := exists_layer hfile
  have hlayers : (Environment.layer environment).Perm (Environment.layer environment') :=
    hperm.symm.filterMap _
  rw [load_eq_ofGiven hlayer hgives (sets_typedGiven henvironment),
    load_eq_ofGiven hlayer hgives ((sets_typedGiven henvironment).perm hlayers)]

/-- The environment stands over the file and the file over what is built in, item by item: no item
depends on how others are set, nor on the order of the variables. -/
theorem load_layers (hfile : ConfigFile.Gives directory name F)
    (henvironment : Environment.Sets environment E) :
    ((∃ p, load directory environment name = .ok p) ↔
      (E (.gateway .baseUrl) <|> F (.gateway .baseUrl)).isSome ∧
        (E (.gateway .apiKey) <|> F (.gateway .apiKey)).isSome) ∧
    (∀ p, load directory environment name = .ok p → ∀ i : Item,
      ∃ a, (E i <|> F i <|> i.fallback) = some a ∧ i.Same (i.get p) a) ∧
    (∀ (directory' : Directory) (name' : Option String) (F' : Given)
      (environment' : Environment.Variables) (E' : Given),
      ConfigFile.Gives directory' name' F' → Environment.Sets environment' E' →
        ∀ i : Item, E' i = E i → F' i = F i →
          ∀ p p', load directory environment name = .ok p →
            load directory' environment' name' = .ok p' → i.Same (i.get p') (i.get p)) ∧
    ∀ environment' : Environment.Variables, environment'.Perm environment →
      load directory environment' name = load directory environment name := by
  refine ⟨exists_load_eq_ok_iff hfile henvironment,
    fun p hload => exists_same_of_load hfile henvironment hload, ?_,
    fun environment' hperm => load_perm hfile henvironment hperm⟩
  intro directory' name' F' environment' E' hfile' henvironment' i hE hF p p' hload hload'
  obtain ⟨a, ha, hsame⟩ := exists_same_of_load hfile henvironment hload i
  obtain ⟨a', ha', hsame'⟩ := exists_same_of_load hfile' henvironment' hload' i
  rw [hE, hF] at ha'
  obtain rfl := Option.some.inj (ha'.symm.trans ha)
  exact Item.same_of_same hsame' hsame

/-! A file that sets the address and a timeout, under variables that set the key and another
timeout. -/

def sampleDirectory : Directory :=
  ⟨"", fun file =>
    if file = "caas.toml" then
      some "[gateway]\nbase_url = \"https://gw\"\ntimeout_secs = 5\n"
    else none⟩

def sampleSection : String × Setting :=
  ("gateway", .table (some "caas.toml")
    [("base_url", .scalar (some "caas.toml") (.text "https://gw")),
      ("timeout_secs", .scalar (some "caas.toml") (.integer 5))])

def sampleFile : Given
  | .gateway .baseUrl => some "https://gw"
  | .gateway .timeoutSeconds => some (.ofInt 5)
  | _ => none

def sampleVariables : Environment.Variables :=
  [("CAAS__GATEWAY__API_KEY", "key"), ("CAAS__GATEWAY__TIMEOUT_SECS", "2.5")]

def sampleEnvironment : Given
  | .gateway .apiKey => some "key"
  | .gateway .timeoutSeconds => some (.ofRatio false 5 2)
  | _ => none

theorem gives_sampleFile : ConfigFile.Gives sampleDirectory none sampleFile := by
  have hfind : ConfigFile.find sampleDirectory ConfigFile.defaultName = .found "caas.toml" .toml
      "[gateway]\nbase_url = \"https://gw\"\ntimeout_secs = 5\n" := rfl
  have hparse : ConfigFile.parse "caas.toml" .toml
      "[gateway]\nbase_url = \"https://gw\"\ntimeout_secs = 5\n" =
        .ok [sampleSection] := rfl
  apply ConfigFile.Gives.found hfind hparse
  have hurl : Item.SetBy (.gateway .baseUrl) "https://gw" sampleSection := by
    refine .home (Item.leadsHome_home _) ?_ ⟨_, List.mem_cons_self, by decide +kernel⟩
    simp only [List.forall_mem_cons, List.not_mem_nil, false_imp_iff, implies_true, and_true]
    exact ⟨fun _ => rfl, fun h => absurd h (by decide +kernel)⟩
  have htimeout : Item.SetBy (.gateway .timeoutSeconds) (.ofInt 5) sampleSection := by
    refine .home (Item.leadsHome_home _) ?_
      ⟨_, List.mem_cons_of_mem _ List.mem_cons_self, by decide +kernel⟩
    simp only [List.forall_mem_cons, List.not_mem_nil, false_imp_iff, implies_true, and_true]
    exact ⟨fun h => absurd h (by decide +kernel), fun _ => rfl⟩
  constructor
  · intro i e he
    obtain rfl := List.mem_singleton.mp he
    rcases i with (_ | _ | _ | _) | f
    · exact .inr ⟨_, hurl, rfl⟩
    · exact .inl (.home (Item.leadsHome_home (.gateway .apiKey)) (by decide +kernel))
    · exact .inl (.home (Item.leadsHome_home (.gateway .projectId)) (by decide +kernel))
    · exact .inr ⟨_, htimeout, rfl⟩
    · exact .inl (.away (Item.not_reaches_home (j := .gateway .baseUrl) (by cases f <;> decide)))
  · intro i a ha
    rcases i with (_ | _ | _ | _) | (_ | _)
    · obtain rfl := Option.some.inj ha
      exact ⟨_, List.mem_cons_self, hurl⟩
    · contradiction
    · contradiction
    · obtain rfl := Option.some.inj ha
      exact ⟨_, List.mem_cons_self, htimeout⟩
    · contradiction
    · contradiction

theorem sets_sampleVariables : Environment.Sets sampleVariables sampleEnvironment := by
  constructor
  · intro v hv key hkey
    left
    simp only [sampleVariables, List.mem_cons, List.not_mem_nil, or_false] at hv
    rcases hv with rfl | rfl
    · obtain rfl : "gateway.api_key" = key := Option.some.inj hkey
      refine ⟨.gateway .apiKey, "key", rfl, ⟨⟨?_, ?_, ?_, ?_⟩, rfl⟩, rfl⟩ <;> decide +kernel
    · obtain rfl : "gateway.timeout_secs" = key := Option.some.inj hkey
      have hread : readBinary64? "2.5" = some (.ofRatio false 5 2) := by decide +kernel
      have hfinite : (Binary64.ofRatio false 5 2).isFinite = true := by decide +kernel
      exact ⟨.gateway .timeoutSeconds, .ofRatio false 5 2, rfl, ⟨hread, hfinite⟩, rfl⟩
  · intro i a ha
    rcases i with (_ | _ | _ | _) | (_ | _)
    · contradiction
    · exact ⟨_, List.mem_cons_self, by decide +kernel⟩
    · contradiction
    · exact ⟨_, List.mem_cons_of_mem _ List.mem_cons_self, by decide +kernel⟩
    · contradiction
    · contradiction
  · decide +kernel

/-- The file's address and the environment's key make settings. -/
theorem load_layers_sample :
    ConfigFile.Gives sampleDirectory none sampleFile ∧
      Environment.Sets sampleVariables sampleEnvironment ∧
      ∃ p, load sampleDirectory sampleVariables none = .ok p ∧
        p.gateway.baseUrl = "https://gw" ∧ p.gateway.apiKey = "key" := by
  obtain ⟨hexists, hitems, -⟩ := load_layers gives_sampleFile sets_sampleVariables
  obtain ⟨p, hp⟩ := hexists.mpr ⟨rfl, rfl⟩
  refine ⟨gives_sampleFile, sets_sampleVariables, p, hp, ?_, ?_⟩
  · obtain ⟨a, ha, hsame⟩ := hitems p hp (.gateway .baseUrl)
    exact hsame.trans (Option.some.inj ha).symm
  · obtain ⟨a, ha, hsame⟩ := hitems p hp (.gateway .apiKey)
    exact hsame.trans (Option.some.inj ha).symm

end ProbeSettings

end SessionGateway
