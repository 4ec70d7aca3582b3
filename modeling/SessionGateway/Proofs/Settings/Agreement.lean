import SessionGateway.Proofs.Json.Reading
import SessionGateway.Proofs.Json.Record
import SessionGateway.Proofs.Settings.Layers

/-! Settings that a JSON text holds by itself, set against those that are loaded from a file with
that text: the defaults of the fields against the built-in layer, and the fields of a record against
converted parts of a tree. -/

namespace SessionGateway

/-! ## The settings that a JSON value stands for -/

namespace GatewaySettings

def jsonReader : (f : schema.Field) → Json.FieldReader (schema.Carrier f)
  | .baseUrl => Json.stringField
  | .apiKey => Json.stringField
  | .projectId => Json.optionalField Json.stringField
  | .timeoutSeconds => Json.realField

theorem sound_fromText : JsonText.Sound fromText (Json.recordField schema jsonReader) := by
  apply JsonText.sound_recordField lawful_schema
  intro f
  cases f with
  | baseUrl => exact JsonText.sound_stringField
  | apiKey => exact JsonText.sound_stringField
  | projectId => exact JsonText.sound_optionalField JsonText.sound_stringField
  | timeoutSeconds => exact JsonText.sound_numberField

end GatewaySettings

namespace LoggingSettings

def jsonReader : (f : schema.Field) → Json.FieldReader (schema.Carrier f)
  | .level => Json.stringField
  | .json => Json.boolField

theorem sound_fromText : JsonText.Sound fromText (Json.recordField schema jsonReader) := by
  apply JsonText.sound_recordField lawful_schema
  intro f
  cases f with
  | level => exact JsonText.sound_stringField
  | json => exact JsonText.sound_boolField

end LoggingSettings

namespace ProbeSettings

def jsonReader : (f : schema.Field) → Json.FieldReader (schema.Carrier f)
  | .gateway => Json.recordField GatewaySettings.schema GatewaySettings.jsonReader
  | .logging => Json.recordField LoggingSettings.schema LoggingSettings.jsonReader

theorem sound_fromText : JsonText.Sound fromText (Json.recordField schema jsonReader) := by
  apply JsonText.sound_recordField lawful_schema
  intro f
  cases f with
  | gateway => exact GatewaySettings.sound_fromText
  | logging => exact LoggingSettings.sound_fromText

end ProbeSettings

namespace Item

/-- Takes the item from a JSON value. -/
def take : (i : Item) → Json.FieldReader i.Carrier
  | gateway f => GatewaySettings.jsonReader f
  | logging f => LoggingSettings.jsonReader f

/-- What is taken from a JSON value is the value of what it becomes in a tree. -/
theorem valueOf?_ofJson {i : Item} {v : Json} {a : i.Carrier} (origin : Option String)
    (h : i.take v = .ok a) : i.valueOf? (Setting.ofJson origin v) = some a := by
  rcases i with (_ | _ | _ | _) | (_ | _) <;> cases v
  case gateway.timeoutSeconds.integer n =>
    obtain rfl := Except.ok.inj h
    unfold Setting.ofJson
    split <;> rfl
  all_goals first | contradiction | exact congrArg some (Except.ok.inj h)

/-- What stands for an item that is not given is not changed by the built-in layer. -/
theorem builtIn_orElse_absent (i : Item) :
    (ProbeSettings.builtIn i <|> i.absent) = i.absent := by
  rcases i with (_ | _ | _ | _) | (_ | _) <;> rfl

end Item

namespace Setting

theorem mem_ofJsonMembers {origin : Option String} {members : Members} {e : String × Setting} :
    e ∈ ofJsonMembers origin members ↔ ∃ m ∈ members, e = (m.1, ofJson origin m.2) := by
  induction members with
  | nil => simp [ofJsonMembers]
  | cons m members ih => simp [ofJsonMembers, ih]

end Setting

namespace ProbeSettings

/-- An object of sections that are objects, with no keys but the declared ones. -/
def Declared (members : Members) : Prop :=
  ∀ m ∈ members, (∃ i : Item, i.home = m.1) ∧
    ∃ inner, m.2 = .object inner ∧ ∀ e ∈ inner, ∃ i : Item, i.home = m.1 ∧ i.name = e.1

/-- What the object has under the names of the item. -/
def at? (members : Members) (i : Item) : Option Json :=
  match members.get? i.home with
  | some (.object inner) => Members.get? i.name inner
  | _ => none

/-- The values of the items that the object has. -/
def valuesOf (members : Members) : Given := fun i =>
  (at? members i).bind fun v => (i.take v).toOption

variable {members : Members} {p : ProbeSettings} {i : Item} {v : Json}

theorem at?_eq_some_iff (hmembers : JsonText.IsRead (.object members)) :
    at? members i = some v ↔ ∃ inner, (i.home, .object inner) ∈ members ∧ (i.name, v) ∈ inner := by
  obtain ⟨hkeys, hall⟩ := hmembers.members
  constructor
  · intro h
    unfold at? at h
    split at h
    · rename_i inner hhome
      exact ⟨inner, mem_of_lookup_eq_some hhome, mem_of_lookup_eq_some h⟩
    · contradiction
  · rintro ⟨inner, hhome, hname⟩
    unfold at? Members.get?
    rw [lookup_eq_some_of_mem hkeys hhome]
    exact lookup_eq_some_of_mem (hall _ hhome).members.1 hname

/-- An item is taken from the value under its names. -/
theorem take_of_at? (hmembers : JsonText.IsRead (.object members))
    (hread : Json.recordField schema jsonReader (.object members) = .ok p)
    (hat : at? members i = some v) : i.take v = .ok (i.get p) := by
  obtain ⟨inner, hhome, hname⟩ := (at?_eq_some_iff hmembers).mp hat
  obtain ⟨hkeys, hall⟩ := hmembers.members
  have hinner := (hall _ hhome).members.1
  have hsection := Json.take_of_recordField lawful_schema hkeys hread hhome
  cases i with
  | gateway f =>
    exact Json.take_of_recordField GatewaySettings.lawful_schema hinner hsection hname
  | logging f =>
    exact Json.take_of_recordField LoggingSettings.lawful_schema hinner hsection hname

/-- An item without a value under its names is what stands for it. -/
theorem absent_of_at?_eq_none (hmembers : JsonText.IsRead (.object members))
    (hdeclared : Declared members)
    (hread : Json.recordField schema jsonReader (.object members) = .ok p)
    (hnone : at? members i = none) : i.absent = some (i.get p) := by
  obtain ⟨hkeys, hall⟩ := hmembers.members
  -- Either the section lacks the name, or the section itself is not there, which only the log's
  -- may be.
  by_cases hhome : i.home ∈ members.map Prod.fst
  · obtain ⟨⟨home, value⟩, hm, rfl⟩ := List.mem_map.mp hhome
    obtain ⟨-, inner, rfl, -⟩ := hdeclared _ hm
    have hinner := (hall _ hm).members.1
    have hname : i.name ∉ inner.map Prod.fst := by
      intro hmem
      obtain ⟨⟨key, v⟩, hv, rfl⟩ := List.mem_map.mp hmem
      have hat := (at?_eq_some_iff hmembers).mpr ⟨inner, hm, hv⟩
      rw [hnone] at hat
      contradiction
    have hsection := Json.take_of_recordField lawful_schema hkeys hread hm
    cases i with
    | gateway f =>
      exact Json.absent_of_recordField GatewaySettings.lawful_schema hinner hsection hname
    | logging f =>
      exact Json.absent_of_recordField LoggingSettings.lawful_schema hinner hsection hname
  · have hsection := Json.absent_of_recordField lawful_schema hkeys hread hhome
    cases i with
    | gateway f => contradiction
    | logging f =>
      have hlogging : LoggingSettings.default = p.logging := Option.some.inj hsection
      unfold Item.get
      rw [← hlogging]
      cases f <;> rfl

theorem valuesOf_eq_some (hmembers : JsonText.IsRead (.object members))
    (hread : Json.recordField schema jsonReader (.object members) = .ok p)
    (hat : at? members i = some v) : valuesOf members i = some (i.get p) := by
  unfold valuesOf
  rw [hat, Option.bind_some, take_of_at? hmembers hread hat]
  rfl

/-- Under the name of an item in its section stands the item's value. -/
theorem valueOf?_of_mem (hmembers : JsonText.IsRead (.object members))
    (hread : Json.recordField schema jsonReader (.object members) = .ok p) {inner : Members}
    (hm : (i.home, .object inner) ∈ members)
    (hnames : ∀ e ∈ inner, ∃ j : Item, j.home = i.home ∧ j.name = e.1) {origin : Option String}
    {d : String × Setting} (hd : d ∈ Setting.ofJsonMembers origin inner)
    (hname : Text.lowercase d.1 = i.name) :
    i.valueOf? d.2 = some (i.get p) ∧ valuesOf members i = some (i.get p) := by
  obtain ⟨⟨key, v⟩, hv, rfl⟩ := Setting.mem_ofJsonMembers.mp hd
  obtain ⟨j, hhome, rfl⟩ := hnames _ hv
  obtain rfl : j = i := Item.ext_of_names hhome (j.lowercase_name.symm.trans hname)
  have hat := (at?_eq_some_iff hmembers).mpr ⟨inner, hm, hv⟩
  exact ⟨Item.valueOf?_ofJson origin (take_of_at? hmembers hread hat),
    valuesOf_eq_some hmembers hread hat⟩

/-- The entries of the object set the items that it has. -/
theorem sets_ofJsonMembers (hmembers : JsonText.IsRead (.object members))
    (hdeclared : Declared members)
    (hread : Json.recordField schema jsonReader (.object members) = .ok p)
    (origin : Option String) : Sets (Setting.ofJsonMembers origin members) (valuesOf members) := by
  constructor
  · intro i e he
    obtain ⟨⟨home, value⟩, hm, rfl⟩ := Setting.mem_ofJsonMembers.mp he
    obtain ⟨⟨j, rfl⟩, inner, rfl, hnames⟩ := hdeclared _ hm
    by_cases hhome : j.home = i.home
    · dsimp only at hnames hm ⊢
      rw [hhome] at hnames hm ⊢
      have hvalue {d : String × Setting} (hd : d ∈ Setting.ofJsonMembers origin inner) :=
        valueOf?_of_mem hmembers hread hm hnames hd
      by_cases hone : ∃ d ∈ Setting.ofJsonMembers origin inner, Text.lowercase d.1 = i.name
      · obtain ⟨d, hd, hname⟩ := hone
        exact .inr ⟨i.get p, .home i.leadsHome_home (fun e he hname => (hvalue he hname).1)
          ⟨d, hd, hname⟩, (hvalue hd hname).2⟩
      · exact .inl (.home i.leadsHome_home fun d hd hname => hone ⟨d, hd, hname⟩)
    · exact .inl (.away (Item.not_reaches_home hhome))
  · intro i a ha
    obtain ⟨v, hat, -⟩ := Option.bind_eq_some_iff.mp ha
    obtain ⟨inner, hm, hv⟩ := (at?_eq_some_iff hmembers).mp hat
    obtain ⟨-, inner', hinner, hnames⟩ := hdeclared _ hm
    obtain rfl := Json.object.inj hinner
    obtain rfl := Option.some.inj (ha.symm.trans (valuesOf_eq_some hmembers hread hat))
    refine ⟨_, Setting.mem_ofJsonMembers.mpr ⟨_, hm, rfl⟩, .home i.leadsHome_home ?_ ?_⟩
    · intro d hd hname
      exact (valueOf?_of_mem hmembers hread hm hnames hd hname).1
    · exact ⟨_, Setting.mem_ofJsonMembers.mpr ⟨_, hv, rfl⟩, i.lowercase_name⟩

/-- The values that an object has make its settings, over the built-in ones. -/
theorem ofGiven_valuesOf (hmembers : JsonText.IsRead (.object members))
    (hdeclared : Declared members)
    (hread : Json.recordField schema jsonReader (.object members) = .ok p) :
    ofGiven (fun i => none <|> valuesOf members i <|> builtIn i) = .ok p := by
  apply ofGiven_eq_ok_iff.mpr
  intro i
  cases hat : at? members i with
  | some v =>
    rw [valuesOf_eq_some hmembers hread hat]
    rfl
  | none =>
    have hnone : valuesOf members i = none := by
      unfold valuesOf
      rw [hat, Option.bind_none]
    rw [hnone]
    exact i.builtIn_orElse_absent.trans (absent_of_at?_eq_none hmembers hdeclared hread hat)

/-- Whatever settings a JSON text of declared sections and fields holds by itself are loaded from a
file with that text, where no variable is a setting. -/
theorem load_of_fromText {directory : Directory} {environment : Environment.Variables}
    {name : Option String} {file text : String}
    (hobject : Json.ofText text = .ok (.object members)) (hdeclared : Declared members)
    (hread : JsonText.readField? fromText text = .ok p)
    (hfind : ConfigFile.find directory (name.getD ConfigFile.defaultName) =
      .found file .json text)
    (henvironment : ∀ v ∈ environment, Environment.key? v.1 = none) :
    load directory environment name = .ok p ∧
      (load directory environment name).map (fun q => q.gateway.clientConfig) =
        .ok p.gateway.clientConfig := by
  have hmembers := JsonText.isRead_of_ofText hobject
  have hvalue := sound_fromText.take_of_readField? hobject hread
  have hparse : ConfigFile.parse file .json text =
      .ok (Setting.ofJsonMembers (some file) members) := by
    unfold ConfigFile.parse
    dsimp only
    rw [hobject]
    rfl
  obtain ⟨entries, hlayer, hsets⟩ :=
    exists_layer (.found hfind hparse (sets_ofJsonMembers hmembers hdeclared hvalue _))
  have hvariables : Environment.layer environment = [] := by
    apply List.filterMap_eq_nil_iff.mpr
    intro v hv
    rw [henvironment v hv]
    rfl
  have hload : load directory environment name = .ok p := by
    rw [load_eq_ofGiven hlayer hsets (hvariables ▸ sets_nil)]
    exact ofGiven_valuesOf hmembers hdeclared hvalue
  rw [hload]
  exact ⟨rfl, rfl⟩

/-- Settings with a null project, a timeout beyond every signed integer, and nothing of the log. -/
def sampleMembers : Members :=
  [("gateway", .object [("api_key", .string "key"), ("base_url", .string "https://gw"),
      ("project_id", .null), ("timeout_secs", .integer 18446744073709551615)]),
    ("logging", .object [])]

theorem plain_sampleMembers : (Json.object sampleMembers).Plain JsonText.depthLimit := by
  refine .object (by decide +kernel) ?_
  intro m hm
  simp only [sampleMembers, List.mem_cons, List.not_mem_nil, or_false] at hm
  rcases hm with rfl | rfl
  · refine .object (by decide +kernel) ?_
    intro m hm
    simp only [List.mem_cons, List.not_mem_nil, or_false] at hm
    rcases hm with rfl | rfl | rfl | rfl
    · exact .string _ _
    · exact .string _ _
    · exact .null _
    · exact .integer _ (by decide)
  · exact .object .nil nofun

theorem declared_sampleMembers : Declared sampleMembers := by
  intro m hm
  simp only [sampleMembers, List.mem_cons, List.not_mem_nil, or_false] at hm
  rcases hm with rfl | rfl
  · refine ⟨⟨.gateway .apiKey, rfl⟩, _, rfl, ?_⟩
    intro e he
    simp only [List.mem_cons, List.not_mem_nil, or_false] at he
    rcases he with rfl | rfl | rfl | rfl
    · exact ⟨.gateway .apiKey, rfl, rfl⟩
    · exact ⟨.gateway .baseUrl, rfl, rfl⟩
    · exact ⟨.gateway .projectId, rfl, rfl⟩
    · exact ⟨.gateway .timeoutSeconds, rfl, rfl⟩
  · exact ⟨⟨.logging .level, rfl⟩, [], rfl, nofun⟩

/-- The text of the sample is read and loaded as the same settings. -/
theorem load_of_fromText_sample :
    Json.ofText (Json.object sampleMembers).text = .ok (.object sampleMembers) ∧
      Declared sampleMembers ∧
      ∃ p, JsonText.readField? fromText (Json.object sampleMembers).text = .ok p ∧
        load ⟨"", fun file =>
          if file = "caas.json" then some (Json.object sampleMembers).text else none⟩ [] none =
            .ok p := by
  have hobject : Json.ofText (Json.object sampleMembers).text = .ok (.object sampleMembers) :=
    Json.ofText_write JsonLayout.isBlank_compact plain_sampleMembers
  have hread : JsonText.readField? fromText (Json.object sampleMembers).text =
      .ok ⟨⟨"https://gw", "key", none, .ofInt 18446744073709551615⟩, "info", false⟩ := by
    decide +kernel
  have hnone : ∀ v ∈ ([] : Environment.Variables), Environment.key? v.1 = none :=
    fun _ hv => absurd hv List.not_mem_nil
  exact ⟨hobject, declared_sampleMembers, _, hread,
    (load_of_fromText hobject declared_sampleMembers hread rfl hnone).1⟩

end ProbeSettings

end SessionGateway
