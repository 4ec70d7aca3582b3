import SessionGateway.Proofs.Record
import SessionGateway.Proofs.Settings.Tree
import SessionGateway.Settings.Load

/-! The six settings of the probe, each with its place in the layers and its type, and the settings
that values of the six make. -/

namespace SessionGateway

namespace GatewaySettings

def get (g : GatewaySettings) : (f : schema.Field) → schema.Carrier f
  | .baseUrl => g.baseUrl
  | .apiKey => g.apiKey
  | .projectId => g.projectId
  | .timeoutSeconds => g.timeoutSeconds

theorem lawful_schema : schema.Lawful get := by
  constructor
  · intro f
    cases f <;> rfl
  · intro ε read g
    constructor
    · intro h
      obtain ⟨url, hurl, h⟩ := bind_eq_ok_iff.mp h
      obtain ⟨key, hkey, h⟩ := bind_eq_ok_iff.mp h
      obtain ⟨project, hproject, h⟩ := bind_eq_ok_iff.mp h
      obtain ⟨seconds, hseconds, h⟩ := bind_eq_ok_iff.mp h
      obtain rfl := Except.ok.inj h
      intro f
      cases f <;> assumption
    · intro h
      rw [funext h]
      rfl

def settingReader : (f : schema.Field) → Setting.FieldReader (schema.Carrier f)
  | .baseUrl => Setting.stringField
  | .apiKey => Setting.stringField
  | .projectId => Setting.optionalField Setting.stringField
  | .timeoutSeconds => Setting.realField

end GatewaySettings

namespace LoggingSettings

def get (l : LoggingSettings) : (f : schema.Field) → schema.Carrier f
  | .level => l.level
  | .json => l.json

theorem lawful_schema : schema.Lawful get := by
  constructor
  · intro f
    cases f <;> rfl
  · intro ε read l
    constructor
    · intro h
      obtain ⟨level, hlevel, h⟩ := bind_eq_ok_iff.mp h
      obtain ⟨json, hjson, h⟩ := bind_eq_ok_iff.mp h
      obtain rfl := Except.ok.inj h
      intro f
      cases f <;> assumption
    · intro h
      rw [funext h]
      rfl

def settingReader : (f : schema.Field) → Setting.FieldReader (schema.Carrier f)
  | .level => Setting.stringField
  | .json => Setting.boolField

end LoggingSettings

namespace ProbeSettings

def get (p : ProbeSettings) : (f : schema.Field) → schema.Carrier f
  | .gateway => p.gateway
  | .logging => p.logging

theorem lawful_schema : schema.Lawful get := by
  constructor
  · intro f
    cases f <;> rfl
  · intro ε read p
    constructor
    · intro h
      obtain ⟨gateway, hgateway, h⟩ := bind_eq_ok_iff.mp h
      obtain ⟨logging, hlogging, h⟩ := bind_eq_ok_iff.mp h
      obtain rfl := Except.ok.inj h
      intro f
      cases f <;> assumption
    · intro h
      rw [funext h]
      rfl

def settingReader : (f : schema.Field) → Setting.FieldReader (schema.Carrier f)
  | .gateway => GatewaySettings.ofSetting
  | .logging => LoggingSettings.ofSetting

theorem ofSetting_eq : ofSetting = Setting.recordField schema settingReader := rfl

end ProbeSettings

/-- A setting of the probe. -/
inductive Item where
  | gateway (f : GatewaySettings.Field)
  | logging (f : LoggingSettings.Field)
  deriving DecidableEq, Repr

namespace Item

/-- The field of the probe's settings that the item is a part of. -/
def field : Item → ProbeSettings.Field
  | gateway _ => .gateway
  | logging _ => .logging

def home (i : Item) : String := ProbeSettings.schema.name i.field

def name : Item → String
  | gateway f => GatewaySettings.schema.name f
  | logging f => LoggingSettings.schema.name f

def key (i : Item) : String := i.home ++ "." ++ i.name

abbrev Carrier : Item → Type
  | gateway f => GatewaySettings.schema.Carrier f
  | logging f => LoggingSettings.schema.Carrier f

def get (p : ProbeSettings) : (i : Item) → i.Carrier
  | gateway f => p.gateway.get f
  | logging f => p.logging.get f

/-- What stands for an item that no source gives. -/
def absent : (i : Item) → Option i.Carrier
  | gateway f => GatewaySettings.schema.absent f
  | logging f => LoggingSettings.schema.absent f

def read : (i : Item) → Setting.FieldReader i.Carrier
  | gateway f => GatewaySettings.settingReader f
  | logging f => LoggingSettings.settingReader f

/-- The value of a scalar of the item's own type. -/
def value? : (i : Item) → Scalar → Option i.Carrier
  | gateway .baseUrl, .text s => some s
  | gateway .apiKey, .text s => some s
  | gateway .projectId, .absent => some none
  | gateway .projectId, .text s => some (some s)
  | gateway .timeoutSeconds, .integer n => some (.ofInt n)
  | gateway .timeoutSeconds, .real x => some x
  | logging .level, .text s => some s
  | logging .json, .boolean b => some b
  | _, _ => none

theorem read_of_value? {i : Item} {origin : Option String} {x : Scalar} {a : i.Carrier}
    (h : i.value? x = some a) : i.read (.scalar origin x) = .ok a := by
  rcases i with (_ | _ | _ | _) | (_ | _) <;> cases x <;>
    first | contradiction | exact congrArg Except.ok (Option.some.inj h)

theorem ofKey_key (i : Item) : PathStep.ofKey i.key = [.key i.home, .key i.name] := by
  rcases i with (_ | _ | _ | _) | (_ | _) <;> decide +kernel

theorem ofKey_home (i : Item) : PathStep.ofKey i.home = [.key i.home] := by
  rcases i with (_ | _ | _ | _) | (_ | _) <;> decide +kernel

theorem lowercase_home (i : Item) : Text.lowercase i.home = i.home := by
  rcases i with (_ | _ | _ | _) | (_ | _) <;> decide +kernel

theorem lowercase_name (i : Item) : Text.lowercase i.name = i.name := by
  rcases i with (_ | _ | _ | _) | (_ | _) <;> decide +kernel

/-- An item is known by its home and its name. -/
theorem ext_of_names {i j : Item} (hhome : i.home = j.home) (hname : i.name = j.name) : i = j := by
  have hfield : i.field = j.field := ProbeSettings.lawful_schema.name_injective hhome
  cases i with
  | gateway f =>
    cases j with
    | gateway g => exact congrArg gateway (GatewaySettings.lawful_schema.name_injective hname)
    | logging g => contradiction
  | logging f =>
    cases j with
    | gateway g => contradiction
    | logging g => exact congrArg logging (LoggingSettings.lawful_schema.name_injective hname)

end Item

/-- Values for some of the items. -/
abbrev Given : Type := (i : Item) → Option i.Carrier

namespace ProbeSettings

/-- The settings that the values make, with what stands for the items that have none. -/
def ofGiven (G : Given) : Except SettingsFault ProbeSettings := do
  let gateway ← GatewaySettings.schema.finish
    (fun f => .mismatch (GatewaySettings.schema.missingField f)) fun f => G (.gateway f)
  let logging ← LoggingSettings.schema.finish
    (fun f => .mismatch (LoggingSettings.schema.missingField f)) fun f => G (.logging f)
  return ⟨gateway, logging⟩

theorem ofGiven_eq_ok_iff {G : Given} {p : ProbeSettings} :
    ofGiven G = .ok p ↔ ∀ i, (G i <|> i.absent) = some (i.get p) := by
  constructor
  · intro h
    obtain ⟨gateway, hgateway, h⟩ := bind_eq_ok_iff.mp h
    obtain ⟨logging, hlogging, h⟩ := bind_eq_ok_iff.mp h
    obtain rfl := Except.ok.inj h
    intro i
    cases i with
    | gateway f => exact GatewaySettings.lawful_schema.finish_eq_ok_iff.mp hgateway f
    | logging f => exact LoggingSettings.lawful_schema.finish_eq_ok_iff.mp hlogging f
  · intro h
    apply bind_eq_ok_iff.mpr
    refine ⟨p.gateway, GatewaySettings.lawful_schema.finish_eq_ok_iff.mpr fun f =>
      h (.gateway f), ?_⟩
    apply bind_eq_ok_iff.mpr
    exact ⟨p.logging, LoggingSettings.lawful_schema.finish_eq_ok_iff.mpr fun f =>
      h (.logging f), rfl⟩

/-- Only the address and the key of the gateway have to be given. -/
theorem exists_ofGiven_eq_ok_iff {G : Given} :
    (∃ p, ofGiven G = .ok p) ↔
      (G (.gateway .baseUrl)).isSome ∧ (G (.gateway .apiKey)).isSome := by
  constructor
  · rintro ⟨p, hp⟩
    have hgiven := ofGiven_eq_ok_iff.mp hp
    have hneeded {i : Item} (hi : i.absent = none) : (G i).isSome := by
      have h := hgiven i
      rw [hi, Option.orElse_eq_orElse, Option.orElse_eq_or, Option.or_none] at h
      exact Option.isSome_of_eq_some h
    exact ⟨hneeded rfl, hneeded rfl⟩
  · rintro ⟨hurl, hkey⟩
    have hgiven : ∀ i : Item, (G i <|> i.absent).isSome := by
      intro i
      rw [Option.orElse_eq_orElse, Option.orElse_eq_or, Option.isSome_or]
      rcases i with (_ | _ | _ | _) | (_ | _)
      · rw [hurl, Bool.true_or]
      · rw [hkey, Bool.true_or]
      all_goals exact Bool.or_true _
    let value (i : Item) : i.Carrier := (G i <|> i.absent).get (hgiven i)
    refine ⟨⟨⟨value (.gateway .baseUrl), value (.gateway .apiKey), value (.gateway .projectId),
      value (.gateway .timeoutSeconds)⟩, value (.logging .level), value (.logging .json)⟩, ?_⟩
    apply ofGiven_eq_ok_iff.mpr
    intro i
    rcases i with (_ | _ | _ | _) | (_ | _) <;> exact (Option.some_get _).symm

end ProbeSettings

/-! ## Reading settings from a tree -/

namespace Setting

section

variable {ρ : Type} {s : Schema ρ} {get : ρ → (f : s.Field) → s.Carrier f}
  {reader : (f : s.Field) → FieldReader (s.Carrier f)} {origin : Option String}
  {entries : List (String × Setting)} {slots : s.Slots}

/-- A field of a record that is read from a table is read from what stands under its name. -/
theorem reader_of_recordField (hs : s.Lawful get) {t v : Setting} {r : ρ} {f : s.Field}
    (ht : t.Distinct) (hread : recordField s reader t = .ok r)
    (hv : t.child? (s.name f) = some v) : reader f v = .ok (get r f) := by
  cases t with
  | scalar => contradiction
  | list => contradiction
  | table origin entries =>
    obtain ⟨slots, hfilled, hfinish⟩ := exists_filled_of_recordField hs ht hread
    exact hfilled.read_of_mem hs hfinish (mem_of_lookup_eq_some hv)

/-- One field that cannot be read is the fault of the table, if all the others can. -/
theorem fillSlots_eq_error (hs : s.Lawful get) {f₀ : s.Field} {fault : SettingsFault}
    (h : ∀ e ∈ entries, ∀ f, s.name f = e.1 →
      (∃ a, reader f e.2 = .ok a) ∨ f = f₀ ∧ reader f e.2 = .error fault)
    {v : Setting} (hv : (s.name f₀, v) ∈ entries) (hfault : reader f₀ v = .error fault) :
    fillSlots s reader slots entries = .error (fault.within (s.name f₀)) := by
  induction entries generalizing slots with
  | nil => contradiction
  | cons e rest ih =>
    have hrest := fun d hd => h d (List.mem_cons_of_mem e hd)
    cases hfield : s.field? e.1 with
    | none =>
      have hne := hs.name_ne_of_none hfield f₀
      rcases List.mem_cons.mp hv with rfl | hv
      · exact absurd rfl hne
      · simp only [fillSlots, hfield]
        exact ih hrest hv
    | some f =>
      have hname := Schema.name_of_field? hfield
      simp only [fillSlots, hfield]
      rcases h e List.mem_cons_self f hname with ⟨a, ha⟩ | ⟨rfl, herror⟩
      · rcases List.mem_cons.mp hv with rfl | hv
        · obtain rfl := hs.name_injective hname
          rw [hfault] at ha
          contradiction
        · rw [ha]
          exact ih hrest hv
      · rw [herror, ← hname]
        rfl

/-- A part that cannot be read is the fault of the table. -/
theorem recordField_eq_error (hs : s.Lawful get) {f₀ : s.Field} {fault : SettingsFault}
    (h : ∀ e ∈ entries, ∀ f, s.name f = e.1 →
      (∃ a, reader f e.2 = .ok a) ∨ f = f₀ ∧ reader f e.2 = .error fault)
    {v : Setting} (hv : (s.name f₀, v) ∈ entries) (hfault : reader f₀ v = .error fault) :
    recordField s reader (table origin entries) = .error (fault.within (s.name f₀)) := by
  simp only [recordField, fillSlots_eq_error hs h hv hfault]
  rfl

end

end Setting

namespace ProbeSettings

variable {t : Setting} {G : Given}

/-- At the places of the items stand their values, and nothing stands where there is no value. -/
structure Holds (t : Setting) (G : Given) : Prop where
  some : ∀ {i : Item} {a : i.Carrier}, G i = some a →
    ∃ s, t.at? i.home i.name = some s ∧ i.read s = .ok a
  none : ∀ {i : Item}, G i = none → t.at? i.home i.name = none

/-- Settings that are read from a tree have the items that stand there. -/
theorem read_of_ofSetting {p : ProbeSettings} {i : Item} {s : Setting} (ht : t.Tidy)
    (hread : ofSetting t = .ok p) (hs : t.at? i.home i.name = some s) :
    i.read s = .ok (i.get p) := by
  obtain ⟨section', hsection, hs⟩ := Option.bind_eq_some_iff.mp hs
  have hfield := Setting.reader_of_recordField lawful_schema ht.distinct hread hsection
  have hdistinct := ht.below _ (mem_of_lookup_eq_some hsection)
  cases i with
  | gateway f =>
    exact Setting.reader_of_recordField GatewaySettings.lawful_schema hdistinct hfield hs
  | logging f =>
    exact Setting.reader_of_recordField LoggingSettings.lawful_schema hdistinct hfield hs

/-- A section of a tree is the record of the values that stand in it. -/
theorem recordField_section {ρ : Type} {s : Schema ρ} {get : ρ → (f : s.Field) → s.Carrier f}
    (hs : s.Lawful get) {reader : (f : s.Field) → Setting.FieldReader (s.Carrier f)}
    {section' : Setting} {slots : s.Slots} {f₀ : s.Field} (hdistinct : section'.Distinct)
    (hsome : ∀ f a, slots f = some a →
      ∃ v, section'.child? (s.name f) = some v ∧ reader f v = .ok a)
    (hnone : ∀ f, slots f = none → section'.child? (s.name f) = none) (hf₀ : (slots f₀).isSome) :
    Setting.recordField s reader section' =
      s.finish (fun f => .mismatch (s.missingField f)) slots := by
  obtain ⟨a, ha⟩ := Option.isSome_iff_exists.mp hf₀
  obtain ⟨v, hv, -⟩ := hsome f₀ a ha
  cases section' with
  | scalar => contradiction
  | list => contradiction
  | table origin entries =>
    exact Setting.recordField_of_filled hs hdistinct
      (Schema.filled_of_lookup hdistinct hsome hnone)

theorem exists_error_of_assemble {ε : Type}
    {read : (f : GatewaySettings.schema.Field) → Except ε (GatewaySettings.schema.Carrier f)}
    {e : ε} (h : GatewaySettings.schema.assemble read = .error e) : ∃ f, read f = .error e := by
  rcases bind_eq_error_iff.mp h with h | ⟨url, -, h⟩
  · exact ⟨.baseUrl, h⟩
  rcases bind_eq_error_iff.mp h with h | ⟨key, -, h⟩
  · exact ⟨.apiKey, h⟩
  rcases bind_eq_error_iff.mp h with h | ⟨project, -, h⟩
  · exact ⟨.projectId, h⟩
  rcases bind_eq_error_iff.mp h with h | ⟨seconds, -, h⟩
  · exact ⟨.timeoutSeconds, h⟩
  · contradiction

/-- Settings of the gateway fail for a field that is not given. -/
theorem exists_eq_of_finish_error {ε : Type} {missing : GatewaySettings.schema.Field → ε}
    {slots : GatewaySettings.schema.Slots} {e : ε}
    (h : GatewaySettings.schema.finish missing slots = .error e) : ∃ f, e = missing f := by
  obtain ⟨f, hf⟩ := exists_error_of_assemble h
  refine ⟨f, ?_⟩
  split at hf
  · contradiction
  · exact (Except.error.inj hf).symm

/-- Settings of the log need not be given. -/
theorem exists_finish_logging {ε : Type} (missing : LoggingSettings.schema.Field → ε)
    (slots : LoggingSettings.schema.Slots) :
    ∃ logging, LoggingSettings.schema.finish missing slots = .ok logging := by
  refine ⟨⟨(slots .level).getD LoggingSettings.default.level,
    (slots .json).getD LoggingSettings.default.json⟩, ?_⟩
  apply LoggingSettings.lawful_schema.finish_eq_ok_iff.mpr
  intro f
  cases f with
  | level =>
    change (slots .level <|> some _) = some ((slots .level).getD _)
    cases slots .level <;> rfl
  | json =>
    change (slots .json <|> some _) = some ((slots .json).getD _)
    cases slots .json <;> rfl

/-- Settings whose log can be read stand or fall with their gateway. -/
theorem ofSetting_of_sections (ht : t.Tidy) {gateway logging : Setting} {l : LoggingSettings}
    (hgateway : t.child? (schema.name .gateway) = some gateway)
    (hlogging : t.child? (schema.name .logging) = some logging)
    (hl : LoggingSettings.ofSetting logging = .ok l) :
    ofSetting t = match GatewaySettings.ofSetting gateway with
      | .ok g => .ok ⟨g, l⟩
      | .error fault => .error (fault.within (schema.name .gateway)) := by
  cases hread : GatewaySettings.ofSetting gateway with
  | ok g =>
    let slots : schema.Slots := fun f => some (get ⟨g, l⟩ f)
    have hsome : ∀ f a, slots f = some a →
        ∃ v, t.child? (schema.name f) = some v ∧ settingReader f v = .ok a := by
      intro f a ha
      obtain rfl := Option.some.inj ha
      cases f with
      | gateway => exact ⟨gateway, hgateway, hread⟩
      | logging => exact ⟨logging, hlogging, hl⟩
    have hfull : (slots .gateway).isSome := rfl
    rw [ofSetting_eq, recordField_section lawful_schema ht.distinct hsome nofun hfull]
    apply lawful_schema.finish_eq_ok_iff.mpr
    intro f
    rfl
  | error fault =>
    -- The log can be read, so in whichever order the sections come, the gateway decides.
    obtain ⟨origin, entries, rfl⟩ := ht.isTable
    apply Setting.recordField_eq_error lawful_schema ?_ (mem_of_lookup_eq_some hgateway) hread
    intro e he f hname
    have hlookup := lookup_eq_some_of_mem ht.distinct (show (schema.name f, e.2) ∈ _ by
      rw [hname]
      exact he)
    cases f with
    | gateway =>
      obtain rfl := Option.some.inj (hlookup.symm.trans hgateway)
      exact .inr ⟨rfl, hread⟩
    | logging =>
      obtain rfl := Option.some.inj (hlookup.symm.trans hlogging)
      exact .inl ⟨l, hl⟩

/-- A tree is read as the settings that the values standing in it make, or fails as they do. -/
theorem ofSetting_eq_ofGiven (ht : t.Tidy) (h : Holds t G)
    (htimeout : (G (.gateway .timeoutSeconds)).isSome) (hlevel : (G (.logging .level)).isSome) :
    ofSetting t = ofGiven G := by
  obtain ⟨seconds, hseconds⟩ := Option.isSome_iff_exists.mp htimeout
  obtain ⟨timeout, hat, -⟩ := h.some hseconds
  obtain ⟨gateway, hgateway, -⟩ := Option.bind_eq_some_iff.mp hat
  obtain ⟨word, hword⟩ := Option.isSome_iff_exists.mp hlevel
  obtain ⟨level, hat, -⟩ := h.some hword
  obtain ⟨logging, hlogging, -⟩ := Option.bind_eq_some_iff.mp hat
  have hplace (i : Item) {v : Setting} (hv : t.child? i.home = some v) :
      t.at? i.home i.name = v.child? i.name := by
    unfold Setting.at?
    rw [hv, Option.bind_some]
  have hg : GatewaySettings.ofSetting gateway = GatewaySettings.schema.finish
      (fun f => .mismatch (GatewaySettings.schema.missingField f)) fun f => G (.gateway f) := by
    apply recordField_section GatewaySettings.lawful_schema
      (ht.below _ (mem_of_lookup_eq_some hgateway)) ?_ ?_ htimeout
    · intro f a ha
      obtain ⟨v, hv, hread⟩ := h.some (i := .gateway f) ha
      exact ⟨v, (hplace (.gateway f) hgateway).symm.trans hv, hread⟩
    · intro f hf
      exact (hplace (.gateway f) hgateway).symm.trans (h.none hf)
  have hl : LoggingSettings.ofSetting logging = LoggingSettings.schema.finish
      (fun f => .mismatch (LoggingSettings.schema.missingField f)) fun f => G (.logging f) := by
    apply recordField_section LoggingSettings.lawful_schema
      (ht.below _ (mem_of_lookup_eq_some hlogging)) ?_ ?_ hlevel
    · intro f a ha
      obtain ⟨v, hv, hread⟩ := h.some (i := .logging f) ha
      exact ⟨v, (hplace (.logging f) hlogging).symm.trans hv, hread⟩
    · intro f hf
      exact (hplace (.logging f) hlogging).symm.trans (h.none hf)
  obtain ⟨l, hfinish⟩ := exists_finish_logging
    (fun f => SettingsFault.mismatch (LoggingSettings.schema.missingField f))
    fun f => G (.logging f)
  rw [ofSetting_of_sections ht hgateway hlogging (hl.trans hfinish), hg]
  unfold ofGiven
  rw [hfinish]
  cases hread : GatewaySettings.schema.finish
      (fun f => SettingsFault.mismatch (GatewaySettings.schema.missingField f))
      fun f => G (.gateway f) with
  | ok g => rfl
  | error fault =>
    obtain ⟨f, rfl⟩ := exists_eq_of_finish_error hread
    rfl

end ProbeSettings

end SessionGateway
