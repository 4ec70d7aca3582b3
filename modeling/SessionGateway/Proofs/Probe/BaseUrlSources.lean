import SessionGateway.Proofs.Probe.Run
import SessionGateway.Proofs.Settings.Loading

/-! The base URL of an invocation of the probe. Loading the settings knows only those of the
environment's settings and of the file, and needs one of them; an option, or the variable that stands
in for it, comes after loading and replaces what was loaded. -/

namespace SessionGateway

theorem GatewaySettings.baseUrl_clientConfig (g : GatewaySettings) :
    g.clientConfig.baseUrl = Text.trimTrailing '/' g.baseUrl := by
  obtain ⟨baseUrl, apiKey, _ | project, timeout⟩ := g <;> rfl

namespace Probe

variable {s : Surroundings} {words : List String} {flags i : Invocation}

/-- The environment stands in for the base URL and for nothing else. -/
theorem Invocation.ofWords_of_ofWords_nil (h : ofWords words [] = .ok flags)
    (environment : Environment.Variables) :
    ofWords words environment =
      .ok { flags with baseUrl := flags.baseUrl <|> environment.lookup baseUrlVariable } := by
  obtain ⟨⟨reading, command⟩, hscan, h⟩ := bind_eq_ok_iff.mp h
  rcases command with _ | ⟨_ | _, rest⟩
  · obtain ⟨outer, -, h⟩ := bind_eq_ok_iff.mp h
    contradiction
  · obtain ⟨inside, hinside, h⟩ := bind_eq_ok_iff.mp h
    obtain ⟨inner, hinner, h⟩ := bind_eq_ok_iff.mp h
    obtain ⟨command, hcommand, h⟩ := bind_eq_ok_iff.mp h
    obtain ⟨outer, houter, h⟩ := bind_eq_ok_iff.mp h
    obtain rfl := Except.ok.inj h
    unfold ofWords
    simp only [hscan, hinside, hinner, hcommand, houter, ok_bind]
    simp [ofGiven, pure, Except.pure]
  · contradiction

theorem ending_ne_settings (outcome : Outcome) (fault : SettingsFault) :
    ending outcome ≠ .failed (.settings fault) := by
  rcases outcome with failure | _ | answer <;> simp [ending]

/-- A run fails by its settings just when they cannot be loaded. -/
theorem exists_load_iff (hwords : Invocation.ofWords words s.environment = .ok i) :
    (∀ fault, (run s words).2.ending ≠ .failed (.settings fault)) ↔
      ∃ loaded, ProbeSettings.load s.directory s.environment i.config = .ok loaded := by
  cases hprepare : prepare s.directory s.environment i with
  | error report =>
    rw [run_of_prepare_eq_error hwords hprepare]
    rcases cases_of_prepare_eq_error hprepare with
      ⟨fault, hload, hending⟩ | ⟨loaded, hload, ⟨fault, -, hending⟩ | ⟨error, -, hending⟩⟩
    · simp [hload, hending]
    · simp [hload, hending]
    · simp [hload, hending]
  | ok p =>
    obtain ⟨loaded, hload, -⟩ := exists_of_prepare_eq_ok hprepare
    rw [(run_of_prepare_eq_ok hwords hprepare).2]
    exact ⟨fun _ => ⟨loaded, hload⟩, fun _ => ending_ne_settings _⟩

/-- What comes after loading replaces the base URL that was loaded. -/
theorem Invocation.some_baseUrl_override (i : Invocation) (loaded : ProbeSettings) :
    some (i.override loaded).gateway.baseUrl = (i.baseUrl <|> some loaded.gateway.baseUrl) := by
  unfold override
  cases i.baseUrl <;> rfl

theorem baseUrl_of_prepare_eq_ok {p : Prepared} {loaded : ProbeSettings}
    (hload : ProbeSettings.load s.directory s.environment i.config = .ok loaded)
    (hprepare : prepare s.directory s.environment i = .ok p) :
    p.config.baseUrl = Text.trimTrailing '/' (i.override loaded).gateway.baseUrl := by
  obtain ⟨loaded', hload', hconfig, -⟩ := exists_of_prepare_eq_ok hprepare
  obtain rfl := Except.ok.inj (hload.symm.trans hload')
  rw [hconfig]
  exact GatewaySettings.baseUrl_clientConfig _

/-- Items that are not built in are known from the other layers alone. -/
theorem orElse_builtIn (E F : SessionGateway.Given) {item : Item}
    (h : ProbeSettings.builtIn item = none) :
    (E item <|> F item <|> ProbeSettings.builtIn item) = (E item <|> F item) := by
  rw [h]
  simp

/-- A run gets past its settings just when the environment's settings or the file know a key and a
base URL. Then the option for the base URL comes first, then the variable that stands in for it, then
the environment's setting, and the file last; the slashes at the end are taken off. -/
theorem run_baseUrl {file : List (String × Setting)} {E F : SessionGateway.Given}
    (hflags : Invocation.ofWords words [] = .ok flags)
    (hlayer : ConfigFile.layer s.directory flags.config = .ok file)
    (hfile : ProbeSettings.Reads file F)
    (henvironment : ProbeSettings.Reads (Environment.layer s.environment) E) :
    let known : Option String := E (.gateway .baseUrl) <|> F (.gateway .baseUrl)
    ((∀ fault, (run s words).2.ending ≠ .failed (.settings fault)) ↔
      (E (.gateway .apiKey) <|> F (.gateway .apiKey)).isSome ∧ known.isSome) ∧
    ∃ i, Invocation.ofWords words s.environment = .ok i ∧
      ∀ loaded, ProbeSettings.load s.directory s.environment i.config = .ok loaded →
        (flags.baseUrl <|> s.environment.lookup baseUrlVariable <|> known) =
          some (i.override loaded).gateway.baseUrl ∧
        ∀ p, prepare s.directory s.environment i = .ok p →
          p.config.baseUrl = Text.trimTrailing '/' (i.override loaded).gateway.baseUrl := by
  intro known
  have hwords := Invocation.ofWords_of_ofWords_nil hflags s.environment
  have hload := ProbeSettings.load_of_reads hlayer hfile henvironment
  refine ⟨?_, _, hwords, fun loaded hloaded => ⟨?_, fun p => baseUrl_of_prepare_eq_ok hloaded⟩⟩
  · rw [exists_load_iff hwords, hload, ProbeSettings.exists_ofGiven_eq_ok_iff]
    rw [orElse_builtIn E F rfl, orElse_builtIn E F rfl]
    exact and_comm
  · have hget := ProbeSettings.ofGiven_eq_ok_iff.mp (hload.symm.trans hloaded) (.gateway .baseUrl)
    rw [orElse_builtIn E F rfl, Option.orElse_eq_orElse, Option.orElse_eq_or] at hget
    have hknown : known = some loaded.gateway.baseUrl := Option.or_none.symm.trans hget
    rw [Invocation.some_baseUrl_override, hknown]
    simp

def keyVariable : String × String := ("CAAS__GATEWAY__API_KEY", "key")

def keyOnly : SessionGateway.Given
  | .gateway .apiKey => some "key"
  | _ => none

theorem reads_keyVariable : ProbeSettings.Reads (Environment.layer [keyVariable]) keyOnly := by
  have hlayer : Environment.layer [keyVariable] =
      [((Item.gateway .apiKey).key, .scalar (some Environment.originName) (.text "key"))] := rfl
  rw [hlayer]
  constructor
  · intro i a ha
    rcases i with (_ | _ | _ | _) | (_ | _)
    case gateway.apiKey =>
      obtain rfl := Option.some.inj ha
      exact ⟨[], _, [], rfl, .key (Item.leadsTo_key _) rfl, nofun⟩
    all_goals contradiction
  · intro i hi e he
    obtain rfl := List.mem_singleton.mp he
    refine .away (Item.not_reaches_key fun hkey => ?_)
    rw [hkey] at hi
    contradiction

def healthOnly (baseUrl : Option String) : Invocation := ⟨.health, none, baseUrl, none, none, false⟩

/-- The environment has the key and stands in for the option, over a file with another base URL. -/
def variableGateway : Surroundings :=
  { Surroundings.answering [keyVariable, (baseUrlVariable, "http://[::1]/")]
      ⟨200, [], Text.utf8 "1".toList⟩ with directory := ProbeSettings.sampleDirectory }

/-- The variable's base URL is asked, not the file's. -/
theorem run_baseUrl_variable :
    Invocation.ofWords ["health"] [] = .ok (healthOnly none) ∧
      ProbeSettings.Reads (Environment.layer variableGateway.environment) keyOnly ∧
      (∃ file, ConfigFile.layer variableGateway.directory none = .ok file ∧
        ProbeSettings.Reads file ProbeSettings.sampleFile) ∧
      (∀ fault, (run variableGateway ["health"]).2.ending ≠ .failed (.settings fault)) ∧
      ∃ i, Invocation.ofWords ["health"] variableGateway.environment = .ok i ∧
        ∀ loaded, ProbeSettings.load variableGateway.directory variableGateway.environment
          i.config = .ok loaded → (i.override loaded).gateway.baseUrl = "http://[::1]/" := by
  have hflags : Invocation.ofWords ["health"] [] = .ok (healthOnly none) := by decide +kernel
  have henvironment : ProbeSettings.Reads (Environment.layer variableGateway.environment)
      keyOnly := by
    have hlayer : Environment.layer variableGateway.environment =
        Environment.layer [keyVariable] := rfl
    rw [hlayer]
    exact reads_keyVariable
  obtain ⟨file, hlayer, hsets⟩ := ProbeSettings.exists_layer ProbeSettings.gives_sampleFile
  obtain ⟨hloads, i, hwords, hused⟩ := run_baseUrl hflags hlayer hsets.reads henvironment
  refine ⟨hflags, henvironment, ⟨file, hlayer, hsets.reads⟩, hloads.mpr ⟨rfl, rfl⟩, i, hwords, ?_⟩
  intro loaded hload
  have hlookup : variableGateway.environment.lookup baseUrlVariable = some "http://[::1]/" := by
    decide +kernel
  have hfirst := (hused loaded hload).1
  rw [hlookup] at hfirst
  exact (Option.some.inj hfirst).symm

def keyGateway : Surroundings :=
  .answering [keyVariable] ⟨200, [], Text.utf8 "1".toList⟩

/-- The option gives a base URL and the environment a key; still the settings cannot be loaded,
because they lack a base URL of their own. -/
theorem run_baseUrl_option_alone :
    Invocation.ofWords ["--base-url", "http://[::1]", "health"] [] =
        .ok (healthOnly (some "http://[::1]")) ∧
      ConfigFile.layer keyGateway.directory none = .ok [] ∧
      ProbeSettings.Reads (Environment.layer keyGateway.environment) keyOnly ∧
      let known : Option String := keyOnly (.gateway .baseUrl)
      ¬ ((∀ fault, (run keyGateway ["--base-url", "http://[::1]", "health"]).2.ending ≠
          .failed (.settings fault)) ↔
        (keyOnly (.gateway .apiKey)).isSome ∧
          ((healthOnly (some "http://[::1]")).baseUrl <|>
            keyGateway.environment.lookup baseUrlVariable <|> known).isSome) := by
  have hwords : Invocation.ofWords ["--base-url", "http://[::1]", "health"]
      keyGateway.environment = .ok (healthOnly (some "http://[::1]")) := by decide +kernel
  have hload : ProbeSettings.load keyGateway.directory keyGateway.environment none =
      .error (.mismatch (.missingField "base_url")) := by decide +kernel
  refine ⟨by decide +kernel, rfl, reads_keyVariable, fun hclaim => ?_⟩
  obtain ⟨loaded, hloaded⟩ := (exists_load_iff hwords).mp (hclaim.mpr ⟨rfl, rfl⟩)
  exact nomatch hload.symm.trans hloaded

end Probe

end SessionGateway
