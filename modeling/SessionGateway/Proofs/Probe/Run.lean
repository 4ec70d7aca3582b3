import SessionGateway.Http.Reply
import SessionGateway.Probe.Run
import SessionGateway.Proofs.Conduct
import SessionGateway.Proofs.Json.Record

/-! How an invocation of the probe comes to its call. Either something keeps it from the call, and
then that is all there is to tell; or it makes the one call that its command asks for. -/

namespace SessionGateway.Probe

/-- The command asks for the call. User data are asked for as the object that their text is. -/
inductive Command.Asks : Command → Call → Prop where
  | health : Asks .health .health
  | capabilities : Asks .capabilities .capabilities
  | session (user : String) (project : Option String) :
      Asks (.session user project none) (.session ⟨user, project, none⟩)
  | sessionWith (user : String) (project : Option String) {text : String} {data : Members}
      (h : Json.ofText text = .ok (.object data)) :
      Asks (.session user project (some text)) (.session ⟨user, project, some data⟩)
  | refresh (token : String) : Asks (.refresh token) (.refresh token)
  | logout (token : String) : Asks (.logout token) (.logout token)

theorem Command.call_eq_ok_iff {command : Command} {call : Call} :
    command.call = .ok call ↔ command.Asks call := by
  constructor
  · intro h
    cases command with
    | health =>
      obtain rfl := Except.ok.inj h
      exact .health
    | capabilities =>
      obtain rfl := Except.ok.inj h
      exact .capabilities
    | session user project userData =>
      cases userData with
      | none =>
        obtain rfl := Except.ok.inj h
        exact .session user project
      | some text =>
        obtain ⟨data, hdata, h⟩ := bind_eq_ok_iff.mp h
        obtain rfl := Except.ok.inj h
        exact .sessionWith user project (JsonText.readField?_mapField_eq_ok_iff.mp hdata)
    | refresh token =>
      obtain rfl := Except.ok.inj h
      exact .refresh token
    | logout token =>
      obtain rfl := Except.ok.inj h
      exact .logout token
  · intro h
    cases h with
    | sessionWith user project hdata =>
      apply bind_eq_ok_iff.mpr
      exact ⟨_, JsonText.readField?_mapField_eq_ok_iff.mpr hdata, rfl⟩
    | _ => rfl

section

variable {directory : Directory} {environment : Environment.Variables} {i : Invocation}

/-- The settings of the client that an invocation makes its call with. -/
def Invocation.clientConfig (i : Invocation) (loaded : ProbeSettings) : ClientConfig :=
  (i.override loaded).gateway.clientConfig

/-- A run that is ready has loaded its settings, and knows its call and how long it may take. -/
theorem exists_of_prepare_eq_ok {p : Prepared} (h : prepare directory environment i = .ok p) :
    ∃ loaded, ProbeSettings.load directory environment i.config = .ok loaded ∧
      p.config = i.clientConfig loaded ∧ p.config.timeout = .ok p.timeout ∧
      i.command.Asks p.call := by
  unfold prepare at h
  split at h
  · contradiction
  · rename_i loaded hload
    dsimp only at h
    split at h
    · contradiction
    · contradiction
    · rename_i timeout call htimeout hcall
      obtain rfl := Except.ok.inj h
      exact ⟨loaded, hload, rfl, htimeout, Command.call_eq_ok_iff.mp hcall⟩

/-- A run that is not ready fails by its settings, by the timeout, or by the user's data. -/
theorem cases_of_prepare_eq_error {report : Report}
    (h : prepare directory environment i = .error report) :
    (∃ fault, ProbeSettings.load directory environment i.config = .error fault ∧
      report.ending = .failed (.settings fault)) ∨
    ∃ loaded, ProbeSettings.load directory environment i.config = .ok loaded ∧
      ((∃ fault, (i.clientConfig loaded).timeout = .error fault ∧
        report.ending = .failed (.call fault.failure)) ∨
      ∃ error, i.command.call = .error error ∧ report.ending = .failed (.userData error)) := by
  unfold prepare at h
  split at h
  · rename_i fault hload
    obtain rfl := Except.error.inj h
    exact .inl ⟨fault, hload, rfl⟩
  · rename_i loaded hload
    refine .inr ⟨loaded, hload, ?_⟩
    dsimp only at h
    split at h
    · rename_i fault htimeout
      obtain rfl := Except.error.inj h
      exact .inl ⟨fault, htimeout, rfl⟩
    · rename_i error _ hcall
      obtain rfl := Except.error.inj h
      exact .inr ⟨error, hcall, rfl⟩
    · contradiction

/-- What keeps an invocation from its call: settings that cannot be loaded, a timeout that is none,
or user data that are no object. -/
inductive Prevented (directory : Directory) (environment : Environment.Variables)
    (i : Invocation) : Prop where
  | settings {fault : SettingsFault}
      (h : ProbeSettings.load directory environment i.config = .error fault)
  | timeout {loaded : ProbeSettings} {fault : TimeoutFault}
      (hload : ProbeSettings.load directory environment i.config = .ok loaded)
      (h : (i.clientConfig loaded).timeout = .error fault)
  | userData {user text : String} {project : Option String}
      (hcommand : i.command = .session user project (some text))
      (h : ∀ data, Json.ofText text ≠ .ok (.object data))

/-- The user's data are all that a command can fail by. -/
theorem exists_userData_of_call_eq_error {command : Command} {error : JsonText.ReadError}
    (h : command.call = .error error) : ∃ user project text,
      command = .session user project (some text) ∧
        ∀ data, Json.ofText text ≠ .ok (.object data) := by
  cases command with
  | session user project userData =>
    cases userData with
    | none => contradiction
    | some text =>
      refine ⟨user, project, text, rfl, fun data hdata => ?_⟩
      rw [Command.call_eq_ok_iff.mpr (.sessionWith user project hdata)] at h
      contradiction
  | _ => contradiction

theorem prevented_of_prepare_eq_error {report : Report}
    (h : prepare directory environment i = .error report) :
    Prevented directory environment i ∧ ∃ fault, report.ending = .failed fault := by
  rcases cases_of_prepare_eq_error h with
    ⟨fault, hload, hending⟩ | ⟨loaded, hload, ⟨fault, htimeout, hending⟩ | ⟨error, hcall, hending⟩⟩
  · exact ⟨.settings hload, _, hending⟩
  · exact ⟨.timeout hload htimeout, _, hending⟩
  · obtain ⟨user, project, text, hcommand, hdata⟩ := exists_userData_of_call_eq_error hcall
    exact ⟨.userData hcommand hdata, _, hending⟩

theorem not_prevented_of_prepare_eq_ok {p : Prepared}
    (h : prepare directory environment i = .ok p) : ¬ Prevented directory environment i := by
  obtain ⟨loaded, hload, hconfig, htimeout, hasks⟩ := exists_of_prepare_eq_ok h
  rintro (hfault | ⟨hload', hfault⟩ | ⟨hcommand, hdata⟩)
  · rw [hload] at hfault
    contradiction
  · obtain rfl := Except.ok.inj (hload.symm.trans hload')
    rw [hconfig, hfault] at htimeout
    contradiction
  · rw [hcommand] at hasks
    generalize p.call = call at hasks
    cases hasks with
    | sessionWith user project h => exact hdata _ h

end

/-! ## Runs -/

def Surroundings.sources (s : Surroundings) : Sources := ⟨fun _ => s.now, fun _ => s.suffix⟩

/-- A call of a client that has made none: the requests on the wire, and the client's dealings. -/
def Surroundings.callOver (s : Surroundings) (config : ClientConfig) (call : Call) :
    List Http.WireRequest × Step :=
  Http.callOver (proxiesOf s.environment) s.network s.sources s.elapsed (Client.fresh config) call

section

variable {s : Surroundings} {words : List String} {i : Invocation}

theorem run_of_prepare_eq_error {report : Report} (h : Invocation.ofWords words s.environment = .ok i)
    (hprepare : prepare s.directory s.environment i = .error report) :
    run s words = ([], report) := by
  simp only [run, h, hprepare]

/-- A run that is ready makes its call, and ends by the call's result. -/
theorem run_of_prepare_eq_ok {p : Prepared} (h : Invocation.ofWords words s.environment = .ok i)
    (hprepare : prepare s.directory s.environment i = .ok p) :
    (run s words).1 = (s.callOver p.config p.call).1 ∧
      (run s words).2.ending = ending (s.callOver p.config p.call).2.result := by
  simp only [run, h, hprepare, Surroundings.callOver, Http.callOver, Client.step_eq]
  exact ⟨rfl, rfl⟩

end

/-- Surroundings without files, where everything is answered by one reply. -/
def Surroundings.answering (environment : Environment.Variables) (reply : Http.SizedReply) :
    Surroundings :=
  ⟨⟨"", fun _ => none⟩, environment, fun _ _ => some ⟨reply.bytes, false⟩, 1700000000000, "n", "0"⟩

end SessionGateway.Probe
