import SessionGateway.Proofs.Json.Rewriting
import SessionGateway.Proofs.Probe.Run

/-! What is left behind by an invocation of the probe. The result of its call is all that its output
and its exit code depend on, and where it makes no call, it fails and leaves nothing. -/

namespace SessionGateway.Probe

variable {s : Surroundings} {words : List String} {i : Invocation}

/-- The ending tells the result: the exit code is zero just if there is one, and the output is the
answer, spread over lines, if there is one. Whether the answer holds tokens makes no difference. -/
structure Ending.Tells (e : Ending) (result : Outcome) : Prop where
  exitCode : e.exitCode = 0 ↔ ∃ answer, result = .ok answer
  failed : ∀ failure, result = .error failure → e.output = ""
  nothing : result = .ok none → e.output = ""
  answered : ∀ v, result = .ok (some v) →
    e.output = v.spreadText ++ "\n" ∧ (v.RealFree → Json.ofText v.spreadText = .ok v)

/-- An answer is the value of some text. -/
theorem exists_ofText_of_outcome {reply : Reply} {endpoint : Endpoint} {v : Json}
    (h : reply.outcome endpoint = .ok (some v)) : ∃ text, Json.ofText text = .ok v := by
  cases reply with
  | error failure => contradiction
  | ok response =>
    simp only [Reply.outcome, Response.outcome] at h
    split at h
    · contradiction
    · split at h
      · cases Except.ok.inj h
      · split at h
        · rename_i hv
          obtain rfl := Option.some.inj (Except.ok.inj h)
          exact ⟨_, hv⟩
        · contradiction

theorem tells_ending (reply : Reply) (endpoint : Endpoint) :
    (ending (reply.outcome endpoint)).Tells (reply.outcome endpoint) := by
  constructor
  case exitCode =>
    rcases reply.outcome endpoint with failure | _ | v <;> simp [ending, Ending.exitCode]
  case failed =>
    intro failure h
    rw [h]
    rfl
  case nothing =>
    intro h
    rw [h]
    rfl
  case answered =>
    intro v h
    obtain ⟨text, hv⟩ := exists_ofText_of_outcome h
    rw [h]
    exact ⟨rfl, Json.ofText_spreadText hv⟩

/-- An invocation that is kept from its call sends nothing, says nothing and fails. Any other makes
the call that its command asks for and no other, and its ending tells the result. -/
theorem run_effects (h : Invocation.ofWords words s.environment = .ok i) :
    let sent := (run s words).1
    let ending := (run s words).2.ending
    (Prevented s.directory s.environment i →
      sent = [] ∧ ending.output = "" ∧ ending.exitCode ≠ 0) ∧
    (¬ Prevented s.directory s.environment i → ∃ loaded call,
      ProbeSettings.load s.directory s.environment i.config = .ok loaded ∧
      i.command.Asks call ∧
      let made := s.callOver (i.clientConfig loaded) call
      sent = made.1 ∧ ending.Tells made.2.result) := by
  cases hprepare : prepare s.directory s.environment i with
  | error report =>
    obtain ⟨hprevented, fault, hfault⟩ := prevented_of_prepare_eq_error hprepare
    refine ⟨fun _ => ?_, fun hfree => absurd hprevented hfree⟩
    rw [run_of_prepare_eq_error h hprepare]
    dsimp only
    rw [hfault]
    exact ⟨rfl, rfl, Nat.one_ne_zero⟩
  | ok p =>
    refine ⟨fun hprevented => absurd hprevented (not_prevented_of_prepare_eq_ok hprepare),
      fun _ => ?_⟩
    obtain ⟨loaded, hload, hconfig, -, hasks⟩ := exists_of_prepare_eq_ok hprepare
    obtain ⟨hsent, hending⟩ := run_of_prepare_eq_ok h hprepare
    refine ⟨loaded, p.call, hload, hasks, ?_⟩
    dsimp only
    rw [← hconfig, hsent, hending]
    refine ⟨rfl, ?_⟩
    simp only [Surroundings.callOver, Http.callOver, Client.step_eq]
    exact tells_ending _ _

/-- A gateway that answers everything by a list. -/
def listGateway : Surroundings :=
  .answering [("CAAS__GATEWAY__BASE_URL", "http://[::1]"), ("CAAS__GATEWAY__API_KEY", "key")]
    ⟨200, [], Text.utf8 "[ ]".toList⟩

def listSettings : ProbeSettings := ⟨⟨"http://[::1]", "key", none, .ofInt 10⟩, "info", false⟩

def sessionOnly : Invocation := ⟨.session "user" none none, none, none, none, none, false⟩

/-- A session that is answered by something else than tokens is told like any other. -/
theorem run_effects_session :
    Invocation.ofWords ["session", "user"] listGateway.environment = .ok sessionOnly ∧
      ¬ Prevented listGateway.directory listGateway.environment sessionOnly ∧
      (run listGateway ["session", "user"]).1.length = 1 ∧
      (run listGateway ["session", "user"]).2.ending.output = "[]\n" ∧
      ∃ loaded call, sessionOnly.command.Asks call ∧
        (run listGateway ["session", "user"]).2.ending.Tells
          (listGateway.callOver (sessionOnly.clientConfig loaded) call).2.result := by
  have hwords : Invocation.ofWords ["session", "user"] listGateway.environment =
      .ok sessionOnly := by decide +kernel
  have hload : ProbeSettings.load listGateway.directory listGateway.environment
      sessionOnly.config = .ok listSettings := by decide +kernel
  have htimeout : (sessionOnly.clientConfig listSettings).timeout = .ok ⟨10, 0⟩ := by
    decide +kernel
  have hfree : ¬ Prevented listGateway.directory listGateway.environment sessionOnly := by
    rintro (hfault | ⟨hloaded, hfault⟩ | ⟨hcommand, -⟩)
    · exact nomatch hload.symm.trans hfault
    · obtain rfl := Except.ok.inj (hload.symm.trans hloaded)
      exact nomatch htimeout.symm.trans hfault
    · exact absurd (Command.session.inj hcommand).2.2 nofun
  obtain ⟨loaded, call, -, hasks, -, htells⟩ := (run_effects hwords).2 hfree
  exact ⟨hwords, hfree, by decide +kernel, by decide +kernel, loaded, call, hasks, htells⟩

end SessionGateway.Probe
