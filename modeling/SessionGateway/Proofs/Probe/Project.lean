import SessionGateway.Proofs.GuardedHeaders
import SessionGateway.Proofs.Probe.Run
import SessionGateway.Proofs.SessionProject

/-! The project that an invocation of the probe asks in. It may be named for the session alone, on
the command line, or by the loaded settings; an empty name counts as none for the session, but on the
command line it hides the settings' project. -/

namespace SessionGateway

theorem GatewaySettings.projectId_clientConfig (g : GatewaySettings) :
    g.clientConfig.projectId = g.projectId.bind nonempty? := by
  obtain ⟨baseUrl, apiKey, _ | project, timeout⟩ := g <;> rfl

/-- A text that is left out when it is empty is passed over in either case. -/
theorem firstNonempty_concat_bind (texts : List (Option String)) (text : Option String) :
    firstNonempty (texts ++ [text.bind nonempty?]) = firstNonempty (texts ++ [text]) := by
  cases text with
  | none => rfl
  | some s => by_cases hs : s = "" <;> simp [firstNonempty, nonempty?, hs]

namespace Probe

/-- The projects that an invocation knows for its requests, the nearest first. -/
def Invocation.projects (i : Invocation) (loaded : ProbeSettings) : List (Option String) :=
  let known := i.project <|> loaded.gateway.projectId
  match i.command with
  | .session _ own _ => [own, known]
  | .health | .capabilities => [known]
  | .refresh _ | .logout _ => []

section

variable {i : Invocation} {loaded : ProbeSettings} {call : Call}

theorem Invocation.projectId_clientConfig (i : Invocation) (loaded : ProbeSettings) :
    (i.clientConfig loaded).projectId =
      (i.project <|> loaded.gateway.projectId).bind nonempty? :=
  GatewaySettings.projectId_clientConfig _

/-- The project of a session is asked for in the header and in the body. -/
theorem Invocation.asksSession_request (loaded : ProbeSettings) {user : String} {own text : Option String}
    {payload : SessionPayload} (hcommand : i.command = .session user own text)
    (h : i.command.Asks (.session payload)) (now : Millis) (suffix : String) :
    ((Call.session payload).request (i.clientConfig loaded) now suffix).AsksSession user
      (firstNonempty (i.projects loaded)) payload.userData := by
  have hpayload : payload.userExternalId = user ∧ payload.projectId = own := by
    rw [hcommand] at h
    cases h <;> exact ⟨rfl, rfl⟩
  have hprojects : firstNonempty (i.projects loaded) =
      firstNonempty [payload.projectId, (i.clientConfig loaded).projectId] := by
    rw [projectId_clientConfig, projects, hcommand, hpayload.2]
    exact (firstNonempty_concat_bind [own] _).symm
  rw [← hpayload.1, hprojects]
  exact Call.asksSession_request _ payload now suffix

end

variable {s : Surroundings} {words : List String} {i : Invocation} {loaded : ProbeSettings}
  {first : Http.WireRequest} {rest : List Http.WireRequest}

end Probe

end SessionGateway
