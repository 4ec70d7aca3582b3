import SessionGateway.Proofs.CallHeaders
import SessionGateway.Proofs.Run
import SessionGateway.Settings.Probe

/-! The API key goes into one header of the calls that it authenticates and nowhere else: two
clients that differ in their keys cannot be told apart by anything but that header. Calls that a
token authenticates do not show the configured project either. -/

namespace SessionGateway

def ClientConfig.withKey (config : ClientConfig) (key : String) : ClientConfig :=
  { config with apiKey := key }

def GatewaySettings.withKey (settings : GatewaySettings) (key : String) : GatewaySettings :=
  { settings with apiKey := key }

/-- Calls that a token authenticates instead of the key. -/
def Endpoint.isTokenOnly : Endpoint → Bool
  | refresh | logout => true
  | _ => false

def Request.without (request : Request) (name : String) : Request :=
  { request with headers := request.headers.without name }

namespace Call

variable (config : ClientConfig) (call : Call) (now : Millis) (suffix : String)

theorem project_withKey (key : String) :
    call.project (config.withKey key) = call.project config := by cases call <;> rfl

theorem body_withKey (key : String) :
    call.body (config.withKey key) = call.body config := by cases call <;> rfl

/-- The key is in the key's own row alone. -/
theorem table_withKey (key : String) :
    ((call.table (config.withKey key) now suffix).filter fun row =>
        !Text.sameName row.1 HeaderName.apiKey) =
      (call.table config now suffix).filter fun row =>
        !Text.sameName row.1 HeaderName.apiKey := by
  simp only [table, HeaderOptions.table, project_withKey, List.cons_append, List.filter_cons,
    Text.sameName_self, Bool.not_true, Bool.false_eq_true, ↓reduceIte]
  rfl

theorem request_withKey (key : String) :
    (call.request (config.withKey key) now suffix).without HeaderName.apiKey =
      (call.request config now suffix).without HeaderName.apiKey := by
  have hheaders : (call.headers (config.withKey key) now suffix).without HeaderName.apiKey =
      (call.headers config now suffix).without HeaderName.apiKey := by
    rw [without_headers, without_headers, table_withKey]
  simp only [Request.without, request, body_withKey, hheaders]
  rfl

/-- The request of a call that a token authenticates depends on the base URL alone. -/
theorem request_of_isTokenOnly (h : call.endpoint.isTokenOnly = true) (key : String)
    (project : Option String) :
    call.request { config with apiKey := key, projectId := project } now suffix =
      call.request config now suffix := by
  cases call with
  | refresh token => rfl
  | logout token => rfl
  | _ => cases h

theorem under_apiKey_headers : (call.headers config now suffix).under HeaderName.apiKey =
    if call.endpoint.isTokenOnly then [] else [(HeaderName.apiKey, config.apiKey)] := by
  have hrow : (HeaderName.apiKey, if call.options.apiKey then some config.apiKey else none) ∈
      call.table config now suffix := by simp [table, HeaderOptions.table]
  rw [under_headers hrow]
  cases call <;> rfl

end Call

/-- Two clients that differ in their keys give the same results, and their requests are the same
but for the key's header, call by call; a call that a token authenticates makes the same request
even in another project. The other calls show the key once and as it is, and shown settings do not
show it. -/
theorem run_apiKey_confined (config : ClientConfig) (key key' : String) (project : Option String)
    (asked : Asked) (answers : Answers) (calls : List Call) (settings : GatewaySettings)
    (logging : LoggingSettings) :
    let ours := Client.run answers ⟨config.withKey key, asked⟩ calls
    let theirs := Client.run answers ⟨config.withKey key', asked⟩ calls
    let elsewhere :=
      Client.run answers ⟨{ config with apiKey := key', projectId := project }, asked⟩ calls
    List.Forall₂ (fun s t => s.result = t.result ∧
      s.sent.map (·.without HeaderName.apiKey) = t.sent.map (·.without HeaderName.apiKey))
      ours theirs ∧
    List.Forall₂ (fun s t => s.sent.filter (·.endpoint.isTokenOnly) =
      t.sent.filter (·.endpoint.isTokenOnly)) ours elsewhere ∧
    (∀ step ∈ ours, ∀ request ∈ step.sent, request.headers.under HeaderName.apiKey =
      if request.endpoint.isTokenOnly then [] else [(HeaderName.apiKey, key)]) ∧
    (config.withKey key).shown = (config.withKey key').shown ∧
    (settings.withKey key).shown = (settings.withKey key').shown ∧
    (ProbeSettings.mk (settings.withKey key) logging).shown =
      (ProbeSettings.mk (settings.withKey key') logging).shown := by
  intro ours theirs elsewhere
  refine ⟨?_, ?_, ?_, rfl, rfl, rfl⟩
  · refine Client.forall₂_run_same (fun asked call => ?_) calls asked
    simp only [Client.step_eq, Call.requestFrom, List.map_cons, List.map_nil, true_and]
    rw [Call.request_withKey, Call.request_withKey]
  · refine Client.forall₂_run_same (fun asked call => ?_) calls asked
    simp only [Client.step_eq, Call.requestFrom]
    cases h : call.endpoint.isTokenOnly with
    | false => simp [Call.request, h]
    | true =>
      have hrequest := Call.request_of_isTokenOnly config call (answers.clock asked.clock)
        (answers.suffix asked.suffix) h
      have hours := hrequest key config.projectId
      have hothers := hrequest key' project
      exact congrArg (fun r => [r].filter (·.endpoint.isTokenOnly)) (hours.trans hothers.symm)
  · refine Client.forall_mem_run (fun asked call _ => ?_) asked
    simp only [Client.step_eq, Call.requestFrom, List.mem_singleton, forall_eq]
    exact Call.under_apiKey_headers (config.withKey key) call _ _

end SessionGateway
