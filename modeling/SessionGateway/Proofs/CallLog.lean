import SessionGateway.Proofs.CallHeaders
import SessionGateway.Proofs.Run

/-! What a client's log says of a call is a function of the endpoint, the clock reading and whether
there was a response of which status. So it is complete as to these, and nothing that is secret can
be told from it: not keys, tokens, users, payloads or bodies. -/

namespace SessionGateway

/-- The value of a field. -/
def LogEvent.field? (event : LogEvent) (name : String) : Option LogValue := event.fields.lookup name

/-- The event but for the time that the exchange took. -/
def LogEvent.untimed (event : LogEvent) : LogEvent :=
  { event with fields := event.fields.filter (·.1 ≠ "duration_ms") }

def Endpoint.method : Endpoint → Method
  | health | capabilities => .get
  | _ => .post

/-- A reply without the text of its response. -/
abbrev Verdict := Except Failure Nat

def Reply.verdict (reply : Reply) : Verdict := Except.map Response.status reply

namespace Verdict

def status? : Verdict → Option Nat
  | .ok status => some status
  | .error _ => none

def failure? : Verdict → Option Failure
  | .ok _ => none
  | .error failure => some failure

/-- What is told of a call that ends so. -/
def events (method : Method) (endpoint : Endpoint) (id : String) : Verdict → List CallEvent
  | .error failure => [.failed method endpoint id failure]
  | .ok status =>
    .answered method endpoint id status ::
      if status ≥ 400 then [.rejected endpoint status] else []

end Verdict

/-- What the log of a call says of the request that was sent and how it ended: one event that can
be matched with the request, and one warning if the request was refused. -/
structure Tells (request : Request) (verdict : Verdict) (debug : LogEvent)
    (warnings : List LogEvent) : Prop where
  level : debug.level = .debug
  method : debug.field? "method" = some (.text request.method.name)
  path : debug.field? "path" = some (.text request.endpoint.path)
  correlationId : ∃ id, request.headers.under HeaderName.correlationId =
    [(HeaderName.correlationId, id)] ∧ debug.field? "correlation_id" = some (.text id)
  status : debug.field? "status" = verdict.status?.map fun status => .text (toString status)
  error : debug.field? "error" = verdict.failure?.map fun failure => .text failure.message
  warnings : warnings.map (·.level) = if verdict.status?.any (· ≥ 400) then [.warn] else []

theorem Call.method_eq (call : Call) : call.method = call.endpoint.method := by
  cases call <;> rfl

theorem Call.under_correlationId_headers (config : ClientConfig) (call : Call) (now : Millis)
    (suffix : String) : (call.headers config now suffix).under HeaderName.correlationId =
      [(HeaderName.correlationId, correlationId now)] := by
  have hrow : (HeaderName.correlationId, some (correlationId now)) ∈
      call.table config now suffix := by simp [table, HeaderOptions.table]
  exact under_headers hrow

theorem Request.events_eq (request : Request) (reply : Reply) :
    request.events reply = reply.verdict.events request.method request.endpoint
      ((request.headers.get? HeaderName.correlationId).getD "") := by
  cases reply <;> rfl

theorem CallEvent.untimed_logged (event : CallEvent) (elapsed other : String) :
    (event.logged elapsed).untimed = (event.logged other).untimed := by
  cases event <;> simp [logged, LogEvent.untimed]

namespace Client

variable (answers : Answers) (client : Client) (call : Call)

theorem log_step : (client.step answers call).log =
    ((answers.reply client.asked.reply).verdict.events call.endpoint.method call.endpoint
      (correlationId (answers.clock client.asked.clock))).map
        (·.logged (answers.elapsed client.asked.reply)) := by
  have hid : ((call.requestFrom client.config answers.toSources client.asked).headers.get?
      HeaderName.correlationId) = some (correlationId (answers.clock client.asked.clock)) := by
    rw [HeaderList.get?_eq, Call.requestFrom, Call.request, Call.under_correlationId_headers]
    rfl
  rw [step_eq]
  simp only [Request.events_eq, hid, Option.getD_some]
  simp only [Call.requestFrom, Call.request, Call.method_eq]

/-- The time of the exchange apart, the log depends on what anybody may know. -/
theorem untimed_log_step : (client.step answers call).log.map LogEvent.untimed =
    ((answers.reply client.asked.reply).verdict.events call.endpoint.method call.endpoint
      (correlationId (answers.clock client.asked.clock))).map fun e => (e.logged "").untimed := by
  rw [log_step, List.map_map]
  apply List.map_congr_left
  intro e _
  exact e.untimed_logged _ _

theorem exists_tells : ∃ request debug warnings,
    (client.step answers call).sent = [request] ∧
    (client.step answers call).log = debug :: warnings ∧
    Tells request (answers.reply client.asked.reply).verdict debug warnings := by
  have hunder := Call.under_correlationId_headers client.config call
    (answers.clock client.asked.clock) (answers.suffix client.asked.suffix)
  have hsent := congrArg Performed.sent (step_eq answers client call)
  have hlog := log_step answers client call
  cases hv : (answers.reply client.asked.reply).verdict with
  | error failure =>
    rw [hv, Verdict.events, List.map_singleton] at hlog
    exact ⟨_, _, _, hsent, hlog,
      { level := rfl, method := by rw [← Call.method_eq]; rfl, path := rfl,
        correlationId := ⟨_, hunder, rfl⟩, status := rfl, error := rfl, warnings := rfl }⟩
  | ok status =>
    rw [hv, Verdict.events, List.map_cons] at hlog
    refine ⟨_, _, _, hsent, hlog,
      { level := rfl, method := by rw [← Call.method_eq]; rfl, path := rfl,
        correlationId := ⟨_, hunder, rfl⟩, status := rfl, error := rfl, warnings := ?_ }⟩
    by_cases hs : status ≥ 400 <;> simp [Verdict.status?, hs, CallEvent.logged]

end Client

/-- The log of a call tells of the request that was sent and how it ended. Two runs of the same
operations in the same order whose clocks read the same, whose transports fail alike and whose
responses have the same statuses give the same log, whatever else is different. -/
theorem log_complete_and_public (answers others : Answers) :
    (∀ (client : Client) (call : Call), ∃ request debug warnings,
      (client.step answers call).sent = [request] ∧
      (client.step answers call).log = debug :: warnings ∧
      Tells request (answers.reply client.asked.reply).verdict debug warnings) ∧
    (∀ (config other : ClientConfig) (asked : Asked) (calls calls' : List Call),
      List.Forall₂ (fun call call' => call.endpoint = call'.endpoint) calls calls' →
      (∀ n, answers.clock n = others.clock n) →
      (∀ n, (answers.reply n).verdict = (others.reply n).verdict) →
      (Client.run answers ⟨config, asked⟩ calls).flatMap (·.log.map LogEvent.untimed) =
        (Client.run others ⟨other, asked⟩ calls').flatMap (·.log.map LogEvent.untimed)) := by
  refine ⟨Client.exists_tells answers, ?_⟩
  intro config other asked calls calls' hcalls hclock hreply
  have hlogs : List.Forall₂ (fun s t : Step => s.log.map LogEvent.untimed =
      t.log.map LogEvent.untimed) (Client.run answers ⟨config, asked⟩ calls)
        (Client.run others ⟨other, asked⟩ calls') := by
    refine Client.forall₂_run ?_ ?_ hcalls asked
    · intro call call' h
      cases call <;> cases call' <;> first | rfl | cases h
    · intro asked call call' h
      simp only [Client.untimed_log_step, h, hclock, hreply]
  have hmaps : (Client.run answers ⟨config, asked⟩ calls).map (·.log.map LogEvent.untimed) =
      (Client.run others ⟨other, asked⟩ calls').map (·.log.map LogEvent.untimed) := by
    rw [← List.forall₂_eq_eq_eq, List.forall₂_map_left_iff, List.forall₂_map_right_iff]
    exact hlogs
  rw [List.flatMap_def, List.flatMap_def, hmaps]

/-- Two users with keys, tokens and gateways of their own leave the same log. -/
theorem log_of_two_users :
    let answers : Answers :=
      ⟨⟨fun _ => 1700000000000, fun _ => "n0nce123"⟩, fun _ => .ok ⟨401, "token at-1"⟩,
        fun _ => "12"⟩
    let others : Answers :=
      ⟨⟨fun _ => 1700000000000, fun _ => "zzzzzzzz"⟩, fun _ => .ok ⟨401, ""⟩, fun _ => "7"⟩
    let calls : List Call := [.sessionFor "user-42" none, .refresh "rt-1"]
    let calls' : List Call := [.sessionFor "user-7" (some "project-1"), .refresh "rt-2"]
    List.Forall₂ (fun call call' => call.endpoint = call'.endpoint) calls calls' ∧
    (∀ n, answers.clock n = others.clock n) ∧
    (∀ n, (answers.reply n).verdict = (others.reply n).verdict) ∧
    (Client.run answers ⟨.new "https://gw" "key-1", .none⟩ calls).flatMap
        (·.log.map LogEvent.untimed) =
      (Client.run others ⟨.new "https://gw.example.com" "key-2", .none⟩ calls').flatMap
        (·.log.map LogEvent.untimed) := by
  intro answers others calls calls'
  have hcalls : List.Forall₂ (fun call call' => Call.endpoint call = Call.endpoint call')
      calls calls' := .cons rfl (.cons rfl .nil)
  have hclock (n : Nat) : answers.clock n = others.clock n := rfl
  have hreply (n : Nat) : (answers.reply n).verdict = (others.reply n).verdict := rfl
  exact ⟨hcalls, hclock, hreply,
    (log_complete_and_public answers others).2 _ _ _ calls calls' hcalls hclock hreply⟩

end SessionGateway
