import SessionGateway.Client.Run

/-! What performing a conduct comes to. One conduct after another sends and logs what the two do, in
their order; a call's conduct sends the call's request and nothing else. -/

namespace SessionGateway

/-- What is seen of two dealings, one after the other. -/
def Performed.andThen {α β : Type} (first : Performed α) (rest : Performed β) : Performed β :=
  ⟨rest.result, first.sent ++ rest.sent, first.log ++ rest.log, rest.asked⟩

namespace Conduct

variable {α β : Type} (answers : Answers) (asked : Asked)

@[simp] theorem perform_pure (a : α) :
    (pure a : Conduct α).perform answers asked = ⟨a, [], [], asked⟩ := rfl

@[simp] theorem perform_now : now.perform answers asked =
    ⟨answers.clock asked.clock, [], [], { asked with clock := asked.clock + 1 }⟩ := rfl

@[simp] theorem perform_suffix : suffix.perform answers asked =
    ⟨answers.suffix asked.suffix, [], [], { asked with suffix := asked.suffix + 1 }⟩ := rfl

@[simp] theorem perform_reply (request : Request) : (reply request).perform answers asked =
    ⟨(answers.reply asked.reply, answers.elapsed asked.reply), [request], [],
      { asked with reply := asked.reply + 1 }⟩ := rfl

@[simp] theorem perform_say (event : LogEvent) :
    (say event).perform answers asked = ⟨(), [], [event], asked⟩ := rfl

@[simp] theorem perform_bind (x : Conduct α) (f : α → Conduct β) :
    (x >>= f).perform answers asked =
      let first := x.perform answers asked
      first.andThen ((f first.result).perform answers first.asked) := by
  change (x.bind f).perform answers asked = _
  induction x generalizing asked with
  | done a => rfl
  | readsClock next ih => exact ih _ _
  | asksSuffix next ih => exact ih _ _
  | sends request next ih =>
    simp only [Conduct.bind, perform, ih, Performed.andThen, List.cons_append]
  | tells event rest ih =>
    simp only [Conduct.bind, perform, ih, Performed.andThen, List.cons_append]

end Conduct

variable (answers : Answers) (asked : Asked)

/-- Without a nonce, the suffix that there would be does not matter. -/
theorem buildHeaders_suffix {options : HeaderOptions} (h : options.idempotency = false)
    (config : ClientConfig) (project : Option String) (now : Millis) (suffix other : String) :
    buildHeaders config options project now suffix =
      buildHeaders config options project now other := by
  simp [buildHeaders, h]

theorem ClientConfig.perform_headers (config : ClientConfig) (options : HeaderOptions)
    (project : Option String) : (config.headers options project).perform answers asked =
      ⟨buildHeaders config options project (answers.clock asked.clock)
        (answers.suffix asked.suffix), [], [],
        ⟨asked.clock + 1, asked.suffix + options.idempotency.toNat, asked.reply⟩⟩ := by
  cases h : options.idempotency with
  | true => simp [ClientConfig.headers, h, Performed.andThen]
  | false =>
    have hsuffix := buildHeaders_suffix h config project (answers.clock asked.clock) ""
      (answers.suffix asked.suffix)
    simp [ClientConfig.headers, h, Performed.andThen, hsuffix]

theorem Response.perform_conclude (endpoint : Endpoint) (response : Response) (elapsed : String) :
    (response.conclude endpoint elapsed).perform answers asked =
      ⟨response.outcome endpoint, [],
        if response.status ≥ 400 then
          [(CallEvent.rejected endpoint response.status).logged elapsed] else [],
        asked⟩ := by
  by_cases h : response.status ≥ 400 <;> simp [Response.conclude, h, Performed.andThen]

theorem Request.perform_conduct (request : Request) :
    request.conduct.perform answers asked =
      ⟨(answers.reply asked.reply).outcome request.endpoint, [request],
        (request.events (answers.reply asked.reply)).map (·.logged (answers.elapsed asked.reply)),
        { asked with reply := asked.reply + 1 }⟩ := by
  cases h : answers.reply asked.reply with
  | error failure => simp [Request.conduct, h, Performed.andThen, Reply.outcome, Request.events]
  | ok response =>
    by_cases hs : response.status ≥ 400 <;>
      simp [Request.conduct, h, Performed.andThen, Response.perform_conclude, Reply.outcome,
        Request.events, hs]

/-- How far a call gets a client with its sources. -/
def Asked.after (asked : Asked) (call : Call) : Asked :=
  ⟨asked.clock + 1, asked.suffix + call.options.idempotency.toNat, asked.reply + 1⟩

/-- A call makes its one request, and everything else is decided by the reply. -/
theorem Client.step_eq (client : Client) (call : Call) :
    client.step answers call =
      let request := call.requestFrom client.config answers.toSources client.asked
      let reply := answers.reply client.asked.reply
      ⟨reply.outcome call.endpoint, [request],
        (request.events reply).map (·.logged (answers.elapsed client.asked.reply)),
        client.asked.after call⟩ := by
  simp [Client.step, Call.conduct, ClientConfig.perform_headers, Request.perform_conduct,
    Performed.andThen, Call.requestFrom, Call.request, Call.headers, Asked.after]

end SessionGateway
