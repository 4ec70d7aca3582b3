import SessionGateway.Proofs.Conduct
import SessionGateway.Proofs.Json.Reading

/-! What comes of a call for every reply: failures of the transport go through, and of a response
its status decides first and its text last. -/

namespace SessionGateway

open JsonText (AllBlank Spaced)

/-- What a call of an endpoint makes of a response. -/
structure Response.Settles (endpoint : Endpoint) (response : Response) (result : Outcome) :
    Prop where
  refused : 400 ≤ response.status → ∃ start : String,
    result = .error (.gateway endpoint response.status start) ∧
      start.toList <+: response.body.toList ∧ start.length = min 180 response.body.length
  empty : response.status = 204 → result = .ok none
  value : response.status < 400 → response.status ≠ 204 →
    ∀ v, result = .ok (some v) ↔ Json.ofText response.body = .ok v
  undecodable : response.status < 400 → response.status ≠ 204 →
    (¬ ∃ v, Json.ofText response.body = .ok v) → ∃ detail, result = .error (.decode detail)
  status : ∀ s, (∃ failure, result = .error failure ∧ failure.status? = some s) ↔
    response.status = s ∧ 400 ≤ s
  retryable : (∃ failure, result = .error failure ∧ failure.isRetryable = true) ↔
    response.status ∈ [429, 500, 502, 503, 504]
  /-- Values without reals come through in every layout, -/
  laidOut : response.status < 400 → response.status ≠ 204 → ∀ v, v.Plain 127 →
    Spaced v.tokens response.body.toList → result = .ok (some v)
  /-- and so in the compact one with blanks around. -/
  written : response.status < 400 → response.status ≠ 204 → ∀ v, v.Plain 127 →
    ∀ front back, AllBlank front → AllBlank back →
      response.body = String.ofList front ++ v.text ++ String.ofList back → result = .ok (some v)

namespace Response

variable {endpoint : Endpoint} {response : Response}

theorem outcome_of_refused (h : 400 ≤ response.status) :
    response.outcome endpoint = .error (.refusal endpoint response.status response.body) :=
  if_pos h

theorem outcome_of_noContent (h : response.status = 204) :
    response.outcome endpoint = .ok none := by
  simp [outcome, h]

/-- Behind the status, the text decides. -/
theorem outcome_of_content (h : response.status < 400) (hcontent : response.status ≠ 204) :
    response.outcome endpoint =
      match Json.ofText response.body with
      | .ok v => .ok (some v)
      | .error e => .error (.decode (endpoint.path ++ " returned invalid JSON: " ++ e.message)) :=
  (if_neg (Nat.not_le_of_lt h)).trans (if_neg hcontent)

/-- A property of everything that may come of a response. -/
theorem outcome_cases (endpoint : Endpoint) (response : Response) {motive : Outcome → Prop}
    (refused : 400 ≤ response.status →
      motive (.error (.refusal endpoint response.status response.body)))
    (empty : response.status = 204 → motive (.ok none))
    (value : response.status < 400 → ∀ v, motive (.ok (some v)))
    (undecodable : response.status < 400 → ∀ detail, motive (.error (.decode detail))) :
    motive (response.outcome endpoint) := by
  by_cases hrefused : 400 ≤ response.status
  · rw [outcome_of_refused hrefused]
    exact refused hrefused
  by_cases hempty : response.status = 204
  · rw [outcome_of_noContent hempty]
    exact empty hempty
  have hless : response.status < 400 := Nat.lt_of_not_le hrefused
  rw [outcome_of_content hless hempty]
  cases Json.ofText response.body with
  | ok v => exact value hless v
  | error e => exact undecodable hless _

theorem status?_outcome (endpoint : Endpoint) (response : Response) (s : Nat) :
    (∃ failure, response.outcome endpoint = .error failure ∧ failure.status? = some s) ↔
      response.status = s ∧ 400 ≤ s := by
  refine outcome_cases endpoint response (motive := fun result =>
    (∃ failure, result = .error failure ∧ failure.status? = some s) ↔ _)
    ?refused ?empty ?value ?undecodable
  case refused =>
    intro h
    simp only [Except.error.injEq, exists_eq_left', Failure.refusal, Failure.status?,
      Option.some.injEq]
    exact ⟨fun hs => ⟨hs, hs ▸ h⟩, And.left⟩
  case empty =>
    intro h
    simp
    omega
  case value =>
    intro h v
    simp
    omega
  case undecodable =>
    intro h detail
    simp [Failure.status?]
    omega

/-- Every status that may be got past is a refusal. -/
theorem le_of_mem_retryableStatuses {s : Nat} (h : s ∈ Failure.retryableStatuses) : 400 ≤ s := by
  simp only [Failure.retryableStatuses, List.mem_cons, List.not_mem_nil, or_false] at h
  omega

theorem isRetryable_outcome (endpoint : Endpoint) (response : Response) :
    (∃ failure, response.outcome endpoint = .error failure ∧ failure.isRetryable = true) ↔
      response.status ∈ Failure.retryableStatuses := by
  have hnot (h : response.status < 400) : response.status ∉ Failure.retryableStatuses :=
    fun hmem => Nat.not_le_of_lt h (le_of_mem_retryableStatuses hmem)
  refine outcome_cases endpoint response (motive := fun result =>
    (∃ failure, result = .error failure ∧ failure.isRetryable = true) ↔ _)
    ?refused ?empty ?value ?undecodable
  case refused =>
    intro _
    simp [Failure.refusal, Failure.isRetryable]
  case empty =>
    intro h
    simpa using hnot (by omega)
  case value =>
    intro h v
    simpa using hnot h
  case undecodable =>
    intro h detail
    simpa [Failure.isRetryable] using hnot h

theorem settles_outcome (endpoint : Endpoint) (response : Response) :
    response.Settles endpoint (response.outcome endpoint) where
  refused h := by
    refine ⟨_, outcome_of_refused h, ?_, ?_⟩
    · rw [String.toList_ofList]
      exact List.take_prefix ..
    · simp [Failure.bodyLimit, String.length_toList]
  empty := outcome_of_noContent
  value h hcontent v := by
    rw [outcome_of_content h hcontent]
    cases Json.ofText response.body <;> simp
  undecodable h hcontent hnone := by
    rw [outcome_of_content h hcontent]
    cases htext : Json.ofText response.body with
    | ok v => exact absurd ⟨v, htext⟩ hnone
    | error e => exact ⟨_, rfl⟩
  status := status?_outcome endpoint response
  retryable := isRetryable_outcome endpoint response
  laidOut h hcontent v hv hspaced := by
    rw [outcome_of_content h hcontent, Json.ofText_of_spaced hv hspaced]
  written h hcontent v hv front back hfront hback hbody := by
    rw [outcome_of_content h hcontent, hbody, Json.ofText_text_between hv hfront hback]

end Response

/-- Every call makes of its reply what its endpoint, the status and the text say. -/
theorem step_settles (answers : Answers) (client : Client) (call : Call) :
    match answers.reply client.asked.reply with
    | .error failure => (client.step answers call).result = .error failure
    | .ok response => response.Settles call.endpoint (client.step answers call).result := by
  rw [Client.step_eq]
  cases answers.reply client.asked.reply with
  | error failure => rfl
  | ok response => exact response.settles_outcome call.endpoint

end SessionGateway
