import SessionGateway.Proofs.CallHeaders
import SessionGateway.Proofs.Conduct
import SessionGateway.Proofs.Members

/-! A session request names one project: the first that is not empty, of the payload's and the
configured one. Header and body name the same or none, whatever the user's data hold. -/

namespace SessionGateway

/-- The first text that is given and not empty. -/
def firstNonempty (texts : List (Option String)) : Option String :=
  (texts.filterMap id).find? (· ≠ "")

theorem bind_nonempty? (text : Option String) (rest : List (Option String)) :
    (text.bind nonempty? <|> firstNonempty rest) = firstNonempty (text :: rest) := by
  cases text with
  | none => simp [firstNonempty]
  | some s => by_cases hs : s = "" <;> simp [firstNonempty, nonempty?, hs]

theorem resolveProject_eq (argument configured : Option String) :
    resolveProject argument configured = firstNonempty [argument, configured] := by
  have hnil : firstNonempty [] = none := rfl
  rw [← bind_nonempty?, ← bind_nonempty?, hnil]
  simp [resolveProject]

/-- Resolving a project that is resolved already changes nothing. -/
theorem resolveProject_resolveProject (argument configured : Option String) :
    resolveProject (resolveProject argument configured) configured =
      resolveProject argument configured := by
  have hkept {text : Option String} {s : String} (h : text.bind nonempty? = some s) :
      nonempty? s = some s := by
    obtain ⟨t, -, ht⟩ := Option.bind_eq_some_iff.mp h
    unfold nonempty? at ht ⊢
    split at ht <;> simp_all
  cases ha : argument.bind nonempty? with
  | some s => simp [resolveProject, ha, hkept ha]
  | none =>
    cases hc : configured.bind nonempty? with
    | some s => simp [resolveProject, ha, hc, hkept hc]
    | none => simp [resolveProject, ha, hc]

namespace SessionPayload

theorem nodup_keys_members (p : SessionPayload) : (p.members.map Prod.fst).Nodup := by
  obtain ⟨user, project, data⟩ := p
  cases project <;> cases data <;> simp [members]

theorem mem_members (p : SessionPayload) (key : String) (value : Json) :
    (key, value) ∈ p.members ↔
      (key = "user_external_id" ∧ value = .string p.userExternalId) ∨
      (key = "project_id" ∧ ∃ id ∈ p.projectId, value = .string id) ∨
      (key = "user_data" ∧ ∃ data ∈ p.userData, value = .object data) := by
  obtain ⟨user, project, data⟩ := p
  cases project <;> cases data <;> simp [members]

end SessionPayload

/-- The request asks for a session of `user` with `data` in `project`: that project stands in the
header and in the body or, if there is none, in neither, and the body holds nothing else but the
user and the data, if there are some. -/
structure Request.AsksSession (request : Request) (user : String) (project : Option String)
    (data : Option Members) : Prop where
  header : request.headers.under HeaderName.projectId =
    (project.map (HeaderName.projectId, ·)).toList
  body : ∃ members, request.body = some (.object members) ∧ (members.map Prod.fst).Nodup ∧
    (∀ key value, (key, value) ∈ members ↔
      (key = "user_external_id" ∧ value = .string user) ∨
      (key = "project_id" ∧ ∃ id ∈ project, value = .string id) ∨
      (key = "user_data" ∧ ∃ map ∈ data, value = .object map)) ∧
    ∀ member ∈ members, member.2 ≠ .null

theorem Call.asksSession_request (config : ClientConfig) (payload : SessionPayload) (now : Millis)
    (suffix : String) :
    ((Call.session payload).request config now suffix).AsksSession payload.userExternalId
      (firstNonempty [payload.projectId, config.projectId]) payload.userData := by
  rw [← resolveProject_eq]
  constructor
  case header =>
    have hrow : (HeaderName.projectId, resolveProject payload.projectId config.projectId) ∈
        (Call.session payload).table config now suffix := by
      rw [← resolveProject_resolveProject]
      simp [Call.table, HeaderOptions.table, Call.options, HeaderOptions.session,
        HeaderOptions.standard, Call.project]
    exact Call.under_headers hrow
  case body =>
    let resolved : SessionPayload :=
      { payload with projectId := resolveProject payload.projectId config.projectId }
    have hperm := Members.ofPairs_perm resolved.nodup_keys_members
    have hmem (key : String) (value : Json) := hperm.mem_iff.trans (resolved.mem_members key value)
    refine ⟨Members.ofPairs resolved.members, rfl,
      (hperm.map Prod.fst).nodup_iff.mpr resolved.nodup_keys_members, hmem, ?_⟩
    rintro ⟨key, value⟩ hm
    obtain ⟨-, rfl⟩ | ⟨-, _, -, rfl⟩ | ⟨-, _, -, rfl⟩ := (hmem key value).mp hm <;> simp

/-- A call for a session hands one request to the transport, in which header and body name the same
project; one for a user and a project alone is one whose payload has no data. -/
theorem session_project_agreement (client : Client) (answers : Answers) (payload : SessionPayload)
    (user : String) (argument : Option String) :
    (∃ request, (client.step answers (.session payload)).sent = [request] ∧
      request.AsksSession payload.userExternalId
        (firstNonempty [payload.projectId, client.config.projectId]) payload.userData) ∧
    (∃ request, (client.step answers (.sessionFor user argument)).sent = [request] ∧
      request.AsksSession user (firstNonempty [argument, client.config.projectId]) none) ∧
    client.step answers (.sessionFor user argument) =
      client.step answers (.session ⟨user, argument, none⟩) := by
  refine ⟨?_, ?_, rfl⟩
  · rw [Client.step_eq]
    exact ⟨_, rfl, Call.asksSession_request client.config payload _ _⟩
  · rw [Client.step_eq]
    exact ⟨_, rfl, Call.asksSession_request client.config ⟨user, argument, none⟩ _ _⟩

end SessionGateway
