import SessionGateway.Proofs.CallLog
import SessionGateway.Proofs.Probe.Effects
import SessionGateway.Proofs.TokenBundle

/-! What the log says of the answers to calls for tokens. It tells a bundle from any other answer,
and the tokens themselves make no difference to it, not even where they stand in no bundle. -/

namespace SessionGateway.Probe

variable {call : Call} {members members' : Members}

/-- What is said of the tokens in an answer, if there is an answer. -/
def tokenEvents (answer : Option Json) : List LogEvent := answer.toList.map tokensEvent

/-- Calls for tokens have their answers told as other calls do, after the tokens. -/
theorem outcomeEvents_ok {other : Call} (hcall : issuesTokens call = true)
    (hother : issuesTokens other = false) (answer : Option Json) :
    outcomeEvents call (.ok answer) = tokenEvents answer ++ outcomeEvents other (.ok answer) := by
  cases answer with
  | none => rfl
  | some v => simp [outcomeEvents, hcall, hother, tokenEvents]

def issued (b : TokenBundle) : LogEvent :=
  ⟨.info, target, "Session tokens issued",
    [("token_type", .text b.tokenType), ("expires_in", .count b.expiresIn)], []⟩

def notBundle (mismatch : Mismatch) : LogEvent :=
  ⟨.warn, target, "Response is not a token bundle: " ++ mismatch.text JsonText.wording, [], []⟩

theorem tokensEvent_of_ok {v : Json} {b : TokenBundle} (h : TokenBundle.ofJson v = .ok b) :
    tokensEvent v = issued b := by
  simp only [tokensEvent, h, issued]

theorem tokensEvent_of_error {v : Json} {mismatch : Mismatch}
    (h : TokenBundle.ofJson v = .error mismatch) : tokensEvent v = notBundle mismatch := by
  simp only [tokensEvent, h, notBundle]

/-- The log says of an answer that tokens were issued if it holds a bundle, and how it fails to be
one otherwise. -/
structure TokensTold (answer : Json) : Prop where
  recognised : ∀ b : TokenBundle, TokenBundle.ofJson answer = .ok b ↔ b.HeldIn answer
  bundle : ∀ b : TokenBundle, b.HeldIn answer → tokenEvents (some answer) = [issued b]
  other : (∀ b : TokenBundle, ¬ b.HeldIn answer) → ∃ mismatch,
    TokenBundle.ofJson answer = .error mismatch ∧ tokenEvents (some answer) = [notBundle mismatch]

theorem tokensTold {answer : Json} (h : JsonText.IsRead answer) : TokensTold answer := by
  have hbundle (b : TokenBundle) : TokenBundle.ofJson answer = .ok b ↔ b.HeldIn answer :=
    TokenBundle.ofJson_eq_ok_iff_heldIn h
  constructor
  case recognised => exact hbundle
  case bundle =>
    intro b hb
    exact congrArg ([·]) (tokensEvent_of_ok ((hbundle b).mpr hb))
  case other =>
    intro hnone
    cases hread : TokenBundle.ofJson answer with
    | ok b => exact absurd ((hbundle b).mp hread) (hnone b)
    | error mismatch => exact ⟨mismatch, rfl, congrArg ([·]) (tokensEvent_of_error hread)⟩

/-- The event of an object is that of the object with blank tokens. -/
theorem tokensEvent_blankMembers (members : Members) :
    tokensEvent (.object (TokenBundle.blankMembers members)) = tokensEvent (.object members) := by
  have hblank := TokenBundle.ofJson_blankMembers members
  cases hread : TokenBundle.ofJson (.object members) with
  | ok b =>
    rw [hread] at hblank
    rw [tokensEvent_of_ok hread, tokensEvent_of_ok hblank]
    rfl
  | error mismatch =>
    rw [hread] at hblank
    rw [tokensEvent_of_error hread, tokensEvent_of_error hblank]

theorem tokensEvent_object_eq (h : List.Forall₂ TokenBundle.SameButToken members members') :
    tokensEvent (.object members) = tokensEvent (.object members') := by
  rw [← tokensEvent_blankMembers members, TokenBundle.blankMembers_eq h, tokensEvent_blankMembers]

/-- Responses of one status that differ in the texts of tokens at most are told alike. -/
theorem outcomeEvents_response_eq (call : Call) (endpoint : Endpoint) (status : Nat)
    {text text' : String} (htext : Json.ofText text = .ok (.object members))
    (htext' : Json.ofText text' = .ok (.object members'))
    (h : List.Forall₂ TokenBundle.SameButToken members members') :
    outcomeEvents call (Response.outcome endpoint ⟨status, text⟩) =
      outcomeEvents call (Response.outcome endpoint ⟨status, text'⟩) := by
  simp only [Response.outcome, htext, htext']
  split_ifs
  · rfl
  · rfl
  · simp only [outcomeEvents, tokensEvent_object_eq h]

theorem Prepared.log_report_eq (p : Prepared) (request : Request) (elapsed : String) (status : Nat)
    {text text' : String} (htext : Json.ofText text = .ok (.object members))
    (htext' : Json.ofText text' = .ok (.object members'))
    (h : List.Forall₂ TokenBundle.SameButToken members members') :
    (p.report request (.ok ⟨status, text⟩) elapsed).log =
      (p.report request (.ok ⟨status, text'⟩) elapsed).log := by
  have hevents : request.events (.ok ⟨status, text⟩) = request.events (.ok ⟨status, text'⟩) := by
    rw [Request.events_eq, Request.events_eq]
    rfl
  simp only [report, Reply.outcome, hevents,
    outcomeEvents_response_eq p.call p.call.endpoint status htext htext' h]

/-- An answer to a call for tokens is told by the one event that fits it, no answer by none. Two
objects that differ in the texts of their tokens at most are told alike, whether they are bundles or
not, and responses that hold them leave the same log. -/
theorem tokenLog_exact_and_public (answers : Answers) (client : Client)
    (hcall : issuesTokens call = true) :
    (∀ other, issuesTokens other = false → ∀ answer,
      outcomeEvents call (.ok answer) = tokenEvents answer ++ outcomeEvents other (.ok answer)) ∧
    tokenEvents none = [] ∧
    (∀ v, (client.step answers call).result = .ok (some v) → TokensTold v) ∧
    (∀ members members' : Members, List.Forall₂ TokenBundle.SameButToken members members' →
      tokenEvents (some (.object members)) = tokenEvents (some (.object members'))) ∧
    ∀ (p : Prepared) (request : Request) (elapsed : String) (status : Nat) (text text' : String)
      (members members' : Members), Json.ofText text = .ok (.object members) →
      Json.ofText text' = .ok (.object members') →
      List.Forall₂ TokenBundle.SameButToken members members' →
      (p.report request (.ok ⟨status, text⟩) elapsed).log =
        (p.report request (.ok ⟨status, text'⟩) elapsed).log := by
  refine ⟨fun other hother => outcomeEvents_ok hcall hother, rfl, ?_, ?_, ?_⟩
  · intro v hv
    rw [Client.step_eq] at hv
    obtain ⟨text, htext⟩ := exists_ofText_of_outcome hv
    exact tokensTold (JsonText.isRead_of_ofText htext)
  · intro members members' h
    exact congrArg ([·]) (tokensEvent_object_eq h)
  · intro p request elapsed status text text' members members' htext htext' h
    exact p.log_report_eq request elapsed status htext htext' h

/-- An answer with a token and without a lifetime in seconds. -/
def endless (token : String) : Members :=
  [("access_token", .string token), ("expires_in", .string "never")]

theorem ofText_endless (token : String) :
    Json.ofText (Json.object (endless token)).text = .ok (.object (endless token)) := by
  have hkeys : (endless token).Pairwise fun a b => a.1 < b.1 := by
    refine .cons ?_ (List.pairwise_singleton _ _)
    intro m hm
    obtain rfl := List.mem_singleton.mp hm
    show "access_token" < "expires_in"
    decide +kernel
  refine Json.ofText_write JsonLayout.isBlank_compact (.object hkeys ?_)
  intro m hm
  simp only [endless, List.mem_cons, List.not_mem_nil, or_false] at hm
  rcases hm with rfl | rfl
  · exact .string _ _
  · exact .string _ _

theorem not_heldIn_endless (b : TokenBundle) (token : String) :
    ¬ b.HeldIn (.object (endless token)) := by
  rintro ⟨-, hrefresh, -⟩
  cases hrefresh

def endlessGateway : Answers :=
  ⟨⟨fun _ => 1700000000000, fun _ => "n"⟩, fun _ => .ok ⟨200, (Json.object (endless "at-1")).text⟩,
    fun _ => "0"⟩

/-- Tokens that never expire are in no bundle, and still are not told. -/
theorem tokenLog_endless :
    let client := Client.fresh (.new "https://gw" "key-1")
    let p : Prepared := ⟨[], (Logging.chosen none "info" false).2, client.config, ⟨10, 0⟩,
      .refresh "rt-1"⟩
    let response (token : String) : Response := ⟨200, (Json.object (endless token)).text⟩
    issuesTokens (.refresh "rt-1") = true ∧ issuesTokens .health = false ∧
    (client.step endlessGateway (.refresh "rt-1")).result =
      .ok (some (.object (endless "at-1"))) ∧
    (∃ mismatch, TokenBundle.ofJson (.object (endless "at-1")) = .error mismatch ∧
      outcomeEvents (.refresh "rt-1") (.ok (some (.object (endless "at-1")))) =
        [notBundle mismatch]) ∧
    List.Forall₂ TokenBundle.SameButToken (endless "at-1") (endless "at-2") ∧
    tokenEvents (some (.object (endless "at-1"))) = tokenEvents (some (.object (endless "at-2"))) ∧
    (p.report (p.request 1700000000000 "n") (.ok (response "at-1")) "0").log =
      (p.report (p.request 1700000000000 "n") (.ok (response "at-2")) "0").log := by
  intro client p response
  have hcall : issuesTokens (.refresh "rt-1") = true := rfl
  have hother : issuesTokens .health = false := rfl
  have hresult : (client.step endlessGateway (.refresh "rt-1")).result =
      .ok (some (.object (endless "at-1"))) := by
    simp [Client.step_eq, endlessGateway, Reply.outcome, Response.outcome, ofText_endless]
  have hsame : List.Forall₂ TokenBundle.SameButToken (endless "at-1") (endless "at-2") :=
    .cons (.access "at-1" "at-2") (.cons (.same _) .nil)
  obtain ⟨hevents, -, htold, hpublic, hlog⟩ := tokenLog_exact_and_public endlessGateway client hcall
  obtain ⟨mismatch, hmismatch, hwarned⟩ :=
    (htold _ hresult).other fun b => not_heldIn_endless b "at-1"
  refine ⟨hcall, hother, hresult, ⟨mismatch, hmismatch, ?_⟩, hsame, hpublic _ _ hsame, ?_⟩
  · rw [hevents .health hother, hwarned]
    simp [outcomeEvents, issuesTokens]
  · exact hlog p _ "0" 200 _ _ _ _ (ofText_endless "at-1") (ofText_endless "at-2") hsame

end SessionGateway.Probe
