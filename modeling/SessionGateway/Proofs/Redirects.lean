import SessionGateway.Http.Reply
import SessionGateway.Proofs.Exchange

/-! What redirects make of a call. Where the first reply leads nowhere, the call is one request and
the reply decides; else another reply decides, or none at all. -/

namespace SessionGateway.Http

/-- Statuses of replies that may lead to another place. -/
def redirectStatuses : List Nat := [301, 302, 303, 307, 308]

theorem Hop.status_of_next? {hop next : Hop} {head : Head} (h : hop.next? head = some next) :
    head.status ∈ redirectStatuses := by
  obtain ⟨changed, hchanged, -⟩ := Option.bind_eq_some_iff.mp h
  by_contra hother
  simp only [redirectStatuses, List.mem_cons, List.not_mem_nil, or_false, not_or] at hother
  simp [redirected?, hother] at hchanged

/-- A reply that names no other place leads nowhere. -/
theorem Hop.next?_eq_none {head : Head}
    (h : head.status ∈ redirectStatuses → head.values "location" = []) (hop : Hop) :
    hop.next? head = none := by
  rw [Option.eq_none_iff_forall_ne_some]
  intro next hnext
  have hlocation : head.value? "location" = none := by
    rw [Head.value?, h (status_of_next? hnext)]
    rfl
  obtain ⟨changed, -, hmoved⟩ := Option.bind_eq_some_iff.mp hnext
  obtain ⟨place, hplace, -⟩ := Option.bind_eq_some_iff.mp hmoved
  simp [Hop.location?, hlocation] at hplace

theorem Hop.status_of_onward? {hop next : Hop} {delivery : Delivery} {response : Response}
    (honward : hop.onward? delivery = some next) (h : delivery.response? = some response) :
    response.status ∈ redirectStatuses := by
  obtain ⟨⟨head, framing, rest⟩, hopened, hnext⟩ := Option.bind_eq_some_iff.mp honward
  rw [Delivery.response?_of_opened? hopened] at h
  obtain ⟨bytes, -, rfl⟩ := Option.map_eq_some_iff.mp h
  exact status_of_next? hnext

/-- A redirect that is taken for the answer gives a value or cannot be decoded. -/
theorem outcome_of_redirect {response : Response} (endpoint : Endpoint)
    (h : response.status ∈ redirectStatuses) (fault : ExchangeFault) :
    response.outcome endpoint ≠ .error fault.failure := by
  simp only [redirectStatuses, List.mem_cons, List.not_mem_nil, or_false] at h
  rw [Response.outcome_of_content (by omega) (by omega)]
  cases Json.ofText response.body with
  | ok v => simp
  | error e => cases fault <;> simp [ExchangeFault.failure]

variable (proxies : Proxies) (network : Network)

/-- The first hop of a request and what comes back for it, if anything does. -/
def firstReply? (r : Request) : Option (Hop × Delivery) := do
  let hop ← (firstHop proxies r).toOption
  let delivery ← hop.met? proxies network 0
  return (hop, delivery)

/-- A call makes as many requests as redirects are followed, and one more, at the most. Where the
first request is answered, it stays the only one if nobody takes on the next, and a reply that is
whole decides if it leads nowhere, and only then. -/
theorem callOver_requests (sources : Sources) (elapsed : String) (client : Client) (call : Call) :
    let made := callOver proxies network sources elapsed client call
    made.1.length ≤ 11 ∧
      match firstReply? proxies network (call.requestFrom client.config sources client.asked) with
      | none => made.1 = []
      | some (hop, delivery) =>
        made.1.head? = some (hop.request (proxies.proxy? hop.url)) ∧
        (made.1.length = 1 ↔ ∀ next ∈ hop.onward? delivery, next.met? proxies network 1 = none) ∧
        ∀ response ∈ delivery.response?,
          (made.1.length = 1 ∧ made.2.result = response.outcome call.endpoint) ↔
            hop.onward? delivery = none := by
  simp only [callOver, Client.step_eq]
  generalize call.requestFrom client.config sources client.asked = request
  cases hfirst : firstHop proxies request with
  | error fault =>
    have hnone : firstReply? proxies network request = none := by
      simp [firstReply?, hfirst, Except.toOption]
    simp [exchangeVia_of_error proxies network hfirst, hnone]
  | ok hop =>
    rw [exchangeVia_of_ok proxies network hfirst]
    refine ⟨length_follow proxies network hop.url.text redirectLimit hop 0, ?_⟩
    cases hmet : hop.met? proxies network 0 with
    | none =>
      have hnone : firstReply? proxies network request = none := by
        simp [firstReply?, hfirst, Except.toOption, hmet]
      simp [hnone, follow_of_unmet proxies network _ _ hmet]
    | some delivery =>
      have hsome : firstReply? proxies network request = some (hop, delivery) := by
        simp [firstReply?, hfirst, Except.toOption, hmet]
      simp only [hsome]
      cases honward : hop.onward? delivery with
      | none =>
        rw [follow_of_settled proxies network _ _ hmet honward]
        refine ⟨rfl, by simp, fun response hresponse => ?_⟩
        simp [Delivery.conclusion_of_response? _ hresponse, Except.mapError, Reply.outcome]
      | some next =>
        have hmade := follow_of_onward proxies network hop.url.text 9 hmet honward
        have hnil : ((follow proxies hop.url.text 9 next).against network 1).1 = [] ↔
            next.met? proxies network 1 = none := follow_eq_nil_iff proxies network hop.url.text 9
        simp only [redirectLimit, hmade]
        refine ⟨rfl, by simpa using hnil, fun response hresponse => ?_⟩
        simp only [List.length_cons, Nat.add_eq_right, List.length_eq_zero_iff, reduceCtorEq,
          iff_false]
        rintro ⟨hone, hresult⟩
        rw [follow_of_unmet proxies network _ _ (hnil.mp hone)] at hresult
        exact outcome_of_redirect call.endpoint (Hop.status_of_onward? honward hresponse) _
          hresult.symm

/-- A call that is led on makes two requests, and the second reply is taken for the answer. -/
theorem callOver_led_on :
    let config := ClientConfig.new "http://[::1]" "key"
    let sources : Sources := ⟨fun _ => 1700000000000, fun _ => ""⟩
    let reply (n : Nat) : SizedReply :=
      if n = 0 then ⟨302, [("location", "/elsewhere")], Text.utf8 ['1']⟩
      else ⟨200, [], Text.utf8 ['2']⟩
    let network : Network := fun n _ => some ⟨(reply n).bytes, false⟩
    let made := callOver .none network sources "" (.fresh config) .health
    let first := firstReply? .none network (Call.health.requestFrom config sources .none)
    made.1.map (·.target) = ["/api/v1/sdk/health", "/elsewhere"] ∧
      first.bind (·.2.response?) = some ⟨302, "1"⟩ ∧
      ((Response.mk 302 "1").outcome .health).toOption.map (·.map Json.text) = some (some "1") ∧
      made.2.result.toOption.map (·.map Json.text) = some (some "2") := by
  decide +kernel

end SessionGateway.Http
