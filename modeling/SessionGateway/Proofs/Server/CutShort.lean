import SessionGateway.Proofs.Server.Answered

/-! Replies that are cut short. Where a head announces more bytes than come behind it, there is no
response, whatever the bytes are and whatever the status is, and the call fails as one that nobody
answered. -/

namespace SessionGateway

namespace Http

namespace WrittenHead

/-- One of the lines counts more bytes than there are in the body. Nothing else says where the body
ends: the status has one, and it is in no other encoding. -/
structure IsCutShort (w : WrittenHead) (body : List UInt8) : Prop extends w.IsFinal where
  bodied : SizedReply.isBodiless w.status = false
  settled : w.status ∈ redirectStatuses → w.head.values "location" = []
  unencoded : w.head.values "transfer-encoding" = []
  counted : ∃ value ∈ w.head.values "content-length", ∃ length,
    WrittenReply.Counts value length ∧ body.length < length

variable {w : WrittenHead} {body : List UInt8}

/-- If the lines agree on a length, it is not reached. -/
theorem IsCutShort.framing?_head (h : w.IsCutShort body) {framing : Framing}
    (hframing : w.head.framing? = some framing) :
    ∃ length, framing = .sized length ∧ body.length < length := by
  obtain ⟨value, hvalue, length, hcounts, hshort⟩ := h.counted
  have hstatus : ¬ (w.status = 101 ∨ w.status = 204 ∨ w.status = 304) := by
    have hlow := h.status.1
    have hbodied := h.bodied
    simp only [SizedReply.isBodiless, Bool.or_eq_false_iff, decide_eq_false_iff_not] at hbodied
    omega
  rw [Head.framing?, status_head, if_neg hstatus, if_neg (not_not_intro h.unencoded),
    if_pos (List.ne_nil_of_mem hvalue)] at hframing
  obtain ⟨agreed, hagreed, rfl⟩ := Option.map_eq_some_iff.mp hframing
  obtain rfl := hcounts.eq_of_agreedLength? hvalue hagreed
  exact ⟨agreed, rfl, hshort⟩

/-- The body is missed, or the head could not be understood in the first place. -/
theorem IsCutShort.conclusion (h : w.IsCutShort body) (stalls : Bool) (first : String) :
    Delivery.conclusion first ⟨w.bytes ++ body, stalls⟩ = .error .bodyCutShort ∨
      Delivery.conclusion first ⟨w.bytes ++ body, stalls⟩ = .error (.unsent first) := by
  by_cases hfits : w.Fits
  · unfold Delivery.conclusion
    rw [h.opened?_bytes, if_pos hfits, h.readHead_bytes, if_pos hfits]
    cases hframing : w.head.framing? with
    | none => exact .inr rfl
    | some framing =>
      left
      obtain ⟨length, rfl, hshort⟩ := h.framing?_head hframing
      simp only [Option.map_some, respond, Framing.read?, if_neg (Nat.not_le_of_lt hshort)]
  · exact .inr (h.conclusion_of_not_fits hfits body stalls first)

/-- Nor is anybody else asked. -/
theorem IsCutShort.onward?_eq_none (h : w.IsCutShort body) (stalls : Bool) (hop : Hop) :
    hop.onward? ⟨w.bytes ++ body, stalls⟩ = none := by
  rw [Hop.onward?, h.opened?_bytes, Option.bind_eq_none_iff]
  intro opened hopened
  split_ifs at hopened
  obtain ⟨framing, -, rfl⟩ := Option.map_eq_some_iff.mp hopened
  exact Hop.next?_eq_none h.settled hop

end WrittenHead

end Http

/-- A failure to get any answer: another attempt may get past it, and it has no status. -/
structure Failure.IsUnanswered (failure : Failure) : Prop where
  transport : ∃ detail, failure = .transport detail
  retryable : failure.isRetryable = true
  statusless : failure.status? = none

namespace Http

theorem WrittenHead.IsCutShort.outcome_conclusion {w : WrittenHead} {body : List UInt8}
    (h : w.IsCutShort body) (stalls : Bool) (first : String) (endpoint : Endpoint) :
    ∃ failure, Reply.outcome endpoint ((Delivery.conclusion first
        ⟨w.bytes ++ body, stalls⟩).mapError ExchangeFault.failure) = .error failure ∧
      failure.IsUnanswered := by
  rcases h.conclusion stalls first with hfault | hfault
  · rw [hfault]
    exact ⟨_, rfl, ⟨_, rfl⟩, rfl, rfl⟩
  · rw [hfault]
    exact ⟨_, rfl, ⟨_, rfl⟩, rfl, rfl⟩

/-- A reply that is cut short is never taken for an answer. If it is what the first request of a
call meets, no other is made and the call fails; and so it does if redirects lead to such a reply,
after so many requests. -/
theorem callOver_cutShort (proxies : Proxies) (network : Network) (sources : Sources)
    (elapsed : String) (client : Client) (call : Call) {w : WrittenHead} {body : List UInt8}
    (hcut : w.IsCutShort body) (stalls : Bool) :
    let made := callOver proxies network sources elapsed client call
    let reply : Delivery := ⟨w.bytes ++ body, stalls⟩
    let fails := ∃ failure, made.2.result = .error failure ∧ failure.IsUnanswered
    (∀ hop, firstHop proxies (call.requestFrom client.config sources client.asked) = .ok hop →
      hop.isSendable = true → network 0 (hop.request (proxies.proxy? hop.url)) = some reply →
        made.1 = [hop.request (proxies.proxy? hop.url)] ∧ fails) ∧
    ∀ n sent, made.1[n]? = some sent → network n sent = some reply →
      made.1.length = n + 1 ∧ fails := by
  intro made reply fails
  have hlast (hop : Hop) : hop.onward? reply = none := hcut.onward?_eq_none stalls hop
  simp only [made, fails, callOver, Client.step_eq]
  refine ⟨fun hop hfirst hsend hmet => ?_, fun n sent hsent hmet => ?_⟩
  · have hreply : hop.met? proxies network 0 = some reply := by
      simp only [Hop.met?, hsend, if_true, hmet]
    rw [exchangeVia_of_ok proxies network hfirst,
      follow_of_settled proxies network _ _ hreply (hlast hop)]
    exact ⟨rfl, hcut.outcome_conclusion stalls _ _⟩
  · cases hfirst : firstHop proxies (call.requestFrom client.config sources client.asked) with
    | error fault =>
      simp [exchangeVia_of_error proxies network hfirst] at hsent
    | ok hop =>
      rw [exchangeVia_of_ok proxies network hfirst] at hsent ⊢
      obtain ⟨hlength, hresult⟩ := follow_of_last proxies network hop.url.text hsent
        (by rwa [Nat.zero_add]) hlast
      dsimp only
      rw [hresult]
      exact ⟨hlength, hcut.outcome_conclusion stalls _ _⟩

/-- A head that announces nine bytes. -/
def nineBytes : WrittenHead :=
  { isOld := false, status := 200, reason := some (Text.utf8 "OK".toList),
    lines := [(Text.utf8 "Content-Length".toList, Text.utf8 " 09".toList)] }

/-- A whole value, of fewer bytes. -/
def sevenBytes : List UInt8 := Text.utf8 "\x7b\"a\":1\x7d".toList

/-- The reply comes after so many redirects. -/
def cutShortAfter (redirects : Nat) : Network := fun n _ =>
  some ⟨if n < redirects then (SizedReply.mk 307 [("location", "/elsewhere")] []).bytes
    else nineBytes.bytes ++ sevenBytes, false⟩

def loopbackSources : Sources := ⟨fun _ => 1700000000000, fun _ => ""⟩

def loopbackClient : Client :=
  Client.fresh (BaseUrl.loopback.config "key" none ClientConfig.defaultTimeout)

def refreshOver (network : Network) : List WireRequest × Step :=
  callOver .none network loopbackSources "" loopbackClient (.refresh "token")

theorem isCutShort_nineBytes : nineBytes.IsCutShort sevenBytes := by
  have hcount : WrittenReply.Counts (Text.utf8 "09".toList) 9 :=
    ⟨"09".toList, rfl, by decide +kernel, Url.of_decide_all (by decide +kernel), by decide +kernel⟩
  have hlines : ∀ l ∈ nineBytes.lines, IsLine l.1 l.2 := by
    rw [nineBytes, List.forall_mem_singleton]
    exact ⟨by decide +kernel, by decide +kernel, by decide +kernel⟩
  exact { status := by decide +kernel
          reason := by decide +kernel
          lines := hlines
          bodied := rfl
          settled := fun _ => by decide +kernel
          unencoded := by decide +kernel
          counted := ⟨Text.utf8 "09".toList, by decide +kernel, 9, hcount, by decide +kernel⟩ }

/-- The value is not taken, neither at once nor behind a redirect. -/
theorem callOver_cutShort_redirected :
    ((refreshOver (cutShortAfter 0)).1.length = 1 ∧ ∃ failure,
      (refreshOver (cutShortAfter 0)).2.result = .error failure ∧ failure.IsUnanswered) ∧
    (refreshOver (cutShortAfter 1)).1.length = 2 ∧ ∃ failure,
      (refreshOver (cutShortAfter 1)).2.result = .error failure ∧ failure.IsUnanswered := by
  constructor
  · let request := (Call.refresh "token").requestFrom loopbackClient.config loopbackSources .none
    have hdirect : BaseUrl.loopback.IsDirect .none := .inl rfl
    have hsendable : (request.headers.entries.all fun h => isSendableValue h.2) = true := by
      decide +kernel
    have hfirst : firstHop .none request = .ok (BaseUrl.loopback.hop request) :=
      (BaseUrl.loopback.firstHop_requestFrom "key" none ClientConfig.defaultTimeout loopbackSources
        .none (.refresh "token") hdirect).trans (if_pos hsendable)
    obtain ⟨hmade, hfails⟩ := (callOver_cutShort .none (cutShortAfter 0) loopbackSources ""
      loopbackClient (.refresh "token") isCutShort_nineBytes false).1 _ hfirst
        (BaseUrl.loopback.isSendable_hop request) rfl
    unfold refreshOver
    exact ⟨congrArg List.length hmade, hfails⟩
  · have hasked : ((refreshOver (cutShortAfter 1)).1[1]?).isSome = true := by decide +kernel
    obtain ⟨sent, hsent⟩ := Option.isSome_iff_exists.mp hasked
    unfold refreshOver at hsent ⊢
    exact (callOver_cutShort .none (cutShortAfter 1) loopbackSources "" loopbackClient
      (.refresh "token") isCutShort_nineBytes false).2 1 sent hsent rfl

end Http

end SessionGateway
