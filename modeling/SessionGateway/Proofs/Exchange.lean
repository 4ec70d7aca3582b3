import SessionGateway.Http.Exchange
import SessionGateway.Proofs.Outcome

/-! An exchange, hop by hop. A hop is not taken on, or what comes back ends the exchange, or it
leads on to another hop. What holds of the first hop and is kept by redirects holds of every
request. -/

namespace SessionGateway.Http

/-- The entry of a name and password. -/
def credentialEntry (u : Url) : List (String × String) :=
  ((credentials? u).map fun c => (HeaderName.authorization, c.basic)).toList

/-- A first hop goes to the place of the request, with its headers between others. -/
theorem firstHop_eq_ok {proxies : Proxies} {r : Request} {hop : Hop}
    (h : firstHop proxies r = .ok hop) :
    ∃ u, Url.ofText? r.url = some u ∧ u.host.isSome = true ∧
      hop.url = (if (credentials? u).isSome then u.withoutUserinfo else u) ∧
      hop.headers =
        credentialEntry u ++ r.headers.entries ++ acceptsAll :: proxyHeader proxies u := by
  unfold firstHop at h
  cases hurl : Url.ofText? r.url with
  | none => simp [hurl] at h
  | some u =>
    simp only [hurl] at h
    split at h
    · contradiction
    next hhost =>
    split at h
    · contradiction
    obtain rfl := Except.ok.inj h
    refine ⟨u, rfl, by simpa [Option.isSome_iff_ne_none] using hhost, ?_, rfl⟩
    simp only [Option.isSome_map]

/-- The head of a reply that can be understood, how its body ends, and the bytes behind it. -/
def Delivery.opened? (d : Delivery) : Option (Head × Framing × List UInt8) :=
  match readHead (d.bytes.length + 1) d.bytes with
  | .done head rest => head.framing?.map (head, ·, rest)
  | _ => none

/-- The response of a reply that is whole. -/
def Delivery.response? (d : Delivery) : Option Response := do
  let (head, framing, rest) ← d.opened?
  let bytes ← framing.read? d.stalls rest
  return ⟨head.status, bodyText head bytes⟩

/-- What a reply comes to when it leads nowhere else. -/
def Delivery.conclusion (first : String) (d : Delivery) : Except ExchangeFault Response :=
  match d.opened? with
  | some (head, framing, rest) => respond d framing head rest
  | none =>
    match readHead (d.bytes.length + 1) d.bytes with
    | .more => .error (if d.stalls then .timedOut first else .unsent first)
    | _ => .error (.unsent first)

theorem Delivery.response?_of_opened? {d : Delivery} {head : Head} {framing : Framing}
    {rest : List UInt8} (h : d.opened? = some (head, framing, rest)) :
    d.response? = (framing.read? d.stalls rest).map fun bytes =>
      ⟨head.status, bodyText head bytes⟩ := by
  simp only [response?, h, Option.bind_eq_bind, Option.bind_some]
  cases framing.read? d.stalls rest <;> rfl

/-- A whole reply that leads nowhere else is concluded by its response. -/
theorem Delivery.conclusion_of_response? {d : Delivery} {response : Response} (first : String)
    (h : d.response? = some response) : d.conclusion first = .ok response := by
  cases hopened : d.opened? with
  | none => simp [response?, hopened] at h
  | some opened =>
    obtain ⟨head, framing, rest⟩ := opened
    rw [response?_of_opened? hopened] at h
    obtain ⟨bytes, hbytes, rfl⟩ := Option.map_eq_some_iff.mp h
    simp [conclusion, hopened, respond, hbytes]

namespace Hop

/-- What comes back for a hop, if it can be sent and somebody answers. -/
def met? (proxies : Proxies) (network : Network) (served : Nat) (hop : Hop) : Option Delivery :=
  if hop.isSendable then network served (hop.request (proxies.proxy? hop.url)) else none

/-- The fault of a hop for which nothing comes back. -/
def unmet (first : String) (hop : Hop) : ExchangeFault :=
  if hop.isSendable then .unsent first else .unbuildable (some hop.url.text)

/-- The hop that a reply leads on to, if it can be understood. -/
def onward? (hop : Hop) (d : Delivery) : Option Hop :=
  d.opened?.bind fun opened => hop.next? opened.1

theorem against_hear (network : Network) (first : String) (onward : Hop → Dialogue) (hop : Hop)
    (delivery : Delivery) (served : Nat) : (hop.hear first onward delivery).against network served =
      match hop.onward? delivery with
      | none => ([], delivery.conclusion first)
      | some next => (onward next).against network served := by
  unfold hear onward?
  cases hhead : readHead (delivery.bytes.length + 1) delivery.bytes with
  | malformed =>
    have hopened : delivery.opened? = none := by simp [Delivery.opened?, hhead]
    simp [hopened, Delivery.conclusion, hhead, Dialogue.fails, Dialogue.against]
  | more =>
    have hopened : delivery.opened? = none := by simp [Delivery.opened?, hhead]
    cases hstalls : delivery.stalls <;>
      simp [hopened, Delivery.conclusion, hhead, hstalls, Dialogue.fails, Dialogue.against]
  | done head rest =>
    have hopened : delivery.opened? = head.framing?.map (head, ·, rest) := by
      simp [Delivery.opened?, hhead]
    cases hframing : head.framing? with
    | none =>
      simp [hopened, hframing, Delivery.conclusion, hhead, Dialogue.fails, Dialogue.against]
    | some framing =>
      cases hnext : hop.next? head <;>
        simp [hopened, hframing, hnext, Delivery.conclusion, Dialogue.against]

/-- One hop of an exchange. -/
theorem against_ask (proxies : Proxies) (network : Network) (first : String)
    (onward : Hop → Dialogue) (hop : Hop) (served : Nat) :
    (hop.ask proxies first onward).against network served =
      match hop.met? proxies network served with
      | none => ([], .error (hop.unmet first))
      | some delivery =>
        let request := hop.request (proxies.proxy? hop.url)
        match hop.onward? delivery with
        | none => ([request], delivery.conclusion first)
        | some next =>
          let rest := (onward next).against network (served + 1)
          (request :: rest.1, rest.2) := by
  unfold ask
  cases hsend : hop.isSendable with
  | false => simp [met?, unmet, hsend, Dialogue.against]
  | true =>
    cases hnet : network served (hop.request (proxies.proxy? hop.url)) with
    | none => simp [met?, unmet, hsend, hnet, Dialogue.fails, Dialogue.against]
    | some delivery =>
      have hheard := against_hear network first onward hop delivery (served + 1)
      cases honward : hop.onward? delivery <;>
        simp [met?, hsend, hnet, honward, hheard, Dialogue.against]

end Hop

section Follow

variable (proxies : Proxies) (network : Network) (first : String)
variable {hop next : Hop} {delivery : Delivery} {served : Nat}

theorem follow_of_unmet (left : Nat) (h : hop.met? proxies network served = none) :
    (follow proxies first left hop).against network served = ([], .error (hop.unmet first)) := by
  cases left <;> simp [follow, Hop.against_ask, h]

theorem follow_of_settled (left : Nat) (h : hop.met? proxies network served = some delivery)
    (honward : hop.onward? delivery = none) :
    (follow proxies first left hop).against network served =
      ([hop.request (proxies.proxy? hop.url)], delivery.conclusion first) := by
  cases left <;> simp [follow, Hop.against_ask, h, honward]

theorem follow_of_onward (left : Nat) (h : hop.met? proxies network served = some delivery)
    (honward : hop.onward? delivery = some next) :
    (follow proxies first (left + 1) hop).against network served =
      let rest := (follow proxies first left next).against network (served + 1)
      (hop.request (proxies.proxy? hop.url) :: rest.1, rest.2) := by
  simp [follow, Hop.against_ask, h, honward]

theorem follow_eq_nil_iff (left : Nat) :
    ((follow proxies first left hop).against network served).1 = [] ↔
      hop.met? proxies network served = none := by
  cases h : hop.met? proxies network served with
  | none => simp [follow_of_unmet proxies network first left h]
  | some delivery =>
    cases honward : hop.onward? delivery <;> cases left <;>
      simp [follow, Hop.against_ask, h, honward]

/-- Redirects bound how many requests an exchange has. -/
theorem length_follow (left : Nat) (hop : Hop) (served : Nat) :
    ((follow proxies first left hop).against network served).1.length ≤ left + 1 := by
  induction left generalizing hop served with
  | zero =>
    rw [follow, Hop.against_ask]
    split
    · simp
    · split <;> simp [Dialogue.against]
  | succ left ih =>
    rw [follow, Hop.against_ask]
    split
    · simp
    · split
      · simp
      · simpa using ih _ (served + 1)

theorem network_of_met? (h : hop.met? proxies network served = some delivery) :
    network served (hop.request (proxies.proxy? hop.url)) = some delivery := by
  unfold Hop.met? at h
  split_ifs at h
  exact h

/-- What comes behind the first request is what its reply leads on to. -/
theorem follow_of_met (left : Nat) (h : hop.met? proxies network served = some delivery) :
    ∃ rest, ((follow proxies first left hop).against network served).1 =
        hop.request (proxies.proxy? hop.url) :: rest ∧
      (rest ≠ [] → ∃ next further, hop.onward? delivery = some next ∧ left = further + 1 ∧
        rest = ((follow proxies first further next).against network (served + 1)).1) := by
  cases honward : hop.onward? delivery with
  | none =>
    rw [follow_of_settled proxies network first left h honward]
    exact ⟨[], rfl, absurd rfl⟩
  | some next =>
    cases left with
    | zero =>
      simp only [follow, Hop.against_ask, h, honward]
      exact ⟨[], rfl, absurd rfl⟩
    | succ further =>
      rw [follow_of_onward proxies network first further h honward]
      exact ⟨_, rfl, fun _ => ⟨next, further, rfl, rfl, rfl⟩⟩

/-- A request whose reply leads nowhere is the last one, and that reply decides, however many
redirects there were on the way. -/
theorem follow_of_last {k left : Nat} {sent : WireRequest}
    (hsent : ((follow proxies first left hop).against network served).1[k]? = some sent)
    (hmet : network (served + k) sent = some delivery)
    (hlast : ∀ hop : Hop, hop.onward? delivery = none) :
    ((follow proxies first left hop).against network served).1.length = k + 1 ∧
      ((follow proxies first left hop).against network served).2 = delivery.conclusion first := by
  induction k generalizing left hop served with
  | zero =>
    cases hreply : hop.met? proxies network served with
    | none =>
      rw [follow_of_unmet proxies network first left hreply] at hsent
      contradiction
    | some reply =>
      obtain ⟨rest, hmade, -⟩ := follow_of_met proxies network first left hreply
      rw [hmade] at hsent
      obtain rfl := Option.some.inj hsent
      obtain rfl := Option.some.inj ((network_of_met? proxies network hreply).symm.trans hmet)
      rw [follow_of_settled proxies network first left hreply (hlast hop)]
      exact ⟨rfl, rfl⟩
  | succ k ih =>
    cases hreply : hop.met? proxies network served with
    | none =>
      rw [follow_of_unmet proxies network first left hreply] at hsent
      contradiction
    | some reply =>
      obtain ⟨rest, hmade, hrest⟩ := follow_of_met proxies network first left hreply
      rw [hmade, List.getElem?_cons_succ] at hsent
      obtain ⟨next, further, honward, rfl, rfl⟩ := hrest (by rintro rfl; contradiction)
      rw [follow_of_onward proxies network first further hreply honward]
      obtain ⟨hlength, hresult⟩ := ih hsent (by rwa [Nat.add_assoc, Nat.add_comm 1])
      exact ⟨congrArg Nat.succ hlength, hresult⟩

/-- What redirects keep holds of the hops of all requests. -/
theorem forall_mem_follow {P : Hop → Prop}
    (step : ∀ hop head next, P hop → hop.next? head = some next → P next) (left : Nat)
    (start : P hop) (served : Nat) :
    ∀ request ∈ ((follow proxies first left hop).against network served).1,
      ∃ h, P h ∧ request = h.request (proxies.proxy? h.url) := by
  have hstep {hop next : Hop} {delivery : Delivery} (hhop : P hop)
      (honward : hop.onward? delivery = some next) : P next := by
    obtain ⟨opened, -, hopened⟩ := Option.bind_eq_some_iff.mp honward
    exact step hop opened.1 next hhop hopened
  induction left generalizing hop served with
  | zero =>
    rw [follow, Hop.against_ask]
    split
    · simp
    · split <;> simpa [Dialogue.against] using ⟨hop, start, rfl⟩
  | succ left ih =>
    rw [follow, Hop.against_ask]
    split
    · simp
    · split
      · simpa using ⟨hop, start, rfl⟩
      next next honward =>
        intro request hrequest
        rcases List.mem_cons.mp hrequest with rfl | hrest
        · exact ⟨hop, start, rfl⟩
        · exact ih (hstep start honward) (served + 1) request hrest

theorem exchangeVia_of_error {r : Request} {fault : ExchangeFault}
    (h : firstHop proxies r = .error fault) :
    exchangeVia proxies network r = ([], .error fault.failure) := by
  simp [exchangeVia, dialogue, h, Dialogue.against, Except.mapError]

theorem exchangeVia_of_ok {r : Request} {hop : Hop} (h : firstHop proxies r = .ok hop) :
    exchangeVia proxies network r =
      let made := (follow proxies hop.url.text redirectLimit hop).against network 0
      (made.1, made.2.mapError ExchangeFault.failure) := by
  simp [exchangeVia, dialogue, h]

end Follow

end SessionGateway.Http
