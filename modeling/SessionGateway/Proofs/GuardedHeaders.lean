import SessionGateway.Proofs.Exchange
import SessionGateway.Proofs.KeyConfinement

/-! The headers that authenticate a call and make it the only one of its kind go along with every
request that redirects lead to, unchanged; where the call has none, no request has any. -/

namespace SessionGateway.Http

/-- Headers that the client alone gives to a request. -/
def guardedNames : List String :=
  [HeaderName.apiKey, HeaderName.projectId, HeaderName.idempotencyKey, HeaderName.timestamp,
    HeaderName.nonce]

/-- Headers that an exchange adds to those of the client. -/
def addedNames : List String :=
  [HeaderName.authorization, "accept", "proxy-authorization", "host", "content-length", "referer"]

/-- The entries of a name, whatever the case of its letters. -/
def under (headers : List (String × String)) (name : String) : List (String × String) :=
  (HeaderList.mk headers).under name

section Under

variable {name : String} {headers : List (String × String)}

@[simp] theorem under_append (headers more : List (String × String)) (name : String) :
    under (headers ++ more) name = under headers name ++ under more name :=
  List.filter_append ..

theorem under_of_added (hname : name ∈ guardedNames) (h : ∀ e ∈ headers, e.1 ∈ addedNames) :
    under headers name = [] := by
  have hother : ∀ name ∈ guardedNames, ∀ added ∈ addedNames,
      Text.sameName added name = false := by decide
  refine List.filter_eq_nil_iff.mpr fun e he => ?_
  rw [hother name hname e.1 (h e he)]
  decide

/-- What is taken away by other names leaves a name's entries. -/
theorem under_without {names : List String} (hname : Text.foldAscii name ∉ names) :
    under (Hop.without names headers) name = under headers name := by
  rw [under, HeaderList.under, Hop.without, List.filter_filter]
  refine List.filter_congr fun e _ => ?_
  cases hsame : Text.sameName e.1 name with
  | false => rfl
  | true =>
    have hfold : Text.foldAscii e.1 = Text.foldAscii name := by simpa [Text.sameName] using hsame
    simp [hfold, hname]

end Under

namespace Hop

variable {hop next : Hop} {name : String}

theorem under_redirected? {status : Nat} (hname : name ∈ guardedNames)
    (h : hop.redirected? status = some next) :
    under next.headers name = under hop.headers name := by
  have hpayload : ∀ name ∈ guardedNames, Text.foldAscii name ∉ payloadHeaders := by decide
  have hget : under hop.asGet.headers name = under hop.headers name :=
    under_without (hpayload name hname)
  unfold redirected? at h
  split_ifs at h <;> cases h <;> first | rfl | exact hget

theorem under_moveTo (hname : name ∈ guardedNames) (place : Url) :
    under (hop.moveTo place).headers name = under hop.headers name := by
  have hprivate : ∀ name ∈ guardedNames, Text.foldAscii name ∉ privateHeaders := by decide
  have hreferer : ∀ name ∈ guardedNames, Text.foldAscii name ∉ ["referer"] := by decide
  have hnote : under ((referer? hop.url place).map fun r => ("referer", r)).toList name = [] :=
    under_of_added hname fun e he => by
      obtain ⟨r, -, rfl⟩ := Option.map_eq_some_iff.mp (Option.mem_toList.mp he)
      simp [addedNames]
  unfold moveTo
  simp only [under_append, hnote, List.append_nil]
  split
  · exact under_without (hreferer name hname)
  · rw [under_without (hprivate name hname), under_without (hreferer name hname)]

/-- A redirect changes none of the guarded headers. -/
theorem under_next? {head : Head} (hname : name ∈ guardedNames)
    (h : hop.next? head = some next) : under next.headers name = under hop.headers name := by
  obtain ⟨changed, hchanged, h⟩ := Option.bind_eq_some_iff.mp h
  obtain ⟨place, -, h⟩ := Option.bind_eq_some_iff.mp h
  obtain rfl := Option.some.inj h
  rw [under_moveTo hname, under_redirected? hname hchanged]

theorem under_request (hname : name ∈ guardedNames) (proxy : Option Proxy) :
    under (hop.request proxy).headers name = under hop.headers name := by
  have hadded : under (("host", hop.url.hostText) :: lengthHeader hop.body) name = [] :=
    under_of_added hname fun e he => by
      rcases List.mem_cons.mp he with rfl | he
      · simp [addedNames]
      · obtain ⟨b, -, rfl⟩ := Option.map_eq_some_iff.mp (Option.mem_toList.mp he)
        simp [addedNames]
  rw [request, under_append, hadded, List.append_nil]

end Hop

/-- The first hop adds credentials and what it accepts to the headers of the request. -/
theorem under_firstHop {proxies : Proxies} {r : Request} {hop : Hop} {name : String}
    (hname : name ∈ guardedNames) (h : firstHop proxies r = .ok hop) :
    under hop.headers name = r.headers.under name := by
  obtain ⟨u, -, -, -, hheaders⟩ := firstHop_eq_ok h
  have hown : under (credentialEntry u) name = [] := under_of_added hname fun e he => by
    obtain ⟨c, -, rfl⟩ := Option.map_eq_some_iff.mp (Option.mem_toList.mp he)
    simp [addedNames]
  have hadded : under (acceptsAll :: proxyHeader proxies u) name = [] :=
    under_of_added hname fun e he => by
      rcases List.mem_cons.mp he with rfl | he
      · simp [addedNames, acceptsAll]
      · obtain ⟨value, -, rfl⟩ := Option.map_eq_some_iff.mp (Option.mem_toList.mp he)
        simp [addedNames]
  simp only [hheaders, under_append, hown, hadded, List.append_nil, List.nil_append]
  rfl

/-- A call that a token authenticates is given none of the guarded headers. -/
theorem under_headers_of_isTokenOnly {call : Call} {name : String} (hname : name ∈ guardedNames)
    (h : call.endpoint.isTokenOnly = true) (config : ClientConfig) (now : Millis)
    (suffix : String) : (call.headers config now suffix).under name = [] := by
  have hrow : (name, none) ∈ call.table config now suffix := by
    cases call with
    | refresh token =>
      simp only [guardedNames, List.mem_cons, List.not_mem_nil, or_false] at hname
      rcases hname with rfl | rfl | rfl | rfl | rfl <;>
        simp [Call.table, HeaderOptions.table, Call.options, HeaderOptions.tokenOnly]
    | logout token =>
      simp only [guardedNames, List.mem_cons, List.not_mem_nil, or_false] at hname
      rcases hname with rfl | rfl | rfl | rfl | rfl <;>
        simp [Call.table, HeaderOptions.table, Call.options, HeaderOptions.tokenOnly]
    | _ => cases h
  exact Call.under_headers hrow

/-- Every request of a call shows the guarded headers as the client gave them. -/
theorem under_callOver (proxies : Proxies) (network : Network) (sources : Sources)
    (elapsed : String) (client : Client) (call : Call) {name : String}
    (hname : name ∈ guardedNames) :
    ∀ request ∈ (callOver proxies network sources elapsed client call).1,
      under request.headers name =
        (call.requestFrom client.config sources client.asked).headers.under name := by
  intro request hrequest
  simp only [callOver] at hrequest
  cases hfirst : firstHop proxies (call.requestFrom client.config sources client.asked) with
  | error fault => simp [exchangeVia_of_error proxies network hfirst] at hrequest
  | ok hop =>
    rw [exchangeVia_of_ok proxies network hfirst] at hrequest
    obtain ⟨h, hh, rfl⟩ := forall_mem_follow proxies network hop.url.text
      (P := fun h => under h.headers name =
        (call.requestFrom client.config sources client.asked).headers.under name)
      (fun _ _ _ hhop hnext => (Hop.under_next? hname hnext).trans hhop) redirectLimit
      (under_firstHop hname hfirst) 0 request hrequest
    rw [Hop.under_request hname, hh]

/-- On no hop does a call that a token authenticates show a guarded header, and any other call
shows on every hop what it showed on the first. -/
theorem callOver_guarded (proxies : Proxies) (network : Network) (sources : Sources)
    (elapsed : String) (client : Client) (call : Call) :
    let sent := (callOver proxies network sources elapsed client call).1
    let given := (call.requestFrom client.config sources client.asked).headers
    (call.endpoint.isTokenOnly = true →
      ∀ request ∈ sent, ∀ name ∈ guardedNames, under request.headers name = []) ∧
    ∀ request ∈ sent, ∀ name ∈ guardedNames, under request.headers name = given.under name ∧
      ∀ first ∈ sent.head?, under request.headers name = under first.headers name := by
  intro sent given
  have hgiven : ∀ request ∈ sent, ∀ name ∈ guardedNames,
      under request.headers name = given.under name := fun request hrequest name hname =>
    under_callOver proxies network sources elapsed client call hname request hrequest
  refine ⟨fun htoken request hrequest name hname => ?_, fun request hrequest name hname => ?_⟩
  · rw [hgiven request hrequest name hname]
    exact under_headers_of_isTokenOnly hname htoken client.config _ _
  · refine ⟨hgiven request hrequest name hname, fun first hfirst => ?_⟩
    rw [hgiven request hrequest name hname,
      hgiven first (List.mem_of_mem_head? hfirst) name hname]

end SessionGateway.Http
