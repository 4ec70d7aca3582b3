import SessionGateway.Http.Reply
import SessionGateway.Proofs.ConfigHistory
import SessionGateway.Proofs.Exchange
import SessionGateway.Proofs.Url.Directories

/-! Where calls go. The path of an endpoint is put behind the base URL as texts are, and only then
is the whole read as a URL. -/

namespace SessionGateway

open Url (IsTail IsBareScheme StandsAt finish)

theorem Endpoint.isTail_path (e : Endpoint) : IsTail e.path.toList := by
  have hclear : (("api/v1/sdk/" ++ e.name).toList.all fun c =>
      0x20 < c.toNat && !Url.endsPath c) = true := by
    cases e <;> decide +kernel
  refine ⟨("api/v1/sdk/" ++ e.name).toList, e.toList_path, fun c hc => ?_⟩
  simpa using List.all_eq_true.mp hclear c hc

/-- The names on the way to an endpoint are entered as they are. -/
theorem Endpoint.pathText_walk (e : Endpoint) (dirs : List String) {more : List Char}
    (h : e.path.toList = '/' :: more) :
    Url.pathText (Url.walkSegments false dirs (Text.splitAtChar (Url.isSlash true) more)) =
      Url.pathText dirs ++ e.path := by
  have hmore : more = ("api/v1/sdk/" ++ e.name).toList :=
    List.tail_eq_of_cons_eq (h.symm.trans e.toList_path)
  have hnames : Url.walkSegments false dirs (Text.splitAtChar (Url.isSlash true) more) =
      dirs ++ ["api"] ++ ["v1"] ++ ["sdk"] ++ [e.name] := by
    rw [hmore]
    cases e <;> rfl
  have htext : Url.pathText (["api"] ++ ["v1"] ++ ["sdk"] ++ [e.name]) = e.path := by
    cases e <;> rfl
  rw [hnames, ← htext]
  simp only [Url.pathText_append, String.append_assoc]

/-- The URL of the web that a text stands for by itself. -/
def Url.web? (text : String) : Option Url :=
  (Url.ofText? text).filter fun u => (u.scheme == "http" || u.scheme == "https") && u.host.isSome

theorem Url.web?_eq_some {text : String} {u : Url} : Url.web? text = some u ↔
    Url.ofText? text = some u ∧ (u.scheme = "http" ∨ u.scheme = "https") ∧
      u.host.isSome = true := by
  simp [Url.web?, Option.filter_eq_some_iff]

namespace Http

/-- Nobody is dialled for a call, since its URL is none to ask at. -/
structure Refused (proxies : Proxies) (request : Request) (made : List WireRequest × Step) :
    Prop where
  undialled : ∃ url, dialogue proxies request = .ended (.error (.unbuildable url))
  unsent : made.1 = []
  result : ∃ message, made.2.result = .error (.invalidConfig message)

/-- A hop is the first one of a call: it is what the network is asked. -/
structure Starts (proxies : Proxies) (network : Network) (request : Request) (hop : Hop)
    (made : List WireRequest × Step) : Prop where
  asked : dialogue proxies request = follow proxies hop.url.text redirectLimit hop
  sendable : hop.isSendable = true
  first : made.1.head? = (network 0 (hop.request (proxies.proxy? hop.url))).map fun _ =>
    hop.request (proxies.proxy? hop.url)
  /-- Where no proxy serves the place, its own server is dialled and asked for the path. -/
  dialled : proxies.proxy? hop.url = none → ∀ sent ∈ made.1.head?, sent.address = hop.server ∧
    (sent.channel = .plain ↔ hop.url.scheme = "http") ∧
    sent.target = hop.url.path.text ++ hop.url.queryText

/-- A hop is at the place of a text that stands for `u`, where a path leads that is put behind the
text. -/
structure Hop.IsUnder (text path : String) (u : Url) (hop : Hop) : Prop where
  scheme : hop.url.scheme = u.scheme
  host : u.host = some hop.server.host
  port : u.effectivePort = some hop.server.port
  /-- A query or a fragment of the text takes in what is behind it. -/
  ended : u.query.isSome = true ∨ u.fragment.isSome = true → hop.url.path = u.path
  /-- A path of the text goes on from where a slash behind it leads, which is the path itself but
  for slashes and blanks at its end. -/
  led : u.query = none → u.fragment = none → ∃ front,
    (Url.ofText? (Text.trimTrailing '/' text ++ "/")).map (·.path.text) = some (front ++ "/") ∧
      hop.url.path.text = front ++ path ∧ hop.url.query = none ∧
      ((∀ c ∈ text.toList.getLast?, ¬ IsLow c) →
        Text.trimTrailing '/' front = Text.trimTrailing '/' u.path.text ∧
        (front.toList.getLast? ≠ some '/' → front = Text.trimTrailing '/' u.path.text))

section Under

variable {text : String} {n : Nat} {v : Url} {q w : List Char}
variable (h : StandsAt (Text.trimTrailing '/' text) n v q w)
variable (htext : text = Text.trimTrailing '/' text ++ String.ofList (List.replicate n '/'))
include h

include htext in
/-- The path of an endpoint goes on from where a slash leads. -/
theorem led_of_standsAt (hopen : ∀ c ∈ q, Url.endsPath c = false) (e : Endpoint) :
    let place := finish v (q ++ (w ++ e.path.toList))
    let u := finish v (q ++ List.replicate n '/')
    ∃ front, (Url.ofText? (Text.trimTrailing '/' text ++ "/")).map (·.path.text) =
        some (front ++ "/") ∧
      place.path.text = front ++ e.path ∧ place.query = none ∧
      ((∀ c ∈ text.toList.getLast?, ¬ IsLow c) →
        Text.trimTrailing '/' front = Text.trimTrailing '/' u.path.text ∧
        (front.toList.getLast? ≠ some '/' → front = Text.trimTrailing '/' u.path.text)) := by
  intro place u
  obtain ⟨more, hmore, hclear⟩ := e.isTail_path
  have htail : IsTail ('/' :: more) := ⟨more, rfl, hclear⟩
  have hplace : place = _ := (congrArg (fun t => finish v (q ++ (w ++ t))) hmore).trans
    (h.finish_of_open hopen htail)
  have hslash : IsTail ['/'] := ⟨[], rfl, by simp⟩
  have hbehind : Url.ofText? (Text.trimTrailing '/' text ++ "/") = _ := h.glued ['/'] hslash
  refine ⟨Url.pathText (Url.directories (q ++ w)), ?_, ?_, ?_, fun hhigh => ?_⟩
  · rw [hbehind, h.finish_of_open hopen hslash, Option.map_some]
    exact congrArg some (Url.pathText_append _ [""])
  · rw [hplace]
    exact e.pathText_walk _ hmore
  · rw [hplace]
  · rw [htext] at hhigh
    obtain ⟨k, hk⟩ := h.path_of_open hopen (h.high hhigh)
    rw [hk, Text.trimTrailing_append]
    exact ⟨rfl, fun hend => (Text.trimTrailing_eq_self hend).symm⟩

include htext in
/-- The path of an endpoint behind a text that names a place of the web leads under it. -/
theorem isUnder_of_standsAt (e : Endpoint) {hop : Hop} {place : Url}
    (hplace : Url.ofText? (Text.trimTrailing '/' text ++ e.path) = some place)
    (hhop : hop.url = if (credentials? place).isSome then place.withoutUserinfo else place) :
    hop.IsUnder text e.path (finish v (q ++ List.replicate n '/')) := by
  have hglued := h.glued e.path.toList e.isTail_path
  rw [String.ofList_toList, hplace] at hglued
  obtain rfl := Option.some.inj hglued
  -- moving a name and password out of the URL leaves its place and path alone
  obtain ⟨name, password, hurl⟩ : ∃ name password, hop.url =
      { finish v (q ++ (w ++ e.path.toList)) with username := name, password := password } := by
    rw [hhop]
    split
    · exact ⟨"", none, rfl⟩
    · exact ⟨_, _, rfl⟩
  obtain ⟨host, hhost⟩ := Option.isSome_iff_exists.mp h.host
  obtain ⟨port, hport⟩ := Url.effectivePort_of_web h.web
  obtain ⟨hscheme, hsameHost, hsamePort⟩ := Url.finish_place h.web (q ++ (w ++ e.path.toList))
  obtain ⟨huscheme, huhost, huport⟩ := Url.finish_place h.web (q ++ List.replicate n '/')
  have hserver : hop.server = ⟨host, port⟩ := by
    rw [Hop.server, hurl]
    show Address.mk ((finish v _).host.getD _) ((finish v _).effectivePort.getD 0) = _
    rw [hsameHost, hsamePort, hhost, hport]
    rfl
  refine { scheme := ?_, host := ?_, port := ?_, ended := fun hmark => ?_,
           led := fun hquery hfragment => ?_ }
  · rw [hurl, huscheme]
    exact hscheme
  · rw [hserver, huhost, hhost]
  · rw [hserver, huport, hport]
  · rw [hurl]
    refine h.path_of_ended (by_contra fun hnone => ?_) e.path.toList
    obtain ⟨hquery, hfragment⟩ := h.forall_open_iff.mp fun c hc =>
      Bool.eq_false_iff.mpr fun hc' => hnone ⟨c, hc, hc'⟩
    simp [hquery, hfragment] at hmark
  · rw [hurl]
    exact led_of_standsAt h htext (h.forall_open_iff.mpr ⟨hquery, hfragment⟩) e

end Under

/-- Where a text with the path of an endpoint behind it is a URL of the web, so is the text by
itself and the path leads under it, or the text is no more than a scheme. -/
theorem isUnder_or_isBareScheme {text : String} {e : Endpoint} {place : Url}
    (h : Url.web? (Text.trimTrailing '/' text ++ e.path) = some place) :
    (∃ u, Url.web? text = some u ∧ ∀ hop : Hop,
      hop.url = (if (credentials? place).isSome then place.withoutUserinfo else place) →
        hop.IsUnder text e.path u) ∨
    Url.web? text = none ∧ ∃ scheme, (scheme = "http" ∨ scheme = "https") ∧
      IsBareScheme scheme text := by
  obtain ⟨hread, hweb, -⟩ := Url.web?_eq_some.mp h
  obtain ⟨n, htext⟩ := Text.eq_trimTrailing_append '/' text
  have htail := e.isTail_path
  rcases Url.ofText?_glued (Text.trimTrailing '/' text) n with
    hother | ⟨scheme, hscheme, hbare, hnone⟩ | ⟨v, q, w, hstands⟩
  · rw [← String.ofList_toList (s := e.path)] at hread
    exact absurd hweb (not_or.mpr (hother _ htail place hread))
  · right
    rw [← htext] at hbare hnone
    exact ⟨by rw [Url.web?, hnone, Option.filter_none], scheme, hscheme, hbare⟩
  · left
    obtain ⟨hstartScheme, hstartHost, -⟩ :=
      Url.finish_place hstands.web (q ++ List.replicate n '/')
    refine ⟨finish v (q ++ List.replicate n '/'), Url.web?_eq_some.mpr ⟨?_, ?_, ?_⟩,
      fun hop hhop => isUnder_of_standsAt hstands htext e hread hhop⟩
    · rw [htext]
      exact hstands.alone
    · rw [hstartScheme]
      exact hstands.web
    · rw [hstartHost]
      exact hstands.host

/-- A request without a first hop cannot be built. -/
theorem firstHop_of_error {proxies : Proxies} {r : Request} {fault : ExchangeFault}
    (h : firstHop proxies r = .error fault) : ∃ url, fault = .unbuildable url := by
  unfold firstHop at h
  split at h
  · exact ⟨_, (Except.error.inj h).symm⟩
  split at h
  · exact ⟨_, (Except.error.inj h).symm⟩
  split at h
  · exact ⟨_, (Except.error.inj h).symm⟩
  · contradiction

/-- At a place with a host, only the values of the headers can be in the way. -/
theorem exists_firstHop (proxies : Proxies) {r : Request} {place : Url}
    (hplace : Url.ofText? r.url = some place) (hhost : place.host.isSome = true) :
    ∃ hop : Hop, hop.url = (if (credentials? place).isSome then place.withoutUserinfo else place) ∧
      firstHop proxies r = if r.headers.entries.all fun h => isSendableValue h.2 then .ok hop
        else .error (.unbuildable none) := by
  have hsome : place.host.isNone = false := by simpa using hhost
  refine ⟨⟨if (credentials? place).isSome then place.withoutUserinfo else place, r.method,
    credentialEntry place ++ r.headers.entries ++ acceptsAll :: proxyHeader proxies place,
    r.body.map Json.text⟩, rfl, ?_⟩
  simp only [firstHop, hplace, hsome, Option.isSome_map, credentialEntry]
  cases r.headers.entries.all fun h => isSendableValue h.2 <;> rfl

/-- A server of the web is spoken to over TLS unless its scheme is the plain one. -/
theorem Hop.channel_none_eq_plain_iff {hop : Hop} (h : hop.isSendable = true) :
    hop.channel none = .plain ↔ hop.url.scheme = "http" := by
  have hweb : hop.url.scheme = "http" ∨ hop.url.scheme = "https" := by
    simpa using (Bool.and_eq_true_iff.mp h).1
  rcases hweb with hscheme | hscheme <;> simp [channel, isSecured, hscheme]

section Call

variable (proxies : Proxies) (network : Network) (sources : Sources) (elapsed : String)
variable (client : Client) (call : Call)

theorem callOver_of_unbuildable (url : Option String)
    (h : dialogue proxies (call.requestFrom client.config sources client.asked) =
      .ended (.error (.unbuildable url))) :
    Refused proxies (call.requestFrom client.config sources client.asked)
      (callOver proxies network sources elapsed client call) where
  undialled := ⟨url, h⟩
  unsent := by simp [callOver, exchangeVia, h, Dialogue.against]
  result := by
    simp [callOver, Client.step_eq, exchangeVia, h, Dialogue.against, Except.mapError,
      Reply.outcome, ExchangeFault.failure]

theorem callOver_of_error {fault : ExchangeFault}
    (h : firstHop proxies (call.requestFrom client.config sources client.asked) = .error fault) :
    Refused proxies (call.requestFrom client.config sources client.asked)
      (callOver proxies network sources elapsed client call) := by
  obtain ⟨url, rfl⟩ := firstHop_of_error h
  refine callOver_of_unbuildable proxies network sources elapsed client call url ?_
  simp only [dialogue, h]

section Started

variable {hop : Hop}
variable (h : firstHop proxies (call.requestFrom client.config sources client.asked) = .ok hop)
include h

theorem callOver_of_unsendable (hsend : hop.isSendable = false) :
    Refused proxies (call.requestFrom client.config sources client.asked)
      (callOver proxies network sources elapsed client call) := by
  refine callOver_of_unbuildable proxies network sources elapsed client call hop.url.text ?_
  simp only [dialogue, h, redirectLimit, follow, Hop.ask, hsend]
  rfl

theorem head?_callOver (hsend : hop.isSendable = true) :
    (callOver proxies network sources elapsed client call).1.head? =
      (network 0 (hop.request (proxies.proxy? hop.url))).map fun _ =>
        hop.request (proxies.proxy? hop.url) := by
  simp only [callOver, exchangeVia_of_ok proxies network h, redirectLimit, follow,
    Hop.against_ask, Hop.met?, hsend, ↓reduceIte]
  cases network 0 (hop.request (proxies.proxy? hop.url)) with
  | none => rfl
  | some delivery => cases honward : hop.onward? delivery <;> simp [honward]

theorem callOver_of_sendable (hsend : hop.isSendable = true) :
    Starts proxies network (call.requestFrom client.config sources client.asked) hop
      (callOver proxies network sources elapsed client call) where
  asked := by simp only [dialogue, h]
  sendable := hsend
  first := head?_callOver proxies network sources elapsed client call h hsend
  dialled := by
    intro hproxy sent hsent
    rw [head?_callOver proxies network sources elapsed client call h hsend, hproxy] at hsent
    obtain ⟨delivery, -, rfl⟩ := Option.map_eq_some_iff.mp hsent
    exact ⟨rfl, Hop.channel_none_eq_plain_iff hsend, rfl⟩

end Started

/-- A call whose URL is none of the web is refused. -/
theorem callOver_of_web?_eq_none
    (h : Url.web? (call.requestFrom client.config sources client.asked).url = none) :
    Refused proxies (call.requestFrom client.config sources client.asked)
      (callOver proxies network sources elapsed client call) := by
  cases hfirst : firstHop proxies (call.requestFrom client.config sources client.asked) with
  | error fault => exact callOver_of_error proxies network sources elapsed client call hfirst
  | ok hop =>
    obtain ⟨place, hplace, hhost, hurl, -⟩ := firstHop_eq_ok hfirst
    refine callOver_of_unsendable proxies network sources elapsed client call hfirst ?_
    have hscheme : hop.url.scheme = place.scheme := by
      rw [hurl]
      split <;> rfl
    have hother : ¬ (place.scheme = "http" ∨ place.scheme = "https") := fun hweb =>
      Option.some_ne_none place ((Url.web?_eq_some.mpr ⟨hplace, hweb, hhost⟩).symm.trans h)
    simp [Hop.isSendable, hscheme, not_or.mp hother]

/-- A call whose URL is one of the web goes to its place, unless the headers or the URL cannot be
put in a request. -/
theorem callOver_of_web?_eq_some {place : Url}
    (h : Url.web? (call.requestFrom client.config sources client.asked).url = some place) :
    let request := call.requestFrom client.config sources client.asked
    let made := callOver proxies network sources elapsed client call
    ∃ hop : Hop, hop.url = (if (credentials? place).isSome then place.withoutUserinfo else place) ∧
      if request.headers.entries.all (fun h => isSendableValue h.2) = true ∧
          Target.isSendable hop.url.text = true then Starts proxies network request hop made
      else Refused proxies request made := by
  intro request made
  obtain ⟨hplace, hweb, hhost⟩ := Url.web?_eq_some.mp h
  obtain ⟨hop, hurl, hfirst⟩ := exists_firstHop proxies hplace hhost
  refine ⟨hop, hurl, ?_⟩
  cases hheaders : request.headers.entries.all fun h => isSendableValue h.2 with
  | false =>
    rw [hheaders] at hfirst
    simpa using callOver_of_error proxies network sources elapsed client call hfirst
  | true =>
    rw [hheaders] at hfirst
    have hscheme : hop.url.scheme = "http" ∨ hop.url.scheme = "https" := by
      rw [hurl]
      split <;> exact hweb
    have hsend : hop.isSendable = Target.isSendable hop.url.text := by
      simp [Hop.isSendable, hscheme]
    cases htarget : Target.isSendable hop.url.text with
    | false =>
      simpa using callOver_of_unsendable proxies network sources elapsed client call hfirst
        (hsend.trans htarget)
    | true =>
      simpa using callOver_of_sendable proxies network sources elapsed client call hfirst
        (hsend.trans htarget)

end Call

/-- What a call does with the text that it is given for a base URL. Where the text with the path of
the endpoint behind it is no URL of the web, the call is refused. Where it is one, and so is the
text by itself, the first request goes to the place of the text, unless the headers or the URL
cannot be put in a request. Only a text that is no more than a scheme gives a URL of the web without
being one. -/
theorem callOver_addressed (proxies : Proxies) (network : Network) (sources : Sources)
    (elapsed text key : String) (project : Option String) (timeout : Binary64) (asked : Asked)
    (call : Call) :
    let config : ClientConfig :=
      { ClientConfig.new text key with projectId := project, timeoutSeconds := timeout }
    let request := call.requestFrom config sources asked
    let made := callOver proxies network sources elapsed ⟨config, asked⟩ call
    match Url.web? request.url, Url.web? text with
    | none, _ => Refused proxies request made
    | some _, some u => ∃ hop : Hop, hop.IsUnder text call.endpoint.path u ∧
        if request.headers.entries.all (fun h => isSendableValue h.2) = true ∧
            Target.isSendable hop.url.text = true then Starts proxies network request hop made
        else Refused proxies request made
    | some _, none => ∃ scheme, (scheme = "http" ∨ scheme = "https") ∧ IsBareScheme scheme text := by
  intro config request made
  cases hplace : Url.web? request.url with
  | none =>
    exact callOver_of_web?_eq_none proxies network sources elapsed ⟨config, asked⟩ call hplace
  | some place =>
    rcases isUnder_or_isBareScheme hplace with
      ⟨u, halone, hunder⟩ | ⟨halone, scheme, hscheme, hbare⟩
    · rw [halone]
      obtain ⟨hop, hurl, hmade⟩ :=
        callOver_of_web?_eq_some proxies network sources elapsed ⟨config, asked⟩ call hplace
      exact ⟨hop, hunder hop hurl, hmade⟩
    · rw [halone]
      exact ⟨scheme, hscheme, hbare⟩

/-- The path that is asked for is not the one of the text with the endpoint's behind it where the
text has a query or a fragment, ends in a blank, or has slashes that are not at its end. -/
theorem callOver_elsewhere :
    let sources : Sources := ⟨fun _ => 1700000000000, fun _ => ""⟩
    let network : Network := fun _ _ => some ⟨(SizedReply.mk 200 [] (Text.utf8 ['1'])).bytes, false⟩
    let asked (text : String) : List String :=
      let client := Client.fresh (ClientConfig.new text "key")
      (callOver .none network sources "" client .health).1.map fun sent =>
        String.ofList (sent.target.toList.takeWhile (· ≠ '?'))
    let expected (text : String) : Option String :=
      (Url.web? text).map fun u => Text.trimTrailing '/' u.path.text ++ Endpoint.health.path
    (expected "http://[::1]/a?x" = some "/a/api/v1/sdk/health" ∧
      asked "http://[::1]/a?x" = ["/a"]) ∧
    (expected "http://[::1]/a#x" = some "/a/api/v1/sdk/health" ∧
      asked "http://[::1]/a#x" = ["/a"]) ∧
    (expected "http://[::1]/a " = some "/a/api/v1/sdk/health" ∧
      asked "http://[::1]/a " = ["/a%20/api/v1/sdk/health"]) ∧
    (expected "http://[::1]/a//." = some "/a/api/v1/sdk/health" ∧
      asked "http://[::1]/a//." = ["/a//api/v1/sdk/health"]) := by
  decide +kernel

end Http

end SessionGateway
