import SessionGateway.Proofs.CallHeaders
import SessionGateway.Proofs.Json.Reading
import SessionGateway.Proofs.Server.BaseUrl
import SessionGateway.Proofs.Server.Received
import SessionGateway.Proofs.SessionProject

/-! What a server gets of a call. The texts that a caller has a say in either stop the call, or they
reach the server as they are, in the headers and the body they are meant for. -/

namespace SessionGateway

open Http (isSendableValue isHeaderName lengthHeader Received WireRequest)

namespace Http

theorem isSendableValue_append (a b : String) :
    isSendableValue (a ++ b) = (isSendableValue a && isSendableValue b) := by
  rw [isSendableValue, String.toList_append, List.all_append]
  rfl

theorem isSendableValue_of_forall {s : String}
    (h : ∀ c ∈ s.toList, 0x20 ≤ c.toNat ∧ c.toNat ≠ 0x7F) : isSendableValue s = true := by
  refine List.all_eq_true.mpr fun c hc => ?_
  obtain ⟨hlow, hdelete⟩ := h c hc
  simp [hlow, hdelete]

theorem isSendableValue_toString (n : Nat) : isSendableValue (toString n) = true := by
  refine isSendableValue_of_forall fun c hc => ?_
  rw [Host.toList_toString] at hc
  exact Url.of_isUnreserved (p := fun d => 0x20 ≤ d.toNat ∧ d.toNat ≠ 0x7F)
    (isUnreserved_of_isDigit (JsonText.isDigit_toDigits n c hc)) (by decide)

theorem isSendableValue_toString_int (n : Int) : isSendableValue (toString n) = true := by
  have hminus : isSendableValue "-" = true := by decide
  rw [Int.toString_eq_repr, Int.repr_eq_if]
  split
  · exact isSendableValue_toString _
  · rw [isSendableValue_append, hminus]
    exact isSendableValue_toString _

end Http

namespace Call

/-- The texts that a call puts into headers for others. A token that is exchanged for another goes
into the body. -/
def carried (config : ClientConfig) (suffix : String) : Call → List String
  | health | capabilities => config.apiKey :: (resolveProject none config.projectId).toList
  | session payload =>
    config.apiKey :: (resolveProject payload.projectId config.projectId).toList ++ [suffix]
  | refresh _ => []
  | logout token => [token]

/-- The other values are made of numbers and fixed texts. -/
theorem all_isSendableValue_headers (config : ClientConfig) (call : Call) (now : Millis)
    (suffix : String) : ((call.headers config now suffix).entries.all fun h => isSendableValue h.2) =
      (call.carried config suffix).all isSendableValue := by
  have hmedia : isSendableValue jsonMediaType = true := by decide
  have hcorrelation : isSendableValue (correlationId now) = true := by
    rw [correlationId, Http.isSendableValue_append, Millis.text, Http.isSendableValue_toString_int]
    decide
  have hidempotency : isSendableValue (idempotencyKey now) = true := by
    rw [idempotencyKey, Http.isSendableValue_append, Millis.text, Http.isSendableValue_toString_int]
    decide
  have hnonce : isSendableValue (nonceText now suffix) = isSendableValue suffix := by
    have hline : isSendableValue "_" = true := by decide
    rw [nonceText, Http.isSendableValue_append, Http.isSendableValue_append, Millis.text,
      Http.isSendableValue_toString_int, hline]
    rfl
  have hbearer (token : String) : isSendableValue ("Bearer " ++ token) = isSendableValue token := by
    have hword : isSendableValue "Bearer " = true := by decide
    rw [Http.isSendableValue_append, hword]
    rfl
  have htime : isSendableValue (toString (Millis.seconds now)) = true :=
    Http.isSendableValue_toString_int _
  rw [entries_headers, HeaderList.all_flatMap_rowEntry]
  cases call with
  | health | capabilities =>
    simp [table, HeaderOptions.table, options, HeaderOptions.standard, project, authorization,
      carried, hmedia, hcorrelation]
  | session payload =>
    have hsame := resolveProject_resolveProject payload.projectId config.projectId
    simp only [table, HeaderOptions.table, options, HeaderOptions.session, HeaderOptions.standard,
      project, authorization, hsame, carried, if_true, List.all_append, List.all_cons, List.all_nil,
      List.cons_append, Option.toList_some, Option.toList_none, hmedia, hcorrelation, hidempotency,
      hnonce, htime, Bool.true_and, Bool.and_true]
  | refresh token =>
    simp [table, HeaderOptions.table, options, HeaderOptions.tokenOnly, authorization, carried,
      hmedia, hcorrelation]
  | logout token =>
    simp [table, HeaderOptions.table, options, HeaderOptions.tokenOnly, authorization, carried,
      hmedia, hcorrelation, hbearer]

/-- A call gives no header twice. -/
theorem names_headers_sublist (config : ClientConfig) (call : Call) (now : Millis)
    (suffix : String) :
    ((call.headers config now suffix).entries.map Prod.fst).Sublist HeaderName.all := by
  have hnames : (call.table config now suffix).map Prod.fst = HeaderName.all := names_table
  rw [entries_headers, ← hnames]
  exact HeaderList.names_flatMap_rowEntry _

end Call

/-! ## At the server -/

/-- The names of all headers that a server may be sent. -/
def Http.sentNames : List String :=
  HeaderName.all ++ ["accept", "host"] ++ ["content-length"]

theorem Server.isSendableValue_hostText (server : Server) :
    isSendableValue server.place.hostText = true := by
  have hauthority : ∀ c ∈ server.place.hostText.toList, Http.Target.isAuthorityChar c = true := by
    intro c hc
    have hhost := server.named.written.isAuthorityChar
    rcases server.toList_hostText [] with htext | htext
    · exact hhost c (htext ▸ hc)
    · have hc : c ∈ server.toAddress.text.toList := htext ▸ hc
      rw [toList_text, List.mem_append, List.mem_cons] at hc
      rcases hc with hc | rfl | hc
      · exact hhost c hc
      · decide
      · have hdigit := JsonText.isDigit_toDigits _ c hc
        simp [Http.Target.isAuthorityChar, Char.isAlphanum, hdigit]
  exact Http.isSendableValue_of_forall fun c hc => Url.of_isAlphanum_or_mem
    (p := fun d => 0x20 ≤ d.toNat ∧ d.toNat ≠ 0x7F) (hauthority c hc) (by decide) (by decide +kernel)

namespace BaseUrl

variable (base : BaseUrl)

/-- What the server is sent of a request. -/
def sent (r : Request) : WireRequest := (base.hop r).request none

theorem isSendable_hop (r : Request) : (base.hop r).isSendable = true := by
  have htarget := base.isSendable_pathTo r.endpoint
  have hscheme : (base.hop r).url.scheme = "http" := rfl
  have hurl : (base.hop r).url = base.url (base.pathTo r.endpoint).toList := rfl
  rw [Http.Hop.isSendable, hscheme, hurl, htarget]
  rfl

theorem address_sent (r : Request) : (base.sent r).address = base.toAddress := by
  have hport := base.effectivePort_url (base.pathTo r.endpoint).toList
  show Http.Address.mk _ ((base.url (base.pathTo r.endpoint).toList).effectivePort.getD 0) = _
  rw [hport]
  rfl

theorem headers_sent (r : Request) : (base.sent r).headers =
    r.headers.entries ++ [("accept", "*/*"), ("host", base.place.hostText)] ++
      lengthHeader (r.body.map Json.text) := by
  simp only [sent, Http.Hop.request, hop, Server.hostText_url_eq, Http.acceptsAll,
    List.append_assoc, List.cons_append, List.nil_append]

theorem target_sent (r : Request) :
    (base.sent r).target = (base.url (base.pathTo r.endpoint).toList).path.text := by
  show (base.url _).path.text ++ "" = _
  exact String.append_empty

theorem body_sent (r : Request) : (base.sent r).body = r.body.map Json.text := rfl

theorem space_notMem_target_sent (r : Request) : ' ' ∉ (base.sent r).target.toList := by
  rw [target_sent]
  intro hmem
  rcases (base.isPlainPath_pathTo r.endpoint).read.1.plain _ hmem with h | h
  · exact absurd h (by decide)
  · exact absurd h (by decide)

/-- The names of what is sent are those of the call and of the exchange, each once. -/
theorem names_sent_sublist (config : ClientConfig) (call : Call) (now : Millis) (suffix : String) :
    ((base.sent (call.request config now suffix)).headers.map Prod.fst).Sublist
      Http.sentNames := by
  have hlength (body : Option String) :
      ((lengthHeader body).map Prod.fst).Sublist ["content-length"] := by
    cases body with
    | none => exact List.nil_sublist _
    | some body => exact List.Sublist.refl _
  rw [headers_sent, List.map_append, List.map_append]
  exact ((call.names_headers_sublist config now suffix).append (List.Sublist.refl _)).append
    (hlength _)

theorem isClear_sent {config : ClientConfig} {call : Call} {now : Millis} {suffix : String}
    (h : ((call.headers config now suffix).entries.all fun h => isSendableValue h.2) = true) :
    (base.sent (call.request config now suffix)).IsClear := by
  have hnames := base.names_sent_sublist config call now suffix
  have hentries := call.names_headers_sublist config now suffix
  refine { target := base.space_notMem_target_sent _, names := ?_, values := ?_, few := ?_,
           length := ?_ }
  · have hall : ∀ name ∈ Http.sentNames, isHeaderName name = true := by decide +kernel
    exact fun e he => hall e.1 (hnames.subset (List.mem_map_of_mem he))
  · rw [headers_sent]
    intro e he
    rcases List.mem_append.mp he with he | he
    · rcases List.mem_append.mp he with he | he
      · exact List.all_eq_true.mp h e he
      · rcases List.mem_cons.mp he with rfl | he
        · decide
        · rw [List.mem_singleton.mp he]
          exact base.isSendableValue_hostText
    · obtain ⟨text, -, rfl⟩ := Option.map_eq_some_iff.mp (Option.mem_toList.mp he)
      exact Http.isSendableValue_toString _
  · have hlength := hnames.length_le
    rw [List.length_map] at hlength
    exact Nat.le_trans hlength (by decide)
  · have hother : ∀ name ∈ HeaderName.all, (name == "content-length") = false := by decide
    have hgiven : (call.headers config now suffix).entries.filter (·.1 == "content-length") = [] :=
      List.filter_eq_nil_iff.mpr fun e he => by
        rw [hother e.1 (hentries.subset (List.mem_map_of_mem he))]
        decide
    have hadded : [("accept", "*/*"), ("host", base.place.hostText)].filter
        (·.1 == "content-length") = [] := by simp
    have hlength (body : Option String) :
        (lengthHeader body).filter (·.1 == "content-length") = lengthHeader body := by
      cases body with
      | none => rfl
      | some text => exact List.filter_cons_of_pos (beq_self_eq_true _)
    rw [headers_sent, List.filter_append, List.filter_append, hadded, hlength, List.append_nil]
    exact congrArg (· ++ lengthHeader _) hgiven

end BaseUrl

/-- The request of a call as a server gets it at a place: with its headers and those that an
exchange adds, each once, with the blanks around their values gone, and with its body, whose bytes
are counted: the tokens of its JSON with nothing between them, which the server reads as that JSON
if it is plain. -/
structure Request.Arrived (r : Request) (place : Url) (received : Received) : Prop where
  method : received.method = Text.utf8 r.method.name.toList
  target : received.target = Text.utf8 place.path.text.toList
  body : received.body = r.body.elim [] fun json => Text.utf8 json.text.toList
  compact : ∀ json ∈ r.body, json.text.toList = json.tokens.flatten
  readable : ∀ json ∈ r.body, json.Plain JsonText.depthLimit → Json.ofText json.text = .ok json
  headers : received.headers =
    (r.headers.entries ++ [("accept", "*/*"), ("host", place.hostText)] ++
      (r.body.map fun _ => ("content-length", toString received.body.length)).toList).map
        fun h => (h.1, Http.strip (Text.utf8 h.2.toList))
  once : (received.headers.map Prod.fst).Nodup

theorem BaseUrl.arrived_received (base : BaseUrl) (config : ClientConfig) (call : Call)
    (now : Millis) (suffix : String) :
    (call.request config now suffix).Arrived (base.url (base.pathTo call.endpoint).toList)
      (base.sent (call.request config now suffix)).received := by
  have hnames := base.names_sent_sublist config call now suffix
  have htarget := base.target_sent (call.request config now suffix)
  have hheaders := base.headers_sent (call.request config now suffix)
  have hbody := base.body_sent (call.request config now suffix)
  have hmethod : (base.sent (call.request config now suffix)).method = call.method := rfl
  generalize base.sent (call.request config now suffix) = sent at *
  have hbytes : sent.received.body =
      (call.body config).elim [] fun json => Text.utf8 json.text.toList := by
    rw [WireRequest.body_received, hbody]
    show Text.utf8 (((call.body config).map Json.text).getD "").toList = _
    cases call.body config with
    | none => rfl
    | some json => rfl
  have hlength : lengthHeader ((call.body config).map Json.text) = ((call.body config).map
      fun _ => ("content-length", toString sent.received.body.length)).toList := by
    rw [hbytes]
    cases call.body config with
    | none => rfl
    | some json => simp only [Option.elim_some, Text.length_utf8, lengthHeader, Option.map_some]
  have hall : Http.sentNames.Nodup := by decide
  refine { method := ?_, target := ?_, body := hbytes, compact := fun json _ => json.toList_text,
           readable := fun json _ hplain => Json.ofText_write JsonLayout.isBlank_compact hplain,
           headers := ?_, once := ?_ }
  · rw [WireRequest.method_received, hmethod]
    rfl
  · rw [WireRequest.target_received, htarget]
    rfl
  · have hgiven : (call.request config now suffix).body = call.body config := rfl
    rw [WireRequest.headers_received, hheaders, hgiven, hlength, Server.hostText_url_eq]
  · rw [WireRequest.headers_received, List.map_map]
    exact hall.sublist hnames

namespace Http

/-- A call at the server of a base URL is refused, and nothing is sent, if a text that it carries in
a header cannot be sent. The key and the project are not among those texts where a token
authenticates the call. Otherwise the server gets the request as the client made it: whatever the
texts hold and whatever bytes follow, its headers and its body are those of the request. -/
theorem callOver_received (base : BaseUrl) (key : String) (project : Option String)
    (timeout : Binary64) (proxies : Proxies) (network : Network) (sources : Sources)
    (elapsed : String) (asked : Asked) (call : Call) :
    let config := base.config key project timeout
    let request := call.requestFrom config sources asked
    let made := callOver proxies network sources elapsed ⟨config, asked⟩ call
    let sendable := request.headers.entries.all fun h => isSendableValue h.2
    sendable = (call.carried config (sources.suffix asked.suffix)).all isSendableValue ∧
    (sendable = false → Refused proxies request made) ∧
    (sendable = true → base.IsDirect proxies → ∃ place sent received,
      Url.ofText? request.url = some place ∧
      made.1.head? = (network 0 sent).map (fun _ => sent) ∧ sent.address = base.toAddress ∧
      (∀ rest, Received.ofBytes? (sent.bytes ++ rest) = some (received, rest)) ∧
      request.Arrived place received) := by
  intro config request made sendable
  have hplace : Url.ofText? request.url = _ :=
    base.ofText?_requestFrom key project timeout sources asked call
  refine ⟨call.all_isSendableValue_headers config _ _, fun hsendable => ?_,
    fun hsendable hdirect => ?_⟩
  -- The URL names a host, so that only the values are in the way.
  · obtain ⟨hop, -, hfirst⟩ := exists_firstHop proxies hplace rfl
    exact callOver_of_error proxies network sources elapsed ⟨config, asked⟩ call
      (hfirst.trans (if_neg (Bool.eq_false_iff.mp hsendable)))
  · have hfirst : firstHop proxies request = .ok (base.hop request) :=
      (base.firstHop_requestFrom key project timeout sources asked call hdirect).trans
        (if_pos hsendable)
    have hproxy : proxies.proxy? (base.hop request).url = none := hdirect.proxy?_url _
    have hstarts := callOver_of_sendable proxies network sources elapsed ⟨config, asked⟩ call hfirst
      (base.isSendable_hop request)
    have hmade := hstarts.first
    rw [hproxy] at hmade
    exact ⟨_, base.sent request, (base.sent request).received, hplace, hmade,
      base.address_sent request, (base.isClear_sent hsendable).ofBytes?_bytes,
      base.arrived_received config call _ _⟩

/-- A token that is no header goes out to a server on the same machine, whatever it and the key
hold. -/
theorem callOver_received_refresh :
    let sources : Sources := ⟨fun _ => 1700000000000, fun _ => "a1"⟩
    let config := BaseUrl.loopback.config "k\r\ney" none ClientConfig.defaultTimeout
    let request := (Call.refresh "t\r\nö").requestFrom config sources .none
    let text := "\x7b\"refresh_token\":\"t\\r\\nö\"\x7d"
    (request.headers.entries.all fun h => isSendableValue h.2) = true ∧
      BaseUrl.loopback.IsDirect .none ∧
      ∃ (place : Url) (sent : WireRequest) (received : Received),
        Url.ofText? request.url = some place ∧ sent.address = BaseUrl.loopback.toAddress ∧
        (∀ rest, Received.ofBytes? (sent.bytes ++ rest) = some (received, rest)) ∧
        request.Arrived place received ∧
        received.body = Text.utf8 text.toList ∧
        ("content-length", Text.utf8 "27".toList) ∈ received.headers ∧
        Json.ofText text = .ok (.object [("refresh_token", .string "t\r\nö")]) := by
  intro sources config request text
  have hsendable : (request.headers.entries.all fun h => isSendableValue h.2) = true := by
    decide +kernel
  have hdirect : BaseUrl.loopback.IsDirect .none := .inl rfl
  obtain ⟨place, sent, received, hplace, -, haddress, hreceived, harrived⟩ :=
    (callOver_received BaseUrl.loopback "k\r\ney" none ClientConfig.defaultTimeout .none
      (fun _ _ => none) sources "" .none (.refresh "t\r\nö")).2.2 hsendable hdirect
  have hmember : request.body = some (.object [("refresh_token", .string "t\r\nö")]) := rfl
  have htext : (Json.object [("refresh_token", .string "t\r\nö")]).text = text := by
    decide +kernel
  have hbody : received.body = Text.utf8 text.toList := by
    rw [harrived.body, hmember, Option.elim_some, htext]
  have hlength : ("content-length", Text.utf8 "27".toList) ∈ received.headers := by
    have hcount : received.body.length = 27 := by
      rw [hbody]
      decide +kernel
    have hdigits : ("content-length", strip (Text.utf8 (toString 27).toList)) =
        ("content-length", Text.utf8 "27".toList) := by decide +kernel
    rw [harrived.headers, hmember, hcount, ← hdigits]
    exact List.mem_map_of_mem (List.mem_append_right _ (List.mem_singleton_self _))
  have hplain : (Json.object [("refresh_token", .string "t\r\nö")]).Plain JsonText.depthLimit :=
    .object (List.pairwise_singleton _ _) (List.forall_mem_singleton.mpr (.string _ _))
  have hread := harrived.readable _ hmember hplain
  rw [htext] at hread
  exact ⟨hsendable, hdirect, place, sent, received, hplace, haddress, hreceived, harrived, hbody,
    hlength, hread⟩

end Http

end SessionGateway
