import SessionGateway.Proofs.Server.Fidelity
import SessionGateway.Proofs.Server.WrittenReply

/-! Calls that a server answers. Over the wire, a reply comes to the same as a response that is
handed to the client with the reply's status and text. -/

namespace SessionGateway.Http

theorem callOver_of_exchangeVia {proxies : Proxies} {network : Network} (sources : Sources)
    (elapsed : String) (client : Client) (call : Call) {made : List WireRequest} {reply : Reply}
    (h : exchangeVia proxies network (call.requestFrom client.config sources client.asked) =
      (made, reply)) : callOver proxies network sources elapsed client call =
        (made, client.step ⟨sources, fun _ => reply, fun _ => elapsed⟩ call) := by
  simp only [callOver, h]

/-- A call at the server of a base URL that can be sent makes one request if what it meets leads
nowhere else, and that decides the call. -/
theorem callOver_of_met (base : BaseUrl) (key : String) (project : Option String)
    (timeout : Binary64) {proxies : Proxies} (hdirect : base.IsDirect proxies) (network : Network)
    (sources : Sources) (elapsed : String) (asked : Asked) (call : Call)
    (hsendable : ((call.requestFrom (base.config key project timeout) sources
      asked).headers.entries.all fun h => isSendableValue h.2) = true)
    {delivery : Delivery} (hlast : ∀ hop : Hop, hop.onward? delivery = none)
    (hnetwork : network 0 (base.sent (call.requestFrom (base.config key project timeout) sources
      asked)) = some delivery) {result : Except ExchangeFault Response}
    (hresult : delivery.conclusion (base.hop (call.requestFrom (base.config key project timeout)
      sources asked)).url.text = result) :
    let client : Client := ⟨base.config key project timeout, asked⟩
    let request := call.requestFrom client.config sources asked
    callOver proxies network sources elapsed client call = ([base.sent request],
      client.step ⟨sources, fun _ => result.mapError ExchangeFault.failure, fun _ => elapsed⟩
        call) := by
  intro client request
  have hfirst : firstHop proxies request = .ok (base.hop request) :=
    (base.firstHop_requestFrom key project timeout sources asked call hdirect).trans
      (if_pos hsendable)
  have hproxy : proxies.proxy? (base.hop request).url = none := hdirect.proxy?_url _
  have hmet : (base.hop request).met? proxies network 0 = some delivery := by
    simp only [Hop.met?, hproxy, base.isSendable_hop, if_true]
    exact hnetwork
  have hsettled := follow_of_settled proxies network (base.hop request).url.text redirectLimit hmet
    (hlast _)
  refine callOver_of_exchangeVia sources elapsed client call ?_
  rw [exchangeVia_of_ok proxies network hfirst, hsettled, hproxy, hresult]
  rfl

/-- The client takes a reply with a head within the limits for the response that it stands for:
however it is written, and whatever comes behind it. -/
theorem callOver_answered (base : BaseUrl) (key : String) (project : Option String)
    (timeout : Binary64) {proxies : Proxies} (hdirect : base.IsDirect proxies) (network : Network)
    (sources : Sources) (elapsed : String) (asked : Asked) (call : Call)
    (hsendable : ((call.requestFrom (base.config key project timeout) sources
      asked).headers.entries.all fun h => isSendableValue h.2) = true)
    {reply : WrittenReply} (hwhole : reply.IsWhole) (hfits : reply.Fits) (rest : List UInt8)
    (stalls : Bool)
    (hnetwork : network 0 (base.sent (call.requestFrom (base.config key project timeout) sources
      asked)) = some ⟨reply.bytes ++ rest, stalls⟩) :
    let client : Client := ⟨base.config key project timeout, asked⟩
    let request := call.requestFrom client.config sources asked
    callOver proxies network sources elapsed client call = ([base.sent request],
      client.step ⟨sources, fun _ => .ok reply.response, fun _ => elapsed⟩ call) :=
  callOver_of_met base key project timeout hdirect network sources elapsed asked call hsendable
    (hwhole.onward?_bytes hfits rest stalls) hnetwork
    (Delivery.conclusion_of_response? _ (hwhole.response?_bytes hfits rest stalls))

/-- A token is exchanged for another, whatever the spelling of the headers. -/
theorem callOver_answered_refresh :
    let reply : WrittenReply :=
      { isOld := false, status := 200, reason := some (Text.utf8 "Très bien".toList),
        lines := [(Text.utf8 "Content-Type".toList,
            Text.utf8 " application/json; Charset=\"UTF-8\"".toList),
          (Text.utf8 "CONTENT-LENGTH".toList, Text.utf8 "\t09 ".toList)],
        text := "\x7b\"é\": 1\x7d" }
    let sources : Sources := ⟨fun _ => 1700000000000, fun _ => "a1"⟩
    let config := BaseUrl.loopback.config "key" none ClientConfig.defaultTimeout
    let client : Client := ⟨config, .none⟩
    let call : Call := .refresh "token"
    let request := call.requestFrom config sources .none
    let network : Network := fun n _ => if n = 0 then some ⟨reply.bytes ++ [1], true⟩ else none
    (request.headers.entries.all fun h => isSendableValue h.2) = true ∧
      BaseUrl.loopback.IsDirect .none ∧ reply.IsWhole ∧ reply.Fits ∧
      callOver .none network sources "3" client call = ([BaseUrl.loopback.sent request],
        client.step ⟨sources, fun _ => .ok reply.response, fun _ => "3"⟩ call) := by
  intro reply sources config client call request network
  have hsendable : (request.headers.entries.all fun h => isSendableValue h.2) = true := by
    decide +kernel
  have hlines : ∀ l ∈ reply.lines, IsLine l.1 l.2 := by
    rw [List.forall_mem_cons, List.forall_mem_singleton]
    exact ⟨⟨by decide +kernel, by decide +kernel, by decide +kernel⟩,
      ⟨by decide +kernel, by decide +kernel, by decide +kernel⟩⟩
  have hcount : WrittenReply.Counts (Text.utf8 "09".toList) reply.text.utf8ByteSize :=
    ⟨"09".toList, rfl, by decide +kernel, Url.of_decide_all (by decide +kernel), by decide +kernel⟩
  have hwhole : reply.IsWhole :=
    { status := by decide +kernel
      reason := by decide +kernel
      lines := hlines
      counted := fun _ => ⟨by decide +kernel, Text.utf8 "09".toList, by decide +kernel, hcount,
        by decide +kernel⟩
      settled := fun _ => by decide +kernel
      unmarked := by decide +kernel
      charset := by decide +kernel }
  have hfits : reply.Fits := by decide +kernel
  have hdirect : BaseUrl.loopback.IsDirect .none := .inl rfl
  exact ⟨hsendable, hdirect, hwhole, hfits, callOver_answered BaseUrl.loopback "key" none
    ClientConfig.defaultTimeout hdirect network sources "3" .none call hsendable hwhole hfits [1]
    true rfl⟩

/-! ## Heads beyond the limits -/

/-- A head beyond the limits is no answer, whatever it says. -/
theorem callOver_of_not_fits (base : BaseUrl) (key : String) (project : Option String)
    (timeout : Binary64) {proxies : Proxies} (hdirect : base.IsDirect proxies) (network : Network)
    (sources : Sources) (elapsed : String) (asked : Asked) (call : Call)
    (hsendable : ((call.requestFrom (base.config key project timeout) sources
      asked).headers.entries.all fun h => isSendableValue h.2) = true)
    {w : WrittenHead} (hfinal : w.IsFinal) (hfits : ¬ w.Fits) (rest : List UInt8) (stalls : Bool)
    (hnetwork : network 0 (base.sent (call.requestFrom (base.config key project timeout) sources
      asked)) = some ⟨w.bytes ++ rest, stalls⟩) :
    let client : Client := ⟨base.config key project timeout, asked⟩
    let request := call.requestFrom client.config sources asked
    let failure := (ExchangeFault.unsent (base.hop request).url.text).failure
    callOver proxies network sources elapsed client call = ([base.sent request],
      client.step ⟨sources, fun _ => .error failure, fun _ => elapsed⟩ call) :=
  callOver_of_met base key project timeout hdirect network sources elapsed asked call hsendable
    (hfinal.onward?_of_not_fits hfits rest stalls) hnetwork
    (hfinal.conclusion_of_not_fits hfits rest stalls _)

/-- A word without a slash is no media type. -/
theorem MediaType.ofText?_word {cs : List Char} (h : ∀ c ∈ cs, MediaType.isTokenChar c = true) :
    MediaType.ofText? (String.ofList cs) = none := by
  rw [MediaType.ofText?, String.toList_ofList, List.dropWhile_eq_nil_iff.mpr h]

/-- A number that comes with so long a content type. -/
def labelled (size : Nat) : WrittenReply where
  isOld := false
  status := 200
  reason := none
  lines := [(Text.utf8 "content-length".toList, Text.utf8 "1".toList),
    (Text.utf8 "content-type".toList, List.replicate size (byte 'a'))]
  text := "1"

theorem headers_labelled (size : Nat) : (labelled size).head.headers =
    [("content-length", Text.utf8 "1".toList),
      ("content-type", List.replicate size (byte 'a'))] := by
  have hnames : lowerName (Text.utf8 "content-length".toList) = "content-length" ∧
      lowerName (Text.utf8 "content-type".toList) = "content-type" := by decide +kernel
  have hcount : strip (Text.utf8 "1".toList) = Text.utf8 "1".toList := by decide +kernel
  have hletters : strip (List.replicate size (byte 'a')) = List.replicate size (byte 'a') :=
    dropWhile_both_eq_self fun b hb => by
      rw [List.eq_of_mem_replicate hb]
      decide
  simp only [WrittenHead.head, labelled, List.map_cons, List.map_nil, hnames.1, hnames.2, hcount,
    hletters]

theorem isWhole_labelled (size : Nat) : (labelled size).IsWhole := by
  have hvalues (name : String) : (labelled size).head.values name = _ :=
    congrArg (fun headers => (headers.filter (·.1 == name)).map (·.2)) (headers_labelled size)
  have hcount : WrittenReply.Counts (Text.utf8 "1".toList) 1 :=
    ⟨"1".toList, rfl, by decide +kernel, Url.of_decide_all (by decide +kernel), by decide +kernel⟩
  refine { status := ⟨Nat.le_refl 200, show 200 < 1000 by decide⟩
           reason := fun _ h => by cases h
           lines := ?_
           counted := fun _ => ⟨hvalues _, _, hvalues _, hcount, show 1 < power 2 64 - 2 by decide⟩
           settled := fun _ => hvalues _
           unmarked := show "1".toList.head? ≠ some '\ufeff' by decide
           charset := ?_ }
  · rw [labelled, List.forall_mem_cons, List.forall_mem_singleton]
    refine ⟨⟨by decide +kernel, by decide +kernel, by decide +kernel⟩,
      { named := show Text.utf8 "content-type".toList ≠ [] by decide +kernel
        nameBytes := show ∀ b ∈ Text.utf8 "content-type".toList, isNameByte b = true by
          decide +kernel
        valueBytes := fun b hb => ?_ }⟩
    rw [List.eq_of_mem_replicate hb]
    decide
  · intro value hvalue name hname mediaType hmedia
    obtain rfl := Option.some.inj ((congrArg List.head? (hvalues _)).symm.trans hvalue)
    obtain ⟨-, hname⟩ := Option.ite_none_right_eq_some.mp hname
    obtain rfl := Option.some.inj hname
    rw [MediaType.ofText?_word] at hmedia
    · contradiction
    · intro c hc
      obtain ⟨b, hb, rfl⟩ := List.mem_map.mp hc
      rw [List.eq_of_mem_replicate hb]
      decide

theorem not_fits_labelled {size : Nat} (h : headSizeLimit < size) : ¬ (labelled size).Fits := by
  intro hfits
  have hsize : size ≤ (labelled size).toWrittenHead.bytes.length := by
    simp only [WrittenHead.bytes, labelled, line, List.flatMap_cons, List.length_append,
      List.length_cons, List.length_replicate]
    omega
  exact absurd (Nat.le_trans hsize hfits.2) (Nat.not_le_of_lt h)

/-- With three million letters for its content type, a reply is not taken for its response. -/
theorem callOver_not_answered :
    let sources : Sources := ⟨fun _ => 1700000000000, fun _ => "a1"⟩
    let config := BaseUrl.loopback.config "key" none ClientConfig.defaultTimeout
    let client : Client := ⟨config, .none⟩
    let request := Call.health.requestFrom config sources .none
    let reply := labelled 3000000
    let network : Network := fun _ _ => some ⟨reply.bytes, false⟩
    (request.headers.entries.all fun h => isSendableValue h.2) = true ∧
      BaseUrl.loopback.IsDirect .none ∧ reply.IsWhole ∧
      (∃ detail, (callOver .none network sources "3" client .health).2.result =
        .error (.transport detail)) ∧
      (client.step ⟨sources, fun _ => .ok reply.response, fun _ => "3"⟩ .health).result =
        .ok (some (.integer 1)) := by
  intro sources config client request reply network
  have hsendable : (request.headers.entries.all fun h => isSendableValue h.2) = true := by
    decide +kernel
  have hdirect : BaseUrl.loopback.IsDirect .none := .inl rfl
  have hlong : ¬ reply.Fits := not_fits_labelled (by decide)
  have hmade := callOver_of_not_fits BaseUrl.loopback "key" none ClientConfig.defaultTimeout hdirect
    network sources "3" .none .health hsendable (isWhole_labelled _).toIsFinal hlong
    (Text.utf8 "1".toList) false rfl
  refine ⟨hsendable, hdirect, isWhole_labelled _, ?_, ?_⟩
  · rw [hmade, Client.step_eq]
    exact ⟨_, rfl⟩
  · rw [Client.step_eq]
    have hplain : (Json.integer 1).Plain JsonText.depthLimit :=
      .integer _ ⟨by decide +kernel, by decide +kernel⟩
    have hread : Json.ofText "1" = .ok (.integer 1) :=
      Json.ofText_write JsonLayout.isBlank_compact hplain
    have hresponse : reply.response = ⟨200, "1"⟩ := rfl
    have houtcome : Reply.outcome .health (.ok reply.response) = .ok (some (.integer 1)) := by
      rw [hresponse, Reply.outcome, Response.outcome_of_content (by decide) (by decide), hread]
    exact houtcome

end SessionGateway.Http
