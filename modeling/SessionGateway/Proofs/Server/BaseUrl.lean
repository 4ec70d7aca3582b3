import SessionGateway.Proofs.Addressing
import SessionGateway.Proofs.Server.Authority

/-! Base URLs that name a server by host and port, perhaps with a path. The URL of every endpoint is
read as it is written, up to dots in the path, and a request can be sent to it. -/

namespace SessionGateway

open Url (isUnreserved of_isUnreserved of_isUnreserved_or_slash of_decide_all IsPlainPath)

namespace Text

/-- Behind another character, only the end is trimmed. -/
theorem trimTrailing_append_of_getLast? {c : Char} {front : String} (s : String)
    (h : front.toList.getLast? ≠ some c) :
    trimTrailing c (front ++ s) = front ++ trimTrailing c s := by
  obtain ⟨n, hn⟩ := eq_trimTrailing_append c s
  have hkept : (front ++ trimTrailing c s).toList.getLast? ≠ some c := by
    rw [String.toList_append, List.getLast?_append]
    cases hlast : (trimTrailing c s).toList.getLast? with
    | none => exact h
    | some d =>
      rw [← hlast]
      simpa [hlast] using getLast?_trimTrailing c s
  conv_lhs => rw [hn, ← String.append_assoc, trimTrailing_append]
  exact trimTrailing_eq_self hkept

theorem utf8ByteSize_of_ascii {s : String} (h : ∀ c ∈ s.toList, c.toNat < 0x80) :
    s.utf8ByteSize = s.length := by
  have hsize (cs : List Char) (hcs : ∀ c ∈ cs, c.toNat < 0x80) : String.utf8Len cs = cs.length := by
    induction cs with
    | nil => rfl
    | cons c cs ih =>
      have hc : c.utf8Size = 1 := Char.utf8Size_eq_one_iff.mpr
        (UInt32.le_iff_toNat_le.mpr (Nat.le_of_lt_succ (hcs c List.mem_cons_self)))
      rw [String.utf8Len_cons, ih fun d hd => hcs d (List.mem_cons_of_mem _ hd), hc,
        List.length_cons]
  rw [← String.ofList_toList (s := s), String.utf8ByteSize_ofList, hsize _ h, String.length_ofList]

end Text

theorem utf8ByteSize_of_plain {s : String} (h : ∀ c ∈ s.toList, isUnreserved c = true ∨ c = '/') :
    s.utf8ByteSize = s.length :=
  Text.utf8ByteSize_of_ascii fun c hc =>
    of_isUnreserved_or_slash (p := fun d => d.toNat < 0x80) (h c hc) (by decide) (by decide)

theorem Url.IsPlainPath.isPathAndQuery {t : List Char} (h : IsPlainPath t) :
    Http.Target.isPathAndQuery t = true := by
  have hclear : ∀ c ∈ t,
      (c != '#') = true ∧ (c != '?') = true ∧ Http.Target.isPathChar c = true := fun c hc =>
    of_isUnreserved_or_slash (p := fun d => (d != '#') = true ∧ (d != '?') = true ∧
      Http.Target.isPathChar d = true) (h.plain c hc) (by decide +kernel) (by decide)
  have hsent : t.takeWhile (· != '#') = t :=
    List.takeWhile_eq_self_iff.mpr fun c hc => (hclear c hc).1
  have hquery : t.dropWhile (· != '?') = [] :=
    List.dropWhile_eq_nil_iff.mpr fun c hc => (hclear c hc).2.1
  simp only [Http.Target.isPathAndQuery, hsent, hquery, List.all_eq_true]
  exact fun c hc => (hclear c hc).2.2

/-- A server by the host and the port that it is dialled at. -/
structure Server extends Http.Address where
  named : host.IsNamed
  port_le : port ≤ 65535

namespace Server

variable (server : Server)

/-- The place of the server, where no path leads yet. -/
def place : Url :=
  { Url.blank "http" with
    host := some server.host
    port := if server.port = 80 then none else some server.port }

/-- Where a path leads at the server. -/
def url (t : List Char) : Url :=
  { server.place with path := .segments (Url.readSegments "http" t) }

theorem effectivePort_url (t : List Char) : (server.url t).effectivePort = some server.port := by
  show ((if server.port = 80 then none else some server.port) <|> some 80) = _
  split_ifs with hport
  · rw [hport]
    rfl
  · rfl

theorem toList_text : server.toAddress.text.toList =
    server.host.text.toList ++ ':' :: Nat.toDigits 10 server.port := by
  rw [Http.Address.text, String.toList_append, String.toList_append, Host.toList_toString,
    List.append_assoc]
  rfl

theorem readPlace?_text : Url.readPlace? "http" server.toAddress.text.toList = some server.place := by
  have hwritten := server.named.written
  have hdigits := JsonText.isDigit_toDigits server.port
  have hat : (server.host.text.toList ++ ':' :: Nat.toDigits 10 server.port).contains '@' =
      false := by
    rw [List.contains_eq_mem, decide_eq_false_iff_not, List.mem_append, List.mem_cons]
    rintro (h | h | h)
    · exact (hwritten.clear _ h).2.2 rfl
    · contradiction
    · exact absurd (hdigits _ h) (by decide)
  have hport : Url.readPort? "http" (':' :: Nat.toDigits 10 server.port) =
      some (if server.port = 80 then none else some server.port) := by
    have hall : (Nat.toDigits 10 server.port).all Char.isDigit = true := List.all_eq_true.mpr hdigits
    have hlarge : ¬ 65535 < server.port := Nat.not_lt_of_le server.port_le
    have husual : (Url.defaultPort? "http" = some server.port) = (server.port = 80) := by
      simp [Url.defaultPort?, eq_comm]
    simp only [Url.readPort?, hall, Nat.toDigits_ne_nil, List.isEmpty_iff, Bool.not_true,
      Bool.false_eq_true, if_false, JsonText.decimalValue_toDigits, hlarge, husual]
  have hhost : Url.readHost? (Url.isSpecialScheme "http") server.host.text.toList =
      some server.host := server.named.reads
  rw [toList_text]
  simp only [Url.readPlace?, Url.splitUserinfo, hat, Bool.false_eq_true, if_false,
    hwritten.splitPort, Option.isSome_none, Bool.false_and, hhost, hport, Option.map_none,
    Option.getD_none, Option.bind_eq_bind, Option.bind_some]
  rfl

theorem clear_text : ∀ c ∈ server.toAddress.text.toList,
    0x20 < c.toNat ∧ Url.endsAuthority true c = false := by
  intro c hc
  rw [toList_text, List.mem_append, List.mem_cons] at hc
  rcases hc with hc | rfl | hc
  · exact ⟨(server.named.written.clear c hc).1, (server.named.written.clear c hc).2.1⟩
  · decide
  · have hplain := isUnreserved_of_isDigit (JsonText.isDigit_toDigits _ c hc)
    exact of_isUnreserved
      (p := fun d => 0x20 < d.toNat ∧ Url.endsAuthority true d = false) hplain (by decide)

theorem dropWhile_isSlash_text (t : List Char) :
    (server.toAddress.text.toList ++ t).dropWhile (Url.isSlash true) =
      server.toAddress.text.toList ++ t := by
  have hclear := server.clear_text
  cases htext : server.toAddress.text.toList with
  | nil =>
    rw [toList_text] at htext
    simp at htext
  | cons c cs =>
    have hc := (hclear c (by rw [htext]; exact List.mem_cons_self)).2
    exact List.dropWhile_cons_of_neg (by simp [(Bool.or_eq_false_iff.mp hc).1])

/-- A path behind the server is read as it is. -/
theorem ofText?_url {t : List Char} (ht : IsPlainPath t) :
    Url.ofText? ("http://" ++ server.toAddress.text ++ String.ofList t) = some (server.url t) := by
  obtain ⟨more, hmore⟩ := ht.rooted
  have hclear := server.clear_text
  have hplain : ∀ c ∈ t, 0x20 < c.toNat ∧ Url.endsPath c = false := fun c hc =>
    of_isUnreserved_or_slash (p := fun d => 0x20 < d.toNat ∧ Url.endsPath d = false)
      (ht.plain c hc) (by decide) (by decide)
  have htail : Url.IsTail ('/' :: (server.toAddress.text.toList ++ t)) := by
    refine ⟨_, rfl, fun c hc => ?_⟩
    rcases List.mem_append.mp hc with hc | hc
    · exact ⟨(hclear c hc).1, (Bool.or_eq_false_iff.mp (hclear c hc).2).2⟩
    · exact hplain c hc
  have htext : "http://" ++ server.toAddress.text ++ String.ofList t =
      "http" ++ ":/" ++ String.ofList ('/' :: (server.toAddress.text.toList ++ t)) := by
    simp [← String.toList_inj]
  have hslash : Url.isSlash true '/' = true := rfl
  have hall : ∀ c ∈ server.toAddress.text.toList, (!Url.endsAuthority true c) = true := by
    intro c hc
    rw [(hclear c hc).2]
    rfl
  have hends : ∀ c ∈ t.head?, Url.endsAuthority true c = true := by
    rw [hmore]
    rintro c ⟨⟩
    rfl
  rw [htext, Url.ofText?_behind (.inl rfl) htail, List.dropWhile_cons_of_pos hslash,
    dropWhile_isSlash_text, Url.readAuthority?_append rfl (.inr hends),
    List.takeWhile_eq_self_iff.mpr hall, List.dropWhile_eq_nil_iff.mpr hall, readPlace?_text,
    Option.map_some, List.nil_append, Url.finish_of_path (.inl rfl) fun c hc => (hplain c hc).2]
  rfl

/-! ## Requests -/

theorem hostText_url_eq (t : List Char) : (server.url t).hostText = server.place.hostText := rfl

theorem credentials?_url (t : List Char) : Http.credentials? (server.url t) = none := rfl

theorem toList_hostText (t : List Char) : (server.url t).hostText.toList =
    server.host.text.toList ∨ (server.url t).hostText.toList = server.toAddress.text.toList := by
  by_cases hport : server.port = 80
  · left
    simp [Url.hostText, Url.portText, url, place, hport]
  · right
    rw [toList_text]
    simp [Url.hostText, Url.portText, url, place, hport]

theorem utf8ByteSize_hostText_le (t : List Char) :
    (server.url t).hostText.utf8ByteSize ≤ server.toAddress.text.utf8ByteSize := by
  by_cases hport : server.port = 80
  · simp [Url.hostText, Url.portText, url, place, hport, Http.Address.text]
    omega
  · simp [Url.hostText, Url.portText, url, place, hport, Http.Address.text]
    omega

theorem text_url (t : List Char) : (server.url t).text =
    "http://" ++ (server.url t).hostText ++ Url.pathText (Url.readSegments "http" t) := by
  have hauthority : (server.url t).authorityText = "//" ++ (server.url t).hostText := rfl
  rw [Url.text, hauthority]
  show "http" ++ ":" ++ ("//" ++ _) ++ Url.pathText _ ++ "" ++ "" = _
  simp [← String.toList_inj]

/-- The authority of a URL at the server can be named in a request. -/
theorem hostText_url (t : List Char) : Http.Target.isAuthority (server.url t).hostText.toList = true ∧
    (server.url t).hostText.toList ≠ [] ∧
      ∀ c ∈ (server.url t).hostText.toList, Http.Target.endsAuthority c = false := by
  have hwritten := server.named.written
  have hdigits := JsonText.isDigit_toDigits server.port
  have hends {c : Char} (hc : Url.endsAuthority true c = false) :
      Http.Target.endsAuthority c = false := by
    simp only [Url.endsAuthority, Url.isSlash, Url.endsPath, Bool.or_eq_false_iff] at hc
    simp [Http.Target.endsAuthority, hc.1.1, hc.2.1, hc.2.2]
  rcases server.toList_hostText t with hhost | hhost
  · rw [hhost]
    refine ⟨hwritten.isAuthority, ?_, fun c hc => hends (hwritten.clear c hc).2.1⟩
    intro hnil
    have hreads := server.named.reads
    have hnone : Host.ofChars? [] = none := by decide +kernel
    rw [hnil, hnone] at hreads
    cases hreads
  · rw [hhost]
    refine ⟨?_, ?_, fun c hc => hends (server.clear_text c hc).2⟩
    · rw [toList_text]
      exact hwritten.isAuthority_append hdigits
    · rw [toList_text]
      simp

/-- A request can be sent to a path behind the server that is not too long. -/
theorem isSendable_url {t : List Char} (ht : IsPlainPath t)
    (hsize : server.toAddress.text.utf8ByteSize + t.length + 7 ≤ Http.Target.sizeLimit) :
    Http.Target.isSendable (server.url t).text = true := by
  obtain ⟨hplain, hlength⟩ := ht.read
  obtain ⟨hauthority, hne, hinside⟩ := server.hostText_url t
  have hhost := server.utf8ByteSize_hostText_le t
  have htext := server.text_url t
  generalize Url.pathText (Url.readSegments "http" t) = path at hplain hlength htext
  generalize (server.url t).hostText = host at hauthority hne hinside hhost htext
  obtain ⟨more, hmore⟩ := hplain.rooted
  have hascii := utf8ByteSize_of_plain hplain.plain
  have hsmall : ¬ Http.Target.sizeLimit < (server.url t).text.utf8ByteSize := by
    have hscheme : "http://".utf8ByteSize = 7 := rfl
    rw [htext, String.utf8ByteSize_append, String.utf8ByteSize_append, hascii, hscheme]
    omega
  have hchars : (server.url t).text.toList =
      'h' :: 't' :: 't' :: 'p' :: ':' :: '/' :: '/' :: (host.toList ++ path.toList) := by
    rw [htext, String.toList_append, String.toList_append]
    rfl
  have hafter : Http.Target.afterScheme?
      ('h' :: 't' :: 't' :: 'p' :: ':' :: '/' :: '/' :: (host.toList ++ path.toList)) =
        some (some (host.toList ++ path.toList)) := rfl
  have hall : ∀ c ∈ host.toList, (!Http.Target.endsAuthority c) = true := by
    intro c hc
    rw [hinside c hc]
    rfl
  have htake : (host.toList ++ path.toList).takeWhile (fun c => !Http.Target.endsAuthority c) =
      host.toList := by
    rw [List.takeWhile_append_of_pos hall, hmore]
    exact List.append_nil _
  have hdrop : (host.toList ++ path.toList).dropWhile (fun c => !Http.Target.endsAuthority c) =
      path.toList := by
    rw [List.dropWhile_append_of_pos hall, hmore]
    rfl
  unfold Http.Target.isSendable
  simp only [hsmall, if_false, hchars, hafter, htake, hdrop, hauthority,
    hplain.isPathAndQuery, List.isEmpty_eq_false_iff.mpr hne, Bool.not_false, Bool.and_self]
  rfl

/-- The server is asked itself, and no proxy in its stead. -/
def IsDirect (proxies : Http.Proxies) : Prop :=
  proxies.plain = none ∨ proxies.direct.any (·.covers server.host) = true

variable {server}

theorem IsDirect.proxy?_url {proxies : Http.Proxies} (h : server.IsDirect proxies)
    (t : List Char) : proxies.proxy? (server.url t) = none := by
  have hhost : (server.url t).host = some server.host := rfl
  simp only [Http.Proxies.proxy?, hhost, Option.bind_eq_bind, Option.bind_some]
  split
  · rfl
  · exact h.resolve_right ‹_›

end Server

/-- A base URL that names a server, perhaps with a path of unreserved characters and slashes. -/
structure BaseUrl extends Server where
  path : String
  rooted : path = "" ∨ path.toList.head? = some '/'
  plain : ∀ c ∈ path.toList, isUnreserved c = true ∨ c = '/'
  small : ("http://" ++ toAddress.text ++ path).utf8ByteSize < 60000

namespace BaseUrl

variable (base : BaseUrl)

def text : String := "http://" ++ base.toAddress.text ++ base.path

/-- A server on the same machine, with its calls below a path. -/
def loopback : BaseUrl where
  host := .ipv6 [0, 0, 0, 0, 0, 0, 0, 1]
  port := 8080
  named := ⟨by decide +kernel, nofun⟩
  port_le := by decide +kernel
  path := "/gateway"
  rooted := .inr (by decide +kernel)
  plain := of_decide_all (by decide +kernel)
  small := by decide +kernel

example : loopback.text = "http://[::1]:8080/gateway" := by decide +kernel

/-- A client's settings with the base URL. -/
def config (key : String) (project : Option String) (timeout : Binary64) : ClientConfig :=
  { ClientConfig.new base.text key with projectId := project, timeoutSeconds := timeout }

/-- The path of an endpoint, before dots are taken out. -/
def pathTo (e : Endpoint) : String := Text.trimTrailing '/' base.path ++ e.path

theorem getLast?_text_server :
    ("http://" ++ base.toAddress.text).toList.getLast? ≠ some '/' := by
  obtain ⟨digits, last, hdigits⟩ := (List.eq_nil_or_concat _).resolve_left
    (Nat.toDigits_ne_nil (b := 10) (n := base.port))
  rw [List.concat_eq_append] at hdigits
  have hlast : last.isDigit = true :=
    JsonText.isDigit_toDigits base.port last (by rw [hdigits]; simp)
  rw [String.toList_append, Server.toList_text, hdigits]
  simp only [List.getLast?_append, List.getLast?_cons]
  rintro ⟨⟩
  contradiction

theorem url_config (key : String) (project : Option String) (timeout : Binary64) (e : Endpoint) :
    (base.config key project timeout).url e =
      "http://" ++ base.toAddress.text ++ base.pathTo e := by
  show Text.trimTrailing '/' base.text ++ e.path = _
  rw [text, Text.trimTrailing_append_of_getLast? base.path base.getLast?_text_server, pathTo,
    String.append_assoc]

theorem isPlainPath_pathTo (e : Endpoint) : IsPlainPath (base.pathTo e).toList := by
  have hendpoint : ∀ c ∈ e.path.toList, isUnreserved c = true ∨ c = '/' := by
    apply of_decide_all
    cases e <;> decide +kernel
  obtain ⟨n, hn⟩ := Text.eq_trimTrailing_append '/' base.path
  have hpath : base.path.toList =
      (Text.trimTrailing '/' base.path).toList ++ List.replicate n '/' := by
    conv_lhs => rw [hn]
    rw [String.toList_append, String.toList_ofList]
  rw [pathTo, String.toList_append]
  refine ⟨?_, fun c hc => ?_⟩
  · cases htrimmed : (Text.trimTrailing '/' base.path).toList with
    | nil => exact ⟨_, e.toList_path⟩
    | cons c cs =>
      rw [htrimmed, List.cons_append] at hpath
      have hrooted : base.path.toList.head? = some '/' :=
        base.rooted.resolve_left fun hempty => by simp [hempty] at hpath
      rw [hpath] at hrooted
      obtain rfl := Option.some.inj hrooted
      exact ⟨_, rfl⟩
  · rcases List.mem_append.mp hc with hc | hc
    · exact base.plain c (by rw [hpath]; exact List.mem_append_left _ hc)
    · exact hendpoint c hc

theorem length_pathTo_le (e : Endpoint) : (base.pathTo e).length ≤ base.path.length + 24 := by
  have hendpoint : e.path.length ≤ 24 := by cases e <;> decide +kernel
  obtain ⟨n, hn⟩ := Text.eq_trimTrailing_append '/' base.path
  have htrimmed : (Text.trimTrailing '/' base.path).length ≤ base.path.length := by
    conv_rhs => rw [hn, String.length_append]
    exact Nat.le_add_right _ _
  rw [pathTo, String.length_append]
  omega

theorem isSendable_pathTo (e : Endpoint) :
    Http.Target.isSendable (base.url (base.pathTo e).toList).text = true := by
  have hascii := utf8ByteSize_of_plain base.plain
  have hsmall := base.small
  have hscheme : "http://".utf8ByteSize = 7 := rfl
  have hlength := base.length_pathTo_le e
  rw [String.utf8ByteSize_append, String.utf8ByteSize_append, hascii, hscheme] at hsmall
  apply Server.isSendable_url _ (base.isPlainPath_pathTo e)
  rw [String.length_toList, Http.Target.sizeLimit]
  omega

/-- The first hop of a request to the server. -/
def hop (r : Request) : Http.Hop :=
  ⟨base.url (base.pathTo r.endpoint).toList, r.method, r.headers.entries ++ [Http.acceptsAll],
    r.body.map Json.text⟩

section Call

variable (key : String) (project : Option String) (timeout : Binary64) (sources : Sources)
  (asked : Asked) (call : Call)

theorem ofText?_requestFrom :
    Url.ofText? (call.requestFrom (base.config key project timeout) sources asked).url =
      some (base.url (base.pathTo call.endpoint).toList) := by
  have hread := base.ofText?_url (base.isPlainPath_pathTo call.endpoint)
  rw [String.ofList_toList] at hread
  exact (congrArg Url.ofText? (base.url_config key project timeout call.endpoint)).trans hread

variable {proxies : Http.Proxies} (hdirect : base.IsDirect proxies)
include hdirect

/-- A request whose headers can be sent starts at the server. -/
theorem firstHop_requestFrom :
    let request := call.requestFrom (base.config key project timeout) sources asked
    Http.firstHop proxies request =
      if request.headers.entries.all fun h => Http.isSendableValue h.2 then .ok (base.hop request)
      else .error (.unbuildable none) := by
  intro request
  have hhost : (base.url (base.pathTo call.endpoint).toList).host.isNone = false := rfl
  have hproxy : Http.proxyHeader proxies (base.url (base.pathTo call.endpoint).toList) = [] := by
    simp [Http.proxyHeader, hdirect.proxy?_url]
  simp only [Http.firstHop, request, base.ofText?_requestFrom, hhost, Bool.false_eq_true, if_false,
    Server.credentials?_url, hproxy]
  cases (call.requestFrom _ sources asked).headers.entries.all fun h => Http.isSendableValue h.2
  · rfl
  · rfl

end Call

end BaseUrl

end SessionGateway
