/-
# What the upstream server is told

The request that `prepare_request` makes tells the upstream server where the client's request has
come from and to which host it went.  Whatever other headers the client sends, these four headers
have one value each, and the values and the URI are a function of what the proxy itself has seen.

For an upgrade the request carries what the protocol needs; the response does not.
-/
import GateRust.Proxy.HopHeaders
import GateRust.Proxy.RouteChoice

namespace GateRust.Proxy

open Tunnel (SocketAddr IpAddr)

variable {lib : HttpLibrary} {headers : Headers} {name : HeaderName} {value : HeaderValue}
  {request request' : Request} {route : Route} {remote : SocketAddr} {tls : Bool}

/-! ## Texts that can be encoded -/

lemma mem_toDigits {b n : ℕ} (hb : 1 < b) {c : Char} (h : c ∈ Nat.toDigits b n) :
    ∃ d < b, c = Nat.digitChar d := by
  induction n using Nat.strong_induction_on with
  | _ n ih =>
    rw [Nat.toDigits_eq_if hb] at h
    split_ifs at h with hlt
    · exact ⟨n, hlt, List.mem_singleton.mp h⟩
    · rcases List.mem_append.mp h with h | h
      · exact ih (n / b) (Nat.div_lt_self (by omega) hb) h
      · exact ⟨n % b, Nat.mod_lt n (by omega), List.mem_singleton.mp h⟩

lemma visible_toDigits {b : ℕ} (hb : 1 < b) (hb' : b ≤ 16) (n : ℕ) :
    (Nat.toDigits b n).all visible = true := by
  rw [List.all_eq_true]
  intro c hc
  obtain ⟨d, hd, rfl⟩ := mem_toDigits hb hc
  have hall : ∀ d < 16, visible (Nat.digitChar d) = true := by decide
  exact hall d (by omega)

lemma visible_intercalate {separator : String} {parts : List String}
    (hseparator : separator.toList.all visible = true)
    (hparts : ∀ part ∈ parts, part.toList.all visible = true) :
    (separator.intercalate parts).toList.all visible = true := by
  rw [List.all_eq_true]
  intro c hc
  rw [String.toList_intercalate] at hc
  rcases mem_of_mem_intercalate hc with hc | ⟨part, hpart, hc⟩
  · exact List.all_eq_true.mp hseparator c hc
  · obtain ⟨text, htext, rfl⟩ := List.mem_map.mp hpart
    exact List.all_eq_true.mp (hparts text htext) c hc

lemma visible_displayIpv4 (bits : BitVec 32) :
    (Tunnel.displayIpv4 bits).toList.all visible = true := by
  refine visible_intercalate (by decide) fun part hpart => ?_
  obtain ⟨i, -, rfl⟩ := List.mem_map.mp hpart
  rw [Nat.toString_eq_repr, Nat.repr_eq_ofList_toDigits, String.toList_ofList]
  exact visible_toDigits (by omega) (by omega) _

lemma visible_displayIpv6 (bits : BitVec 128) :
    (Tunnel.displayIpv6 bits).toList.all visible = true := by
  have hjoin : ∀ groups : List ℕ,
      (":".intercalate (groups.map Tunnel.hexDigits)).toList.all visible = true := by
    intro groups
    refine visible_intercalate (by decide) fun part hpart => ?_
    obtain ⟨n, -, rfl⟩ := List.mem_map.mp hpart
    rw [Tunnel.hexDigits, String.toList_ofList]
    exact visible_toDigits (by omega) (by omega) n
  have hmapped : "::ffff:".toList.all visible = true := by decide
  have hcolons : "::".toList.all visible = true := by decide
  rw [Tunnel.displayIpv6]
  dsimp only
  split_ifs
  · rw [String.toList_append, List.all_append, hmapped, visible_displayIpv4, Bool.and_self]
  · rw [String.toList_append, String.toList_append, List.all_append, List.all_append, hcolons,
      hjoin, hjoin, Bool.and_self, Bool.and_self]
  · exact hjoin _

lemma visible_ipText (ip : IpAddr) : (ipText ip).toList.all visible = true := by
  cases ip with
  | v4 bits => exact visible_displayIpv4 bits
  | v6 bits => exact visible_displayIpv6 bits

lemma visible_scheme (tls : Bool) :
    (if tls then "https" else "http").toList.all visible = true := by
  cases tls <;> decide

/-- A value that is read as a text is the value of this text. -/
lemma asciiBytes_latin1 (value : HeaderValue) :
    asciiBytes (String.ofList (latin1 value)) = value := by
  have hbyte : ∀ byte : UInt8, UInt8.ofNat (Char.ofNat byte.toNat).toNat = byte := by
    intro byte
    have hvalid : byte.toNat.isValidChar := Or.inl (by have := byte.toNat_lt; omega)
    have hchar : (Char.ofNat byte.toNat).toNat = byte.toNat := by
      rw [Char.ofNat, dif_pos hvalid]
      rfl
    rw [hchar, UInt8.ofNat_toNat]
  rw [asciiBytes, String.toList_ofList, latin1, List.map_map]
  conv_rhs => rw [← List.map_id value]
  exact List.map_congr_left fun byte _ => hbyte byte

/-! ## The four headers -/

/-- The host was read from the first `Host` line, which is a text. -/
lemma exists_host_line {host : String} (hlib : lib.Documented)
    (h : requestHost lib request = some host) :
    ∃ value, request.headers.get HOST = some value ∧ (latin1 value).all visible = true := by
  rw [requestHost, Option.bind_eq_bind] at h
  obtain ⟨text, htext, -⟩ := Option.bind_eq_some_iff.mp h
  obtain ⟨value, hvalue, htext⟩ := Option.bind_eq_some_iff.mp htext
  rw [hlib.toStr] at htext
  split_ifs at htext with hvisible
  exact ⟨value, hvalue, hvisible⟩

/-- What the upstream server is told of a request: the name of each header with its value. -/
def metadata (host : HeaderValue) (remote : SocketAddr) (tls : Bool) :
    List (HeaderName × HeaderValue) :=
  [(HOST, host), ("x-forwarded-for", asciiBytes (ipText remote.ip)),
    ("x-forwarded-proto", asciiBytes (if tls then "https" else "http")), ("x-forwarded-host", host)]

/-- The four headers have the value that is given here, and no other, whatever the client has
sent. -/
lemma values_metadata (hlib : lib.Documented) {host : HeaderValue}
    (hhost : headers.get HOST = some host) (hvisible : (latin1 host).all visible = true) :
    ∀ line ∈ metadata host remote tls,
      (preparedHeaders lib headers remote tls).values line.1 = [line.2] := by
  have htext : lib.toStr host = some (String.ofList (latin1 host)) := by
    rw [hlib.toStr, if_pos hvisible]
  have hforwarded : ∀ headers : Headers, (setForwardedHost lib (some host) headers).values
      "x-forwarded-host" = [host] := by
    intro headers
    rw [setForwardedHost, Option.bind_some, htext]
    dsimp only
    rw [values_setForwarded_self hlib (by rwa [String.toList_ofList]), asciiBytes_latin1]
  intro line hline
  simp only [metadata, List.mem_cons, List.not_mem_nil, or_false] at hline
  rw [preparedHeaders, hhost]
  rcases hline with rfl | rfl | rfl | rfl <;> dsimp only
  · rw [values_setForwardedHost_of_ne (by decide), values_setForwarded_of_ne (by decide),
      values_setForwarded_of_ne (by decide),
      values_restoreUpgrade_of_ne (by decide) (by decide), restoreHost]
    exact HeaderMap.values_insert_self
  · rw [values_setForwardedHost_of_ne (by decide), values_setForwarded_of_ne (by decide),
      values_setForwarded_self hlib (visible_ipText remote.ip)]
  · rw [values_setForwardedHost_of_ne (by decide),
      values_setForwarded_self hlib (visible_scheme tls)]
  · exact hforwarded _

/-! ## The URI -/

/-- The path of the upstream address without its closing slashes. -/
def basePath (upstream : Uri) : String := String.ofList (upstream.path.toList.rdropWhile (· = '/'))

lemma joinedPath_eq (upstream incoming : Uri) :
    joinedPath upstream incoming =
      pathAndQuery (basePath upstream ++ incoming.path) incoming.query := by
  have hpath : (if basePath upstream = "" then incoming.path
      else if incoming.path = "/" then basePath upstream ++ "/"
      else basePath upstream ++ incoming.path) = basePath upstream ++ incoming.path := by
    split_ifs with hbase hslash
    · rw [hbase, String.empty_append]
    · rw [hslash]
    · rfl
  rw [← hpath]
  rfl

/-- The URI has the path of the client behind the one of the upstream address, and its query. -/
lemma upstreamUri_ok (hlib : lib.Documented) {upstream incoming uri : Uri}
    (hne : incoming.path ≠ "") (h : upstreamUri lib upstream incoming = .ok uri) :
    uri.path = basePath upstream ++ incoming.path ∧ uri.query = incoming.query := by
  rw [upstreamUri] at h
  cases hauthority : upstream.authority with
  | none =>
    rw [hauthority] at h
    cases h
  | some authority =>
    rw [hauthority, joinedPath_eq] at h
    dsimp only at h
    have hbase : ∀ c ∈ (basePath upstream).toList, c ∈ upstream.path.toList := by
      intro c hc
      rw [basePath, String.toList_ofList] at hc
      exact (List.rdropWhile_prefix _ _).subset hc
    have hplain : ∀ c, c ∉ upstream.path.toList → c ∉ incoming.path.toList →
        c ∉ (basePath upstream ++ incoming.path).toList := by
      intro c hupstream hincoming hc
      rw [String.toList_append, List.mem_append] at hc
      exact hc.elim (fun hc => hupstream (hbase c hc)) hincoming
    have hpath : basePath upstream ++ incoming.path ≠ "" := by
      rw [Ne, String.append_eq_empty_iff]
      exact fun hempty => hne hempty.2
    cases hbuild : lib.buildUri (upstream.schemeStr.getD "http") authority
        (pathAndQuery (basePath upstream ++ incoming.path) incoming.query) with
    | error error =>
      rw [hbuild] at h
      cases h
    | ok built =>
      rw [hbuild] at h
      cases h
      exact (hlib.builds _ _ _ _ _ hpath (hplain _ upstream.path_plain.1 incoming.path_plain.1)
        (hplain _ upstream.path_plain.2 incoming.path_plain.2) incoming.query_plain hbuild).2.2

/-- **The client cannot forge what the upstream server is told.**  Two requests with the same first
`Host` line, path and query, from the same address over the same kind of listener, are matched to
the same route and rewritten or rejected together.  The rewritten requests have the same URI, and
each of the four headers has one value, which is the same; the path is the base path of the upstream
address and the path of the client, the query that of the client. -/
theorem metadata_not_forged (lib : HttpLibrary) (hlib : lib.Documented)
    (parseUri : String → Option Uri) (raw config : ProxyConfig)
    (hvalid : raw.validate parseUri = .ok config) (router : Router)
    (hrouter : Router.Built parseUri config router) (request request' : Request)
    (hhost : request.headers.get HOST = request'.headers.get HOST)
    (hpath : request.uri.path = request'.uri.path) (hquery : request.uri.query = request'.uri.query)
    (host : String) (haccepted : requestHost lib request = some host) (route : Route)
    (hroute : router.find host request.uri.path = some route) (remote : SocketAddr) (tls : Bool) :
    (requestHost lib request' = some host ∧ router.find host request'.uri.path = some route) ∧
      ((prepareRequest lib request route remote tls).isOk ↔
        (prepareRequest lib request' route remote tls).isOk) ∧
      ∀ prepared prepared', prepareRequest lib request route remote tls = .ok prepared →
        prepareRequest lib request' route remote tls = .ok prepared' →
        prepared.uri = prepared'.uri ∧
          prepared.uri.path = basePath route.upstream ++ request.uri.path ∧
          prepared.uri.query = request.uri.query ∧
          ∀ name ∈ [HOST, "x-forwarded-for", "x-forwarded-proto", "x-forwarded-host"],
            ∃ value, prepared.headers.values name = [value] ∧
              prepared'.headers.values name = [value] := by
  have hsame : upstreamUri lib route.upstream request.uri =
      upstreamUri lib route.upstream request'.uri := by
    simp only [upstreamUri, joinedPath_eq, hpath, hquery]
  refine ⟨⟨?_, hpath ▸ hroute⟩, ?_, ?_⟩
  · rw [requestHost, ← hhost]
    exact haccepted
  · rw [prepareRequest, prepareRequest, hsame]
    cases upstreamUri lib route.upstream request'.uri <;> exact Iff.rfl
  · intro prepared prepared' hprepared hprepared'
    obtain ⟨huri, hheaders⟩ := headers_of_prepareRequest hprepared
    obtain ⟨huri', hheaders'⟩ := headers_of_prepareRequest hprepared'
    obtain ⟨hresult, hkept⟩ := upstreamUri_ok hlib (hrouter.path_ne_empty hvalid hroute) huri
    refine ⟨Except.ok.inj (huri.symm.trans (hsame.trans huri')), hresult, hkept, ?_⟩
    obtain ⟨value, hvalue, hvisible⟩ := exists_host_line hlib haccepted
    have hvalues : ∀ request : Request, request.headers.get HOST = some value →
        ∀ line ∈ metadata value remote tls,
          (preparedHeaders lib request.headers remote tls).values line.1 = [line.2] :=
      fun _ hvalue => values_metadata hlib hvalue hvisible
    have hnames : [HOST, "x-forwarded-for", "x-forwarded-proto", "x-forwarded-host"] =
        (metadata value remote tls).map Prod.fst := rfl
    intro name hname
    rw [hnames] at hname
    obtain ⟨line, hline, rfl⟩ := List.mem_map.mp hname
    refine ⟨line.2, ?_, ?_⟩
    · rw [hheaders]
      exact hvalues request hvalue line hline
    · rw [hheaders']
      exact hvalues request' (hhost ▸ hvalue) line hline

/-- A request for the host of the example, with these headers besides the first `Host` line. -/
def siteRequest (lines : List (HeaderName × String)) : Request :=
  ⟨{ CertificateManager.localhostUri with schemeStr := none, authority := none },
    ⟨(HOST, asciiBytes "a.example.com") :: lines.map fun line => (line.1, asciiBytes line.2)⟩⟩

/-- A request whose headers claim another origin. -/
def forgingRequest : Request :=
  siteRequest [(HOST, "internal.example.com"), ("x-forwarded-for", "10.0.0.1"),
    ("x-forwarded-proto", "http"), (CONNECTION, "x-forwarded-for, host, x-forwarded-host")]

/-- The address of the client of the examples. -/
def sampleRemote : SocketAddr := ⟨.v4 0xc0000201, 12345⟩

lemma exists_prepared (h : (prepareRequest lib request route remote tls).isOk = true) :
    ∃ prepared, prepareRequest lib request route remote tls = .ok prepared := by
  cases hprepared : prepareRequest lib request route remote tls with
  | error error =>
    rw [hprepared] at h
    cases h
  | ok prepared => exact ⟨prepared, rfl⟩

/-- The forged headers change nothing. -/
theorem forging_request_prepared :
    ∃ prepared prepared', prepareRequest sampleHttp (siteRequest []) CertificateManager.siteRoute
        sampleRemote true = .ok prepared ∧
      prepareRequest sampleHttp forgingRequest CertificateManager.siteRoute
        sampleRemote true = .ok prepared' ∧ prepared.uri = prepared'.uri ∧
      ∃ value, prepared.headers.values "x-forwarded-for" = [value] ∧
        prepared'.headers.values "x-forwarded-for" = [value] := by
  have hvalid : CertificateManager.wildcardRouteConfig.validate CertificateManager.parseLocalhost =
      .ok CertificateManager.wildcardRouteConfig := by decide +kernel
  obtain ⟨router, hrouter, hsite, -⟩ := CertificateManager.find_wildcardRouteConfig
  have hexists : ∀ request ∈ [siteRequest [], forgingRequest], ∃ prepared, prepareRequest sampleHttp
      request CertificateManager.siteRoute sampleRemote true = .ok prepared :=
    fun request hrequest => exists_prepared (by revert request; decide +kernel)
  obtain ⟨prepared, hprepared⟩ := hexists (siteRequest []) (by simp)
  obtain ⟨prepared', hprepared'⟩ := hexists forgingRequest (by simp)
  obtain ⟨-, -, hsame⟩ := metadata_not_forged sampleHttp sampleHttp_documented _ _ _ hvalid router
    (Router.new_built hrouter) (siteRequest []) forgingRequest (by decide +kernel) rfl rfl
    "a.example.com" (by decide +kernel) CertificateManager.siteRoute hsite sampleRemote
    true
  obtain ⟨huri, -, -, hvalues⟩ := hsame prepared prepared' hprepared hprepared'
  exact ⟨prepared, prepared', hprepared, hprepared', huri, hvalues _ (by decide)⟩

/-! ## Upgrades -/

/-- The response still has the `Upgrade` header, and a `Connection` line that names it, where the
upstream server has sent them. -/
structure UpgradePassed (lib : HttpLibrary) (received sent : Headers) : Prop where
  upgrade : sent.values UPGRADE = received.values UPGRADE
  connection : NamedByConnection lib received UPGRADE → NamedByConnection lib sent UPGRADE

/-- The upgrade is put back after the removal. -/
lemma values_upgrade {upgrade : HeaderValue} (h : headers.get UPGRADE = some upgrade) :
    (preparedHeaders lib headers remote tls).values UPGRADE = [upgrade] ∧
      (preparedHeaders lib headers remote tls).values CONNECTION = [asciiBytes "upgrade"] := by
  have hrestored : ∀ name ∈ [UPGRADE, CONNECTION],
      (preparedHeaders lib headers remote tls).values name =
        (restoreUpgrade (some upgrade) (restoreHost (headers.get HOST)
          (removeHopHeaders lib headers))).values name := by
    intro name hname
    have hother : name ≠ "x-forwarded-host" ∧ name ≠ "x-forwarded-proto" ∧
        name ≠ "x-forwarded-for" := by
      revert name
      decide
    rw [preparedHeaders, values_setForwardedHost_of_ne hother.1,
      values_setForwarded_of_ne hother.2.1, values_setForwarded_of_ne hother.2.2, h]
  constructor
  · rw [hrestored _ (by decide), restoreUpgrade, HeaderMap.values_insert_of_ne (by decide)]
    exact HeaderMap.values_insert_self
  · rw [hrestored _ (by decide)]
    exact HeaderMap.values_insert_self

/-- On the way back both are removed, and nothing puts them back. -/
lemma upgradePassed_iff :
    UpgradePassed lib headers (removeHopHeaders lib headers) ↔
      headers.values UPGRADE = [] ∧ ¬ NamedByConnection lib headers UPGRADE := by
  have hremoved : ∀ name ∈ hopNames, (removeHopHeaders lib headers).values name = [] := by
    intro name hname
    rw [values_removeHopHeaders, if_pos (Or.inl hname)]
  have hupgrade := hremoved UPGRADE (by decide)
  have hunnamed : ¬ NamedByConnection lib (removeHopHeaders lib headers) UPGRADE := by
    rintro ⟨value, hvalue, -⟩
    rw [hremoved CONNECTION (by decide)] at hvalue
    cases hvalue
  constructor
  · intro h
    exact ⟨h.upgrade.symm.trans hupgrade, fun hnamed => hunnamed (h.connection hnamed)⟩
  · rintro ⟨hnone, hnot⟩
    exact ⟨hupgrade.trans hnone.symm, fun hnamed => absurd hnamed hnot⟩

/-- **Which upgrades pass.**  A routed request with an `Upgrade` header reaches the upstream server
with this header and `Connection: upgrade`, and a response with the status 101 keeps its status; but
its `Upgrade` and `Connection` headers reach the client only where there were none. -/
theorem upgrade_passed_iff (lib : HttpLibrary) {β : Type}
    (client : Request → Except String (Response β)) (router : Router) (request prepared : Request)
    (remote : SocketAddr) (tlsServerName : Option String) (route : Route) (upgrade : HeaderValue)
    (upstream : Response β)
    (hroute : chooseRoute (β := β) lib router request tlsServerName = .ok route)
    (hupgrade : request.headers.get UPGRADE = some upgrade)
    (hprepared : prepareRequest lib request route remote tlsServerName.isSome = .ok prepared)
    (hclient : client prepared = .ok upstream) (hstatus : upstream.status = SWITCHING_PROTOCOLS) :
    (prepared.headers.values UPGRADE = [upgrade] ∧
        prepared.headers.values CONNECTION = [asciiBytes "upgrade"]) ∧
      (handle lib client router request remote tlsServerName).response.status =
        SWITCHING_PROTOCOLS ∧
      (handle lib client router request remote tlsServerName).relayed = true ∧
      (UpgradePassed lib upstream.headers
          (handle lib client router request remote tlsServerName).response.headers ↔
        upstream.headers.values UPGRADE = [] ∧
          ¬ NamedByConnection lib upstream.headers UPGRADE) := by
  have hupgrading : request.headers.contains UPGRADE = true :=
    HeaderMap.contains_iff.mpr ⟨upgrade, hupgrade⟩
  have hhandled : handle lib client router request remote tlsServerName =
      ⟨forwarded lib upstream, true⟩ := by
    simp only [handle, hroute, hprepared, hclient, hstatus, hupgrading, decide_true, Bool.and_self]
  rw [hhandled, (headers_of_prepareRequest hprepared).2]
  exact ⟨values_upgrade hupgrade, hstatus, rfl, upgradePassed_iff⟩

/-- A client asks for a WebSocket. -/
def webSocketRequest : Request :=
  siteRequest [(UPGRADE, "websocket"), (CONNECTION, "Upgrade")]

/-- The upstream server switches to the protocol with this `Upgrade` header, if there is one. -/
def switching (upgrade : Option String) : Response Unit :=
  ⟨SWITCHING_PROTOCOLS, ⟨(upgrade.map fun protocol =>
    [(UPGRADE, asciiBytes protocol), (CONNECTION, asciiBytes "Upgrade")]).getD []⟩, ()⟩

lemma chooseRoute_webSocket {router : Router}
    (h : router.find "a.example.com" "/" = some CertificateManager.siteRoute) :
    chooseRoute (β := Unit) sampleHttp router webSocketRequest none =
      .ok CertificateManager.siteRoute := by
  have hhost : requestHost sampleHttp webSocketRequest = some "a.example.com" := by decide +kernel
  have hfind : router.find "a.example.com" webSocketRequest.uri.path =
      some CertificateManager.siteRoute := h
  simp only [chooseRoute, hhost, hfind]
  rfl

lemma exists_prepared_webSocket :
    ∃ prepared, prepareRequest sampleHttp webSocketRequest CertificateManager.siteRoute sampleRemote
      false = .ok prepared :=
  exists_prepared (by decide +kernel)

/-- A response without the two headers passes as it is. -/
theorem plain_switching_passed :
    ∃ router, Router.new CertificateManager.parseLocalhost
        CertificateManager.wildcardRouteConfig = .ok router ∧
      UpgradePassed sampleHttp (switching none).headers
        (handle sampleHttp (fun _ => .ok (switching none)) router webSocketRequest
          sampleRemote none).response.headers := by
  obtain ⟨router, hrouter, hsite, -⟩ := CertificateManager.find_wildcardRouteConfig
  obtain ⟨prepared, hprepared⟩ := exists_prepared_webSocket
  obtain ⟨-, -, -, hpassed⟩ := upgrade_passed_iff sampleHttp (fun _ => .ok (switching none)) router
    webSocketRequest prepared sampleRemote none CertificateManager.siteRoute
    (asciiBytes "websocket") (switching none) (chooseRoute_webSocket hsite) (by decide +kernel)
    hprepared rfl rfl
  refine ⟨router, hrouter, hpassed.mpr ⟨rfl, ?_⟩⟩
  rintro ⟨value, hvalue, -⟩
  cases hvalue

/-- A WebSocket of the client does not come about: the response has the status 101 without the
headers. -/
theorem webSocket_not_passed :
    ∃ router, Router.new CertificateManager.parseLocalhost
        CertificateManager.wildcardRouteConfig = .ok router ∧
      let handled := handle sampleHttp (fun _ => .ok (switching (some "websocket"))) router
        webSocketRequest sampleRemote none
      handled.response.status = SWITCHING_PROTOCOLS ∧ handled.relayed = true ∧
        handled.response.headers.lines = [] ∧
        ¬ UpgradePassed sampleHttp (switching (some "websocket")).headers
          handled.response.headers := by
  obtain ⟨router, hrouter, hsite, -⟩ := CertificateManager.find_wildcardRouteConfig
  obtain ⟨prepared, hprepared⟩ := exists_prepared_webSocket
  have hhandled : handle sampleHttp (fun _ => .ok (switching (some "websocket"))) router
      webSocketRequest sampleRemote none =
      ⟨forwarded sampleHttp (switching (some "websocket")), true⟩ := by
    simp only [handle, chooseRoute_webSocket hsite, Option.isSome_none, hprepared]
    rfl
  refine ⟨router, hrouter, ?_⟩
  rw [hhandled]
  refine ⟨rfl, rfl, by decide +kernel, fun hpassed => ?_⟩
  have hnone := (upgradePassed_iff.mp hpassed).1
  revert hnone
  decide +kernel

end GateRust.Proxy
