/-
# Forwarding a request

`proxy.rs`: the host and the path of a request choose its route; the request is rewritten for the
upstream server, and its response goes back to the client.  On both ways the headers that belong to
one connection are removed; what the upstream server should know of the connection to the client is
put in.

The method and the body of a request and the body of a response are passed on as they are.  The
library for HTTP is a parameter.
-/
import GateRust.Lib.HeaderMap
import GateRust.Tunnel.Addresses
import GateRust.Proxy.Router

namespace GateRust.Proxy

open Tunnel (SocketAddr IpAddr)

/-- The name of a header, in lower case. -/
abbrev HeaderName := String

abbrev HeaderValue := Bytes

abbrev Headers := HeaderMap HeaderName HeaderValue

/-- The parts of `http` that are used. -/
structure HttpLibrary where
  /-- `HeaderName::from_bytes` of a text. -/
  headerName : String → Option HeaderName
  /-- `HeaderValue::to_str`. -/
  toStr : HeaderValue → Option String
  /-- `HeaderValue::from_str`. -/
  fromStr : String → Option HeaderValue
  /-- The host of an `Authority`, if the text can be read as one. -/
  authorityHost : String → Option String
  /-- `Uri::builder` with a scheme, an authority, and a path with its query. -/
  buildUri : String → String → String → Except String Uri

/-- The parts of a request that are read or changed. -/
structure Request where
  uri : Uri
  headers : Headers
deriving DecidableEq, Repr

structure Response (β : Type) where
  status : ℕ
  headers : Headers
  body : β
deriving DecidableEq, Repr

/-- A text of the proxy, or the body of a response of the upstream server. -/
inductive ProxyBody (β : Type) where
  | full (text : String)
  | upstream (body : β)
deriving DecidableEq, Repr

/-! ## Names and texts -/

def CONNECTION : HeaderName := "connection"
def HOST : HeaderName := "host"
def TE : HeaderName := "te"
def TRAILER : HeaderName := "trailer"
def TRANSFER_ENCODING : HeaderName := "transfer-encoding"
def UPGRADE : HeaderName := "upgrade"
def CONTENT_TYPE : HeaderName := "content-type"

def BAD_REQUEST : ℕ := 400
def NOT_FOUND : ℕ := 404
def MISDIRECTED_REQUEST : ℕ := 421
def BAD_GATEWAY : ℕ := 502
def SWITCHING_PROTOCOLS : ℕ := 101

/-- The bytes of a text in ASCII, as `HeaderValue::from_static` takes them. -/
def asciiBytes (text : String) : HeaderValue := text.toList.map fun c => UInt8.ofNat c.toNat

/-- The text of an address without a port. -/
def ipText : IpAddr → String
  | .v4 bits => Tunnel.displayIpv4 bits
  | .v6 bits => Tunnel.displayIpv6 bits

/-! ## The library -/

/-- The bytes of a value as characters. -/
def latin1 (value : HeaderValue) : List Char := value.map fun byte => Char.ofNat byte.toNat

/-- The characters that a value read as a text can have. -/
def visible (c : Char) : Bool := (32 ≤ c.toNat && c.toNat < 127) || c = '\t'

def pathAndQuery (path : String) (query : Option String) : String :=
  match query with
  | some query => path ++ "?" ++ query
  | none => path

/-- What the library promises: `to_str` and `from_str` on values of visible ASCII characters, and a
builder that takes over what it is given.  A path ends at the first `?`, and what follows a `#` is
no part of a URI. -/
structure HttpLibrary.Documented (lib : HttpLibrary) : Prop where
  toStr : ∀ value, lib.toStr value =
    if (latin1 value).all visible then some (String.ofList (latin1 value)) else none
  fromStr : ∀ text, text.toList.all visible = true → lib.fromStr text = some (asciiBytes text)
  builds : ∀ scheme authority path query uri,
    path ≠ "" → '?' ∉ path.toList → '#' ∉ path.toList → (∀ text ∈ query, '#' ∉ text.toList) →
    lib.buildUri scheme authority (pathAndQuery path query) = .ok uri →
    uri.schemeStr = some scheme ∧ uri.authority = some authority ∧ uri.path = path ∧
      uri.query = query

/-! ## Headers -/

section Headers

variable (lib : HttpLibrary)

/-- The header that a part of a `Connection` line names. -/
def connectionToken (part : List Char) : Option HeaderName :=
  lib.headerName (String.ofList (trim (String.ofList part)))

def connectionTokens (headers : Headers) : List HeaderName :=
  (((headers.get CONNECTION).bind lib.toStr).map fun value =>
    (value.toList.splitOn ',').filterMap (connectionToken lib)).getD []

def removeHopHeaders (headers : Headers) : Headers :=
  (headers.removeAll (connectionTokens lib headers)).removeAll
    [CONNECTION, TE, TRAILER, TRANSFER_ENCODING, UPGRADE]

/-- A value that cannot be encoded is not set. -/
def setForwarded (headers : Headers) (name : HeaderName) (value : String) : Headers :=
  match lib.fromStr value with
  | none => headers
  | some value => headers.insert name value

def requestHost (request : Request) : Option String := do
  let value ← (request.headers.get HOST).bind lib.toStr
  let host ← lib.authorityHost value
  return String.ofList ((host.toList.rdropWhile (· = '.')).map Char.toLower)

end Headers

def tlsHostMatches (host : String) (serverName : Option String) : Bool :=
  serverName.all fun serverName =>
    serverName.toList.map Char.toLower = host.toList.map Char.toLower

/-! ## The request to the upstream server -/

def joinedPath (upstream incoming : Uri) : String :=
  let base := String.ofList (upstream.path.toList.rdropWhile (· = '/'))
  let result :=
    if base = "" then incoming.path
    else if incoming.path = "/" then base ++ "/"
    else base ++ incoming.path
  match incoming.query with
  | some query => result ++ "?" ++ query
  | none => result

section Prepare

variable (lib : HttpLibrary)

def upstreamUri (upstream incoming : Uri) : Except ProxyError Uri :=
  match upstream.authority with
  | none => .error (.invalidConfig "上游 URI 缺少 authority")
  | some authority =>
    (lib.buildUri (upstream.schemeStr.getD "http") authority
      (joinedPath upstream incoming)).mapError .http

/-- The address of the upstream server is only used to connect; the application still sees the
public host. -/
def restoreHost (originalHost : Option HeaderValue) (headers : Headers) : Headers :=
  match originalHost with
  | some host => headers.insert HOST host
  | none => headers

def restoreUpgrade (upgrade : Option HeaderValue) (headers : Headers) : Headers :=
  match upgrade with
  | some upgrade => (headers.insert UPGRADE upgrade).insert CONNECTION (asciiBytes "upgrade")
  | none => headers

def setForwardedHost (originalHost : Option HeaderValue) (headers : Headers) : Headers :=
  match originalHost.bind lib.toStr with
  | some host => setForwarded lib headers "x-forwarded-host" host
  | none => headers

/-- The headers of the client as the upstream server gets them. -/
def preparedHeaders (headers : Headers) (remote : SocketAddr) (tls : Bool) : Headers :=
  let originalHost := headers.get HOST
  let upgrade := headers.get UPGRADE
  let headers := removeHopHeaders lib headers
  let headers := restoreHost originalHost headers
  let headers := restoreUpgrade upgrade headers
  let headers := setForwarded lib headers "x-forwarded-for" (ipText remote.ip)
  let headers := setForwarded lib headers "x-forwarded-proto" (if tls then "https" else "http")
  setForwardedHost lib originalHost headers

def prepareRequest (request : Request) (route : Route) (remote : SocketAddr) (tls : Bool) :
    Except ProxyError Request := do
  let uri ← upstreamUri lib route.upstream request.uri
  return ⟨uri, preparedHeaders lib request.headers remote tls⟩

end Prepare

/-! ## The response to the client -/

/-- A response of the proxy itself. -/
def response {β : Type} (status : ℕ) (message : String) : Response (ProxyBody β) :=
  ⟨status, HeaderMap.insert ⟨[]⟩ CONTENT_TYPE (asciiBytes "text/plain; charset=utf-8"),
    .full message⟩

/-- What `handle` leaves: the response, and whether a task relays the upgraded connection. -/
structure Handled (β : Type) where
  response : Response (ProxyBody β)
  relayed : Bool

section Handle

variable (lib : HttpLibrary) {β : Type}

/-- The response of the upstream server as the client gets it. -/
def forwarded (upstream : Response β) : Response (ProxyBody β) :=
  ⟨upstream.status, removeHopHeaders lib upstream.headers, .upstream upstream.body⟩

/-- The route of a request, or the response to a request without one. -/
def chooseRoute (router : Router) (request : Request) (tlsServerName : Option String) :
    Except (Response (ProxyBody β)) Route := do
  let some host := requestHost lib request
    | throw (response BAD_REQUEST "缺少有效 Host 请求头")
  if !tlsHostMatches host tlsServerName then
    throw (response MISDIRECTED_REQUEST "TLS SNI 与 Host 不一致")
  let some route := router.find host request.uri.path
    | throw (response NOT_FOUND "未匹配到代理路由")
  if tlsServerName.isSome && !route.tls then
    throw (response MISDIRECTED_REQUEST "该路由未绑定 TLS 证书")
  return route

/-- `client` answers a request to the upstream server. -/
def handle (client : Request → Except String (Response β)) (router : Router) (request : Request)
    (remote : SocketAddr) (tlsServerName : Option String) : Handled β :=
  match chooseRoute lib router request tlsServerName with
  | .error rejected => ⟨rejected, false⟩
  | .ok route =>
    let upgrading := request.headers.contains UPGRADE
    match prepareRequest lib request route remote tlsServerName.isSome with
    | .error _ => ⟨response BAD_GATEWAY "上游地址无效", false⟩
    | .ok request =>
      match client request with
      | .ok upstream =>
        ⟨forwarded lib upstream, upstream.status = SWITCHING_PROTOCOLS && upgrading⟩
      | .error _ => ⟨response BAD_GATEWAY "上游服务不可用", false⟩

end Handle

/-! ## The values after each step -/

section Values

variable {lib : HttpLibrary} {headers : Headers} {name other : HeaderName} {value : HeaderValue}

lemma values_setForwarded_of_ne {text : String} (h : other ≠ name) :
    (setForwarded lib headers name text).values other = headers.values other := by
  rw [setForwarded]
  cases lib.fromStr text with
  | none => rfl
  | some value => exact HeaderMap.values_insert_of_ne h

/-- A text of visible characters is the only value after it is set. -/
lemma values_setForwarded_self (hlib : lib.Documented) {text : String}
    (h : text.toList.all visible = true) :
    (setForwarded lib headers name text).values name = [asciiBytes text] := by
  rw [setForwarded, hlib.fromStr text h]
  exact HeaderMap.values_insert_self

lemma values_restoreHost_of_ne {host : Option HeaderValue} (h : other ≠ HOST) :
    (restoreHost host headers).values other = headers.values other := by
  cases host with
  | none => rfl
  | some host => exact HeaderMap.values_insert_of_ne h

lemma values_restoreUpgrade_of_ne {upgrade : Option HeaderValue} (hupgrade : other ≠ UPGRADE)
    (hconnection : other ≠ CONNECTION) :
    (restoreUpgrade upgrade headers).values other = headers.values other := by
  cases upgrade with
  | none => rfl
  | some upgrade =>
    rw [restoreUpgrade, HeaderMap.values_insert_of_ne hconnection,
      HeaderMap.values_insert_of_ne hupgrade]

lemma values_setForwardedHost_of_ne {host : Option HeaderValue} (h : other ≠ "x-forwarded-host") :
    (setForwardedHost lib host headers).values other = headers.values other := by
  rw [setForwardedHost]
  cases host.bind lib.toStr with
  | none => rfl
  | some host => exact values_setForwarded_of_ne h

end Values

/-! ## A library -/

/-- The characters of the names of headers. -/
def tokenChar (c : Char) : Bool := c.isAlphanum || c ∈ "!#$%&'*+-.^_`|~".toList

lemma mem_of_mem_tail? {text rest : List Char} {c : Char} (h : text.tail? = some rest)
    (hc : c ∈ rest) : c ∈ text := by
  cases text with
  | nil => cases h
  | cons first tail =>
    cases h
    exact List.mem_cons_of_mem first hc

lemma toList_append_query (path query : String) :
    (path ++ "?" ++ query).toList = path.toList ++ '?' :: query.toList := by
  simp [String.toList_append]

/-- The URI of a path with a query, without the check of their characters. -/
def sampleUri (scheme authority text : String) (h : '#' ∉ text.toList) : Uri where
  schemeStr := some scheme
  authority := some authority
  query := (text.toList.dropWhile (· ≠ '?')).tail?.map String.ofList
  path := String.ofList (text.toList.takeWhile (· ≠ '?'))
  path_plain := by
    rw [String.toList_ofList]
    refine ⟨fun hc => ?_, fun hc => h ((List.takeWhile_prefix _).subset hc)⟩
    simpa using List.mem_takeWhile_imp hc
  query_plain := by
    intro query hquery hc
    obtain ⟨rest, hrest, rfl⟩ := Option.map_eq_some_iff.mp hquery
    rw [String.toList_ofList] at hc
    exact h ((List.dropWhile_suffix _).subset (mem_of_mem_tail? hrest hc))

/-- Names, values and paths as the library reads them, and hosts that are names. -/
def sampleHttp : HttpLibrary where
  headerName text :=
    if text ≠ "" ∧ text.toList.all tokenChar then
      some (String.ofList (text.toList.map Char.toLower))
    else none
  toStr value := if (latin1 value).all visible then some (String.ofList (latin1 value)) else none
  fromStr text := if text.toList.all visible then some (asciiBytes text) else none
  authorityHost text := some (String.ofList (text.toList.takeWhile (· ≠ ':')))
  buildUri scheme authority text :=
    if h : '#' ∈ text.toList then .error "invalid uri character"
    else .ok (sampleUri scheme authority text h)

lemma sampleHttp_documented : sampleHttp.Documented where
  toStr _ := rfl
  fromStr _ h := if_pos h
  builds := by
    intro scheme authority path query uri _ hmark hhash hquery hbuild
    have hpath : ∀ c ∈ path.toList, decide (c ≠ '?') = true := by
      intro c hc
      exact decide_eq_true fun heq => hmark (heq ▸ hc)
    simp only [sampleHttp] at hbuild
    split_ifs at hbuild
    cases hbuild
    refine ⟨rfl, rfl, ?_, ?_⟩
    · show String.ofList ((pathAndQuery path query).toList.takeWhile _) = path
      cases query with
      | none => rw [pathAndQuery, List.takeWhile_eq_self_iff.mpr hpath, String.ofList_toList]
      | some query =>
        rw [pathAndQuery, toList_append_query, List.takeWhile_append_of_pos hpath]
        simp
    · show ((pathAndQuery path query).toList.dropWhile _).tail?.map String.ofList = query
      cases query with
      | none =>
        rw [pathAndQuery, List.dropWhile_eq_nil_iff.mpr hpath]
        rfl
      | some query =>
        rw [pathAndQuery, toList_append_query, List.dropWhile_append_of_pos hpath]
        simp

end GateRust.Proxy
