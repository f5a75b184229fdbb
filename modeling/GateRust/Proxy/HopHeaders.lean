/-
# The headers of one connection

A header that a `Connection` line names belongs to the connection on which it comes, and must not be
passed on; so do the `Connection` lines themselves and four other headers.  `remove_hop_headers`
reads only the first `Connection` line, and only if it is a text.
-/
import GateRust.Proxy.Forwarding

namespace GateRust.Proxy

variable {lib : HttpLibrary} {headers : Headers} {name : HeaderName} {value : HeaderValue}

/-! ## What must not be passed on -/

/-- A part of the line between two commas is the name. -/
def Names (lib : HttpLibrary) (value : HeaderValue) (name : HeaderName) : Prop :=
  ∃ part ∈ (latin1 value).splitOn ',',
    (∀ c ∈ part, c.toNat < 128) ∧ connectionToken lib part = some name

/-- Some line of the header names the header. -/
def NamedByConnection (lib : HttpLibrary) (headers : Headers) (name : HeaderName) : Prop :=
  ∃ value ∈ headers.values CONNECTION, Names lib value name

def hopNames : List HeaderName := [CONNECTION, TE, TRAILER, TRANSFER_ENCODING, UPGRADE]

/-- The headers of the connection are gone, and all others are as they were. -/
structure Stripped (lib : HttpLibrary) (headers headers' : Headers) : Prop where
  removed : ∀ name, name ∈ hopNames ∨ NamedByConnection lib headers name →
    headers'.values name = []
  kept : ∀ name, ¬ (name ∈ hopNames ∨ NamedByConnection lib headers name) →
    headers'.values name = headers.values name

/-- Every header that a line names is named by the first line, and this is a text. -/
def FirstLineSuffices (lib : HttpLibrary) (headers : Headers) : Prop :=
  ∀ name, NamedByConnection lib headers name → name ∉ hopNames → headers.values name ≠ [] →
    ∃ value, headers.get CONNECTION = some value ∧ (latin1 value).all visible = true ∧
      Names lib value name

/-! ## What is removed -/

lemma lt_of_visible {c : Char} (h : visible c = true) : c.toNat < 128 := by
  rw [visible, Bool.or_eq_true, Bool.and_eq_true, decide_eq_true_eq, decide_eq_true_eq,
    decide_eq_true_eq] at h
  rcases h with ⟨-, hlt⟩ | rfl
  · omega
  · decide

lemma mem_of_mem_splitOn {text part : List Char} {separator c : Char}
    (hpart : part ∈ text.splitOn separator) (hc : c ∈ part) : c ∈ text := by
  have htext : [separator].intercalate (text.splitOn separator) = text :=
    List.intercalate_splitOn separator
  rw [← htext]
  generalize text.splitOn separator = parts at hpart
  induction parts with
  | nil => cases hpart
  | cons first parts ih =>
    cases parts with
    | nil =>
      rw [List.mem_singleton.mp hpart] at hc
      rwa [List.intercalate_singleton]
    | cons second parts =>
      rw [List.intercalate_cons_cons]
      rcases List.mem_cons.mp hpart with rfl | hpart
      · exact List.mem_append_left _ (List.mem_append_left _ hc)
      · exact List.mem_append_right _ (ih hpart)

/-- The code honours what the first line names, if it is a text. -/
lemma mem_connectionTokens_iff (hlib : lib.Documented) :
    name ∈ connectionTokens lib headers ↔ ∃ value, headers.get CONNECTION = some value ∧
      (latin1 value).all visible = true ∧ Names lib value name := by
  rw [connectionTokens]
  cases hget : headers.get CONNECTION with
  | none => simp
  | some value =>
    rw [Option.bind_some, hlib.toStr]
    split_ifs with hvisible
    · have hparts : ∀ part ∈ (latin1 value).splitOn ',', ∀ c ∈ part, c.toNat < 128 :=
        fun part hpart c hc =>
          lt_of_visible (List.all_eq_true.mp hvisible c (mem_of_mem_splitOn hpart hc))
      simp only [Option.map_some, Option.getD_some, String.toList_ofList, List.mem_filterMap,
        Option.some.injEq, exists_eq_left', hvisible, true_and, Names]
      exact exists_congr fun part => and_congr_right fun hpart =>
        (and_iff_right (hparts part hpart)).symm
    · simp only [Option.map_none, Option.getD_none, List.not_mem_nil, Option.some.injEq,
        exists_eq_left', hvisible, false_and, reduceCtorEq]

lemma values_removeHopHeaders (name : HeaderName) :
    (removeHopHeaders lib headers).values name =
      if name ∈ hopNames ∨ name ∈ connectionTokens lib headers then []
      else headers.values name := by
  rw [removeHopHeaders, HeaderMap.values_removeAll, HeaderMap.values_removeAll]
  by_cases hhop : name ∈ hopNames
  · simp [hhop, show name ∈ [CONNECTION, TE, TRAILER, TRANSFER_ENCODING, UPGRADE] from hhop]
  · simp [hhop, show name ∉ [CONNECTION, TE, TRAILER, TRANSFER_ENCODING, UPGRADE] from hhop]

/-- What the code honours is named by a line. -/
lemma namedByConnection_of_mem (hlib : lib.Documented)
    (h : name ∈ connectionTokens lib headers) : NamedByConnection lib headers name := by
  obtain ⟨value, hget, -, hnames⟩ := (mem_connectionTokens_iff hlib).mp h
  exact ⟨value, List.mem_of_mem_head? hget, hnames⟩

/-- The headers of a connection are removed exactly where the first line suffices. -/
lemma stripped_iff (hlib : lib.Documented) :
    Stripped lib headers (removeHopHeaders lib headers) ↔ FirstLineSuffices lib headers := by
  constructor
  · intro h name hnamed hhop hvalues
    have hempty := h.removed name (Or.inr hnamed)
    rw [values_removeHopHeaders] at hempty
    split_ifs at hempty with hremoved
    · exact (mem_connectionTokens_iff hlib).mp (hremoved.resolve_left hhop)
    · exact absurd hempty hvalues
  · intro h
    constructor
    · intro name hname
      rw [values_removeHopHeaders]
      split_ifs with hremoved
      · rfl
      · -- neither removed as one of the five nor honoured: it has no value to begin with
        by_contra hvalues
        have hhop : name ∉ hopNames := fun hhop => hremoved (Or.inl hhop)
        exact hremoved (Or.inr ((mem_connectionTokens_iff hlib).mpr
          (h name (hname.resolve_left hhop) hhop hvalues)))
    · intro name hname
      rw [values_removeHopHeaders, if_neg]
      exact fun hremoved => hname (hremoved.imp_right (namedByConnection_of_mem hlib))

/-! ## Both ways -/

/-- The headers that `prepare_request` sets. -/
def proxyNames : List HeaderName :=
  [HOST, UPGRADE, CONNECTION, "x-forwarded-for", "x-forwarded-proto", "x-forwarded-host"]

/-- All other headers come from the client, after the removal. -/
lemma values_preparedHeaders {remote : Tunnel.SocketAddr} {tls : Bool} (h : name ∉ proxyNames) :
    (preparedHeaders lib headers remote tls).values name =
      (removeHopHeaders lib headers).values name := by
  simp only [proxyNames, List.mem_cons, List.not_mem_nil, or_false, not_or] at h
  obtain ⟨hhost, hupgrade, hconnection, hfor, hproto, hforwardedHost⟩ := h
  rw [preparedHeaders, values_setForwardedHost_of_ne hforwardedHost,
    values_setForwarded_of_ne hproto, values_setForwarded_of_ne hfor,
    values_restoreUpgrade_of_ne hupgrade hconnection, values_restoreHost_of_ne hhost]

lemma headers_of_prepareRequest {request request' : Request} {route : Route}
    {remote : Tunnel.SocketAddr} {tls : Bool}
    (h : prepareRequest lib request route remote tls = .ok request') :
    upstreamUri lib route.upstream request.uri = .ok request'.uri ∧
      request'.headers = preparedHeaders lib request.headers remote tls := by
  obtain ⟨uri, huri, h⟩ := Except.exists_ok_of_bind h
  cases h
  exact ⟨huri, rfl⟩

/-- **Which headers of a connection are passed on.**  The headers of a connection are removed, and
no others, exactly when the first `Connection` line is a text that names every present header that
some line names.  Then none of the client's reaches the upstream server, except under the names that
the proxy sets itself, and none of the upstream server's reaches the client. -/
theorem removeHopHeaders_stripped_iff (lib : HttpLibrary) (hlib : lib.Documented)
    (headers : Headers) :
    (Stripped lib headers (removeHopHeaders lib headers) ↔ FirstLineSuffices lib headers) ∧
      (FirstLineSuffices lib headers →
        (∀ uri route remote tls request',
          prepareRequest lib ⟨uri, headers⟩ route remote tls = .ok request' →
          ∀ name, name ∈ hopNames ∨ NamedByConnection lib headers name → name ∉ proxyNames →
            request'.headers.values name = []) ∧
        ∀ (β : Type) (upstream : Response β), upstream.headers = headers →
          ∀ name, name ∈ hopNames ∨ NamedByConnection lib headers name →
            (forwarded lib upstream).headers.values name = []) := by
  refine ⟨stripped_iff hlib, fun hfirst => ?_⟩
  have hstripped := (stripped_iff hlib).mpr hfirst
  refine ⟨?_, ?_⟩
  · intro uri route remote tls request' hrequest name hname hproxy
    rw [(headers_of_prepareRequest hrequest).2, values_preparedHeaders hproxy]
    exact hstripped.removed name hname
  · rintro β upstream rfl name hname
    exact hstripped.removed name hname

/-! ## One line and two -/

/-- The headers of a request with these `Connection` lines and a header `x-remove`. -/
def removeRequest (lines : List String) : Request :=
  ⟨{ CertificateManager.localhostUri with schemeStr := none, authority := none },
    ⟨lines.map (fun line => (CONNECTION, asciiBytes line)) ++
      [(HOST, asciiBytes "public.example"), ("x-remove", asciiBytes "private")]⟩⟩

/-- What a single line names is removed. -/
theorem single_line_stripped :
    Stripped sampleHttp (removeRequest ["keep-alive, X-Remove"]).headers
        (removeHopHeaders sampleHttp (removeRequest ["keep-alive, X-Remove"]).headers) ∧
      (removeHopHeaders sampleHttp (removeRequest ["keep-alive, X-Remove"]).headers).lines =
        [(HOST, asciiBytes "public.example")] := by
  refine ⟨?_, by decide +kernel⟩
  refine (removeHopHeaders_stripped_iff sampleHttp sampleHttp_documented _).1.mpr ?_
  rintro name ⟨value, hvalue, hnames⟩ - -
  have hlines : (removeRequest ["keep-alive, X-Remove"]).headers.values CONNECTION =
      [asciiBytes "keep-alive, X-Remove"] := by decide +kernel
  rw [hlines, List.mem_singleton] at hvalue
  subst hvalue
  exact ⟨_, by decide +kernel, by decide +kernel, hnames⟩

/-- What the second of two lines names stays, and reaches the upstream server. -/
theorem second_line_not_stripped :
    ¬ Stripped sampleHttp (removeRequest ["keep-alive", "x-remove"]).headers
        (removeHopHeaders sampleHttp (removeRequest ["keep-alive", "x-remove"]).headers) ∧
      NamedByConnection sampleHttp (removeRequest ["keep-alive", "x-remove"]).headers "x-remove" ∧
      (prepareRequest sampleHttp (removeRequest ["keep-alive", "x-remove"])
          CertificateManager.siteRoute ⟨.v4 0xc0000201, 12345⟩ true).toOption.map
        (·.headers.values "x-remove") = some [asciiBytes "private"] := by
  have hvisible : "x-remove".toList.all visible = true := by decide +kernel
  have hnamed : NamedByConnection sampleHttp
      (removeRequest ["keep-alive", "x-remove"]).headers "x-remove" :=
    ⟨asciiBytes "x-remove", by decide +kernel, "x-remove".toList, by decide +kernel,
      fun c hc => lt_of_visible (List.all_eq_true.mp hvisible c hc), by decide +kernel⟩
  refine ⟨fun hstripped => ?_, hnamed, by decide +kernel⟩
  have hempty := hstripped.removed "x-remove" (Or.inr hnamed)
  revert hempty
  decide +kernel

end GateRust.Proxy
