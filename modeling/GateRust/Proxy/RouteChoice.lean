/-
# The route of a request

`Router::find` looks the host up in two tables and stops at the first path prefix that matches.  The
choice that it makes is the one of the longest prefix: among the routes of the host itself, and if
none of them covers the path, among those of a wildcard for it.

The sorts of `Router::new` are not stable, and the order of a hash map is not fixed.  So the results
are about every router that `Router::new` can build, of which the one of `Router.new` is an example.
-/
import GateRust.Lib.SortedSearch
import GateRust.Proxy.CanonicalConfig

namespace GateRust.Proxy

open CertificateResolver (wildcardSuffix wildcardSuffix_eq_some)
open SortedSearch (Largest Arranges arranges_insertionSort)

/-! ## The choice -/

/-- The path is the prefix, or goes on after it at a `/`. -/
def Covers (pathPrefix path : String) : Prop :=
  path = pathPrefix ∨ ∃ rest, path = pathPrefix ++ rest ∧
    ((∃ front, pathPrefix = front ++ "/") ∨ ∃ tail, rest = "/" ++ tail)

/-- The host is one label under the wildcard. -/
def UnderWildcard (wildcard host : String) : Prop :=
  ∃ label suffix, wildcard = "*." ++ suffix ∧ host = label ++ "." ++ suffix ∧ '.' ∉ label.toList

def RouteConfig.size (route : RouteConfig) : ℕ := route.pathPrefix.utf8ByteSize

section Choice

variable (routes : List RouteConfig) (host path : String)

/-- A route of the host itself with the longest prefix that covers the path. -/
def ExactChoice : RouteConfig → Prop :=
  Largest routes (fun r => r.host = host ∧ Covers r.pathPrefix path) RouteConfig.size

/-- The same among the routes of a wildcard for the host. -/
def WildcardChoice : RouteConfig → Prop :=
  Largest routes (fun r => UnderWildcard r.host host ∧ Covers r.pathPrefix path) RouteConfig.size

/-- The route that a request should get: a route of the host, or else one of a wildcard, or else
none. -/
def Choice : Option RouteConfig → Prop
  | some r => ExactChoice routes host path r ∨
      (∀ r' ∈ routes, r'.host = host → ¬ Covers r'.pathPrefix path) ∧
        WildcardChoice routes host path r
  | none => ∀ r ∈ routes, r.host = host ∨ UnderWildcard r.host host → ¬ Covers r.pathPrefix path

end Choice

/-- The route that the router stores for a route of the configuration. -/
def RouteConfig.route (parseUri : String → Option Uri) (r : RouteConfig) : Option Route :=
  (parseUri r.upstream).map fun upstream => ⟨r.name, upstream, r.certificateId.isSome⟩

/-! ## Prefixes and hosts -/

lemma endsWith_slash_iff {value : String} :
    value.toList.getLast? = some '/' ↔ ∃ front, value = front ++ "/" := by
  rw [List.getLast?_eq_some_iff]
  constructor
  · rintro ⟨front, hfront⟩
    exact ⟨String.ofList front, String.toList_inj.mp (by rw [hfront, String.toList_append]; simp)⟩
  · rintro ⟨front, rfl⟩
    exact ⟨front.toList, by rw [String.toList_append]; rfl⟩

lemma startsWith_slash_iff {value : String} :
    value.toList.head? = some '/' ↔ ∃ tail, value = "/" ++ tail := by
  rw [List.head?_eq_some_iff]
  constructor
  · rintro ⟨tail, htail⟩
    exact ⟨String.ofList tail, String.toList_inj.mp (by rw [htail, String.toList_append]; simp)⟩
  · rintro ⟨tail, rfl⟩
    exact ⟨tail.toList, by rw [String.toList_append]; rfl⟩

/-- The rest of the path behind the prefix. -/
lemma isPrefixOf?_iff {pathPrefix path : String} {rest : List Char} :
    pathPrefix.toList.isPrefixOf? path.toList = some rest ↔
      path = pathPrefix ++ String.ofList rest := by
  rw [List.isPrefixOf?_eq_some_iff_append_eq, ← String.toList_inj, String.toList_append,
    String.toList_ofList, eq_comm]

lemma pathMatches_iff {path pathPrefix : String} :
    pathMatches path pathPrefix = true ↔ Covers pathPrefix path := by
  rw [pathMatches, Bool.or_eq_true, decide_eq_true_eq, Option.any_eq_true]
  refine or_congr_right ?_
  simp only [isPrefixOf?_iff, Bool.or_eq_true, decide_eq_true_eq, endsWith_slash_iff]
  constructor
  · rintro ⟨rest, hpath, hrest⟩
    refine ⟨String.ofList rest, hpath, hrest.imp_right fun hslash => ?_⟩
    exact startsWith_slash_iff.mp (by rwa [String.toList_ofList])
  · rintro ⟨rest, hpath, hrest⟩
    refine ⟨rest.toList, by rwa [String.ofList_toList], hrest.imp_right fun hslash => ?_⟩
    exact startsWith_slash_iff.mpr hslash

lemma underWildcard_iff {wildcard host : String} :
    UnderWildcard wildcard host ↔
      ∃ suffix, wildcard = "*." ++ suffix ∧ wildcardMatches host suffix = true := by
  have hlist : ∀ label suffix : String, (label ++ "." ++ suffix).toList =
      label.toList ++ '.' :: suffix.toList := by simp [String.toList_append]
  constructor
  · rintro ⟨label, suffix, hwildcard, rfl, hlabel⟩
    exact ⟨suffix, hwildcard, wildcardMatches_iff.mpr ⟨label.toList, hlist label suffix, hlabel⟩⟩
  · rintro ⟨suffix, hwildcard, hmatch⟩
    obtain ⟨label, hhost, hlabel⟩ := wildcardMatches_iff.mp hmatch
    refine ⟨String.ofList label, suffix, hwildcard, String.toList_inj.mp ?_, ?_⟩
    · rw [hhost, hlist, String.toList_ofList]
    · rwa [String.toList_ofList]

lemma Covers.exists_rest {pathPrefix path : String} (h : Covers pathPrefix path) :
    ∃ rest, path = pathPrefix ++ rest := by
  rcases h with rfl | ⟨rest, hpath, -⟩
  · exact ⟨"", by simp⟩
  · exact ⟨rest, hpath⟩

/-- Two prefixes of one path are the same when they have the same size. -/
lemma Covers.eq_of_size {pathPrefix pathPrefix' path : String} (h : Covers pathPrefix path)
    (h' : Covers pathPrefix' path) (hsize : pathPrefix.utf8ByteSize = pathPrefix'.utf8ByteSize) :
    pathPrefix = pathPrefix' := by
  -- the longer of the two is the shorter one and a rest, which has no size
  have hrest : ∀ {a b : String} {mid : List Char}, a.toList = b.toList ++ mid →
      a.utf8ByteSize = b.utf8ByteSize → a = b := by
    intro a b mid hlist hsize
    have hab : a = b ++ String.ofList mid :=
      String.toList_inj.mp (by rw [hlist, String.toList_append, String.toList_ofList])
    rw [hab, String.utf8ByteSize_append, Nat.add_eq_left, String.utf8ByteSize_eq_zero_iff] at hsize
    rw [hab, hsize, String.append_empty]
  obtain ⟨rest, rfl⟩ := h.exists_rest
  obtain ⟨rest', hpath⟩ := h'.exists_rest
  have hlist : pathPrefix.toList ++ rest.toList = pathPrefix'.toList ++ rest'.toList := by
    rw [← String.toList_append, hpath, String.toList_append]
  rcases List.append_eq_append_iff.mp hlist with ⟨mid, hmid, -⟩ | ⟨mid, hmid, -⟩
  · exact (hrest hmid hsize.symm).symm
  · exact hrest hmid hsize

/-! ## The routers that can be built -/

namespace Router

def entrySize (entry : RouteEntry) : ℕ := entry.pathPrefix.utf8ByteSize

/-- The entries that a table has for a host. -/
def entriesOf (entries : HashMap String (List RouteEntry)) (host : String) : List RouteEntry :=
  (entries.lookup host).getD []

/-- A router that sorts and hash maps can make of the tables; `listed` is the table of the wildcards
in the order of the hash map. -/
structure Arranged (tables : Tables) (router : Router) : Prop where
  exact : ∀ host,
    Arranges entrySize (entriesOf tables.exact host) (entriesOf router.exact host)
  wildcard : ∃ listed : List (String × List RouteEntry),
    (listed.map Prod.fst).Perm tables.wildcard.keys ∧
      (∀ e ∈ listed, Arranges entrySize (entriesOf tables.wildcard e.1) e.2) ∧
      Arranges (fun e => e.1.utf8ByteSize) listed router.wildcard

/-- A router that `Router::new` can build from the configuration. -/
def Built (parseUri : String → Option Uri) (config : ProxyConfig) (router : Router) : Prop :=
  ∃ tables, config.routes.foldlM (addRoute parseUri) ⟨∅, ∅⟩ = .ok tables ∧ Arranged tables router

variable {parseUri : String → Option Uri} {config : ProxyConfig} {router : Router}
  {routes : List RouteConfig} {host path : String}

lemma entriesOf_sortEntries (entries : HashMap String (List RouteEntry)) (host : String) :
    entriesOf (entries.mapValues sortEntries) host = sortEntries (entriesOf entries host) := by
  rw [entriesOf, entriesOf, AList.lookup_mapValues]
  cases entries.lookup host with
  | none => rfl
  | some es => rfl

lemma arranges_sortEntries (entries : List RouteEntry) :
    Arranges entrySize entries (sortEntries entries) := arranges_insertionSort entries

/-- The sorts of the model are stable, and its hash maps list their entries in one order. -/
lemma new_built (h : new parseUri config = .ok router) : Built parseUri config router := by
  obtain ⟨tables, htables, h⟩ := Except.exists_ok_of_bind h
  cases h
  refine ⟨tables, htables, ?_, _, ?_, ?_, arranges_insertionSort _⟩
  · intro host
    show Arranges _ _ (entriesOf (tables.exact.mapValues sortEntries) host)
    rw [entriesOf_sortEntries]
    exact arranges_sortEntries _
  · rw [List.map_map]
    show ((tables.wildcard.mapValues sortEntries).entries.map Sigma.fst).Perm tables.wildcard.keys
    rw [AList.mapValues, List.map_map]
    rfl
  · intro e he
    obtain ⟨e, hentry, rfl⟩ := List.mem_map.mp he
    have hlookup : (tables.wildcard.mapValues sortEntries).lookup e.1 = some e.2 :=
      AList.lookup_eq_some_iff.mpr hentry
    have hentries : entriesOf (tables.wildcard.mapValues sortEntries) e.1 = e.2 := by
      rw [entriesOf, hlookup, Option.getD_some]
    show Arranges _ _ e.2
    rw [← hentries, entriesOf_sortEntries]
    exact arranges_sortEntries _

/-! ## What the tables hold -/

lemma mem_entriesOf_push {entries : HashMap String (List RouteEntry)} {host' : String}
    {entry e : RouteEntry} :
    e ∈ entriesOf (push entries host' entry) host ↔
      e ∈ entriesOf entries host ∨ host = host' ∧ e = entry := by
  rw [entriesOf, push, AList.lookup_insert_eq]
  split_ifs with heq
  · subst heq
    simp [entriesOf]
  · simp [entriesOf, heq]

/-- The tables hold the entries of the routes, those of a wildcard under its suffix. -/
structure Tables.Hold (parseUri : String → Option Uri) (routes : List RouteConfig)
    (tables : Tables) : Prop where
  exact : ∀ host e, e ∈ entriesOf tables.exact host ↔ ∃ r ∈ routes,
    (wildcardSuffix r.host = none ∧ r.host = host) ∧ routeEntry parseUri r = .ok e
  wildcard : ∀ suffix e, e ∈ entriesOf tables.wildcard suffix ↔ ∃ r ∈ routes,
    r.host = "*." ++ suffix ∧ routeEntry parseUri r = .ok e

lemma hold_addRoute {tables tables' : Tables} {r : RouteConfig}
    (h : addRoute parseUri tables r = .ok tables') (hold : tables.Hold parseUri routes) :
    tables'.Hold parseUri (routes ++ [r]) := by
  obtain ⟨entry, hentry, h⟩ := Except.exists_ok_of_bind h
  have heq : ∀ e, routeEntry parseUri r = .ok e ↔ e = entry := by
    intro e
    rw [hentry, Except.ok.injEq, eq_comm]
  cases hs : wildcardSuffix r.host with
  | some suffix =>
    simp only [hs] at h
    cases h
    have hhost : r.host = "*." ++ suffix := wildcardSuffix_eq_some.mp hs
    constructor
    · intro host e
      simp [hold.exact, or_and_right, exists_or, hs]
    · intro suffix' e
      have hsame : r.host = "*." ++ suffix' ↔ suffix' = suffix := by
        rw [← wildcardSuffix_eq_some, hs, Option.some.injEq, eq_comm]
      simp [mem_entriesOf_push, hold.wildcard, or_and_right, exists_or, hsame, heq]
  | none =>
    simp only [hs] at h
    cases h
    constructor
    · intro host e
      have hsame : r.host = host ↔ host = r.host := eq_comm
      simp [mem_entriesOf_push, hold.exact, or_and_right, exists_or, hs, hsame, heq]
    · intro suffix e
      have hother : r.host ≠ "*." ++ suffix := by
        intro hhost
        rw [wildcardSuffix_eq_some.mpr hhost] at hs
        cases hs
      simp [hold.wildcard, or_and_right, exists_or, hother]

lemma tables_hold {tables : Tables}
    (h : routes.foldlM (addRoute parseUri) ⟨∅, ∅⟩ = .ok tables) : tables.Hold parseUri routes := by
  refine Except.foldlM_invariant (I := fun done (tables : Tables) => tables.Hold parseUri done) h
    ⟨by simp [entriesOf], by simp [entriesOf]⟩ ?_
  exact fun _ _ _ _ hold hadd => hold_addRoute hadd hold

/-! ## What a built router finds -/

/-- The address of the upstream server of every route can be read. -/
def Readable (parseUri : String → Option Uri) (routes : List RouteConfig) : Prop :=
  ∀ r ∈ routes, (parseUri r.upstream).isSome = true

lemma Readable.routeEntry (h : Readable parseUri routes) {r : RouteConfig} (hr : r ∈ routes) :
    ∃ e, routeEntry parseUri r = .ok e ∧ e.pathPrefix = r.pathPrefix ∧
      r.route parseUri = some e.route := by
  obtain ⟨uri, huri⟩ := Option.isSome_iff_exists.mp (h r hr)
  refine ⟨⟨r.pathPrefix, r.name, uri, r.certificateId.isSome⟩, ?_, rfl, ?_⟩
  · rw [GateRust.Proxy.routeEntry, huri]
  · rw [RouteConfig.route, huri]
    rfl

/-- The search among the entries of the routes with `p` finds the route with the longest prefix, and
nothing only where no prefix covers the path. -/
lemma findPath_largest {p : RouteConfig → Prop} {es es' : List RouteEntry}
    (hread : Readable parseUri routes) (h : Arranges entrySize es es')
    (hes : ∀ e, e ∈ es ↔ ∃ r ∈ routes, p r ∧ GateRust.Proxy.routeEntry parseUri r = .ok e) :
    (findPath es' path = none ∧ ∀ r ∈ routes, p r → ¬ Covers r.pathPrefix path) ∨
      ∃ r, Largest routes (fun r => p r ∧ Covers r.pathPrefix path) RouteConfig.size r ∧
        findPath es' path = r.route parseUri := by
  have hentry : ∀ r ∈ routes, p r → ∃ e ∈ es, e.pathPrefix = r.pathPrefix ∧
      r.route parseUri = some e.route := by
    intro r hr hp
    obtain ⟨e, he, hpre, hroute⟩ := hread.routeEntry hr
    exact ⟨e, (hes e).mpr ⟨r, hr, hp, he⟩, hpre, hroute⟩
  cases hfind : es'.find? fun entry => pathMatches path entry.pathPrefix with
  | none =>
    refine Or.inl ⟨by rw [findPath, hfind, Option.map_none], fun r hr hp hcovers => ?_⟩
    obtain ⟨e, he, hpre, -⟩ := hentry r hr hp
    have hno := List.find?_eq_none.mp hfind e (h.perm.mem_iff.mpr he)
    rw [hpre] at hno
    exact hno (pathMatches_iff.mpr hcovers)
  | some e =>
    have hlargest := h.largest_of_find? hfind
    obtain ⟨r, hr, hp, he⟩ := (hes e).mp hlargest.mem
    obtain ⟨e', he', hpre, hroute⟩ := hread.routeEntry hr
    obtain rfl : e = e' := Except.ok.inj (he.symm.trans he')
    refine Or.inr ⟨r, ⟨hr, ⟨hp, ?_⟩, fun r' hr' hp' => ?_⟩, ?_⟩
    · exact pathMatches_iff.mp (hpre ▸ hlargest.hit)
    · obtain ⟨e', hmem, hpre', -⟩ := hentry r' hr' hp'.1
      have hle := hlargest.le e' hmem (pathMatches_iff.mpr (hpre'.symm ▸ hp'.2))
      rwa [entrySize, entrySize, hpre, hpre'] at hle
    · rw [findPath, hfind, hroute]
      rfl

section Find

variable {tables : Tables} (hread : Readable parseUri routes)
  (harranged : Arranged tables router) (hold : tables.Hold parseUri routes)
include hread harranged hold

/-- The part of the search that looks for the host itself. -/
lemma find_exact (host path : String) :
    (findPath (entriesOf router.exact host) path = none ∧
      ∀ r ∈ routes, wildcardSuffix r.host = none ∧ r.host = host → ¬ Covers r.pathPrefix path) ∨
      ∃ r, Largest routes (fun r => (wildcardSuffix r.host = none ∧ r.host = host) ∧
          Covers r.pathPrefix path) RouteConfig.size r ∧
        findPath (entriesOf router.exact host) path = r.route parseUri :=
  findPath_largest hread (harranged.exact host) (hold.exact host)

/-- The part of the search that looks for a wildcard. -/
lemma find_wildcard (host path : String) :
    ((router.wildcard.find? fun e => wildcardMatches host e.1).bind
        (fun e => findPath e.2 path) = none ∧
      ∀ r ∈ routes, UnderWildcard r.host host → ¬ Covers r.pathPrefix path) ∨
      ∃ r, WildcardChoice routes host path r ∧
        (router.wildcard.find? fun e => wildcardMatches host e.1).bind
          (fun e => findPath e.2 path) = r.route parseUri := by
  obtain ⟨listed, hkeys, hlisted, hsorted⟩ := harranged.wildcard
  cases hfind : router.wildcard.find? fun e => wildcardMatches host e.1 with
  | none =>
    refine Or.inl ⟨rfl, fun r hr hunder _ => ?_⟩
    obtain ⟨suffix, hhost, hmatch⟩ := underWildcard_iff.mp hunder
    obtain ⟨e, he, -⟩ := hread.routeEntry hr
    have hmem : e ∈ entriesOf tables.wildcard suffix :=
      (hold.wildcard suffix e).mpr ⟨r, hr, hhost, he⟩
    -- a suffix with an entry is listed, and the search comes to it
    have hkey : suffix ∈ tables.wildcard := by
      by_contra hnot
      rw [entriesOf, AList.lookup_eq_none.mpr hnot] at hmem
      cases hmem
    obtain ⟨e', he', rfl⟩ := List.mem_map.mp (hkeys.mem_iff.mpr (AList.mem_keys.mp hkey))
    exact List.find?_eq_none.mp hfind e' (hsorted.perm.mem_iff.mpr he') hmatch
  | some found =>
    have hmatch : wildcardMatches host found.1 = true := by simpa using List.find?_some hfind
    have hmem := hsorted.perm.mem_iff.mp (List.mem_of_find?_eq_some hfind)
    have hsame : ∀ r : RouteConfig, r.host = "*." ++ found.1 ↔ UnderWildcard r.host host := by
      intro r
      rw [underWildcard_iff]
      refine ⟨fun hhost => ⟨found.1, hhost, hmatch⟩, ?_⟩
      rintro ⟨suffix, hhost, hmatch'⟩
      rwa [suffix_unique hmatch hmatch']
    refine findPath_largest (p := fun r => UnderWildcard r.host host) hread (hlisted found hmem) ?_
    intro e
    simp only [← hsame]
    exact hold.wildcard found.1 e

end Find

lemma find_eq_or (router : Router) (host path : String) :
    router.find host path = (findPath (entriesOf router.exact host) path).or
      ((router.wildcard.find? fun e => wildcardMatches host e.1).bind
        fun e => findPath e.2 path) := by
  rw [find, entriesOf]
  cases router.exact.lookup host with
  | none => rfl
  | some es => rfl

/-- A host that is written as a wildcard is under this wildcard and no other. -/
lemma underWildcard_of_suffix {suffix : String} (hs : wildcardSuffix host = some suffix)
    (r : RouteConfig) : UnderWildcard r.host host ↔ r.host = host := by
  have hhost : host = "*." ++ suffix := wildcardSuffix_eq_some.mp hs
  have hself : wildcardMatches host suffix = true := hhost ▸ wildcardMatches_self suffix
  rw [underWildcard_iff]
  constructor
  · rintro ⟨suffix', hr, hmatch⟩
    rw [hr, suffix_unique hmatch hself, hhost]
  · intro hr
    exact ⟨suffix, hr.trans hhost, hself⟩

/-- A router finds the route of a choice. -/
lemma Built.exists_choice (h : Built parseUri config router)
    (hread : Readable parseUri config.routes) (host path : String) :
    ∃ choice, Choice config.routes host path choice ∧
      router.find host path = choice.bind (RouteConfig.route parseUri) := by
  obtain ⟨tables, htables, harranged⟩ := h
  have hold : tables.Hold parseUri config.routes := tables_hold htables
  have hexact := find_exact hread harranged hold host path
  have hwildcard := find_wildcard hread harranged hold host path
  rw [find_eq_or]
  cases hs : wildcardSuffix host with
  | none =>
    have hsame : ∀ r : RouteConfig, wildcardSuffix r.host = none ∧ r.host = host ↔
        r.host = host := by
      intro r
      refine and_iff_right_of_imp fun hr => ?_
      rw [hr, hs]
    simp only [hsame] at hexact
    rcases hexact with ⟨hnone, hno⟩ | ⟨r, hr, hfound⟩
    · rw [hnone, Option.none_or]
      rcases hwildcard with ⟨hnone, hno'⟩ | ⟨r, hr, hfound⟩
      · refine ⟨none, fun r hr hhost => ?_, hnone⟩
        exact hhost.elim (hno r hr) (hno' r hr)
      · exact ⟨some r, Or.inr ⟨hno, hr⟩, hfound⟩
    · refine ⟨some r, Or.inl hr, ?_⟩
      obtain ⟨e, -, -, hroute⟩ := hread.routeEntry hr.mem
      rw [hfound, hroute, Option.some_or, Option.bind_some, hroute]
  | some suffix =>
    -- the table of the hosts has no such host, and the wildcards that match it are itself
    have hempty : findPath (entriesOf router.exact host) path = none := by
      rcases hexact with ⟨hnone, -⟩ | ⟨r, hr, -⟩
      · exact hnone
      · obtain ⟨⟨hplain, hhost⟩, -⟩ := hr.hit
        rw [hhost, hs] at hplain
        cases hplain
    rw [WildcardChoice] at hwildcard
    simp only [underWildcard_of_suffix hs] at hwildcard
    rw [hempty, Option.none_or]
    rcases hwildcard with ⟨hnone, hno⟩ | ⟨r, hr, hfound⟩
    · refine ⟨none, fun r hr hhost => ?_, hnone⟩
      exact hno r hr (hhost.elim id (underWildcard_of_suffix hs r).mp)
    · exact ⟨some r, Or.inl hr, hfound⟩

/-- A path with a route begins with a slash, as all prefixes do. -/
lemma Built.path_ne_empty {raw : ProxyConfig} {route : Route}
    (h : raw.validate parseUri = .ok config) (hbuilt : Built parseUri config router)
    (hfind : router.find host path = some route) : path ≠ "" := by
  obtain ⟨-, hread, hpre⟩ := ProxyConfig.canonical h
  obtain ⟨choice, hchoice, hroute⟩ := hbuilt.exists_choice hread host path
  rw [hfind] at hroute
  cases choice with
  | none => cases hroute
  | some r =>
    obtain ⟨hr, hcovers⟩ : r ∈ config.routes ∧ Covers r.pathPrefix path :=
      hchoice.elim (fun hr => ⟨hr.mem, hr.hit.2⟩) fun hr => ⟨hr.2.mem, hr.2.hit.2⟩
    obtain ⟨rest, hrest⟩ := hcovers.exists_rest
    obtain ⟨tail, htail⟩ := startsWith_slash_iff.mp (hpre r hr)
    rintro rfl
    have hlist := congrArg String.toList hrest
    rw [htail] at hlist
    simp [String.toList_append] at hlist

end Router

/-! ## The choice is unique -/

section Unique

variable {routes routes' : List RouteConfig} {host path : String}
  {choice choice' : Option RouteConfig}

lemma Choice.perm (h : Choice routes host path choice) (hperm : routes.Perm routes') :
    Choice routes' host path choice := by
  cases choice with
  | none => exact fun r hr => h r (hperm.mem_iff.mpr hr)
  | some r =>
    refine Or.imp (fun hr => hr.perm hperm) (fun hr => ?_) h
    exact ⟨fun r' hr' => hr.1 r' (hperm.mem_iff.mpr hr'), hr.2.perm hperm⟩

/-- Routes with one host that cover a path differ in the size of their prefixes. -/
lemma eq_of_size (hkeys : (routes.map fun r => (r.host, r.pathPrefix)).Nodup) {r r' : RouteConfig}
    (hr : r ∈ routes) (hr' : r' ∈ routes) (hhost : r.host = r'.host)
    (hcovers : Covers r.pathPrefix path) (hcovers' : Covers r'.pathPrefix path)
    (hsize : r.size = r'.size) : r = r' :=
  List.inj_on_of_nodup_map hkeys hr hr' (Prod.ext hhost (hcovers.eq_of_size hcovers' hsize))

lemma UnderWildcard.unique {wildcard wildcard' : String} (h : UnderWildcard wildcard host)
    (h' : UnderWildcard wildcard' host) : wildcard = wildcard' := by
  obtain ⟨suffix, rfl, hmatch⟩ := underWildcard_iff.mp h
  obtain ⟨suffix', rfl, hmatch'⟩ := underWildcard_iff.mp h'
  rw [suffix_unique hmatch hmatch']

/-- A request has one choice, as no two routes have the same host and prefix. -/
lemma Choice.unique (hkeys : (routes.map fun r => (r.host, r.pathPrefix)).Nodup)
    (h : Choice routes host path choice) (h' : Choice routes host path choice') :
    choice = choice' := by
  rcases choice with _ | r <;> rcases choice' with _ | r'
  · rfl
  · -- where nothing covers the path, no route is chosen
    rcases h' with hr' | ⟨-, hr'⟩
    · exact absurd hr'.hit.2 (h r' hr'.mem (Or.inl hr'.hit.1))
    · exact absurd hr'.hit.2 (h r' hr'.mem (Or.inr hr'.hit.1))
  · rcases h with hr | ⟨-, hr⟩
    · exact absurd hr.hit.2 (h' r hr.mem (Or.inl hr.hit.1))
    · exact absurd hr.hit.2 (h' r hr.mem (Or.inr hr.hit.1))
  · refine congrArg some ?_
    rcases h with hr | ⟨hno, hr⟩ <;> rcases h' with hr' | ⟨hno', hr'⟩
    · exact hr.unique hr' fun a ha b hb hpa hpb hsize =>
        eq_of_size hkeys ha hb (hpa.1.trans hpb.1.symm) hpa.2 hpb.2 hsize
    · exact absurd hr.hit.2 (hno' r hr.mem hr.hit.1)
    · exact absurd hr'.hit.2 (hno r' hr'.mem hr'.hit.1)
    · exact hr.unique hr' fun a ha b hb hpa hpb hsize =>
        eq_of_size hkeys ha hb (hpa.1.unique hpb.1) hpa.2 hpb.2 hsize

end Unique

/-- **The router chooses by the longest prefix, the host before its wildcards.**  For a validated
configuration every request has exactly one choice, and the router finds it; and so does every
router that can be built from the same routes in any order. -/
theorem Router.find_eq_choice (parseUri : String → Option Uri) (raw config : ProxyConfig)
    (h : raw.validate parseUri = .ok config) (host path : String) :
    ∃ choice, (∀ other, Choice config.routes host path other ↔ other = choice) ∧
      (choice.bind (RouteConfig.route parseUri)).isSome = choice.isSome ∧
      ∀ config' : ProxyConfig, config'.routes.Perm config.routes →
        (∃ router, Router.new parseUri config' = .ok router ∧ Built parseUri config' router) ∧
        ∀ router, Built parseUri config' router →
          router.find host path = choice.bind (RouteConfig.route parseUri) := by
  obtain ⟨hcanonical, hread, -⟩ := ProxyConfig.canonical h
  have hunique : ∀ {choice choice'}, Choice config.routes host path choice →
      Choice config.routes host path choice' → choice = choice' :=
    Choice.unique hcanonical.keys_nodup
  obtain ⟨router, hrouter⟩ := Router.exists_new hread
  obtain ⟨choice, hchoice, -⟩ := (new_built hrouter).exists_choice hread host path
  refine ⟨choice, fun other => ⟨fun hother => hunique hother hchoice, fun heq => heq ▸ hchoice⟩, ?_,
    fun config' hperm => ?_⟩
  · cases choice with
    | none => rfl
    | some r =>
      have hr : r ∈ config.routes := hchoice.elim (·.mem) (·.2.mem)
      obtain ⟨e, -, -, hroute⟩ := Readable.routeEntry hread hr
      rw [Option.bind_some, hroute]
      rfl
  · have hread' : Readable parseUri config'.routes := fun r hr => hread r (hperm.mem_iff.mp hr)
    obtain ⟨router', hrouter'⟩ := Router.exists_new hread'
    refine ⟨⟨router', hrouter', new_built hrouter'⟩, fun router hbuilt => ?_⟩
    obtain ⟨choice', hchoice', hfind⟩ := hbuilt.exists_choice hread' host path
    rw [hfind, hunique (hchoice'.perm hperm) hchoice]

/-- The reference choice of a request under the wildcard of the example. -/
theorem wildcard_route_chosen :
    ∃ choice, Choice CertificateManager.wildcardRouteConfig.routes "b.example.com" "/" choice ∧
      choice.bind (RouteConfig.route CertificateManager.parseLocalhost) =
        some CertificateManager.siteRoute := by
  have hvalid : CertificateManager.wildcardRouteConfig.validate CertificateManager.parseLocalhost =
      .ok CertificateManager.wildcardRouteConfig := by decide +kernel
  obtain ⟨choice, hchoice, -, hfind⟩ :=
    Router.find_eq_choice CertificateManager.parseLocalhost _ _ hvalid "b.example.com" "/"
  obtain ⟨router, hrouter, -, hsite⟩ := CertificateManager.find_wildcardRouteConfig
  refine ⟨choice, (hchoice choice).mpr rfl, ?_⟩
  rw [← (hfind _ (List.Perm.refl _)).2 router (Router.new_built hrouter), hsite]

end GateRust.Proxy
