/-
# Routes and their certificates

`Router::find` chooses the route of a request from its host and path, and `resolver_for` chooses
the certificate of a connection from its server name.  The two are built from one configuration but
never meet: that the certificate of a route is the one a connection gets is left to the check that
`validate` makes on the host of the route.  The check and the choice follow the same rule, an exact
name before a wildcard; but the host of the route may be a wildcard, and then the rule is applied
to the pattern in one place and to a concrete host in the other.
-/
import Mathlib.Data.List.Sort
import GateRust.Proxy.ServedNames

namespace GateRust.Proxy

open Machine
open CertificateResolver (wildcardSuffix wildcardSuffix_eq_some)

/-! ## The router -/

structure Route where
  name : String
  upstream : Uri
  tls : Bool
deriving DecidableEq, Repr

structure RouteEntry where
  pathPrefix : String
  route : Route
deriving DecidableEq, Repr

/-- The routes by host, those of a wildcard by what follows `*.`. -/
structure Router where
  exact : HashMap String (List RouteEntry)
  wildcard : List (String × List RouteEntry)

def routeEntry (parseUri : String → Option Uri) (config : RouteConfig) :
    Except ProxyError RouteEntry :=
  match parseUri config.upstream with
  | none => .error (.invalidConfig s!"上游 URI 无效: {config.upstream}")
  | some upstream =>
    .ok ⟨config.pathPrefix, config.name, upstream, config.certificateId.isSome⟩

/-- The path is the prefix, or goes on after it at a `/`. -/
def pathMatches (path pathPrefix : String) : Bool :=
  path = pathPrefix || (pathPrefix.toList.isPrefixOf? path.toList).any fun rest =>
    pathPrefix.toList.getLast? = some '/' || rest.head? = some '/'

def findPath (entries : List RouteEntry) (path : String) : Option Route :=
  (entries.find? fun entry => pathMatches path entry.pathPrefix).map (·.route)

namespace Router

/-- `entry(host).or_default().push(entry)`. -/
def push (entries : HashMap String (List RouteEntry)) (host : String) (entry : RouteEntry) :
    HashMap String (List RouteEntry) :=
  entries.insert host ((entries.lookup host).getD [] ++ [entry])

/-- The two tables while the routes are read. -/
structure Tables where
  exact : HashMap String (List RouteEntry)
  wildcard : HashMap String (List RouteEntry)

def addRoute (parseUri : String → Option Uri) (tables : Tables) (config : RouteConfig) :
    Except ProxyError Tables := do
  let entry ← routeEntry parseUri config
  match wildcardSuffix config.host with
  | some suffix => return { tables with wildcard := push tables.wildcard suffix entry }
  | none => return { tables with exact := push tables.exact config.host entry }

/-- The longest path prefix comes first. -/
def sortEntries (entries : List RouteEntry) : List RouteEntry :=
  entries.insertionSort fun left right =>
    right.pathPrefix.utf8ByteSize ≤ left.pathPrefix.utf8ByteSize

def new (parseUri : String → Option Uri) (config : ProxyConfig) : Except ProxyError Router := do
  let tables ← config.routes.foldlM (addRoute parseUri) ⟨∅, ∅⟩
  let wildcard := (tables.wildcard.mapValues sortEntries).entries.map fun e => (e.1, e.2)
  return ⟨tables.exact.mapValues sortEntries,
    wildcard.insertionSort fun left right => right.1.utf8ByteSize ≤ left.1.utf8ByteSize⟩

/-- The routes of the host itself come before those of a wildcard. -/
def find (r : Router) (host path : String) : Option Route :=
  ((r.exact.lookup host).bind fun entries => findPath entries path).or
    ((r.wildcard.find? fun e => wildcardMatches host e.1).bind fun e => findPath e.2 path)

/-! ## Where a route comes from -/

section Find

variable {parseUri : String → Option Uri} {config : ProxyConfig} {router : Router}
  {host path : String} {route : Route}

/-- The entries under a host come from the routes for which `p` holds of the host. -/
def ComeFrom (routes : List RouteConfig) (p : RouteConfig → String → Prop)
    (entries : HashMap String (List RouteEntry)) : Prop :=
  ∀ host es, entries.lookup host = some es → ∀ e ∈ es,
    ∃ r ∈ routes, p r host ∧ r.name = e.route.name

section ComeFrom

variable {routes routes' : List RouteConfig} {p : RouteConfig → String → Prop}
  {entries : HashMap String (List RouteEntry)}

lemma ComeFrom.mono (h : ComeFrom routes p entries) (hsub : routes ⊆ routes') :
    ComeFrom routes' p entries := by
  intro host es hes e he
  obtain ⟨r, hr, hp⟩ := h host es hes e he
  exact ⟨r, hsub hr, hp⟩

lemma ComeFrom.push (h : ComeFrom routes p entries) {r : RouteConfig} {entry : RouteEntry}
    (hr : r ∈ routes) (hp : p r host) (hname : r.name = entry.route.name) :
    ComeFrom routes p (Router.push entries host entry) := by
  intro host' es hes e he
  rw [Router.push, AList.lookup_insert_eq] at hes
  split_ifs at hes with heq
  · cases hes
    subst heq
    rcases List.mem_append.mp he with he | he
    · cases hold : entries.lookup host' with
      | none => simp [hold] at he
      | some old =>
        rw [hold] at he
        exact h host' old hold e he
    · rw [List.mem_singleton.mp he]
      exact ⟨r, hr, hp, hname⟩
  · exact h host' es hes e he

lemma ComeFrom.sortEntries (h : ComeFrom routes p entries) :
    ComeFrom routes p (entries.mapValues Router.sortEntries) := by
  intro host es hes e he
  rw [AList.lookup_mapValues] at hes
  obtain ⟨es', hes', rfl⟩ := Option.map_eq_some_iff.mp hes
  exact h host es' hes' e ((List.perm_insertionSort _ es').mem_iff.mp he)

end ComeFrom

lemma routeEntry_ok {r : RouteConfig} {entry : RouteEntry}
    (h : routeEntry parseUri r = .ok entry) : r.name = entry.route.name := by
  unfold routeEntry at h
  split at h
  · cases h
  · cases h
    rfl

/-- The tables hold routes of the configuration, each under its host. -/
lemma tables_comeFrom {routes : List RouteConfig} {tables : Tables}
    (h : routes.foldlM (addRoute parseUri) ⟨∅, ∅⟩ = .ok tables) :
    ComeFrom routes (fun r host => r.host = host) tables.exact ∧
      ComeFrom routes (fun r suffix => r.host = "*." ++ suffix) tables.wildcard := by
  refine Except.foldlM_invariant (I := fun done (tables : Tables) =>
    ComeFrom done (fun r host => r.host = host) tables.exact ∧
      ComeFrom done (fun r suffix => r.host = "*." ++ suffix) tables.wildcard) h
    ⟨by simp [ComeFrom], by simp [ComeFrom]⟩ ?_
  rintro done r tables tables' ⟨hexact, hwildcard⟩ hadd
  obtain ⟨entry, hentry, hadd⟩ := Except.exists_ok_of_bind hadd
  have hname := routeEntry_ok hentry
  have hsub : done ⊆ done ++ [r] := List.subset_append_left _ _
  have hr : r ∈ done ++ [r] := by simp
  cases hs : wildcardSuffix r.host with
  | some suffix =>
    simp only [hs] at hadd
    cases hadd
    exact ⟨hexact.mono hsub, (hwildcard.mono hsub).push hr (wildcardSuffix_eq_some.mp hs) hname⟩
  | none =>
    simp only [hs] at hadd
    cases hadd
    exact ⟨(hexact.mono hsub).push hr rfl hname, hwildcard.mono hsub⟩

lemma mem_of_findPath {entries : List RouteEntry} (h : findPath entries path = some route) :
    ∃ e ∈ entries, e.route = route := by
  obtain ⟨e, he, rfl⟩ := Option.map_eq_some_iff.mp h
  exact ⟨e, List.mem_of_find?_eq_some he, rfl⟩

/-- The route that is found is one of the host, or of a wildcard that matches the host. -/
lemma find_comeFrom (hrouter : new parseUri config = .ok router)
    (hfind : router.find host path = some route) :
    ∃ r ∈ config.routes, r.name = route.name ∧
      (r.host = host ∨ ∃ suffix, r.host = "*." ++ suffix ∧ wildcardMatches host suffix = true) := by
  obtain ⟨tables, htables, hrouter⟩ := Except.exists_ok_of_bind hrouter
  cases hrouter
  obtain ⟨hexact, hwildcard⟩ := tables_comeFrom htables
  rcases Option.or_eq_some_iff.mp hfind with hfound | ⟨-, hfound⟩
  · obtain ⟨entries, hentries, hpath⟩ := Option.bind_eq_some_iff.mp hfound
    obtain ⟨e, he, rfl⟩ := mem_of_findPath hpath
    obtain ⟨r, hr, hhost, hname⟩ := hexact.sortEntries host entries hentries e he
    exact ⟨r, hr, hname, Or.inl hhost⟩
  · obtain ⟨⟨suffix, entries⟩, hentries, hpath⟩ := Option.bind_eq_some_iff.mp hfound
    obtain ⟨e, he, rfl⟩ := mem_of_findPath hpath
    have hmatch : wildcardMatches host suffix = true := by simpa using List.find?_some hentries
    have hmem := (List.perm_insertionSort _ _).mem_iff.mp (List.mem_of_find?_eq_some hentries)
    obtain ⟨e', hentry, heq⟩ := List.mem_map.mp hmem
    obtain ⟨rfl, rfl⟩ := Prod.mk.inj heq
    obtain ⟨r, hr, hhost, hname⟩ := hwildcard.sortEntries e'.1 e'.2
      (AList.lookup_eq_some_iff.mpr hentry) e he
    exact ⟨r, hr, hname, Or.inr ⟨e'.1, hhost, hmatch⟩⟩

end Find

end Router

/-! ## The owner of a host -/

/-- The host is one label, a dot and the suffix. -/
lemma wildcardMatches_iff {host suffix : String} :
    wildcardMatches host suffix = true ↔
      ∃ label, host.toList = label ++ '.' :: suffix.toList ∧ '.' ∉ label := by
  unfold wildcardMatches
  rw [Option.any_eq_true]
  constructor
  · rintro ⟨front, hfront, hlabel⟩
    rw [List.isSuffixOf?_eq_some_iff_append_eq] at hfront
    simp only [Bool.and_eq_true, decide_eq_true_eq] at hlabel
    obtain ⟨hdot, hlabel⟩ := hlabel
    refine ⟨front.dropLast, ?_, hlabel⟩
    rw [← hfront, ← List.singleton_append, ← List.append_assoc,
      List.dropLast_append_getLast? '.' hdot]
  · rintro ⟨label, hhost, hlabel⟩
    refine ⟨label ++ ['.'], ?_, ?_⟩
    · rw [List.isSuffixOf?_eq_some_iff_append_eq, hhost, List.append_assoc, List.singleton_append]
    · simpa using hlabel

/-- What follows the first dot is decided by the whole. -/
lemma rest_of_label {label label' rest rest' : List Char} (hlabel : '.' ∉ label)
    (hlabel' : '.' ∉ label') (h : label ++ '.' :: rest = label' ++ '.' :: rest') :
    rest = rest' := by
  rcases List.append_eq_append_iff.mp h with ⟨mid, hmid, hrest⟩ | ⟨mid, hmid, hrest⟩
  · cases mid with
    | nil => exact (List.cons.inj hrest).2
    | cons c mid =>
      rw [hmid, ← (List.cons.inj hrest).1] at hlabel'
      simp at hlabel'
  · cases mid with
    | nil => exact (List.cons.inj hrest).2.symm
    | cons c mid =>
      rw [hmid, ← (List.cons.inj hrest).1] at hlabel
      simp at hlabel

/-- A host is matched by one wildcard only. -/
lemma suffix_unique {host suffix suffix' : String} (h : wildcardMatches host suffix = true)
    (h' : wildcardMatches host suffix' = true) : suffix = suffix' := by
  obtain ⟨label, hhost, hlabel⟩ := wildcardMatches_iff.mp h
  obtain ⟨label', hhost', hlabel'⟩ := wildcardMatches_iff.mp h'
  rw [hhost] at hhost'
  exact String.toList_inj.mp (rest_of_label hlabel hlabel' hhost')

lemma wildcardMatches_self (suffix : String) :
    wildcardMatches ("*." ++ suffix) suffix = true :=
  wildcardMatches_iff.mpr ⟨['*'], by rw [String.toList_append]; rfl, by decide⟩

/-- A certificate with the given ID lists the domain. -/
def Lists (certificates : List CertificateConfig) (domain owner : String) : Prop :=
  ∃ c ∈ certificates, c.id = owner ∧ domain ∈ c.domains

/-- The certificate that a host gets: the one that lists the host, or else the one with a wildcard
for it. -/
def Owns (certificates : List CertificateConfig) (host owner : String) : Prop :=
  Lists certificates host owner ∨ (∀ other, ¬ Lists certificates host other) ∧
    ∃ suffix, wildcardMatches host suffix = true ∧ Lists certificates ("*." ++ suffix) owner

/-- Where `g` is the same on all elements, any choice of an element gives its value. -/
lemma map_argmax_eq_some {α β : Type} {l : List α} {f : α → ℕ} {g : α → β} {b : β}
    (hconst : ∀ x ∈ l, ∀ y ∈ l, g x = g y) :
    (l.argmax f).map g = some b ↔ ∃ x ∈ l, g x = b := by
  constructor
  · intro h
    obtain ⟨x, hx, rfl⟩ := Option.map_eq_some_iff.mp h
    exact ⟨x, List.argmax_mem hx, rfl⟩
  · rintro ⟨x, hx, rfl⟩
    cases hmax : l.argmax f with
    | none =>
      rw [List.argmax_eq_none.mp hmax] at hx
      cases hx
    | some y => exact congrArg some (hconst y (List.argmax_mem hmax) x hx)

section Owner

variable {certificates : List CertificateConfig} {host owner : String}

/-- The check of `validate` finds the certificate that the host gets. -/
lemma certificateForHost_iff {owners : HashMap String String}
    (howners : OwnersOf certificates owners) :
    certificateForHost owners host = some owner ↔ Owns certificates host owner := by
  have hfree : owners.lookup host = none ↔ ∀ other, ¬ Lists certificates host other := by
    rw [Option.eq_none_iff_forall_ne_some]
    exact forall_congr' fun other => not_congr (howners host other)
  have hmem : ∀ x, x ∈ (owners.entries.filterMap fun e =>
      (wildcardSuffix e.1).bind fun suffix =>
        if wildcardMatches host suffix then some (suffix.utf8ByteSize, e.2) else none) ↔
      ∃ suffix, wildcardMatches host suffix = true ∧
        owners.lookup ("*." ++ suffix) = some x.2 ∧ suffix.utf8ByteSize = x.1 := by
    rintro ⟨size, owner⟩
    simp only [List.mem_filterMap, Option.bind_eq_some_iff, Option.ite_none_right_eq_some,
      wildcardSuffix_eq_some, AList.lookup_eq_some_iff]
    constructor
    · rintro ⟨⟨domain, owner'⟩, he, suffix, rfl, hmatch, heq⟩
      cases heq
      exact ⟨suffix, hmatch, he, rfl⟩
    · rintro ⟨suffix, hmatch, he, rfl⟩
      exact ⟨⟨"*." ++ suffix, owner⟩, he, suffix, rfl, hmatch, rfl⟩
  rw [certificateForHost, Option.or_eq_some_iff, hfree, map_argmax_eq_some]
  · refine or_congr (howners host owner) (and_congr_right fun _ => ⟨?_, ?_⟩)
    · rintro ⟨x, hx, rfl⟩
      obtain ⟨suffix, hmatch, hlookup, -⟩ := (hmem x).mp hx
      exact ⟨suffix, hmatch, (howners _ _).mp hlookup⟩
    · rintro ⟨suffix, hmatch, hlists⟩
      exact ⟨(suffix.utf8ByteSize, owner),
        (hmem _).mpr ⟨suffix, hmatch, (howners _ _).mpr hlists, rfl⟩, rfl⟩
  · intro x hx y hy
    obtain ⟨suffix, hmatch, hlookup, -⟩ := (hmem x).mp hx
    obtain ⟨suffix', hmatch', hlookup', -⟩ := (hmem y).mp hy
    rw [suffix_unique hmatch hmatch', hlookup'] at hlookup
    exact (Option.some.inj hlookup).symm

namespace CertificateManager

variable {s : Served}

lemma Serves.wildcard_part (h : Serves certificates s) :
    ((s.resolver.wildcard.entries.filter fun e => wildcardMatches host e.1).argmax
      fun e => e.1.utf8ByteSize).map (fun e => e.2.owner) = some owner ↔
      ∃ suffix, wildcardMatches host suffix = true ∧
        Lists certificates ("*." ++ suffix) owner := by
  have hlists : ∀ suffix, Lists certificates ("*." ++ suffix) owner ↔
      ∃ entry, s.resolver.wildcard.lookup suffix = some entry ∧ entry.owner = owner := by
    intro suffix
    rw [← Option.map_eq_some_iff, h.wildcard_owner]
    exact exists_congr fun c => and_congr_right fun _ => and_comm
  rw [map_argmax_eq_some]
  · simp only [List.mem_filter, hlists, AList.lookup_eq_some_iff]
    constructor
    · rintro ⟨e, ⟨he, hmatch⟩, howner⟩
      exact ⟨e.1, hmatch, e.2, he, howner⟩
    · rintro ⟨suffix, hmatch, entry, he, howner⟩
      exact ⟨⟨suffix, entry⟩, ⟨he, hmatch⟩, howner⟩
  · rintro ⟨suffix, entry⟩ he ⟨suffix', entry'⟩ he'
    rw [List.mem_filter, ← AList.lookup_eq_some_iff] at he he'
    obtain ⟨hlookup, hmatch⟩ := he
    obtain ⟨hlookup', hmatch'⟩ := he'
    simp only at hmatch hmatch'
    rw [suffix_unique hmatch hmatch', hlookup'] at hlookup
    rw [Option.some.inj hlookup]

/-- A connection gets an entry of the certificate that the host gets. -/
lemma Serves.resolverFor_iff (h : Serves certificates s) :
    (s.resolver.resolverFor host).map (·.owner) = some owner ↔ Owns certificates host owner := by
  have hexact : ∀ other, (s.resolver.exact.lookup host).map (·.owner) = some other ↔
      wildcardSuffix host = none ∧ Lists certificates host other := by
    intro other
    rw [h.exact_owner]
    exact and_congr_right fun _ => exists_congr fun c => and_congr_right fun _ => and_comm
  rw [CertificateResolver.resolverFor, Option.map_or, Option.map_map, Option.or_eq_some_iff,
    Option.eq_none_iff_forall_ne_some]
  refine (or_congr (hexact owner) (and_congr (forall_congr' fun other =>
    not_congr (hexact other)) h.wildcard_part)).trans ?_
  unfold Owns
  cases hs : wildcardSuffix host with
  | none => simp
  | some suffix =>
    -- such a host is a wildcard itself, and no other wildcard matches it
    have hhost : host = "*." ++ suffix := wildcardSuffix_eq_some.mp hs
    have hself : wildcardMatches host suffix = true := hhost ▸ wildcardMatches_self suffix
    simp only [reduceCtorEq, false_and, not_false_eq_true, implies_true, true_and, false_or]
    constructor
    · rintro ⟨suffix', hmatch, hlists⟩
      rw [suffix_unique hmatch hself, ← hhost] at hlists
      exact Or.inl hlists
    · rintro (hlists | ⟨-, hwildcard⟩)
      · exact ⟨suffix, hself, hhost ▸ hlists⟩
      · exact hwildcard

end CertificateManager

/-- The check of a wildcard route finds the certificate that lists the wildcard. -/
lemma Owns.lists_of_wildcard {suffix : String} (h : Owns certificates ("*." ++ suffix) owner) :
    Lists certificates ("*." ++ suffix) owner := by
  rcases h with hlists | ⟨hfree, suffix', hmatch, hlists⟩
  · exact hlists
  · rw [suffix_unique hmatch (wildcardMatches_self suffix)] at hlists
    exact absurd hlists (hfree owner)

end Owner

/-! ## The certificate of a route and the one of a connection -/

/-- The certificate of a route is the one of the hosts that the route is found for, except for a
host under a wildcard that another certificate lists. -/
lemma owns_of_find {parseUri : String → Option Uri} {config : ProxyConfig} {router : Router}
    {r : RouteConfig} {c host path : String} {route : Route} (hregular : config.Regular)
    (hrouter : Router.new parseUri config = .ok router) (hr : r ∈ config.routes)
    (hc : r.certificateId = some c) (hfind : router.find host path = some route)
    (hname : route.name = r.name)
    (honly : wildcardSuffix r.host = none ∨
      ∀ certificate ∈ config.certificates, host ∈ certificate.domains → certificate.id = c) :
    Owns config.certificates host c := by
  obtain ⟨owners, howners, hbound⟩ := hregular.bound
  have howns : Owns config.certificates r.host c :=
    (certificateForHost_iff howners).mp (hbound r hr c hc)
  obtain ⟨r', hr', hname', hhost⟩ := Router.find_comeFrom hrouter hfind
  have hsame : r' = r := List.inj_on_of_nodup_map hregular.names hr' hr (hname'.trans hname)
  rw [hsame] at hhost
  rcases hhost with rfl | ⟨suffix, hhost, hmatch⟩
  · exact howns
  · have hsuffix : wildcardSuffix r.host = some suffix := wildcardSuffix_eq_some.mpr hhost
    rw [hhost] at howns
    by_cases hlisted : ∃ other, Lists config.certificates host other
    · obtain ⟨other, certificate, hcertificate, -, hd⟩ := hlisted
      rcases honly with hnone | honly
      · rw [hsuffix] at hnone
        cases hnone
      · exact Or.inl ⟨certificate, hcertificate, honly certificate hcertificate hd, hd⟩
    · exact Or.inr ⟨not_exists.mp hlisted, suffix, hmatch, howns.lists_of_wildcard⟩

namespace CertificateManager

variable {lib : Libraries} {m : CertificateManager}

/-- **A connection gets the certificate of its route, unless another one lists the host itself.**
For a route of a validated configuration with a certificate and a host for which the router finds
the route, the TLS listener selects an entry.  It belongs to the certificate of the route whenever
the host of the route is no wildcard, and whenever no other certificate lists the host; a
certificate that lists the host comes first. -/
theorem connection_gets_certificate_of_route {parseUri : String → Option Uri}
    {config : ProxyConfig} {router : Router} {r : RouteConfig} {c host path : String}
    {route : Route} (h : Reach (step lib) (Validated parseUri) new m)
    (hconfig : m.config = some config) (hrouter : Router.new parseUri config = .ok router)
    (hr : r ∈ config.routes) (hc : r.certificateId = some c)
    (hfind : router.find host path = some route) (hname : route.name = r.name) :
    ∃ entry, m.resolver.resolverFor host = some entry ∧
      (wildcardSuffix r.host = none → entry.owner = c) ∧
      ((∀ certificate ∈ config.certificates, host ∈ certificate.domains → certificate.id = c) →
        entry.owner = c) ∧
      ∀ certificate ∈ config.certificates, host ∈ certificate.domains →
        entry.owner = certificate.id := by
  obtain ⟨hregular, hserves⟩ := namesServed_of_reach h
  rw [hconfig] at hserves
  have hserves : Serves config.certificates m.served := hserves
  have howns : _ → Owns config.certificates host c :=
    owns_of_find (hregular config hconfig) hrouter hr hc hfind hname
  have hlists : ∀ certificate ∈ config.certificates, host ∈ certificate.domains →
      Owns config.certificates host certificate.id :=
    fun certificate hcertificate hd => Or.inl ⟨certificate, hcertificate, rfl, hd⟩
  obtain ⟨owner, howner⟩ : ∃ owner, Owns config.certificates host owner := by
    by_cases hlisted : ∃ certificate ∈ config.certificates, host ∈ certificate.domains
    · obtain ⟨certificate, hcertificate, hd⟩ := hlisted
      exact ⟨certificate.id, hlists certificate hcertificate hd⟩
    · exact ⟨c, howns (Or.inr fun certificate hcertificate hd =>
        absurd ⟨certificate, hcertificate, hd⟩ hlisted)⟩
  -- the entry that the listener selects tells the owner
  obtain ⟨entry, hentry, rfl⟩ := Option.map_eq_some_iff.mp (hserves.resolverFor_iff.mpr howner)
  have hunique : ∀ other, Owns config.certificates host other → entry.owner = other :=
    fun other ho => Option.some.inj ((hserves.resolverFor_iff.mpr howner).symm.trans
      (hserves.resolverFor_iff.mpr ho))
  exact ⟨entry, hentry, fun hnone => hunique c (howns (Or.inl hnone)),
    fun honly => hunique c (howns (Or.inr honly)),
    fun certificate hcertificate hd => hunique _ (hlists certificate hcertificate hd)⟩

/-- The URI of the upstream server of the example. -/
def localhostUri : Uri :=
  { schemeStr := some "http", authority := some "127.0.0.1:3000", query := none }

def parseLocalhost (value : String) : Option Uri :=
  if value = "http://127.0.0.1:3000" then some localhostUri else none

/-- All hosts under `example.com` have a route with the certificate `first`, and one of them has a
certificate of its own. -/
def wildcardRouteConfig : ProxyConfig :=
  { pairConfig ["*.example.com"] ["a.example.com"] with
    routes := [⟨"site", "*.example.com", "/", "http://127.0.0.1:3000", some "first"⟩] }

def siteRoute : Route := ⟨"site", localhostUri, true⟩

lemma wildcardRouteConfig_validated : wildcardRouteConfig.Validated parseLocalhost :=
  ⟨wildcardRouteConfig, by decide +kernel⟩

/-- The router is built, and finds the route for both hosts. -/
lemma find_wildcardRouteConfig :
    ∃ router, Router.new parseLocalhost wildcardRouteConfig = .ok router ∧
      router.find "a.example.com" "/" = some siteRoute ∧
      router.find "b.example.com" "/" = some siteRoute := by
  have hfind : (Router.new parseLocalhost wildcardRouteConfig).toOption.map (fun router =>
      (router.find "a.example.com" "/", router.find "b.example.com" "/")) =
      some (some siteRoute, some siteRoute) := by decide +kernel
  cases hrouter : Router.new parseLocalhost wildcardRouteConfig with
  | error error =>
    rw [hrouter] at hfind
    cases hfind
  | ok router =>
    rw [hrouter] at hfind
    exact ⟨router, rfl, Prod.mk.inj (Option.some.inj hfind)⟩

/-- The host with a certificate of its own does not get the one of its route. -/
theorem host_gets_its_own_certificate :
    ¬ ∀ m router route r c host path, Reach (step noCertificates) (Validated parseLocalhost) new m →
      m.config = some wildcardRouteConfig →
      Router.new parseLocalhost wildcardRouteConfig = .ok router →
      r ∈ wildcardRouteConfig.routes → r.certificateId = some c →
      router.find host path = some route → route.name = r.name →
      ∃ entry, m.resolver.resolverFor host = some entry ∧ entry.owner = c := by
  intro hall
  have hreach : Reach (step noCertificates) (Validated parseLocalhost) new
      (new.applyConfig noCertificates emptyDisk 0 wildcardRouteConfig) :=
    Reach.init.next (e := .apply _ emptyDisk 0) wildcardRouteConfig_validated rfl
  obtain ⟨router, hrouter, hfind, -⟩ := find_wildcardRouteConfig
  obtain ⟨entry, hentry, howner⟩ := hall _ router siteRoute
    ⟨"site", "*.example.com", "/", "http://127.0.0.1:3000", some "first"⟩ "first" "a.example.com"
    "/" hreach (by decide +kernel) hrouter (by decide +kernel) rfl hfind rfl
  have hsecond : ((new.applyConfig noCertificates emptyDisk 0
      wildcardRouteConfig).resolver.resolverFor "a.example.com").map (·.owner) = some "second" := by
    decide +kernel
  rw [hentry, Option.map_some, howner] at hsecond
  exact absurd hsecond (by decide)

/-- The other hosts do. -/
theorem other_host_gets_certificate_of_route :
    ∃ entry, (new.applyConfig noCertificates emptyDisk 0
        wildcardRouteConfig).resolver.resolverFor "b.example.com" = some entry ∧
      entry.owner = "first" := by
  have hreach : Reach (step noCertificates) (Validated parseLocalhost) new
      (new.applyConfig noCertificates emptyDisk 0 wildcardRouteConfig) :=
    Reach.init.next (e := .apply _ emptyDisk 0) wildcardRouteConfig_validated rfl
  obtain ⟨router, hrouter, -, hfind⟩ := find_wildcardRouteConfig
  obtain ⟨entry, hentry, -, hfirst, -⟩ := connection_gets_certificate_of_route
    (r := ⟨"site", "*.example.com", "/", "http://127.0.0.1:3000", some "first"⟩) (c := "first")
    hreach (by decide +kernel) hrouter (by decide +kernel) rfl hfind rfl
  exact ⟨entry, hentry, hfirst (by decide +kernel)⟩

end CertificateManager

end GateRust.Proxy
