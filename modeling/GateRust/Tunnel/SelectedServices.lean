/-
# What a selection of tunnels becomes

`services_for_enable` as a function of the set of names that are wanted: those of the request, and
those of the tunnels that are enabled already.  It succeeds exactly when the catalog can serve
all of them, and then there is one service for each, whatever the request repeats and however
the catalog is ordered.
-/
import Mathlib.Data.Finset.Card
import GateRust.Lib.SplitOnce
import GateRust.Tunnel.ClientRequests
import GateRust.Tunnel.TunnelSelection

namespace GateRust.Tunnel

variable {tunnels : List ClientTunnel} {names : List String} {services : List ClientServiceConfig}
  {tunnel : ClientTunnel}

/-! ## The service of a tunnel -/

/-- A service can be made of the tunnel: nobody else has it, and it has the local port that a TCP
or UDP tunnel needs. -/
structure ClientTunnel.Available (tunnel : ClientTunnel) : Prop where
  free : tunnel.state ≠ .occupied
  port : tunnel.kind ≠ .socks5 → tunnel.localPort.isSome = true

def ClientTunnel.service (tunnel : ClientTunnel) : ClientServiceConfig :=
  ⟨tunnel.name, tunnel.kind, tunnel.localTarget⟩

lemma ClientTunnel.localTarget_isSome :
    tunnel.localTarget.isSome = true ↔ tunnel.kind ≠ .socks5 ∧ tunnel.localPort.isSome = true := by
  unfold localTarget
  split
  case isTrue hkind => simp [hkind]
  case isFalse hkind => simp [hkind]

lemma serviceOf_ok_iff {service : ClientServiceConfig} :
    serviceOf tunnel = .ok service ↔ tunnel.Available ∧ service = tunnel.service := by
  constructor
  · intro h
    unfold serviceOf at h
    split at h
    case isTrue => cases h
    case isFalse hfree =>
      cases hkind : tunnel.kind with
      | socks5 =>
        simp only [hkind, Except.ok.injEq] at h
        refine ⟨⟨hfree, fun hne => absurd hkind hne⟩, ?_⟩
        simp [← h, ClientTunnel.service, ClientTunnel.localTarget, hkind]
      | tcp | udp =>
        simp only [hkind] at h
        split at h
        case h_1 target htarget =>
          cases h
          have hisSome : tunnel.localTarget.isSome = true := by simp [htarget]
          have hsome := ClientTunnel.localTarget_isSome.mp hisSome
          exact ⟨⟨hfree, fun _ => hsome.2⟩, by simp [ClientTunnel.service, htarget, hkind]⟩
        case h_2 => cases h
  · rintro ⟨⟨hfree, hport⟩, rfl⟩
    rw [serviceOf, if_neg hfree, ClientTunnel.service]
    cases hkind : tunnel.kind with
    | socks5 => simp [ClientTunnel.localTarget, hkind]
    | tcp | udp =>
      have hne : tunnel.kind ≠ .socks5 := by simp [hkind]
      obtain ⟨target, htarget⟩ :=
        Option.isSome_iff_exists.mp (ClientTunnel.localTarget_isSome.mpr ⟨hne, hport hne⟩)
      simp [htarget]

lemma mapM_serviceOf_ok_iff {selected : List ClientTunnel} :
    selected.mapM serviceOf = .ok services ↔
      (∀ tunnel ∈ selected, tunnel.Available) ∧ services = selected.map (·.service) :=
  Except.mapM_ok_iff fun _ _ => serviceOf_ok_iff

/-! ## The names that are wanted -/

/-- The names of the request and those of the tunnels that are enabled. -/
def wantedNames (tunnels : List ClientTunnel) (names : List String) : Finset String :=
  names.toFinset ∪ ((tunnels.filter (·.state = .enabled)).map (·.name)).toFinset

/-- The catalog can serve all the names. -/
structure Servable (tunnels : List ClientTunnel) (wanted : Finset String) : Prop where
  nonempty : wanted.Nonempty
  card_le : wanted.card ≤ 256
  offered : ∀ name ∈ wanted, ∃ tunnel ∈ tunnels, tunnel.name = name
  available : ∀ tunnel ∈ tunnels, tunnel.name ∈ wanted → tunnel.Available

/-- The tunnels of the catalog that are wanted. -/
def selectedTunnels (tunnels : List ClientTunnel) (wanted : Finset String) : List ClientTunnel :=
  tunnels.filter fun tunnel => tunnel.name ∈ wanted

lemma mem_selectedTunnels {wanted : Finset String} :
    tunnel ∈ selectedTunnels tunnels wanted ↔ tunnel ∈ tunnels ∧ tunnel.name ∈ wanted := by
  simp [selectedTunnels]

lemma nodup_selectedTunnels (hnodup : (tunnels.map (·.name)).Nodup) (wanted : Finset String) :
    ((selectedTunnels tunnels wanted).map (·.name)).Nodup :=
  hnodup.sublist (List.filter_sublist.map _)

lemma toFinset_selectedTunnels_subset (tunnels : List ClientTunnel) (wanted : Finset String) :
    ((selectedTunnels tunnels wanted).map (·.name)).toFinset ⊆ wanted := by
  intro name hname
  obtain ⟨tunnel, htunnel, rfl⟩ := List.mem_map.mp (List.mem_toFinset.mp hname)
  exact (mem_selectedTunnels.mp htunnel).2

/-- The length of the selection tells whether the catalog offers all the names, since no name is
in the catalog twice. -/
lemma length_selectedTunnels_iff (hnodup : (tunnels.map (·.name)).Nodup) (wanted : Finset String) :
    (selectedTunnels tunnels wanted).length = wanted.card ↔
      ((selectedTunnels tunnels wanted).map (·.name)).toFinset = wanted := by
  have hcard := List.toFinset_card_of_nodup (nodup_selectedTunnels hnodup wanted)
  rw [List.length_map] at hcard
  constructor
  · intro hlength
    exact Finset.eq_of_subset_of_card_le (toFinset_selectedTunnels_subset tunnels wanted)
      (by omega)
  · intro heq
    rw [← hcard, heq]

lemma toFinset_selectedTunnels_iff {wanted : Finset String} :
    ((selectedTunnels tunnels wanted).map (·.name)).toFinset = wanted ↔
      ∀ name ∈ wanted, ∃ tunnel ∈ tunnels, tunnel.name = name := by
  constructor
  · intro heq name hname
    rw [← heq] at hname
    obtain ⟨tunnel, htunnel, rfl⟩ := List.mem_map.mp (List.mem_toFinset.mp hname)
    exact ⟨tunnel, (mem_selectedTunnels.mp htunnel).1, rfl⟩
  · intro hoffered
    refine Finset.Subset.antisymm (toFinset_selectedTunnels_subset tunnels wanted) ?_
    intro name hname
    obtain ⟨tunnel, htunnel, rfl⟩ := hoffered name hname
    rw [List.mem_toFinset]
    exact List.mem_map_of_mem (mem_selectedTunnels.mpr ⟨htunnel, hname⟩)

/-! ## The services of a selection -/

/-- The services in the order of their names. -/
def sortedServices (tunnels : List ClientTunnel) (wanted : Finset String) :
    List ClientServiceConfig :=
  ((selectedTunnels tunnels wanted).map (·.service)).insertionSort fun left right =>
    left.name ≤ right.name

lemma servicesForSelection_ok_iff (hnodup : (tunnels.map (·.name)).Nodup) :
    servicesForSelection tunnels names = .ok services ↔
      Servable tunnels names.toFinset ∧ services = sortedServices tunnels names.toFinset := by
  have hcard : names.dedup.length = names.toFinset.card := (List.card_toFinset names).symm
  have hempty : names.dedup.isEmpty = true ↔ ¬ names.toFinset.Nonempty := by
    rw [List.isEmpty_iff, ← List.length_eq_zero_iff, hcard, Finset.card_eq_zero,
      Finset.not_nonempty_iff_eq_empty]
  have hfilter : tunnels.filter (fun tunnel => tunnel.name ∈ names.dedup) =
      selectedTunnels tunnels names.toFinset :=
    List.filter_congr fun tunnel _ => by simp
  have hoffered := (length_selectedTunnels_iff hnodup names.toFinset).trans
    toFinset_selectedTunnels_iff
  simp only [servicesForSelection, hfilter, hcard]
  constructor
  · intro h
    split at h
    case isTrue => cases h
    case isFalse hnonempty =>
      split at h
      case isTrue => cases h
      case isFalse hle =>
        obtain ⟨unsorted, hunsorted, h⟩ := Except.exists_ok_of_bind h
        obtain ⟨havailable, rfl⟩ := mapM_serviceOf_ok_iff.mp hunsorted
        rw [List.length_map] at h
        split at h
        case isTrue => cases h
        case isFalse hlength =>
          cases h
          refine ⟨⟨not_not.mp (mt hempty.mpr hnonempty), not_lt.mp hle,
            hoffered.mp (not_not.mp hlength), fun tunnel htunnel hname => ?_⟩, rfl⟩
          exact havailable tunnel (mem_selectedTunnels.mpr ⟨htunnel, hname⟩)
  · rintro ⟨⟨hnonempty, hle, hall, havailable⟩, rfl⟩
    have hle : ¬ maxClientServices < names.toFinset.card := not_lt.mpr hle
    rw [if_neg (mt hempty.mp (not_not.mpr hnonempty)), if_neg hle]
    refine Except.bind_ok (mapM_serviceOf_ok_iff.mpr ⟨fun tunnel htunnel => ?_, rfl⟩) ?_
    · obtain ⟨hmem, hname⟩ := mem_selectedTunnels.mp htunnel
      exact havailable tunnel hmem hname
    · rw [List.length_map, if_neg (not_not.mpr (hoffered.mpr hall))]
      rfl

lemma servicesForEnable_ok_iff_servable (hnodup : (tunnels.map (·.name)).Nodup) :
    servicesForEnable tunnels names = .ok services ↔
      Servable tunnels (wantedNames tunnels names) ∧
        services = sortedServices tunnels (wantedNames tunnels names) := by
  rw [servicesForEnable, servicesForSelection_ok_iff hnodup, List.toFinset_append]
  rfl

/-! ## What the services are -/

lemma mem_sortedServices {wanted : Finset String} {service : ClientServiceConfig} :
    service ∈ sortedServices tunnels wanted ↔
      ∃ tunnel ∈ tunnels, tunnel.name ∈ wanted ∧ service = tunnel.service := by
  rw [sortedServices, (List.perm_insertionSort _ _).mem_iff, List.mem_map]
  constructor
  · rintro ⟨tunnel, htunnel, rfl⟩
    obtain ⟨hmem, hname⟩ := mem_selectedTunnels.mp htunnel
    exact ⟨tunnel, hmem, hname, rfl⟩
  · rintro ⟨tunnel, hmem, hname, rfl⟩
    exact ⟨tunnel, mem_selectedTunnels.mpr ⟨hmem, hname⟩, rfl⟩

/-- The names of the services are those of the selected tunnels, in another order. -/
lemma names_sortedServices (tunnels : List ClientTunnel) (wanted : Finset String) :
    ((sortedServices tunnels wanted).map (·.name)).Perm
      ((selectedTunnels tunnels wanted).map (·.name)) := by
  have hperm := (List.perm_insertionSort (fun left right : ClientServiceConfig =>
    left.name ≤ right.name) ((selectedTunnels tunnels wanted).map (·.service))).map (·.name)
  rwa [List.map_map] at hperm

lemma pairwise_sortedServices (tunnels : List ClientTunnel) (wanted : Finset String) :
    (sortedServices tunnels wanted).Pairwise fun left right => left.name ≤ right.name := by
  have htotal : Std.Total fun left right : ClientServiceConfig => left.name ≤ right.name :=
    ⟨fun left right => String.le_total left.name right.name⟩
  have htrans : IsTrans ClientServiceConfig fun left right => left.name ≤ right.name :=
    ⟨fun _ _ _ h h' => String.le_trans h h'⟩
  exact List.pairwise_insertionSort _ _

/-- The host of the local target: an IPv6 address stands in brackets, and nothing else does. -/
def ClientTunnel.targetHost (tunnel : ClientTunnel) : String :=
  let localIp := tunnel.localIp.getD "127.0.0.1"
  if (parseIpv6Addr localIp).isSome then "[" ++ localIp ++ "]" else localIp

lemma ClientTunnel.localTarget_eq : tunnel.localTarget =
    if tunnel.kind = .socks5 then none
    else tunnel.localPort.map fun port =>
      tunnel.targetHost ++ String.singleton ':' ++ toString port.toNat := by
  unfold localTarget
  refine if_congr Iff.rfl rfl (congrArg (Option.map · tunnel.localPort) (funext fun port => ?_))
  have hport : toString port = toString port.toNat := rfl
  have htext (text : String) : toString text = text := rfl
  simp only [targetHost, defaultLocalIp, hport, htext]
  generalize tunnel.localIp.getD "127.0.0.1" = localIp
  by_cases hv6 : (parseIpv6Addr localIp).isSome = true
  · rw [if_pos hv6, if_pos hv6]
    simp [← String.toList_inj]
  · rw [if_neg hv6, if_neg hv6]
    simp

/-- The target ends in the port, and what is before the last colon is the host. -/
lemma ClientTunnel.rsplitOnce_localTarget {target : String}
    (h : tunnel.localTarget = some target) : ∃ port, tunnel.localPort = some port ∧
      target.rsplitOnce ':' = some (tunnel.targetHost, toString port.toNat) := by
  rw [localTarget_eq] at h
  split at h
  case isTrue => cases h
  case isFalse =>
    obtain ⟨port, hport, rfl⟩ := Option.map_eq_some_iff.mp h
    exact ⟨port, hport, String.rsplitOnce_append (Nat.notMem_toString rfl port.toNat)⟩

/-! ## The check of the services -/

lemma validateName_of_validName {kind name : String} (h : validName name = true) :
    validateName kind name = .ok () := by
  simp only [validName, Bool.and_eq_true, decide_eq_true_eq] at h
  obtain ⟨⟨hne, hle⟩, hbytes⟩ := h
  refine Except.reject_ok fun check hcheck => ?_
  rcases List.mem_pair.mp hcheck with rfl | rfl
  · simpa [hne] using hle
  · simp only [hbytes, Bool.not_true]

/-- A service has a target exactly when its kind needs one. -/
def ClientServiceConfig.TargetMatches (service : ClientServiceConfig) : Prop :=
  if service.kind = .socks5 then service.target = none else service.target.getD "" ≠ ""

lemma validateClientService_ok {service : ClientServiceConfig}
    (hname : validName service.name = true) (hnew : service.name ∉ names)
    (htarget : service.TargetMatches) :
    validateClientService names service = .ok (service.name :: names) := by
  refine Except.bind_ok (validateName_of_validName hname) (Except.bind_ok (a := ()) ?_ rfl)
  refine Except.reject_ok fun check hcheck => ?_
  unfold ClientServiceConfig.TargetMatches at htarget
  simp only [List.mem_cons, List.not_mem_nil, or_false] at hcheck
  rcases hcheck with rfl | rfl | rfl
  · simpa using hnew
  · by_cases hkind : service.kind = .socks5
    · simpa [hkind] using htarget
    · simp [hkind]
  · by_cases hkind : service.kind = .socks5
    · simp [hkind]
    · simpa [hkind] using htarget

lemma foldlM_validateClientService
    (hchecked : ∀ service ∈ services, validName service.name = true ∧ service.TargetMatches)
    (hnodup : (services.map (·.name)).Nodup)
    (hnew : ∀ service ∈ services, service.name ∉ names) :
    ∃ names', services.foldlM validateClientService names = .ok names' := by
  induction services generalizing names with
  | nil => exact ⟨names, rfl⟩
  | cons service services ih =>
    rw [List.forall_mem_cons] at hchecked hnew
    obtain ⟨hfirst, hnodup⟩ := List.nodup_cons.mp hnodup
    have hround := validateClientService_ok hchecked.1.1 hnew.1 hchecked.1.2
    have hnew' : ∀ other ∈ services, other.name ∉ service.name :: names := by
      intro other hother hmem
      rcases List.mem_cons.mp hmem with heq | hmem
      · exact hfirst (List.mem_map.mpr ⟨other, hother, heq⟩)
      · exact hnew.2 other hother hmem
    obtain ⟨names', hnames'⟩ := ih hchecked.2 hnodup hnew'
    refine ⟨names', ?_⟩
    rw [List.foldlM_cons, hround]
    exact hnames'

lemma validateClientServices_ok (hle : services.length ≤ maxClientServices)
    (hchecked : ∀ service ∈ services, validName service.name = true ∧ service.TargetMatches)
    (hnodup : (services.map (·.name)).Nodup) : validateClientServices services = .ok () := by
  have hnew : ∀ service ∈ services, service.name ∉ ([] : List String) := by simp
  obtain ⟨seen, hseen⟩ := foldlM_validateClientService hchecked hnodup hnew
  refine Except.bind_ok (a := ()) (Except.reject_ok fun check hcheck => ?_)
    (Except.bind_ok hseen rfl)
  obtain rfl := List.mem_singleton.mp hcheck
  simpa using hle

/-- The service is the one of the tunnel: it has its name and its kind, and the target of a TCP or
UDP service is the local port of the tunnel at its local address. -/
structure ClientServiceConfig.IsFor (service : ClientServiceConfig) (tunnel : ClientTunnel) :
    Prop where
  name : service.name = tunnel.name
  kind : service.kind = tunnel.kind
  target : service.kind ≠ .socks5 → ∃ target port,
    service.target = some target ∧ tunnel.localPort = some port ∧
      target.rsplitOnce ':' = some (tunnel.targetHost, toString port.toNat)

/-- What is enabled for the wanted names. -/
structure Serves (tunnels : List ClientTunnel) (wanted : Finset String)
    (services : List ClientServiceConfig) : Prop where
  sorted : services.Pairwise fun left right => left.name ≤ right.name
  /-- Every wanted name has one service, and no other name has one. -/
  once : (services.map (·.name)).Nodup ∧ (services.map (·.name)).toFinset = wanted
  isFor : ∀ service ∈ services, ∃ tunnel ∈ tunnels, service.IsFor tunnel
  checked : validateClientServices services = .ok ()

lemma ClientTunnel.Available.isFor (h : tunnel.Available) : tunnel.service.IsFor tunnel := by
  refine ⟨rfl, rfl, fun hkind => ?_⟩
  obtain ⟨target, htarget⟩ := Option.isSome_iff_exists.mp
    (localTarget_isSome.mpr ⟨hkind, h.port hkind⟩)
  obtain ⟨port, hport, hsplit⟩ := rsplitOnce_localTarget htarget
  exact ⟨target, port, htarget, hport, hsplit⟩

lemma ClientTunnel.Available.targetMatches (h : tunnel.Available) :
    tunnel.service.TargetMatches := by
  by_cases hkind : tunnel.kind = .socks5
  · simp [ClientServiceConfig.TargetMatches, service, localTarget, hkind]
  · obtain ⟨target, port, htarget, hport, hsplit⟩ := h.isFor.target hkind
    have htarget : tunnel.localTarget = some target := htarget
    have hne : target ≠ "" := by
      rintro rfl
      cases hsplit
    simpa [ClientServiceConfig.TargetMatches, service, hkind, htarget] using hne

lemma serves_sortedServices {wanted : Finset String} (hnodup : (tunnels.map (·.name)).Nodup)
    (hvalid : ∀ tunnel ∈ tunnels, validName tunnel.name = true) (h : Servable tunnels wanted) :
    Serves tunnels wanted (sortedServices tunnels wanted) := by
  have hnames := names_sortedServices tunnels wanted
  have honce : ((sortedServices tunnels wanted).map (·.name)).Nodup :=
    hnames.nodup_iff.mpr (nodup_selectedTunnels hnodup wanted)
  have hwanted : ((sortedServices tunnels wanted).map (·.name)).toFinset = wanted := by
    rw [List.toFinset_eq_of_perm _ _ hnames]
    exact toFinset_selectedTunnels_iff.mpr h.offered
  constructor
  case sorted => exact pairwise_sortedServices tunnels wanted
  case once => exact ⟨honce, hwanted⟩
  case isFor =>
    intro service hservice
    obtain ⟨tunnel, hmem, hname, rfl⟩ := mem_sortedServices.mp hservice
    exact ⟨tunnel, hmem, (h.available tunnel hmem hname).isFor⟩
  case checked =>
    refine validateClientServices_ok ?_ ?_ honce
    · have hcard := List.toFinset_card_of_nodup honce
      rw [hwanted, List.length_map] at hcard
      exact hcard ▸ h.card_le
    · intro service hservice
      obtain ⟨tunnel, hmem, hname, rfl⟩ := mem_sortedServices.mp hservice
      exact ⟨hvalid tunnel hmem, (h.available tunnel hmem hname).targetMatches⟩

/-! ## Enabling tunnels -/

/-- **Enabling succeeds exactly when the catalog can serve the wanted names, and serves all of
them.**  The names of the tunnels that are enabled are wanted whatever the request is, so none of
these tunnels is lost. -/
theorem servicesForEnable_ok_iff (tunnels : List ClientTunnel) (names : List String)
    (hnodup : (tunnels.map (·.name)).Nodup)
    (hvalid : ∀ tunnel ∈ tunnels, validName tunnel.name = true) :
    ((∃ services, servicesForEnable tunnels names = .ok services) ↔
        Servable tunnels (wantedNames tunnels names)) ∧
      ∀ services, servicesForEnable tunnels names = .ok services →
        Serves tunnels (wantedNames tunnels names) services ∧
          ∀ tunnel ∈ tunnels, tunnel.state = .enabled →
            ∃ service ∈ services, service.IsFor tunnel := by
  refine ⟨?_, fun services hservices => ?_⟩
  · constructor
    · rintro ⟨services, hservices⟩
      exact ((servicesForEnable_ok_iff_servable hnodup).mp hservices).1
    · intro hservable
      exact ⟨_, (servicesForEnable_ok_iff_servable hnodup).mpr ⟨hservable, rfl⟩⟩
  · obtain ⟨hservable, rfl⟩ := (servicesForEnable_ok_iff_servable hnodup).mp hservices
    refine ⟨serves_sortedServices hnodup hvalid hservable, fun tunnel hmem henabled => ?_⟩
    have hname : tunnel.name ∈ wantedNames tunnels names := by
      refine Finset.mem_union_right _ (List.mem_toFinset.mpr ?_)
      exact List.mem_map_of_mem (List.mem_filter.mpr ⟨hmem, by simpa using henabled⟩)
    exact ⟨tunnel.service, mem_sortedServices.mpr ⟨tunnel, hmem, hname, rfl⟩,
      (hservable.available tunnel hmem hname).isFor⟩

/-- A catalog with an enabled tunnel, two idle ones and one of another client. -/
def mixedCatalog : List ClientTunnel :=
  [⟨"web", .tcp, 8080, none, some 80, .enabled⟩, ⟨"dns", .udp, 5353, some "::1", some 53, .idle⟩,
    ⟨"ssh", .tcp, 2222, some "localhost", some 22, .occupied⟩,
    ⟨"proxy", .socks5, 1080, none, none, .idle⟩]

/-- The request repeats a name, and the enabled tunnel is kept. -/
theorem mixedCatalog_enable :
    ∃ services, servicesForEnable mixedCatalog ["proxy", "dns", "proxy"] = .ok services ∧
      Serves mixedCatalog (wantedNames mixedCatalog ["proxy", "dns", "proxy"]) services := by
  obtain ⟨hok, hserves⟩ := servicesForEnable_ok_iff mixedCatalog ["proxy", "dns", "proxy"]
    (by decide +kernel) (by decide +kernel)
  have hall : ∀ tunnel ∈ mixedCatalog,
      tunnel.name ∈ wantedNames mixedCatalog ["proxy", "dns", "proxy"] →
        tunnel.state ≠ .occupied ∧ (tunnel.kind ≠ .socks5 → tunnel.localPort.isSome = true) := by
    decide +kernel
  have hservable : Servable mixedCatalog (wantedNames mixedCatalog ["proxy", "dns", "proxy"]) :=
    ⟨by decide +kernel, by decide +kernel, by decide +kernel,
      fun tunnel hmem hname => ⟨(hall tunnel hmem hname).1, (hall tunnel hmem hname).2⟩⟩
  obtain ⟨services, hservices⟩ := hok.mpr hservable
  exact ⟨services, hservices, (hserves services hservices).1⟩

example : servicesForEnable mixedCatalog ["dns"] =
    .ok [⟨"dns", .udp, some "[::1]:53"⟩, ⟨"web", .tcp, some "127.0.0.1:80"⟩] := by decide +kernel

end GateRust.Tunnel
