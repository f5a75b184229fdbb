/-
# What a change does to the configuration file

A request that runs alone reads the file, changes the configuration, writes and reads back a
temporary file and renames it.  Until the rename nothing has happened to the file.  After it the
file has the new configuration, whatever the request is answered: the directory may fail to sync,
the file may fail to load again, and the module may report an error or not answer in time.
-/
import GateRust.Control.Mutations

namespace GateRust.Control

open Machine
open Tunnel (ServerQuicConfig GroupConfig ServerTunnelConfig ServerConfig TunnelError)
open Proxy (AcmeAccountConfig DnsAccountConfig CertificateConfig RouteConfig ProxyListenerConfig
  ProxyConfig Uri)
open KeyedList (ChangedAt)

/-! ## A request that runs alone -/

inductive MutateError where
  | store (error : ControlError)
  /-- `TunnelRuntimeApply` or `ProxyRuntimeApply`. -/
  | runtimeApply (message : String)
deriving DecidableEq, Repr

/-- What the operating system and the module do with a request. -/
structure Surroundings where
  /-- Writing the temporary file and renaming it. -/
  io : Except String Unit
  /-- Syncing the directory. -/
  sync : Except String Unit
  /-- Loading the file once more for the module. -/
  load : Except String Unit
  /-- What `wait_for_config` returns, if the module runs: an error, a timeout, or the status with
  the error of the module if it has one. -/
  runtime : Option (Except String (Option (Option String)))

section Mutate

variable {C : Type}

/-- The answer once the file is replaced. -/
def Surroundings.answer (env : Surroundings) (stored : C) : Except MutateError C :=
  match env.sync, env.load, env.runtime with
  | .error error, _, _ => .error (.store (.writeRuntimeConfig error))
  | .ok (), .error error, _ => .error (.store (.readRuntimeConfig error))
  | .ok (), .ok (), none => .ok stored
  | .ok (), .ok (), some (.error error) => .error (.runtimeApply error)
  | .ok (), .ok (), some (.ok none) => .error (.runtimeApply "等待运行时确认超时")
  | .ok (), .ok (), some (.ok (some none)) => .ok stored
  | .ok (), .ok (), some (.ok (some (some error))) => .error (.runtimeApply error)

/-- `mutate_tunnel` and `mutate_proxy`, with the check that some requests make before. -/
def mutateConfig (f : ConfigFormat C) (env : Surroundings)
    (request : Except ControlError (Mutation C)) (file : Option String) :
    Except MutateError C × Option String :=
  match (request.bind fun mutate => f.mutated mutate file).bind f.validated, env.io with
  | .error error, _ => (.error (.store error), file)
  | .ok _, .error error => (.error (.store (.writeRuntimeConfig error)), file)
  | .ok (text, stored), .ok () => (env.answer stored, some text)

variable {f : ConfigFormat C} {env : Surroundings} {file : Option String}

lemma Surroundings.eq_of_answer {stored stored' : C} (h : env.answer stored = .ok stored') :
    stored' = stored := by
  unfold Surroundings.answer at h
  split at h <;> cases h
  all_goals rfl

/-- A request leaves the file alone or replaces it by the text of the changed configuration. -/
lemma mutateConfig_cases (f : ConfigFormat C) (env : Surroundings)
    (request : Except ControlError (Mutation C)) (file : Option String) :
    (∃ error, mutateConfig f env request file = (.error (.store error), file)) ∨
      ∃ mutate config text stored, request = .ok mutate ∧ f.mutated mutate file = .ok config ∧
        f.validated config = .ok (text, stored) ∧
        mutateConfig f env request file = (env.answer stored, some text) := by
  unfold mutateConfig
  split
  case h_1 => exact .inl ⟨_, rfl⟩
  case h_2 => exact .inl ⟨_, rfl⟩
  case h_3 text stored hvalidated hio =>
    obtain ⟨config, hconfig, hvalidated⟩ := Except.exists_ok_of_bind hvalidated
    obtain ⟨mutate, hmutate, hconfig⟩ := Except.exists_ok_of_bind hconfig
    exact .inr ⟨mutate, config, text, stored, hmutate, hconfig, hvalidated, rfl⟩

/-- The request is queued on the blocking thread and its future holds the permit. -/
lemma reach_queued (mutate : Mutation C) :
    Reach (ConfigStore.step f) Always (.start file)
      ⟨file, some 0, [⟨mutate, .holding, .queued⟩], []⟩ :=
  (Reach.init.next (e := .request mutate) trivial rfl).next (e := .acquire 0) trivial rfl

/-- The future returns and releases the permit. -/
lemma reach_completed {mutate : Mutation C} {file' : Option String} {commits : List (Commit C)}
    {result : Except ControlError C}
    (h : Reach (ConfigStore.step f) Always (.start file)
      ⟨file', some 0, [⟨mutate, .holding, .finished result⟩], commits⟩) :
    ∃ s, Reach (ConfigStore.step f) Always (.start file) s ∧ s.file = file' ∧ s.writer = none :=
  ⟨_, h.next (e := .complete 0) trivial rfl, rfl, rfl⟩

/-- **A request that runs alone is a run of the store.**  The steps of its future and of its
closure lead to the file that `mutateConfig` gives. -/
theorem reach_mutateConfig (f : ConfigFormat C) (env : Surroundings) (mutate : Mutation C)
    (file : Option String) :
    ∃ s, Reach (ConfigStore.step f) Always (.start file) s ∧
      s.file = (mutateConfig f env (.ok mutate) file).2 ∧ s.writer = none := by
  have hqueued : Reach (ConfigStore.step f) Always (.start file) _ := reach_queued mutate
  cases hmutated : f.mutated mutate file with
  | error error =>
    have hfinished : Reach (ConfigStore.step f) Always (.start file)
        ⟨file, some 0, [⟨mutate, .holding, .finished (.error error)⟩], []⟩ := by
      refine hqueued.next (e := .load 0) trivial ?_
      simp [ConfigStore.step, hmutated, ConfigStore.setRequest]
    have hfile : (mutateConfig f env (.ok mutate) file).2 = file := by
      simp [mutateConfig, Except.bind, hmutated]
    rw [hfile]
    exact reach_completed hfinished
  | ok config =>
    have hloaded : Reach (ConfigStore.step f) Always (.start file)
        ⟨file, some 0, [⟨mutate, .holding, .loaded file config⟩], []⟩ := by
      refine hqueued.next (e := .load 0) trivial ?_
      simp [ConfigStore.step, hmutated, ConfigStore.setRequest]
    cases hvalidated : f.validated config with
    | error error =>
      have hfile : (mutateConfig f env (.ok mutate) file).2 = file := by
        simp [mutateConfig, Except.bind, hmutated, hvalidated]
      have hfinished : Reach (ConfigStore.step f) Always (.start file)
          ⟨file, some 0, [⟨mutate, .holding, .finished (.error error)⟩], []⟩ := by
        refine hloaded.next (e := .commit 0 env.io env.sync) trivial ?_
        simp [ConfigStore.step, hvalidated, ConfigStore.setRequest]
      rw [hfile]
      exact reach_completed hfinished
    | ok written =>
      cases hio : env.io with
      | error error =>
        have hfile : (mutateConfig f env (.ok mutate) file).2 = file := by
          simp [mutateConfig, Except.bind, hmutated, hvalidated, hio]
        have hfinished : Reach (ConfigStore.step f) Always (.start file)
            ⟨file, some 0, [⟨mutate, .holding, .finished (.error (.writeRuntimeConfig error))⟩],
              []⟩ := by
          refine hloaded.next (e := .commit 0 env.io env.sync) trivial ?_
          simp [ConfigStore.step, hvalidated, hio, ConfigStore.setRequest]
        rw [hfile]
        exact reach_completed hfinished
      | ok =>
        have hfile : (mutateConfig f env (.ok mutate) file).2 = some written.1 := by
          simp [mutateConfig, Except.bind, hmutated, hvalidated, hio]
        have hfinished : Reach (ConfigStore.step f) Always (.start file)
            ⟨some written.1, some 0, [⟨mutate, .holding,
              .finished ((env.sync.map fun _ => written.2).mapError .writeRuntimeConfig)⟩],
              [⟨mutate, file, written.1⟩]⟩ := by
          refine hloaded.next (e := .commit 0 env.io env.sync) trivial ?_
          simp [ConfigStore.step, hvalidated, hio, ConfigStore.setRequest, ConfigStore.replace]
        rw [hfile]
        exact reach_completed hfinished

end Mutate

/-! ## The requests -/

inductive TunnelRequest where
  | setTunnelQuic (quic : ServerQuicConfig)
  | createGroup (group : GroupConfig)
  | updateGroup (originalName : String) (group : GroupConfig)
  | deleteGroup (name : String)
  | createTunnel (tunnel : ServerTunnelConfig)
  | updateTunnelConfig (originalName : String) (tunnel : ServerTunnelConfig)
  | deleteTunnelConfig (name : String)

def TunnelRequest.mutation : TunnelRequest → Mutation ServerConfig
  | .setTunnelQuic quic => Control.setTunnelQuic quic
  | .createGroup group => Control.createGroup group
  | .updateGroup originalName group => Control.updateGroup originalName group
  | .deleteGroup name => Control.deleteGroup name
  | .createTunnel tunnel => Control.createTunnel tunnel
  | .updateTunnelConfig originalName tunnel => Control.updateTunnelConfig originalName tunnel
  | .deleteTunnelConfig name => Control.deleteTunnelConfig name

inductive ProxyRequest where
  | setProxyListener (listener : ProxyListenerConfig)
  | createAcmeAccount (request : AcmeAccountRequest)
  | updateAcmeAccount (id : String) (request : AcmeAccountRequest)
  | deleteAcmeAccount (id : String)
  | createDnsAccount (request : DnsAccountRequest)
  | updateDnsAccount (id : String) (request : DnsAccountRequest)
  | deleteDnsAccount (id : String)
  | createCertificate (certificate : CertificateConfig)
  | updateCertificate (id : String) (certificate : CertificateConfig)
  | deleteCertificate (id : String)
  | createRoute (route : RouteConfig)
  | updateRoute (originalName : String) (route : RouteConfig)
  | deleteRoute (name : String)

def ProxyRequest.mutation : ProxyRequest → Except ControlError (Mutation ProxyConfig)
  | .setProxyListener listener => .ok (Control.setProxyListener listener)
  | .createAcmeAccount request => .ok (Control.createAcmeAccount request)
  | .updateAcmeAccount id request => .ok (Control.updateAcmeAccount id request)
  | .deleteAcmeAccount id => .ok (Control.deleteAcmeAccount id)
  | .createDnsAccount request => .ok (Control.createDnsAccount request)
  | .updateDnsAccount id request => .ok (Control.updateDnsAccount id request)
  | .deleteDnsAccount id => .ok (Control.deleteDnsAccount id)
  | .createCertificate certificate => Control.createCertificate certificate
  | .updateCertificate id certificate => Control.updateCertificate id certificate
  | .deleteCertificate id => .ok (Control.deleteCertificate id)
  | .createRoute route => .ok (Control.createRoute route)
  | .updateRoute originalName route => .ok (Control.updateRoute originalName route)
  | .deleteRoute name => .ok (Control.deleteRoute name)

/-! ## What each request may change -/

/-- The configuration after a request, up to the list that the request is about. -/
def TunnelRequest.Frame (request : TunnelRequest) (prev next : ServerConfig) : Prop :=
  match request with
  | .setTunnelQuic quic => next = { prev with quic }
  | .createGroup group => next = { prev with groups := prev.groups ++ [group] }
  | .updateGroup originalName group =>
    ChangedAt (·.name) originalName (fun _ => some group) prev.groups next.groups ∧
      next = { prev with
        groups := next.groups
        -- the tunnels of the group follow its name
        tunnels := prev.tunnels.map fun tunnel =>
          if tunnel.group = originalName then { tunnel with group := group.name } else tunnel }
  | .deleteGroup name =>
    ChangedAt (·.name) name (fun _ => none) prev.groups next.groups ∧
      next = { prev with
        groups := next.groups
        tunnels := prev.tunnels.filter fun tunnel => tunnel.group ≠ name }
  | .createTunnel tunnel => next = { prev with tunnels := prev.tunnels ++ [tunnel] }
  | .updateTunnelConfig originalName tunnel =>
    ChangedAt (·.name) originalName (fun _ => some tunnel) prev.tunnels next.tunnels ∧
      next = { prev with tunnels := next.tunnels }
  | .deleteTunnelConfig name =>
    ChangedAt (·.name) name (fun _ => none) prev.tunnels next.tunnels ∧
      next = { prev with tunnels := next.tunnels }

/-- A secret of an account: the one of the request, or else the stored one if the provider is the
same. -/
def keptSecret {P : Type} [DecidableEq P] (provider stored : P)
    (requested current : Option String) : Option String :=
  requested.or (if provider = stored then current else none)

def ProxyRequest.Frame (request : ProxyRequest) (prev next : ProxyConfig) : Prop :=
  match request with
  | .setProxyListener listener => next = { prev with proxy := listener }
  | .createAcmeAccount request =>
    next = { prev with acmeAccounts := prev.acmeAccounts ++ [acmeAccountFromRequest request] }
  | .updateAcmeAccount id request =>
    ChangedAt (·.id) id
      (fun old => some { acmeAccountFromRequest request with
        eabHmacKey := keptSecret request.provider old.provider request.eabHmacKey old.eabHmacKey })
      prev.acmeAccounts next.acmeAccounts ∧
    next = { prev with acmeAccounts := next.acmeAccounts }
  | .deleteAcmeAccount id =>
    ChangedAt (·.id) id (fun _ => none) prev.acmeAccounts next.acmeAccounts ∧
      next = { prev with acmeAccounts := next.acmeAccounts }
  | .createDnsAccount request =>
    next = { prev with dnsAccounts := prev.dnsAccounts ++ [dnsAccountFromRequest request] }
  | .updateDnsAccount id request =>
    ChangedAt (·.id) id
      (fun old => some { dnsAccountFromRequest request with
        apiToken := keptSecret request.provider old.provider request.apiToken old.apiToken
        accessKey := keptSecret request.provider old.provider request.accessKey old.accessKey
        secretKey := keptSecret request.provider old.provider request.secretKey old.secretKey })
      prev.dnsAccounts next.dnsAccounts ∧
    next = { prev with dnsAccounts := next.dnsAccounts }
  | .deleteDnsAccount id =>
    ChangedAt (·.id) id (fun _ => none) prev.dnsAccounts next.dnsAccounts ∧
      next = { prev with dnsAccounts := next.dnsAccounts }
  | .createCertificate certificate =>
    next = { prev with certificates := prev.certificates ++ [certificate.normal] }
  | .updateCertificate id certificate =>
    ChangedAt (·.id) id (fun _ => some certificate.normal) prev.certificates next.certificates ∧
      next = { prev with certificates := next.certificates }
  | .deleteCertificate id =>
    ChangedAt (·.id) id (fun _ => none) prev.certificates next.certificates ∧
      next = { prev with certificates := next.certificates }
  | .createRoute route => next = { prev with routes := prev.routes ++ [route.normal] }
  | .updateRoute originalName route =>
    ChangedAt (·.name) originalName (fun _ => some route.normal) prev.routes next.routes ∧
      next = { prev with routes := next.routes }
  | .deleteRoute name =>
    ChangedAt (·.name) name (fun _ => none) prev.routes next.routes ∧
      next = { prev with routes := next.routes }

/-! ## The tunnel server -/

lemma updateGroup_tunnels (originalName name : String) (tunnels : List ServerTunnelConfig) :
    (if originalName ≠ name then
        tunnels.map fun tunnel =>
          if tunnel.group = originalName then { tunnel with group := name } else tunnel
      else tunnels) =
      tunnels.map fun tunnel =>
        if tunnel.group = originalName then { tunnel with group := name } else tunnel := by
  split
  case isTrue => rfl
  case isFalse hsame =>
    rw [not_not] at hsame
    subst hsame
    symm
    rw [List.map_congr_left (g := id), List.map_id]
    intro tunnel _
    split
    case isTrue hgroup =>
      rw [← hgroup]
      rfl
    case isFalse => rfl

lemma TunnelRequest.frame {request : TunnelRequest} {prev next : ServerConfig}
    (hprev : prev.validate = .ok ()) (h : request.mutation prev = .ok next) :
    request.Frame prev next := by
  have hgroups := ServerConfig.groups_nodup hprev
  have htunnels := (Tunnel.ValidTunnels.nodup ⟨prev, hprev, rfl⟩).1
  cases request with
  | setTunnelQuic quic => exact (Except.ok.inj h).symm
  | createGroup group => exact (Except.ok.inj h).symm
  | updateGroup originalName group =>
    obtain ⟨groups, hchanged, h⟩ := Except.exists_ok_of_bind h
    cases h
    refine ⟨modifyNamed_ok hgroups hchanged, ?_⟩
    rw [updateGroup_tunnels]
  | deleteGroup name =>
    obtain ⟨groups, hchanged, h⟩ := Except.exists_ok_of_bind h
    cases h
    exact ⟨removeNamed_ok hgroups hchanged, rfl⟩
  | createTunnel tunnel => exact (Except.ok.inj h).symm
  | updateTunnelConfig originalName tunnel =>
    obtain ⟨tunnels, hchanged, h⟩ := Except.exists_ok_of_bind h
    cases h
    exact ⟨modifyNamed_ok htunnels hchanged, rfl⟩
  | deleteTunnelConfig name =>
    obtain ⟨tunnels, hchanged, h⟩ := Except.exists_ok_of_bind h
    cases h
    exact ⟨removeNamed_ok htunnels hchanged, rfl⟩

/-! ## The proxy -/

section Proxy

variable {parseUri : String → Option Uri} {prev raw next : ProxyConfig}

/-- The certificates and routes are in normal form. -/
def NormalNames (config : ProxyConfig) : Prop :=
  (∀ c ∈ config.certificates, c.normal = c) ∧ ∀ r ∈ config.routes, r.normal = r

lemma NormalNames.certificates (h : NormalNames prev) :
    prev.certificates.map CertificateConfig.normal = prev.certificates := by
  rw [List.map_congr_left h.1, List.map_id']

lemma NormalNames.routes (h : NormalNames prev) :
    prev.routes.map RouteConfig.normal = prev.routes := by
  rw [List.map_congr_left h.2, List.map_id']

/-- A change of other resources leaves the names in normal form. -/
lemma NormalNames.normal_eq (h : NormalNames prev) (listener : ProxyListenerConfig)
    (acmeAccounts : List AcmeAccountConfig) (dnsAccounts : List DnsAccountConfig) :
    ProxyConfig.normal ⟨listener, acmeAccounts, dnsAccounts, prev.certificates, prev.routes⟩ =
      ⟨listener, acmeAccounts, dnsAccounts, prev.certificates, prev.routes⟩ := by
  rw [ProxyConfig.normal, h.certificates, h.routes]

lemma keptSecret_eq {P : Type} [DecidableEq P] {provider stored : P}
    {requested current : Option String} :
    keptSecret provider stored requested current =
      if provider = stored ∧ requested = none then current else requested := by
  cases requested with
  | none => by_cases h : provider = stored <;> simp [keptSecret, h]
  | some secret => simp [keptSecret]

/-- An account of Let's Encrypt has no secret that could be kept. -/
lemma replacementAcmeAccount_eq {request : AcmeAccountRequest} {current : AcmeAccountConfig}
    (h : current.provider = .letsEncrypt → current.eabHmacKey = none) :
    replacementAcmeAccount request current = { acmeAccountFromRequest request with
      eabHmacKey := keptSecret request.provider current.provider request.eabHmacKey
        current.eabHmacKey } := by
  rw [keptSecret_eq]
  cases hrequested : request.eabHmacKey with
  | some secret => simp [replacementAcmeAccount, acmeAccountFromRequest, hrequested]
  | none =>
    cases hprovider : request.provider with
    | letsEncrypt =>
      cases hcurrent : current.provider with
      | letsEncrypt => simp [replacementAcmeAccount, acmeAccountFromRequest, *]
      | googleCloud => simp [replacementAcmeAccount, acmeAccountFromRequest, *]
    | googleCloud =>
      cases hcurrent : current.provider with
      | letsEncrypt => simp [replacementAcmeAccount, acmeAccountFromRequest, *]
      | googleCloud => simp [replacementAcmeAccount, acmeAccountFromRequest, *]

lemma replacementDnsAccount_eq {request : DnsAccountRequest} {current : DnsAccountConfig} :
    replacementDnsAccount request current = { dnsAccountFromRequest request with
      apiToken := keptSecret request.provider current.provider request.apiToken current.apiToken
      accessKey := keptSecret request.provider current.provider request.accessKey current.accessKey
      secretKey := keptSecret request.provider current.provider request.secretKey
        current.secretKey } := by
  simp only [keptSecret_eq, replacementDnsAccount]
  by_cases hprovider : request.provider = current.provider
  · simp [dnsAccountFromRequest, hprovider]
  · simp [dnsAccountFromRequest, hprovider]

/-- The change of a resource, and the validation of the result. -/
lemma ProxyRequest.frame {request : ProxyRequest} {mutate : Mutation ProxyConfig}
    (hprev : prev.Validated parseUri) (hnormal : NormalNames prev)
    (hrequest : request.mutation = .ok mutate) (h : mutate prev = .ok raw) :
    request.Frame prev raw.normal := by
  have hregular := hprev.regular
  have haccounts := hprev.regularAccounts
  cases request with
  | setProxyListener listener =>
    cases hrequest
    cases h
    rw [hnormal.normal_eq]
    rfl
  | createAcmeAccount request =>
    cases hrequest
    cases h
    rw [hnormal.normal_eq]
    rfl
  | updateAcmeAccount id request =>
    cases hrequest
    simp only [Control.updateAcmeAccount] at h
    split at h
    case isTrue => cases h
    case isFalse =>
      obtain ⟨accounts, hchanged, h⟩ := Except.exists_ok_of_bind h
      cases h
      rw [hnormal.normal_eq]
      refine ⟨?_, rfl⟩
      refine (modifyNamed_ok haccounts.acmeIds hchanged).congr fun account hmem _ => ?_
      rw [replacementAcmeAccount_eq (haccounts.secrets account hmem)]
  | deleteAcmeAccount id =>
    cases hrequest
    simp only [Control.deleteAcmeAccount] at h
    split at h
    case isTrue => cases h
    case isFalse =>
      obtain ⟨accounts, hchanged, h⟩ := Except.exists_ok_of_bind h
      cases h
      rw [hnormal.normal_eq]
      exact ⟨removeNamed_ok haccounts.acmeIds hchanged, rfl⟩
  | createDnsAccount request =>
    cases hrequest
    cases h
    rw [hnormal.normal_eq]
    rfl
  | updateDnsAccount id request =>
    cases hrequest
    simp only [Control.updateDnsAccount] at h
    split at h
    case isTrue => cases h
    case isFalse =>
      obtain ⟨accounts, hchanged, h⟩ := Except.exists_ok_of_bind h
      cases h
      rw [hnormal.normal_eq]
      refine ⟨?_, rfl⟩
      refine (modifyNamed_ok haccounts.dnsIds hchanged).congr fun account _ _ => ?_
      rw [replacementDnsAccount_eq]
  | deleteDnsAccount id =>
    cases hrequest
    simp only [Control.deleteDnsAccount] at h
    split at h
    case isTrue => cases h
    case isFalse =>
      obtain ⟨accounts, hchanged, h⟩ := Except.exists_ok_of_bind h
      cases h
      rw [hnormal.normal_eq]
      exact ⟨removeNamed_ok haccounts.dnsIds hchanged, rfl⟩
  | createCertificate certificate =>
    simp only [mutation, Control.createCertificate] at hrequest
    split at hrequest
    case isTrue => cases hrequest
    case isFalse =>
      cases hrequest
      cases h
      rw [Frame, ProxyConfig.normal, List.map_append, hnormal.certificates, hnormal.routes]
      rfl
  | updateCertificate id certificate =>
    simp only [mutation, Control.updateCertificate] at hrequest
    split at hrequest
    case isTrue => cases hrequest
    split at hrequest
    case isTrue => cases hrequest
    case isFalse =>
      cases hrequest
      obtain ⟨certificates, hchanged, h⟩ := Except.exists_ok_of_bind h
      cases h
      refine ⟨(modifyNamed_ok hregular.ids hchanged).map hnormal.1, ?_⟩
      rw [ProxyConfig.normal, hnormal.routes]
  | deleteCertificate id =>
    cases hrequest
    simp only [Control.deleteCertificate] at h
    split at h
    case isTrue => cases h
    case isFalse =>
      obtain ⟨certificates, hchanged, h⟩ := Except.exists_ok_of_bind h
      cases h
      refine ⟨(removeNamed_ok hregular.ids hchanged).map hnormal.1, ?_⟩
      rw [ProxyConfig.normal, hnormal.routes]
  | createRoute route =>
    cases hrequest
    cases h
    rw [Frame, ProxyConfig.normal, List.map_append, hnormal.certificates, hnormal.routes]
    rfl
  | updateRoute originalName route =>
    cases hrequest
    obtain ⟨routes, hchanged, h⟩ := Except.exists_ok_of_bind h
    cases h
    refine ⟨(modifyNamed_ok hregular.names hchanged).map hnormal.2, ?_⟩
    rw [ProxyConfig.normal, hnormal.certificates]
  | deleteRoute name =>
    cases hrequest
    obtain ⟨routes, hchanged, h⟩ := Except.exists_ok_of_bind h
    cases h
    refine ⟨(removeNamed_ok hregular.names hchanged).map hnormal.2, ?_⟩
    rw [ProxyConfig.normal, hnormal.certificates]

end Proxy

/-! ## Every request -/

/-- `ServerConfig::read` on a text, with the parser of the TOML library. -/
def tunnelFormat (parse : String → Except String ServerConfig)
    (toToml : ServerConfig → Except String String) : ConfigFormat ServerConfig where
  default := ⟨⟨⟨.v4 0, 2333⟩, "/etc/gaterust/tunnel/server.pem",
    "/etc/gaterust/tunnel/server-key.pem"⟩, [], []⟩
  toToml := toToml
  read text := do
    let config ← parse text
    config.validate.mapError TunnelError.display
    return config

/-- `ProxyConfig::read` on a text.  The parser also knows the older form of the file. -/
def proxyFormat (parseUri : String → Option Uri) (parse : String → Except String ProxyConfig)
    (toToml : ProxyConfig → Except String String) : ConfigFormat ProxyConfig where
  default := ⟨⟨⟨.v4 0, 80⟩, ⟨.v4 0, 443⟩, "/var/lib/gaterust/proxy/acme", 2048⟩, [], [], [], []⟩
  toToml := toToml
  read text := do
    let config ← parse text
    (config.validate parseUri).mapError Proxy.ProxyError.display

/-- What is written by the library is read by it as what it was. -/
def RoundTrip {C : Type} (parse : String → Except String C) (toToml : C → Except String String) :
    Prop :=
  ∀ config text, toToml config = .ok text → parse text = .ok config

section Effects

variable {C : Type}

lemma mutated_of_loadOptional {f : ConfigFormat C} {file : Option String} {loaded : Option C}
    {mutate : Mutation C} (h : f.loadOptional file = .ok loaded) :
    f.mutated mutate file = mutate (loaded.getD f.default) := by
  rw [ConfigFormat.mutated, h]
  rfl

lemma read_of_loadOptional {f : ConfigFormat C} {file : Option String} {loaded : Option C}
    (h : f.loadOptional file = .ok loaded) :
    loaded = none ∨ ∃ text config, f.read text = .ok config ∧ loaded = some config := by
  cases file with
  | none =>
    cases h
    exact .inl rfl
  | some text =>
    simp only [ConfigFormat.loadOptional] at h
    cases hread : f.read text with
    | error error =>
      rw [hread] at h
      cases h
    | ok config =>
      rw [hread] at h
      cases h
      exact .inr ⟨text, config, hread, rfl⟩

/-- What is written is read back. -/
lemma validated_ok {f : ConfigFormat C} {config stored : C} {text : String}
    (h : f.validated config = .ok (text, stored)) :
    f.toToml config = .ok text ∧ f.read text = .ok stored := by
  obtain ⟨written, hwritten, h⟩ := Except.exists_ok_of_bind h
  cases htext : f.toToml config with
  | error error =>
    rw [htext] at hwritten
    cases hwritten
  | ok text' =>
    rw [htext] at hwritten
    cases hwritten
    cases hread : f.read written with
    | error error =>
      rw [hread] at h
      cases h
    | ok stored' =>
      rw [hread] at h
      cases h
      exact ⟨rfl, hread⟩

lemma tunnelFormat_read {parse : String → Except String ServerConfig}
    {toToml : ServerConfig → Except String String} {text : String} {config : ServerConfig}
    (h : (tunnelFormat parse toToml).read text = .ok config) :
    parse text = .ok config ∧ config.validate = .ok () := by
  obtain ⟨parsed, hparsed, h⟩ := Except.exists_ok_of_bind h
  obtain ⟨⟨⟩, hvalid, h⟩ := Except.exists_ok_of_bind h
  cases h
  exact ⟨hparsed, Except.ok_of_mapError_ok hvalid⟩

lemma proxyFormat_read {parseUri : String → Option Uri} {parse : String → Except String ProxyConfig}
    {toToml : ProxyConfig → Except String String} {text : String} {config : ProxyConfig}
    (h : (proxyFormat parseUri parse toToml).read text = .ok config) :
    ∃ raw, parse text = .ok raw ∧ raw.validate parseUri = .ok config := by
  obtain ⟨raw, hraw, h⟩ := Except.exists_ok_of_bind h
  exact ⟨raw, hraw, Except.ok_of_mapError_ok h⟩

/-- The stored configuration, or the default if there is no file, is valid. -/
lemma tunnelFormat_valid {parse : String → Except String ServerConfig}
    {toToml : ServerConfig → Except String String} {file : Option String}
    {loaded : Option ServerConfig}
    (h : (tunnelFormat parse toToml).loadOptional file = .ok loaded) :
    (loaded.getD (tunnelFormat parse toToml).default).validate = .ok () := by
  obtain rfl | ⟨text, config, hread, rfl⟩ := read_of_loadOptional h
  · rfl
  · exact (tunnelFormat_read hread).2

lemma proxyFormat_valid {parseUri : String → Option Uri}
    {parse : String → Except String ProxyConfig} {toToml : ProxyConfig → Except String String}
    {file : Option String} {loaded : Option ProxyConfig}
    (h : (proxyFormat parseUri parse toToml).loadOptional file = .ok loaded) :
    ∃ raw : ProxyConfig, raw.validate parseUri =
      .ok (loaded.getD (proxyFormat parseUri parse toToml).default) := by
  obtain rfl | ⟨text, config, hread, rfl⟩ := read_of_loadOptional h
  · exact ⟨(proxyFormat parseUri parse toToml).default, rfl⟩
  · obtain ⟨raw, -, hvalid⟩ := proxyFormat_read hread
    exact ⟨raw, hvalid⟩

/-- **What a change does to the file.**  For every stored configuration and every request, whatever
the file system and the module do: the request fails and the file is as it was, or the file has a
configuration that passes the validation and differs from the one before only in the resource of
the request, the tunnels of a group that is renamed or deleted, and the secrets that an update
leaves out are kept. -/
theorem mutation_effect {parse : String → Except String ServerConfig}
    {toToml : ServerConfig → Except String String} (hround : RoundTrip parse toToml)
    {parseUri : String → Option Uri} {parseProxy : String → Except String ProxyConfig}
    {toTomlProxy : ProxyConfig → Except String String}
    (hroundProxy : RoundTrip parseProxy toTomlProxy) :
    (∀ (request : TunnelRequest) (env : Surroundings) (file : Option String)
      (loaded : Option ServerConfig), (tunnelFormat parse toToml).loadOptional file = .ok loaded →
      let outcome := mutateConfig (tunnelFormat parse toToml) env (.ok request.mutation) file
      (∃ error, outcome = (.error (.store error), file)) ∨
        ∃ text next, outcome.2 = some text ∧ (∀ stored, outcome.1 = .ok stored → stored = next) ∧
          parse text = .ok next ∧ next.validate = .ok () ∧
          request.Frame (loaded.getD (tunnelFormat parse toToml).default) next) ∧
    (∀ (request : ProxyRequest) (env : Surroundings) (file : Option String)
      (loaded : Option ProxyConfig),
      (proxyFormat parseUri parseProxy toTomlProxy).loadOptional file = .ok loaded →
      let outcome := mutateConfig (proxyFormat parseUri parseProxy toTomlProxy) env request.mutation
        file
      (∃ error, outcome = (.error (.store error), file)) ∨
        ∃ text raw next, outcome.2 = some text ∧
          (∀ stored, outcome.1 = .ok stored → stored = next) ∧
          parseProxy text = .ok raw ∧ raw.validate parseUri = .ok next ∧
          request.Frame (loaded.getD (proxyFormat parseUri parseProxy toTomlProxy).default)
            next) := by
  constructor
  · intro request env file loaded hloaded
    obtain hfailed | ⟨mutate, config, text, stored, hmutate, hmutated, hvalidated, houtcome⟩ :=
      mutateConfig_cases (tunnelFormat parse toToml) env (.ok request.mutation) file
    · exact .inl hfailed
    right
    cases hmutate
    rw [mutated_of_loadOptional hloaded] at hmutated
    obtain ⟨htext, hread⟩ := validated_ok hvalidated
    obtain ⟨hparsed, hvalid⟩ := tunnelFormat_read hread
    obtain rfl : config = stored := Except.ok.inj ((hround config text htext).symm.trans hparsed)
    rw [houtcome]
    refine ⟨text, config, rfl, fun _ => Surroundings.eq_of_answer, hparsed, hvalid, ?_⟩
    exact TunnelRequest.frame (tunnelFormat_valid hloaded) hmutated
  · intro request env file loaded hloaded
    obtain hfailed | ⟨mutate, config, text, stored, hmutate, hmutated, hvalidated, houtcome⟩ :=
      mutateConfig_cases (proxyFormat parseUri parseProxy toTomlProxy) env request.mutation file
    · exact .inl hfailed
    right
    rw [mutated_of_loadOptional hloaded] at hmutated
    obtain ⟨htext, hread⟩ := validated_ok hvalidated
    obtain ⟨raw, hparsed, hvalid⟩ := proxyFormat_read hread
    obtain rfl : config = raw :=
      Except.ok.inj ((hroundProxy config text htext).symm.trans hparsed)
    obtain ⟨before, hbefore⟩ := proxyFormat_valid hloaded
    obtain ⟨-, hnormal⟩ := ProxyConfig.validate_normal hbefore
    obtain ⟨rfl, -⟩ := ProxyConfig.validate_normal hvalid
    rw [houtcome]
    refine ⟨text, config, _, rfl, fun _ => Surroundings.eq_of_answer, hparsed, hvalid, ?_⟩
    exact ProxyRequest.frame ⟨before, hbefore⟩ hnormal hmutate hmutated

/-! ### A group gets another name, and an account another label -/

section Sample

variable [DecidableEq C]

/-- The texts of some configurations. -/
def parseTable (table : List (String × C)) (text : String) : Except String C :=
  match table.find? (·.1 = text) with
  | some entry => .ok entry.2
  | none => .error "TOML parse error"

def tomlTable (table : List (String × C)) (config : C) : Except String String :=
  match table.find? (·.2 = config) with
  | some entry => .ok entry.1
  | none => .error "unsupported value"

lemma roundTrip_table (table : List (String × C))
    (h : ∀ e ∈ table, parseTable table e.1 = .ok e.2) :
    RoundTrip (parseTable table) (tomlTable table) := by
  intro config text htext
  unfold tomlTable at htext
  split at htext
  case h_1 entry hentry =>
    cases htext
    rw [h entry (List.mem_of_find?_eq_some hentry)]
    have hconfig := List.find?_some hentry
    rw [of_decide_eq_true hconfig]
  case h_2 => cases htext

end Sample

def groupKey : String := "0123456789abcdef0123456789abcdef"

def groupConfig (group : String) : ServerConfig where
  quic := ⟨⟨.v4 0, 2333⟩, "/etc/gaterust/tunnel/server.pem", "/etc/gaterust/tunnel/server-key.pem"⟩
  groups := [⟨group, groupKey⟩]
  tunnels := [⟨"ssh", group, .tcp, ⟨.v4 0, 22022⟩, "127.0.0.1", none, none, 128, 128, 60⟩]

def groupText (group : String) : String :=
  "[quic]\nbind = \"0.0.0.0:2333\"\ncertificate = \"/etc/gaterust/tunnel/server.pem\"\n" ++
    "private_key = \"/etc/gaterust/tunnel/server-key.pem\"\n\n[[groups]]\nname = \"" ++ group ++
    "\"\nkey = \"" ++ groupKey ++ "\"\n\n[[tunnels]]\nname = \"ssh\"\ngroup = \"" ++ group ++
    "\"\nkind = \"tcp\"\nbind = \"0.0.0.0:22022\"\nlocal_ip = \"127.0.0.1\"\n" ++
    "max_connections = 128\nmax_udp_sessions = 128\nudp_idle_seconds = 60\n"

def groupTable : List (String × ServerConfig) :=
  [(groupText "office", groupConfig "office"), (groupText "lab", groupConfig "lab")]

def dnsConfig (name : String) : ProxyConfig where
  proxy := ⟨⟨.v4 0, 80⟩, ⟨.v4 0, 443⟩, "/var/lib/gaterust/proxy/acme", 2048⟩
  acmeAccounts := []
  dnsAccounts := [⟨"cloudflare", name, .cloudflare, some "scoped-token", none, none⟩]
  certificates := []
  routes := []

def dnsText (name : String) : String :=
  "acme_accounts = []\ncertificates = []\nroutes = []\n\n[proxy]\n" ++
    "http_bind = \"0.0.0.0:80\"\nhttps_bind = \"0.0.0.0:443\"\n" ++
    "cache_dir = \"/var/lib/gaterust/proxy/acme\"\nmax_connections = 2048\n\n" ++
    "[[dns_accounts]]\nid = \"cloudflare\"\nname = \"" ++ name ++
    "\"\nprovider = \"cloudflare\"\napi_token = \"scoped-token\"\n"

def dnsTable : List (String × ProxyConfig) :=
  [(dnsText "first", dnsConfig "first"), (dnsText "second", dnsConfig "second")]

/-- No error anywhere, and no module runs. -/
def quietSurroundings : Surroundings := ⟨.ok (), .ok (), .ok (), none⟩

def renameGroup : TunnelRequest := .updateGroup "office" ⟨"lab", groupKey⟩

/-- The request has no token. -/
def renameDnsAccount : ProxyRequest :=
  .updateDnsAccount "cloudflare" ⟨"cloudflare", "second", .cloudflare, none, none, none⟩

def groupFormat : ConfigFormat ServerConfig :=
  tunnelFormat (parseTable groupTable) (tomlTable groupTable)

def dnsFormat : ConfigFormat ProxyConfig :=
  proxyFormat (fun _ => none) (parseTable dnsTable) (tomlTable dnsTable)

theorem group_renamed_token_kept :
    (mutateConfig groupFormat quietSurroundings (.ok renameGroup.mutation)
        (some (groupText "office"))).2 = some (groupText "lab") ∧
      renameGroup.Frame (groupConfig "office") (groupConfig "lab") ∧
    (mutateConfig dnsFormat quietSurroundings renameDnsAccount.mutation
        (some (dnsText "first"))).2 = some (dnsText "second") ∧
      renameDnsAccount.Frame (dnsConfig "first") (dnsConfig "second") := by
  obtain ⟨htunnel, hproxy⟩ := @mutation_effect _ _ (roundTrip_table groupTable (by decide +kernel))
    (fun _ => none) _ _ (roundTrip_table dnsTable (by decide +kernel))
  have hgroup : (mutateConfig groupFormat quietSurroundings (.ok renameGroup.mutation)
      (some (groupText "office"))).2 = some (groupText "lab") := by decide +kernel
  have hdns : (mutateConfig dnsFormat quietSurroundings renameDnsAccount.mutation
      (some (dnsText "first"))).2 = some (dnsText "second") := by decide +kernel
  refine ⟨hgroup, ?_, hdns, ?_⟩
  · have hloaded : groupFormat.loadOptional (some (groupText "office")) =
        .ok (some (groupConfig "office")) := by decide +kernel
    have hlab : parseTable groupTable (groupText "lab") = .ok (groupConfig "lab") := by
      decide +kernel
    obtain ⟨error, herror⟩ | ⟨text, next, htext, -, hnext, -, hframe⟩ :=
      htunnel renameGroup quietSurroundings _ _ hloaded
    · have hsame : some (groupText "office") = some (groupText "lab") :=
        (congrArg Prod.snd herror).symm.trans hgroup
      exact absurd hsame (by decide +kernel)
    · obtain rfl : groupText "lab" = text := Option.some.inj (hgroup.symm.trans htext)
      obtain rfl := Except.ok.inj (hlab.symm.trans hnext)
      exact hframe
  · have hloaded : dnsFormat.loadOptional (some (dnsText "first")) =
        .ok (some (dnsConfig "first")) := by decide +kernel
    have hsecond : parseTable dnsTable (dnsText "second") = .ok (dnsConfig "second") := by
      decide +kernel
    have hvalid : (dnsConfig "second").validate (fun _ => none) = .ok (dnsConfig "second") := by
      decide +kernel
    obtain ⟨error, herror⟩ | ⟨text, raw, next, htext, -, hraw, hnext, hframe⟩ :=
      hproxy renameDnsAccount quietSurroundings _ _ hloaded
    · have hsame : some (dnsText "first") = some (dnsText "second") :=
        (congrArg Prod.snd herror).symm.trans hdns
      exact absurd hsame (by decide +kernel)
    · obtain rfl : dnsText "second" = text := Option.some.inj (hdns.symm.trans htext)
      obtain rfl := Except.ok.inj (hsecond.symm.trans hraw)
      obtain rfl := Except.ok.inj (hvalid.symm.trans hnext)
      exact hframe

end Effects

end GateRust.Control
