/-
# Secrets of the proxy configuration

The keys of ACME accounts and DNS accounts go into the configuration file and are kept there.  What
the control plane answers, and the snapshot that it shows, have for each of them only whether it is
configured.  This is more than a matter of the view: the changes and the validation read the
secrets, and an error could depend on one.

Replacing every secret by a mark that only tells an empty one from the others commutes with each
change, with the validation and with the view.  So two runs that differ in their secrets alone
answer alike, as long as the parser accepts what other programs write into the file.  The error of
the parser is answered as it is, and it quotes the line where the file is wrong.
-/
import GateRust.Control.Snapshots

namespace GateRust.Control

open Proxy (AcmeAccountConfig DnsAccountConfig CertificateConfig RouteConfig ProxyConfig ProxyError
  Uri)

/-! ## What is left of a secret -/

/-- A secret without its text.  Whether it is empty remains: no account may have an empty one. -/
def redactSecret (secret : Option String) : Option String :=
  secret.map fun value => if value = "" then "" else "•"

@[simp]
lemma redactSecret_isSome (secret : Option String) :
    (redactSecret secret).isSome = secret.isSome := by
  simp [redactSecret]

@[simp]
lemma redactSecret_isNone (secret : Option String) :
    (redactSecret secret).isNone = secret.isNone := by
  simp [redactSecret]

@[simp]
lemma redactSecret_all_empty (secret : Option String) :
    (redactSecret secret).all (· = "") = secret.all (· = "") := by
  cases secret with
  | none => rfl
  | some value => by_cases h : value = "" <;> simp [redactSecret, h]

end GateRust.Control

namespace GateRust.Proxy

open Control (redactSecret)

def AcmeAccountConfig.redact (account : AcmeAccountConfig) : AcmeAccountConfig :=
  { account with eabHmacKey := redactSecret account.eabHmacKey }

def DnsAccountConfig.redact (account : DnsAccountConfig) : DnsAccountConfig :=
  { account with
    apiToken := redactSecret account.apiToken
    accessKey := redactSecret account.accessKey
    secretKey := redactSecret account.secretKey }

def ProxyConfig.redact (config : ProxyConfig) : ProxyConfig :=
  { config with
    acmeAccounts := config.acmeAccounts.map AcmeAccountConfig.redact
    dnsAccounts := config.dnsAccounts.map DnsAccountConfig.redact }

/-! ## The validation -/

lemma AcmeAccountConfig.validate_redact (account : AcmeAccountConfig) :
    account.redact.validate = account.validate := by
  cases hprovider : account.provider <;>
    simp [AcmeAccountConfig.validate, AcmeAccountConfig.redact, hprovider, requireSecret,
      rejectSecret]

lemma DnsAccountConfig.validate_redact (account : DnsAccountConfig) :
    account.redact.validate = account.validate := by
  cases hprovider : account.provider <;>
    simp [DnsAccountConfig.validate, DnsAccountConfig.redact, hprovider, requireSecret,
      rejectSecret]

lemma validateAcmeAccount_redact (seen : SeenAccounts) (account : AcmeAccountConfig) :
    validateAcmeAccount seen account.redact = validateAcmeAccount seen account := by
  rw [validateAcmeAccount, AcmeAccountConfig.validate_redact]
  rfl

lemma validateDnsAccount_redact (seen : SeenAccounts) (account : DnsAccountConfig) :
    validateDnsAccount seen account.redact = validateDnsAccount seen account := by
  rw [validateDnsAccount, DnsAccountConfig.validate_redact]
  rfl

/-- The validation checks secrets for being there and not empty. -/
theorem ProxyConfig.validate_redact (parseUri : String → Option Uri) (config : ProxyConfig) :
    config.redact.validate parseUri = (config.validate parseUri).map ProxyConfig.redact := by
  have hacme : config.redact.acmeAccounts.foldlM validateAcmeAccount ⟨[], []⟩ =
      config.acmeAccounts.foldlM validateAcmeAccount ⟨[], []⟩ := by
    simp only [ProxyConfig.redact, List.foldlM_map, validateAcmeAccount_redact]
  have hdns : config.redact.dnsAccounts.foldlM validateDnsAccount ⟨[], []⟩ =
      config.dnsAccounts.foldlM validateDnsAccount ⟨[], []⟩ := by
    simp only [ProxyConfig.redact, List.foldlM_map, validateDnsAccount_redact]
  have hacmeIds : config.redact.acmeAccounts.map (·.id) = config.acmeAccounts.map (·.id) := by
    simp [ProxyConfig.redact, AcmeAccountConfig.redact]
  have hdnsIds : config.redact.dnsAccounts.map (·.id) = config.dnsAccounts.map (·.id) := by
    simp [ProxyConfig.redact, DnsAccountConfig.redact]
  have hacmeLength : config.redact.acmeAccounts.length = config.acmeAccounts.length := by
    simp [ProxyConfig.redact]
  have hdnsLength : config.redact.dnsAccounts.length = config.dnsAccounts.length := by
    simp [ProxyConfig.redact]
  unfold ProxyConfig.validate
  rw [hacme, hdns, hacmeIds, hdnsIds, hacmeLength, hdnsLength]
  simp only [Except.map_bind]
  rfl

end GateRust.Proxy

namespace GateRust.Control

open Proxy (AcmeAccountConfig DnsAccountConfig CertificateConfig RouteConfig ProxyConfig ProxyError
  Uri)

/-! ## The view -/

/-- Two configurations that differ in secrets only have one view. -/
lemma ProxyConfigView.ofConfig_redact (config : ProxyConfig) :
    ofConfig config.redact = ofConfig config := by
  simp [ofConfig, ProxyConfig.redact, AcmeAccountConfig.redact, DnsAccountConfig.redact,
    Function.comp_def]

/-! ## The changes -/

def AcmeAccountRequest.redact (request : AcmeAccountRequest) : AcmeAccountRequest :=
  { request with eabHmacKey := redactSecret request.eabHmacKey }

def DnsAccountRequest.redact (request : DnsAccountRequest) : DnsAccountRequest :=
  { request with
    apiToken := redactSecret request.apiToken
    accessKey := redactSecret request.accessKey
    secretKey := redactSecret request.secretKey }

def ProxyRequest.redact : ProxyRequest → ProxyRequest
  | .createAcmeAccount request => .createAcmeAccount request.redact
  | .updateAcmeAccount id request => .updateAcmeAccount id request.redact
  | .createDnsAccount request => .createDnsAccount request.redact
  | .updateDnsAccount id request => .updateDnsAccount id request.redact
  | .setProxyListener listener => .setProxyListener listener
  | .deleteAcmeAccount id => .deleteAcmeAccount id
  | .deleteDnsAccount id => .deleteDnsAccount id
  | .createCertificate certificate => .createCertificate certificate
  | .updateCertificate id certificate => .updateCertificate id certificate
  | .deleteCertificate id => .deleteCertificate id
  | .createRoute route => .createRoute route
  | .updateRoute originalName route => .updateRoute originalName route
  | .deleteRoute name => .deleteRoute name

section Named

variable {α : Type} {key : α → String} {name kind : String} {items : List α} {f : α → α}

/-- Changes that keep the names can be made before the named item is changed. -/
lemma modifyNamed_map {change change' : α → α} (hkey : ∀ x, key (f x) = key x)
    (hchange : ∀ x, change' (f x) = f (change x)) :
    modifyNamed key name kind change' (items.map f) =
      (modifyNamed key name kind change items).map (List.map f) := by
  unfold modifyNamed
  rw [List.findIdx?_map]
  simp only [Function.comp_def, hkey]
  cases items.findIdx? fun item => key item = name with
  | none => rfl
  | some i =>
    refine congrArg Except.ok (List.ext_getElem? fun j => ?_)
    simp only [List.getElem?_modify, List.getElem?_map, Option.map_eq_map, Option.map_map]
    congr 1
    funext x
    by_cases hij : i = j <;> simp [hij, hchange]

lemma removeNamed_map (hkey : ∀ x, key (f x) = key x) :
    removeNamed key name kind (items.map f) =
      (removeNamed key name kind items).map (List.map f) := by
  simp only [removeNamed, List.filter_map, Function.comp_def, hkey, List.length_map]
  split <;> rfl

end Named

lemma keptSecret_redact {P : Type} [DecidableEq P] (provider stored : P)
    (requested current : Option String) :
    keptSecret provider stored (redactSecret requested) (redactSecret current) =
      redactSecret (keptSecret provider stored requested current) := by
  cases requested with
  | none => by_cases h : provider = stored <;> simp [keptSecret, redactSecret, h]
  | some secret => simp [keptSecret, redactSecret]

lemma replacementAcmeAccount_redact (request : AcmeAccountRequest) (current : AcmeAccountConfig) :
    replacementAcmeAccount request.redact current.redact =
      (replacementAcmeAccount request current).redact := by
  cases hrequested : request.eabHmacKey with
  | some secret =>
    simp [replacementAcmeAccount, acmeAccountFromRequest, AcmeAccountRequest.redact,
      AcmeAccountConfig.redact, redactSecret, hrequested]
  | none =>
    by_cases hprovider : request.provider = .googleCloud
    · by_cases hcurrent : current.provider = .googleCloud
      · simp [replacementAcmeAccount, acmeAccountFromRequest, AcmeAccountRequest.redact,
          AcmeAccountConfig.redact, redactSecret, hrequested, hprovider, hcurrent]
      · simp [replacementAcmeAccount, acmeAccountFromRequest, AcmeAccountRequest.redact,
          AcmeAccountConfig.redact, redactSecret, hrequested, hprovider, hcurrent]
    · simp [replacementAcmeAccount, acmeAccountFromRequest, AcmeAccountRequest.redact,
        AcmeAccountConfig.redact, redactSecret, hrequested, hprovider]

lemma replacementDnsAccount_redact (request : DnsAccountRequest) (current : DnsAccountConfig) :
    replacementDnsAccount request.redact current.redact =
      (replacementDnsAccount request current).redact := by
  rw [replacementDnsAccount_eq, replacementDnsAccount_eq]
  simp only [dnsAccountFromRequest, DnsAccountRequest.redact, DnsAccountConfig.redact,
    keptSecret_redact]

section Changes

variable (config : ProxyConfig)

lemma acmeAccounts_redact
    {edit edit' : List AcmeAccountConfig → Except ControlError (List AcmeAccountConfig)}
    (h : edit' (config.acmeAccounts.map AcmeAccountConfig.redact) =
      (edit config.acmeAccounts).map (List.map AcmeAccountConfig.redact)) :
    (do
      let acmeAccounts ← edit' config.redact.acmeAccounts
      return { config.redact with acmeAccounts }) =
    (do
      let acmeAccounts ← edit config.acmeAccounts
      return { config with acmeAccounts }).map ProxyConfig.redact := by
  show (edit' (config.acmeAccounts.map AcmeAccountConfig.redact) >>= _) = _
  rw [h]
  cases edit config.acmeAccounts <;> rfl

lemma dnsAccounts_redact
    {edit edit' : List DnsAccountConfig → Except ControlError (List DnsAccountConfig)}
    (h : edit' (config.dnsAccounts.map DnsAccountConfig.redact) =
      (edit config.dnsAccounts).map (List.map DnsAccountConfig.redact)) :
    (do
      let dnsAccounts ← edit' config.redact.dnsAccounts
      return { config.redact with dnsAccounts }) =
    (do
      let dnsAccounts ← edit config.dnsAccounts
      return { config with dnsAccounts }).map ProxyConfig.redact := by
  show (edit' (config.dnsAccounts.map DnsAccountConfig.redact) >>= _) = _
  rw [h]
  cases edit config.dnsAccounts <;> rfl

lemma certificates_redact
    (edit : List CertificateConfig → Except ControlError (List CertificateConfig)) :
    (do
      let certificates ← edit config.redact.certificates
      return { config.redact with certificates }) =
    (do
      let certificates ← edit config.certificates
      return { config with certificates }).map ProxyConfig.redact := by
  show (edit config.certificates >>= _) = _
  cases edit config.certificates <;> rfl

lemma routes_redact (edit : List RouteConfig → Except ControlError (List RouteConfig)) :
    (do
      let routes ← edit config.redact.routes
      return { config.redact with routes }) =
    (do
      let routes ← edit config.routes
      return { config with routes }).map ProxyConfig.redact := by
  show (edit config.routes >>= _) = _
  cases edit config.routes <;> rfl

lemma updateAcmeAccount_redact (id : String) (request : AcmeAccountRequest) :
    updateAcmeAccount id request.redact config.redact =
      (updateAcmeAccount id request config).map ProxyConfig.redact := by
  by_cases hid : request.id = id
  · have hid' : request.redact.id = id := hid
    simp only [updateAcmeAccount, hid, hid', ne_eq, not_true_eq_false, if_false]
    exact acmeAccounts_redact config
      (modifyNamed_map (fun _ => rfl) (replacementAcmeAccount_redact request))
  · have hid' : request.redact.id ≠ id := hid
    simp only [updateAcmeAccount, hid, hid', ne_eq, not_false_eq_true, if_true]
    rfl

lemma updateDnsAccount_redact (id : String) (request : DnsAccountRequest) :
    updateDnsAccount id request.redact config.redact =
      (updateDnsAccount id request config).map ProxyConfig.redact := by
  by_cases hid : request.id = id
  · have hid' : request.redact.id = id := hid
    simp only [updateDnsAccount, hid, hid', ne_eq, not_true_eq_false, if_false]
    exact dnsAccounts_redact config
      (modifyNamed_map (fun _ => rfl) (replacementDnsAccount_redact request))
  · have hid' : request.redact.id ≠ id := hid
    simp only [updateDnsAccount, hid, hid', ne_eq, not_false_eq_true, if_true]
    rfl

lemma deleteAcmeAccount_redact (id : String) :
    deleteAcmeAccount id config.redact = (deleteAcmeAccount id config).map ProxyConfig.redact := by
  unfold deleteAcmeAccount
  show (if (config.certificates.any fun certificate => certificate.acmeAccountId = id) then _
    else _) = _
  split
  · rfl
  · exact acmeAccounts_redact config (removeNamed_map fun _ => rfl)

lemma deleteDnsAccount_redact (id : String) :
    deleteDnsAccount id config.redact = (deleteDnsAccount id config).map ProxyConfig.redact := by
  unfold deleteDnsAccount
  show (if (config.certificates.any fun certificate =>
    certificate.validation = some (.dnsAccount id)) then _ else _) = _
  split
  · rfl
  · exact dnsAccounts_redact config (removeNamed_map fun _ => rfl)

lemma deleteCertificate_redact (id : String) :
    deleteCertificate id config.redact = (deleteCertificate id config).map ProxyConfig.redact := by
  unfold deleteCertificate
  show (if (config.routes.any fun route => route.certificateId = some id) then _ else _) = _
  split
  · rfl
  · exact certificates_redact config _

end Changes

/-- A change with redacted secrets makes of a redacted configuration the redacted result. -/
theorem ProxyRequest.mutation_redact (request : ProxyRequest) (config : ProxyConfig) :
    (request.redact.mutation.bind fun mutate => mutate config.redact) =
      (request.mutation.bind fun mutate => mutate config).map ProxyConfig.redact := by
  cases request with
  | setProxyListener listener => rfl
  | createAcmeAccount request =>
    have haccounts : (config.acmeAccounts ++ [acmeAccountFromRequest request]).map
        AcmeAccountConfig.redact = config.acmeAccounts.map AcmeAccountConfig.redact ++
          [acmeAccountFromRequest request.redact] := List.map_append
    exact congrArg (fun acmeAccounts => Except.ok { config.redact with acmeAccounts })
      haccounts.symm
  | updateAcmeAccount id request => exact updateAcmeAccount_redact config id request
  | deleteAcmeAccount id => exact deleteAcmeAccount_redact config id
  | createDnsAccount request =>
    have haccounts : (config.dnsAccounts ++ [dnsAccountFromRequest request]).map
        DnsAccountConfig.redact = config.dnsAccounts.map DnsAccountConfig.redact ++
          [dnsAccountFromRequest request.redact] := List.map_append
    exact congrArg (fun dnsAccounts => Except.ok { config.redact with dnsAccounts })
      haccounts.symm
  | updateDnsAccount id request => exact updateDnsAccount_redact config id request
  | deleteDnsAccount id => exact deleteDnsAccount_redact config id
  | createCertificate certificate =>
    simp only [redact, mutation, Control.createCertificate]
    split <;> rfl
  | updateCertificate id certificate =>
    simp only [redact, mutation, Control.updateCertificate]
    split
    · rfl
    · split
      · rfl
      · exact certificates_redact config _
  | deleteCertificate id => exact deleteCertificate_redact config id
  | createRoute route => rfl
  | updateRoute originalName route => exact routes_redact config _
  | deleteRoute name => exact routes_redact config _

/-- Whether a request is refused before the file is read does not depend on a secret. -/
lemma ProxyRequest.mutation_redact_alike (request : ProxyRequest) :
    (request.redact.mutation.map fun _ => ()) = request.mutation.map fun _ => () := by
  cases request with
  | setProxyListener => rfl
  | createAcmeAccount => rfl
  | updateAcmeAccount => rfl
  | deleteAcmeAccount => rfl
  | createDnsAccount => rfl
  | updateDnsAccount => rfl
  | deleteDnsAccount => rfl
  | createCertificate => rfl
  | updateCertificate => rfl
  | deleteCertificate => rfl
  | createRoute => rfl
  | updateRoute => rfl
  | deleteRoute => rfl

/-! ## Runs that differ in secrets -/

/-- What a step shows: the answer, and what the snapshot has after a reload of the file. -/
structure Shown where
  answer : Option (Except MutateError ProxyConfigView)
  snapshot : Except ControlError (Option ProxyConfigView)
deriving DecidableEq

inductive ProxyStep where
  | request (request : ProxyRequest) (env : Surroundings)
  /-- Another program replaces or removes the file. -/
  | edit (file : Option String)

/-- What the steps show, one after the other. -/
def shown (f : ConfigFormat ProxyConfig) : List ProxyStep → Option String → List Shown
  | [], _ => []
  | .request request env :: steps, file =>
    let outcome := mutateConfig f env request.mutation file
    ⟨some (outcome.1.map ProxyConfigView.ofConfig),
      (f.loadOptional outcome.2).map (Option.map ProxyConfigView.ofConfig)⟩ ::
        shown f steps outcome.2
  | .edit file :: steps, _ =>
    ⟨none, (f.loadOptional file).map (Option.map ProxyConfigView.ofConfig)⟩ :: shown f steps file

/-- The configurations differ in their secrets at most. -/
def AlikeConfigs (config config' : ProxyConfig) : Prop := config.redact = config'.redact

/-- Both files are missing, or the parser accepts both and their configurations differ in their
secrets at most. -/
inductive AlikeFiles (parse : String → Except String ProxyConfig) :
    Option String → Option String → Prop where
  | missing : AlikeFiles parse none none
  | texts {text text' : String} {config config' : ProxyConfig} (hparse : parse text = .ok config)
    (hparse' : parse text' = .ok config') (h : AlikeConfigs config config') :
    AlikeFiles parse (some text) (some text')

/-- What is read from two such files. -/
def AlikeLoaded (loaded loaded' : Option ProxyConfig) : Prop :=
  loaded.map ProxyConfig.redact = loaded'.map ProxyConfig.redact

/-- The text that is written, and what is read back from it. -/
def AlikeWritten (parse : String → Except String ProxyConfig)
    (written written' : String × ProxyConfig) : Prop :=
  AlikeFiles parse (some written.1) (some written'.1) ∧ AlikeConfigs written.2 written'.2

/-- Whether a configuration can be written does not depend on a secret. -/
def WritesAlike (toToml : ProxyConfig → Except String String) : Prop :=
  ∀ config config', AlikeConfigs config config' →
    (toToml config).map (fun _ => ()) = (toToml config').map fun _ => ()

inductive AlikeSteps (parse : String → Except String ProxyConfig) : ProxyStep → ProxyStep → Prop
    where
  | request {request request' : ProxyRequest} {env : Surroundings}
    (h : request.redact = request'.redact) :
    AlikeSteps parse (.request request env) (.request request' env)
  | edit {file file' : Option String} (h : AlikeFiles parse file file') :
    AlikeSteps parse (.edit file) (.edit file')

section Runs

variable {parseUri : String → Option Uri} {parse : String → Except String ProxyConfig}
  {toToml : ProxyConfig → Except String String} {config config' : ProxyConfig}
  {file file' : Option String}

lemma AlikeConfigs.view_eq (h : AlikeConfigs config config') :
    ProxyConfigView.ofConfig config = ProxyConfigView.ofConfig config' := by
  rw [← ProxyConfigView.ofConfig_redact config, ← ProxyConfigView.ofConfig_redact config', h]

lemma AlikeConfigs.validate (h : AlikeConfigs config config') :
    (config.validate parseUri).Alike AlikeConfigs (config'.validate parseUri) :=
  .of_map_eq (by rw [← ProxyConfig.validate_redact, ← ProxyConfig.validate_redact, h])

lemma alike_read {text text' : String} (hparse : parse text = .ok config)
    (hparse' : parse text' = .ok config') (h : AlikeConfigs config config') :
    ((proxyFormat parseUri parse toToml).read text).Alike AlikeConfigs
      ((proxyFormat parseUri parse toToml).read text') := by
  show (Except.bind (parse text) _).Alike _ (Except.bind (parse text') _)
  rw [hparse, hparse']
  exact h.validate.mapError

lemma AlikeFiles.load (h : AlikeFiles parse file file') :
    ((proxyFormat parseUri parse toToml).loadOptional file).Alike AlikeLoaded
      ((proxyFormat parseUri parse toToml).loadOptional file') := by
  cases h with
  | missing => exact .ok rfl
  | @texts text text' config config' hparse hparse' h =>
    have hread : ((proxyFormat parseUri parse toToml).read text).Alike AlikeConfigs
        ((proxyFormat parseUri parse toToml).read text') :=
      alike_read hparse hparse' h
    have hsome : (((proxyFormat parseUri parse toToml).read text).map some).Alike AlikeLoaded
        (((proxyFormat parseUri parse toToml).read text').map some) :=
      hread.map fun _ _ hconfig => congrArg some hconfig
    exact hsome.mapError

/-- What the snapshot has of a file. -/
lemma AlikeFiles.snapshot_eq (h : AlikeFiles parse file file') :
    ((proxyFormat parseUri parse toToml).loadOptional file).map
        (Option.map ProxyConfigView.ofConfig) =
      ((proxyFormat parseUri parse toToml).loadOptional file').map
        (Option.map ProxyConfigView.ofConfig) := by
  refine AlikeFiles.load h |>.map_eq fun loaded loaded' hloaded => ?_
  have hview : ProxyConfigView.ofConfig ∘ ProxyConfig.redact = ProxyConfigView.ofConfig :=
    funext ProxyConfigView.ofConfig_redact
  rw [← hview, ← Option.map_map, ← Option.map_map, hloaded]

/-- Changes of configurations that differ in secrets, by requests that differ in secrets. -/
lemma alike_mutation {request request' : ProxyRequest} (hrequest : request.redact = request'.redact)
    (h : AlikeConfigs config config') :
    (request.mutation.bind fun mutate => mutate config).Alike AlikeConfigs
      (request'.mutation.bind fun mutate => mutate config') :=
  .of_map_eq (by rw [← ProxyRequest.mutation_redact, ← ProxyRequest.mutation_redact, hrequest, h])

lemma alike_validated (hround : RoundTrip parse toToml) (hwrite : WritesAlike toToml)
    (h : AlikeConfigs config config') :
    ((proxyFormat parseUri parse toToml).validated config).Alike (AlikeWritten parse)
      ((proxyFormat parseUri parse toToml).validated config') := by
  have hsame := hwrite config config' h
  show (Except.bind ((toToml config).mapError _) _).Alike _
    (Except.bind ((toToml config').mapError _) _)
  cases htext : toToml config with
  | error error =>
    rw [htext] at hsame
    cases htext' : toToml config' with
    | error error' =>
      rw [htext'] at hsame
      cases hsame
      exact .error _
    | ok text' =>
      rw [htext'] at hsame
      cases hsame
  | ok text =>
    rw [htext] at hsame
    cases htext' : toToml config' with
    | error error' =>
      rw [htext'] at hsame
      cases hsame
    | ok text' =>
      have hparsed := hround config text htext
      have hparsed' := hround config' text' htext'
      have hfile : AlikeFiles parse (some text) (some text') := .texts hparsed hparsed' h
      refine Except.Alike.mapError ?_
      exact (alike_read hparsed hparsed' h).map fun stored stored' hstored => ⟨hfile, hstored⟩

lemma AlikeLoaded.getD {loaded loaded' : Option ProxyConfig} (h : AlikeLoaded loaded loaded')
    (default : ProxyConfig) : AlikeConfigs (loaded.getD default) (loaded'.getD default) := by
  cases loaded with
  | none =>
    cases loaded' with
    | none => rfl
    | some => cases h
  | some =>
    cases loaded' with
    | none => cases h
    | some => exact Option.some.inj h

/-- What a request wants to write. -/
lemma alike_mutated {request request' : ProxyRequest} (hrequest : request.redact = request'.redact)
    (hfile : AlikeFiles parse file file') :
    let f := proxyFormat parseUri parse toToml
    (request.mutation.bind fun mutate => f.mutated mutate file).Alike AlikeConfigs
      (request'.mutation.bind fun mutate => f.mutated mutate file') := by
  intro f
  have hrefused : (request.mutation.map fun _ => ()) = request'.mutation.map fun _ => () := by
    rw [← request.mutation_redact_alike, ← request'.mutation_redact_alike, hrequest]
  have hchanged {config config' : ProxyConfig} (h : AlikeConfigs config config') :=
    alike_mutation hrequest h
  cases hmutate : request.mutation with
  | error error =>
    rw [hmutate] at hrefused
    cases hmutate' : request'.mutation with
    | error error' =>
      rw [hmutate'] at hrefused
      cases hrefused
      exact .error error
    | ok mutate' =>
      rw [hmutate'] at hrefused
      cases hrefused
  | ok mutate =>
    rw [hmutate] at hrefused hchanged
    cases hmutate' : request'.mutation with
    | error error' =>
      rw [hmutate'] at hrefused
      cases hrefused
    | ok mutate' =>
      rw [hmutate'] at hchanged
      exact hfile.load.bind fun loaded loaded' hloaded => hchanged (hloaded.getD f.default)

lemma Surroundings.answer_alike (env : Surroundings) (h : AlikeConfigs config config') :
    (env.answer config).map ProxyConfigView.ofConfig =
      (env.answer config').map ProxyConfigView.ofConfig := by
  unfold Surroundings.answer
  split
  all_goals first
    | rfl
    | exact congrArg Except.ok h.view_eq

/-- A request shows the same and leaves files that are alike. -/
lemma alike_mutateConfig (hround : RoundTrip parse toToml) (hwrite : WritesAlike toToml)
    {request request' : ProxyRequest} (hrequest : request.redact = request'.redact)
    (env : Surroundings) (hfile : AlikeFiles parse file file') :
    let f := proxyFormat parseUri parse toToml
    (mutateConfig f env request.mutation file).1.map ProxyConfigView.ofConfig =
        (mutateConfig f env request'.mutation file').1.map ProxyConfigView.ofConfig ∧
      AlikeFiles parse (mutateConfig f env request.mutation file).2
        (mutateConfig f env request'.mutation file').2 := by
  intro f
  have hmutated : (request.mutation.bind fun mutate => f.mutated mutate file).Alike AlikeConfigs
      (request'.mutation.bind fun mutate => f.mutated mutate file') :=
    alike_mutated hrequest hfile
  have hprepared : ((request.mutation.bind fun mutate => f.mutated mutate file).bind
      f.validated).Alike (AlikeWritten parse)
      ((request'.mutation.bind fun mutate => f.mutated mutate file').bind f.validated) :=
    hmutated.bind fun config config' hconfig => alike_validated hround hwrite hconfig
  clear hmutated
  unfold mutateConfig
  generalize (request.mutation.bind fun mutate => f.mutated mutate file).bind f.validated = prepared
    at hprepared
  generalize (request'.mutation.bind fun mutate => f.mutated mutate file').bind f.validated =
    prepared' at hprepared
  cases hprepared with
  | error error => exact ⟨rfl, hfile⟩
  | @ok written written' hwritten =>
    cases env.io with
    | error error => exact ⟨rfl, hfile⟩
    | ok => exact ⟨env.answer_alike hwritten.2, hwritten.1⟩

/-- **Two runs that differ in secrets show the same.**  Whatever requests come and whatever other
programs write into the file that the parser accepts, as long as the two runs agree up to the texts
of secrets, every answer and every snapshot of one run is that of the other, the errors included.
What the operating system and the module report is the same in both. -/
theorem shown_eq_of_alike (hround : RoundTrip parse toToml) (hwrite : WritesAlike toToml)
    {steps steps' : List ProxyStep} (hsteps : List.Forall₂ (AlikeSteps parse) steps steps')
    (hfile : AlikeFiles parse file file') :
    shown (proxyFormat parseUri parse toToml) steps file =
      shown (proxyFormat parseUri parse toToml) steps' file' := by
  induction hsteps generalizing file file' with
  | nil => rfl
  | cons hstep hsteps ih =>
    cases hstep with
    | request hrequest =>
      obtain ⟨hanswer, hnext⟩ := alike_mutateConfig hround hwrite hrequest _ hfile
      simp only [shown]
      rw [hanswer, hnext.snapshot_eq, ih hnext]
    | edit hfile =>
      simp only [shown]
      rw [hfile.snapshot_eq, ih hfile]

/-- A file that the parser refuses is another matter: every request that comes to read it is
answered with the error of the parser, so that this shows whatever the error quotes. -/
theorem mutateConfig_of_refused {text message : String} (hparse : parse text = .error message)
    {request : ProxyRequest} {mutate : Mutation ProxyConfig}
    (hmutate : request.mutation = .ok mutate) (env : Surroundings) :
    mutateConfig (proxyFormat parseUri parse toToml) env request.mutation (some text) =
      (.error (.store (.readRuntimeConfig message)), some text) := by
  have hread : (proxyFormat parseUri parse toToml).read text = .error message := by
    show Except.bind (parse text) _ = _
    rw [hparse]
    rfl
  rw [mutateConfig, hmutate, Except.bind, ConfigFormat.mutated, ConfigFormat.loadOptional, hread]
  rfl

end Runs

/-! ### Two tokens of one account -/

/-- The files with one account, up to its token. -/
def tokenHead : String :=
  "acme_accounts = []\ncertificates = []\nroutes = []\n\n[proxy]\n" ++
    "http_bind = \"0.0.0.0:80\"\nhttps_bind = \"0.0.0.0:443\"\n" ++
    "cache_dir = \"/var/lib/gaterust/proxy/acme\"\nmax_connections = 2048\n\n" ++
    "[[dns_accounts]]\nid = \"cloudflare\"\nname = \"first\"\nprovider = \"cloudflare\"\n" ++
    "api_token = \""

def tokenTail : String := "\"\n"

def tokenConfig (token : String) : ProxyConfig :=
  { dnsConfig "first" with
    dnsAccounts := [⟨"cloudflare", "first", .cloudflare, some token, none, none⟩] }

def tokenOf (config : ProxyConfig) : String :=
  ((config.dnsAccounts.head?.bind (·.apiToken)).getD "")

def tokenInText (text : String) : String :=
  String.ofList ((text.toList.drop tokenHead.length).rdrop tokenTail.length)

def parseToken (text : String) : Except String ProxyConfig :=
  if text = tokenHead ++ tokenInText text ++ tokenTail then .ok (tokenConfig (tokenInText text))
  else .error "TOML parse error"

def tomlToken (config : ProxyConfig) : Except String String :=
  if config = tokenConfig (tokenOf config) then .ok (tokenHead ++ tokenOf config ++ tokenTail)
  else .error "unsupported value"

lemma roundTrip_token : RoundTrip parseToken tomlToken := by
  intro config text htext
  unfold tomlToken at htext
  split at htext
  case isTrue hconfig =>
    cases htext
    have htoken : tokenInText (tokenHead ++ tokenOf config ++ tokenTail) = tokenOf config := by
      rw [tokenInText, String.toList_append, String.toList_append, List.append_assoc,
        List.drop_left' String.length_toList, ← String.length_toList, List.rdrop_append_length,
        String.ofList_toList]
    rw [parseToken, htoken, if_pos rfl, ← hconfig]
  case isFalse => cases htext

lemma eq_tokenConfig {token : String} {config config' : ProxyConfig}
    (hconfig : config = tokenConfig token) (h : AlikeConfigs config config') :
    config' = tokenConfig (tokenOf config') := by
  subst hconfig
  obtain ⟨proxy, acmeAccounts, dnsAccounts, certificates, routes⟩ := config'
  simp only [AlikeConfigs, ProxyConfig.redact, tokenConfig, dnsConfig,
    Proxy.ProxyConfig.mk.injEq] at h
  obtain ⟨rfl, hacme, hdns, rfl, rfl⟩ := h
  obtain rfl : acmeAccounts = [] := List.map_eq_nil_iff.mp hacme.symm
  obtain ⟨account, rfl, haccount⟩ := List.map_eq_singleton_iff.mp hdns.symm
  obtain ⟨id, name, provider, apiToken, accessKey, secretKey⟩ := account
  simp only [DnsAccountConfig.redact, Proxy.DnsAccountConfig.mk.injEq] at haccount
  obtain ⟨rfl, rfl, rfl, htoken, haccess, hsecret⟩ := haccount
  obtain rfl : accessKey = none := Option.map_eq_none_iff.mp haccess
  obtain rfl : secretKey = none := Option.map_eq_none_iff.mp hsecret
  obtain ⟨token', rfl, -⟩ := Option.map_eq_some_iff.mp htoken
  rfl

lemma tomlToken_map (config : ProxyConfig) : (tomlToken config).map (fun _ => ()) =
    if config = tokenConfig (tokenOf config) then .ok () else .error "unsupported value" := by
  unfold tomlToken
  split <;> rfl

lemma writesAlike_token : WritesAlike tomlToken := by
  intro config config' h
  rw [tomlToken_map, tomlToken_map]
  exact if_congr ⟨fun hconfig => eq_tokenConfig hconfig h,
    fun hconfig => eq_tokenConfig hconfig h.symm⟩ rfl rfl

def createTokenAccount (token : String) : ProxyRequest :=
  .createDnsAccount ⟨"cloudflare", "first", .cloudflare, some token, none, none⟩

/-- An account is created, and then updated without a token. -/
def tokenSteps (token : String) : List ProxyStep :=
  [.request (createTokenAccount token) quietSurroundings,
    .request (.updateDnsAccount "cloudflare" ⟨"cloudflare", "first", .cloudflare, none, none, none⟩)
      quietSurroundings]

def tokenFormat : ConfigFormat ProxyConfig := proxyFormat (fun _ => none) parseToken tomlToken

lemma mutateConfig_token {token : String}
    (h : (tokenConfig token).validate (fun _ => none) = .ok (tokenConfig token)) :
    mutateConfig tokenFormat quietSurroundings (createTokenAccount token).mutation none =
      (.ok (tokenConfig token), some (tokenHead ++ token ++ tokenTail)) := by
  have htext : tokenFormat.toToml (tokenConfig token) = .ok (tokenHead ++ token ++ tokenTail) :=
    if_pos rfl
  have hread : tokenFormat.read (tokenHead ++ token ++ tokenTail) = .ok (tokenConfig token) := by
    refine Except.bind_ok (roundTrip_token _ _ htext) ?_
    rw [h]
    rfl
  have hvalidated : tokenFormat.validated (tokenConfig token) =
      .ok (tokenHead ++ token ++ tokenTail, tokenConfig token) := by
    rw [ConfigFormat.validated, htext, Except.mapError, Except.bind, hread]
    rfl
  have hmutated : (createTokenAccount token).mutation.bind
      (fun mutate => tokenFormat.mutated mutate none) = .ok (tokenConfig token) := rfl
  rw [mutateConfig, hmutated, Except.bind, hvalidated]
  rfl

theorem shown_of_token :
    shown tokenFormat (tokenSteps "first-token") none =
        shown tokenFormat (tokenSteps "second-token") none ∧
      (∀ token ∈ ["first-token", "second-token"],
        mutateConfig tokenFormat quietSurroundings (createTokenAccount token).mutation none =
          (.ok (tokenConfig token), some (tokenHead ++ token ++ tokenTail))) := by
  constructor
  · refine shown_eq_of_alike roundTrip_token writesAlike_token ?_ .missing
    have hcreate : (createTokenAccount "first-token").redact =
        (createTokenAccount "second-token").redact := by
      simp [createTokenAccount, ProxyRequest.redact, DnsAccountRequest.redact, redactSecret]
    exact .cons (.request hcreate) (.cons (.request rfl) .nil)
  · intro token htoken
    refine mutateConfig_token ?_
    obtain rfl | rfl : token = "first-token" ∨ token = "second-token" := by simpa using htoken
    · decide +kernel
    · decide +kernel

end GateRust.Control
