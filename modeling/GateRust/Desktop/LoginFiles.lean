/-
# The files of a login

`login_inner` of the crate `gaterust-client` with its `trust.rs`: the login reads the stored
configuration, downloads the certificate of the server into a new file next to the configuration,
verifies the credentials, replaces the configuration, and removes the certificate that the stored
configuration named, if that is a file of an earlier login.

Every effect on the files is a step of its own, and the login can be left after any of them: by
an error, by a cancellation, by the deadline, by a drop of its future, or by the end of the
process, which is why what is stated holds of every reachable state.  A closure on a thread of
its own goes on when the future is dropped.  The configuration is `client.toml`, whose name is not
one of a certificate, so that it is kept apart from the other files.
-/
import GateRust.Lib.UnixPath
import GateRust.Lib.Utf8
import GateRust.Tunnel.ClientConfig
import GateRust.Proxy.Validation
import GateRust.Desktop.ClientRuntime

namespace GateRust.Desktop

open Machine
open Tunnel (ClientConfig ClientServerConfig TunnelError)

/-! ## The names of the certificates -/

def configParent (path : UnixPath) : UnixPath :=
  match path.parent with
  | some parent => if parent.bytes = [] then .ofString "." else parent
  | none => .ofString "."

def isAsciiHexdigit (byte : UInt8) : Bool :=
  (48 ≤ byte && byte ≤ 57) || (65 ≤ byte && byte ≤ 70) || (97 ≤ byte && byte ≤ 102)

def serverPrefix : List UInt8 := "server-".toUTF8.toList

def pemSuffix : List UInt8 := ".pem".toUTF8.toList

/-- The name of a file is that of a certificate that a login has written.  All bytes of such a
name are ASCII, so that a name which is not UTF-8 needs no case of its own. -/
def isManagedName (name : List UInt8) : Bool :=
  match name.dropPrefix? serverPrefix with
  | none => false
  | some rest =>
    match rest.dropSuffix? pemSuffix with
    | none => false
    | some suffix => suffix.length = 16 && suffix.all isAsciiHexdigit

def managedCertificatePath (config : ClientConfig) (configPath : UnixPath) : Option UnixPath := do
  let configured ← config.server.caCertificate.map UnixPath.ofString
  guard (configured.parent.all fun parent => parent.bytes = [])
  let name ← configured.fileName
  guard (isManagedName name)
  return (configParent configPath).join configured

/-- The format `{:016x}`. -/
def hexDigits (value : UInt64) : List Char :=
  (List.range 16).reverse.map fun i => (value.toNat / 16 ^ i % 16).digitChar

def candidateName (value : UInt64) : String :=
  .ofList ("server-".toList ++ hexDigits value ++ ".pem".toList)

def candidatePath (configPath : UnixPath) (value : UInt64) : UnixPath :=
  (configParent configPath).join (.ofString (candidateName value))

lemma serverPrefix_eq : serverPrefix = [115, 101, 114, 118, 101, 114, 45] := by decide +kernel

lemma pemSuffix_eq : pemSuffix = [46, 112, 101, 109] := by decide +kernel

lemma isManagedName_iff {name : List UInt8} :
    isManagedName name = true ↔ ∃ digits : List UInt8, digits.length = 16 ∧
      (∀ byte ∈ digits, isAsciiHexdigit byte = true) ∧
      name = serverPrefix ++ (digits ++ pemSuffix) := by
  unfold isManagedName
  constructor
  · intro h
    split at h
    · cases h
    · rename_i rest hrest
      split at h
      · cases h
      · rename_i digits hdigits
        obtain ⟨start, hname, hstart⟩ := List.dropPrefix?_eq_some_iff.mp hrest
        obtain ⟨tail, hbody, htail⟩ := List.dropSuffix?_eq_some_iff.mp hdigits
        rw [Bool.and_eq_true, decide_eq_true_iff, List.all_eq_true] at h
        refine ⟨digits, h.1, h.2, ?_⟩
        rw [hname, hbody, eq_of_beq hstart, eq_of_beq htail]
  · rintro ⟨digits, hlength, hall, rfl⟩
    have hsuffix : (digits ++ pemSuffix).dropSuffix? pemSuffix =
        some digits := List.dropSuffix?_eq_some_iff.mpr ⟨_, rfl, BEq.rfl⟩
    rw [List.dropPrefix?_append_of_beq _ BEq.rfl]
    simp only [hsuffix]
    simpa [hlength] using hall

/-! ### The name of the candidate -/

lemma hexDigits_ascii {value : UInt64} {c : Char} (hc : c ∈ hexDigits value) :
    c.toNat < 128 ∧ isAsciiHexdigit (UInt8.ofNat c.toNat) = true := by
  have hdigit : ∀ d < 16, d.digitChar.toNat < 128 ∧
      isAsciiHexdigit (UInt8.ofNat d.digitChar.toNat) = true := by decide
  obtain ⟨i, -, rfl⟩ := List.mem_map.mp hc
  exact hdigit _ (Nat.mod_lt _ (by omega))

lemma toList_candidateName (value : UInt64) :
    (candidateName value).toList = "server-".toList ++ hexDigits value ++ ".pem".toList :=
  String.toList_ofList

lemma bytes_candidateName (value : UInt64) :
    (UnixPath.ofString (candidateName value)).bytes = serverPrefix ++
      ((hexDigits value).map (fun c => UInt8.ofNat c.toNat) ++ pemSuffix) := by
  have hascii : ∀ c ∈ (candidateName value).toList, c.toNat < 128 := by
    intro c hc
    rw [toList_candidateName, List.mem_append, List.mem_append] at hc
    have hascii : ∀ text ∈ ["server-", ".pem"], text.toList.all (·.toNat < 128) = true := by decide
    rcases hc with (hc | hc) | hc
    · exact of_decide_eq_true (List.all_eq_true.mp (hascii "server-" (by simp)) c hc)
    · exact (hexDigits_ascii hc).1
    · exact of_decide_eq_true (List.all_eq_true.mp (hascii ".pem" (by simp)) c hc)
  rw [UnixPath.ofString, String.toList_toUTF8_of_lt hascii, toList_candidateName, List.map_append,
    List.map_append, List.append_assoc, serverPrefix_eq, pemSuffix_eq]
  rfl

lemma isManagedName_candidateName (value : UInt64) :
    isManagedName (UnixPath.ofString (candidateName value)).bytes = true := by
  rw [isManagedName_iff, bytes_candidateName]
  refine ⟨_, ?_, ?_, rfl⟩
  · simp [hexDigits]
  · intro byte hbyte
    obtain ⟨c, hc, rfl⟩ := List.mem_map.mp hbyte
    exact (hexDigits_ascii hc).2

lemma isManagedName_bare {name : List UInt8} (h : isManagedName name = true) :
    UnixPath.sep ∉ name ∧ UnixPath.skipped name = false ∧ name ≠ [UnixPath.dot, UnixPath.dot] := by
  obtain ⟨digits, -, hall, rfl⟩ := isManagedName_iff.mp h
  rw [serverPrefix_eq, pemSuffix_eq]
  refine ⟨?_, by simp [UnixPath.skipped], by simp⟩
  rw [List.mem_append, List.mem_append]
  rintro (hsep | hsep | hsep)
  · revert hsep
    decide
  · exact absurd (hall _ hsep) (by decide)
  · revert hsep
    decide

/-- The path of a candidate is one that the next login takes for an earlier certificate. -/
lemma managedCertificatePath_candidate {config : ClientConfig} {value : UInt64}
    (h : config.server.caCertificate = some (candidateName value)) (configPath : UnixPath) :
    managedCertificatePath config configPath = some (candidatePath configPath value) := by
  have hmanaged := isManagedName_candidateName value
  obtain ⟨hsep, hnamed, hdots⟩ := isManagedName_bare hmanaged
  simp [managedCertificatePath, h, UnixPath.parent_of_bare hsep hnamed,
    UnixPath.fileName_of_bare hsep hnamed hdots, hmanaged, candidatePath]

/-! ## The files -/

/-- The configuration, and the other files by their paths. -/
@[ext]
structure ClientFiles where
  config : Option (List UInt8)
  file : UnixPath → Option (List UInt8)

namespace ClientFiles

variable (fs : ClientFiles)

def write (path : UnixPath) (content : List UInt8) : ClientFiles :=
  { fs with file := Function.update fs.file path (some content) }

def remove (path : UnixPath) : ClientFiles :=
  { fs with file := Function.update fs.file path none }

def writeConfig (content : List UInt8) : ClientFiles := { fs with config := some content }

end ClientFiles

/-- The certificate that a login has written and not yet committed. -/
structure PreparedTrust where
  path : UnixPath
  replaced : Option UnixPath
deriving DecidableEq

namespace PreparedTrust

def commit (t : PreparedTrust) (fs : ClientFiles) : ClientFiles :=
  match t.replaced with
  | some path => fs.remove path
  | none => fs

def drop (t : PreparedTrust) (fs : ClientFiles) : ClientFiles := fs.remove t.path

end PreparedTrust

/-! ## The login -/

structure DownloadedServerCertificate where
  pem : List UInt8
  serverName : String
deriving DecidableEq

/-- The certificate of a login, with the random number in its name. -/
structure Candidate where
  value : UInt64
  certificate : DownloadedServerCertificate
deriving DecidableEq

/-- What does not change during a login: the format of the configuration, its path, and the
arguments. -/
structure LoginCall where
  toml : Serde ClientConfig
  configPath : UnixPath
  address : String
  key : String

inductive LoginStep where
  /-- Before `begin_login`. -/
  | starting
  | reading
  | fetching (config : ClientConfig) (replaced : Option UnixPath)
  /-- The closure of `write_candidate_certificate`, up to the creation of the file. -/
  | creating (config : ClientConfig) (replaced : Option UnixPath)
    (certificate : DownloadedServerCertificate)
  /-- The first `count` bytes are written. -/
  | writing (config : ClientConfig) (replaced : Option UnixPath) (candidate : Candidate)
    (count : ℕ)
  | prepared (config : ClientConfig) (trust : PreparedTrust)
  | verifying (config : ClientConfig) (trust : PreparedTrust)
  | verified (config : ClientConfig) (trust : PreparedTrust)
  /-- The last closure, up to the replacement of the configuration. -/
  | saving (config : ClientConfig) (trust : PreparedTrust)
  | committing (config : ClientConfig) (trust : PreparedTrust)
  /-- The result, none when the future was dropped. -/
  | ended (result : Option (Except ClientError ClientConfig))

structure Login where
  files : ClientFiles
  step : LoginStep
  /-- The future of the call is there. -/
  awaited : Bool
  /-- The candidate of this login, once its file was created. -/
  candidate : Option Candidate

inductive Login.Event where
  | begin (active : Bool)
  /-- A check or a step under the deadline finds the login cancelled or too late. -/
  | stops (timeout : Bool)
  /-- A closure was not run. -/
  | joinFails (message : String)
  /-- The configuration is read, or an error of the operating system. -/
  | read (error : Option String)
  | fetched (result : Except TunnelError DownloadedServerCertificate)
  | directoryFails (source : String)
  | created (value : UInt64) (result : Except String Unit)
  | wrote (count : ℕ)
  | synced (result : Except String Unit)
  | checked
  | verified (result : Except TunnelError Unit)
  | saved (result : Except String Unit)
  | committed
  | dropped

namespace LoginCall

variable (c : LoginCall)

/-- The configuration of the login before it has a certificate. -/
def requested : ClientConfig where
  key := c.key
  server := ⟨.ofList (Proxy.trim c.address), none, none⟩
  services := []

/-- The complete new configuration. -/
def newConfig (candidate : Candidate) : ClientConfig :=
  { c.requested with server := { c.requested.server with
    name := some candidate.certificate.serverName
    caCertificate := some (candidateName candidate.value) } }

def candidatePath (candidate : Candidate) : UnixPath :=
  Desktop.candidatePath c.configPath candidate.value

def path : String := c.configPath.display

/-- `ClientConfig::read`. -/
def readConfig (fs : ClientFiles) (error : Option String) : Except TunnelError ClientConfig :=
  match error, fs.config with
  | some source, _ => .error (.readConfig c.path source)
  | none, none => .error (.readConfig c.path "No such file or directory (os error 2)")
  | none, some content => (c.toml.fromSlice content).mapError (.parseConfig c.path)

/-- `ClientConfig::save`, with the result of the replacement of the file. -/
def save (fs : ClientFiles) (config : ClientConfig) (result : Except String Unit) :
    Except TunnelError ClientFiles := do
  config.validate
  let content ← (c.toml.toVec config).mapError (.serializeConfig c.path)
  result.mapError (.writeConfig c.path)
  return fs.writeConfig content

end LoginCall

namespace Login

def start (fs : ClientFiles) : Login := ⟨fs, .starting, true, none⟩

variable (l : Login)

/-- The login ends, and returns the result if its future is still there. -/
def finish (fs : ClientFiles) (result : Except ClientError ClientConfig) : Login :=
  { l with files := fs, step := .ended (if l.awaited then some result else none) }

def fail (error : ClientError) : Login := l.finish l.files (.error error)

/-- The login ends before it has committed its certificate. -/
def abandon (trust : PreparedTrust) (error : ClientError) : Login :=
  l.finish (trust.drop l.files) (.error error)

/-- `cancellation` or `deadline` in `check_login_state` and `run_login_step`. -/
def stop (timeout : Bool) : Option Login :=
  let error := if timeout then ClientError.loginTimeout else .loginCancelled
  match l.step with
  | .reading | .fetching .. => some (l.fail error)
  | .prepared _ trust | .verifying _ trust | .verified _ trust => some (l.abandon trust error)
  | _ => none

/-- The error of `JoinHandle`. -/
def joinFails (message : String) : Option Login :=
  match l.step with
  | .reading | .creating .. => some (l.fail (.task message))
  | .saving _ trust => some (l.abandon trust (.task message))
  | _ => none

/-- The future of the call is dropped: a closure that is running goes on. -/
def dropFuture : Option Login :=
  match l.step with
  | .starting | .reading | .fetching .. => some { l with awaited := false, step := .ended none }
  | .prepared _ trust | .verifying _ trust | .verified _ trust =>
    some { l with awaited := false, step := .ended none, files := trust.drop l.files }
  | .creating .. | .writing .. | .saving .. | .committing .. => some { l with awaited := false }
  | .ended _ => none

end Login

namespace LoginCall

variable (c : LoginCall) (l : Login)

/-- `login_inner` from the stored configuration to `prepare`. -/
def prepare (stored : ClientConfig) : Login :=
  match c.requested.validate with
  | .error error => l.fail (.tunnel error)
  | .ok () =>
    { l with step := .fetching c.requested (managedCertificatePath stored c.configPath) }

/-- The end of `prepare`. -/
def prepared (config : ClientConfig) (replaced : Option UnixPath) (candidate : Candidate) : Login :=
  let trust : PreparedTrust := ⟨c.candidatePath candidate, replaced⟩
  if l.awaited then
    let server := { config.server with
      name := some candidate.certificate.serverName
      caCertificate := some (candidateName candidate.value) }
    { l with step := .prepared { config with server } trust }
  else { l with files := trust.drop l.files, step := .ended none }

/-- The creation of the candidate file, which `create_new` makes fail if there is one. -/
def create (config : ClientConfig) (replaced : Option UnixPath) (candidate : Candidate)
    (result : Except String Unit) : Option Login :=
  let path := c.candidatePath candidate
  match result with
  | .error source =>
    some (l.finish (l.files.remove path) (.error (.tunnel (.writeConfig path.display source))))
  | .ok () =>
    if (l.files.file path).isSome then none
    else some { l with
      files := l.files.write path []
      step := .writing config replaced candidate 0
      candidate := some candidate }

def step : Login.Event → Option Login
  | .begin active =>
    match l.step with
    | .starting =>
      if active then some (l.fail (.invalidOperation "正在获取连接配置，请稍候"))
      else some { l with step := .reading }
    | _ => none
  | .stops timeout => l.stop timeout
  | .joinFails message => l.joinFails message
  | .read error =>
    match l.step with
    | .reading =>
      match c.readConfig l.files error with
      | .error error => some (l.fail (.tunnel error))
      | .ok stored => some (c.prepare l stored)
    | _ => none
  | .fetched result =>
    match l.step, result with
    | .fetching .., .error error => some (l.fail (.tunnel error))
    | .fetching config replaced, .ok certificate =>
      some { l with step := .creating config replaced certificate }
    | _, _ => none
  | .directoryFails source =>
    match l.step with
    | .creating .. =>
      some (l.fail (.tunnel (.writeConfig (configParent c.configPath).display source)))
    | _ => none
  | .created value result =>
    match l.step with
    | .creating config replaced certificate =>
      c.create l config replaced ⟨value, certificate⟩ result
    | _ => none
  | .wrote count =>
    match l.step with
    | .writing config replaced candidate written =>
      let path := c.candidatePath candidate
      if count ≤ written then none
      else some { l with
        files := l.files.write path (candidate.certificate.pem.take count)
        step := .writing config replaced candidate count }
    | _ => none
  | .synced result =>
    match l.step, result with
    | .writing _ _ candidate _, .error source =>
      let path := c.candidatePath candidate
      some (l.finish (l.files.remove path) (.error (.tunnel (.writeConfig path.display source))))
    | .writing config replaced candidate count, .ok () =>
      if count < candidate.certificate.pem.length then none
      else some (c.prepared l config replaced candidate)
    | _, _ => none
  | .checked =>
    match l.step with
    | .prepared config trust =>
      match config.validate with
      | .error error => some (l.abandon trust (.tunnel error))
      | .ok () => some { l with step := .verifying config trust }
    | .verified config trust => some { l with step := .saving config trust }
    | _ => none
  | .verified result =>
    match l.step, result with
    | .verifying _ trust, .error error => some (l.abandon trust (.tunnel error))
    | .verifying config trust, .ok () => some { l with step := .verified config trust }
    | _, _ => none
  | .saved result =>
    match l.step with
    | .saving config trust =>
      match c.save l.files config result with
      | .error error => some (l.abandon trust (.tunnel error))
      | .ok files => some { l with files, step := .committing config trust }
    | _ => none
  | .committed =>
    match l.step with
    | .committing config trust => some (l.finish (trust.commit l.files) (.ok config))
    | _ => none
  | .dropped => l.dropFuture

/-! ## All or nothing -/

/-- The certificate of an earlier login that the configuration names. -/
def named (fs : ClientFiles) : Option UnixPath := do
  let content ← fs.config
  let config ← (c.toml.fromSlice content).toOption
  managedCertificatePath config c.configPath

/-- The random name of the candidate was never used before. -/
def NameUnused (l : Login) : Login.Event → Prop
  | .created value _ =>
    let path := Desktop.candidatePath c.configPath value
    l.files.file path = none ∧ c.named l.files ≠ some path
  | _ => True

instance (l : Login) : (e : Login.Event) → Decidable (c.NameUnused l e)
  | .created _ _ => inferInstanceAs (Decidable (_ ∧ _))
  | .begin _ | .stops _ | .joinFails _ | .read _ | .fetched _ | .directoryFails _ | .wrote _
  | .synced _ | .checked | .verified _ | .saved _ | .committed | .dropped =>
    inferInstanceAs (Decidable True)

/-- What holds of the files at every point of a login, where it may stop, and after its return. -/
structure AllOrNothing (before : ClientFiles) (l : Login) : Prop where
  /-- The configuration is the previous one, or the complete new one. -/
  config : l.files.config = before.config ∨ ∃ candidate content, l.candidate = some candidate ∧
    c.toml.toVec (c.newConfig candidate) = .ok content ∧ l.files.config = some content
  /-- A certificate that the configuration names is there with its full content, if it existed
  before or is the one of this login. -/
  named : ∀ path, c.named l.files = some path →
    (∀ content, before.file path = some content → l.files.file path = some content) ∧
      ∀ candidate, l.candidate = some candidate → c.candidatePath candidate = path →
        l.files.file path = some candidate.certificate.pem
  /-- An error leaves the files as they were, and the candidate is gone. -/
  failed : ∀ error, l.step = .ended (some (.error error)) → l.files = before ∧
    ∀ candidate, l.candidate = some candidate → l.files.file (c.candidatePath candidate) = none
  /-- Without an error the candidate is what the configuration names, and the certificate that it
  named before is deleted. -/
  returned : ∀ config, l.step = .ended (some (.ok config)) → ∃ candidate content,
    l.candidate = some candidate ∧ config = c.newConfig candidate ∧
    c.toml.toVec config = .ok content ∧ l.files.config = some content ∧
    c.named l.files = some (c.candidatePath candidate) ∧
    l.files.file (c.candidatePath candidate) = some candidate.certificate.pem ∧
    ∀ path, c.named before = some path → l.files.file path = none

/-! ### The files at each step -/

/-- The files with the complete certificate of the candidate. -/
def withCandidate (before : ClientFiles) (candidate : Candidate) : ClientFiles :=
  before.write (c.candidatePath candidate) candidate.certificate.pem

/-- The certificate of the candidate, with the one that it replaces. -/
def trust (before : ClientFiles) (candidate : Candidate) : PreparedTrust :=
  ⟨c.candidatePath candidate, c.named before⟩

/-- The configuration of the candidate has been written. -/
def Saved (before : ClientFiles) (l : Login) (config : ClientConfig) (fs : ClientFiles)
    (trust : PreparedTrust) : Prop :=
  ∃ candidate content, l.candidate = some candidate ∧ config = c.newConfig candidate ∧
    trust = c.trust before candidate ∧ c.toml.toVec config = .ok content ∧
    fs = (c.withCandidate before candidate).writeConfig content

def AtStep (before : ClientFiles) (l : Login) : Prop :=
  match l.step with
  | .starting | .reading => l.files = before ∧ l.candidate = none
  | .fetching config replaced | .creating config replaced _ =>
    l.files = before ∧ l.candidate = none ∧ config = c.requested ∧ replaced = c.named before
  | .writing config replaced candidate count =>
    l.candidate = some candidate ∧ config = c.requested ∧ replaced = c.named before ∧
      l.files = before.write (c.candidatePath candidate) (candidate.certificate.pem.take count)
  | .prepared config trust | .verifying config trust | .verified config trust
  | .saving config trust =>
    ∃ candidate, l.candidate = some candidate ∧ config = c.newConfig candidate ∧
      trust = c.trust before candidate ∧ l.files = c.withCandidate before candidate
  | .committing config trust => c.Saved before l config l.files trust
  | .ended (some (.error _)) => l.files = before
  | .ended (some (.ok config)) =>
    ∃ fs trust, c.Saved before l config fs trust ∧ l.files = trust.commit fs
  | .ended none => l.files = before ∨
      ∃ config fs trust, c.Saved before l config fs trust ∧ l.files = trust.commit fs

/-- The candidate is new, and the files are as the step says. -/
structure Invariant (before : ClientFiles) (l : Login) : Prop where
  fresh : ∀ candidate, l.candidate = some candidate →
    before.file (c.candidatePath candidate) = none ∧
      c.named before ≠ some (c.candidatePath candidate)
  atStep : c.AtStep before l

variable {c l} {l' : Login} {before : ClientFiles}

/-- A removal takes back the creation of a file. -/
lemma remove_write {fs : ClientFiles} {path : UnixPath} (h : fs.file path = none)
    (content : List UInt8) : (fs.write path content).remove path = fs := by
  have hfile : Function.update (Function.update fs.file path (some content)) path none =
      fs.file := by
    rw [Function.update_idem, ← h, Function.update_eq_self]
  exact ClientFiles.ext rfl hfile

lemma remove_none {fs : ClientFiles} {path : UnixPath} (h : fs.file path = none) :
    fs.remove path = fs := by
  have hfile : Function.update fs.file path none = fs.file := by
    rw [← h, Function.update_eq_self]
  exact ClientFiles.ext rfl hfile

lemma write_write (fs : ClientFiles) (path : UnixPath) (content content' : List UInt8) :
    (fs.write path content).write path content' = fs.write path content' :=
  ClientFiles.ext rfl (Function.update_idem ..)

lemma invariant_start (before : ClientFiles) : c.Invariant before (.start before) :=
  ⟨nofun, rfl, rfl⟩

/-- An end where the files are as before. -/
lemma Invariant.undone (h : c.Invariant before l) (hcandidate : l'.candidate = l.candidate)
    (hfiles : l'.files = before)
    (hended : l'.step = .ended none ∨ ∃ error, l'.step = .ended (some (.error error))) :
    c.Invariant before l' := by
  refine ⟨fun candidate hl' => h.fresh candidate (hcandidate ▸ hl'), ?_⟩
  rcases hended with hended | ⟨error, hended⟩
  · rw [AtStep, hended]
    exact .inl hfiles
  · rw [AtStep, hended]
    exact hfiles

lemma finish_error (fs : ClientFiles) (error : ClientError) :
    (l.finish fs (.error error)).step = .ended none ∨
      ∃ e, (l.finish fs (.error error)).step = .ended (some (.error e)) := by
  cases hawaited : l.awaited with
  | true => exact .inr ⟨error, by simp [Login.finish, hawaited]⟩
  | false => exact .inl (by simp [Login.finish, hawaited])

/-- An error before the file of the candidate is created. -/
lemma Invariant.fail (h : c.Invariant before l) (hfiles : l.files = before) (error : ClientError) :
    c.Invariant before (l.fail error) :=
  h.undone rfl hfiles (finish_error _ error)

/-- Without its certificate the login leaves the files as they were. -/
lemma Invariant.drop {candidate : Candidate} (h : c.Invariant before l)
    (hcandidate : l.candidate = some candidate) :
    (c.trust before candidate).drop (c.withCandidate before candidate) = before :=
  remove_write (h.fresh candidate hcandidate).1 _

lemma Invariant.abandon {candidate : Candidate} (h : c.Invariant before l)
    (hcandidate : l.candidate = some candidate)
    (hfiles : l.files = c.withCandidate before candidate) (error : ClientError) :
    c.Invariant before (l.abandon (c.trust before candidate) error) :=
  h.undone rfl ((congrArg _ hfiles).trans (h.drop hcandidate)) (finish_error _ error)

/-- The future is dropped while the candidate is there. -/
lemma Invariant.forsake {candidate : Candidate} (h : c.Invariant before l)
    (hcandidate : l.candidate = some candidate)
    (hfiles : l.files = c.withCandidate before candidate) (awaited : Bool) :
    c.Invariant before { l with
      files := (c.trust before candidate).drop l.files, step := .ended none, awaited } :=
  h.undone rfl ((congrArg _ hfiles).trans (h.drop hcandidate)) (.inl rfl)

lemma Invariant.prepare {stored : ClientConfig} (h : c.Invariant before l)
    (hfiles : l.files = before) (hnone : l.candidate = none)
    (hnamed : c.named before = managedCertificatePath stored c.configPath) :
    c.Invariant before (c.prepare l stored) := by
  unfold LoginCall.prepare
  split
  · exact h.fail hfiles _
  · exact ⟨h.fresh, hfiles, hnone, rfl, hnamed.symm⟩

/-- The stored configuration is the one of the files. -/
lemma named_of_read {fs : ClientFiles} {error : Option String} {stored : ClientConfig}
    (h : c.readConfig fs error = .ok stored) :
    c.named fs = managedCertificatePath stored c.configPath := by
  unfold readConfig at h
  split at h
  · cases h
  · cases h
  · rename_i content hcontent
    cases hread : c.toml.fromSlice content with
    | error message =>
      rw [hread] at h
      cases h
    | ok config =>
      rw [hread] at h
      cases h
      simp [LoginCall.named, hcontent, hread, Except.toOption]

/-- `save` replaces the configuration, or changes nothing. -/
lemma save_ok {fs fs' : ClientFiles} {config : ClientConfig} {result : Except String Unit}
    (h : c.save fs config result = .ok fs') :
    ∃ content, c.toml.toVec config = .ok content ∧ fs' = fs.writeConfig content := by
  unfold save at h
  cases hvalid : config.validate with
  | error error =>
    rw [hvalid] at h
    cases h
  | ok =>
    cases hcontent : c.toml.toVec config with
    | error message =>
      rw [hvalid, hcontent] at h
      cases h
    | ok content =>
      rw [hvalid, hcontent] at h
      cases result <;> cases h
      exact ⟨content, rfl, rfl⟩

lemma Invariant.create {config : ClientConfig} {replaced : Option UnixPath}
    {candidate : Candidate} {result : Except String Unit} (h : c.Invariant before l)
    (hfiles : l.files = before) (hconfig : config = c.requested)
    (hreplaced : replaced = c.named before)
    (hfresh : before.file (c.candidatePath candidate) = none ∧
      c.named before ≠ some (c.candidatePath candidate))
    (hstep : c.create l config replaced candidate result = some l') : c.Invariant before l' := by
  unfold LoginCall.create at hstep
  cases result with
  | error source =>
    cases hstep
    refine h.undone rfl ?_ (finish_error _ _)
    rw [hfiles]
    exact remove_none hfresh.1
  | ok =>
    dsimp only at hstep
    split at hstep
    case isTrue => cases hstep
    case isFalse =>
      cases hstep
      refine ⟨fun candidate' hcandidate => ?_, rfl, hconfig, hreplaced, ?_⟩
      · cases hcandidate
        exact hfresh
      · rw [hfiles, List.take_zero]

/-- The whole certificate is written. -/
lemma Invariant.prepared {replaced : Option UnixPath} {candidate : Candidate}
    (h : c.Invariant before l) (hcandidate : l.candidate = some candidate)
    (hfiles : l.files = c.withCandidate before candidate) (hreplaced : replaced = c.named before) :
    c.Invariant before (c.prepared l c.requested replaced candidate) := by
  subst hreplaced
  unfold LoginCall.prepared
  split
  · exact ⟨h.fresh, candidate, hcandidate, rfl, rfl, hfiles⟩
  · exact h.forsake hcandidate hfiles _

lemma Invariant.step {e : Login.Event} (h : c.Invariant before l) (hok : c.NameUnused l e)
    (hstep : c.step l e = some l') : c.Invariant before l' := by
  have hat := h.atStep
  unfold AtStep at hat
  cases hl : l.step with
  | starting =>
    rw [hl] at hat
    obtain ⟨hfiles, hnone⟩ := hat
    cases e <;> simp only [LoginCall.step, Login.stop, Login.joinFails, Login.dropFuture, hl,
      reduceCtorEq] at hstep
    case begin active =>
      cases active <;> cases hstep
      · exact ⟨h.fresh, hfiles, hnone⟩
      · exact h.fail hfiles _
    case dropped =>
      cases hstep
      exact h.undone rfl hfiles (.inl rfl)
  | reading =>
    rw [hl] at hat
    obtain ⟨hfiles, hnone⟩ := hat
    cases e <;> simp only [LoginCall.step, Login.stop, Login.joinFails, Login.dropFuture, hl,
      reduceCtorEq] at hstep
    case read error =>
      split at hstep <;> cases hstep
      · exact h.fail hfiles _
      · rename_i stored hread
        exact h.prepare hfiles hnone (hfiles ▸ named_of_read hread)
    case dropped =>
      cases hstep
      exact h.undone rfl hfiles (.inl rfl)
    all_goals
      cases hstep
      exact h.fail hfiles _
  | fetching config replaced =>
    rw [hl] at hat
    obtain ⟨hfiles, hnone, hconfig, hreplaced⟩ := hat
    cases e <;> simp only [LoginCall.step, Login.stop, Login.joinFails, Login.dropFuture, hl,
      reduceCtorEq] at hstep
    case fetched result =>
      cases result <;> cases hstep
      · exact h.fail hfiles _
      · exact ⟨h.fresh, hfiles, hnone, hconfig, hreplaced⟩
    case dropped =>
      cases hstep
      exact h.undone rfl hfiles (.inl rfl)
    case stops =>
      cases hstep
      exact h.fail hfiles _
  | creating config replaced certificate =>
    rw [hl] at hat
    obtain ⟨hfiles, hnone, hconfig, hreplaced⟩ := hat
    cases e <;> simp only [LoginCall.step, Login.stop, Login.joinFails, Login.dropFuture, hl,
      reduceCtorEq] at hstep
    case created value result =>
      exact h.create hfiles hconfig hreplaced (hfiles ▸ hok) hstep
    case dropped =>
      cases hstep
      exact ⟨h.fresh, hfiles, hnone, hconfig, hreplaced⟩
    all_goals
      cases hstep
      exact h.fail hfiles _
  | writing config replaced candidate count =>
    rw [hl] at hat
    obtain ⟨hcandidate, rfl, hreplaced, hfiles⟩ := hat
    cases e <;> simp only [LoginCall.step, Login.stop, Login.joinFails, Login.dropFuture, hl,
      reduceCtorEq] at hstep
    case wrote count' =>
      split at hstep <;> cases hstep
      refine ⟨h.fresh, hcandidate, rfl, hreplaced, ?_⟩
      rw [hfiles, write_write]
    case synced result =>
      cases result with
      | error source =>
        cases hstep
        refine h.undone rfl ?_ (finish_error _ _)
        rw [hfiles]
        exact remove_write (h.fresh candidate hcandidate).1 _
      | ok =>
        dsimp only at hstep
        split at hstep <;> cases hstep
        rename_i hcount
        rw [List.take_of_length_le (Nat.not_lt.mp hcount)] at hfiles
        exact h.prepared hcandidate hfiles hreplaced
    case dropped =>
      cases hstep
      exact ⟨h.fresh, hcandidate, rfl, hreplaced, hfiles⟩
  | prepared config trust =>
    rw [hl] at hat
    obtain ⟨candidate, hcandidate, hconfig, rfl, hfiles⟩ := hat
    cases e <;> simp only [LoginCall.step, Login.stop, Login.joinFails, Login.dropFuture, hl,
      reduceCtorEq] at hstep
    case stops =>
      cases hstep
      exact h.abandon hcandidate hfiles _
    case checked =>
      split at hstep <;> cases hstep
      · exact h.abandon hcandidate hfiles _
      · exact ⟨h.fresh, candidate, hcandidate, hconfig, rfl, hfiles⟩
    case dropped =>
      cases hstep
      exact h.forsake hcandidate hfiles _
  | verifying config trust =>
    rw [hl] at hat
    obtain ⟨candidate, hcandidate, hconfig, rfl, hfiles⟩ := hat
    cases e <;> simp only [LoginCall.step, Login.stop, Login.joinFails, Login.dropFuture, hl,
      reduceCtorEq] at hstep
    case stops =>
      cases hstep
      exact h.abandon hcandidate hfiles _
    case verified result =>
      cases result <;> cases hstep
      · exact h.abandon hcandidate hfiles _
      · exact ⟨h.fresh, candidate, hcandidate, hconfig, rfl, hfiles⟩
    case dropped =>
      cases hstep
      exact h.forsake hcandidate hfiles _
  | verified config trust =>
    rw [hl] at hat
    obtain ⟨candidate, hcandidate, hconfig, rfl, hfiles⟩ := hat
    cases e <;> simp only [LoginCall.step, Login.stop, Login.joinFails, Login.dropFuture, hl,
      reduceCtorEq] at hstep
    case stops =>
      cases hstep
      exact h.abandon hcandidate hfiles _
    case checked =>
      cases hstep
      exact ⟨h.fresh, candidate, hcandidate, hconfig, rfl, hfiles⟩
    case dropped =>
      cases hstep
      exact h.forsake hcandidate hfiles _
  | saving config trust =>
    rw [hl] at hat
    obtain ⟨candidate, hcandidate, hconfig, rfl, hfiles⟩ := hat
    cases e <;> simp only [LoginCall.step, Login.stop, Login.joinFails, Login.dropFuture, hl,
      reduceCtorEq] at hstep
    case joinFails =>
      cases hstep
      exact h.abandon hcandidate hfiles _
    case saved result =>
      split at hstep <;> cases hstep
      · exact h.abandon hcandidate hfiles _
      · rename_i fs hsave
        obtain ⟨content, hcontent, hfs⟩ := save_ok hsave
        exact ⟨h.fresh, candidate, content, hcandidate, hconfig, rfl, hcontent, hfiles ▸ hfs⟩
    case dropped =>
      cases hstep
      exact ⟨h.fresh, candidate, hcandidate, hconfig, rfl, hfiles⟩
  | committing config trust =>
    rw [hl] at hat
    cases e <;> simp only [LoginCall.step, Login.stop, Login.joinFails, Login.dropFuture, hl,
      reduceCtorEq] at hstep
    case committed =>
      cases hstep
      refine ⟨h.fresh, ?_⟩
      unfold Login.finish AtStep
      cases l.awaited
      · exact .inr ⟨config, l.files, trust, hat, rfl⟩
      · exact ⟨l.files, trust, hat, rfl⟩
    case dropped =>
      cases hstep
      exact ⟨h.fresh, hat⟩
  | ended result =>
    cases e <;> simp only [LoginCall.step, Login.stop, Login.joinFails, Login.dropFuture, hl,
      reduceCtorEq] at hstep

/-! ### What the steps say of the files -/

lemma named_congr {fs fs' : ClientFiles} (h : fs.config = fs'.config) :
    c.named fs = c.named fs' := by
  rw [LoginCall.named, LoginCall.named, h]

/-- The configuration is the previous one, and the certificate that it names is untouched. -/
def Untouched (before : ClientFiles) (l : Login) : Prop :=
  l.files.config = before.config ∧
    ∀ path, c.named before = some path → l.files.file path = before.file path

/-- The configuration is the new one, and its certificate is complete. -/
def Replaced (l : Login) : Prop :=
  ∃ candidate content, l.candidate = some candidate ∧
    c.toml.toVec (c.newConfig candidate) = .ok content ∧ l.files.config = some content ∧
    c.named l.files = some (c.candidatePath candidate) ∧
    l.files.file (c.candidatePath candidate) = some candidate.certificate.pem

lemma untouched_of_eq (h : l.files = before) : c.Untouched before l := by
  rw [Untouched, h]
  exact ⟨rfl, fun _ _ => rfl⟩

/-- A write to the candidate leaves the certificate that was named. -/
lemma Invariant.untouched_write {candidate : Candidate} {content : List UInt8}
    (h : c.Invariant before l) (hcandidate : l.candidate = some candidate)
    (hfiles : l.files = before.write (c.candidatePath candidate) content) :
    c.Untouched before l := by
  rw [Untouched, hfiles]
  refine ⟨rfl, fun path hpath => Function.update_of_ne ?_ ..⟩
  rintro rfl
  exact (h.fresh candidate hcandidate).2 hpath

/-- The commit leaves the new configuration and its certificate. -/
lemma Invariant.replaced (htoml : ∀ config, c.toml.RoundTrips config) {config : ClientConfig}
    {fs : ClientFiles} {t : PreparedTrust} (h : c.Invariant before l)
    (hsaved : c.Saved before l config fs t) (hfiles : l.files = fs ∨ l.files = t.commit fs) :
    c.Replaced l := by
  obtain ⟨candidate, content, hcandidate, rfl, rfl, hcontent, rfl⟩ := hsaved
  have hconfig : l.files.config = some content := by
    rcases hfiles with hfiles | hfiles
    · rw [hfiles]
      rfl
    · rw [hfiles]
      unfold PreparedTrust.commit
      split <;> rfl
  have hfile : l.files.file (c.candidatePath candidate) = some candidate.certificate.pem := by
    rcases hfiles with hfiles | hfiles
    · rw [hfiles]
      exact Function.update_self ..
    · rw [hfiles]
      unfold PreparedTrust.commit
      split
      · rename_i path hpath
        -- the certificate that is removed is not the one of the candidate
        have hne : c.candidatePath candidate ≠ path := by
          rintro rfl
          exact (h.fresh candidate hcandidate).2 hpath
        exact (Function.update_of_ne hne ..).trans (Function.update_self ..)
      · exact Function.update_self ..
  have hread := htoml _ content hcontent
  have hpath : managedCertificatePath (c.newConfig candidate) c.configPath =
      some (c.candidatePath candidate) := managedCertificatePath_candidate rfl _
  have hnamed : c.named l.files = some (c.candidatePath candidate) := by
    simp [LoginCall.named, hconfig, hread, Except.toOption, hpath]
  exact ⟨candidate, content, hcandidate, hcontent, hconfig, hnamed, hfile⟩

lemma Invariant.untouched_or_replaced (htoml : ∀ config, c.toml.RoundTrips config)
    (h : c.Invariant before l) : c.Untouched before l ∨ c.Replaced l := by
  have hat := h.atStep
  unfold AtStep at hat
  split at hat
  case h_1 | h_2 => exact .inl (untouched_of_eq hat.1)
  case h_3 | h_4 => exact .inl (untouched_of_eq hat.1)
  case h_5 => exact .inl (h.untouched_write hat.1 hat.2.2.2)
  case h_6 | h_7 | h_8 | h_9 =>
    obtain ⟨candidate, hcandidate, -, -, hfiles⟩ := hat
    exact .inl (h.untouched_write hcandidate hfiles)
  case h_10 => exact .inr (h.replaced htoml hat (.inl rfl))
  case h_11 => exact .inl (untouched_of_eq hat)
  case h_12 =>
    obtain ⟨fs, t, hsaved, hfiles⟩ := hat
    exact .inr (h.replaced htoml hsaved (.inr hfiles))
  case h_13 =>
    rcases hat with hfiles | ⟨config, fs, t, hsaved, hfiles⟩
    · exact .inl (untouched_of_eq hfiles)
    · exact .inr (h.replaced htoml hsaved (.inr hfiles))

/-- **A login is all or nothing.**  Wherever it stops, the configuration is the previous one or the
complete new one, and a certificate of a login that it names is there with its full content.  After
an error the files are as before; without one the new certificate has taken the place of the one
that was named. -/
theorem login_all_or_nothing (c : LoginCall) (htoml : ∀ config, c.toml.RoundTrips config)
    {before : ClientFiles} {l : Login} (h : Reach c.step c.NameUnused (.start before) l) :
    c.AllOrNothing before l := by
  have hinv : c.Invariant before l :=
    h.invariant (invariant_start before) fun _ _ _ hs hok hstep => hs.step hok hstep
  refine ⟨?_, ?_, ?_, ?_⟩
  · rcases hinv.untouched_or_replaced htoml with hsame | ⟨candidate, content, hcandidate, hcontent,
      hconfig, -⟩
    · exact .inl hsame.1
    · exact .inr ⟨candidate, content, hcandidate, hcontent, hconfig⟩
  · intro path hpath
    rcases hinv.untouched_or_replaced htoml with hsame | ⟨candidate, -, hcandidate, -, -, hnamed,
      hfile⟩
    · rw [named_congr hsame.1] at hpath
      refine ⟨fun content hcontent => (hsame.2 path hpath).trans hcontent, ?_⟩
      rintro candidate hcandidate rfl
      exact absurd hpath (hinv.fresh candidate hcandidate).2
    · obtain rfl : c.candidatePath candidate = path := Option.some.inj (hnamed.symm.trans hpath)
      refine ⟨fun content hcontent => ?_, fun candidate' hcandidate' _ => ?_⟩
      · rw [(hinv.fresh candidate hcandidate).1] at hcontent
        cases hcontent
      · cases hcandidate.symm.trans hcandidate'
        exact hfile
  · intro error hended
    have hat := hinv.atStep
    rw [AtStep, hended] at hat
    refine ⟨hat, fun candidate hcandidate => ?_⟩
    rw [hat]
    exact (hinv.fresh candidate hcandidate).1
  · intro config hended
    have hat := hinv.atStep
    rw [AtStep, hended] at hat
    obtain ⟨fs, t, hsaved, hfiles⟩ := hat
    obtain ⟨candidate, content, hcandidate, hcontent, hconfig, hnamed, hfile⟩ :=
      hinv.replaced htoml hsaved (.inr hfiles)
    obtain ⟨candidate', -, hcandidate', rfl, rfl, -, -⟩ := hsaved
    cases hcandidate.symm.trans hcandidate'
    refine ⟨candidate, content, hcandidate, rfl, hcontent, hconfig, hnamed, hfile, ?_⟩
    intro path hpath
    rw [hfiles, PreparedTrust.commit, trust, hpath]
    exact Function.update_self ..

/-! ### A second login -/

def sampleCertificate (text : String) : DownloadedServerCertificate :=
  ⟨text.toUTF8.toList, "gate.example"⟩

def sampleKey : String := "0123456789abcdef0123456789abcdef"

/-- The configuration of the login with the number of its certificate. -/
def sampleConfig (value : UInt64) : ClientConfig where
  key := sampleKey
  server := ⟨"gate.example:4433", some "gate.example", some (candidateName value)⟩
  services := []

/-- The configuration file is that of an earlier login. -/
def sampleCall : LoginCall where
  toml := Serde.ofTable [(sampleConfig 1, "first"), (sampleConfig 2, "second")]
  configPath := .ofString "/home/user/client.toml"
  address := " gate.example:4433 "
  key := sampleKey

def sampleFiles : ClientFiles where
  config := some "first".toUTF8.toList
  file path :=
    if path = .ofString "/home/user/server-0000000000000001.pem" then some "old".toUTF8.toList
    else none

def sampleLogin : List Login.Event :=
  [.begin false, .read none, .fetched (.ok (sampleCertificate "new")), .created 2 (.ok ()),
    .wrote 1, .wrote 3, .synced (.ok ()), .checked, .verified (.ok ()), .checked, .saved (.ok ()),
    .committed]

/-- The second login removes the certificate of the first one. -/
theorem second_login_replaces_certificate :
    ∃ l, Reach sampleCall.step sampleCall.NameUnused (.start sampleFiles) l ∧
      l.files.file (.ofString "/home/user/server-0000000000000001.pem") = none ∧
      l.files.file (.ofString "/home/user/server-0000000000000002.pem") =
        some "new".toUTF8.toList ∧
      sampleCall.AllOrNothing sampleFiles l := by
  have hrun : (exec sampleCall.step sampleCall.NameUnused (.start sampleFiles) sampleLogin).map
      (fun l => (l.files.file (.ofString "/home/user/server-0000000000000001.pem"),
        l.files.file (.ofString "/home/user/server-0000000000000002.pem"))) =
      some (none, some "new".toUTF8.toList) := by decide +kernel
  obtain ⟨l, hl, hview⟩ := Option.map_eq_some_iff.mp hrun
  obtain ⟨hold, hnew⟩ := Prod.mk.inj hview
  have htoml : ∀ config, sampleCall.toml.RoundTrips config :=
    Serde.ofTable_roundTrips (by decide +kernel)
  exact ⟨l, reach_of_exec hl, hold, hnew, login_all_or_nothing sampleCall htoml (reach_of_exec hl)⟩

end LoginCall

end GateRust.Desktop
