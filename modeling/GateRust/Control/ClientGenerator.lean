/-
# Configurations generated for clients

The control plane makes the configuration file of a client from a group of the tunnel
configuration.  The client reads the file, and the server looks up the key of its hello in the
groups of the configuration that it runs with, which may be a later one.
-/
import GateRust.Control.Store
import GateRust.Tunnel.BindSockets
import GateRust.Tunnel.ConfigToml
import GateRust.Tunnel.ControlFrames
import GateRust.Tunnel.ServerReload

namespace GateRust.Control

open Tunnel (ServerConfig GroupConfig GroupSecret Digest ClientConfig ClientServiceConfig Client
  validateDeviceId validateGroupKey validHello authenticatedGroup)

structure ClientConfigRequest where
  group : String
  serverAddress : String
  serverName : Option String
  caCertificate : Option String
  services : List ClientServiceConfig

/-- The errors of the API that this request may be answered with. -/
inductive ApiError where
  | conflict (message : String)
  | badRequest (message : String)
deriving DecidableEq, Repr

def generateClientConfig (tunnel : Option ServerConfig) (request : ClientConfigRequest) :
    Except ApiError Toml.Document :=
  match tunnel with
  | none => .error (.conflict "尚未配置隧道模块")
  | some tunnel =>
    match tunnel.groups.find? (·.name = request.group) with
    | none => .error (.badRequest "分组不存在")
    | some group =>
      let config : ClientConfig := ⟨group.key,
        ⟨request.serverAddress, request.serverName, request.caCertificate⟩, request.services⟩
      match config.validate with
      | .error error => .error (.badRequest error.display)
      | .ok () => .ok config.serialize

section Generated

variable {sha256 : GroupSecret → Digest} {tunnel later : ServerConfig}
  {request : ClientConfigRequest} {document : Toml.Document}

/-- The configuration behind a document. -/
lemma generateClientConfig_ok (h : generateClientConfig (some tunnel) request = .ok document) :
    ∃ config : ClientConfig, document = config.serialize ∧ config.validate = .ok () ∧
      ∃ group ∈ tunnel.groups, group.name = request.group ∧ group.key = config.key := by
  simp only [generateClientConfig] at h
  cases hfind : tunnel.groups.find? (·.name = request.group) with
  | none =>
    rw [hfind] at h
    cases h
  | some group =>
    rw [hfind] at h
    simp only at h
    split at h
    case h_1 => cases h
    case h_2 hvalid =>
      cases h
      have hname := List.find?_some hfind
      exact ⟨_, rfl, hvalid, group, List.mem_of_find?_eq_some hfind, of_decide_eq_true hname, rfl⟩

lemma toUTF8_inj {s t : String} (h : s.toUTF8.toList = t.toUTF8.toList) : s = t := by
  have hs := String.fromUTF8?_toUTF8 s
  rw [h, String.fromUTF8?_toUTF8] at hs
  exact (Option.some.inj hs).symm

/-- The hello of a client with a valid configuration passes the checks of the server. -/
lemma validHello_of_validate {client : Client} {config : ClientConfig}
    (hdevice : validateDeviceId client.deviceId = true) (h : config.validate = .ok ()) :
    validHello (client.hello config) = true := by
  have hkey := ClientConfig.validateGroupKey_of_validate h
  have hservices :=
    Tunnel.validateDeclarations_of_validate (ClientConfig.validateServices_of_validate h)
  simp only [validHello, Client.hello, String.fromUTF8?_toUTF8, hkey, hservices, hdevice,
    decide_true, Bool.and_true]
  rfl

/-- The key is looked up among the keys of the groups. -/
lemma authenticatedGroup_credentials {client : Client} {config : ClientConfig}
    (hhello : validHello (client.hello config) = true) :
    authenticatedGroup sha256 later.credentials (client.hello config) =
      (later.groups.find? (·.key = config.key)).map fun group =>
        (group.name, sha256 group.key.toUTF8.toList) := by
  rw [authenticatedGroup, if_pos hhello, ServerConfig.credentials]
  induction later.groups with
  | nil => rfl
  | cons group groups ih =>
    have hbytes : group.key.toUTF8.data.toList = group.key.toUTF8.toList :=
      (ByteArray.toList_eq_data _).symm
    rw [List.map_cons, List.findSome?_cons, List.find?_cons]
    by_cases hkey : group.key = config.key
    · have hsame : group.key.toUTF8.data.toList = (client.hello config).key :=
        hbytes.trans (congrArg (fun key : String => key.toUTF8.toList) hkey)
      simp only [hsame, if_true]
      rw [decide_eq_true hkey, Option.map_some, ← hsame, hbytes]
    · have hne : group.key.toUTF8.data.toList ≠ (client.hello config).key := by
        rw [hbytes]
        exact fun h => hkey (toUTF8_inj h)
      simp only [hne, hkey, if_false, decide_false]
      exact ih

/-- **The client of a generated file belongs to the group of the request.**  The file can be read
and passes the checks of the client, and the server finds the group of the request for the key as
long as it runs with the configuration.  With any other configuration it finds the group that has
the key, whatever its name is, and rejects the client if there is none. -/
theorem group_of_generated (htunnel : tunnel.validate = .ok ())
    (h : generateClientConfig (some tunnel) request = .ok document) :
    ∃ config, ClientConfig.deserialize (.table document) = some config ∧
      config.validate = .ok () ∧
      ∀ client : Client, validateDeviceId client.deviceId = true →
        authenticatedGroup sha256 tunnel.credentials (client.hello config) =
          some (request.group, sha256 config.key.toUTF8.toList) ∧
        ∀ later : ServerConfig, authenticatedGroup sha256 later.credentials (client.hello config) =
          (later.groups.find? (·.key = config.key)).map fun group =>
            (group.name, sha256 config.key.toUTF8.toList) := by
  obtain ⟨config, rfl, hvalid, group, hgroup, hname, hkey⟩ := generateClientConfig_ok h
  refine ⟨config, config.deserialize_serialize, hvalid, fun client hdevice => ?_⟩
  have hlater (later : ServerConfig) :
      authenticatedGroup sha256 later.credentials (client.hello config) =
        (later.groups.find? (·.key = config.key)).map fun group =>
          (group.name, sha256 config.key.toUTF8.toList) := by
    rw [authenticatedGroup_credentials (validHello_of_validate hdevice hvalid)]
    cases hfind : later.groups.find? (·.key = config.key) with
    | none => rfl
    | some found =>
      have hfound : found.key = config.key := by simpa using List.find?_some hfind
      rw [Option.map_some, Option.map_some, hfound]
  refine ⟨?_, hlater⟩
  -- the keys of the groups differ, so the group of the request is the one with the key
  have hfind : tunnel.groups.find? (·.key = config.key) = some group := by
    cases hfind : tunnel.groups.find? (·.key = config.key) with
    | none => simpa [hkey] using List.find?_eq_none.mp hfind group hgroup
    | some found =>
      have hfound : found.key = config.key := by simpa using List.find?_some hfind
      rw [List.inj_on_of_nodup_map (ServerConfig.keys_nodup htunnel)
        (List.mem_of_find?_eq_some hfind) hgroup (hfound.trans hkey.symm)]
  rw [hlater tunnel, hfind, Option.map_some, hname]

end Generated

def twoGroups : ServerConfig where
  quic := ⟨⟨.v4 0, 2333⟩, "/etc/gaterust/tunnel/server.pem", "/etc/gaterust/tunnel/server-key.pem"⟩
  groups := [⟨"lab", "fedcba9876543210fedcba9876543210"⟩,
    ⟨"office", "0123456789abcdef0123456789abcdef"⟩]
  tunnels := [⟨"ssh", "office", .tcp, ⟨.v4 0, 22022⟩, "127.0.0.1", none, none, 128, 128, 60⟩]

def officeRequest : ClientConfigRequest where
  group := "office"
  serverAddress := "gate.example.com:2333"
  serverName := none
  caCertificate := none
  services := [⟨"ssh", .tcp, some "127.0.0.1:22"⟩]

def officeClient : ClientConfig where
  key := "0123456789abcdef0123456789abcdef"
  server := ⟨"gate.example.com:2333", none, none⟩
  services := [⟨"ssh", .tcp, some "127.0.0.1:22"⟩]

theorem group_of_office :
    ∃ config, ClientConfig.deserialize (.table officeClient.serialize) = some config ∧
      config.validate = .ok () ∧
      ∀ client : Client, validateDeviceId client.deviceId = true →
        authenticatedGroup id twoGroups.credentials (client.hello config) =
          some ("office", config.key.toUTF8.toList) := by
  have hvalid : officeClient.validate = .ok () := by decide +kernel
  have hfind : twoGroups.groups.find? (·.name = officeRequest.group) =
      some ⟨"office", officeClient.key⟩ := by decide +kernel
  have hgenerated : generateClientConfig (some twoGroups) officeRequest =
      .ok officeClient.serialize := by
    simp only [generateClientConfig, hfind]
    change (match officeClient.validate with
      | .error error => Except.error (ApiError.badRequest error.display)
      | .ok () => .ok officeClient.serialize) = _
    rw [hvalid]
  obtain ⟨config, hread, hconfig, hfound⟩ :=
    group_of_generated (by decide +kernel) hgenerated
  exact ⟨config, hread, hconfig, fun client hdevice => (hfound client hdevice).1⟩

end GateRust.Control
