/-
# The sizes of the control frames

The JSON of the messages of `protocol.rs`, as it is written without blanks, and the bytes that it
takes.  The limits that the two sides check on their own, on the number of tunnels of a group and of
services, on names, on addresses and on keys, together keep every frame of a well formed peer below
the limit of a control frame; and what a client sends from a valid configuration passes the checks
of the server.
-/
import GateRust.Lib.Json
import GateRust.Tunnel.Authentication
import GateRust.Tunnel.Catalogs
import GateRust.Tunnel.ClientConfig
import GateRust.Tunnel.DeviceIdentity

namespace GateRust.Tunnel

open Machine

/-! ## The messages -/

inductive AuthenticationStatus where
  | accepted
  | rejected
  | deviceIdConflict
  | serverBusy
deriving DecidableEq, Repr

structure ServerHello where
  status : AuthenticationStatus
  message : String
  tunnels : List ClientTunnel
deriving DecidableEq, Repr

/-- What `authenticate` of the client sends. -/
def ClientConfig.hello (config : ClientConfig) (deviceId : String) : ClientHello where
  version := protocolVersion
  deviceId := deviceId
  key := config.key.toUTF8.toList
  services := Client.declarations config.services

def TunnelKind.json : TunnelKind → List UInt8
  | .tcp => Json.string "tcp"
  | .udp => Json.string "udp"
  | .socks5 => Json.string "socks5"

def ClientTunnelState.json : ClientTunnelState → List UInt8
  | .idle => Json.string "idle"
  | .enabled => Json.string "enabled"
  | .occupied => Json.string "occupied"

def AuthenticationStatus.json : AuthenticationStatus → List UInt8
  | .accepted => Json.string "accepted"
  | .rejected => Json.string "rejected"
  | .deviceIdConflict => Json.string "device_id_conflict"
  | .serverBusy => Json.string "server_busy"

def ClientTunnel.json (t : ClientTunnel) : List UInt8 :=
  Json.object
    [Json.field "name" (Json.string t.name), Json.field "kind" t.kind.json,
      Json.field "server_port" (Json.number t.serverPort.toNat),
      Json.field "local_ip" (Json.option Json.string t.localIp),
      Json.field "local_port" (Json.option (fun port => Json.number port.toNat) t.localPort),
      Json.field "state" t.state.json]

def ServiceDeclaration.json (s : ServiceDeclaration) : List UInt8 :=
  Json.object [Json.field "name" (Json.string s.name), Json.field "kind" s.kind.json]

/-- The hello in `ServerHandshake::Authenticate`. -/
def ServerHello.json (h : ServerHello) : List UInt8 :=
  Json.object [Json.field "Authenticate" (Json.object
    [Json.field "status" h.status.json, Json.field "message" (Json.string h.message),
      Json.field "tunnels" (Json.array (h.tunnels.map ClientTunnel.json))])]

def ServerControlMessage.json : ServerControlMessage → List UInt8
  | .tunnelSnapshot tunnels =>
    Json.object [Json.field "TunnelSnapshot" (Json.array (tunnels.map ClientTunnel.json))]
  | .servicesApplied requestId tunnels =>
    Json.object [Json.field "ServicesApplied" (Json.object
      [Json.field "request_id" (Json.number requestId.toNat),
        Json.field "tunnels" (Json.array (tunnels.map ClientTunnel.json))])]

/-- The hello in `ClientHandshake::Authenticate`. -/
def ClientHello.json (h : ClientHello) : List UInt8 :=
  Json.object [Json.field "Authenticate" (Json.object
    [Json.field "version" (Json.number h.version.toNat),
      Json.field "device_id" (Json.string h.deviceId),
      Json.field "key" (Json.array (h.key.map fun byte => Json.number byte.toNat)),
      Json.field "services" (Json.array (h.services.map ServiceDeclaration.json))])]

def ControlMessage.json : ControlMessage → List UInt8
  | .updateServices requestId services =>
    Json.object [Json.field "UpdateServices" (Json.object
      [Json.field "request_id" (Json.number requestId.toNat),
        Json.field "services" (Json.array (services.map ServiceDeclaration.json))])]

example : ServiceDeclaration.json ⟨"web", .tcp⟩ =
    "\x7b\"name\":\"web\",\"kind\":\"tcp\"\x7d".toUTF8.toList := by decide +kernel

/-- `serde_json` for a type: the bytes it writes are those of the JSON. -/
structure SerdeJson (T : Type) (json : T → List UInt8) extends Serde T where
  toVec_eq (value : T) : toVec value = .ok (json value)

/-- The frame is not too long, and `write_frame` writes it. -/
structure Fits {T : Type} {json : T → List UInt8} (serde : SerdeJson T json) (value : T) :
    Prop where
  length_le : (json value).length ≤ maxControlFrame
  write : ∃ bytes, (frame serde.toSerde).write value = .ok bytes

lemma fits_of_length_le {T : Type} {json : T → List UInt8} {serde : SerdeJson T json} {value : T}
    (h : (json value).length ≤ maxControlFrame) : Fits serde value := by
  refine ⟨h, (frame serde.toSerde).format.frame (json value), ?_⟩
  have hencode : (frame serde.toSerde).encode value = .ok (json value) := by
    simp [frame, serde.toVec_eq, Except.mapError]
  rw [Framing.Codec.write, hencode]
  exact if_neg (Nat.not_lt.mpr h)

/-! ## Names and addresses -/

lemma plain_of_nameByte : ∀ byte : UInt8, nameByte byte = true → Json.plain byte = true := by
  have hall : ∀ n < 256, nameByte (UInt8.ofNat n) = true → Json.plain (UInt8.ofNat n) = true := by
    decide +kernel
  intro byte h
  have hbyte := hall byte.toNat byte.toNat_lt
  rw [UInt8.ofNat_toNat] at hbyte
  exact hbyte h

lemma length_name_le {name : String} (h : validName name = true) :
    (Json.string name).length ≤ 66 := by
  simp only [validName, Bool.and_eq_true, decide_eq_true_eq, List.all_eq_true] at h
  obtain ⟨⟨-, hlength⟩, hall⟩ := h
  rw [Json.length_string fun byte hbyte => plain_of_nameByte byte (hall byte hbyte)]
  omega

/-- The characters of addresses are ASCII, and need no escape. -/
lemma plain_of_addressChar {c : Char} (h : addressChar c = true) :
    c.toNat < 128 ∧ Json.plain (UInt8.ofNat c.toNat) = true := by
  have hlt : c.toNat < 128 := by
    simp only [addressChar, Bool.or_eq_true, decide_eq_true_eq] at h
    have hle : ∀ last : Char, last.toNat < 128 → c ≤ last → c.toNat < 128 := by
      intro last hlast hc
      exact Nat.lt_of_le_of_lt (UInt32.le_iff_toNat_le.mp (Char.le_def.mp hc)) hlast
    rcases h with (h | rfl) | rfl
    · unfold hexDigit at h
      split_ifs at h with hdigit hlower hupper
      · exact DeviceIdentity.nameChar_lt (by simp [nameChar, Char.isAlphanum, hdigit])
      · exact hle 'f' (by decide) hlower.2
      · exact hle 'F' (by decide) hupper.2
      · cases h
    · decide
    · decide
  have hall : ∀ n < 128, addressChar (Char.ofNat n) = true → Json.plain (UInt8.ofNat n) = true := by
    decide +kernel
  have hplain := hall c.toNat hlt
  rw [Char.ofNat_toNat] at hplain
  exact ⟨hlt, hplain h⟩

lemma length_address_le {text : String} {ip : IpAddr} (h : parseIpAddr text = some ip) :
    (Json.string text).length ≤ 47 := by
  obtain ⟨hlength, hall⟩ := parseIpAddr_text h
  have hbytes := String.toList_toUTF8_of_lt fun c hc => (plain_of_addressChar (hall c hc)).1
  have hplain : ∀ byte ∈ text.toUTF8.toList, Json.plain byte = true := by
    intro byte hbyte
    rw [hbytes] at hbyte
    obtain ⟨c, hc, rfl⟩ := List.mem_map.mp hbyte
    exact (plain_of_addressChar (hall c hc)).2
  rw [Json.length_string hplain, ← String.length_toUTF8, hbytes, List.length_map]
  omega

lemma length_localIp_le {config : ServerTunnelConfig} (h : config.LocalIpValid) :
    (Json.option Json.string config.clientLocalIp).length ≤ 47 := by
  unfold ServerTunnelConfig.clientLocalIp
  split
  case isTrue hkind =>
    rcases h hkind with hlocal | ⟨ip, hip⟩
    · rw [hlocal]
      decide +kernel
    · exact length_address_le hip
  case isFalse => decide +kernel

lemma length_port_le (port : UInt16) : (Json.number port.toNat).length ≤ 5 :=
  Json.length_number_le (by decide) (Nat.lt_trans port.toNat_lt (by decide))

lemma length_requestId_le (requestId : UInt64) : (Json.number requestId.toNat).length ≤ 20 :=
  Json.length_number_le (by decide) (Nat.lt_trans requestId.toNat_lt (by decide))

lemma length_kind_le (kind : TunnelKind) : kind.json.length ≤ 8 := by
  cases kind <;> decide +kernel

lemma length_state_le (state : ClientTunnelState) : state.json.length ≤ 10 := by
  cases state <;> decide +kernel

lemma length_localPort_le (port : Option UInt16) :
    (Json.option (fun port : UInt16 => Json.number port.toNat) port).length ≤ 5 := by
  cases port with
  | none => decide +kernel
  | some port => exact length_port_le port

/-! ## Tunnels and services -/

lemma length_field_le (name : String) {value : List UInt8} {k : ℕ}
    (hname : (Json.string name).length ≤ 17) (hvalue : value.length ≤ k) :
    (Json.field name value).length ≤ k + 18 := by
  rw [Json.length_field]
  omega

lemma ClientTunnel.length_json_le {t : ClientTunnel} (hname : validName t.name = true)
    (hip : (Json.option Json.string t.localIp).length ≤ 47) : t.json.length ≤ 300 := by
  have hname := length_field_le "name" (by decide +kernel) (length_name_le hname)
  have hkind := length_field_le "kind" (by decide +kernel) (length_kind_le t.kind)
  have hserver := length_field_le "server_port" (by decide +kernel)
    (length_port_le t.serverPort)
  have hip := length_field_le "local_ip" (by decide +kernel) hip
  have hlocal := length_field_le "local_port" (by decide +kernel)
    (length_localPort_le t.localPort)
  have hstate := length_field_le "state" (by decide +kernel) (length_state_le t.state)
  exact (Json.length_object_le (.cons hname (.cons hkind (.cons hserver (.cons hip
    (.cons hlocal (.cons hstate .nil))))))).trans (by decide)

lemma ServiceDeclaration.length_json_le {s : ServiceDeclaration} (hname : validName s.name = true) :
    s.json.length ≤ 128 := by
  have hname := length_field_le "name" (by decide +kernel) (length_name_le hname)
  have hkind := length_field_le "kind" (by decide +kernel) (length_kind_le s.kind)
  exact (Json.length_object_le (.cons hname (.cons hkind .nil))).trans (by decide)

/-- A message is an object with its kind as the only field. -/
lemma length_message_le {kind : String} {value : List UInt8} {k : ℕ}
    (hkind : (Json.string kind).length ≤ 17) (hvalue : value.length ≤ k) :
    (Json.object [Json.field kind value]).length ≤ k + 21 :=
  Json.length_object_le (.cons (length_field_le kind hkind hvalue) .nil)

/-! ## What the server writes -/

/-- The tunnels of a catalog are short. -/
structure ShortTunnels (tunnels : List ClientTunnel) : Prop where
  length_le : tunnels.length ≤ maxClientServices
  json_le : ∀ tunnel ∈ tunnels, tunnel.json.length ≤ 300

lemma ShortTunnels.length_array_le {tunnels : List ClientTunnel} (h : ShortTunnels tunnels) :
    (Json.array (tunnels.map ClientTunnel.json)).length ≤ 77058 := by
  have harray : (Json.array (tunnels.map ClientTunnel.json)).length ≤
      (tunnels.map ClientTunnel.json).length * 301 + 2 :=
    Json.length_array_le (List.forall_mem_map.mpr h.json_le)
  have hlength : tunnels.length ≤ 256 := h.length_le
  rw [List.length_map] at harray
  omega

lemma length_accepted_le {tunnels : List ClientTunnel} (h : ShortTunnels tunnels) :
    (ServerHello.json ⟨.accepted, "", tunnels⟩).length ≤ maxControlFrame := by
  have hstatus : (Json.field "status" AuthenticationStatus.accepted.json).length ≤ 28 :=
    length_field_le _ (by decide +kernel) (by decide +kernel)
  have hmessage : (Json.field "message" (Json.string "")).length ≤ 20 :=
    length_field_le _ (by decide +kernel) (by decide +kernel)
  have htunnels := length_field_le "tunnels" (by decide +kernel) h.length_array_le
  exact (length_message_le (by decide +kernel) (Json.length_object_le (.cons hstatus
    (.cons hmessage (.cons htunnels .nil))))).trans (by decide)

lemma length_snapshot_le {tunnels : List ClientTunnel} (h : ShortTunnels tunnels) :
    (ServerControlMessage.tunnelSnapshot tunnels).json.length ≤ maxControlFrame :=
  (length_message_le (by decide +kernel) h.length_array_le).trans (by decide)

lemma length_servicesApplied_le {tunnels : List ClientTunnel} (h : ShortTunnels tunnels)
    (requestId : UInt64) :
    (ServerControlMessage.servicesApplied requestId tunnels).json.length ≤ maxControlFrame := by
  have hid := length_field_le "request_id" (by decide +kernel)
    (length_requestId_le requestId)
  have htunnels := length_field_le "tunnels" (by decide +kernel) h.length_array_le
  exact (length_message_le (by decide +kernel) (Json.length_object_le (.cons hid
    (.cons htunnels .nil)))).trans (by decide)

/-- The catalog of a session of a reachable server. -/
lemma shortTunnels_catalog {sha256 : GroupSecret → Digest} {system : System} {quic : QuicEndpoint}
    {initial : ServerConfig} {s₀ s : TunnelServer}
    (hstart : TunnelServer.start sha256 system quic initial = some s₀)
    (hreach : Reach (TunnelServer.step sha256 system) TunnelServer.TablesFromReloads s₀ s)
    (id : SessionId) : ShortTunnels (s.listeners.runtime.catalog id) := by
  have hcatalogued : s.Catalogued :=
    hreach.invariant (TunnelServer.catalogued_start hstart) fun _ _ _ h hok hstep =>
      h.step hok hstep
  obtain ⟨configs, hpart, htable⟩ := hcatalogued.table
  obtain ⟨hlength, hall⟩ := TunnelRuntime.catalog_of_part hpart htable id
  refine ⟨hlength, fun tunnel htunnel => ?_⟩
  obtain ⟨config, hconfig, hname, hip⟩ := hall tunnel htunnel
  obtain ⟨hvalid, hlocal⟩ := hpart.forall_checked config hconfig
  exact ClientTunnel.length_json_le (hname ▸ hvalid) (hip ▸ length_localIp_le hlocal)

/-! ## What the client writes -/

variable {config : ClientConfig}

namespace ClientConfig

lemma validateGroupKey_of_validate (h : config.validate = .ok ()) :
    validateGroupKey config.key = true := by
  obtain ⟨⟨⟩, hchecks, -⟩ := Except.exists_ok_of_bind h
  simpa using Except.of_reject_ok hchecks List.mem_cons_self

lemma validateServices_of_validate (h : config.validate = .ok ()) :
    validateClientServices config.services = .ok () := by
  obtain ⟨-, -, h⟩ := Except.exists_ok_of_bind h
  obtain ⟨-, -, h⟩ := Except.exists_ok_of_bind h
  exact h

end ClientConfig

/-- What the client checks of its services is what the server checks of the declarations. -/
lemma validateDeclarations_of_validate {services : List ClientServiceConfig}
    (h : validateClientServices services = .ok ()) :
    validateDeclarations (Client.declarations services) = .ok () := by
  obtain ⟨⟨⟩, hlength, h⟩ := Except.exists_ok_of_bind h
  obtain ⟨names, hservices, -⟩ := Except.exists_ok_of_bind h
  have hlength := Except.of_reject_ok hlength List.mem_cons_self
  have hround : ∀ names service names', validateClientService names service = .ok names' →
      validName service.name = true ∧ service.name ∉ names ∧ names' = service.name :: names := by
    intro names service names' hround
    obtain ⟨⟨⟩, hname, hround⟩ := Except.exists_ok_of_bind hround
    obtain ⟨⟨⟩, hchecks, hround⟩ := Except.exists_ok_of_bind hround
    have hnew := Except.of_reject_ok hchecks List.mem_cons_self
    cases hround
    exact ⟨validName_of_validateName hname, by simpa using hnew, rfl⟩
  have hvalid : ∀ service ∈ services, validName service.name = true :=
    Except.foldlM_forall hservices fun _ _ _ h => (hround _ _ _ h).1
  have hnodup : (services.map (·.name)).Nodup :=
    Except.foldlM_nodup (o := id) hservices rfl fun _ _ _ h => (hround _ _ _ h).2
  have hnames : (Client.declarations services).map (·.name) = services.map (·.name) := by
    rw [Client.declarations, List.map_map]
    rfl
  have hlength : ¬ (Client.declarations services).length > maxClientServices := by
    rw [Client.declarations, List.length_map]
    exact of_decide_eq_false hlength
  have hall : (Client.declarations services).all (fun s => validName s.name) = true := by
    rw [List.all_eq_true]
    exact List.forall_mem_map.mpr hvalid
  rw [validateDeclarations, if_neg hlength, hnames, hall, Bool.true_and]
  exact if_pos (decide_eq_true hnodup)

/-- The declarations that the server accepts are few, and short. -/
lemma length_services_le {services : List ServiceDeclaration}
    (h : validateDeclarations services = .ok ()) :
    (Json.array (services.map ServiceDeclaration.json)).length ≤ 33026 := by
  unfold validateDeclarations at h
  split_ifs at h with hlength hvalid
  rw [Bool.and_eq_true, List.all_eq_true] at hvalid
  have harray : (Json.array (services.map ServiceDeclaration.json)).length ≤
      (services.map ServiceDeclaration.json).length * 129 + 2 :=
    Json.length_array_le (List.forall_mem_map.mpr fun service hservice =>
      ServiceDeclaration.length_json_le (hvalid.1 service hservice))
  rw [List.length_map] at harray
  rw [maxClientServices] at hlength
  omega

/-- The bytes of the key are written as numbers. -/
lemma length_key_le {key : String} (h : validateGroupKey key = true) :
    (Json.array (key.toUTF8.toList.map fun byte => Json.number byte.toNat)).length ≤ 1986 := by
  have hbyte : ∀ byte : UInt8, (Json.number byte.toNat).length ≤ 3 := fun byte =>
    Json.length_number_le (by decide) (Nat.lt_trans byte.toNat_lt (by decide))
  have harray : (Json.array (key.toUTF8.toList.map fun byte => Json.number byte.toNat)).length ≤
      (key.toUTF8.toList.map fun byte => Json.number byte.toNat).length * 4 + 2 :=
    Json.length_array_le (List.forall_mem_map.mpr fun byte _ => hbyte byte)
  have hsize := String.utf8ByteSize_le key
  rw [List.length_map, String.length_toUTF8] at harray
  simp only [validateGroupKey, decide_eq_true_eq, List.length_take, minGroupKeyLength,
    maxGroupKeyLength] at h
  omega

namespace ClientConfig

lemma validHello_hello (h : config.validate = .ok ()) {deviceId : String}
    (hid : validateDeviceId deviceId = true) : validHello (config.hello deviceId) = true := by
  have hkey := validateGroupKey_of_validate h
  have hservices := validateDeclarations_of_validate (validateServices_of_validate h)
  have hread : String.fromUTF8? (config.hello deviceId).key.toByteArray = some config.key :=
    String.fromUTF8?_toUTF8 config.key
  simp only [validHello, hread]
  simp [hello, hkey, hid, hservices, Except.isOk, Except.toBool]

lemma length_hello_le (h : config.validate = .ok ()) {deviceId : String}
    (hid : validateDeviceId deviceId = true) :
    (config.hello deviceId).json.length ≤ maxControlFrame := by
  have hversion := length_field_le "version" (by decide +kernel)
    (length_port_le protocolVersion)
  have hid := length_field_le "device_id" (by decide +kernel) (length_name_le hid)
  have hkey := length_field_le "key" (by decide +kernel)
    (length_key_le (validateGroupKey_of_validate h))
  have hservices := length_field_le "services" (by decide +kernel)
    (length_services_le (validateDeclarations_of_validate (validateServices_of_validate h)))
  exact (length_message_le (by decide +kernel) (Json.length_object_le (.cons hversion
    (.cons hid (.cons hkey (.cons hservices .nil)))))).trans (by decide)

end ClientConfig

lemma length_updateServices_le {services : List ServiceDeclaration}
    (h : validateDeclarations services = .ok ()) (requestId : UInt64) :
    (ControlMessage.updateServices requestId services).json.length ≤ maxControlFrame := by
  have hid := length_field_le "request_id" (by decide +kernel)
    (length_requestId_le requestId)
  have hservices := length_field_le "services" (by decide +kernel)
    (length_services_le h)
  exact (length_message_le (by decide +kernel) (Json.length_object_le (.cons hid
    (.cons hservices .nil)))).trans (by decide)

/-! ## Both sides -/

/-- **Well formed peers never reject each other.**  The frames in which a server with a valid
configuration writes the catalog of a session, and those that a client writes from a valid
configuration, are not too long, for every id that the client can have; and the server accepts what
the client writes. -/
theorem well_formed_peers_accepted (serdeHello : SerdeJson ServerHello ServerHello.json)
    (serdeServer : SerdeJson ServerControlMessage ServerControlMessage.json)
    (serdeClientHello : SerdeJson ClientHello ClientHello.json)
    (serdeClient : SerdeJson ControlMessage ControlMessage.json) {sha256 : GroupSecret → Digest}
    {system : System} {quic : QuicEndpoint} {initial : ServerConfig} {s₀ s : TunnelServer}
    (hstart : TunnelServer.start sha256 system quic initial = some s₀)
    (hreach : Reach (TunnelServer.step sha256 system) TunnelServer.TablesFromReloads s₀ s)
    (id : SessionId) (requestId : UInt64) (hvalid : config.validate = .ok ()) {deviceId : String}
    (hid : DeviceIdentity.Id deviceId) :
    (Fits serdeHello ⟨.accepted, "", s.listeners.runtime.catalog id⟩ ∧
        Fits serdeServer (.tunnelSnapshot (s.listeners.runtime.catalog id)) ∧
        Fits serdeServer (.servicesApplied requestId (s.listeners.runtime.catalog id))) ∧
      (Fits serdeClientHello (config.hello deviceId) ∧
        Fits serdeClient (.updateServices requestId (Client.declarations config.services))) ∧
      validHello (config.hello deviceId) = true ∧
      validateDeclarations (Client.declarations config.services) = .ok () := by
  have hcatalog := shortTunnels_catalog hstart hreach id
  have hservices :=
    validateDeclarations_of_validate (ClientConfig.validateServices_of_validate hvalid)
  refine ⟨⟨?_, ?_, ?_⟩, ⟨?_, ?_⟩, ?_, hservices⟩
  · exact fits_of_length_le (length_accepted_le hcatalog)
  · exact fits_of_length_le (length_snapshot_le hcatalog)
  · exact fits_of_length_le (length_servicesApplied_le hcatalog requestId)
  · exact fits_of_length_le (ClientConfig.length_hello_le hvalid hid.valid)
  · exact fits_of_length_le (length_updateServices_le hservices requestId)
  · exact ClientConfig.validHello_hello hvalid hid.valid

/-- What `serde_json` does with the given values. -/
def SerdeJson.ofValues {T : Type} (json : T → List UInt8) (values : List T) : SerdeJson T json where
  toVec value := .ok (json value)
  fromSlice bytes :=
    match values.find? (json · = bytes) with
    | some value => .ok value
    | none => .error "expected value at line 1 column 1"
  toVec_eq _ := rfl

def sampleClientConfig : ClientConfig where
  key := "AAAAAAAAAAAAAAAAAAAAAAAAAAAAAAAA"
  server := ⟨"gate.example:4433", none, none⟩
  services := [⟨"web", .tcp, some "127.0.0.1:80"⟩]

/-- The id of a host after one conflict. -/
def sampleDeviceId : String :=
  DeviceIdentity.resolveConflict
    (DeviceIdentity.baseDeviceId "linux" none (some "Gate 密 1") none) 42

/-- The catalog with the tunnel `web`, and the hello of a client that declares it. -/
theorem office_frames_accepted :
    ∃ s₀ s, TunnelServer.start TunnelRuntime.sampleSha256 TunnelServer.freeSystem
        TunnelServer.officeEndpoint
        (TunnelServer.officeConfig 4433 [TunnelRuntime.sampleTunnel "web" 8080]) = some s₀ ∧
      TunnelServer.step TunnelRuntime.sampleSha256 TunnelServer.freeSystem s₀
        TunnelServer.officeSession = some s ∧
      sampleDeviceId = "linux-Gate-1-000042" ∧
      (s.listeners.runtime.catalog 1).map (·.name) = ["web"] ∧
      Fits (.ofValues ServerHello.json [⟨.accepted, "", s.listeners.runtime.catalog 1⟩])
        ⟨.accepted, "", s.listeners.runtime.catalog 1⟩ ∧
      validHello (sampleClientConfig.hello sampleDeviceId) = true := by
  have hid : sampleDeviceId = "linux-Gate-1-000042" := by decide +kernel
  have hvalid : sampleClientConfig.validate = .ok () := by decide +kernel
  have hrun : ((TunnelServer.start TunnelRuntime.sampleSha256 TunnelServer.freeSystem
      TunnelServer.officeEndpoint
      (TunnelServer.officeConfig 4433 [TunnelRuntime.sampleTunnel "web" 8080])).bind fun s₀ =>
        (TunnelServer.step TunnelRuntime.sampleSha256 TunnelServer.freeSystem s₀
          TunnelServer.officeSession).map fun s =>
            (s.listeners.runtime.catalog 1).map (·.name)) = some ["web"] := by decide +kernel
  obtain ⟨s₀, hstart, hrun⟩ := Option.bind_eq_some_iff.mp hrun
  obtain ⟨s, hstep, hcatalog⟩ := Option.map_eq_some_iff.mp hrun
  have hok : s₀.TablesFromReloads TunnelServer.officeSession := trivial
  have hderived : DeviceIdentity.Id sampleDeviceId :=
    .resolved 42 (.derived (by decide) none (some "Gate 密 1") none)
  obtain ⟨⟨hfits, -, -⟩, -, hhello, -⟩ := well_formed_peers_accepted
    (.ofValues ServerHello.json [⟨.accepted, "", s.listeners.runtime.catalog 1⟩])
    (.ofValues ServerControlMessage.json [.tunnelSnapshot (s.listeners.runtime.catalog 1)])
    (.ofValues ClientHello.json [sampleClientConfig.hello sampleDeviceId])
    (.ofValues ControlMessage.json
      [.updateServices 1 (Client.declarations sampleClientConfig.services)])
    hstart (Reach.init.next hok hstep) 1 1 hvalid hderived
  exact ⟨s₀, s, hstart, hstep, hid, hcatalog, hfits, hhello⟩

end GateRust.Tunnel
