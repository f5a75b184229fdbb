/-
# The wire protocol

The control messages and the two frame formats of `protocol.rs`: control frames, a four
byte length and a JSON payload, and datagrams, a two byte length and the bytes of the
datagram.  JSON is a parameter, `Serde`: the library that converts the messages is not part
of the repository.
-/
import GateRust.Lib.FramedLink
import GateRust.Lib.Serde
import GateRust.Tunnel.Config

namespace GateRust.Tunnel

open Framing

def protocolVersion : UInt16 := 5
def maxControlFrame : ℕ := 256 * 1024
def maxDatagram : ℕ := 65535

/-- The errors of the tunnel module that the modelled functions produce. -/
inductive TunnelError where
  | readConfig (path source : String)
  | parseConfig (path source : String)
  | serializeConfig (path source : String)
  | writeConfig (path source : String)
  | invalidConfig (message : String)
  | io (message : String)
  | quinnConnection (message : String)
  | tls (message : String)
  | serverCertificateIsCa
  | protocol (message : String)
  | authentication (message : String)
  | timeout (operation : String)
deriving DecidableEq, Repr

/-- The text of an error in the status of the client and in its replies. -/
def TunnelError.display : TunnelError → String
  | .readConfig path source => "读取配置 " ++ path ++ " 失败: " ++ source
  | .parseConfig path source => "解析配置 " ++ path ++ " 失败: " ++ source
  | .serializeConfig path source => "序列化配置 " ++ path ++ " 失败: " ++ source
  | .writeConfig path source => "写入配置 " ++ path ++ " 失败: " ++ source
  | .invalidConfig message => "配置无效: " ++ message
  | .io message => "I/O 错误: " ++ message
  | .quinnConnection message => "QUIC 连接失败: " ++ message
  | .tls message => "TLS 配置失败: " ++ message
  | .serverCertificateIsCa =>
    "TLS 配置失败: 服务端证书链首证书不能是 CA 证书（Basic Constraints CA:TRUE）"
  | .protocol message => "协议错误: " ++ message
  | .authentication message => "认证失败: " ++ message
  | .timeout operation => "操作超时: " ++ operation

structure ServiceDeclaration where
  name : String
  kind : TunnelKind
deriving DecidableEq, Repr

inductive ClientTunnelState where
  | idle
  | enabled
  | occupied
deriving DecidableEq, Repr

structure ClientTunnel where
  name : String
  kind : TunnelKind
  serverPort : UInt16
  localIp : Option String
  localPort : Option UInt16
  state : ClientTunnelState
deriving DecidableEq, Repr

structure ClientHello where
  version : UInt16
  deviceId : String
  key : List UInt8
  services : List ServiceDeclaration
deriving DecidableEq, Repr

/-- What a client writes on the control stream once it is authenticated. -/
inductive ControlMessage where
  | updateServices (requestId : UInt64) (services : List ServiceDeclaration)
deriving DecidableEq, Repr

/-- What the server writes on the control stream of an authenticated client. -/
inductive ServerControlMessage where
  | tunnelSnapshot (tunnels : List ClientTunnel)
  | servicesApplied (requestId : UInt64) (tunnels : List ClientTunnel)
deriving DecidableEq, Repr

/-- `validate_declarations`: at most 256 services, with valid and pairwise different names. -/
def validateDeclarations (services : List ServiceDeclaration) : Except TunnelError Unit :=
  if services.length > maxClientServices then
    .error (.protocol s!"单个客户端最多声明 {maxClientServices} 个服务")
  else if services.all (fun s => validName s.name) && (services.map (·.name)).Nodup then .ok ()
  else .error (.protocol "服务声明名称无效或重复")

/-! ## Frames -/

variable {T : Type}

/-- Control frames: `write_frame` is `(frame serde).write`, and a poll of a `read_frame` call
is `(frame serde).read`. -/
def frame (serde : Serde T) : Codec T TunnelError where
  format := ⟨4, maxControlFrame, by decide, by decide⟩
  encode value := (serde.toVec value).mapError fun error => .protocol ("序列化控制帧失败: " ++ error)
  decode payload :=
    (serde.fromSlice payload).mapError fun error => .protocol ("解析控制帧失败: " ++ error)
  tooLongToWrite := .protocol "控制帧超过 256 KiB"
  tooLongToRead := .protocol "控制帧超过 256 KiB"

/-- Datagrams on the stream of a UDP session: `write_datagram` is `datagram.write`, and a poll
of a `read_datagram` call is `datagram.read`. -/
def datagram : Codec (List UInt8) TunnelError where
  format := ⟨2, maxDatagram, by decide, by decide⟩
  encode := .ok
  decode := .ok
  tooLongToWrite := .protocol "UDP 数据报超过 65535 字节"
  tooLongToRead := .protocol "UDP 数据报长度无效"

lemma datagram_roundTrips (payload : List UInt8) : datagram.RoundTrips payload := by
  intro bytes h
  simpa [datagram] using h.symm

lemma frame_roundTrips {serde : Serde T} {value : T} (h : serde.RoundTrips value) :
    (frame serde).RoundTrips value := by
  intro payload henc
  cases hv : serde.toVec value with
  | error e => simp [frame, hv, Except.mapError] at henc
  | ok bytes =>
    simp only [frame, hv, Except.mapError, Except.ok.injEq] at henc
    subst henc
    simp [frame, h bytes hv, Except.mapError]

end GateRust.Tunnel
