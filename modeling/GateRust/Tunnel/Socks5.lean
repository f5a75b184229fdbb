/-
# The SOCKS5 handshake

`handshake` reads the methods that a local application offers and its CONNECT request, and makes
the destination that is sent to the client.  What it accepts is a grammar: the requests are the
values of `SocksRequest`, and `SocksRequest.encode` gives the bytes of each.  The bytes behind a
request are data of the application, so the handshake must not touch them.
-/
import GateRust.Lib.ByteStream
import GateRust.Lib.SplitOnce
import GateRust.Tunnel.AddressTexts
import GateRust.Tunnel.Protocol

namespace GateRust.Tunnel

open ByteStream
open Framing (toBE ofBE)

def socksVersion : UInt8 := 5
def noAuth : UInt8 := 0
def noAcceptableMethod : UInt8 := 0xff
def connect : UInt8 := 1

/-! ## The handshake -/

/-- The connection of the application. -/
abbrev Public := Process TunnelError

namespace Public

def readU8 : Public UInt8 := ByteStream.readU8 (.io "unexpected end of file")

/-- `read_u16` and `read_u32`: a number of `width` bytes. -/
def readUint (width : ℕ) : Public ℕ := do
  let bytes ← ByteStream.readExact (.io "unexpected end of file") width
  return ofBE bytes

def readExact (n : ℕ) : Public (List UInt8) := ByteStream.readExact (.io "early eof") n

end Public

/-- `send_reply`: a status, with the address zero of an IPv4 address. -/
def socksReply (status : UInt8) : List UInt8 := [socksVersion, status, 0, 1, 0, 0, 0, 0, 0, 0]

/-- An answer is written before the handshake fails. -/
def refuse {α : Type} (reply : List UInt8) (message : String) : Public α := do
  writeAll reply
  throw (.protocol message)

def refuseIf (refused : Bool) (reply : List UInt8) (message : String) : Public Unit :=
  if refused then refuse reply message else pure ()

/-- The methods that are offered. -/
def negotiate : Public Unit := do
  let version ← Public.readU8
  let methodCount ← Public.readU8
  -- nothing is answered to this
  refuseIf (version ≠ socksVersion || methodCount = 0) [] "无效的 SOCKS5 协商请求"
  let methods ← Public.readExact methodCount.toNat
  refuseIf (!methods.contains noAuth) [socksVersion, noAcceptableMethod]
    "SOCKS5 客户端不支持免认证模式"
  writeAll [socksVersion, noAuth]

/-- The address of a request, as the host of the destination. -/
def readHost (addressType : UInt8) : Public String :=
  match addressType with
  | 1 => do
    let bits ← Public.readUint 4
    return displayIpv4 (.ofNat 32 bits)
  | 3 => do
    let length ← Public.readU8
    refuseIf (length = 0) (socksReply 8) "SOCKS5 域名为空"
    let domain ← Public.readExact length.toNat
    match String.fromUTF8? domain.toByteArray with
    | some domain => return domain
    | none => throw (.protocol "SOCKS5 域名不是 UTF-8")
  | 4 => do
    let octets ← Public.readExact 16
    return "[" ++ displayIpv6 (.ofNat 128 (ofBE octets)) ++ "]"
  | _ => refuse (socksReply 8) "SOCKS5 地址类型不受支持"

/-- `socks5::handshake`. -/
def handshake : Public String := do
  negotiate
  let version ← Public.readU8
  let command ← Public.readU8
  let reserved ← Public.readU8
  let addressType ← Public.readU8
  refuseIf (version ≠ socksVersion || command ≠ connect || reserved ≠ 0) (socksReply 7)
    "仅支持 SOCKS5 CONNECT 命令"
  let host ← readHost addressType
  let port ← Public.readUint 2
  return host ++ ":" ++ toString port

/-! ## The grammar -/

inductive SocksAddress where
  | v4 (bits : BitVec 32)
  | domain (name : String)
  | v6 (bits : BitVec 128)
deriving DecidableEq, Repr

namespace SocksAddress

/-- The type of the address and its bytes. -/
def encode : SocksAddress → List UInt8
  | .v4 bits => 1 :: toBE 4 bits.toNat
  | .domain name => 3 :: UInt8.ofNat name.toUTF8.toList.length :: name.toUTF8.toList
  | .v6 bits => 4 :: toBE 16 bits.toNat

/-- The length of a name is one byte, and it is not zero. -/
def Valid : SocksAddress → Prop
  | .v4 _ | .v6 _ => True
  | .domain name => 1 ≤ name.toUTF8.toList.length ∧ name.toUTF8.toList.length ≤ 255

def host : SocksAddress → String
  | .v4 bits => displayIpv4 bits
  | .domain name => name
  | .v6 bits => "[" ++ displayIpv6 bits ++ "]"

def IsIp : SocksAddress → Prop
  | .v4 _ | .v6 _ => True
  | .domain _ => False

end SocksAddress

/-- What an application sends: the methods it offers, and a CONNECT request. -/
structure SocksRequest where
  methods : List UInt8
  address : SocksAddress
  port : UInt16
deriving DecidableEq, Repr

namespace SocksRequest

structure Valid (request : SocksRequest) : Prop where
  methods_pos : 1 ≤ request.methods.length
  methods_le : request.methods.length ≤ 255
  noAuth : 0 ∈ request.methods
  address : request.address.Valid

def encode (request : SocksRequest) : List UInt8 :=
  5 :: UInt8.ofNat request.methods.length :: request.methods ++
    [5, 1, 0] ++ request.address.encode ++ toBE 2 request.port.toNat

def destination (request : SocksRequest) : String :=
  request.address.host ++ ":" ++ toString request.port.toNat

end SocksRequest

/-! ## What the parts of the handshake accept -/

variable {s s' : Duplex}

lemma refuse_ne_ok {α : Type} {reply : List UInt8} {message : String} {a : α} :
    refuse reply message s ≠ .ok a s' := by
  intro h
  obtain ⟨⟨⟩, t, -, h⟩ := bind_ok_iff.mp h
  exact throw_ne_ok h

lemma refuseIf_ok_iff {refused : Bool} {reply : List UInt8} {message : String} :
    refuseIf refused reply message s = .ok () s' ↔ refused = false ∧ s = s' := by
  cases refused with
  | true => simp [refuseIf, refuse_ne_ok]
  | false => simp [refuseIf, pure_ok_iff]

lemma Public.readU8_ok_iff {byte : UInt8} :
    Public.readU8 s = .ok byte s' ↔ s.input = byte :: s'.input ∧ s.written = s'.written :=
  ByteStream.readU8_ok_iff

lemma Public.readExact_ok_iff {n : ℕ} {bytes : List UInt8} :
    Public.readExact n s = .ok bytes s' ↔
      bytes.length = n ∧ s.input = bytes ++ s'.input ∧ s.written = s'.written :=
  ByteStream.readExact_ok_iff

lemma Public.readUint_ok_iff {width value : ℕ} :
    Public.readUint width s = .ok value s' ↔
      value < 256 ^ width ∧ s.input = toBE width value ++ s'.input ∧ s.written = s'.written := by
  rw [Public.readUint, bind_ok_iff]
  constructor
  · rintro ⟨bytes, t, hread, hpure⟩
    obtain ⟨rfl, hinput, hwritten⟩ := ByteStream.readExact_ok_iff.mp hread
    obtain ⟨rfl, rfl⟩ := pure_ok_iff.mp hpure
    exact ⟨ofBE_lt bytes, by rw [toBE_ofBE, hinput], hwritten⟩
  · rintro ⟨hlt, hinput, hwritten⟩
    refine ⟨toBE width value, s', ?_, pure_ok_iff.mpr ⟨Framing.ofBE_toBE hlt, rfl⟩⟩
    exact ByteStream.readExact_ok_iff.mpr ⟨Framing.length_toBE width value, hinput, hwritten⟩

/-- The methods of a request: a byte counts them, and one of them is no authentication. -/
lemma negotiate_ok_iff : negotiate s = .ok () s' ↔
    ∃ methods : List UInt8, 1 ≤ methods.length ∧ methods.length ≤ 255 ∧ 0 ∈ methods ∧
      s.input = 5 :: UInt8.ofNat methods.length :: methods ++ s'.input ∧
        s'.written = s.written ++ [5, 0] := by
  constructor
  · intro h
    obtain ⟨version, t₁, hversion, h⟩ := bind_ok_iff.mp h
    obtain ⟨count, t₂, hcount, h⟩ := bind_ok_iff.mp h
    obtain ⟨⟨⟩, t₃, hchecked, h⟩ := bind_ok_iff.mp h
    obtain ⟨methods, t₄, hmethods, h⟩ := bind_ok_iff.mp h
    obtain ⟨⟨⟩, t₅, hnoAuth, hwrite⟩ := bind_ok_iff.mp h
    obtain ⟨hin₁, hout₁⟩ := Public.readU8_ok_iff.mp hversion
    obtain ⟨hin₂, hout₂⟩ := Public.readU8_ok_iff.mp hcount
    obtain ⟨hvalid, rfl⟩ := refuseIf_ok_iff.mp hchecked
    obtain ⟨hlength, hin₄, hout₄⟩ := Public.readExact_ok_iff.mp hmethods
    obtain ⟨hmem, rfl⟩ := refuseIf_ok_iff.mp hnoAuth
    obtain ⟨hin₅, hout₅⟩ := writeAll_ok_iff.mp hwrite
    simp only [Bool.or_eq_false_iff, decide_eq_false_iff_not, not_not] at hvalid
    obtain ⟨rfl, hzero⟩ := hvalid
    have hcount : UInt8.ofNat methods.length = count := by rw [hlength, UInt8.ofNat_toNat]
    have hpos : methods.length ≠ 0 := by
      rw [hlength]
      exact fun h => hzero (UInt8.toNat_inj.mp h)
    have hlt := count.toNat_lt
    refine ⟨methods, by omega, by omega, by simpa [noAuth] using hmem, ?_, ?_⟩
    · rw [hin₁, hin₂, hin₄, hcount, hin₅]
      rfl
    · rw [hout₅, ← hout₄, ← hout₂, ← hout₁]
      rfl
  · rintro ⟨methods, hpos, hle, hmem, hinput, hwritten⟩
    have hcount : (UInt8.ofNat methods.length).toNat = methods.length := by
      rw [UInt8.toNat_ofNat']
      omega
    have hzero : UInt8.ofNat methods.length ≠ 0 := fun h => by
      rw [h] at hcount
      have hnone : (0 : UInt8).toNat = 0 := rfl
      omega
    refine bind_ok_iff.mpr ⟨5, ⟨UInt8.ofNat methods.length :: methods ++ s'.input, s.written⟩,
      Public.readU8_ok_iff.mpr ⟨hinput, rfl⟩, ?_⟩
    refine bind_ok_iff.mpr ⟨UInt8.ofNat methods.length, ⟨methods ++ s'.input, s.written⟩,
      Public.readU8_ok_iff.mpr ⟨rfl, rfl⟩, ?_⟩
    refine bind_ok_iff.mpr ⟨(), _, refuseIf_ok_iff.mpr ⟨by simp [hzero, socksVersion], rfl⟩, ?_⟩
    refine bind_ok_iff.mpr ⟨methods, ⟨s'.input, s.written⟩,
      Public.readExact_ok_iff.mpr ⟨hcount.symm, rfl, rfl⟩, ?_⟩
    refine bind_ok_iff.mpr ⟨(), _, refuseIf_ok_iff.mpr ⟨by simpa [noAuth] using hmem, rfl⟩, ?_⟩
    exact writeAll_ok_iff.mpr ⟨rfl, hwritten⟩

lemma SocksAddress.encode_v4 {value : ℕ} (h : value < 256 ^ 4) :
    (SocksAddress.v4 (.ofNat 32 value)).encode = 1 :: toBE 4 value := by
  have hvalue : (BitVec.ofNat 32 value).toNat = value := by
    rw [BitVec.toNat_ofNat]
    exact Nat.mod_eq_of_lt (Nat.lt_of_lt_of_le h (by decide))
  rw [encode, hvalue]

lemma SocksAddress.encode_v6 {octets : List UInt8} (h : octets.length = 16) :
    (SocksAddress.v6 (.ofNat 128 (ofBE octets))).encode = 4 :: octets := by
  have hvalue : (BitVec.ofNat 128 (ofBE octets)).toNat = ofBE octets := by
    have hlt := ofBE_lt octets
    rw [h] at hlt
    rw [BitVec.toNat_ofNat]
    exact Nat.mod_eq_of_lt (Nat.lt_of_lt_of_le hlt (by decide))
  rw [encode, hvalue, ← h, toBE_ofBE]

/-- A successful read of an address leaves what is behind it. -/
lemma readHost_sound {addressType : UInt8} {host : String}
    (h : readHost addressType s = .ok host s') : ∃ address : SocksAddress, address.Valid ∧
      addressType :: s.input = address.encode ++ s'.input ∧ s'.written = s.written ∧
        host = address.host := by
  unfold readHost at h
  split at h
  case h_1 =>
    obtain ⟨value, t, hread, hpure⟩ := bind_ok_iff.mp h
    obtain ⟨hlt, hinput, hwritten⟩ := Public.readUint_ok_iff.mp hread
    obtain ⟨rfl, rfl⟩ := pure_ok_iff.mp hpure
    refine ⟨.v4 (.ofNat 32 value), trivial, ?_, hwritten.symm, rfl⟩
    rw [SocksAddress.encode_v4 hlt, hinput]
    rfl
  case h_2 =>
    obtain ⟨length, t₁, hread, h⟩ := bind_ok_iff.mp h
    obtain ⟨⟨⟩, t₂, hchecked, h⟩ := bind_ok_iff.mp h
    obtain ⟨domain, t₃, hdomain, htext⟩ := bind_ok_iff.mp h
    obtain ⟨hin₁, hout₁⟩ := Public.readU8_ok_iff.mp hread
    obtain ⟨hnonzero, rfl⟩ := refuseIf_ok_iff.mp hchecked
    obtain ⟨hlength, hin₃, hout₃⟩ := Public.readExact_ok_iff.mp hdomain
    cases hname : String.fromUTF8? domain.toByteArray with
    | none =>
      rw [hname] at htext
      exact absurd htext throw_ne_ok
    | some name =>
      rw [hname] at htext
      obtain ⟨rfl, rfl⟩ := pure_ok_iff.mp htext
      obtain rfl := fromUTF8?_eq_some_iff.mp hname
      have hbyte : UInt8.ofNat name.toUTF8.toList.length = length := by
        rw [hlength, UInt8.ofNat_toNat]
      have hpos : name.toUTF8.toList.length ≠ 0 := by
        rw [hlength]
        exact fun h => of_decide_eq_false hnonzero (UInt8.toNat_inj.mp h)
      have hlt := length.toNat_lt
      refine ⟨.domain name, ⟨by omega, by omega⟩, ?_, by rw [← hout₃, ← hout₁], rfl⟩
      rw [SocksAddress.encode, hbyte, hin₁, hin₃]
      rfl
  case h_3 =>
    obtain ⟨octets, t, hread, hpure⟩ := bind_ok_iff.mp h
    obtain ⟨hlength, hinput, hwritten⟩ := Public.readExact_ok_iff.mp hread
    obtain ⟨rfl, rfl⟩ := pure_ok_iff.mp hpure
    refine ⟨.v6 (.ofNat 128 (ofBE octets)), trivial, ?_, hwritten.symm, rfl⟩
    rw [SocksAddress.encode_v6 hlength, hinput]
    rfl
  case h_4 => exact absurd h refuse_ne_ok

/-- The bytes of an address are read as its host. -/
lemma readHost_complete {addressType : UInt8} {address : SocksAddress} {body rest : List UInt8}
    (hvalid : address.Valid) (hencode : address.encode = addressType :: body) :
    readHost addressType ⟨body ++ rest, s.written⟩ = .ok address.host ⟨rest, s.written⟩ := by
  cases address with
  | v4 bits =>
    cases hencode
    have hlt : bits.toNat < 256 ^ 4 := bits.isLt
    refine bind_ok_iff.mpr ⟨bits.toNat, ⟨rest, s.written⟩,
      Public.readUint_ok_iff.mpr ⟨hlt, rfl, rfl⟩, pure_ok_iff.mpr ⟨?_, rfl⟩⟩
    rw [BitVec.ofNat_toNat, BitVec.setWidth_eq]
    rfl
  | v6 bits =>
    cases hencode
    have hlt : bits.toNat < 256 ^ 16 := bits.isLt
    refine bind_ok_iff.mpr ⟨toBE 16 bits.toNat, ⟨rest, s.written⟩,
      Public.readExact_ok_iff.mpr ⟨Framing.length_toBE _ _, rfl, rfl⟩, pure_ok_iff.mpr ⟨?_, rfl⟩⟩
    rw [Framing.ofBE_toBE hlt, BitVec.ofNat_toNat, BitVec.setWidth_eq]
    rfl
  | domain name =>
    cases hencode
    obtain ⟨hpos, hle⟩ := hvalid
    have hlength : (UInt8.ofNat name.toUTF8.toList.length).toNat = name.toUTF8.toList.length := by
      rw [UInt8.toNat_ofNat']
      omega
    have hzero : UInt8.ofNat name.toUTF8.toList.length ≠ 0 := fun h => by
      rw [h] at hlength
      have hnone : (0 : UInt8).toNat = 0 := rfl
      omega
    refine bind_ok_iff.mpr ⟨UInt8.ofNat name.toUTF8.toList.length,
      ⟨name.toUTF8.toList ++ rest, s.written⟩, Public.readU8_ok_iff.mpr ⟨rfl, rfl⟩, ?_⟩
    refine bind_ok_iff.mpr ⟨(), _, refuseIf_ok_iff.mpr ⟨by simpa using hzero, rfl⟩, ?_⟩
    refine bind_ok_iff.mpr ⟨name.toUTF8.toList, ⟨rest, s.written⟩,
      Public.readExact_ok_iff.mpr ⟨hlength.symm, rfl, rfl⟩, ?_⟩
    rw [String.fromUTF8?_toUTF8]
    rfl

/-! ## What the handshake accepts -/

lemma handshake_sound {destination : String} (h : handshake s = .ok destination s') :
    ∃ request : SocksRequest, request.Valid ∧ s.input = request.encode ++ s'.input ∧
      s'.written = s.written ++ [5, 0] ∧ destination = request.destination := by
  obtain ⟨⟨⟩, t₁, hmethods, h⟩ := bind_ok_iff.mp h
  obtain ⟨version, t₂, hversion, h⟩ := bind_ok_iff.mp h
  obtain ⟨command, t₃, hcommand, h⟩ := bind_ok_iff.mp h
  obtain ⟨reserved, t₄, hreserved, h⟩ := bind_ok_iff.mp h
  obtain ⟨addressType, t₅, htype, h⟩ := bind_ok_iff.mp h
  obtain ⟨⟨⟩, t₆, hchecked, h⟩ := bind_ok_iff.mp h
  obtain ⟨host, t₇, hhost, h⟩ := bind_ok_iff.mp h
  obtain ⟨port, t₈, hport, hpure⟩ := bind_ok_iff.mp h
  obtain ⟨methods, hpos, hle, hnoAuth, hin₁, hout₁⟩ := negotiate_ok_iff.mp hmethods
  obtain ⟨hin₂, hout₂⟩ := Public.readU8_ok_iff.mp hversion
  obtain ⟨hin₃, hout₃⟩ := Public.readU8_ok_iff.mp hcommand
  obtain ⟨hin₄, hout₄⟩ := Public.readU8_ok_iff.mp hreserved
  obtain ⟨hin₅, hout₅⟩ := Public.readU8_ok_iff.mp htype
  obtain ⟨hvalid, rfl⟩ := refuseIf_ok_iff.mp hchecked
  obtain ⟨address, haddress, hin₇, hout₇, rfl⟩ := readHost_sound hhost
  obtain ⟨hlt, hin₈, hout₈⟩ := Public.readUint_ok_iff.mp hport
  obtain ⟨rfl, rfl⟩ := pure_ok_iff.mp hpure
  simp only [Bool.or_eq_false_iff, decide_eq_false_iff_not, not_not] at hvalid
  obtain ⟨⟨rfl, rfl⟩, rfl⟩ := hvalid
  have hnumber : (UInt16.ofNat port).toNat = port := by
    rw [UInt16.toNat_ofNat']
    exact Nat.mod_eq_of_lt hlt
  refine ⟨⟨methods, address, UInt16.ofNat port⟩, ⟨hpos, hle, hnoAuth, haddress⟩, ?_, ?_, ?_⟩
  · have hheader : t₁.input = 5 :: 1 :: 0 :: (address.encode ++ toBE 2 port ++ t₈.input) := by
      rw [hin₂, hin₃, hin₄, hin₅, hin₇, hin₈, List.append_assoc]
      rfl
    rw [hin₁, hheader, SocksRequest.encode, hnumber]
    simp
  · rw [← hout₈, hout₇, ← hout₅, ← hout₄, ← hout₃, ← hout₂, hout₁]
  · rw [SocksRequest.destination, hnumber]

lemma handshake_complete {request : SocksRequest} (h : request.Valid) (rest written : List UInt8) :
    handshake ⟨request.encode ++ rest, written⟩ =
      .ok request.destination ⟨rest, written ++ [5, 0]⟩ := by
  obtain ⟨methods, address, port⟩ := request
  obtain ⟨hpos, hle, hnoAuth, haddress⟩ := h
  obtain ⟨addressType, body, hencode⟩ :
      ∃ addressType body, address.encode = addressType :: body := by
    cases address with
    | v4 bits => exact ⟨_, _, rfl⟩
    | domain name => exact ⟨_, _, rfl⟩
    | v6 bits => exact ⟨_, _, rfl⟩
  generalize htail : body ++ (toBE 2 port.toNat ++ rest) = tail
  refine bind_ok_iff.mpr ⟨(), ⟨5 :: 1 :: 0 :: addressType :: tail, written ++ [5, 0]⟩,
    negotiate_ok_iff.mpr ⟨methods, hpos, hle, hnoAuth, ?_, rfl⟩, ?_⟩
  · rw [← htail, SocksRequest.encode, hencode]
    simp
  refine bind_ok_iff.mpr ⟨5, ⟨1 :: 0 :: addressType :: tail, written ++ [5, 0]⟩,
    Public.readU8_ok_iff.mpr ⟨rfl, rfl⟩, ?_⟩
  refine bind_ok_iff.mpr ⟨1, ⟨0 :: addressType :: tail, written ++ [5, 0]⟩,
    Public.readU8_ok_iff.mpr ⟨rfl, rfl⟩, ?_⟩
  refine bind_ok_iff.mpr ⟨0, ⟨addressType :: tail, written ++ [5, 0]⟩,
    Public.readU8_ok_iff.mpr ⟨rfl, rfl⟩, ?_⟩
  refine bind_ok_iff.mpr ⟨addressType, ⟨tail, written ++ [5, 0]⟩,
    Public.readU8_ok_iff.mpr ⟨rfl, rfl⟩, ?_⟩
  refine bind_ok_iff.mpr ⟨(), _, refuseIf_ok_iff.mpr ⟨rfl, rfl⟩, ?_⟩
  refine bind_ok_iff.mpr ⟨address.host, ⟨toBE 2 port.toNat ++ rest, written ++ [5, 0]⟩, ?_, ?_⟩
  · rw [← htail]
    exact readHost_complete (s := ⟨[], written ++ [5, 0]⟩) haddress hencode
  · exact bind_ok_iff.mpr ⟨port.toNat, ⟨rest, written ++ [5, 0]⟩,
      Public.readUint_ok_iff.mpr ⟨port.toNat_lt, rfl, rfl⟩, rfl⟩

lemma SocksRequest.rsplitOnce_destination (request : SocksRequest) :
    request.destination.rsplitOnce ':' = some (request.address.host, toString request.port.toNat) :=
  String.rsplitOnce_append (Nat.notMem_toString rfl request.port.toNat)

lemma SocksAddress.host_injective {address address' : SocksAddress} (hip : address.IsIp)
    (hip' : address'.IsIp) (h : address.host = address'.host) : address = address' := by
  -- a bracket is in no address, so the texts of the two kinds differ
  have hne : ∀ (bits : BitVec 32) (bits' : BitVec 128),
      displayIpv4 bits ≠ "[" ++ displayIpv6 bits' ++ "]" := by
    intro bits bits' heq
    have hchar := (parseIpAddr_text (parseIpAddr_displayIpv4 bits)).2 '[' (by simp [heq])
    cases hchar
  cases address with
  | domain name => exact hip.elim
  | v4 bits =>
    cases address' with
    | domain name => exact hip'.elim
    | v4 bits' =>
      have hparsed := parseIpAddr_displayIpv4 bits
      have htext : displayIpv4 bits = displayIpv4 bits' := h
      rw [htext, parseIpAddr_displayIpv4] at hparsed
      cases hparsed
      rfl
    | v6 bits' => exact absurd h (hne bits bits')
  | v6 bits =>
    cases address' with
    | domain name => exact hip'.elim
    | v4 bits' => exact absurd h.symm (hne bits' bits)
    | v6 bits' =>
      have htext : displayIpv6 bits = displayIpv6 bits' := by
        have hchars := congrArg String.toList h
        simpa [SocksAddress.host, ← String.toList_inj] using hchars
      have hparsed := parseIpv6Addr_displayIpv6 bits
      rw [htext, parseIpv6Addr_displayIpv6] at hparsed
      cases hparsed
      rfl

/-- **The handshake accepts exactly the requests of the grammar**, takes the bytes of the request
and no others, and answers the offer of methods and nothing else.  The destination is split at its
last colon, and for IP addresses it determines the address and the port. -/
theorem handshake_spec :
    (∀ (s s' : Duplex) (destination : String), handshake s = .ok destination s' ↔
      ∃ request : SocksRequest, request.Valid ∧ s.input = request.encode ++ s'.input ∧
        s'.written = s.written ++ [5, 0] ∧ destination = request.destination) ∧
    (∀ request : SocksRequest, request.destination.rsplitOnce ':' =
      some (request.address.host, toString request.port.toNat)) ∧
    ∀ request request' : SocksRequest, request.address.IsIp → request'.address.IsIp →
      request.destination = request'.destination →
        request.address = request'.address ∧ request.port = request'.port := by
  refine ⟨fun s s' destination => ⟨handshake_sound, ?_⟩, SocksRequest.rsplitOnce_destination, ?_⟩
  · rintro ⟨request, hvalid, hinput, hwritten, rfl⟩
    obtain ⟨input, written⟩ := s
    obtain ⟨input', written'⟩ := s'
    obtain rfl : input = request.encode ++ input' := hinput
    obtain rfl : written' = written ++ [5, 0] := hwritten
    exact handshake_complete hvalid input' written
  · intro request request' hip hip' h
    have hsplit := request.rsplitOnce_destination
    rw [h, request'.rsplitOnce_destination] at hsplit
    obtain ⟨hhost, hport⟩ := Prod.mk.inj (Option.some.inj hsplit)
    refine ⟨SocksAddress.host_injective hip hip' hhost.symm, ?_⟩
    exact UInt16.toNat_inj.mp (Nat.repr_injective hport.symm)

/-- A request for a name, with the first bytes of the application behind it. -/
example : handshake ⟨[5, 2, 2, 0, 5, 1, 0, 3, 3, 97, 46, 98, 1, 187, 71], []⟩ =
    .ok "a.b:443" ⟨[71], [5, 0]⟩ := by
  rfl

end GateRust.Tunnel
