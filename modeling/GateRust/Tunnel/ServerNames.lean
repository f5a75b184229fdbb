/-
# The server name of a certificate

`server_name_from_der` picks the name that later connections check the certificate against: the
host of the server address when one of the alternative names of the certificate matches it, else
the first DNS name without a wildcard, else the first IP address.  The name is meant to be usable in
that check: an IP address has to be listed as an IP address, and any other name has to be listed as
a DNS name or fall under a wildcard.

Texts are compared as bytes, and parts of them are taken by byte offsets.  An offset inside a
character, or behind the end, makes the program panic; the result `none` of a function stands
for that.
-/
import GateRust.Lib.Utf8
import GateRust.Tunnel.AddressTexts
import GateRust.Tunnel.ClientConfig

namespace GateRust.Tunnel

/-! ## Texts as bytes -/

/-- The bytes of a text. -/
def textBytes (text : String) : List UInt8 := text.toUTF8.toList

def toAsciiLowercase (byte : UInt8) : UInt8 := if 65 ≤ byte ∧ byte ≤ 90 then byte + 32 else byte

def eqIgnoreAsciiCase (left right : List UInt8) : Bool :=
  left.map toAsciiLowercase = right.map toAsciiLowercase

/-- `str::is_char_boundary`: the ends, and the places where a character begins. -/
def isCharBoundary (bytes : List UInt8) (index : ℕ) : Bool :=
  index = 0 || index = bytes.length ||
    (bytes[index]?).any fun byte => byte.toNat < 128 || 192 ≤ byte.toNat

/-- `str::get` from an offset on. -/
def getFrom (bytes : List UInt8) (index : ℕ) : Option (List UInt8) :=
  if isCharBoundary bytes index then some (bytes.drop index) else none

/-- Slicing up to an offset, which has to be a boundary. -/
def sliceTo (bytes : List UInt8) (index : ℕ) : Option (List UInt8) :=
  if isCharBoundary bytes index then some (bytes.take index) else none

/-! ## Choosing a name -/

/-- The names of a certificate as the parser gives them. -/
inductive GeneralName where
  | dnsName (name : String)
  | ipAddress (raw : List UInt8)
  | other
deriving DecidableEq, Repr

def dot : UInt8 := 46

/-- `strip_prefix("*.")`. -/
def stripWildcard (pattern : String) : Option String :=
  match pattern.toList with
  | '*' :: '.' :: suffix => some (.ofList suffix)
  | _ => none

def dnsMatches (pattern host : String) : Option Bool :=
  if eqIgnoreAsciiCase (textBytes pattern) (textBytes host) then some true
  else
    match stripWildcard pattern with
    | none => some false
    | some suffix =>
      let host := textBytes host
      let suffix := textBytes suffix
      if host.length ≤ suffix.length then some false
      else
        let start := host.length - suffix.length
        if (getFrom host start).any (eqIgnoreAsciiCase · suffix) = false then some false
        else if host[start - 1]? ≠ some dot then some false
        else (sliceTo host (start - 1)).map fun label => !label.contains dot

def ipFromSan (raw : List UInt8) : Option IpAddr :=
  if raw.length = 4 then some (.v4 (.ofNat 32 (Framing.ofBE raw)))
  else if raw.length = 16 then some (.v6 (.ofNat 128 (Framing.ofBE raw)))
  else none

/-- One name of the first loop: it makes the function return the host of the address. -/
def nameMatches (host : String) : GeneralName → Option Bool
  | .dnsName dns => dnsMatches dns host
  | .ipAddress raw => some ((ipFromSan raw).any fun ip => some ip = parseIpAddr host)
  | .other => some false

def anyNameMatches (host : String) : List GeneralName → Option Bool
  | [] => some false
  | name :: names => do
    if ← nameMatches host name then return true
    anyNameMatches host names

/-- The first DNS name without a wildcard. -/
def firstConcreteDns (names : List GeneralName) : Option String :=
  names.findSome? fun
    | .dnsName dns => if '*' ∈ dns.toList then none else some dns
    | _ => none

def firstIp (names : List GeneralName) : Option String :=
  names.findSome? fun
    | .ipAddress raw => (ipFromSan raw).map IpAddr.display
    | _ => none

def serverNameFromNames (names : List GeneralName) (address : String) :
    Option (Except TunnelError String) :=
  match addressHost address with
  | none => some (.error (.invalidConfig "无法从服务器地址推导主机名"))
  | some host => do
    if ← anyNameMatches host names then return .ok host
    match (firstConcreteDns names).or (firstIp names) with
    | some name => return .ok name
    | none => return .error (.tls "服务端证书不包含可用的 DNS/IP SAN")

/-- What the parser returns for the alternative names: they may be malformed or missing. -/
structure NamedCertificate where
  subjectAlternativeName : Except Unit (Option (List GeneralName))

/-- `parse` is `parse_x509_certificate`. -/
def serverNameFromDer (parse : List UInt8 → Option NamedCertificate) (certificate : List UInt8)
    (address : String) : Option (Except TunnelError String) :=
  match parse certificate with
  | none => some (.error (.tls "解析服务端叶证书失败"))
  | some certificate =>
    match certificate.subjectAlternativeName with
    | .error () => some (.error (.tls "解析服务端证书 SAN 失败"))
    | .ok none => some (.error (.tls "服务端证书缺少 SAN"))
    | .ok (some names) => serverNameFromNames names address

/-! ## Names that can be verified -/

/-- The entry is the name, or a wildcard for one label more than its suffix. -/
def DnsCovers (dns name : String) : Prop :=
  eqIgnoreAsciiCase (textBytes dns) (textBytes name) = true ∨
    ∃ suffix label rest, dns = "*." ++ suffix ∧ name = label ++ "." ++ rest ∧
      eqIgnoreAsciiCase (textBytes rest) (textBytes suffix) = true ∧ label ≠ "" ∧
        '.' ∉ label.toList

/-- One of the entries is the IP address. -/
def IpListed (names : List GeneralName) (ip : IpAddr) : Prop :=
  ∃ raw, .ipAddress raw ∈ names ∧ ipFromSan raw = some ip

/-- The verification of the name against the certificate can succeed. -/
structure Verifiable (names : List GeneralName) (name : String) : Prop where
  ip : ∀ ip, parseIpAddr name = some ip → IpListed names ip
  dns : parseIpAddr name = none →
    name ≠ "" ∧ ∃ dns, .dnsName dns ∈ names ∧ DnsCovers dns name

example : dnsMatches "*.example.com" "gate.example.com" = some true := by decide +kernel

example : dnsMatches "*.example.com" "a.gate.example.com" = some false := by decide +kernel

/-! ## What matches -/

variable {pattern host : String} {names : List GeneralName}

lemma stripWildcard_eq_some_iff {suffix : String} :
    stripWildcard pattern = some suffix ↔ pattern = "*." ++ suffix := by
  have hstart : ("*." ++ suffix).toList = '*' :: '.' :: suffix.toList := by simp
  unfold stripWildcard
  constructor
  · intro h
    split at h
    case h_1 chars hchars =>
      cases h
      rw [← String.toList_inj, hchars]
      simp
    case h_2 => cases h
  · rintro rfl
    simp [hstart]

lemma length_eq_of_eqIgnoreAsciiCase {left right : List UInt8}
    (h : eqIgnoreAsciiCase left right = true) : left.length = right.length := by
  have hmap := congrArg List.length (of_decide_eq_true h)
  simpa using hmap

lemma textBytes_append (left right : String) :
    textBytes (left ++ right) = textBytes left ++ textBytes right :=
  String.toUTF8_append left right

lemma dot_mem_textBytes {text : String} : dot ∈ textBytes text ↔ '.' ∈ text.toList :=
  String.mem_toUTF8_iff (c := '.') (by decide)

lemma textBytes_dot : textBytes "." = [dot] := by decide +kernel

/-- The offset of a dot is a boundary. -/
lemma isCharBoundary_dot {bytes : List UInt8} {index : ℕ} (h : bytes[index]? = some dot) :
    isCharBoundary bytes index = true := by
  simp [isCharBoundary, h, dot]

/-- The part behind a text begins at a boundary. -/
lemma isCharBoundary_append (left : List UInt8) (right : String) :
    isCharBoundary (left ++ textBytes right) left.length = true := by
  rw [isCharBoundary, Bool.or_eq_true, Bool.or_eq_true]
  rcases hright : textBytes right with _ | ⟨byte, rest⟩
  · exact .inl (.inr (by simp))
  · have hhead : right.toUTF8.toList.head? = some byte := by
      rw [textBytes] at hright
      rw [hright]
      rfl
    have hfirst := String.head?_toUTF8 hhead
    exact .inr (by simpa using hfirst)

/-- The wildcard stands for one label, which may be empty. -/
def WildcardMatches (pattern host : String) : Prop :=
  ∃ suffix label rest, pattern = "*." ++ suffix ∧ host = label ++ "." ++ rest ∧
    eqIgnoreAsciiCase (textBytes rest) (textBytes suffix) = true ∧ '.' ∉ label.toList

lemma dnsMatches_of_wildcardMatches (h : WildcardMatches pattern host) :
    dnsMatches pattern host = some true := by
  obtain ⟨suffix, label, rest, rfl, rfl, hrest, hlabel⟩ := h
  unfold dnsMatches
  split
  case isTrue => rfl
  case isFalse =>
    have hlength := length_eq_of_eqIgnoreAsciiCase hrest
    have hbytes : textBytes (label ++ "." ++ rest) =
        textBytes label ++ dot :: textBytes rest := by
      rw [textBytes_append, textBytes_append, textBytes_dot, List.append_assoc]
      rfl
    have hstart : (textBytes label ++ dot :: textBytes rest).length - (textBytes suffix).length =
        (textBytes label).length + 1 := by
      rw [List.length_append, List.length_cons]
      omega
    have hdot : (textBytes label ++ dot :: textBytes rest)[(textBytes label).length]? =
        some dot := by
      simp
    have hfrom : getFrom (textBytes label ++ dot :: textBytes rest)
        ((textBytes label).length + 1) = some (textBytes rest) := by
      have hfront : (textBytes label ++ [dot]).length = (textBytes label).length + 1 := by simp
      rw [List.append_cons, ← hfront, getFrom, if_pos (isCharBoundary_append _ rest),
        List.drop_left]
    have hslice : sliceTo (textBytes label ++ dot :: textBytes rest) (textBytes label).length =
        some (textBytes label) := by
      rw [sliceTo, if_pos (isCharBoundary_dot hdot), List.take_left]
    have hnone : dot ∉ textBytes label := mt dot_mem_textBytes.mp hlabel
    simp only [stripWildcard_eq_some_iff.mpr rfl, hbytes, hstart, hfrom, Nat.add_sub_cancel, hslice]
    rw [if_neg (by rw [List.length_append, List.length_cons]; omega)]
    simp [hrest, hnone]

/-- A wildcard that matches stands for a label. -/
lemma wildcardMatches_of_dnsMatches (h : dnsMatches pattern host = some true)
    (hne : eqIgnoreAsciiCase (textBytes pattern) (textBytes host) = false) :
    WildcardMatches pattern host := by
  unfold dnsMatches at h
  rw [hne, if_neg Bool.false_ne_true] at h
  cases hsuffix : stripWildcard pattern with
  | none => simp [hsuffix] at h
  | some suffix =>
    simp only [hsuffix] at h
    split at h
    case isTrue => cases h
    case isFalse hlength =>
      split at h
      case isTrue => cases h
      case isFalse hfrom =>
        split at h
        case isTrue => cases h
        case isFalse hdot =>
          rw [Bool.not_eq_false, Option.any_eq_true] at hfrom
          obtain ⟨value, hvalue, heq⟩ := hfrom
          rw [not_not] at hdot
          rw [sliceTo, if_pos (isCharBoundary_dot hdot)] at h
          unfold getFrom at hvalue
          split at hvalue
          case isFalse => cases hvalue
          case isTrue =>
            cases hvalue
            generalize hstart : (textBytes host).length - (textBytes suffix).length = start
              at heq hdot h
            obtain ⟨index, rfl⟩ : ∃ index, start = index + 1 := ⟨start - 1, by omega⟩
            rw [Nat.add_sub_cancel] at hdot h
            -- the host around the dot
            have hbytes : textBytes host = (textBytes host).take index ++
                dot :: (textBytes host).drop (index + 1) := by
              obtain ⟨hindex, hget⟩ := List.getElem?_eq_some_iff.mp hdot
              rw [← hget, ← List.drop_eq_getElem_cons hindex, List.take_append_drop]
            obtain ⟨label, rest, hhost, hlabel, hrest⟩ :=
              String.toList_toUTF8_eq_append (c := '.') (by decide) hbytes
            have hlabel : textBytes label = (textBytes host).take index := hlabel
            have hrest : textBytes rest = (textBytes host).drop (index + 1) := hrest
            refine ⟨suffix, label, rest, stripWildcard_eq_some_iff.mp hsuffix, hhost,
              hrest ▸ heq, fun hmem => ?_⟩
            have hbyte := dot_mem_textBytes.mpr hmem
            rw [hlabel] at hbyte
            simp [hbyte] at h

/-- A pattern matches the hosts it is equal to, and those that the wildcard stands for. -/
lemma dnsMatches_iff : dnsMatches pattern host = some true ↔
    eqIgnoreAsciiCase (textBytes pattern) (textBytes host) = true ∨
      WildcardMatches pattern host := by
  constructor
  · intro h
    cases heq : eqIgnoreAsciiCase (textBytes pattern) (textBytes host) with
    | true => exact .inl rfl
    | false => exact .inr (wildcardMatches_of_dnsMatches h heq)
  · rintro (heq | hwildcard)
    · rw [dnsMatches, if_pos heq]
    · exact dnsMatches_of_wildcardMatches hwildcard

/-- The offsets of the comparison are boundaries of characters inside the host. -/
lemma dnsMatches_isSome (pattern host : String) : (dnsMatches pattern host).isSome = true := by
  unfold dnsMatches
  split
  case isTrue => rfl
  case isFalse =>
    split
    case h_1 => rfl
    case h_2 suffix hsuffix =>
      dsimp only
      split_ifs with hlength hfrom hdot
      · rfl
      · rfl
      · rfl
      · rw [sliceTo, if_pos (isCharBoundary_dot (not_not.mp hdot))]
        rfl

lemma nameMatches_isSome (host : String) (name : GeneralName) :
    (nameMatches host name).isSome = true := by
  cases name with
  | dnsName dns => exact dnsMatches_isSome dns host
  | ipAddress raw => rfl
  | other => rfl

/-- Some name of the certificate matches the host. -/
def AnyMatches (names : List GeneralName) (host : String) : Prop :=
  ∃ name ∈ names, nameMatches host name = some true

lemma anyNameMatches_cases (names : List GeneralName) (host : String) :
    (anyNameMatches host names = some true ∧ AnyMatches names host) ∨
      (anyNameMatches host names = some false ∧ ¬ AnyMatches names host) := by
  induction names with
  | nil => exact .inr ⟨rfl, by simp [AnyMatches]⟩
  | cons name names ih =>
    obtain ⟨found, hfound⟩ := Option.isSome_iff_exists.mp (nameMatches_isSome host name)
    cases found with
    | true => exact .inl ⟨by simp [anyNameMatches, hfound], name, List.mem_cons_self, hfound⟩
    | false =>
      have hloop : anyNameMatches host (name :: names) = anyNameMatches host names := by
        simp [anyNameMatches, hfound]
      have hany : AnyMatches (name :: names) host ↔ AnyMatches names host := by
        simp [AnyMatches, hfound]
      rw [hloop, hany]
      exact ih

/-! ## The name that is chosen -/

variable {address name : String}

lemma serverNameFromNames_of_matches (hhost : addressHost address = some host)
    (h : AnyMatches names host) : serverNameFromNames names address = some (.ok host) := by
  rcases anyNameMatches_cases names host with ⟨hloop, -⟩ | ⟨-, hnone⟩
  · simp [serverNameFromNames, hhost, hloop]
  · exact absurd h hnone

lemma serverNameFromNames_of_not_matches (hhost : addressHost address = some host)
    (h : ¬ AnyMatches names host) :
    serverNameFromNames names address = some
      (match (firstConcreteDns names).or (firstIp names) with
      | some name => .ok name
      | none => .error (.tls "服务端证书不包含可用的 DNS/IP SAN")) := by
  rcases anyNameMatches_cases names host with ⟨-, hany⟩ | ⟨hloop, -⟩
  · exact absurd hany h
  · simp only [serverNameFromNames, hhost, hloop]
    cases (firstConcreteDns names).or (firstIp names) with
    | none => rfl
    | some name => rfl

lemma mem_of_firstConcreteDns {dns : String} (h : firstConcreteDns names = some dns) :
    .dnsName dns ∈ names := by
  obtain ⟨name, hmem, hname⟩ := List.exists_of_findSome?_eq_some h
  cases name with
  | dnsName dns' =>
    simp only at hname
    split at hname
    case isTrue => cases hname
    case isFalse =>
      cases hname
      exact hmem
  | ipAddress raw => cases hname
  | other => cases hname

lemma ipListed_of_firstIp (h : firstIp names = some name) :
    ∃ ip, IpListed names ip ∧ name = ip.display := by
  obtain ⟨entry, hmem, hentry⟩ := List.exists_of_findSome?_eq_some h
  cases entry with
  | dnsName dns => cases hentry
  | ipAddress raw =>
    obtain ⟨ip, hip, rfl⟩ := Option.map_eq_some_iff.mp hentry
    exact ⟨ip, ⟨raw, hmem, hip⟩, rfl⟩
  | other => cases hentry

lemma verifiable_of_ip {ip : IpAddr} (h : parseIpAddr name = some ip) :
    Verifiable names name ↔ IpListed names ip := by
  constructor
  · exact fun hverifiable => hverifiable.ip ip h
  · intro hlisted
    refine ⟨fun ip' hip' => ?_, fun hnone => ?_⟩
    · obtain rfl := Option.some.inj (h.symm.trans hip')
      exact hlisted
    · cases h.symm.trans hnone

lemma verifiable_of_not_ip (h : parseIpAddr name = none) :
    Verifiable names name ↔ name ≠ "" ∧ ∃ dns, .dnsName dns ∈ names ∧ DnsCovers dns name := by
  constructor
  · exact fun hverifiable => hverifiable.dns h
  · intro hdns
    refine ⟨fun ip hip => ?_, fun _ => hdns⟩
    cases h.symm.trans hip

lemma anyMatches_ip_iff {ip : IpAddr} (h : parseIpAddr host = some ip) :
    AnyMatches names host ↔
      IpListed names ip ∨ ∃ dns, .dnsName dns ∈ names ∧ dnsMatches dns host = some true := by
  constructor
  · rintro ⟨entry, hmem, hmatch⟩
    cases entry with
    | dnsName dns => exact .inr ⟨dns, hmem, hmatch⟩
    | ipAddress raw =>
      refine .inl ⟨raw, hmem, ?_⟩
      rw [nameMatches, h, Option.some.injEq, Option.any_eq_true] at hmatch
      obtain ⟨ip', hip', heq⟩ := hmatch
      rw [hip']
      exact of_decide_eq_true heq
    | other => cases hmatch
  · rintro (⟨raw, hmem, hip⟩ | ⟨dns, hmem, hmatch⟩)
    · exact ⟨.ipAddress raw, hmem, by simp [nameMatches, h, hip]⟩
    · exact ⟨.dnsName dns, hmem, hmatch⟩

lemma anyMatches_not_ip_iff (h : parseIpAddr host = none) :
    AnyMatches names host ↔ ∃ dns, .dnsName dns ∈ names ∧ dnsMatches dns host = some true := by
  constructor
  · rintro ⟨entry, hmem, hmatch⟩
    cases entry with
    | dnsName dns => exact ⟨dns, hmem, hmatch⟩
    | ipAddress raw => simp [nameMatches, h] at hmatch
    | other => cases hmatch
  · rintro ⟨dns, hmem, hmatch⟩
    exact ⟨.dnsName dns, hmem, hmatch⟩

lemma dnsMatches_of_dnsCovers (h : DnsCovers pattern host) :
    dnsMatches pattern host = some true := by
  refine dnsMatches_iff.mpr (h.imp_right ?_)
  rintro ⟨suffix, label, rest, hpattern, hhost, hrest, -, hlabel⟩
  exact ⟨suffix, label, rest, hpattern, hhost, hrest, hlabel⟩

/-- A name that can be verified is matched. -/
lemma Verifiable.anyMatches (h : Verifiable names host) : AnyMatches names host := by
  cases hip : parseIpAddr host with
  | some ip => exact (anyMatches_ip_iff hip).mpr (.inl ((verifiable_of_ip hip).mp h))
  | none =>
    obtain ⟨-, dns, hmem, hcovers⟩ := (verifiable_of_not_ip hip).mp h
    exact (anyMatches_not_ip_iff hip).mpr ⟨dns, hmem, dnsMatches_of_dnsCovers hcovers⟩

/-- No address begins with a dot. -/
lemma parseIpAddr_dot (rest : String) : parseIpAddr ("." ++ rest) = none := by
  have hchars : ("." ++ rest).toList = '.' :: rest.toList := by simp
  have hstops : Stops decimalDigit ('.' :: rest.toList) := by
    intro c hc
    cases hc
    rfl
  have hstops' : Stops hexDigit ('.' :: rest.toList) := by
    intro c hc
    cases hc
    rfl
  have hipv4 := readIpv4Addr_eq_none_of_stops hstops
  have hnumber : readNumber hexDigit 16 4 65536 true ('.' :: rest.toList) = none :=
    readNumber_eq_none hstops'
  have hipv6 : readIpv6Addr ('.' :: rest.toList) = none := by
    simp [readIpv6Addr, readGroups, readSeparated, hipv4, hnumber]
  simp [parseIpAddr, parseWith, hchars, hipv4, hipv6]

lemma eq_empty_of_textBytes {text : String} (h : textBytes text = []) : text = "" := by
  have hsize := congrArg List.length h
  rw [textBytes, String.length_toUTF8] at hsize
  exact String.utf8ByteSize_eq_zero_iff.mp hsize

lemma dnsMatches_empty_iff : dnsMatches pattern "" = some true ↔ pattern = "" := by
  rw [dnsMatches_iff]
  constructor
  · rintro (heq | ⟨suffix, label, rest, -, hhost, -, -⟩)
    · have hlength := length_eq_of_eqIgnoreAsciiCase heq
      rw [show textBytes "" = [] by decide +kernel] at hlength
      exact eq_empty_of_textBytes (List.length_eq_zero_iff.mp hlength)
    · have hchars := congrArg String.toList hhost
      simp at hchars
  · rintro rfl
    exact .inl (by decide +kernel)

/-- Nothing goes wrong with the names of a certificate and the host of an address. -/
structure NamesUsable (names : List GeneralName) (host : String) : Prop where
  /-- A DNS name that matches the text of an IP address stands beside that address. -/
  ipHost : ∀ ip, parseIpAddr host = some ip →
    (∃ dns, .dnsName dns ∈ names ∧ dnsMatches dns host = some true) → IpListed names ip
  emptyHost : host = "" → .dnsName "" ∉ names
  /-- A wildcard that matches with an empty label is not needed. -/
  emptyLabel : ∀ rest suffix, host = "." ++ rest → .dnsName ("*." ++ suffix) ∈ names →
    eqIgnoreAsciiCase (textBytes rest) (textBytes suffix) = true →
      ∃ dns, .dnsName dns ∈ names ∧ eqIgnoreAsciiCase (textBytes dns) (textBytes host) = true
  /-- The DNS name that stands in for the host is neither empty nor the text of an IP address that
  is not listed. -/
  fallback : ¬ AnyMatches names host → ∀ dns, firstConcreteDns names = some dns →
    dns ≠ "" ∧ ∀ ip, parseIpAddr dns = some ip → IpListed names ip

/-- The function returns, its name can be verified, and it keeps a host that can be verified. -/
structure SelectsVerifiable (result : Option (Except TunnelError String))
    (names : List GeneralName) (address : String) : Prop where
  returns : result ≠ none
  verifiable : ∀ name, result = some (.ok name) → Verifiable names name
  kept : ∀ host, addressHost address = some host → Verifiable names host →
    result = some (.ok host)

lemma NamesUsable.verifiable_host (h : NamesUsable names host) (hany : AnyMatches names host) :
    Verifiable names host := by
  cases hip : parseIpAddr host with
  | some ip =>
    rw [verifiable_of_ip hip]
    exact ((anyMatches_ip_iff hip).mp hany).elim id (h.ipHost ip hip)
  | none =>
    obtain ⟨dns, hmem, hmatch⟩ := (anyMatches_not_ip_iff hip).mp hany
    have hne : host ≠ "" := by
      rintro rfl
      obtain rfl := dnsMatches_empty_iff.mp hmatch
      exact h.emptyHost rfl hmem
    refine (verifiable_of_not_ip hip).mpr ⟨hne, ?_⟩
    rcases dnsMatches_iff.mp hmatch with heq | ⟨suffix, label, rest, rfl, rfl, hrest, hlabel⟩
    · exact ⟨dns, hmem, .inl heq⟩
    · by_cases hempty : label = ""
      · subst hempty
        obtain ⟨dns', hmem', heq⟩ := h.emptyLabel rest suffix (by simp) hmem hrest
        exact ⟨dns', hmem', .inl heq⟩
      · exact ⟨_, hmem, .inr ⟨suffix, label, rest, rfl, rfl, hrest, hempty, hlabel⟩⟩

lemma selectsVerifiable_of_namesUsable (h : ∀ host, addressHost address = some host →
    NamesUsable names host) :
    SelectsVerifiable (serverNameFromNames names address) names address := by
  cases hhost : addressHost address with
  | none =>
    have hresult : serverNameFromNames names address =
        some (.error (.invalidConfig "无法从服务器地址推导主机名")) := by
      rw [serverNameFromNames, hhost]
    exact ⟨by simp [hresult], by simp [hresult], by simp [hhost]⟩
  | some host =>
    have husable := h host hhost
    by_cases hany : AnyMatches names host
    · have hresult := serverNameFromNames_of_matches hhost hany
      refine ⟨by simp [hresult], fun name hname => ?_, fun host' hhost' _ => ?_⟩
      · rw [hresult] at hname
        cases hname
        exact husable.verifiable_host hany
      · rw [hresult, ← hhost'.symm.trans hhost |> Option.some.inj]
    · have hresult := serverNameFromNames_of_not_matches hhost hany
      refine ⟨by simp [hresult], fun name hname => ?_, fun host' hhost' hverifiable => ?_⟩
      · rw [hresult, Option.some.injEq] at hname
        cases hdns : firstConcreteDns names with
        | some dns =>
          simp only [hdns, Option.some_or, Except.ok.injEq] at hname
          subst hname
          obtain ⟨hne, hlisted⟩ := husable.fallback hany dns hdns
          cases hip : parseIpAddr dns with
          | some ip => exact (verifiable_of_ip hip).mpr (hlisted ip hip)
          | none =>
            exact (verifiable_of_not_ip hip).mpr ⟨hne, dns, mem_of_firstConcreteDns hdns,
              .inl (decide_eq_true rfl)⟩
        | none =>
          simp only [hdns, Option.none_or] at hname
          cases hfirst : firstIp names with
          | none => simp [hfirst] at hname
          | some text =>
            simp only [hfirst, Except.ok.injEq] at hname
            subst hname
            obtain ⟨ip, hlisted, rfl⟩ := ipListed_of_firstIp hfirst
            exact (verifiable_of_ip (parseIpAddr_display ip)).mpr hlisted
      · obtain rfl := Option.some.inj (hhost'.symm.trans hhost)
        exact absurd hverifiable.anyMatches hany

lemma namesUsable_of_selectsVerifiable (hhost : addressHost address = some host)
    (h : SelectsVerifiable (serverNameFromNames names address) names address) :
    NamesUsable names host := by
  have hmatched : AnyMatches names host → Verifiable names host := fun hany =>
    h.verifiable host (serverNameFromNames_of_matches hhost hany)
  constructor
  case ipHost =>
    rintro ip hip hdns
    exact (verifiable_of_ip hip).mp (hmatched ((anyMatches_ip_iff hip).mpr (.inr hdns)))
  case emptyHost =>
    rintro rfl hmem
    have hip : parseIpAddr "" = none := by decide +kernel
    have hany := (anyMatches_not_ip_iff hip).mpr ⟨"", hmem, dnsMatches_empty_iff.mpr rfl⟩
    exact ((verifiable_of_not_ip hip).mp (hmatched hany)).1 rfl
  case emptyLabel =>
    rintro rest suffix rfl hmem hrest
    have hip := parseIpAddr_dot rest
    have hwildcard : WildcardMatches ("*." ++ suffix) ("." ++ rest) :=
      ⟨suffix, "", rest, rfl, by simp, hrest, by simp⟩
    have hany := (anyMatches_not_ip_iff hip).mpr ⟨_, hmem, dnsMatches_of_wildcardMatches hwildcard⟩
    obtain ⟨-, dns, hdns, hcovers⟩ := (verifiable_of_not_ip hip).mp (hmatched hany)
    rcases hcovers with heq | ⟨suffix', label, rest', -, hhost', -, hne, hdot⟩
    · exact ⟨dns, hdns, heq⟩
    · -- the host begins with a dot, and the label has none
      have hchars := congrArg String.toList hhost'
      obtain ⟨c, cs, hlabel⟩ := List.exists_cons_of_ne_nil (mt String.toList_eq_nil_iff.mp hne)
      have hfirst : '.' = c := by simpa [hlabel] using congrArg List.head? hchars
      rw [hlabel, ← hfirst] at hdot
      exact absurd List.mem_cons_self hdot
  case fallback =>
    intro hany dns hdns
    have hresult : serverNameFromNames names address = some (.ok dns) := by
      rw [serverNameFromNames_of_not_matches hhost hany, hdns]
      rfl
    have hverifiable := h.verifiable dns hresult
    refine ⟨?_, fun ip hip => (verifiable_of_ip hip).mp hverifiable⟩
    rintro rfl
    exact ((verifiable_of_not_ip (by decide +kernel)).mp hverifiable).1 rfl

lemma serverNameFromDer_of_parse {parse : List UInt8 → Option NamedCertificate}
    {certificate : List UInt8} (address : String)
    (hparse : parse certificate = some ⟨.ok (some names)⟩) :
    serverNameFromDer parse certificate address = serverNameFromNames names address := by
  simp only [serverNameFromDer, hparse]

/-- **The server name can be verified against the certificate exactly when the names of the
certificate are usable for the host**: no DNS name spells an IP address that is not listed, none is
empty, and none is needed as a wildcard for an empty label.  The function returns in any case. -/
theorem serverNameFromDer_verifiable_iff {parse : List UInt8 → Option NamedCertificate}
    {certificate : List UInt8} {names : List GeneralName} (address : String)
    (hparse : parse certificate = some ⟨.ok (some names)⟩) :
    SelectsVerifiable (serverNameFromDer parse certificate address) names address ↔
      ∀ host, addressHost address = some host → NamesUsable names host := by
  rw [serverNameFromDer_of_parse address hparse]
  exact ⟨fun h host hhost => namesUsable_of_selectsVerifiable hhost h,
    selectsVerifiable_of_namesUsable⟩

/-- A parser that reads one certificate. -/
def parseAs (names : List GeneralName) : List UInt8 → Option NamedCertificate := fun bytes =>
  if bytes = [48] then some ⟨.ok (some names)⟩ else none

lemma parseAs_self (names : List GeneralName) :
    parseAs names [48] = some ⟨.ok (some names)⟩ := rfl

/-- A certificate that lists an IP address as one can be verified under it. -/
theorem loopback_certificate_verifiable :
    SelectsVerifiable
      (serverNameFromDer (parseAs [.dnsName "localhost", .ipAddress [127, 0, 0, 1]]) [48]
        "127.0.0.1:2333")
      [.dnsName "localhost", .ipAddress [127, 0, 0, 1]] "127.0.0.1:2333" := by
  refine (serverNameFromDer_verifiable_iff "127.0.0.1:2333" (parseAs_self _)).mpr ?_
  intro host hhost
  have haddress : addressHost "127.0.0.1:2333" = some "127.0.0.1" := by decide +kernel
  obtain rfl := Option.some.inj (haddress.symm.trans hhost)
  have hip : parseIpAddr "127.0.0.1" = some (.v4 0x7F000001) := by decide +kernel
  have hlisted : IpListed [.dnsName "localhost", .ipAddress [127, 0, 0, 1]] (.v4 0x7F000001) :=
    ⟨[127, 0, 0, 1], by simp, by decide +kernel⟩
  constructor
  case ipHost =>
    intro ip hip' _
    obtain rfl := Option.some.inj (hip.symm.trans hip')
    exact hlisted
  case emptyHost => simp
  case emptyLabel =>
    intro rest suffix hhost
    rw [hhost, parseIpAddr_dot] at hip
    cases hip
  case fallback => exact fun hany => absurd ((anyMatches_ip_iff hip).mpr (.inl hlisted)) hany

/-- With the address as a DNS name, the name that is chosen cannot be verified. -/
theorem dns_entry_with_ip_text_not_verifiable :
    ¬ ∀ (parse : List UInt8 → Option NamedCertificate) (certificate : List UInt8)
      (names : List GeneralName) (address : String),
        parse certificate = some ⟨.ok (some names)⟩ →
          SelectsVerifiable (serverNameFromDer parse certificate address) names address := by
  intro hall
  have hparse := parseAs_self [.dnsName "127.0.0.1"]
  have h := hall _ _ _ "127.0.0.1:2333" hparse
  have hhost : addressHost "127.0.0.1:2333" = some "127.0.0.1" := by decide +kernel
  have hany : AnyMatches [.dnsName "127.0.0.1"] "127.0.0.1" :=
    ⟨.dnsName "127.0.0.1", by simp, by decide +kernel⟩
  have hresult := (serverNameFromDer_of_parse "127.0.0.1:2333" hparse).trans
    (serverNameFromNames_of_matches hhost hany)
  have hip : parseIpAddr "127.0.0.1" = some (.v4 0x7F000001) := by decide +kernel
  have hverifiable := h.verifiable "127.0.0.1" hresult
  rw [verifiable_of_ip hip] at hverifiable
  obtain ⟨raw, hmem, -⟩ := hverifiable
  simp at hmem

end GateRust.Tunnel
