/-
# IP addresses in text form

`str::parse` for IP addresses, as the standard library does it: four decimal numbers without
leading zeros, or up to eight hexadecimal groups of which a run of zeros may be written as two
colons and the last two as an IPv4 address.  The whole text has to be used up.
-/
import Mathlib.Algebra.Ring.Nat
import GateRust.Tunnel.Config

namespace GateRust.Tunnel

/-- A part of an address, with the text after it. -/
abbrev Scan (α : Type) := List Char → Option (α × List Char)

def decimalDigit (c : Char) : Option ℕ := if c.isDigit then some (c.toNat - '0'.toNat) else none

def hexDigit (c : Char) : Option ℕ :=
  if c.isDigit then some (c.toNat - '0'.toNat)
  else if 'a' ≤ c ∧ c ≤ 'f' then some (c.toNat - 'a'.toNat + 10)
  else if 'A' ≤ c ∧ c ≤ 'F' then some (c.toNat - 'A'.toNat + 10)
  else none

/-- Read all digits that follow: at least one and at most `maxDigits`, with a value below
`bound`. -/
def readNumber (digit : Char → Option ℕ) (radix maxDigits bound : ℕ) (leadingZeros : Bool) :
    Scan ℕ := fun text =>
  let digits := text.takeWhile fun c => (digit c).isSome
  let value := digits.foldl (fun n c => n * radix + (digit c).getD 0) 0
  if digits.length = 0 ∨ maxDigits < digits.length ∨ bound ≤ value then none
  else if !leadingZeros && digits.head? = some '0' && 1 < digits.length then none
  else some (value, text.drop digits.length)

/-- Every part but the first follows a separator. -/
def readSeparated {α : Type} (separator : Char) (index : ℕ) (read : Scan α) : Scan α := fun text =>
  if index = 0 then read text
  else
    match text with
    | c :: rest => if c = separator then read rest else none
    | [] => none

/-- The octets of an IPv4 address from the given one on. -/
def readOctets : ℕ → ℕ → BitVec 32 → Scan (BitVec 32)
  | 0, _, bits => fun text => some (bits, text)
  | left + 1, index, bits => fun text =>
    match readSeparated '.' index (readNumber decimalDigit 10 3 256 false) text with
    | some (octet, rest) => readOctets left (index + 1) (bits <<< 8 ||| .ofNat 32 octet) rest
    | none => none

def readIpv4Addr : Scan (BitVec 32) := readOctets 4 0 0

/-- `read_groups`: the groups of an IPv6 address, `left` of them at most; the flag tells that
they end in an IPv4 address. -/
def readGroups : ℕ → ℕ → List Char → List ℕ × Bool × List Char
  | 0, _, text => ([], false, text)
  | left + 1, index, text =>
    match if 0 < left then readSeparated ':' index readIpv4Addr text else none with
    | some (bits, rest) => ([(bits >>> 16).toNat, bits.toNat % 2 ^ 16], true, rest)
    | none =>
      match readSeparated ':' index (readNumber hexDigit 16 4 65536 true) text with
      | some (group, rest) =>
        let (groups, ipv4, rest) := readGroups left (index + 1) rest
        (group :: groups, ipv4, rest)
      | none => ([], false, text)

def ipv6OfGroups (groups : List ℕ) : BitVec 128 :=
  groups.foldl (fun bits group => bits <<< 16 ||| .ofNat 128 group) 0

def readIpv6Addr : Scan (BitVec 128) := fun text =>
  match readGroups 8 0 text with
  | (head, ipv4, rest) =>
    if head.length = 8 then some (ipv6OfGroups head, rest)
    -- the IPv4 part is not allowed before the two colons
    else if ipv4 then none
    else
      match rest with
      | ':' :: ':' :: rest =>
        let (tail, _, rest) := readGroups (8 - (head.length + 1)) 0 rest
        let zeros := List.replicate (8 - head.length - tail.length) 0
        some (ipv6OfGroups (head ++ zeros ++ tail), rest)
      | _ => none

/-- The scan has to use up the text. -/
def parseWith {α : Type} (scan : Scan α) (text : String) : Option α :=
  match scan text.toList with
  | some (value, []) => some value
  | _ => none

def parseIpv6Addr : String → Option (BitVec 128) := parseWith readIpv6Addr

def parseIpAddr : String → Option IpAddr := parseWith fun text =>
  match readIpv4Addr text with
  | some (bits, rest) => some (.v4 bits, rest)
  | none => (readIpv6Addr text).map fun (bits, rest) => (.v6 bits, rest)

def readPort : Scan ℕ := fun text =>
  match text with
  | ':' :: digits => readNumber decimalDigit 10 digits.length 65536 true digits
  | _ => none

def readSocketAddrV4 : Scan SocketAddr := fun text => do
  let (bits, rest) ← readIpv4Addr text
  let (port, rest) ← readPort rest
  return (⟨.v4 bits, .ofNat port⟩, rest)

/-- An address with a scope id is not read here. -/
def readSocketAddrV6 : Scan SocketAddr := fun text =>
  match text with
  | '[' :: text => do
    match ← readIpv6Addr text with
    | (bits, ']' :: rest) =>
      let (port, rest) ← readPort rest
      return (⟨.v6 bits, .ofNat port⟩, rest)
    | _ => none
  | _ => none

def parseSocketAddr : String → Option SocketAddr := parseWith fun text =>
  (readSocketAddrV4 text).or (readSocketAddrV6 text)

/-- `is_loopback`: 127.0.0.0/8, or the address one. -/
def IpAddr.isLoopback : IpAddr → Bool
  | .v4 bits => bits >>> 24 = 127
  | .v6 bits => bits = 1

/-! ## What a parsed address consists of -/

def addressChar (c : Char) : Bool := (hexDigit c).isSome || c = ':' || c = '.'

/-- The characters that a scan takes from the text: at most `k`, and only those of addresses. -/
def Scan.Takes {α : Type} (scan : Scan α) (k : ℕ) : Prop :=
  ∀ text value rest, scan text = some (value, rest) → ∃ used, text = used ++ rest ∧
    used.length ≤ k ∧ ∀ c ∈ used, addressChar c = true

lemma addressChar_of_decimalDigit {c : Char} (h : (decimalDigit c).isSome = true) :
    addressChar c = true := by
  unfold decimalDigit at h
  split at h
  case isTrue hdigit => simp [addressChar, hexDigit, hdigit]
  case isFalse => cases h

lemma addressChar_of_hexDigit {c : Char} (h : (hexDigit c).isSome = true) :
    addressChar c = true := by
  simp [addressChar, h]

lemma takes_readNumber {digit : Char → Option ℕ} {radix maxDigits bound : ℕ} {zeros : Bool}
    (hdigit : ∀ c, (digit c).isSome = true → addressChar c = true) :
    Scan.Takes (readNumber digit radix maxDigits bound zeros) maxDigits := by
  intro text value rest h
  simp only [readNumber] at h
  split at h
  case isTrue => cases h
  case isFalse hbounds =>
    split at h
    case isTrue => cases h
    case isFalse =>
      cases h
      have hprefix := List.takeWhile_prefix (l := text) fun c => (digit c).isSome
      refine ⟨text.takeWhile fun c => (digit c).isSome,
        (List.prefix_iff_eq_append.mp hprefix).symm, by omega, fun c hc => hdigit c ?_⟩
      exact List.all_eq_true.mp List.all_takeWhile c hc

lemma takes_readSeparated {α : Type} {separator : Char} {read : Scan α} {k index : ℕ}
    (hseparator : addressChar separator = true) (h : read.Takes k) :
    Scan.Takes (readSeparated separator index read) (if index = 0 then k else k + 1) := by
  intro text value rest hread
  unfold readSeparated at hread
  split at hread
  case isTrue hindex =>
    rw [if_pos hindex]
    exact h text value rest hread
  case isFalse hindex =>
    rw [if_neg hindex]
    split at hread
    case h_1 c text =>
      split at hread
      case isTrue heq =>
        obtain ⟨used, rfl, hlength, hall⟩ := h text value rest hread
        exact ⟨c :: used, rfl, Nat.succ_le_succ hlength,
          List.forall_mem_cons.mpr ⟨heq ▸ hseparator, hall⟩⟩
      case isFalse => cases hread
    case h_2 => cases hread

/-- Of the octets from the given one on, the first of all has no separator. -/
lemma takes_readOctets (left index : ℕ) (bits : BitVec 32) :
    Scan.Takes (readOctets left index bits) (4 * left - if index = 0 then 1 else 0) := by
  induction left generalizing index bits with
  | zero =>
    intro text value rest h
    cases h
    exact ⟨[], rfl, Nat.zero_le _, by simp⟩
  | succ left ih =>
    intro text value rest h
    simp only [readOctets] at h
    split at h
    case h_2 => cases h
    case h_1 octet middle hoctet =>
      obtain ⟨used, rfl, hlength, hall⟩ := takes_readSeparated (by decide)
        (takes_readNumber fun _ => addressChar_of_decimalDigit) _ _ _ hoctet
      obtain ⟨used', rfl, hlength', hall'⟩ := ih _ _ _ _ _ h
      refine ⟨used ++ used', (List.append_assoc ..).symm, ?_, ?_⟩
      · rw [if_neg (Nat.succ_ne_zero index)] at hlength'
        rw [List.length_append]
        split at hlength <;> split <;> omega
      · exact List.forall_mem_append.mpr ⟨hall, hall'⟩

lemma takes_readIpv4Addr : Scan.Takes readIpv4Addr 15 := takes_readOctets 4 0 0

/-- A group takes four characters and its separator, and an IPv4 address, which stands for two
groups, six more. -/
lemma readGroups_takes (left index : ℕ) (text : List Char) :
    ∃ used, text = used ++ (readGroups left index text).2.2 ∧
      (readGroups left index text).1.length ≤ left ∧
      used.length + (if index = 0 then min (readGroups left index text).1.length 1 else 0) ≤
        5 * (readGroups left index text).1.length + 6 * (readGroups left index text).2.1.toNat ∧
      ∀ c ∈ used, addressChar c = true := by
  induction left generalizing index text with
  | zero => exact ⟨[], rfl, Nat.le_refl 0, by simp [readGroups], by simp⟩
  | succ left ih =>
    unfold readGroups
    split
    case h_1 bits rest hipv4 =>
      split at hipv4
      case isTrue hleft =>
        obtain ⟨used, rfl, hlength, hall⟩ :=
          takes_readSeparated (by decide) takes_readIpv4Addr _ _ _ hipv4
        refine ⟨used, rfl, Nat.succ_le_succ hleft, ?_, hall⟩
        simp only [List.length_cons, List.length_nil, Bool.toNat_true]
        split at hlength <;> split <;> omega
      case isFalse => cases hipv4
    case h_2 =>
      split
      case h_1 group rest hgroup =>
        obtain ⟨used, rfl, hlength, hall⟩ := takes_readSeparated (by decide)
          (takes_readNumber fun _ => addressChar_of_hexDigit) _ _ _ hgroup
        have hrest := ih (index + 1) rest
        generalize readGroups left (index + 1) rest = read at hrest ⊢
        obtain ⟨groups, ipv4, rest'⟩ := read
        obtain ⟨used', htext, hcount, hlength', hall'⟩ := hrest
        refine ⟨used ++ used', ?_, Nat.succ_le_succ hcount, ?_,
          List.forall_mem_append.mpr ⟨hall, hall'⟩⟩
        · rw [List.append_assoc, ← htext]
        · rw [if_neg (Nat.succ_ne_zero index)] at hlength'
          dsimp only at hlength' ⊢
          rw [List.length_append, List.length_cons]
          split at hlength <;> split <;> omega
      case h_2 => exact ⟨[], rfl, Nat.zero_le _, by simp, by simp⟩

lemma takes_readIpv6Addr : Scan.Takes readIpv6Addr 45 := by
  intro text value rest h
  obtain ⟨used, htext, hhead8, hlength, hall⟩ := readGroups_takes 8 0 text
  unfold readIpv6Addr at h
  rcases hhead : readGroups 8 0 text with ⟨head, ipv4, middle⟩
  rw [hhead] at h htext hhead8 hlength
  dsimp only at h htext hhead8 hlength
  split at h
  case isTrue hfull =>
    cases h
    have hflag := Bool.toNat_le ipv4
    rw [if_pos rfl] at hlength
    exact ⟨used, htext, by omega, hall⟩
  case isFalse =>
    split at h
    case isTrue => cases h
    case isFalse hipv4 =>
      split at h
      case h_1 rest' =>
        obtain ⟨used', htext', hcount, hlength', hall'⟩ :=
          readGroups_takes (8 - (head.length + 1)) 0 rest'
        cases h
        refine ⟨used ++ ':' :: ':' :: used', ?_, ?_, ?_⟩
        · rw [List.append_assoc, List.cons_append, List.cons_append, ← htext']
          exact htext
        · have hflag' := Bool.toNat_le (readGroups (8 - (head.length + 1)) 0 rest').2.1
          rw [if_pos rfl] at hlength hlength'
          rw [Bool.not_eq_true] at hipv4
          rw [hipv4, Bool.toNat_false] at hlength
          rw [List.length_append, List.length_cons, List.length_cons]
          omega
        · refine List.forall_mem_append.mpr ⟨hall, ?_⟩
          exact List.forall_mem_cons.mpr ⟨rfl, List.forall_mem_cons.mpr ⟨rfl, hall'⟩⟩
      case h_2 => cases h

/-- A text that is parsed as an address has at most 45 characters, and only those of addresses. -/
lemma parseIpAddr_text {text : String} {ip : IpAddr} (h : parseIpAddr text = some ip) :
    text.toList.length ≤ 45 ∧ ∀ c ∈ text.toList, addressChar c = true := by
  unfold parseIpAddr parseWith at h
  split at h
  case h_2 => cases h
  case h_1 ip' hscan =>
    dsimp only at hscan
    split at hscan
    case h_1 bits rest hipv4 =>
      obtain ⟨used, hused, hlength, hall⟩ := takes_readIpv4Addr _ _ _ hipv4
      cases hscan
      rw [List.append_nil] at hused
      rw [hused]
      exact ⟨by omega, hall⟩
    case h_2 =>
      obtain ⟨⟨bits, rest⟩, hipv6, heq⟩ := Option.map_eq_some_iff.mp hscan
      obtain ⟨used, hused, hlength, hall⟩ := takes_readIpv6Addr _ _ _ hipv6
      cases heq
      rw [List.append_nil] at hused
      rw [hused]
      exact ⟨hlength, hall⟩

/-! ## Displaying addresses -/

def hexDigits (n : ℕ) : String := String.ofList (Nat.toDigits 16 n)

def displayIpv4 (bits : BitVec 32) : String :=
  ".".intercalate ((List.range 4).map fun i => toString ((bits >>> (8 * (3 - i))).toNat % 256))

def ipv6Groups (bits : BitVec 128) : List ℕ :=
  (List.range 8).map fun i => (bits >>> (16 * (7 - i))).toNat % 65536

/-- The first of the longest runs of zeros, as its start and its length. -/
def longestZeros : List ℕ → ℕ → ℕ × ℕ → ℕ × ℕ → ℕ × ℕ
  | [], _, _, longest => longest
  | group :: groups, index, current, longest =>
    if group = 0 then
      let current := if current.2 = 0 then (index, 1) else (current.1, current.2 + 1)
      longestZeros groups (index + 1) current (if longest.2 < current.2 then current else longest)
    else longestZeros groups (index + 1) (0, 0) longest

def displayIpv6 (bits : BitVec 128) : String :=
  let groups := ipv6Groups bits
  let join (part : List ℕ) := ":".intercalate (part.map hexDigits)
  -- addresses that stand for an IPv4 address
  if groups.take 6 = [0, 0, 0, 0, 0, 0xffff] then "::ffff:" ++ displayIpv4 (bits.truncate 32)
  else
    let (start, length) := longestZeros groups 0 (0, 0) (0, 0)
    if 1 < length then join (groups.take start) ++ "::" ++ join (groups.drop (start + length))
    else join groups

def SocketAddr.display (address : SocketAddr) : String :=
  match address.ip with
  | .v4 bits => displayIpv4 bits ++ ":" ++ toString address.port
  | .v6 bits => "[" ++ displayIpv6 bits ++ "]:" ++ toString address.port

end GateRust.Tunnel
