/-
# Addresses are read back from their texts

The text forms of IPv4 and IPv6 addresses, parsed again.  A number is followed by a separator or by
the end of the text, so the scan stops behind it; the longest run of zero groups is left out of
the text of an IPv6 address, and the parser puts back as many groups as are missing.
-/
import Std.Data.String.ToNat
import GateRust.Tunnel.Addresses

namespace GateRust.Tunnel

/-! ## Numbers -/

section Numbers

variable {digit : Char → Option ℕ} {base maxDigits bound n : ℕ} {zeros : Bool} {rest : List Char}

lemma decimalDigit_digitChar : ∀ d < 10, decimalDigit (Nat.digitChar d) = some d := by decide

lemma hexDigit_digitChar : ∀ d < 16, hexDigit (Nat.digitChar d) = some d := by decide

lemma isSome_of_mem_toDigits (hbase : 1 < base)
    (hdigit : ∀ d < base, digit (Nat.digitChar d) = some d) {c : Char}
    (h : c ∈ Nat.toDigits base n) : (digit c).isSome = true := by
  induction n using Nat.strong_induction_on with
  | _ n ih =>
    rw [Nat.toDigits_eq_if hbase] at h
    split at h
    case isTrue hlt =>
      rw [List.mem_singleton.mp h, hdigit n hlt, Option.isSome_some]
    case isFalse hle =>
      rcases List.mem_append.mp h with h | h
      · exact ih (n / base) (Nat.div_lt_self (by omega) hbase) h
      · rw [List.mem_singleton.mp h, hdigit (n % base) (Nat.mod_lt n (by omega)),
          Option.isSome_some]

/-- The value of the digits of a number. -/
lemma foldl_toDigits (hbase : 1 < base) (hdigit : ∀ d < base, digit (Nat.digitChar d) = some d) :
    (Nat.toDigits base n).foldl (fun n c => n * base + (digit c).getD 0) 0 = n := by
  induction n using Nat.strong_induction_on with
  | _ n ih =>
    rw [Nat.toDigits_eq_if hbase]
    split
    case isTrue hlt => simp [hdigit n hlt]
    case isFalse hle =>
      rw [List.foldl_append, ih (n / base) (Nat.div_lt_self (by omega) hbase), List.foldl_cons,
        hdigit (n % base) (Nat.mod_lt n (by omega))]
      exact Nat.div_add_mod' n base

/-- A number does not begin with the digit zero, unless it is zero. -/
lemma head?_toDigits_ne (hbase : 1 < base)
    (hdigit : ∀ d < base, digit (Nat.digitChar d) = some d) (hn : n ≠ 0) :
    (Nat.toDigits base n).head? ≠ some '0' := by
  induction n using Nat.strong_induction_on with
  | _ n ih =>
    rw [Nat.toDigits_eq_if hbase]
    split
    case isTrue hlt =>
      intro h
      have hzero : Nat.digitChar n = Nat.digitChar 0 := Option.some.inj h
      have hvalue := hdigit n hlt
      rw [hzero, hdigit 0 (by omega)] at hvalue
      exact hn (Option.some.inj hvalue).symm
    case isFalse hle =>
      have hdiv : n / base ≠ 0 := Nat.div_ne_zero_iff.mpr ⟨by omega, by omega⟩
      have hhead := ih (n / base) (Nat.div_lt_self (by omega) hbase) hdiv
      obtain ⟨c, cs, hcons⟩ := List.exists_cons_of_ne_nil (Nat.toDigits_ne_nil (n := n / base))
      rw [hcons] at hhead ⊢
      exact hhead

/-- What follows a number is not taken for a digit of it. -/
def Stops (digit : Char → Option ℕ) (rest : List Char) : Prop :=
  ∀ c, rest.head? = some c → digit c = none

lemma stops_nil (digit : Char → Option ℕ) : Stops digit [] := by
  intro c hc
  cases hc

lemma stops_cons {digit : Char → Option ℕ} {c : Char} {rest : List Char} (hc : digit c = none) :
    Stops digit (c :: rest) := by
  intro c' hc'
  cases hc'
  exact hc

lemma readNumber_toDigits (hbase : 1 < base)
    (hdigit : ∀ d < base, digit (Nat.digitChar d) = some d) (hmax : 0 < maxDigits)
    (hlength : n < base ^ maxDigits) (hbound : n < bound) (hrest : Stops digit rest) :
    readNumber digit base maxDigits bound zeros (Nat.toDigits base n ++ rest) = some (n, rest) := by
  have hdigits : ∀ c ∈ Nat.toDigits base n, (digit c).isSome = true := fun c hc =>
    isSome_of_mem_toDigits hbase hdigit hc
  have htake : (Nat.toDigits base n ++ rest).takeWhile (fun c => (digit c).isSome) =
      Nat.toDigits base n := by
    rw [List.takeWhile_append_of_pos hdigits]
    cases rest with
    | nil => simp
    | cons c rest => simp [hrest c rfl]
  have hpos : (Nat.toDigits base n).length ≠ 0 := by simp
  have hle : (Nat.toDigits base n).length ≤ maxDigits :=
    (Nat.length_toDigits_le_iff hbase hmax).mpr hlength
  have hzeros : (!zeros && (Nat.toDigits base n).head? = some '0' &&
      1 < (Nat.toDigits base n).length) = false := by
    by_cases hn : n = 0
    · subst hn
      simp
    · simp [head?_toDigits_ne hbase hdigit hn]
  simp only [readNumber, htake, foldl_toDigits hbase hdigit, List.drop_left]
  rw [if_neg (by omega), hzeros]
  rfl

/-- A text that does not begin with a digit has no number. -/
lemma readNumber_eq_none {text : List Char} (h : Stops digit text) :
    readNumber digit base maxDigits bound zeros text = none := by
  have htake : text.takeWhile (fun c => (digit c).isSome) = [] := by
    cases text with
    | nil => rfl
    | cons c text => simp [h c rfl]
  simp [readNumber, htake]

end Numbers

/-! ## Numbers with separators -/

/-- The texts of numbers, each but the first of all behind a separator. -/
def separated (separator : Char) (base : ℕ) : ℕ → List ℕ → List Char
  | _, [] => []
  | index, n :: ns =>
    (if index = 0 then [] else [separator]) ++
      (Nat.toDigits base n ++ separated separator base (index + 1) ns)

lemma separated_succ (separator : Char) (base index : ℕ) (ns : List ℕ) :
    separated separator base (index + 1) ns =
      ns.flatMap fun n => separator :: Nat.toDigits base n := by
  induction ns generalizing index with
  | nil => rfl
  | cons n ns ih =>
    rw [separated, if_neg (Nat.succ_ne_zero index), ih, List.flatMap_cons]
    rfl

lemma toList_intercalate_separated (separator : Char) (base : ℕ) (ns : List ℕ) :
    ((String.singleton separator).intercalate
      (ns.map fun n => String.ofList (Nat.toDigits base n))).toList =
        separated separator base 0 ns := by
  cases ns with
  | nil => rfl
  | cons n ns =>
    rw [separated, if_pos rfl, List.nil_append, separated_succ]
    induction ns generalizing n with
    | nil => simp
    | cons n' ns ih =>
      have htail := ih n'
      rw [List.map_cons] at htail
      rw [List.map_cons, List.map_cons, String.intercalate_cons_cons, String.toList_append, htail]
      simp

lemma mem_separated {separator : Char} {base index : ℕ} {ns : List ℕ} {c : Char}
    (h : c ∈ separated separator base index ns) :
    c = separator ∨ ∃ n ∈ ns, c ∈ Nat.toDigits base n := by
  induction ns generalizing index with
  | nil => cases h
  | cons n ns ih =>
    rcases List.mem_append.mp h with h | h
    · split at h
      case isTrue => cases h
      case isFalse => exact .inl (List.mem_singleton.mp h)
    · rcases List.mem_append.mp h with h | h
      · exact .inr ⟨n, List.mem_cons_self, h⟩
      · rcases ih h with rfl | ⟨n', hn', h⟩
        · exact .inl rfl
        · exact .inr ⟨n', List.mem_cons_of_mem n hn', h⟩

/-- What comes behind a number of the list: a separator, or what follows the list. -/
lemma stops_separated {digit : Char → Option ℕ} {separator : Char} {base index : ℕ} {ns : List ℕ}
    {rest : List Char} (hseparator : digit separator = none) (hrest : Stops digit rest) :
    Stops digit (separated separator base (index + 1) ns ++ rest) := by
  rw [separated_succ]
  cases ns with
  | nil => exact hrest
  | cons n ns => exact stops_cons hseparator

lemma readSeparated_separated {α : Type} {separator : Char} {base index n : ℕ} {ns : List ℕ}
    {rest : List Char} (read : Scan α) :
    readSeparated separator index read (separated separator base index (n :: ns) ++ rest) =
      read (Nat.toDigits base n ++ (separated separator base (index + 1) ns ++ rest)) := by
  by_cases hindex : index = 0
  · simp [readSeparated, separated, hindex]
  · simp [readSeparated, separated, hindex]

/-! ## Digits of a bit vector -/

/-- The digit goes to the bits that the shift has left empty. -/
lemma toNat_push {w k n : ℕ} {bits : BitVec w} (hn : n < 2 ^ k)
    (hbits : bits.toNat * 2 ^ k + n < 2 ^ w) :
    (bits <<< k ||| BitVec.ofNat w n).toNat = bits.toNat * 2 ^ k + n := by
  have hshift : bits.toNat <<< k % 2 ^ w = bits.toNat <<< k := by
    rw [Nat.shiftLeft_eq]
    exact Nat.mod_eq_of_lt (by omega)
  have hdigit : n % 2 ^ w = n := Nat.mod_eq_of_lt (by omega)
  rw [BitVec.toNat_or, BitVec.toNat_shiftLeft, BitVec.toNat_ofNat, hshift, hdigit,
    ← Nat.shiftLeft_add_eq_or_of_lt hn, Nat.shiftLeft_eq]

/-- The number that digits of `k` bits stand for. -/
def ofDigits (k : ℕ) (digits : List ℕ) (acc : ℕ) : ℕ :=
  digits.foldl (fun n digit => n * 2 ^ k + digit) acc

lemma toNat_foldl_push {w k : ℕ} {digits : List ℕ} {bits : BitVec w}
    (hdigits : ∀ d ∈ digits, d < 2 ^ k)
    (hfit : (bits.toNat + 1) * 2 ^ (k * digits.length) ≤ 2 ^ w) :
    (digits.foldl (fun (bits : BitVec w) d => bits <<< k ||| BitVec.ofNat w d) bits).toNat =
      ofDigits k digits bits.toNat := by
  induction digits generalizing bits with
  | nil => rfl
  | cons d ds ih =>
    rw [List.forall_mem_cons] at hdigits
    rw [List.length_cons, Nat.mul_succ, Nat.add_comm (k * ds.length) k, Nat.pow_add,
      ← Nat.mul_assoc] at hfit
    have hone : 1 ≤ 2 ^ (k * ds.length) := Nat.one_le_two_pow
    have hpush : (bits <<< k ||| BitVec.ofNat w d).toNat = bits.toNat * 2 ^ k + d := by
      refine toNat_push hdigits.1 ?_
      have hle := Nat.le_trans (Nat.le_mul_of_pos_right ((bits.toNat + 1) * 2 ^ k) hone) hfit
      rw [Nat.add_mul, Nat.one_mul] at hle
      have hd := hdigits.1
      omega
    rw [List.foldl_cons, ih hdigits.2, hpush]
    · rfl
    · rw [hpush]
      refine Nat.le_trans (Nat.mul_le_mul_right _ ?_) hfit
      rw [Nat.add_mul, Nat.one_mul]
      have hd := hdigits.1
      omega

/-! ## IPv4 addresses -/

/-- The octets that `displayIpv4` writes. -/
def ipv4Octets (bits : BitVec 32) : List ℕ :=
  (List.range 4).map fun i => (bits >>> (8 * (3 - i))).toNat % 256

lemma toList_displayIpv4 (bits : BitVec 32) :
    (displayIpv4 bits).toList = separated '.' 10 0 (ipv4Octets bits) := by
  have hdigits : (List.range 4).map (fun i => toString ((bits >>> (8 * (3 - i))).toNat % 256)) =
      (ipv4Octets bits).map fun n => String.ofList (Nat.toDigits 10 n) := by
    rw [ipv4Octets, List.map_map]
    exact List.map_congr_left fun i _ => Nat.toString_eq_ofList_toDigits
  rw [displayIpv4, hdigits]
  exact toList_intercalate_separated '.' 10 (ipv4Octets bits)

lemma readOctets_separated {octets : List ℕ} {index : ℕ} {bits : BitVec 32} {rest : List Char}
    (hoctets : ∀ octet ∈ octets, octet < 256) (hrest : Stops decimalDigit rest) :
    readOctets octets.length index bits (separated '.' 10 index octets ++ rest) =
      some (octets.foldl (fun (bits : BitVec 32) octet => bits <<< 8 ||| .ofNat 32 octet) bits,
        rest) := by
  induction octets generalizing index bits with
  | nil => rfl
  | cons octet octets ih =>
    rw [List.forall_mem_cons] at hoctets
    have hstops : Stops decimalDigit (separated '.' 10 (index + 1) octets ++ rest) :=
      stops_separated rfl hrest
    have hlength : octet < 10 ^ 3 := Nat.lt_of_lt_of_le hoctets.1 (by decide)
    have hread : readNumber decimalDigit 10 3 256 false (Nat.toDigits 10 octet ++ _) = _ :=
      readNumber_toDigits (by decide) decimalDigit_digitChar (by decide) hlength hoctets.1 hstops
    simp only [List.length_cons, readOctets, readSeparated_separated, hread]
    exact ih hoctets.2

lemma ofDigits_ipv4Octets (bits : BitVec 32) : ofDigits 8 (ipv4Octets bits) 0 = bits.toNat := by
  have hlt := bits.isLt
  simp only [ofDigits, ipv4Octets, List.range, List.range.loop, List.map_cons, List.map_nil,
    List.foldl_cons, List.foldl_nil, BitVec.toNat_ushiftRight, Nat.shiftRight_eq_div_pow]
  omega

/-- The text of an IPv4 address is read as the address, whatever follows it that is no digit. -/
lemma readIpv4Addr_displayIpv4 (bits : BitVec 32) {rest : List Char}
    (hrest : Stops decimalDigit rest) :
    readIpv4Addr ((displayIpv4 bits).toList ++ rest) = some (bits, rest) := by
  have hoctets : ∀ octet ∈ ipv4Octets bits, octet < 256 := by
    intro octet hoctet
    obtain ⟨i, -, rfl⟩ := List.mem_map.mp hoctet
    exact Nat.mod_lt _ (by decide)
  have hread : readOctets _ 0 0 (separated '.' 10 0 (ipv4Octets bits) ++ rest) = _ :=
    readOctets_separated hoctets hrest
  have hfold : (ipv4Octets bits).foldl
      (fun (bits : BitVec 32) octet => bits <<< 8 ||| .ofNat 32 octet) 0 = bits := by
    apply BitVec.eq_of_toNat_eq
    have hlength : (ipv4Octets bits).length = 4 := rfl
    rw [toNat_foldl_push hoctets (by rw [hlength]; decide)]
    exact ofDigits_ipv4Octets bits
  rw [hfold] at hread
  rw [toList_displayIpv4]
  exact hread

/-- **An IPv4 address is parsed back from its text.** -/
theorem parseIpAddr_displayIpv4 (bits : BitVec 32) :
    parseIpAddr (displayIpv4 bits) = some (.v4 bits) := by
  have hread := readIpv4Addr_displayIpv4 bits (stops_nil decimalDigit)
  rw [List.append_nil] at hread
  simp only [parseIpAddr, parseWith, hread]

/-! ## Groups of an IPv6 address -/

lemma readIpv4Addr_eq_none_of_stops {text : List Char} (h : Stops decimalDigit text) :
    readIpv4Addr text = none := by
  have hfirst : readSeparated '.' 0 (readNumber decimalDigit 10 3 256 false) text = none :=
    readNumber_eq_none h
  simp only [readIpv4Addr, readOctets, hfirst]

/-- A text without a dot is not read as an IPv4 address. -/
lemma readIpv4Addr_eq_none {text : List Char} (h : '.' ∉ text) : readIpv4Addr text = none := by
  simp only [readIpv4Addr, readOctets]
  split
  case h_2 => rfl
  case h_1 octet rest hoctet =>
    obtain ⟨used, rfl, -, -⟩ :=
      takes_readNumber (fun _ => addressChar_of_decimalDigit) _ _ _ hoctet
    have hsecond : readSeparated '.' 1 (readNumber decimalDigit 10 3 256 false) rest = none := by
      cases rest with
      | nil => rfl
      | cons c rest =>
        have hc : c ≠ '.' := by
          rintro rfl
          simp at h
        simp [readSeparated, hc]
    simp only [Nat.zero_add, hsecond]

lemma readSeparated_readIpv4Addr_eq_none {text : List Char} (h : '.' ∉ text) (index : ℕ) :
    readSeparated ':' index readIpv4Addr text = none := by
  unfold readSeparated
  split
  case isTrue => exact readIpv4Addr_eq_none h
  case isFalse =>
    split
    case h_1 c rest =>
      split
      case isTrue => exact readIpv4Addr_eq_none (List.not_mem_of_not_mem_cons h)
      case isFalse => rfl
    case h_2 => rfl

lemma dot_notMem_separated (index : ℕ) (groups : List ℕ) :
    '.' ∉ separated ':' 16 index groups := by
  intro h
  rcases mem_separated h with h | ⟨n, -, h⟩
  · cases h
  · cases isSome_of_mem_toDigits (by decide) hexDigit_digitChar h

/-- An address ends: nothing follows, or a closing bracket. -/
def AddressEnd (rest : List Char) : Prop := rest = [] ∨ ∃ tail, rest = ']' :: tail

/-- The groups end: the address does, or the two colons follow. -/
def GroupsEnd (rest : List Char) : Prop := AddressEnd rest ∨ ∃ tail, rest = ':' :: ':' :: tail

lemma AddressEnd.stops {rest : List Char} (h : AddressEnd rest) : Stops decimalDigit rest := by
  rcases h with rfl | ⟨tail, rfl⟩
  · exact stops_nil _
  · exact stops_cons rfl

lemma GroupsEnd.stops {rest : List Char} (h : GroupsEnd rest) : Stops hexDigit rest := by
  rcases h with (rfl | ⟨tail, rfl⟩) | ⟨tail, rfl⟩
  · exact stops_nil _
  · exact stops_cons rfl
  · exact stops_cons rfl

lemma GroupsEnd.readSeparated {rest : List Char} (h : GroupsEnd rest) (index : ℕ) :
    readSeparated ':' index (readNumber hexDigit 16 4 65536 true) rest = none := by
  by_cases hindex : index = 0
  · rw [Tunnel.readSeparated.eq_def, if_pos hindex]
    exact readNumber_eq_none h.stops
  · rw [Tunnel.readSeparated.eq_def, if_neg hindex]
    rcases h with (rfl | ⟨tail, rfl⟩) | ⟨tail, rfl⟩
    · rfl
    · rfl
    · have hnone : readNumber hexDigit 16 4 65536 true (':' :: tail) = none :=
        readNumber_eq_none (stops_cons rfl)
      simp [hnone]

lemma readGroups_separated {groups : List ℕ} {left index : ℕ} {rest : List Char}
    (hgroups : ∀ group ∈ groups, group < 65536) (hleft : groups.length ≤ left)
    (hdot : '.' ∉ rest) (hrest : GroupsEnd rest) :
    readGroups left index (separated ':' 16 index groups ++ rest) = (groups, false, rest) := by
  induction groups generalizing left index with
  | nil =>
    rw [separated, List.nil_append]
    cases left with
    | zero => rfl
    | succ left =>
      have hipv4 := readSeparated_readIpv4Addr_eq_none hdot index
      simp only [readGroups, hipv4, ite_self, hrest.readSeparated]
  | cons group groups ih =>
    rw [List.forall_mem_cons] at hgroups
    obtain ⟨left, rfl⟩ := Nat.exists_eq_add_of_lt (Nat.lt_of_lt_of_le (Nat.succ_pos _) hleft)
    rw [Nat.zero_add] at hleft ⊢
    have hipv4 : readSeparated ':' index readIpv4Addr
        (separated ':' 16 index (group :: groups) ++ rest) = none :=
      readSeparated_readIpv4Addr_eq_none
        (by simp [List.mem_append, dot_notMem_separated, hdot]) index
    have hstops : Stops hexDigit (separated ':' 16 (index + 1) groups ++ rest) :=
      stops_separated rfl hrest.stops
    have hlength : group < 16 ^ 4 := Nat.lt_of_lt_of_le hgroups.1 (by decide)
    have hread : readNumber hexDigit 16 4 65536 true (Nat.toDigits 16 group ++ _) = _ :=
      readNumber_toDigits (by decide) hexDigit_digitChar (by decide) hlength hgroups.1 hstops
    have htail : readGroups left (index + 1) (separated ':' 16 (index + 1) groups ++ rest) = _ :=
      ih hgroups.2 (Nat.le_of_succ_le_succ hleft)
    simp only [readGroups, hipv4, ite_self, readSeparated_separated, hread, htail]

/-! ## Runs of zeros -/

/-- The groups of the run, given by its start and its length, are zero. -/
structure ZeroRun (groups : List ℕ) (run : ℕ × ℕ) : Prop where
  fits : run.1 + run.2 ≤ groups.length
  zeros : ∀ i, run.1 ≤ i → i < run.1 + run.2 → groups[i]? = some 0

/-- The run that ends where the search stands, and the longest one before, are runs of zeros. -/
lemma zeroRun_longestZeros {all groups : List ℕ} {index : ℕ} {current longest : ℕ × ℕ}
    (hgroups : all.drop index = groups)
    (hcurrent : current.2 ≠ 0 → ZeroRun all current ∧ current.1 + current.2 = index)
    (hlongest : ZeroRun all longest) : ZeroRun all (longestZeros groups index current longest) := by
  induction groups generalizing index current longest with
  | nil => exact hlongest
  | cons group groups ih =>
    have hindex : all[index]? = some group := by
      rw [← List.head?_drop, hgroups]
      rfl
    have hlt : index < all.length := by
      by_contra hle
      rw [List.drop_eq_nil_of_le (Nat.not_lt.mp hle)] at hgroups
      cases hgroups
    have htail : all.drop (index + 1) = groups := by
      rw [← List.tail_drop, hgroups]
      rfl
    rw [longestZeros]
    split
    case isFalse => exact ih htail (fun h => absurd rfl h) hlongest
    case isTrue hzero =>
      subst hzero
      generalize hnext : (if current.2 = 0 then (index, 1) else (current.1, current.2 + 1)) = next
      have hrun : ZeroRun all next ∧ next.1 + next.2 = index + 1 := by
        subst hnext
        by_cases hnone : current.2 = 0
        · rw [if_pos hnone]
          refine ⟨⟨hlt, fun i hi hi' => ?_⟩, rfl⟩
          obtain rfl : i = index := by
            simp only at hi hi'
            omega
          exact hindex
        · rw [if_neg hnone]
          obtain ⟨hrun, hend⟩ := hcurrent hnone
          refine ⟨⟨by simp only; omega, fun i hi hi' => ?_⟩, by simp only; omega⟩
          simp only at hi hi'
          by_cases hlast : i = index
          · exact hlast ▸ hindex
          · exact hrun.zeros i hi (by omega)
      refine ih htail (fun _ => hrun) ?_
      split
      · exact hrun.1
      · exact hlongest

lemma ZeroRun.eq_append {groups : List ℕ} {run : ℕ × ℕ} (h : ZeroRun groups run) :
    groups = groups.take run.1 ++ (List.replicate run.2 0 ++ groups.drop (run.1 + run.2)) := by
  have hzeros : (groups.drop run.1).take run.2 = List.replicate run.2 0 := by
    have hfits := h.fits
    refine List.eq_replicate_iff.mpr ⟨by simp; omega, fun b hb => ?_⟩
    obtain ⟨i, hi, rfl⟩ := List.mem_iff_getElem.mp hb
    rw [List.length_take, List.length_drop] at hi
    have hzero := h.zeros (run.1 + i) (by omega) (by omega)
    rw [List.getElem_take, List.getElem_drop]
    exact (List.getElem?_eq_some_iff.mp hzero).2
  rw [← hzeros, ← List.drop_drop, List.take_append_drop, List.take_append_drop]

/-! ## IPv6 addresses -/

lemma toList_joinGroups (groups : List ℕ) :
    (":".intercalate (groups.map hexDigits)).toList = separated ':' 16 0 groups :=
  toList_intercalate_separated ':' 16 groups

lemma ipv6Groups_lt {bits : BitVec 128} : ∀ group ∈ ipv6Groups bits, group < 65536 := by
  intro group hgroup
  obtain ⟨i, -, rfl⟩ := List.mem_map.mp hgroup
  exact Nat.mod_lt _ (by decide)

lemma ofDigits_ipv6Groups (bits : BitVec 128) : ofDigits 16 (ipv6Groups bits) 0 = bits.toNat := by
  have hlt := bits.isLt
  simp only [ofDigits, ipv6Groups, List.range, List.range.loop, List.map_cons, List.map_nil,
    List.foldl_cons, List.foldl_nil, BitVec.toNat_ushiftRight, Nat.shiftRight_eq_div_pow]
  omega

lemma ipv6OfGroups_ipv6Groups (bits : BitVec 128) : ipv6OfGroups (ipv6Groups bits) = bits := by
  have hlength : (ipv6Groups bits).length = 8 := rfl
  apply BitVec.eq_of_toNat_eq
  rw [ipv6OfGroups, toNat_foldl_push ipv6Groups_lt (by rw [hlength]; decide)]
  exact ofDigits_ipv6Groups bits

/-- The two parts around the run of zeros that the text leaves out. -/
lemma readIpv6Addr_parts {head tail : List ℕ} {zeros : ℕ} {rest : List Char}
    (hhead : ∀ group ∈ head, group < 65536) (htail : ∀ group ∈ tail, group < 65536)
    (hzeros : 1 < zeros) (hlength : head.length + zeros + tail.length = 8)
    (hdot : '.' ∉ rest) (hrest : AddressEnd rest) :
    readIpv6Addr (separated ':' 16 0 head ++ ':' :: ':' :: (separated ':' 16 0 tail ++ rest)) =
      some (ipv6OfGroups (head ++ List.replicate zeros 0 ++ tail), rest) := by
  have hdots : '.' ∉ ':' :: ':' :: (separated ':' 16 0 tail ++ rest) := by
    simp [dot_notMem_separated, hdot]
  have hfirst : readGroups 8 0 (separated ':' 16 0 head ++ _) = _ :=
    readGroups_separated hhead (by omega) hdots (.inr ⟨_, rfl⟩)
  have hsecond : readGroups (8 - (head.length + 1)) 0 (separated ':' 16 0 tail ++ rest) = _ :=
    readGroups_separated htail (by omega) hdot (.inl hrest)
  have hmissing : 8 - head.length - tail.length = zeros := by omega
  have hne : head.length ≠ 8 := by omega
  simp only [readIpv6Addr, hfirst, if_neg hne, hsecond, hmissing]
  rfl

lemma readIpv6Addr_full {groups : List ℕ} {rest : List Char}
    (hgroups : ∀ group ∈ groups, group < 65536) (hlength : groups.length = 8)
    (hdot : '.' ∉ rest) (hrest : AddressEnd rest) :
    readIpv6Addr (separated ':' 16 0 groups ++ rest) = some (ipv6OfGroups groups, rest) := by
  have hread : readGroups 8 0 (separated ':' 16 0 groups ++ rest) = _ :=
    readGroups_separated hgroups (by omega) hdot (.inl hrest)
  simp [readIpv6Addr, hread, hlength]

/-- An address that stands for an IPv4 address ends in the text of that one. -/
lemma readIpv6Addr_mapped (bits : BitVec 32) {rest : List Char} (hrest : AddressEnd rest) :
    readIpv6Addr ("::ffff:".toList ++ ((displayIpv4 bits).toList ++ rest)) =
      some (ipv6OfGroups
        [0, 0, 0, 0, 0, 65535, (bits >>> 16).toNat, bits.toNat % 2 ^ 16], rest) := by
  have hipv4 := readIpv4Addr_displayIpv4 bits hrest.stops
  generalize (displayIpv4 bits).toList ++ rest = text at hipv4
  have hempty : readGroups 8 0 (':' :: ':' :: 'f' :: 'f' :: 'f' :: 'f' :: ':' :: text) =
      ([], false, ':' :: ':' :: 'f' :: 'f' :: 'f' :: 'f' :: ':' :: text) := by
    generalize ':' :: 'f' :: 'f' :: 'f' :: 'f' :: ':' :: text = rest
    have hstops : Stops decimalDigit (':' :: rest) := stops_cons rfl
    have hnone := readIpv4Addr_eq_none_of_stops hstops
    have hgroup : readNumber hexDigit 16 4 65536 true (':' :: rest) = none :=
      readNumber_eq_none (stops_cons rfl)
    simp [readGroups, readSeparated, hnone, hgroup]
  have hgroup : readNumber hexDigit 16 4 65536 true ('f' :: 'f' :: 'f' :: 'f' :: ':' :: text) =
      some (65535, ':' :: text) :=
    readNumber_toDigits (n := 65535) (by decide) hexDigit_digitChar (by decide)
      (by decide) (by decide) (stops_cons rfl)
  have htail : readGroups 7 0 ('f' :: 'f' :: 'f' :: 'f' :: ':' :: text) =
      ([65535, (bits >>> 16).toNat, bits.toNat % 2 ^ 16], true, rest) := by
    have hstops : Stops decimalDigit ('f' :: 'f' :: 'f' :: 'f' :: ':' :: text) := stops_cons rfl
    have hnone := readIpv4Addr_eq_none_of_stops hstops
    simp [readGroups, readSeparated, hnone, hgroup, hipv4]
  have htext : "::ffff:".toList ++ text =
      ':' :: ':' :: 'f' :: 'f' :: 'f' :: 'f' :: ':' :: text := rfl
  rw [htext]
  simp [readIpv6Addr, hempty, htail]

lemma ipv6Groups_mapped {bits : BitVec 128}
    (h : (ipv6Groups bits).take 6 = [0, 0, 0, 0, 0, 65535]) :
    [0, 0, 0, 0, 0, 65535, ((bits.truncate 32) >>> 16).toNat, (bits.truncate 32).toNat % 2 ^ 16] =
      ipv6Groups bits := by
  have hlast : (ipv6Groups bits).drop 6 =
      [((bits.truncate 32) >>> 16).toNat, (bits.truncate 32).toNat % 2 ^ 16] := by
    simp only [ipv6Groups, List.range, List.range.loop, List.map_cons, List.map_nil,
      List.drop_succ_cons, List.drop_zero, BitVec.toNat_ushiftRight, BitVec.truncate_eq_setWidth,
      BitVec.toNat_setWidth, Nat.shiftRight_eq_div_pow, List.cons.injEq, and_true]
    constructor
    · omega
    · omega
  rw [← List.take_append_drop 6 (ipv6Groups bits), h, hlast]
  rfl

lemma zeroRun_longest (groups : List ℕ) : ZeroRun groups (longestZeros groups 0 (0, 0) (0, 0)) :=
  zeroRun_longestZeros rfl (fun h => absurd rfl h)
    ⟨Nat.zero_le _, fun i _ hi => absurd hi (Nat.not_lt_zero i)⟩

/-- The text of an IPv6 address is read as the address, also between brackets. -/
lemma readIpv6Addr_displayIpv6 (bits : BitVec 128) {rest : List Char} (hdot : '.' ∉ rest)
    (hrest : AddressEnd rest) :
    readIpv6Addr ((displayIpv6 bits).toList ++ rest) = some (bits, rest) := by
  have hlength : (ipv6Groups bits).length = 8 := rfl
  unfold displayIpv6
  dsimp only
  split
  case isTrue hmapped =>
    rw [String.toList_append, List.append_assoc, readIpv6Addr_mapped _ hrest,
      ipv6Groups_mapped hmapped, ipv6OfGroups_ipv6Groups]
  case isFalse =>
    have hrun := zeroRun_longest (ipv6Groups bits)
    generalize longestZeros (ipv6Groups bits) 0 (0, 0) (0, 0) = run at hrun
    obtain ⟨start, zeros⟩ := run
    dsimp only
    split
    case isTrue hzeros =>
      have hfits : start + zeros ≤ 8 := hrun.fits
      have hhead : ∀ group ∈ (ipv6Groups bits).take start, group < 65536 :=
        fun group hgroup => ipv6Groups_lt group (List.mem_of_mem_take hgroup)
      have htail : ∀ group ∈ (ipv6Groups bits).drop (start + zeros), group < 65536 :=
        fun group hgroup => ipv6Groups_lt group (List.mem_of_mem_drop hgroup)
      have hread := readIpv6Addr_parts hhead htail hzeros
        (by rw [List.length_take, List.length_drop, hlength]; omega) hdot hrest
      rw [List.append_assoc, ← hrun.eq_append, ipv6OfGroups_ipv6Groups] at hread
      rw [String.toList_append, String.toList_append, toList_joinGroups, toList_joinGroups,
        List.append_assoc, List.append_assoc]
      exact hread
    case isFalse =>
      rw [toList_joinGroups, readIpv6Addr_full ipv6Groups_lt hlength hdot hrest,
        ipv6OfGroups_ipv6Groups]

/-- The text of an IPv6 address does not begin like an IPv4 address. -/
lemma readIpv4Addr_displayIpv6 (bits : BitVec 128) :
    readIpv4Addr (displayIpv6 bits).toList = none := by
  unfold displayIpv6
  dsimp only
  split
  case isTrue =>
    refine readIpv4Addr_eq_none_of_stops fun c hc => ?_
    rw [String.toList_append] at hc
    cases hc
    rfl
  case isFalse =>
    refine readIpv4Addr_eq_none ?_
    split
    · rw [String.toList_append, String.toList_append, toList_joinGroups, toList_joinGroups]
      simp [dot_notMem_separated]
    · rw [toList_joinGroups]
      exact dot_notMem_separated 0 _

/-- **An IPv6 address is parsed back from its text.** -/
theorem parseIpv6Addr_displayIpv6 (bits : BitVec 128) :
    parseIpv6Addr (displayIpv6 bits) = some bits := by
  have hread := readIpv6Addr_displayIpv6 bits List.not_mem_nil (.inl rfl)
  rw [List.append_nil] at hread
  simp only [parseIpv6Addr, parseWith, hread]

theorem parseIpAddr_displayIpv6 (bits : BitVec 128) :
    parseIpAddr (displayIpv6 bits) = some (.v6 bits) := by
  have hread := readIpv6Addr_displayIpv6 bits List.not_mem_nil (.inl rfl)
  rw [List.append_nil] at hread
  simp only [parseIpAddr, parseWith, readIpv4Addr_displayIpv6, hread, Option.map_some]

/-- The text of an address. -/
def IpAddr.display : IpAddr → String
  | .v4 bits => displayIpv4 bits
  | .v6 bits => displayIpv6 bits

/-- **An address is parsed back from its text.** -/
theorem parseIpAddr_display (ip : IpAddr) : parseIpAddr ip.display = some ip := by
  cases ip with
  | v4 bits => exact parseIpAddr_displayIpv4 bits
  | v6 bits => exact parseIpAddr_displayIpv6 bits

example : (IpAddr.v6 0x20010DB8000000000000000000000001).display = "2001:db8::1" := by
  decide +kernel

/-! ## Socket addresses -/

lemma readPort_toDigits (port : UInt16) :
    readPort (':' :: Nat.toDigits 10 port.toNat) = some (port.toNat, []) := by
  have hlength : port.toNat < 10 ^ (Nat.toDigits 10 port.toNat).length :=
    (Nat.length_toDigits_le_iff (by decide) Nat.length_toDigits_pos).mp (Nat.le_refl _)
  have hread : readNumber decimalDigit 10 _ 65536 true (Nat.toDigits 10 port.toNat ++ []) = _ :=
    readNumber_toDigits (by decide) decimalDigit_digitChar Nat.length_toDigits_pos hlength
      port.toNat_lt (stops_nil decimalDigit)
  rw [List.append_nil] at hread
  exact hread

lemma toList_toString_toNat (port : UInt16) :
    (toString port).toList = Nat.toDigits 10 port.toNat := by
  show (toString port.toNat).toList = _
  rw [Nat.toString_eq_ofList_toDigits, String.toList_ofList]

/-- **A socket address is parsed back from its text.** -/
theorem parseSocketAddr_display (address : SocketAddr) :
    parseSocketAddr address.display = some address := by
  obtain ⟨ip, port⟩ := address
  have hport := readPort_toDigits port
  cases ip with
  | v4 bits =>
    have hstops : Stops decimalDigit (':' :: Nat.toDigits 10 port.toNat) := stops_cons rfl
    have haddress := readIpv4Addr_displayIpv4 bits hstops
    have htext : (SocketAddr.display ⟨.v4 bits, port⟩).toList =
        (displayIpv4 bits).toList ++ ':' :: Nat.toDigits 10 port.toNat := by
      simp [SocketAddr.display, String.toList_append, toList_toString_toNat]
    simp [parseSocketAddr, parseWith, readSocketAddrV4, htext, haddress, hport]
  | v6 bits =>
    have hdot : '.' ∉ ']' :: ':' :: Nat.toDigits 10 port.toNat := by
      simp only [List.mem_cons, not_or]
      refine ⟨by decide, by decide, fun h => ?_⟩
      cases isSome_of_mem_toDigits (by decide) decimalDigit_digitChar h
    have haddress := readIpv6Addr_displayIpv6 bits hdot (.inr ⟨_, rfl⟩)
    have htext : (SocketAddr.display ⟨.v6 bits, port⟩).toList =
        '[' :: ((displayIpv6 bits).toList ++ ']' :: ':' :: Nat.toDigits 10 port.toNat) := by
      simp [SocketAddr.display, String.toList_append, toList_toString_toNat]
    generalize (displayIpv6 bits).toList ++ ']' :: ':' :: Nat.toDigits 10 port.toNat = text
      at haddress htext
    have hv4 : readIpv4Addr ('[' :: text) = none := readIpv4Addr_eq_none_of_stops (stops_cons rfl)
    simp [parseSocketAddr, parseWith, readSocketAddrV4, readSocketAddrV6, htext, hv4, haddress,
      hport]

end GateRust.Tunnel
