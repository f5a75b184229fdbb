/-
# The id of a device

`DeviceIdentity` of `identity.rs`: the id is derived from the name of the host, or read from its
file, and gets a new random number after a conflict.  Every id passes `validate_device_id`; all its
characters are ASCII, so that a byte of an id is a character of it.
-/
import Mathlib.Algebra.Ring.Nat
import Mathlib.Data.List.TakeDrop
import GateRust.Lib.Utf8
import GateRust.Proxy.Validation
import GateRust.Tunnel.Config

namespace GateRust.Tunnel

def maxDeviceIdBytes : ℕ := 64

def nameChar (c : Char) : Bool := c.isAlphanum || c = '-' || c = '_'

namespace DeviceIdentity

/-! ## The id of a host -/

/-- The documented values of `std::env::consts::OS`. -/
def operatingSystems : List String :=
  ["linux", "windows", "macos", "android", "ios", "openbsd", "freebsd", "netbsd", "wasi", "hermit",
    "aix", "apple", "dragonfly", "emscripten", "espidf", "fortanix", "uefi", "fuchsia", "haiku",
    "watchos", "visionos", "tvos", "horizon", "hurd", "illumos", "l4re", "nto", "redox", "solaris",
    "solid_asp3", "vexos", "vita", "vxworks", "xous"]

/-- A round of the loop of `sanitize`: no dash follows a dash. -/
def sanitizeByte (result : List Char) (byte : UInt8) : List Char :=
  let c := if nameByte byte then Char.ofNat byte.toNat else '-'
  if c ≠ '-' || result.getLast? ≠ some '-' then result ++ [c] else result

def sanitize (value : String) (limit : ℕ) : List Char :=
  let result := (value.toUTF8.toList.take limit).foldl sanitizeByte []
  let result := (result.dropWhile (· = '-')).rdropWhile (· = '-')
  if result = [] then "device".toList else result

def systemName (os : String) : List Char :=
  if os = "windows" then "win".toList
  else if os = "macos" then "mac".toList
  else os.toList

/-- The content of `/etc/hostname`. -/
def systemHostName (content : Option String) : Option String :=
  (content.map fun name => String.ofList (Proxy.trim name)).filter (· ≠ "")

/-- `base_device_id`, with the variables of the environment and the content of the file. -/
def baseDeviceId (os : String) (computerName hostName hostFile : Option String) : String :=
  let rawName := ((((computerName <|> hostName).filter fun name => Proxy.trim name ≠ []) <|>
    systemHostName hostFile).getD "device")
  let system := systemName os
  .ofList (system ++ '-' :: sanitize rawName (maxDeviceIdBytes - system.length - 1))

/-! ## Conflicts -/

/-- The id without the number of an earlier conflict. -/
def conflictBase (id : List Char) : List Char :=
  match id.reverse.span (· ≠ '-') with
  | (suffix, _ :: base) =>
    if suffix.length = 6 && suffix.all Char.isDigit then base.reverse else id
  | (_, []) => id

/-- The format `{:06}` of a number below a million. -/
def sixDigits (n : ℕ) : List Char := (List.range 6).reverse.map fun i => (n / 10 ^ i % 10).digitChar

/-- `resolve_conflict`, with the random number. -/
def resolveConflict (id : String) (number : ℕ) : String :=
  .ofList ((conflictBase id.toList).take (maxDeviceIdBytes - 7) ++ '-' :: sixDigits number)

example : resolveConflict "win-DESKTOP-I2QCOV3-123456" 42 = "win-DESKTOP-I2QCOV3-000042" := by
  decide +kernel

/-- The ids that a device can have. -/
inductive Id : String → Prop
  | derived {os : String} (hos : os ∈ operatingSystems)
    (computerName hostName hostFile : Option String) :
    Id (baseDeviceId os computerName hostName hostFile)
  | loaded {id : String} : validateDeviceId id = true → Id id
  | resolved {id : String} (number : ℕ) : Id id → Id (resolveConflict id number)

/-! ## Every id is valid -/

lemma nameChar_lt {c : Char} (h : nameChar c = true) : c.toNat < 128 := by
  delta nameChar Char.isAlphanum Char.isAlpha Char.isUpper Char.isLower Char.isDigit at h
  simp only [Bool.or_eq_true, Bool.and_eq_true, decide_eq_true_eq, UInt32.le_iff_toNat_le,
    ge_iff_le] at h
  change ((((65 ≤ c.toNat ∧ c.toNat ≤ 90) ∨ (97 ≤ c.toNat ∧ c.toNat ≤ 122)) ∨
    (48 ≤ c.toNat ∧ c.toNat ≤ 57)) ∨ c = '-') ∨ c = '_' at h
  rcases h with (h | rfl) | rfl
  · omega
  · decide
  · decide

lemma nameByte_ofNat {c : Char} (h : nameChar c = true) :
    nameByte (UInt8.ofNat c.toNat) = true := by
  have hlt := nameChar_lt h
  have hbyte : (UInt8.ofNat c.toNat).toNat = c.toNat := by
    rw [UInt8.toNat_ofNat']
    omega
  unfold nameByte
  rw [hbyte, Char.ofNat_toNat]
  exact h

lemma nameByte_lt {byte : UInt8} (h : nameByte byte = true) : byte.toNat < 128 := by
  have hlt := nameChar_lt (c := Char.ofNat byte.toNat) h
  have hvalid : byte.toNat.isValidChar := Or.inl (Nat.lt_trans byte.toNat_lt (by decide))
  have hchar : (Char.ofNat byte.toNat).toNat = byte.toNat := by
    rw [Char.ofNat, dif_pos hvalid]
    rfl
  rwa [hchar] at hlt

/-- The characters of a valid id. -/
structure ValidChars (cs : List Char) : Prop where
  ne_nil : cs ≠ []
  length_le : cs.length ≤ 64
  all : ∀ c ∈ cs, nameChar c = true

lemma ValidChars.validName {cs : List Char} (h : ValidChars cs) :
    validName (.ofList cs) = true := by
  have hbytes : (String.ofList cs).toUTF8.toList = cs.map fun c => UInt8.ofNat c.toNat := by
    rw [String.toList_toUTF8_of_lt, String.toList_ofList]
    intro c hc
    rw [String.toList_ofList] at hc
    exact nameChar_lt (h.all c hc)
  have hsize : (String.ofList cs).utf8ByteSize = cs.length := by
    rw [← String.length_toUTF8, hbytes, List.length_map]
  have hne : String.ofList cs ≠ "" := by
    intro hempty
    exact h.ne_nil (by rw [← String.toList_ofList (l := cs), hempty]; rfl)
  simp only [Tunnel.validName, hbytes, hsize, Bool.and_eq_true, decide_eq_true_eq,
    List.all_eq_true, List.mem_map]
  refine ⟨⟨hne, h.length_le⟩, ?_⟩
  rintro byte ⟨c, hc, rfl⟩
  exact nameByte_ofNat (h.all c hc)

/-- The characters of a name are those of its bytes. -/
lemma validChars_of_validName {name : String} (h : validName name = true) :
    ValidChars name.toList := by
  simp only [Tunnel.validName, Bool.and_eq_true, decide_eq_true_eq, List.all_eq_true] at h
  obtain ⟨⟨hne, hlength⟩, hall⟩ := h
  have hlt : ∀ byte ∈ name.toUTF8.toList, byte.toNat < 128 := fun byte hbyte =>
    nameByte_lt (hall byte hbyte)
  have hchars := String.toNat_lt_of_toUTF8 hlt
  have hbytes := String.toList_toUTF8_of_lt hchars
  refine ⟨?_, ?_, ?_⟩
  · intro hnil
    exact hne (String.toList_eq_nil_iff.mp hnil)
  · rw [← String.length_toUTF8, hbytes, List.length_map] at hlength
    exact hlength
  · intro c hc
    have hbyte := hall (UInt8.ofNat c.toNat) (hbytes ▸ List.mem_map_of_mem hc)
    have hval : (UInt8.ofNat c.toNat).toNat = c.toNat := by
      have := hchars c hc
      rw [UInt8.toNat_ofNat']
      omega
    rwa [nameByte, hval, Char.ofNat_toNat] at hbyte

/-! ### The id of a host -/

lemma sanitize_loop (bytes : List UInt8) (result : List Char)
    (hall : ∀ c ∈ result, nameChar c = true) :
    (bytes.foldl sanitizeByte result).length ≤ result.length + bytes.length ∧
      ∀ c ∈ bytes.foldl sanitizeByte result, nameChar c = true := by
  induction bytes generalizing result with
  | nil => exact ⟨Nat.le_refl _, hall⟩
  | cons byte bytes ih =>
    have hround : (sanitizeByte result byte).length ≤ result.length + 1 ∧
        ∀ c ∈ sanitizeByte result byte, nameChar c = true := by
      have hc : nameChar (if nameByte byte then Char.ofNat byte.toNat else '-') = true := by
        split
        case isTrue hbyte => exact hbyte
        case isFalse => rfl
      unfold sanitizeByte
      generalize (if nameByte byte then Char.ofNat byte.toNat else '-') = c at hc ⊢
      dsimp only
      split
      · rw [List.length_append]
        refine ⟨Nat.le_refl _, List.forall_mem_append.mpr ⟨hall, ?_⟩⟩
        exact List.forall_mem_singleton.mpr hc
      · exact ⟨Nat.le_succ _, hall⟩
    obtain ⟨hlength, hrest⟩ := ih _ hround.2
    rw [List.foldl_cons, List.length_cons]
    exact ⟨by omega, hrest⟩

lemma sanitize_chars (value : String) (limit : ℕ) (hlimit : 6 ≤ limit) :
    (sanitize value limit).length ≤ limit ∧ ∀ c ∈ sanitize value limit, nameChar c = true := by
  unfold sanitize
  obtain ⟨hlength, hall⟩ := sanitize_loop (value.toUTF8.toList.take limit) [] (by simp)
  generalize (value.toUTF8.toList.take limit).foldl sanitizeByte [] = result at hlength hall ⊢
  have hsub : ((result.dropWhile (· = '-')).rdropWhile (· = '-')).Sublist result :=
    (List.rdropWhile_prefix _ _).sublist.trans (List.dropWhile_suffix _).sublist
  dsimp only
  split
  case isTrue => exact ⟨hlimit, List.all_eq_true.mp (by decide)⟩
  case isFalse =>
    refine ⟨hsub.length_le.trans (hlength.trans ?_), fun c hc => hall c (hsub.subset hc)⟩
    rw [List.length_nil, Nat.zero_add, List.length_take]
    exact Nat.min_le_left ..

lemma systemName_chars {os : String} (hos : os ∈ operatingSystems) :
    (systemName os).length ≤ 10 ∧ ∀ c ∈ systemName os, nameChar c = true := by
  have hall : ∀ os ∈ operatingSystems,
      (systemName os).length ≤ 10 ∧ (systemName os).all nameChar = true := by decide +kernel
  exact ⟨(hall os hos).1, List.all_eq_true.mp (hall os hos).2⟩

lemma validChars_baseDeviceId {os : String} (hos : os ∈ operatingSystems)
    (computerName hostName hostFile : Option String) :
    ValidChars (baseDeviceId os computerName hostName hostFile).toList := by
  obtain ⟨hlength, hall⟩ := systemName_chars hos
  rw [baseDeviceId, String.toList_ofList]
  generalize ((((computerName <|> hostName).filter fun name => Proxy.trim name ≠ []) <|>
    systemHostName hostFile).getD "device") = rawName
  obtain ⟨hlength', hall'⟩ := sanitize_chars rawName
    (maxDeviceIdBytes - (systemName os).length - 1) (by rw [maxDeviceIdBytes]; omega)
  refine ⟨by simp, ?_, ?_⟩
  · rw [List.length_append, List.length_cons]
    simp only [maxDeviceIdBytes] at hlength' ⊢
    omega
  · exact List.forall_mem_append.mpr ⟨hall, List.forall_mem_cons.mpr ⟨rfl, hall'⟩⟩

/-! ### The id after a conflict -/

lemma mem_of_mem_conflictBase {id : List Char} {c : Char} (h : c ∈ conflictBase id) : c ∈ id := by
  unfold conflictBase at h
  split at h
  case h_1 suffix dash base hspan =>
    split at h
    case isTrue =>
      have hid : id.reverse = suffix ++ dash :: base := by
        rw [List.span_eq_takeWhile_dropWhile, Prod.mk.injEq] at hspan
        rw [← hspan.1, ← hspan.2, List.takeWhile_append_dropWhile]
      rw [← List.mem_reverse, hid]
      exact List.mem_append_right _ (List.mem_cons_of_mem _ (List.mem_reverse.mp h))
    case isFalse => exact h
  case h_2 => exact h

lemma validChars_resolveConflict {id : String} (h : ValidChars id.toList) (number : ℕ) :
    ValidChars (resolveConflict id number).toList := by
  rw [resolveConflict, String.toList_ofList]
  have hdigit : ∀ d < 10, nameChar d.digitChar = true := by decide
  refine ⟨by simp, ?_, ?_⟩
  · rw [List.length_append, List.length_cons, List.length_take]
    simp only [maxDeviceIdBytes, sixDigits, List.length_map, List.length_reverse,
      List.length_range]
    omega
  · refine List.forall_mem_append.mpr ⟨fun c hc => ?_, List.forall_mem_cons.mpr ⟨rfl, ?_⟩⟩
    · exact h.all c (mem_of_mem_conflictBase (List.mem_of_mem_take hc))
    · intro c hc
      obtain ⟨i, -, rfl⟩ := List.mem_map.mp hc
      exact hdigit _ (Nat.mod_lt _ (by decide))

/-- Every id of a device passes `validate_device_id`, after any number of conflicts. -/
theorem Id.valid {id : String} (h : Id id) : validateDeviceId id = true := by
  suffices hchars : ValidChars id.toList by
    have hname := hchars.validName
    rwa [String.ofList_toList] at hname
  induction h with
  | derived hos computerName hostName hostFile =>
    exact validChars_baseDeviceId hos computerName hostName hostFile
  | loaded hvalid => exact validChars_of_validName hvalid
  | resolved number _ ih => exact validChars_resolveConflict ih number

end DeviceIdentity

end GateRust.Tunnel
