/-
# Strings as bytes

The bytes of a string are those of its characters one after the other, and a character below 128
is one byte.
-/
import Mathlib.Tactic.Common

namespace ByteArray

lemma toList_loop (bs : ByteArray) (i : ℕ) (r : List UInt8) :
    toList.loop bs i r = r.reverse ++ bs.data.toList.drop i := by
  unfold toList.loop
  split
  case isTrue h =>
    have hi : i < bs.data.toList.length := h
    rw [toList_loop bs (i + 1), List.reverse_cons, List.append_assoc,
      List.drop_eq_getElem_cons hi]
    have hget : bs.get! i = bs.data.toList[i] := by
      cases bs with
      | mk data => exact getElem!_pos data i h
    rw [hget]
    rfl
  case isFalse h =>
    have hi : bs.data.toList.length ≤ i := Nat.not_lt.mp h
    rw [List.drop_eq_nil_of_le hi, List.append_nil]
termination_by bs.size - i

lemma toList_eq_data (bs : ByteArray) : bs.toList = bs.data.toList := by
  rw [toList, toList_loop]
  rfl

end ByteArray

namespace String

lemma toList_toUTF8 (s : String) : s.toUTF8.toList = s.toList.flatMap utf8EncodeChar := by
  obtain ⟨cs, rfl⟩ : ∃ cs, s = ofList cs := ⟨s.toList, ofList_toList.symm⟩
  rw [ByteArray.toList_eq_data, toList_ofList]
  exact List.toList_data_toByteArray

lemma utf8EncodeChar_of_lt {c : Char} (h : c.toNat < 128) :
    utf8EncodeChar c = [UInt8.ofNat c.toNat] := by
  have hle : c.val.toNat ≤ 127 := Nat.le_of_lt_succ h
  simp only [utf8EncodeChar, if_pos hle]
  rfl

/-- A text of characters below 128 has one byte for each of them. -/
lemma toList_toUTF8_of_lt {s : String} (h : ∀ c ∈ s.toList, c.toNat < 128) :
    s.toUTF8.toList = s.toList.map fun c => UInt8.ofNat c.toNat := by
  rw [toList_toUTF8]
  generalize s.toList = cs at h
  induction cs with
  | nil => rfl
  | cons c cs ih =>
    rw [List.forall_mem_cons] at h
    rw [List.flatMap_cons, utf8EncodeChar_of_lt h.1, ih h.2, List.map_cons,
      List.singleton_append]

lemma length_toUTF8 (s : String) : s.toUTF8.toList.length = s.utf8ByteSize := by
  rw [ByteArray.toList_eq_data]
  rfl

/-- No character takes more than four bytes. -/
lemma utf8ByteSize_le (s : String) : s.utf8ByteSize ≤ 4 * s.toList.length := by
  rw [← length_toUTF8, toList_toUTF8]
  generalize s.toList = cs
  induction cs with
  | nil => exact Nat.le_refl 0
  | cons c cs ih =>
    have hc : (utf8EncodeChar c).length ≤ 4 := by
      rw [length_utf8EncodeChar]
      exact c.utf8Size_le_four
    rw [List.flatMap_cons, List.length_append, List.length_cons]
    omega

/-- Another character has a leading byte that tells so, and no byte of it is ASCII. -/
lemma utf8EncodeChar_of_le {c : Char} (h : 128 ≤ c.toNat) :
    ∃ lead bytes, utf8EncodeChar c = lead :: bytes ∧ 192 ≤ lead.toNat ∧
      ∀ byte ∈ bytes, 128 ≤ byte.toNat := by
  have hbyte : ∀ n m k : ℕ, n < m → k + m ≤ 256 → k ≤ (UInt8.ofNat (n + k)).toNat := by
    intro n m k hn hm
    rw [UInt8.toNat_ofNat']
    omega
  have hlast : ∀ n : ℕ, 128 ≤ (UInt8.ofNat (n % 64 + 128)).toNat := fun n =>
    hbyte _ 64 128 (Nat.mod_lt n (by decide)) (by decide)
  have hle : ¬ c.val.toNat ≤ 127 := Nat.not_le_of_lt h
  simp only [utf8EncodeChar, if_neg hle]
  split_ifs
  · have hlead := hbyte (c.val.toNat / 64 % 32) 32 192 (Nat.mod_lt _ (by decide)) (by decide)
    exact ⟨_, _, rfl, hlead, List.forall_mem_singleton.mpr (hlast _)⟩
  · have hlead := hbyte (c.val.toNat / 4096 % 16) 16 224 (Nat.mod_lt _ (by decide)) (by decide)
    exact ⟨_, _, rfl, Nat.le_trans (by decide) hlead,
      List.forall_mem_cons.mpr ⟨hlast _, List.forall_mem_singleton.mpr (hlast _)⟩⟩
  · have hlead := hbyte (c.val.toNat / 262144 % 8) 8 240 (Nat.mod_lt _ (by decide)) (by decide)
    exact ⟨_, _, rfl, Nat.le_trans (by decide) hlead, List.forall_mem_cons.mpr
      ⟨hlast _, List.forall_mem_cons.mpr ⟨hlast _, List.forall_mem_singleton.mpr (hlast _)⟩⟩⟩

/-- Another character has a byte that is not ASCII. -/
lemma exists_byte_of_le {c : Char} (h : 128 ≤ c.toNat) :
    ∃ byte ∈ utf8EncodeChar c, 128 ≤ byte.toNat := by
  obtain ⟨lead, bytes, hencode, hlead, -⟩ := utf8EncodeChar_of_le h
  exact ⟨lead, hencode ▸ List.mem_cons_self, Nat.le_trans (by decide) hlead⟩

lemma le_of_mem_utf8EncodeChar {c : Char} (h : 128 ≤ c.toNat) :
    ∀ byte ∈ utf8EncodeChar c, 128 ≤ byte.toNat := by
  obtain ⟨lead, bytes, hencode, hlead, hbytes⟩ := utf8EncodeChar_of_le h
  rw [hencode]
  exact List.forall_mem_cons.mpr ⟨Nat.le_trans (by decide) hlead, hbytes⟩

lemma ofNat_toNat_inj {c d : Char} (hc : c.toNat < 128) (hd : d.toNat < 128)
    (h : UInt8.ofNat c.toNat = UInt8.ofNat d.toNat) : c = d := by
  have hnat := congrArg UInt8.toNat h
  rw [UInt8.toNat_ofNat', UInt8.toNat_ofNat'] at hnat
  rw [← Char.toNat_inj]
  omega

/-- An ASCII character is in the bytes of a text where it is in the text. -/
lemma toList_toUTF8_eq_append {s : String} {c : Char} (hc : c.toNat < 128)
    {before after : List UInt8} (h : s.toUTF8.toList = before ++ UInt8.ofNat c.toNat :: after) :
    ∃ p q : String, s = p ++ singleton c ++ q ∧ p.toUTF8.toList = before ∧
      q.toUTF8.toList = after := by
  have hchar : (UInt8.ofNat c.toNat).toNat = c.toNat := by
    rw [UInt8.toNat_ofNat']
    omega
  suffices hgen : ∀ (cs : List Char) (before : List UInt8),
      cs.flatMap utf8EncodeChar = before ++ UInt8.ofNat c.toNat :: after →
        ∃ ps qs, cs = ps ++ c :: qs ∧ ps.flatMap utf8EncodeChar = before ∧
          qs.flatMap utf8EncodeChar = after by
    rw [toList_toUTF8] at h
    obtain ⟨ps, qs, hcs, hps, hqs⟩ := hgen s.toList before h
    refine ⟨ofList ps, ofList qs, ?_, by rw [toList_toUTF8, toList_ofList, hps],
      by rw [toList_toUTF8, toList_ofList, hqs]⟩
    rw [← toList_inj, hcs]
    simp
  intro cs
  induction cs with
  | nil => simp
  | cons d cs ih =>
    intro before h
    rw [List.flatMap_cons] at h
    rcases List.append_eq_append_iff.mp h with ⟨rest, rfl, htail⟩ | ⟨rest, hd, htail⟩
    · obtain ⟨ps, qs, rfl, rfl, hqs⟩ := ih rest htail
      exact ⟨d :: ps, qs, rfl, rfl, hqs⟩
    · cases rest with
      | nil =>
        rw [List.append_nil] at hd
        obtain ⟨ps, qs, rfl, hps, hqs⟩ := ih [] htail.symm
        refine ⟨d :: ps, qs, rfl, ?_, hqs⟩
        rw [List.flatMap_cons, hps, List.append_nil, hd]
      | cons byte rest =>
        -- the character that has the byte is the one looked for
        obtain ⟨rfl, htail⟩ := List.cons_eq_cons.mp htail
        have hmem : UInt8.ofNat c.toNat ∈ utf8EncodeChar d := by simp [hd]
        have hlt : d.toNat < 128 := by
          by_contra hle
          have hlarge := le_of_mem_utf8EncodeChar (Nat.not_lt.mp hle) _ hmem
          omega
        rw [utf8EncodeChar_of_lt hlt] at hd
        obtain ⟨rfl, heq⟩ | ⟨ps, rfl, hnil⟩ := List.cons_eq_append_iff.mp hd
        · obtain ⟨hbyte, rfl⟩ := List.cons_eq_cons.mp heq
          obtain rfl := ofNat_toNat_inj hc hlt hbyte
          rw [List.singleton_append] at htail
          exact ⟨[], cs, rfl, rfl, (List.cons_eq_cons.mp htail).2.symm⟩
        · simp at hnil

lemma mem_toUTF8_iff {s : String} {c : Char} (hc : c.toNat < 128) :
    UInt8.ofNat c.toNat ∈ s.toUTF8.toList ↔ c ∈ s.toList := by
  constructor
  · intro h
    obtain ⟨before, after, hbytes⟩ := List.append_of_mem h
    obtain ⟨p, q, rfl, -, -⟩ := toList_toUTF8_eq_append hc hbytes
    simp
  · intro h
    rw [toList_toUTF8]
    refine List.mem_flatMap.mpr ⟨c, h, ?_⟩
    rw [utf8EncodeChar_of_lt hc]
    exact List.mem_singleton_self _

/-- The first byte of a text is not one that continues a character. -/
lemma head?_toUTF8 {s : String} {byte : UInt8} (h : s.toUTF8.toList.head? = some byte) :
    byte.toNat < 128 ∨ 192 ≤ byte.toNat := by
  rw [toList_toUTF8] at h
  cases hcs : s.toList with
  | nil => simp [hcs] at h
  | cons c cs =>
    rw [hcs, List.flatMap_cons] at h
    rcases Nat.lt_or_ge c.toNat 128 with hc | hc
    · rw [utf8EncodeChar_of_lt hc] at h
      cases h
      rw [UInt8.toNat_ofNat']
      omega
    · obtain ⟨lead, bytes, hencode, hlead, -⟩ := utf8EncodeChar_of_le hc
      rw [hencode] at h
      cases h
      exact .inr hlead

lemma toUTF8_append (s t : String) :
    (s ++ t).toUTF8.toList = s.toUTF8.toList ++ t.toUTF8.toList := by
  rw [toList_toUTF8, toList_toUTF8, toList_toUTF8, toList_append, List.flatMap_append]

lemma toNat_lt_of_toUTF8 {s : String} (h : ∀ byte ∈ s.toUTF8.toList, byte.toNat < 128) :
    ∀ c ∈ s.toList, c.toNat < 128 := by
  intro c hc
  by_contra hle
  obtain ⟨byte, hbyte, hlarge⟩ := exists_byte_of_le (Nat.not_lt.mp hle)
  have hmem : byte ∈ s.toUTF8.toList := by
    rw [toList_toUTF8]
    exact List.mem_flatMap.mpr ⟨c, hc, hbyte⟩
  exact absurd (h byte hmem) (Nat.not_lt.mpr hlarge)

/-- A text is read back from its bytes. -/
lemma fromUTF8?_toUTF8 (s : String) : fromUTF8? s.toUTF8.toList.toByteArray = some s := by
  have hbytes : s.toUTF8.toList.toByteArray = s.toByteArray := by
    apply ByteArray.ext
    rw [List.data_toByteArray, ByteArray.toList_eq_data, Array.toArray_toList]
    rfl
  rw [hbytes]
  exact dif_pos s.isValidUTF8

end String
