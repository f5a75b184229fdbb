/-
# A directory that may lose power

A file system keeps what programs see in memory, and what survives a loss of power on a disk.  A
file that was written has its content on the disk once it is synced; before that a crash may leave
anything in it.  A change of the directory is on the disk once the directory is synced; before that
each change may be there or not, but never half of one.

What a name may hold after a crash is therefore known beforehand: the file that the disk has under
it, or one that a change which is not yet on the disk gives it.  A name is *settled* for a property
if it has the property whichever of them it is.
-/
import Mathlib.Logic.Function.Basic
import Mathlib.Tactic.Common

variable {N α : Type*}

/-- A directory and its files, with what is not yet on the disk. -/
structure CrashDisk (N α : Type*) where
  /-- The entries on the disk. -/
  stored : N → Option ℕ
  /-- Later changes, each a list of entries that appear together. -/
  pending : List (List (N × Option ℕ))
  content : ℕ → α
  synced : ℕ → Bool
  /-- The number of the next file. -/
  next : ℕ

namespace CrashDisk

/-! ## Files -/

section Files

variable (d : CrashDisk N α)

/-- A file of its own for a name without one, with something in it. -/
def create (name : N) (value : α) : CrashDisk N α :=
  { d with
    pending := d.pending ++ [[(name, some d.next)]]
    content := Function.update d.content d.next value
    synced := Function.update d.synced d.next false
    next := d.next + 1 }

def write (file : ℕ) (value : α) : CrashDisk N α :=
  { d with
    content := Function.update d.content file value
    synced := Function.update d.synced file false }

def syncFile (file : ℕ) : CrashDisk N α := { d with synced := Function.update d.synced file true }

def remove (name : N) : CrashDisk N α := { d with pending := d.pending ++ [[(name, none)]] }

@[simp] lemma content_create_next (name : N) (value : α) :
    (d.create name value).content d.next = value :=
  Function.update_self _ _ _

lemma content_create_of_ne (name : N) (value : α) {i : ℕ} (hi : i ≠ d.next) :
    (d.create name value).content i = d.content i :=
  Function.update_of_ne hi _ _

lemma synced_create_of_ne (name : N) (value : α) {i : ℕ} (hi : i ≠ d.next) :
    (d.create name value).synced i = d.synced i :=
  Function.update_of_ne hi _ _

@[simp] lemma content_write_self (file : ℕ) (value : α) :
    (d.write file value).content file = value :=
  Function.update_self _ _ _

lemma content_write_of_ne (value : α) {file i : ℕ} (hi : i ≠ file) :
    (d.write file value).content i = d.content i :=
  Function.update_of_ne hi _ _

lemma synced_write_of_ne (value : α) {file i : ℕ} (hi : i ≠ file) :
    (d.write file value).synced i = d.synced i :=
  Function.update_of_ne hi _ _

@[simp] lemma synced_syncFile_self (file : ℕ) : (d.syncFile file).synced file = true :=
  Function.update_self _ _ _

lemma synced_syncFile_of_ne {file i : ℕ} (hi : i ≠ file) :
    (d.syncFile file).synced i = d.synced i :=
  Function.update_of_ne hi _ _

end Files

/-! ## Entries -/

section Entries

variable [DecidableEq N]

def applyChange (entries : N → Option ℕ) (change : List (N × Option ℕ)) : N → Option ℕ :=
  change.foldl (fun entries e => Function.update entries e.1 e.2) entries

variable (d : CrashDisk N α)

/-- The entries that programs see. -/
def entries : N → Option ℕ := d.pending.foldl applyChange d.stored

def read (name : N) : Option α := (d.entries name).map d.content

/-- The file of a name gets another name, in the place of the file that had it. -/
def rename (source target : N) : CrashDisk N α :=
  { d with pending := d.pending ++ [[(source, none), (target, d.entries source)]] }

def syncDir : CrashDisk N α := { d with stored := d.entries, pending := [] }

/-- The power is lost.  The changes for which `kept` says so are on the disk, and files that were
not synced have the content that `torn` gives. -/
def crash (kept : List Bool) (torn : ℕ → α) : CrashDisk N α where
  stored := ((d.pending.zip kept).filter (·.2)).foldl (fun entries c => applyChange entries c.1)
    d.stored
  pending := []
  content file := if d.synced file then d.content file else torn file
  synced _ := true
  next := d.next

@[simp] lemma entries_create_self (name : N) (value : α) :
    (d.create name value).entries name = some d.next := by
  simp [entries, create, applyChange]

@[simp] lemma entries_write (file : ℕ) (value : α) : (d.write file value).entries = d.entries := rfl

@[simp] lemma entries_syncFile (file : ℕ) : (d.syncFile file).entries = d.entries := rfl

@[simp] lemma entries_rename_target (source target : N) :
    (d.rename source target).entries target = d.entries source := by
  simp [entries, rename, applyChange]

end Entries

/-! ## What a crash may leave -/

/-- A file, or none, that a crash may leave under the name. -/
def Possible (d : CrashDisk N α) (name : N) (file : Option ℕ) : Prop :=
  d.stored name = file ∨ ∃ change ∈ d.pending, (name, file) ∈ change

variable {d : CrashDisk N α} {name : N}

/-- A change of another name. -/
lemma possible_of_append (changes : List (N × Option ℕ)) {d' : CrashDisk N α} {file : Option ℕ}
    (h : d'.Possible name file) (hstored : d'.stored = d.stored)
    (hpending : d'.pending = d.pending ++ [changes]) (hchanges : ∀ e ∈ changes, e.1 ≠ name) :
    d.Possible name file := by
  rcases h with hfile | ⟨change, hmem, hfile⟩
  · exact .inl (hstored ▸ hfile)
  · rw [hpending] at hmem
    rcases List.mem_append.mp hmem with hmem | hmem
    · exact .inr ⟨change, hmem, hfile⟩
    · rw [List.mem_singleton.mp hmem] at hfile
      exact absurd rfl (hchanges _ hfile)

lemma possible_of_create {other : N} {value : α} {file : Option ℕ} (hne : other ≠ name)
    (h : (d.create other value).Possible name file) : d.Possible name file :=
  possible_of_append [(other, some d.next)] h rfl rfl (by simpa using hne)

lemma possible_of_remove {other : N} {file : Option ℕ} (hne : other ≠ name)
    (h : (d.remove other).Possible name file) : d.Possible name file :=
  possible_of_append [(other, none)] h rfl rfl (by simpa using hne)

section Crash

variable [DecidableEq N]

lemma applyChange_eq (entries : N → Option ℕ) (change : List (N × Option ℕ)) (name : N) :
    applyChange entries change name = entries name ∨
      (name, applyChange entries change name) ∈ change := by
  induction change generalizing entries with
  | nil => exact .inl rfl
  | cons e change ih =>
    rcases ih (Function.update entries e.1 e.2) with hsame | hmem
    · by_cases hname : name = e.1
      · subst hname
        rw [Function.update_self] at hsame
        exact .inr (List.mem_cons.mpr (.inl (Prod.ext rfl hsame)))
      · rw [Function.update_of_ne hname] at hsame
        exact .inl hsame
    · exact .inr (List.mem_cons_of_mem _ hmem)

lemma foldl_applyChange_eq {β : Type*} (change : β → List (N × Option ℕ)) (cs : List β)
    (entries : N → Option ℕ) (name : N) :
    cs.foldl (fun entries c => applyChange entries (change c)) entries name = entries name ∨
      ∃ c ∈ cs, (name, cs.foldl (fun entries c => applyChange entries (change c)) entries name) ∈
        change c := by
  induction cs generalizing entries with
  | nil => exact .inl rfl
  | cons c cs ih =>
    rcases ih (applyChange entries (change c)) with hsame | ⟨c', hc', hmem⟩
    · rw [List.foldl_cons, hsame]
      rcases applyChange_eq entries (change c) name with hentries | hmem
      · exact .inl hentries
      · exact .inr ⟨c, List.mem_cons_self, hmem⟩
    · exact .inr ⟨c', List.mem_cons_of_mem _ hc', hmem⟩

/-- Without a crash a name has one of the files that a crash may leave. -/
lemma possible_entries (d : CrashDisk N α) (name : N) : d.Possible name (d.entries name) := by
  rcases foldl_applyChange_eq id d.pending d.stored name with hsame | hmem
  · exact .inl hsame.symm
  · exact .inr hmem

lemma possible_of_crash {kept : List Bool} {torn : ℕ → α} {file : Option ℕ}
    (h : (d.crash kept torn).Possible name file) : d.Possible name file := by
  obtain rfl : (d.crash kept torn).stored name = file := by simpa [Possible, crash] using h
  rcases foldl_applyChange_eq Prod.fst ((d.pending.zip kept).filter (·.2)) d.stored name with
    hsame | ⟨c, hc, hmem⟩
  · exact .inl hsame.symm
  · exact .inr ⟨c.1, (List.of_mem_zip (List.mem_filter.mp hc).1).1, hmem⟩

lemma possible_of_syncDir {file : Option ℕ} (h : d.syncDir.Possible name file) :
    file = d.entries name := by
  simpa [Possible, syncDir, eq_comm] using h

end Crash

/-! ## Settled names -/

/-- Whatever a crash leaves under the name, its content is on the disk and has the property. -/
def Settled (d : CrashDisk N α) (name : N) (P : Option α → Prop) : Prop :=
  ∀ file, d.Possible name file → (∀ i, file = some i → d.synced i = true ∧ i < d.next) ∧
    P (file.map d.content)

variable {P : Option α → Prop} {other source target : N} {value : α} {file : ℕ}

/-- A new file is none that the name may have. -/
lemma Settled.not_possible_next (h : d.Settled name P) : ¬ d.Possible name (some d.next) :=
  fun hnext => Nat.lt_irrefl _ ((h _ hnext).1 _ rfl).2

lemma Settled.imp {Q : Option α → Prop} (h : d.Settled name P) (hPQ : ∀ v, P v → Q v) :
    d.Settled name Q :=
  fun file hfile => ⟨(h file hfile).1, hPQ _ (h file hfile).2⟩

/-- A change of files and entries that leaves the ones of the name alone. -/
lemma Settled.of_agree {d' : CrashDisk N α} (h : d.Settled name P)
    (hpossible : ∀ file, d'.Possible name file → d.Possible name file)
    (hfiles : ∀ i, d.Possible name (some i) → d.synced i = true → i < d.next →
      d'.synced i = true ∧ d'.content i = d.content i) (hnext : d.next ≤ d'.next) :
    d'.Settled name P := by
  intro file hfile
  obtain ⟨hsynced, hP⟩ := h file (hpossible file hfile)
  cases file with
  | none => exact ⟨nofun, hP⟩
  | some i =>
    obtain ⟨hi, hlt⟩ := hsynced i rfl
    obtain ⟨hi', hcontent⟩ := hfiles i (hpossible _ hfile) hi hlt
    refine ⟨?_, ?_⟩
    · intro i' h
      obtain rfl := Option.some.inj h
      exact ⟨hi', Nat.lt_of_lt_of_le hlt hnext⟩
    · rwa [Option.map_some, hcontent]

lemma Settled.create (h : d.Settled name P) (hne : other ≠ name) :
    (d.create other value).Settled name P := by
  refine h.of_agree (fun _ => possible_of_create hne) ?_ (Nat.le_succ _)
  intro i _ hi hlt
  have hi' : i ≠ d.next := Nat.ne_of_lt hlt
  exact ⟨(d.synced_create_of_ne other value hi').trans hi, d.content_create_of_ne other value hi'⟩

/-- A file that the name cannot have is written. -/
lemma Settled.write (h : d.Settled name P) (hfile : ¬ d.Possible name (some file)) :
    (d.write file value).Settled name P := by
  refine h.of_agree (fun _ => id) ?_ (Nat.le_refl _)
  intro i hi hsynced _
  have hne : i ≠ file := by
    rintro rfl
    exact hfile hi
  exact ⟨(d.synced_write_of_ne value hne).trans hsynced, d.content_write_of_ne value hne⟩

lemma Settled.syncFile (h : d.Settled name P) : (d.syncFile file).Settled name P := by
  refine h.of_agree (fun _ => id) ?_ (Nat.le_refl _)
  intro i _ hsynced _
  by_cases hi : i = file
  · subst hi
    exact ⟨d.synced_syncFile_self i, rfl⟩
  · exact ⟨(d.synced_syncFile_of_ne hi).trans hsynced, rfl⟩

lemma Settled.remove (h : d.Settled name P) (hne : other ≠ name) :
    (d.remove other).Settled name P :=
  h.of_agree (fun _ => possible_of_remove hne) (fun _ _ hi _ => ⟨hi, rfl⟩) (Nat.le_refl _)

variable [DecidableEq N]

lemma Settled.read (h : d.Settled name P) : P (d.read name) :=
  (h _ (possible_entries d name)).2

/-! ### What programs see of a settled name -/

lemma Settled.read_create (h : d.Settled name P) (hne : other ≠ name) :
    (d.create other value).read name = d.read name := by
  have hentry : (d.create other value).entries name = d.entries name := by
    simp [entries, CrashDisk.create, applyChange, Function.update_of_ne hne.symm]
  rw [CrashDisk.read, CrashDisk.read, hentry]
  cases hfile : d.entries name with
  | none => rfl
  | some i =>
    have hlt : i < d.next := ((h _ (possible_entries d name)).1 i hfile).2
    simp only [Option.map_some, content_create_of_ne d other value (Nat.ne_of_lt hlt)]

/-- A file that the name cannot have is written. -/
lemma read_write_of_not_possible (hfile : ¬ d.Possible name (some file)) :
    (d.write file value).read name = d.read name := by
  rw [CrashDisk.read, CrashDisk.read, entries_write]
  cases hentry : d.entries name with
  | none => rfl
  | some i =>
    have hne : i ≠ file := by
      rintro rfl
      exact hfile (hentry ▸ possible_entries d name)
    simp only [Option.map_some, content_write_of_ne d value hne]

@[simp] lemma read_syncFile : (d.syncFile file).read name = d.read name := rfl

@[simp] lemma read_syncDir : d.syncDir.read name = d.read name := rfl

lemma read_remove (hne : other ≠ name) : (d.remove other).read name = d.read name := by
  have hentry : (d.remove other).entries name = d.entries name := by
    simp [entries, CrashDisk.remove, applyChange, Function.update_of_ne hne.symm]
  rw [CrashDisk.read, CrashDisk.read, hentry]
  rfl

/-- **A crash leaves a settled name settled.** -/
theorem Settled.crash (h : d.Settled name P) (kept : List Bool) (torn : ℕ → α) :
    (d.crash kept torn).Settled name P := by
  intro file hfile
  obtain ⟨hsynced, hP⟩ := h file (possible_of_crash hfile)
  refine ⟨fun i hi => ⟨rfl, (hsynced i hi).2⟩, ?_⟩
  cases file with
  | none => exact hP
  | some i =>
    have hcontent : (d.crash kept torn).content i = d.content i := if_pos (hsynced i rfl).1
    rwa [Option.map_some, hcontent]

/-- **A file takes over a settled name.**  Its content is on the disk and has the property. -/
theorem Settled.rename (h : d.Settled target P) (hne : source ≠ target)
    (hsource : d.entries source = some file) (hsynced : d.synced file = true)
    (hlt : file < d.next) (hP : P (some (d.content file))) :
    (d.rename source target).Settled target P := by
  rintro f (hstored | ⟨change, hmem, hfile⟩)
  · exact h f (.inl hstored)
  · rcases List.mem_append.mp hmem with hmem | hmem
    · exact h f (.inr ⟨change, hmem, hfile⟩)
    · obtain rfl := List.mem_singleton.mp hmem
      rcases List.mem_cons.mp hfile with hfile | hfile
      · exact absurd (congrArg Prod.fst hfile).symm hne
      · obtain rfl : f = d.entries source :=
          congrArg Prod.snd (List.mem_singleton.mp hfile)
        rw [hsource]
        refine ⟨?_, hP⟩
        rintro i hi
        obtain rfl := Option.some.inj hi
        exact ⟨hsynced, hlt⟩

/-- Once the directory is synced, the name has on the disk what programs see. -/
theorem Settled.syncDir (h : d.Settled name P) :
    d.syncDir.Settled name fun v => P v ∧ v = d.read name := by
  intro file hfile
  obtain rfl := possible_of_syncDir hfile
  obtain ⟨hsynced, hP⟩ := h _ (possible_entries d name)
  exact ⟨hsynced, hP, rfl⟩

end CrashDisk
