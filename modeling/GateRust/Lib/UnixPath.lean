/-
# Unix paths

The functions of a path library on the bytes of a path: `join`, `parent`, the file name, and the
components, by which two paths are compared.  A path that starts with a separator is absolute.
The pieces between the separators that are empty, or a dot, name nothing, except that a dot at the
start of a path is a component.

The files are read through paths, where a relative path stands for its absolute one in the working
directory.
-/
import Mathlib.Data.List.DropRight
import Mathlib.Tactic.Common

@[ext]
structure UnixPath where
  bytes : List UInt8
deriving DecidableEq, Repr

namespace UnixPath

def sep : UInt8 := 47

def dot : UInt8 := 46

def ofString (s : String) : UnixPath := ⟨s.toUTF8.toList⟩

/-- The text of a path whose bytes are UTF-8. -/
def display (p : UnixPath) : String := (String.fromUTF8? ⟨p.bytes.toArray⟩).getD ""

def isAbsolute (p : UnixPath) : Bool := p.bytes.head? = some sep

/-! ## Components -/

inductive Component where
  | rootDir
  | curDir
  | parentDir
  | normal (name : List UInt8)
deriving DecidableEq, Repr

def pieces (bytes : List UInt8) : List (List UInt8) := bytes.splitOn sep

/-- The piece names nothing. -/
def skipped (piece : List UInt8) : Bool := piece = [] || piece = [dot]

def ofPiece (piece : List UInt8) : Component :=
  if piece = [dot, dot] then .parentDir else .normal piece

/-- The path is a dot, or starts with a dot and a separator. -/
def hasCurDir (p : UnixPath) : Bool := (pieces p.bytes).head? = some [dot]

def components (p : UnixPath) : List Component :=
  (if p.isAbsolute then [.rootDir] else if p.hasCurDir then [.curDir] else []) ++
    ((pieces p.bytes).filter fun piece => !skipped piece).map ofPiece

def fileName (p : UnixPath) : Option (List UInt8) :=
  match p.components.getLast? with
  | some (.normal name) => some name
  | _ => none

/-! ## Operations -/

def join (p q : UnixPath) : UnixPath :=
  if q.isAbsolute then q
  else if p.bytes = [] || p.bytes.getLast? = some sep then ⟨p.bytes ++ q.bytes⟩
  else ⟨p.bytes ++ sep :: q.bytes⟩

/-- The bytes without the last component and without what then names nothing at the end. -/
def parentBody (bytes : List UInt8) : Option (List UInt8) :=
  match (pieces bytes).rdropWhile skipped with
  | [] => none
  | ps => some ([sep].intercalate (ps.dropLast.rdropWhile skipped))

/-- The path without its last component, if that is not the root. -/
def parent (p : UnixPath) : Option UnixPath :=
  if p.isAbsolute then (parentBody (p.bytes.drop 1)).map fun body => ⟨sep :: body⟩
  else if p.hasCurDir then
    match parentBody (p.bytes.drop 1) with
    | some body => some ⟨dot :: body⟩
    | none => some ⟨[]⟩
  else (parentBody p.bytes).map UnixPath.mk

/-- The absolute path of a path. -/
def absolute (cwd p : UnixPath) : UnixPath := if p.isAbsolute then p else cwd.join p

example : (ofString "/srv/./gate//server.toml/").parent = some (ofString "/srv/./gate") := by
  decide +kernel

example : (ofString "server.toml").parent = some ⟨[]⟩ := by decide +kernel

example : (ofString "./server.toml").parent = some (ofString ".") := by decide +kernel

example : (ofString "/").parent = none := by decide +kernel

variable {p q : UnixPath}

lemma isAbsolute_iff : p.isAbsolute = true ↔ ∃ rest, p.bytes = sep :: rest := by
  rw [isAbsolute, decide_eq_true_iff, List.head?_eq_some_iff]

lemma isAbsolute_join (p q : UnixPath) :
    (p.join q).isAbsolute = (p.isAbsolute || q.isAbsolute) := by
  obtain ⟨bytes⟩ := p
  unfold join
  split
  case isTrue habs => rw [habs, Bool.or_true]
  case isFalse hrel =>
    rw [Bool.not_eq_true] at hrel
    rw [hrel, Bool.or_false]
    cases bytes with
    | nil =>
      simp only [decide_true, Bool.true_or, if_true, List.nil_append]
      rw [hrel]
      rfl
    | cons b rest =>
      split <;> rfl

/-- A relative path can be read off what it is joined to. -/
lemma join_right_inj {r : UnixPath} (hq : q.isAbsolute = false) (hr : r.isAbsolute = false) :
    p.join q = p.join r ↔ q = r := by
  unfold join
  rw [hq, hr, if_neg Bool.false_ne_true, if_neg Bool.false_ne_true]
  split <;> simp [UnixPath.ext_iff]

lemma isAbsolute_absolute {cwd : UnixPath} (hcwd : cwd.isAbsolute = true) (p : UnixPath) :
    (absolute cwd p).isAbsolute = true := by
  unfold absolute
  split
  case isTrue habs => exact habs
  case isFalse => rw [isAbsolute_join, hcwd, Bool.true_or]

lemma absolute_absolute {cwd : UnixPath} (hcwd : cwd.isAbsolute = true) (p : UnixPath) :
    absolute cwd (absolute cwd p) = absolute cwd p :=
  if_pos (isAbsolute_absolute hcwd p)

/-! ## The parent -/

lemma intercalate_start {s : List UInt8} {ps qs : List (List UInt8)} (h : ps <+: qs) :
    s.intercalate ps <+: s.intercalate qs := by
  induction ps generalizing qs with
  | nil => exact List.nil_prefix
  | cons x ps ih =>
    obtain ⟨rest, rfl⟩ := h
    cases ps with
    | nil =>
      rw [List.intercalate_singleton]
      cases rest with
      | nil => simp
      | cons y rest =>
        rw [List.singleton_append, List.intercalate_cons_cons, List.append_assoc]
        exact List.prefix_append _ _
    | cons y ps =>
      rw [List.cons_append, List.cons_append, List.intercalate_cons_cons,
        List.intercalate_cons_cons, List.prefix_append_right_inj]
      exact ih (List.prefix_append (y :: ps) rest)

/-- What is left is a start of the bytes. -/
lemma parentBody_start {bytes body : List UInt8} (h : parentBody bytes = some body) :
    body <+: bytes := by
  unfold parentBody at h
  split at h
  · cases h
  · rename_i ps hps
    cases h
    have htrimmed := List.rdropWhile_prefix skipped (pieces bytes)
    have hshorter := List.dropLast_prefix ((pieces bytes).rdropWhile skipped)
    have hlast := List.rdropWhile_prefix skipped ((pieces bytes).rdropWhile skipped).dropLast
    have hbytes := intercalate_start (s := [sep]) (hlast.trans (hshorter.trans htrimmed))
    rwa [pieces, List.intercalate_splitOn] at hbytes

lemma isAbsolute_of_parent (h : p.parent = some q) : q.isAbsolute = p.isAbsolute := by
  unfold parent at h
  split at h
  case isTrue habs =>
    obtain ⟨body, -, rfl⟩ := Option.map_eq_some_iff.mp h
    rw [habs]
    rfl
  case isFalse hrel =>
    rw [Bool.not_eq_true] at hrel
    rw [hrel]
    split at h
    · split at h
      · cases h
        rfl
      · cases h
        rfl
    · obtain ⟨body, hbody, rfl⟩ := Option.map_eq_some_iff.mp h
      -- a start of the path is relative as well
      obtain ⟨rest, hrest⟩ := parentBody_start hbody
      rw [← Bool.not_eq_true, isAbsolute_iff] at hrel ⊢
      rintro ⟨tail, rfl⟩
      exact hrel ⟨tail ++ rest, hrest.symm⟩

lemma exists_parentBody {bytes piece : List UInt8} (hmem : piece ∈ pieces bytes)
    (hnamed : skipped piece = false) : ∃ body, parentBody bytes = some body := by
  unfold parentBody
  split
  case h_1 hnil =>
    have hall := List.rdropWhile_eq_nil_iff.mp hnil piece hmem
    rw [hnamed] at hall
    cases hall
  case h_2 => exact ⟨_, rfl⟩

lemma ofPiece_ne_rootDir (piece : List UInt8) : ofPiece piece ≠ .rootDir := by
  unfold ofPiece
  split <;> exact nofun

/-- The last component of a path with a file name comes from one of its pieces. -/
lemma exists_piece_of_fileName (h : p.fileName.isSome = true) :
    ∃ piece ∈ pieces p.bytes, skipped piece = false := by
  by_contra hnone
  have hempty : (pieces p.bytes).filter (fun piece => !skipped piece) = [] := by
    rw [List.filter_eq_nil_iff]
    intro piece hmem hnamed
    exact hnone ⟨piece, hmem, by simpa using hnamed⟩
  rw [fileName, components, hempty, List.map_nil, List.append_nil] at h
  split_ifs at h <;> cases h

/-- A path with a file name has a parent. -/
lemma exists_parent_of_fileName (h : p.fileName.isSome = true) : ∃ q, p.parent = some q := by
  obtain ⟨piece, hmem, hnamed⟩ := exists_piece_of_fileName h
  unfold parent
  split
  case isTrue habs =>
    obtain ⟨rest, hrest⟩ := isAbsolute_iff.mp habs
    have hpieces : pieces p.bytes = [] :: pieces rest := by
      rw [hrest]
      exact List.splitOn_append_cons_self [] rest
    rw [hpieces, List.mem_cons] at hmem
    obtain rfl | hmem := hmem
    · cases hnamed
    · obtain ⟨body, hbody⟩ := exists_parentBody hmem hnamed
      rw [hrest, List.drop_one, List.tail_cons, hbody]
      exact ⟨_, rfl⟩
  case isFalse =>
    split
    · split <;> exact ⟨_, rfl⟩
    · obtain ⟨body, hbody⟩ := exists_parentBody hmem hnamed
      rw [hbody]
      exact ⟨_, rfl⟩

lemma isAbsolute_iff_rootDir_mem : p.isAbsolute = true ↔ .rootDir ∈ p.components := by
  have hpieces : Component.rootDir ∉
      ((pieces p.bytes).filter fun piece => !skipped piece).map ofPiece := by
    rintro hmem
    obtain ⟨piece, -, hpiece⟩ := List.mem_map.mp hmem
    exact ofPiece_ne_rootDir piece hpiece
  rw [components, List.mem_append, or_iff_left hpieces]
  split_ifs with habs <;> simp [habs]

/-- Paths with the same components are both absolute or both relative. -/
lemma isAbsolute_of_components (h : p.components = q.components) :
    p.isAbsolute = q.isAbsolute := by
  rw [Bool.eq_iff_iff, isAbsolute_iff_rootDir_mem, isAbsolute_iff_rootDir_mem, h]

/-! ## Bare names -/

lemma pieces_of_bare (hsep : sep ∉ p.bytes) : pieces p.bytes = [p.bytes] :=
  List.splitOn_eq_singleton hsep

lemma isAbsolute_of_bare (hsep : sep ∉ p.bytes) : p.isAbsolute = false := by
  rw [← Bool.not_eq_true, isAbsolute_iff]
  rintro ⟨rest, hrest⟩
  exact hsep (hrest ▸ List.mem_cons_self)

lemma hasCurDir_of_bare (hsep : sep ∉ p.bytes) (hnamed : skipped p.bytes = false) :
    p.hasCurDir = false := by
  simp only [skipped, Bool.or_eq_false_iff, decide_eq_false_iff_not] at hnamed
  simp [hasCurDir, pieces_of_bare hsep, hnamed.2]

/-- The parent of a bare name is empty. -/
lemma parent_of_bare (hsep : sep ∉ p.bytes) (hnamed : skipped p.bytes = false) :
    p.parent = some ⟨[]⟩ := by
  have hbody : parentBody p.bytes = some [] := by
    simp [parentBody, pieces_of_bare hsep, List.rdropWhile_singleton, hnamed]
  simp [parent, isAbsolute_of_bare hsep, hasCurDir_of_bare hsep hnamed, hbody]

lemma fileName_of_bare (hsep : sep ∉ p.bytes) (hnamed : skipped p.bytes = false)
    (hdots : p.bytes ≠ [dot, dot]) : p.fileName = some p.bytes := by
  simp [fileName, components, isAbsolute_of_bare hsep, hasCurDir_of_bare hsep hnamed,
    pieces_of_bare hsep, hnamed, ofPiece, hdots]

end UnixPath

/-! ## Files -/

/-- The files that can be read, as text. -/
structure UnixFiles where
  cwd : UnixPath
  read : UnixPath → Except String String
  cwd_absolute : cwd.isAbsolute = true
  read_absolute : ∀ p, read (.absolute cwd p) = read p
  /-- A path without a file name is empty or names a directory. -/
  read_fileName : ∀ p text, read p = .ok text → p.fileName.isSome = true
