/-
# Texts split at a delimiter, as they come in

A text is split at a delimiter from left to right: an item of the text belongs to the current piece
until the delimiter is complete, and then a new piece begins.  A reader that gets the text in chunks
splits what it has, takes all pieces but the last, and keeps the last one for the next chunk.  This
gives the pieces of the whole text, wherever the chunks end.
-/
import Mathlib.Data.List.Infix
import Mathlib.Tactic.Common

namespace Delimited

variable {α : Type*} [DecidableEq α]

/-- The pieces that are complete, and the items since the last of them. -/
structure Scan (α : Type*) where
  pieces : List (List α)
  rest : List α
deriving DecidableEq

def start : Scan α := ⟨[], []⟩

/-- The text so far. -/
def Scan.text (d : List α) (s : Scan α) : List α := s.pieces.flatMap (· ++ d) ++ s.rest

variable (d : List α)

def push (s : Scan α) (x : α) : Scan α :=
  let rest := s.rest ++ [x]
  if d <:+ rest then ⟨s.pieces ++ [rest.take (rest.length - d.length)], []⟩
  else { s with rest }

def scan (s : Scan α) (text : List α) : Scan α := text.foldl (push d) s

def split (text : List α) : List (List α) :=
  (scan d start text).pieces ++ [(scan d start text).rest]

variable {d} {s : Scan α} {x : α} {text text' piece : List α} {pieces : List (List α)}

lemma scan_append : scan d s (text ++ text') = scan d (scan d s text) text' := List.foldl_append

lemma scan_snoc : scan d s (text ++ [x]) = push d (scan d s text) x := by
  rw [scan_append]
  rfl

/-- Nothing is lost. -/
lemma text_push : (push d s x).text d = s.text d ++ [x] := by
  simp only [push]
  split_ifs with hend
  · obtain ⟨before, hbefore⟩ := hend
    have hlen : (s.rest ++ [x]).length - d.length = before.length := by
      rw [← hbefore, List.length_append, Nat.add_sub_cancel]
    have htake : (s.rest ++ [x]).take ((s.rest ++ [x]).length - d.length) ++ d = s.rest ++ [x] := by
      rw [hlen, ← hbefore, List.take_left]
    simp only [Scan.text, List.flatMap_append, List.flatMap_singleton, List.append_nil,
      List.append_assoc, htake]
  · simp [Scan.text]

lemma text_scan : (scan d s text).text d = s.text d ++ text := by
  induction text using List.reverseRecOn with
  | nil => simp [scan]
  | append_singleton text x ih => rw [scan_snoc, text_push, ih, List.append_assoc]

/-- What was complete before stays in front. -/
lemma push_pieces (pieces : List (List α)) :
    push d ⟨pieces ++ s.pieces, s.rest⟩ x =
      ⟨pieces ++ (push d s x).pieces, (push d s x).rest⟩ := by
  simp only [push]
  split_ifs <;> simp

lemma scan_pieces (pieces : List (List α)) :
    scan d ⟨pieces ++ s.pieces, s.rest⟩ text =
      ⟨pieces ++ (scan d s text).pieces, (scan d s text).rest⟩ := by
  induction text using List.reverseRecOn with
  | nil => rfl
  | append_singleton text x ih => rw [scan_snoc, ih, push_pieces, scan_snoc]

lemma scan_of_pieces (pieces : List (List α)) (rest : List α) :
    scan d ⟨pieces, rest⟩ text =
      ⟨pieces ++ (scan d ⟨[], rest⟩ text).pieces, (scan d ⟨[], rest⟩ text).rest⟩ := by
  have h := @scan_pieces _ _ d ⟨[], rest⟩ text pieces
  simpa only [List.append_nil] using h

/-- The rest of a text is not split again. -/
lemma scan_rest (text : List α) :
    scan d start (scan d start text).rest = ⟨[], (scan d start text).rest⟩ := by
  induction text using List.reverseRecOn with
  | nil => rfl
  | append_singleton text x ih =>
    rw [scan_snoc]
    by_cases hend : d <:+ (scan d start text).rest ++ [x]
    · simp only [push, if_pos hend]
      rfl
    · have hpush : push d (scan d start text) x =
          ⟨(scan d start text).pieces, (scan d start text).rest ++ [x]⟩ := if_neg hend
      rw [hpush]
      dsimp only
      rw [scan_snoc, ih, push]
      exact if_neg hend

/-! ## Chunks -/

/-- A reader adds a chunk to its buffer, splits it, and keeps the last piece. -/
def feed (d : List α) (s : Scan α) (chunk : List α) : Scan α :=
  let pieces := split d (s.rest ++ chunk)
  ⟨s.pieces ++ pieces.dropLast, pieces.getLastD []⟩

/-- **Reading in chunks.**  The pieces that a reader has taken, and its buffer, are those of the
text that has come in. -/
theorem foldl_feed (chunks : List (List α)) :
    chunks.foldl (feed d) start = scan d start chunks.flatten := by
  induction chunks using List.reverseRecOn with
  | nil => rfl
  | append_singleton chunks chunk ih =>
    rw [List.foldl_append, ih, List.flatten_append, List.flatten_singleton, scan_append]
    set s := scan d start chunks.flatten with hs
    have hrest : scan d start s.rest = ⟨[], s.rest⟩ := by
      rw [hs]
      exact scan_rest _
    have hpieces : scan d ⟨s.pieces, s.rest⟩ chunk =
        ⟨s.pieces ++ (scan d ⟨[], s.rest⟩ chunk).pieces, (scan d ⟨[], s.rest⟩ chunk).rest⟩ :=
      scan_of_pieces s.pieces s.rest
    have hfeed : feed d s chunk = ⟨s.pieces ++ (scan d ⟨[], s.rest⟩ chunk).pieces,
        (scan d ⟨[], s.rest⟩ chunk).rest⟩ := by
      simp only [feed, split, scan_append, hrest, List.dropLast_concat, List.getLastD_concat]
    rw [List.foldl_cons, List.foldl_nil, hfeed]
    exact hpieces.symm

/-! ## Pieces with their delimiters -/

/-- The delimiter behind the piece is the first one in it. -/
def Piece (d piece : List α) : Prop := scan d start (piece ++ d) = ⟨[piece], []⟩

instance (d piece : List α) : Decidable (Piece d piece) := inferInstanceAs (Decidable (_ = _))

lemma scan_flatMap (h : ∀ piece ∈ pieces, Piece d piece) :
    scan d start (pieces.flatMap (· ++ d)) = ⟨pieces, []⟩ := by
  induction pieces using List.reverseRecOn with
  | nil => rfl
  | append_singleton pieces piece ih =>
    have hpieces := ih fun p hp => h p (List.mem_append_left _ hp)
    have hpiece : Piece d piece := h piece (by simp)
    rw [List.flatMap_append, List.flatMap_singleton, scan_append, hpieces, scan_of_pieces]
    rw [show scan d ⟨[], []⟩ (piece ++ d) = ⟨[piece], []⟩ from hpiece]

/-- **What a reader has after a part of the text.**  The text consists of pieces with their
delimiters.  The reader has exactly the pieces that have come in as a whole. -/
theorem pieces_of_isPrefix (h : ∀ piece ∈ pieces, Piece d piece)
    (hle : text <+: pieces.flatMap (· ++ d)) :
    ∃ k ≤ pieces.length, (scan d start text).pieces = pieces.take k ∧
      (pieces.take k).flatMap (· ++ d) <+: text ∧
      (k < pieces.length → text.length < ((pieces.take (k + 1)).flatMap (· ++ d)).length) := by
  have hwhole : scan d start (pieces.flatMap (· ++ d)) = ⟨pieces, []⟩ := scan_flatMap h
  have htext : (scan d start text).text d = text := text_scan
  obtain ⟨more, hmore⟩ := hle
  have hsplit : pieces =
      (scan d start text).pieces ++ (scan d ⟨[], (scan d start text).rest⟩ more).pieces := by
    rw [← hmore, scan_append, scan_of_pieces] at hwhole
    exact (Scan.mk.inj hwhole).1.symm
  refine ⟨(scan d start text).pieces.length, ?_, ?_, ?_, fun hk => ?_⟩
  · conv_rhs => rw [hsplit]
    rw [List.length_append]
    exact Nat.le_add_right _ _
  · conv_rhs => rw [hsplit]
    rw [List.take_left]
  · have htake : pieces.take (scan d start text).pieces.length = (scan d start text).pieces := by
      conv_lhs => rw [hsplit]
      rw [List.take_left]
    rw [htake]
    exact ⟨_, htext⟩
  · -- a piece that has come in as a whole has been taken
    by_contra hge
    set k := (scan d start text).pieces.length
    have hin : (pieces.take (k + 1)).flatMap (· ++ d) <+: text := by
      refine List.prefix_of_prefix_length_le ⟨(pieces.drop (k + 1)).flatMap (· ++ d), ?_⟩
        ⟨more, hmore⟩ (Nat.not_lt.mp hge)
      rw [← List.flatMap_append, List.take_append_drop]
    obtain ⟨later, hlater⟩ := hin
    have hscan : (scan d start text).pieces =
        pieces.take (k + 1) ++ (scan d ⟨[], []⟩ later).pieces := by
      rw [← hlater, scan_append, scan_flatMap fun p hp => h p (List.mem_of_mem_take hp),
        scan_of_pieces]
    have hlen : k = (pieces.take (k + 1) ++ (scan d ⟨[], []⟩ later).pieces).length :=
      congrArg List.length hscan
    rw [List.length_append, List.length_take_of_le hk] at hlen
    omega

/-! ## Two equal items as the delimiter -/

section Double

variable {c : α} {line : List α}

lemma scan_line (h : c ∉ line) : scan [c, c] s line = ⟨s.pieces, s.rest ++ line⟩ := by
  induction line using List.reverseRecOn with
  | nil => simp [scan]
  | append_singleton line x ih =>
    have hline : c ∉ line := fun hc => h (List.mem_append_left _ hc)
    have hx : x ≠ c := fun hx => h (by simp [hx])
    rw [scan_snoc, ih hline, push]
    dsimp only
    rw [if_neg, List.append_assoc]
    rintro ⟨before, hbefore⟩
    have hlast := congrArg List.getLast? hbefore
    rw [List.getLast?_concat, show before ++ [c, c] = (before ++ [c]) ++ [c] by simp,
      List.getLast?_concat] at hlast
    exact hx (Option.some.inj hlast).symm

/-- An item `c` behind another one begins no delimiter and ends none. -/
lemma scan_single (hrest : ∀ x ∈ s.rest.getLast?, x ≠ c) :
    scan [c, c] s [c] = ⟨s.pieces, s.rest ++ [c]⟩ := by
  simp only [scan, List.foldl_cons, List.foldl_nil, push]
  rw [if_neg]
  rintro ⟨before, hbefore⟩
  have hinit := congrArg List.dropLast hbefore
  rw [List.dropLast_concat, show before ++ [c, c] = (before ++ [c]) ++ [c] by simp,
    List.dropLast_concat] at hinit
  refine hrest c ?_ rfl
  rw [← hinit, List.getLast?_concat]
  rfl

lemma scan_double (hrest : ∀ x ∈ s.rest.getLast?, x ≠ c) :
    scan [c, c] s [c, c] = ⟨s.pieces ++ [s.rest], []⟩ := by
  have hfirst := scan_single hrest
  rw [show [c, c] = [c] ++ [c] from rfl, scan_append]
  rw [show [c] ++ [c] = [c, c] from rfl, hfirst]
  simp only [scan, List.foldl_cons, List.foldl_nil, push, List.append_assoc]
  rw [if_pos (show [c, c] <:+ s.rest ++ ([c] ++ [c]) from List.suffix_append _ _)]
  simp

omit [DecidableEq α] in
lemma getLast_ne (h : c ∉ line) (hne : line ≠ []) (before : List α) :
    ∀ x ∈ (before ++ line).getLast?, x ≠ c := by
  rintro x hx rfl
  rw [List.getLast?_append_of_ne_nil _ hne] at hx
  exact h (List.mem_of_getLast? hx)

/-- A piece of one line. -/
lemma piece_line (h : c ∉ line) (hne : line ≠ []) : Piece [c, c] line := by
  rw [Piece, scan_append, scan_line h]
  exact scan_double (getLast_ne h hne [])

/-- A line in front of a piece, with `c` between them. -/
lemma piece_cons_line (h : c ∉ line) (hne : line ≠ []) {line' : List α} (h' : c ∉ line')
    (hne' : line' ≠ []) : Piece [c, c] (line ++ c :: line') := by
  have hlines : scan [c, c] start (line ++ c :: line') = ⟨[], line ++ c :: line'⟩ := by
    rw [show line ++ c :: line' = line ++ [c] ++ line' by simp, scan_append, scan_append,
      scan_line h, scan_single (getLast_ne h hne []), scan_line h']
    rfl
  rw [Piece, scan_append, hlines]
  refine scan_double ?_
  rw [show line ++ c :: line' = (line ++ [c]) ++ line' by simp]
  exact getLast_ne h' hne' _

end Double

end Delimited
