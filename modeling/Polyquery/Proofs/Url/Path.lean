import Polyquery.Proofs.Url.Percent
import Polyquery.Url.Basic

/-!
# Segments that are added to a path

A segment that is added to a path is encoded, so that it can be read back.  But tabs and line
ends are dropped, and one or two dots have a meaning of their own: as the whole segment they are
skipped, and if they are what is left of it they stand for a directory.
-/

namespace Polyquery.Url

variable {scheme segment text : List Char} {list : List (List Char)} {set : CharSet} {c : Char}

/-- The characters that are replaced in a segment. -/
def segmentSet (scheme : List Char) : CharSet :=
  if isSpecial scheme then CharSet.specialSegment else CharSet.segment

/-- The characters of a segment that reach a path. -/
def kept (segment : List Char) : List Char :=
  segment.filter fun c => c ≠ '\t' && c ≠ '\n' && c ≠ '\r'

theorem kept_eq_self_iff : kept segment = segment ↔ ∀ c ∈ segment, c ∉ ['\t', '\n', '\r'] := by
  rw [kept, List.filter_eq_self]
  simp [not_or, and_assoc]

/-! ## Marks in encoded segments -/

theorem segmentSet_percent (scheme : List Char) : segmentSet scheme '%' = true := by
  unfold segmentSet
  split <;> decide

theorem segmentSet_slash (scheme : List Char) : segmentSet scheme '/' = true := by
  unfold segmentSet
  split <;> decide

theorem segmentSet_dot (scheme : List Char) : segmentSet scheme '.' = false := by
  unfold segmentSet
  split <;> decide

theorem of_mem_encode (mem : c ∈ encode set text) :
    (c ∈ text ∧ set c = false) ∨ c = '%' ∨ ∃ n < 16, c = hexDigit n := by
  obtain ⟨original, inText, here⟩ := List.mem_flatMap.mp mem
  unfold encodeChar at here
  split at here
  · right
    obtain ⟨byte, -, inByte⟩ := List.mem_flatMap.mp here
    have below : byte.toNat < 256 := byte.toNat_lt
    simp only [encodeByte, List.mem_cons, List.not_mem_nil, or_false] at inByte
    rcases inByte with percent | high | low
    · exact .inl percent
    · exact .inr ⟨_, by omega, high⟩
    · exact .inr ⟨_, by omega, low⟩
  · rename_i stays
    rw [List.mem_singleton] at here
    subst here
    exact .inl ⟨inText, by simpa using stays⟩

/-- A mark that is neither a percent sign nor a digit is in an encoded text only if it was in
the text and is not replaced. -/
theorem mem_of_mem_encode (mark : c ≠ '%' ∧ ∀ n < 16, c ≠ hexDigit n)
    (mem : c ∈ encode set text) : c ∈ text ∧ set c = false := by
  rcases of_mem_encode mem with here | percent | ⟨n, small, digit⟩
  · exact here
  · exact absurd percent mark.1
  · exact absurd digit (mark.2 n small)

/-- An encoded segment is one segment. -/
theorem slash_notMem_encode (scheme text : List Char) : '/' ∉ encode (segmentSet scheme) text := by
  intro mem
  have unreplaced := (mem_of_mem_encode (by decide) mem).2
  rw [segmentSet_slash] at unreplaced
  cases unreplaced

theorem encode_replicate_dot (scheme : List Char) (n : Nat) :
    encode (segmentSet scheme) (List.replicate n '.') = List.replicate n '.' := by
  apply encode_eq_self
  intro c mem
  rw [List.eq_of_mem_replicate mem]
  exact segmentSet_dot scheme

/-- A segment is written as dots only if dots are kept of it. -/
theorem encode_eq_replicate_dot {n : Nat} :
    encode (segmentSet scheme) text = List.replicate n '.' ↔ text = List.replicate n '.' := by
  have dots := @encode_inj (segmentSet scheme) text (List.replicate n '.')
    (segmentSet_percent scheme)
  rwa [encode_replicate_dot] at dots

/-! ## What becomes of a path -/

/-- The segments before those that are added: the only segment of `/` is replaced. -/
def opened (list : List (List Char)) : List (List Char) :=
  if list = [[]] then [] else list

namespace Path

/-- What becomes of a path depends on what is kept of a segment. -/
theorem push_eq (scheme : List Char) (list : List (List Char)) (segment : List Char) :
    push scheme list segment =
      if segment = ['.'] ∨ segment = ['.', '.'] then list
      else if kept segment = ['.', '.'] then up (opened list) ++ [[]]
      else if kept segment = ['.'] then opened list ++ [[]]
      else if isFile scheme && (opened list).isEmpty then
        [drive (encode (segmentSet scheme) (kept segment))]
      else opened list ++ [encode (segmentSet scheme) (kept segment)] := by
  have one : encode (segmentSet scheme) (kept segment) = ['.'] ↔ kept segment = ['.'] :=
    encode_eq_replicate_dot (n := 1)
  have two : encode (segmentSet scheme) (kept segment) = ['.', '.'] ↔ kept segment = ['.', '.'] :=
    encode_eq_replicate_dot (n := 2)
  simp only [← one, ← two]
  rfl

theorem drive_eq_self (noBar : '|' ∉ segment) : drive segment = segment := by
  unfold drive
  split
  · rename_i names
    match segment, names with
    | [letter, mark], names =>
      simp only [isDrive, Bool.and_eq_true, Bool.or_eq_true, decide_eq_true_eq] at names
      have colon : mark = ':' := by
        refine names.2.resolve_right ?_
        rintro rfl
        simp at noBar
      rw [colon]
      rfl
  · rfl

/-- A segment that is kept and is not made of dots is added in full.  If it is the first in a
path to files it must not name a drive. -/
theorem push_of_kept (noDots : segment ≠ ['.'] ∧ segment ≠ ['.', '.'])
    (full : kept segment = segment) (noBar : '|' ∉ segment) :
    push scheme list segment = opened list ++ [encode (segmentSet scheme) segment] := by
  have written : '|' ∉ encode (segmentSet scheme) segment :=
    fun mem => noBar (mem_of_mem_encode (by decide) mem).1
  rw [push_eq, full, if_neg (not_or.mpr noDots), if_neg noDots.2, if_neg noDots.1]
  split
  · rename_i first
    have empty : opened list = [] := by simpa using (Bool.and_eq_true_iff.mp first).2
    rw [drive_eq_self written, empty]
    rfl
  · rfl

end Path

end Polyquery.Url
