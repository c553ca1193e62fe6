import Mathlib.Algebra.Ring.Nat
import Mathlib.Data.List.Induction
import Polyquery.Url.Pieces

/-!
# Pieces and numbers that are written

A number is read back from its digits, and pieces without a mark from the text that has the mark
between them.
-/

namespace Polyquery.Url

variable {mark c : Char} {text rest : List Char} {base n : ℕ}

/-! ## Numbers -/

theorem hexValue?_digitChar (small : n < 16) : hexValue? n.digitChar = some n := by
  revert n
  decide

theorem number_append (base : ℕ) (text : List Char) (c : Char) :
    number base (text ++ [c]) = base * number base text + (hexValue? c).getD 0 := by
  simp [number]

/-- A number is what its digits stand for. -/
theorem number_toDigits (several : 1 < base) (hexadecimal : base ≤ 16) (n : ℕ) :
    number base (Nat.toDigits base n) = n := by
  induction n using Nat.strong_induction_on with
  | h n ih =>
    by_cases small : n < base
    · have value := hexValue?_digitChar (n := n) (by omega)
      rw [Nat.toDigits_of_lt_base small]
      simp [number, value]
    · have large : base ≤ n := Nat.le_of_not_lt small
      have last : n % base < base := Nat.mod_lt n (by omega)
      rw [Nat.toDigits_of_base_le several large, number_append,
        ih (n / base) (Nat.div_lt_self (by omega) several),
        hexValue?_digitChar (by omega), Option.getD_some, Nat.div_add_mod]

/-- What a number is written with are digits. -/
theorem exists_hexValue?_of_mem_toDigits (several : 1 < base) (hexadecimal : base ≤ 16)
    (mem : c ∈ Nat.toDigits base n) : ∃ k < base, hexValue? c = some k := by
  induction n using Nat.strong_induction_on with
  | h n ih =>
    by_cases small : n < base
    · rw [Nat.toDigits_of_lt_base small, List.mem_singleton] at mem
      exact ⟨n, small, mem ▸ hexValue?_digitChar (by omega)⟩
    · rw [Nat.toDigits_of_base_le several (Nat.le_of_not_lt small), List.mem_append,
        List.mem_singleton] at mem
      have last : n % base < base := Nat.mod_lt n (by omega)
      rcases mem with front | rfl
      · exact ih (n / base) (Nat.div_lt_self (by omega) several) front
      · exact ⟨n % base, last, hexValue?_digitChar (by omega)⟩

theorem number_lt (digits : ∀ c ∈ text, ∃ k < base, hexValue? c = some k) :
    number base text < base ^ text.length := by
  induction text using List.reverseRecOn with
  | nil => simp [number]
  | append_singleton front c ih =>
      obtain ⟨k, small, value⟩ := digits c (by simp)
      have less := ih fun d mem => digits d (by simp [mem])
      rw [number_append, value, Option.getD_some, List.length_append, List.length_singleton,
        Nat.pow_succ]
      have step : base * (number base front + 1) ≤ base * base ^ front.length :=
        Nat.mul_le_mul_left base less
      rw [Nat.mul_add, Nat.mul_one] at step
      rw [Nat.mul_comm (base ^ front.length)]
      omega

/-! ## Pieces -/

theorem pieces_ne_nil (mark : Char) (text : List Char) : pieces mark text ≠ [] := by
  cases text with
  | nil => exact List.cons_ne_nil _ _
  | cons c rest =>
      rw [pieces]
      split
      · exact List.cons_ne_nil _ _
      · split <;> exact List.cons_ne_nil _ _

theorem pieces_of_notMem (free : mark ∉ text) : pieces mark text = [text] := by
  induction text with
  | nil => rfl
  | cons c rest ih =>
      obtain ⟨here, later⟩ := not_or.mp (List.mem_cons.not.mp free)
      rw [pieces, if_neg (Ne.symm here), ih later]

theorem pieces_append (free : mark ∉ text) :
    pieces mark (text ++ mark :: rest) = text :: pieces mark rest := by
  induction text with
  | nil => rw [List.nil_append, pieces, if_pos rfl]
  | cons c front ih =>
      obtain ⟨here, later⟩ := not_or.mp (List.mem_cons.not.mp free)
      rw [List.cons_append, pieces, if_neg (Ne.symm here), ih later]

/-- Pieces are read back from the text that they make up. -/
theorem pieces_intercalate {parts : List (List Char)} (some : parts ≠ [])
    (free : ∀ part ∈ parts, mark ∉ part) : pieces mark (List.intercalate [mark] parts) = parts := by
  induction parts with
  | nil => exact absurd rfl some
  | cons part others ih =>
      obtain ⟨here, later⟩ := List.forall_mem_cons.mp free
      cases others with
      | nil => rw [List.intercalate_singleton, pieces_of_notMem here]
      | cons next more =>
          rw [List.intercalate_cons_cons, List.append_assoc, List.singleton_append,
            pieces_append here, ih (List.cons_ne_nil _ _) later]

/-- A character of a text is the mark or in a piece. -/
theorem exists_mem_pieces (mark : Char) (mem : c ∈ text) :
    c = mark ∨ ∃ piece ∈ pieces mark text, c ∈ piece := by
  induction text with
  | nil => cases mem
  | cons d rest ih =>
      rw [pieces]
      split
      · rename_i isMark
        rcases List.mem_cons.mp mem with rfl | later
        · exact .inl isMark
        · exact (ih later).imp_right fun ⟨piece, inPieces, inPiece⟩ =>
            ⟨piece, List.mem_cons_of_mem _ inPieces, inPiece⟩
      · split
        · rename_i none
          exact absurd none (pieces_ne_nil mark rest)
        · rename_i first others same
          rcases List.mem_cons.mp mem with rfl | later
          · exact .inr ⟨c :: first, List.mem_cons_self, List.mem_cons_self⟩
          · refine (ih later).imp_right fun ⟨piece, inPieces, inPiece⟩ => ?_
            rw [same] at inPieces
            rcases List.mem_cons.mp inPieces with rfl | inOthers
            · exact ⟨d :: piece, List.mem_cons_self, List.mem_cons_of_mem _ inPiece⟩
            · exact ⟨piece, List.mem_cons_of_mem _ inOthers, inPiece⟩

end Polyquery.Url
