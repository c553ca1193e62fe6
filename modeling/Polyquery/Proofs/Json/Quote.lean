import Mathlib.Tactic.SplitIfs
import Polyquery.Json.Printer

/-!
# Quoted strings

The escape of a character begins with no quotation mark, and no escape begins
another one.  So the closing mark of a quoted string is the first mark outside
the escapes, and the string can be told from what follows it.
-/

namespace Polyquery.Json

/-- The letters and signs that stand after a backslash, with what they mean. -/
def escapeMarks : List (Char × Char) :=
  [('"', '"'), ('\\', '\\'), ('b', '\x08'), ('f', '\x0c'), ('n', '\n'), ('r', '\r'), ('t', '\t')]

/-- A character stands for itself, or after a backslash as a mark, or by its
number. -/
inductive Escaped (c : Char) : List Char → Prop where
  | plain (noQuote : c ≠ '"') (noBackslash : c ≠ '\\') : Escaped c [c]
  | mark (sign : Char) (meant : (sign, c) ∈ escapeMarks) : Escaped c ['\\', sign]
  | number (small : c.toNat < 32) :
      Escaped c ['\\', 'u', '0', '0', hexDigit (c.toNat / 16), hexDigit (c.toNat % 16)]

theorem escaped_escapeChar (c : Char) : Escaped c (escapeChar c) := by
  unfold escapeChar
  split_ifs with quote backslash _ _ _ _ _ small
  · exact .mark '"' (by simp [escapeMarks, quote])
  · exact .mark '\\' (by simp [escapeMarks, backslash])
  · exact .mark 'b' (by simp [escapeMarks, *])
  · exact .mark 'f' (by simp [escapeMarks, *])
  · exact .mark 'n' (by simp [escapeMarks, *])
  · exact .mark 'r' (by simp [escapeMarks, *])
  · exact .mark 't' (by simp [escapeMarks, *])
  · exact .number small
  · exact .plain quote backslash

theorem hexDigit_injective {m n : Nat} (small : m < 16) (small' : n < 16)
    (same : hexDigit m = hexDigit n) : m = n := by
  have all : ∀ m < 16, ∀ n < 16, hexDigit m = hexDigit n → m = n := by decide
  exact all m small n small' same

theorem escapeMarks_functional {sign c d : Char} (first : (sign, c) ∈ escapeMarks)
    (second : (sign, d) ∈ escapeMarks) : c = d := by
  have all : ∀ e ∈ escapeMarks, ∀ f ∈ escapeMarks, e.1 = f.1 → e.2 = f.2 := by decide
  exact all _ first _ second rfl

theorem not_mem_escapeMarks (c : Char) : ('u', c) ∉ escapeMarks := by
  simp [escapeMarks]

/-- An escape can be told from what follows it. -/
theorem Escaped.append_inj {c d : Char} {escape escape' rest rest' : List Char}
    (first : Escaped c escape) (second : Escaped d escape')
    (same : escape ++ rest = escape' ++ rest') : c = d ∧ rest = rest' := by
  cases first with
  | plain _ noBackslash =>
      cases second with
      | plain => simpa using same
      | mark => exact absurd (List.cons.inj same).1 noBackslash
      | number => exact absurd (List.cons.inj same).1 noBackslash
  | mark sign meant =>
      cases second with
      | plain _ noBackslash => exact absurd (List.cons.inj same).1.symm noBackslash
      | mark sign' meant' =>
          obtain ⟨-, sameSign, sameRest⟩ : True ∧ sign = sign' ∧ rest = rest' := by simpa using same
          subst sameSign
          exact ⟨escapeMarks_functional meant meant', sameRest⟩
      | number =>
          obtain ⟨isU, -⟩ := List.cons.inj (List.cons.inj same).2
          subst isU
          exact absurd meant (not_mem_escapeMarks c)
  | number small =>
      cases second with
      | plain _ noBackslash => exact absurd (List.cons.inj same).1.symm noBackslash
      | mark sign' meant' =>
          obtain ⟨isU, -⟩ := List.cons.inj (List.cons.inj same).2
          subst isU
          exact absurd meant' (not_mem_escapeMarks d)
      | number small' =>
          simp only [List.cons_append, List.nil_append, List.cons.injEq, true_and] at same
          obtain ⟨high, low, sameRest⟩ := same
          have sameHigh := hexDigit_injective (by omega) (by omega) high
          have sameLow := hexDigit_injective (by omega) (by omega) low
          have sameNumber : c.toNat = d.toNat := by omega
          exact ⟨Char.toNat_inj.1 sameNumber, sameRest⟩

theorem Escaped.append_ne_quote {c : Char} {escape rest rest' : List Char}
    (escaped : Escaped c escape) : escape ++ rest ≠ '"' :: rest' := by
  cases escaped with
  | plain noQuote => simp [noQuote]
  | mark => simp
  | number => simp

/-- A quoted text can be told from what follows it. -/
theorem escapes_append_inj {text text' rest rest' : List Char}
    (same : text.flatMap escapeChar ++ '"' :: rest = text'.flatMap escapeChar ++ '"' :: rest') :
    text = text' ∧ rest = rest' := by
  induction text generalizing text' with
  | nil =>
      cases text' with
      | nil => simpa using same
      | cons d text' =>
          rw [List.flatMap_cons, List.append_assoc] at same
          exact absurd same.symm (escaped_escapeChar d).append_ne_quote
  | cons c text ih =>
      cases text' with
      | nil =>
          rw [List.flatMap_cons, List.append_assoc] at same
          exact absurd same (escaped_escapeChar c).append_ne_quote
      | cons d text' =>
          rw [List.flatMap_cons, List.flatMap_cons, List.append_assoc, List.append_assoc] at same
          obtain ⟨sameHead, sameTail⟩ :=
            (escaped_escapeChar c).append_inj (escaped_escapeChar d) same
          obtain ⟨sameText, sameRest⟩ := ih sameTail
          exact ⟨by rw [sameHead, sameText], sameRest⟩

/-- A quoted string can be told from what follows it. -/
theorem quote_append_inj {s t rest rest' : String} (same : quote s ++ rest = quote t ++ rest') :
    s = t ∧ rest = rest' := by
  have sameChars := congrArg String.toList same
  simp only [quote, String.toList_append, String.toList_ofList, List.append_assoc] at sameChars
  obtain ⟨sameText, sameRest⟩ := escapes_append_inj (List.append_cancel_left sameChars)
  exact ⟨String.toList_inj.1 sameText, String.toList_inj.1 sameRest⟩

end Polyquery.Json
