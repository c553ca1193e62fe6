import Polyquery.Proofs.Url.Percent

/-!
# Escapes in what is encoded

Where the percent sign is not replaced, an encoded text is decoded to another one if it has an
escape of its own, and only then.
-/

namespace Polyquery.Url

variable {set : CharSet} {text rest : List Char} {c : Char}

/-- Somewhere a percent sign has two hexadecimal digits behind it. -/
inductive HasEscape : List Char → Prop
  | here {high low : Char} {rest : List Char} (highDigit : (hexValue? high).isSome)
      (lowDigit : (hexValue? low).isSome) : HasEscape ('%' :: high :: low :: rest)
  | later {c : Char} {rest : List Char} (inRest : HasEscape rest) : HasEscape (c :: rest)

/-- The percent sign and the hexadecimal digits are not replaced. -/
structure KeepsEscapes (set : CharSet) : Prop where
  percent : set '%' = false
  digits : ∀ c, (hexValue? c).isSome → set c = false

theorem percent_of_encodeChar (replaced : set c = true) :
    ∃ more, encodeChar set c = '%' :: more := by
  rw [encodeChar, if_pos replaced]
  obtain ⟨byte, bytes, some⟩ := List.exists_cons_of_ne_nil (String.utf8EncodeChar_ne_nil (c := c))
  rw [some, List.flatMap_cons]
  exact ⟨_, rfl⟩

/-- A hexadecimal digit in front of an encoded text was in front of the text. -/
theorem exists_of_encode_eq_cons {digit : Char} {more : List Char}
    (isDigit : (hexValue? digit).isSome) (begins : encode set text = digit :: more) :
    ∃ rest, text = digit :: rest ∧ more = encode set rest := by
  cases text with
  | nil => cases begins
  | cons c rest =>
      rw [encode, List.flatMap_cons] at begins
      by_cases replaced : set c = true
      · obtain ⟨others, percent⟩ := percent_of_encodeChar replaced
        rw [percent] at begins
        rw [← (List.cons.inj begins).1] at isDigit
        cases isDigit
      · rw [encodeChar, if_neg replaced] at begins
        obtain ⟨rfl, rfl⟩ := List.cons.inj begins
        exact ⟨rest, rfl, rfl⟩

/-- A character that begins no escape is decoded to itself. -/
theorem decodeBytes_encode_cons
    (noEscape : ∀ high low more, c = '%' → rest = high :: low :: more →
      (hexValue? high).isSome → ¬ (hexValue? low).isSome) :
    decodeBytes (encode set (c :: rest)) =
      String.utf8EncodeChar c ++ decodeBytes (encode set rest) := by
  have whole : encode set (c :: rest) = encodeChar set c ++ encode set rest := rfl
  by_cases replaced : set c = true
  · rw [whole, encodeChar, if_pos replaced, decodeBytes_flatMap_encodeByte_append]
  rw [whole, encodeChar, if_neg replaced, List.singleton_append]
  by_cases plain : c = '%'
  · subst plain
    rcases begins : encode set rest with _ | ⟨high, _ | ⟨low, more⟩⟩
    · rw [decodeBytes]
      simp
    · rw [decodeBytes]
      simp
    · rw [decodeBytes]
      split
      · rename_i _ _ highValue lowValue
        have highDigit : (hexValue? high).isSome := by simp [highValue]
        have lowDigit : (hexValue? low).isSome := by simp [lowValue]
        obtain ⟨rest', rfl, begins'⟩ := exists_of_encode_eq_cons highDigit begins
        obtain ⟨rest'', rfl, -⟩ := exists_of_encode_eq_cons lowDigit begins'.symm
        exact absurd lowDigit (noEscape high low rest'' rfl rfl highDigit)
      · rfl
  · exact decodeBytes_cons_of_ne plain _

theorem length_utf8EncodeChar_pos (c : Char) : 0 < (String.utf8EncodeChar c).length :=
  List.length_pos_iff.mpr String.utf8EncodeChar_ne_nil

/-- An encoded text is decoded to its own bytes, or to fewer if it has an escape. -/
theorem decodeBytes_encode_cases (keeps : KeepsEscapes set) (text : List Char) :
    (¬ HasEscape text ∧ decodeBytes (encode set text) = text.flatMap String.utf8EncodeChar) ∨
      (HasEscape text ∧ (decodeBytes (encode set text)).length <
        (text.flatMap String.utf8EncodeChar).length) := by
  match text with
  | [] => exact .inl ⟨nofun, decodeBytes_nil⟩
  | c :: rest =>
    by_cases escape : ∃ high low more, c = '%' ∧ rest = high :: low :: more ∧
        (hexValue? high).isSome ∧ (hexValue? low).isSome
    · obtain ⟨high, low, more, rfl, rfl, highDigit, lowDigit⟩ := escape
      obtain ⟨highValue, isHigh⟩ := Option.isSome_iff_exists.mp highDigit
      obtain ⟨lowValue, isLow⟩ := Option.isSome_iff_exists.mp lowDigit
      have written : encode set ('%' :: high :: low :: more) =
          '%' :: high :: low :: encode set more := by
        simp [encode, encodeChar, keeps.percent, keeps.digits high highDigit,
          keeps.digits low lowDigit]
      have fewer : (decodeBytes (encode set more)).length ≤
          (more.flatMap String.utf8EncodeChar).length := by
        rcases decodeBytes_encode_cases keeps more with ⟨-, same⟩ | ⟨-, less⟩
        · exact Nat.le_of_eq (congrArg List.length same)
        · exact Nat.le_of_lt less
      have first := length_utf8EncodeChar_pos '%'
      have second := length_utf8EncodeChar_pos high
      refine .inr ⟨.here highDigit lowDigit, ?_⟩
      rw [written, decodeBytes, isHigh, isLow]
      simp only [List.length_cons, List.flatMap_cons, List.length_append]
      omega
    · have begins : ∀ high low more, c = '%' → rest = high :: low :: more →
          (hexValue? high).isSome → ¬ (hexValue? low).isSome :=
        fun high low more percent same highDigit lowDigit =>
          escape ⟨high, low, more, percent, same, highDigit, lowDigit⟩
      rw [decodeBytes_encode_cons begins, List.flatMap_cons, List.length_append,
        List.length_append]
      rcases decodeBytes_encode_cases keeps rest with ⟨none, same⟩ | ⟨some, less⟩
      · refine .inl ⟨fun has => ?_, by rw [same]⟩
        cases has with
        | here highDigit lowDigit => exact begins _ _ _ rfl rfl highDigit lowDigit
        | later inRest => exact none inRest
      · exact .inr ⟨.later some, by omega⟩
termination_by text.length

/-- Exactly the texts without escapes are read back. -/
theorem decode?_encode_iff (keeps : KeepsEscapes set) :
    decode? (encode set text) = some text ↔ ¬ HasEscape text := by
  have bytes : (text.flatMap String.utf8EncodeChar).toByteArray = text.utf8Encode := rfl
  rcases decodeBytes_encode_cases keeps text with ⟨none, same⟩ | ⟨some, less⟩
  · refine iff_of_true ?_ none
    rw [decode?, same, bytes, String.fromUTF8?, dif_pos ByteArray.isValidUTF8_utf8Encode,
      Option.map_some]
    exact congrArg Option.some String.toList_ofList
  · refine iff_of_false (fun decoded => ?_) (not_not_intro some)
    rw [decode?, String.fromUTF8?] at decoded
    split at decoded
    · have whole := congrArg String.ofList (Option.some.inj decoded)
      rw [String.ofList_toList] at whole
      have sizes : (decodeBytes (encode set text)).toByteArray.size = text.utf8Encode.size :=
        congrArg (fun s => s.toByteArray.size) whole
      rw [← bytes, List.size_toByteArray, List.size_toByteArray] at sizes
      omega
    · cases decoded

end Polyquery.Url
