import Polyquery.Url.Percent

/-!
# Decoding what was encoded

A text that is encoded is what decoding gives back, whichever characters are replaced, as
long as the percent sign is one of them.
-/

namespace Polyquery.Url

variable {set : CharSet} {text other : List Char}

theorem hexValue?_hexDigit {n : Nat} (small : n < 16) : hexValue? (hexDigit n) = some n := by
  revert n
  decide

theorem decodeBytes_nil : decodeBytes [] = [] := by
  rw [decodeBytes]

/-- An encoded byte is one byte. -/
theorem decodeBytes_encodeByte_append (byte : UInt8) (rest : List Char) :
    decodeBytes (encodeByte byte ++ rest) = byte :: decodeBytes rest := by
  have below : byte.toNat < 256 := byte.toNat_lt
  have high := hexValue?_hexDigit (n := byte.toNat / 16) (by omega)
  have low := hexValue?_hexDigit (n := byte.toNat % 16) (by omega)
  rw [encodeByte, List.cons_append, List.cons_append, List.cons_append, List.nil_append,
    decodeBytes, high, low]
  simp only [Nat.div_add_mod, UInt8.ofNat_toNat]

theorem decodeBytes_flatMap_encodeByte_append (bytes : List UInt8) (rest : List Char) :
    decodeBytes (bytes.flatMap encodeByte ++ rest) = bytes ++ decodeBytes rest := by
  induction bytes with
  | nil => rfl
  | cons byte others ih =>
      rw [List.flatMap_cons, List.append_assoc, decodeBytes_encodeByte_append, ih, List.cons_append]

/-- A character that begins no encoded byte stands for itself. -/
theorem decodeBytes_cons_of_ne {c : Char} (plain : c ≠ '%') (rest : List Char) :
    decodeBytes (c :: rest) = String.utf8EncodeChar c ++ decodeBytes rest := by
  rw [decodeBytes]
  intro high low more begins
  cases begins
  exact absurd rfl plain

theorem decodeBytes_encodeChar_append (marked : set '%' = true) (c : Char) (rest : List Char) :
    decodeBytes (encodeChar set c ++ rest) = String.utf8EncodeChar c ++ decodeBytes rest := by
  by_cases replaced : set c = true
  · rw [encodeChar, if_pos replaced, decodeBytes_flatMap_encodeByte_append]
  · have plain : c ≠ '%' := by
      rintro rfl
      exact replaced marked
    rw [encodeChar, if_neg replaced]
    exact decodeBytes_cons_of_ne plain rest

/-- The bytes of an encoded text are those of the text. -/
theorem decodeBytes_encode (marked : set '%' = true) (text : List Char) :
    decodeBytes (encode set text) = text.flatMap String.utf8EncodeChar := by
  induction text with
  | nil => exact decodeBytes_nil
  | cons c rest ih =>
      rw [encode, List.flatMap_cons, decodeBytes_encodeChar_append marked, List.flatMap_cons, ← ih]
      rfl

/-- Decoding gives back what was encoded. -/
theorem decode?_encode (marked : set '%' = true) (text : List Char) :
    decode? (encode set text) = some text := by
  have bytes : (text.flatMap String.utf8EncodeChar).toByteArray = text.utf8Encode := rfl
  rw [decode?, decodeBytes_encode marked, bytes, String.fromUTF8?,
    dif_pos ByteArray.isValidUTF8_utf8Encode, Option.map_some]
  congr 1
  exact String.toList_ofList

/-- Different texts are written differently. -/
theorem encode_inj (marked : set '%' = true) :
    encode set text = encode set other ↔ text = other := by
  constructor
  · intro same
    have decoded := congrArg decode? same
    rw [decode?_encode marked, decode?_encode marked] at decoded
    exact Option.some.inj decoded
  · exact congrArg (encode set)

/-- Characters that are not replaced stay. -/
theorem encode_eq_self (kept : ∀ c ∈ text, set c = false) : encode set text = text := by
  induction text with
  | nil => rfl
  | cons c rest ih =>
      obtain ⟨first, others⟩ := List.forall_mem_cons.mp kept
      have here : encodeChar set c = [c] := by simp [encodeChar, first]
      rw [encode, List.flatMap_cons, here]
      exact congrArg (c :: ·) (ih others)

end Polyquery.Url
