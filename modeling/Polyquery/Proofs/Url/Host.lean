import Mathlib
import Polyquery.Proofs.Url.Path
import Polyquery.Proofs.Url.Pieces
import Polyquery.Url.Host

/-!
# Hosts that are written

A host of a scheme that is none of the web is a name or an address in brackets.  What is written
for it is read back as the same host, also where zeros of an address are left out.
-/

namespace Polyquery.Host

open Url (pieces number hexValue? encode CharSet)

variable {text rest before after : List Char} {c : Char} {group length start : ℕ}
  {groups left right : List ℕ} {host : Host}

/-! ## Groups of addresses -/

/-- What addresses in brackets are written with. -/
def InAddress (c : Char) : Prop :=
  (∃ k < 16, hexValue? c = some k) ∨ c = ':' ∨ c = '.'

/-- A text is written with such characters, and stands for groups of 16 bits. -/
structure Reads (text : List Char) (groups : List ℕ) : Prop where
  ordinary : ∀ c ∈ text, InAddress c
  small : ∀ group ∈ groups, group < 65536

theorem exists_hexValue?_of_allDigits {base : ℕ} (digits : allDigits base text = true) :
    ∀ c ∈ text, ∃ k < base, hexValue? c = some k := by
  intro c mem
  have digit := List.all_eq_true.mp digits c mem
  cases value : hexValue? c with
  | none => simp [value] at digit
  | some k => exact ⟨k, by simpa [value] using digit, rfl⟩

theorem of_group? (read : group? text = some group) : Reads text [group] := by
  rw [group?] at read
  split at read
  · rename_i fits
    simp only [Bool.and_eq_true, decide_eq_true_eq] at fits
    obtain ⟨⟨-, short⟩, digits⟩ := fits
    have digits := exists_hexValue?_of_allDigits digits
    refine ⟨fun c mem => .inl (digits c mem), List.forall_mem_singleton.mpr ?_⟩
    calc group = number 16 text := (Option.some.inj read).symm
      _ < 16 ^ text.length := Url.number_lt digits
      _ ≤ 16 ^ 4 := Nat.pow_le_pow_right (by decide) short
      _ = 65536 := by decide
  · cases read

/-- What holds of every step of a list holds of all items and results. -/
theorem forall_of_mapM {α β : Type} {f : α → Option β} {items : List α} {results : List β}
    (before : α → Prop) (after : β → Prop)
    (step : ∀ item result, f item = some result → before item ∧ after result)
    (each : items.mapM f = some results) :
    (∀ item ∈ items, before item) ∧ ∀ result ∈ results, after result := by
  induction items generalizing results with
  | nil =>
      cases each
      exact ⟨nofun, nofun⟩
  | cons item rest ih =>
      simp only [List.mapM_cons, Option.bind_eq_bind, Option.bind_eq_some_iff, Option.pure_def,
        Option.some.injEq] at each
      obtain ⟨result, read, results, more, rfl⟩ := each
      obtain ⟨here, there⟩ := step item result read
      obtain ⟨items, results⟩ := ih more
      exact ⟨List.forall_mem_cons.mpr ⟨here, items⟩, List.forall_mem_cons.mpr ⟨there, results⟩⟩

theorem inAddress_of_pieces {mark : Char} (isMark : InAddress mark)
    (each : ∀ piece ∈ pieces mark text, ∀ c ∈ piece, InAddress c) : ∀ c ∈ text, InAddress c := by
  intro c mem
  rcases Url.exists_mem_pieces mark mem with rfl | ⟨piece, inPieces, inPiece⟩
  · exact isMark
  · exact each piece inPieces c inPiece

theorem of_dotted? (read : dotted? text = some groups) : Reads text groups := by
  rw [dotted?] at read
  split at read
  · rename_i a b c d parts
    obtain ⟨ordinary, small⟩ := forall_of_mapM (fun part => ∀ c ∈ part, InAddress c)
      (fun n => n ≤ 255) (fun part n number => by
        split at number
        · rename_i fits
          simp only [Bool.and_eq_true, decide_eq_true_eq] at fits
          obtain ⟨⟨⟨-, digits⟩, small⟩, -⟩ := fits
          refine ⟨fun c mem => .inl ?_, Option.some.inj number ▸ small⟩
          obtain ⟨k, less, value⟩ := exists_hexValue?_of_allDigits digits c mem
          exact ⟨k, by omega, value⟩
        · cases number) parts
    refine ⟨inAddress_of_pieces (.inr (.inr rfl)) ordinary, ?_⟩
    cases read
    simp only [List.forall_mem_cons] at small ⊢
    obtain ⟨a, b, c, d, -⟩ := small
    exact ⟨by omega, by omega, nofun⟩
  · cases read

theorem of_groups? {parts : List (List Char)} (read : groups? parts = some groups) :
    (∀ part ∈ parts, ∀ c ∈ part, InAddress c) ∧ ∀ group ∈ groups, group < 65536 := by
  fun_induction groups? parts generalizing groups with
  | case1 =>
      cases read
      exact ⟨nofun, nofun⟩
  | case2 last =>
      have reads : Reads last groups := by
        rcases (Option.orElse_eq_some _ _ _).mp read with one | ⟨-, dotted⟩
        · obtain ⟨group, single, rfl⟩ := Option.map_eq_some_iff.mp one
          exact of_group? single
        · exact of_dotted? dotted
      exact ⟨List.forall_mem_singleton.mpr reads.ordinary, reads.small⟩
  | case3 first rest _ ih =>
      simp only [Option.bind_eq_bind, Option.bind_eq_some_iff, Option.pure_def,
        Option.some.injEq] at read
      obtain ⟨group, one, groups, more, rfl⟩ := read
      have reads := of_group? one
      obtain ⟨ordinary, small⟩ := ih more
      exact ⟨List.forall_mem_cons.mpr ⟨reads.ordinary, ordinary⟩,
        List.forall_mem_cons.mpr ⟨reads.small _ List.mem_cons_self, small⟩⟩

theorem of_side? (read : side? text = some groups) : Reads text groups := by
  rw [side?] at read
  split at read
  · rename_i empty
    cases read
    rw [List.isEmpty_iff] at empty
    exact ⟨empty ▸ nofun, nofun⟩
  · obtain ⟨ordinary, small⟩ := of_groups? read
    exact ⟨inAddress_of_pieces (.inr (.inl rfl)) ordinary, small⟩

/-- A text is put together again from the parts before and after its gap. -/
theorem eq_of_splitGap (text : List Char) :
    match splitGap text with
    | (all, none) => text = all
    | (before, some after) => text = before ++ ':' :: ':' :: after := by
  fun_induction splitGap text with
  | case1 rest => rfl
  | case2 c rest _ ih =>
      cases gap : splitGap rest with
      | mk before after =>
          rw [gap] at ih
          cases after with
          | none => exact congrArg (c :: ·) ih
          | some after => exact congrArg (c :: ·) ih
  | case3 => rfl

/-- An address has eight groups. -/
theorem of_ipv6? (read : ipv6? text = some groups) : Reads text groups ∧ groups.length = 8 := by
  have whole := eq_of_splitGap text
  rw [ipv6?] at read
  split at read
  · rename_i all gap
    rw [gap] at whole
    simp only [Option.bind_eq_bind, Option.bind_eq_some_iff] at read
    obtain ⟨all, reads, read⟩ := read
    split at read
    · rename_i eight
      cases read
      exact ⟨whole ▸ of_side? reads, eight⟩
    · cases read
  · rename_i before after gap
    rw [gap] at whole
    split at read
    · cases read
    simp only [Option.bind_eq_bind, Option.bind_eq_some_iff] at read
    obtain ⟨left, reads, right, reads', read⟩ := read
    split at read
    · rename_i few
      cases read
      have first := of_side? reads
      have second := of_side? reads'
      refine ⟨⟨?_, ?_⟩, ?_⟩
      · rw [whole]
        simp only [List.forall_mem_append, List.forall_mem_cons]
        exact ⟨first.ordinary, .inr (.inl rfl), .inr (.inl rfl), second.ordinary⟩
      · simp only [List.forall_mem_append]
        refine ⟨⟨first.small, fun group mem => ?_⟩, second.small⟩
        rw [List.eq_of_mem_replicate mem]
        decide
      · simp only [List.length_append, List.length_replicate]
        omega
    · cases read

/-! ## Written addresses -/

theorem colon_notMem_hexText (group : ℕ) : ':' ∉ hexText group := by
  intro mem
  obtain ⟨k, -, value⟩ := Url.exists_hexValue?_of_mem_toDigits (by decide) (by decide) mem
  cases value

theorem group?_hexText (small : group < 65536) : group? (hexText group) = some group := by
  have digits : allDigits 16 (hexText group) = true := by
    refine List.all_eq_true.mpr fun c mem => ?_
    obtain ⟨k, less, value⟩ := Url.exists_hexValue?_of_mem_toDigits (by decide) (by decide) mem
    simp [value, less]
  have short : (hexText group).length ≤ 4 :=
    (Nat.length_toDigits_le_iff (by decide) (by decide)).mpr small
  have some : (hexText group).isEmpty = false :=
    List.isEmpty_eq_false_iff.mpr Nat.toDigits_ne_nil
  rw [group?, some, digits, decide_eq_true short, hexText,
    Url.number_toDigits (by decide) (by decide)]
  rfl

theorem groups?_hexText (small : ∀ group ∈ groups, group < 65536) :
    groups? (groups.map hexText) = some groups := by
  induction groups with
  | nil => rfl
  | cons group rest ih =>
      obtain ⟨here, there⟩ := List.forall_mem_cons.mp small
      cases rest with
      | nil =>
          rw [List.map_singleton, groups?, group?_hexText here]
          rfl
      | cons next more =>
          rw [List.map_cons, List.map_cons, groups?, group?_hexText here, ← List.map_cons, ih there]
          · rfl
          · exact List.cons_ne_nil _ _

theorem joined_cons (group next : ℕ) (rest : List ℕ) :
    joined (group :: next :: rest) = hexText group ++ ':' :: joined (next :: rest) := by
  rw [joined, List.map_cons, List.map_cons, List.intercalate_cons_cons, List.append_assoc]
  rfl

/-- Some groups begin with a digit. -/
theorem exists_joined_eq_cons (some : groups ≠ []) :
    ∃ c rest, joined groups = c :: rest ∧ c ≠ ':' := by
  match groups, some with
  | group :: rest, _ =>
    obtain ⟨c, digits, written⟩ := List.exists_cons_of_ne_nil
      (Nat.toDigits_ne_nil (n := group) (b := 16))
    have other : c ≠ ':' := by
      rintro rfl
      apply colon_notMem_hexText group
      rw [hexText, written]
      exact List.mem_cons_self
    cases rest with
    | nil =>
        rw [joined, List.map_singleton, List.intercalate_singleton]
        exact ⟨c, digits, written, other⟩
    | cons next more =>
        rw [joined_cons, hexText, written]
        exact ⟨c, _, rfl, other⟩

theorem side?_joined (small : ∀ group ∈ groups, group < 65536) :
    side? (joined groups) = some groups := by
  by_cases empty : groups = []
  · subst empty
    rfl
  · have some : (joined groups).isEmpty = false :=
      let ⟨_, _, begins, _⟩ := exists_joined_eq_cons empty
      begins ▸ rfl
    rw [side?, some, joined, Url.pieces_intercalate (by simpa using empty)
      (by simpa using fun group _ => colon_notMem_hexText group)]
    exact groups?_hexText small

theorem splitGap_append (free : ':' ∉ text) (rest : List Char) :
    splitGap (text ++ rest) = (text ++ (splitGap rest).1, (splitGap rest).2) := by
  induction text with
  | nil => rfl
  | cons c front ih =>
      obtain ⟨here, there⟩ := not_or.mp (List.mem_cons.not.mp free)
      rw [List.cons_append, splitGap, ih there]
      · rfl
      · exact fun more same _ => here same.symm

theorem splitGap_colon (other : c ≠ ':') (rest : List Char) :
    splitGap (':' :: c :: rest) =
      (':' :: (splitGap (c :: rest)).1, (splitGap (c :: rest)).2) := by
  rw [splitGap]
  exact fun more _ same => other (List.cons.inj same).1

/-- Groups have no gap, neither alone nor in front of one. -/
theorem splitGap_joined (groups : List ℕ) :
    (∀ rest, splitGap (joined groups ++ ':' :: ':' :: rest) = (joined groups, some rest)) ∧
      splitGap (joined groups) = (joined groups, none) := by
  induction groups with
  | nil => exact ⟨fun _ => rfl, rfl⟩
  | cons group rest ih =>
      cases rest with
      | nil =>
          have single : joined [group] = hexText group := by
            rw [joined, List.map_singleton, List.intercalate_singleton]
          have alone := splitGap_append (colon_notMem_hexText group) []
          rw [List.append_nil] at alone
          refine ⟨fun rest => ?_, by rw [single, alone]; simp [splitGap]⟩
          rw [single, splitGap_append (colon_notMem_hexText group)]
          simp [splitGap]
      | cons next more =>
          obtain ⟨c, others, begins, other⟩ := exists_joined_eq_cons (List.cons_ne_nil next more)
          rw [begins] at ih
          refine ⟨fun rest => ?_, ?_⟩
          · rw [joined_cons, begins, List.append_assoc,
              splitGap_append (colon_notMem_hexText group), List.cons_append, List.cons_append,
              splitGap_colon other, ← List.cons_append, ih.1]
          · rw [joined_cons, begins, splitGap_append (colon_notMem_hexText group),
              splitGap_colon other, ih.2]

/-! ## Zeros that are left out -/

theorem take_zeros (groups : List ℕ) :
    groups.take (zeros groups) = List.replicate (zeros groups) 0 := by
  induction groups with
  | nil => rfl
  | cons group rest ih =>
      by_cases zero : group = 0
      · have more : zeros (group :: rest) = zeros rest + 1 := by simp [zeros, zero]
        rw [more, List.take_succ_cons, ih, List.replicate_succ, zero]
      · have none : zeros (group :: rest) = 0 := by simp [zeros, zero]
        rw [none]
        rfl

/-- What is left out are at least two zeros. -/
theorem of_longestGap (found : longestGap groups = some (start, length)) :
    2 ≤ length ∧ length = zeros (groups.drop start) := by
  have step (places : List ℕ) (best : Option (ℕ × ℕ))
      (known : ∀ i n, best = some (i, n) → 2 ≤ n ∧ n = zeros (groups.drop i)) :
      ∀ i n, places.foldl (fun best i =>
        let length := zeros (groups.drop i)
        if 2 ≤ length && (best.map Prod.snd).all (· < length) then some (i, length) else best)
        best = some (i, n) → 2 ≤ n ∧ n = zeros (groups.drop i) := by
    induction places generalizing best with
    | nil => exact known
    | cons place rest ih =>
        rw [List.foldl_cons]
        refine ih _ fun i n held => ?_
        dsimp only at held
        split at held
        · rename_i longer
          cases held
          simp only [Bool.and_eq_true, decide_eq_true_eq] at longer
          exact ⟨longer.1, rfl⟩
        · exact known i n held
  exact step _ none nofun _ _ found

/-- The groups of an address around the zeros that are left out. -/
theorem eq_around_gap (found : longestGap groups = some (start, length)) :
    groups = groups.take start ++ List.replicate length 0 ++ groups.drop (start + length) := by
  obtain ⟨-, isZeros⟩ := of_longestGap found
  have middle : (groups.drop start).take length = List.replicate length 0 := by
    rw [isZeros, take_zeros]
  rw [← middle, List.append_assoc, ← List.drop_drop, List.take_append_drop, List.take_append_drop]

/-- The text of an address between the brackets. -/
def inner (groups : List ℕ) : List Char :=
  match longestGap groups with
  | none => joined groups
  | some (start, length) =>
    joined (groups.take start) ++ ':' :: ':' :: joined (groups.drop (start + length))

theorem write_ipv6 (groups : List ℕ) : write (.ipv6 groups) = '[' :: inner groups ++ [']'] := by
  rw [write, inner]
  cases longestGap groups with
  | none => rfl
  | some gap => simp

theorem dot_notMem_joined (groups : List ℕ) : '.' ∉ joined groups := by
  have digits (group : ℕ) : '.' ∉ hexText group := by
    intro mem
    obtain ⟨k, -, value⟩ := Url.exists_hexValue?_of_mem_toDigits (by decide) (by decide) mem
    cases value
  induction groups with
  | nil => exact List.not_mem_nil
  | cons group rest ih =>
      cases rest with
      | nil =>
          rw [joined, List.map_singleton, List.intercalate_singleton]
          exact digits group
      | cons next more =>
          rw [joined_cons, List.mem_append, List.mem_cons]
          rintro (here | colon | there)
          · exact digits group here
          · cases colon
          · exact ih there

/-- An address is read back. -/
theorem ipv6?_inner (eight : groups.length = 8) (small : ∀ group ∈ groups, group < 65536) :
    ipv6? (inner groups) = some groups := by
  rw [inner]
  cases found : longestGap groups with
  | none =>
      dsimp only
      rw [ipv6?, (splitGap_joined groups).2]
      dsimp only
      rw [side?_joined small, Option.bind_eq_bind, Option.bind_some, if_pos eight]
  | some gap =>
      obtain ⟨start, length⟩ := gap
      have around := eq_around_gap found
      obtain ⟨two, -⟩ := of_longestGap found
      have lengths := congrArg List.length around
      simp only [List.length_append, List.length_replicate, eight] at lengths
      dsimp only
      rw [ipv6?, (splitGap_joined _).1]
      dsimp only
      rw [if_neg (by simpa using dot_notMem_joined _),
        side?_joined fun group mem => small group (List.mem_of_mem_take mem),
        side?_joined fun group mem => small group (List.mem_of_mem_drop mem)]
      simp only [Option.bind_eq_bind, Option.bind_some]
      rw [if_pos (by omega)]
      have gap :
          8 - (groups.take start).length - (groups.drop (start + length)).length = length := by
        omega
      rw [gap, ← around]

/-! ## Hosts -/

/-- A text stands for a host: it is a name without forbidden characters, or an address in
brackets. -/
inductive Written : List Char → Host → Prop
  | name {text : List Char} (free : ∀ c ∈ text, forbidden c = false) :
      Written text (.name (encode CharSet.controls text))
  | address {body : List Char} {groups : List ℕ} (read : ipv6? body = some groups) :
      Written ('[' :: body ++ [']']) (.ipv6 groups)

theorem ofText_of_free (free : ∀ c ∈ text, forbidden c = false) :
    ofText text = .ok (.name (encode CharSet.controls text)) := by
  have none : text.any forbidden = false := List.any_eq_false.mpr (by simpa using free)
  unfold ofText
  split
  · have bracket := free '[' List.mem_cons_self
    exact absurd bracket (by decide)
  · rw [none]
    rfl

theorem ofText_eq_ok_iff : ofText text = .ok host ↔ Written text host := by
  constructor
  · intro read
    unfold ofText at read
    split at read
    · rename_i bracketed
      rw [ofBrackets] at read
      split at read
      · rename_i groups last reads
        cases read
        have whole := List.dropLast_append_getLast? ']' last
        rw [← whole, ← List.cons_append]
        exact .address reads
      · cases read
    · split at read
      · cases read
      · rename_i none
        cases read
        exact .name (by simpa using none)
  · rintro (free | @⟨body, groups, read⟩)
    · exact ofText_of_free free
    · rw [List.cons_append, ofText, ofBrackets, List.getLast?_concat, List.dropLast_concat, read]
      rfl

/-- Hosts of version 4 do not occur. -/
theorem Written.ofText_write (written : Written text host) : ofText host.write = .ok host := by
  cases written with
  | name free =>
      have kept : ∀ c ∈ encode CharSet.controls text, forbidden c = false ∧
          CharSet.controls c = false := by
        intro c mem
        rcases Url.of_mem_encode mem with ⟨inText, plain⟩ | rfl | ⟨n, small, rfl⟩
        · exact ⟨free c inText, plain⟩
        · decide
        · have digits : ∀ n < 16, forbidden (Url.hexDigit n) = false ∧
              CharSet.controls (Url.hexDigit n) = false := by decide
          exact digits n small
      rw [write, ofText_of_free fun c mem => (kept c mem).1,
        Url.encode_eq_self fun c mem => (kept c mem).2]
  | address read =>
      obtain ⟨reads, eight⟩ := of_ipv6? read
      rw [write_ipv6]
      exact ofText_eq_ok_iff.mpr (.address (ipv6?_inner eight reads.small))

theorem Written.write (written : Written text host) : Written host.write host :=
  ofText_eq_ok_iff.mp written.ofText_write

/-- What ends a host in a URL, or is dropped from one. -/
def marks : List Char :=
  ['\t', '\n', '\r', '#', '/', '?', '@']

/-- The marks around a host in a URL are not in it. -/
theorem Written.free_of_marks (written : Written text host) :
    ∀ c ∈ text, c ∉ marks := by
  cases written with
  | name free =>
      intro c mem mark
      have forbids : marks.all forbidden = true := by decide
      have plain := free c mem
      rw [List.all_eq_true.mp forbids c mark] at plain
      cases plain
  | address read =>
      have others : (marks.all fun c => c ≠ '[' ∧ c ≠ ']' ∧ hexValue? c = none ∧ c ≠ ':' ∧
          c ≠ '.') = true := by decide
      intro c mem mark
      obtain ⟨left, right, digit, colon, dot⟩ :=
        of_decide_eq_true (List.all_eq_true.mp others c mark)
      simp only [List.cons_append, List.mem_cons, List.mem_append, List.not_mem_nil, or_false]
        at mem
      rcases mem with here | inBody | here
      · exact left here
      · rcases (of_ipv6? read).1.ordinary c inBody with ⟨k, -, value⟩ | here | here
        · rw [digit] at value
          cases value
        · exact colon here
        · exact dot here
      · exact right here

end Polyquery.Host
