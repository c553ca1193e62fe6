import Mathlib
import Polyquery.Proofs.Sql.Numbering
import Polyquery.Proofs.Decimal.Characters
import Polyquery.Proofs.Sql.Phrase
import Polyquery.Sql.Statement
import Polyquery.Sql.Token

/-!
# Lexing what is written

A lexer between lexemes reads a phrase with placeholders into the tokens of its
pieces: every name is one token again whatever characters it has, and every
placeholder is the parameter it stands for.
-/

namespace Polyquery

open Sql

/-! ## Lexers -/

namespace Sql.Lexer

/-- Take characters. -/
def run? (cs : List Char) (lexer : Lexer) : Option Lexer :=
  cs.foldlM step? lexer

/-- The tokens so far. -/
def tokens (lexer : Lexer) : List Token :=
  lexer.done.reverse.map Lexeme.token

variable {lexer : Lexer} {c : Char} {cs : List Char} {token : Token}

@[simp]
theorem run?_nil : lexer.run? [] = some lexer := rfl

theorem run?_cons : lexer.run? (c :: cs) = (lexer.step? c).bind (run? cs) := rfl

theorem run?_append {ds : List Char} :
    lexer.run? (cs ++ ds) = (lexer.run? cs).bind (run? ds) :=
  List.foldlM_append

theorem tokens_emit : (lexer.emit token).tokens = lexer.tokens ++ [token] := by
  simp [tokens, emit]

@[simp]
theorem position_emit : (lexer.emit token).position = .between := rfl

@[simp]
theorem parameters_emit : (lexer.emit token).parameters = lexer.parameters := rfl

theorem step?_of_between (between : lexer.position = .between) :
    lexer.step? c = lexer.start? c := by
  rw [step?, between]

theorem flush?_of_word (word : lexer.position = .word) :
    lexer.flush? =
      some (lexer.emit (Token.ofWord (String.ofList lexer.spelling.reverse))) := by
  rw [flush?, word]

theorem flush?_of_angle {first : Char} (angle : lexer.position = .angle first) :
    lexer.flush? = some (lexer.emit (if first = '<' then .lt else .gt)) := by
  rw [flush?, angle]

theorem flush?_of_between (between : lexer.position = .between) :
    lexer.flush? = some lexer := by
  rw [flush?, between]

/-- A lexeme that is complete stands in front of the next one. -/
theorem position_of_flush? {ended : Lexer} (flushed : lexer.flush? = some ended) :
    ended.position = .between := by
  unfold flush? at flushed
  split at flushed
  case h_1 between =>
    cases flushed
    exact between
  case h_4 =>
    obtain ⟨n, -, rfl⟩ := Option.map_eq_some_iff.mp flushed
    rfl
  case h_5 => cases flushed
  all_goals
    cases flushed
    rfl

end Sql.Lexer

/-- Whether a lexeme ends in front of every separator. -/
def Sql.Position.EndsApart : Position → Prop
  | .number | .quoted _ _ => False
  | .closed mark _ => isSeparator mark = false ∧ mark ≠ ';'
  | _ => True

/-- The characters behind a phrase. -/
def isEnd (c : Char) : Bool :=
  isSeparator c || c = ';'

namespace Sql.Lexer

variable {lexer : Lexer} {c : Char} {cs : List Char}

theorem isEnd_iff : isEnd c ↔ c = ' ' ∨ c = '.' ∨ c = ',' ∨ c = '(' ∨ c = ')' ∨ c = ';' := by
  simp [isEnd, isSeparator, or_assoc]

/-- In front of a separator, a lexeme is complete. -/
theorem step?_of_isEnd {ended : Lexer} (apart : lexer.position.EndsApart) (ends : isEnd c)
    (flushed : lexer.flush? = some ended) : lexer.step? c = ended.step? c := by
  have notWordPart : isWordPart c = false := by
    rcases isEnd_iff.mp ends with rfl | rfl | rfl | rfl | rfl | rfl <;> decide
  rw [step?_of_between (position_of_flush? flushed), step?]
  cases position : lexer.position with
  | between =>
      rw [flush?_of_between position] at flushed
      cases flushed
      rfl
  | word => simp [notWordPart, flushed]
  | number => simp [position, Position.EndsApart] at apart
  | parameter => simp [notWordPart, flushed]
  | quoted mark content => simp [position, Position.EndsApart] at apart
  | closed mark content =>
      have different : c ≠ mark := by
        rintro rfl
        simp only [position, Position.EndsApart] at apart
        simp [isEnd, apart.1, apart.2] at ends
      simp [different, flushed]
  | angle first =>
      have other : c ≠ '=' ∧ c ≠ '>' := by
        rcases isEnd_iff.mp ends with rfl | rfl | rfl | rfl | rfl | rfl <;> decide
      simp [other.1, other.2, flushed]

/-! ## Words -/

theorem isDigit_eq_false_of_isAlpha (alpha : c.isAlpha) : c.isDigit = false := by
  simp only [Char.isAlpha, Char.isUpper, Char.isLower, Char.isDigit, Bool.or_eq_true,
    Bool.and_eq_true, decide_eq_true_eq, Bool.and_eq_false_iff, decide_eq_false_iff_not,
    ge_iff_le, UInt32.le_iff_toNat_le] at *
  simp at *
  omega

theorem start?_letter (letter : c.isAlpha ∨ c = '_') :
    lexer.start? c = some { lexer with position := .word, spelling := [c] } := by
  rcases letter with alpha | rfl
  · have notDigit := isDigit_eq_false_of_isAlpha alpha
    have other (mark : Char) (notAlpha : mark.isAlpha = false) : c ≠ mark := by
      rintro rfl
      rw [notAlpha] at alpha
      contradiction
    have part : isWordPart c = true := by simp [isWordPart, Char.isAlphanum, alpha]
    simp [start?, isSpace, other, notDigit, part]
  · rfl

theorem start?_mark (mark : c = '.' ∨ c = ',' ∨ c = '(' ∨ c = ')' ∨ c = '*' ∨ c = '=') :
    ∃ token, ∀ lexer : Lexer, lexer.start? c = some ({ lexer with spelling := [c] }.emit token) := by
  rcases mark with rfl | rfl | rfl | rfl | rfl | rfl
  all_goals exact ⟨_, fun _ => rfl⟩

theorem isWordy_iff : isWordy c ↔ (c.isAlpha ∨ c = '_') ∨ (c = '<' ∨ c = '>') ∨ c = ' ' ∨
    c = '.' ∨ c = ',' ∨ c = '(' ∨ c = ')' ∨ c = '*' ∨ c = '=' := by
  simp only [isWordy, isSeparator, Bool.or_eq_true, decide_eq_true_eq]
  grind

end Sql.Lexer

/-- Where a lexer can be inside words. -/
def Sql.Position.IsWordy : Position → Prop
  | .between | .word | .angle _ => True
  | _ => False

namespace Sql.Lexer

/-- A lexer that has read what another one has, behind some tokens. -/
structure Follows (front : List Token) (lexer other : Lexer) : Prop where
  position : lexer.position = other.position
  spelling : lexer.position ≠ .between → lexer.spelling = other.spelling
  tokens : lexer.tokens = front ++ other.tokens

namespace Follows

variable {front : List Token} {lexer other : Lexer} {token : Token} {c : Char}

theorem emit (tokens : lexer.tokens = front ++ other.tokens) :
    Follows front (lexer.emit token) (other.emit token) where
  position := rfl
  spelling _ := rfl
  tokens := by rw [tokens_emit, tokens_emit, tokens, List.append_assoc]

theorem flush? (follows : Follows front lexer other) (wordy : lexer.position.IsWordy) :
    ∃ next otherNext, lexer.flush? = some next ∧ other.flush? = some otherNext ∧
      Follows front next otherNext ∧ next.parameters = lexer.parameters := by
  have otherPosition := follows.position.symm
  have sameSpelling := follows.spelling
  cases position : lexer.position with
  | between =>
      rw [position] at otherPosition
      exact ⟨lexer, other, flush?_of_between position, flush?_of_between otherPosition, follows, rfl⟩
  | word =>
      rw [position] at otherPosition sameSpelling
      refine ⟨_, _, flush?_of_word position, flush?_of_word otherPosition, ?_, rfl⟩
      rw [sameSpelling nofun]
      exact emit follows.tokens
  | angle first =>
      rw [position] at otherPosition
      exact ⟨_, _, flush?_of_angle position, flush?_of_angle otherPosition,
        emit follows.tokens, rfl⟩
  | number => simp [position, Position.IsWordy] at wordy
  | parameter => simp [position, Position.IsWordy] at wordy
  | quoted mark content => simp [position, Position.IsWordy] at wordy
  | closed mark content => simp [position, Position.IsWordy] at wordy

/-- Both lexers take the first character of a word. -/
theorem start? (tokens : lexer.tokens = front ++ other.tokens)
    (between : lexer.position = .between) (otherBetween : other.position = .between)
    (wordy : isWordy c) :
    ∃ next otherNext, lexer.start? c = some next ∧ other.start? c = some otherNext ∧
      Follows front next otherNext ∧ next.position.IsWordy ∧
      next.parameters = lexer.parameters ∧ (isSeparator c → next.position = .between) := by
  have marked (mark : c = '.' ∨ c = ',' ∨ c = '(' ∨ c = ')' ∨ c = '*' ∨ c = '=') :
      ∃ next otherNext, lexer.start? c = some next ∧ other.start? c = some otherNext ∧
        Follows front next otherNext ∧ next.position.IsWordy ∧
        next.parameters = lexer.parameters ∧ (isSeparator c → next.position = .between) := by
    obtain ⟨token, starts⟩ := start?_mark mark
    exact ⟨_, _, starts lexer, starts other, emit tokens, trivial, rfl, fun _ => rfl⟩
  rcases isWordy_iff.mp wordy with letter | angle | rfl | mark
  · refine ⟨_, _, start?_letter letter, start?_letter letter, ⟨rfl, fun _ => rfl, tokens⟩,
      trivial, rfl, fun separator => ?_⟩
    simp only [isSeparator, Bool.or_eq_true, decide_eq_true_eq] at separator
    rcases separator with (((rfl | rfl) | rfl) | rfl) | rfl <;> simp at letter
  · rcases angle with rfl | rfl
    all_goals exact ⟨_, _, rfl, rfl, ⟨rfl, fun _ => rfl, tokens⟩, trivial, rfl, nofun⟩
  · exact ⟨_, _, rfl, rfl, ⟨by rw [between, otherBetween], fun different => absurd between different,
      tokens⟩, by rw [between]; trivial, rfl, fun _ => between⟩
  · exact marked mark

/-- Both lexers take a character of a word. -/
theorem step? (follows : Follows front lexer other) (inWords : lexer.position.IsWordy)
    (wordy : isWordy c) :
    ∃ next otherNext, lexer.step? c = some next ∧ other.step? c = some otherNext ∧
      Follows front next otherNext ∧ next.position.IsWordy ∧
      next.parameters = lexer.parameters ∧ (isSeparator c → next.position = .between) := by
  obtain ⟨ended, otherEnded, flushed, otherFlushed, endedFollows, same⟩ := follows.flush? inWords
  have between := position_of_flush? flushed
  obtain ⟨next, otherNext, started, otherStarted, rest⟩ := start? endedFollows.tokens between
    (position_of_flush? otherFlushed) wordy
  rw [same] at rest
  have otherPosition := follows.position.symm
  cases position : lexer.position with
  | between =>
      rw [position] at otherPosition
      rw [flush?_of_between position] at flushed
      rw [flush?_of_between otherPosition] at otherFlushed
      cases flushed
      cases otherFlushed
      rw [step?_of_between position, step?_of_between otherPosition]
      exact ⟨next, otherNext, started, otherStarted, rest⟩
  | word =>
      rw [position] at otherPosition
      rw [Lexer.step?, position, Lexer.step?, otherPosition]
      by_cases part : isWordPart c
      · simp only [part, if_true]
        refine ⟨_, _, rfl, rfl, ⟨rfl, fun _ => ?_, follows.tokens⟩, trivial, rfl,
          fun separator => ?_⟩
        · exact congrArg (c :: ·) (follows.spelling (by rw [position]; nofun))
        · simp only [isSeparator, Bool.or_eq_true, decide_eq_true_eq] at separator
          rcases separator with (((rfl | rfl) | rfl) | rfl) | rfl <;> simp [isWordPart] at part
      · simp only [part, Bool.false_eq_true, if_false, flushed, otherFlushed]
        exact ⟨next, otherNext, started, otherStarted, rest⟩
  | angle first =>
      rw [position] at otherPosition
      rw [Lexer.step?, position, Lexer.step?, otherPosition]
      by_cases equal : c = '='
      · subst equal
        exact ⟨_, _, rfl, rfl, emit follows.tokens, trivial, rfl, fun _ => rfl⟩
      by_cases unequal : c = '>' ∧ first = '<'
      · obtain ⟨rfl, rfl⟩ := unequal
        exact ⟨_, _, rfl, rfl, emit follows.tokens, trivial, rfl, fun _ => rfl⟩
      have single : (c = '>' && first = '<') = false := by
        rw [← Bool.decide_and]
        exact decide_eq_false unequal
      simp only [equal, single, Bool.false_eq_true, if_false, flushed, otherFlushed]
      exact ⟨next, otherNext, started, otherStarted, rest⟩
  | number => simp [position, Position.IsWordy] at inWords
  | parameter => simp [position, Position.IsWordy] at inWords
  | quoted mark content => simp [position, Position.IsWordy] at inWords
  | closed mark content => simp [position, Position.IsWordy] at inWords

/-- Both lexers take words. -/
theorem run? {cs : List Char} (follows : Follows front lexer other)
    (inWords : lexer.position.IsWordy) (wordy : cs.all isWordy) :
    ∃ next otherNext, lexer.run? cs = some next ∧ other.run? cs = some otherNext ∧
      Follows front next otherNext ∧ next.position.IsWordy ∧
      next.parameters = lexer.parameters ∧
      (cs.getLast?.any isSeparator → next.position = .between) := by
  induction cs generalizing lexer other with
  | nil => exact ⟨lexer, other, rfl, rfl, follows, inWords, rfl, nofun⟩
  | cons c rest ih =>
      rw [List.all_cons, Bool.and_eq_true] at wordy
      obtain ⟨next, otherNext, stepped, otherStepped, nextFollows, nextWords, same, apart⟩ :=
        follows.step? inWords wordy.1
      obtain ⟨last, otherLast, ran, otherRan, lastFollows, lastWords, lastSame, lastApart⟩ :=
        ih nextFollows nextWords wordy.2
      refine ⟨last, otherLast, ?_, ?_, lastFollows, lastWords, lastSame.trans same, ?_⟩
      · rw [run?_cons, stepped]
        exact ran
      · rw [run?_cons, otherStepped]
        exact otherRan
      · cases rest with
        | nil =>
            cases ran
            exact apart
        | cons second others =>
            rw [List.getLast?_cons_cons]
            exact lastApart

end Follows

end Sql.Lexer

/-! ## Texts -/

namespace Sql.Lexer

/-- Whether a lexer has met a number of placeholders; PostgreSQL does not count. -/
def Counts (d : Dialect) (n : Nat) (lexer : Lexer) : Prop :=
  d = .postgres ∨ lexer.parameters = n

/-- From between two lexemes on, with `n` placeholders so far, a text reads as tokens.
The last of them ends in front of every separator, with `m` placeholders so far. -/
def ReadsAs (d : Dialect) (cs : List Char) (n : Nat) (tokens : List Token) (m : Nat) : Prop :=
  ∀ lexer : Lexer, lexer.position = .between → lexer.Counts d n →
    ∃ last ended, lexer.run? cs = some last ∧ last.flush? = some ended ∧
      last.position.EndsApart ∧ ended.tokens = lexer.tokens ++ tokens ∧ ended.Counts d m

/-- The tokens of fixed words. -/
def wordTokens (s : String) : List Token :=
  (((initial.run? s.toList).bind flush?).map tokens).getD []

variable {d : Dialect} {cs ds : List Char} {s : String} {n m l : Nat} {first second : List Token}

theorem endsApart_of_isWordy {position : Position} (wordy : position.IsWordy) :
    position.EndsApart := by
  cases position <;> trivial

/-- Words read as their tokens. -/
theorem readsAs_words (words : IsWords s) : ReadsAs d s.toList n (wordTokens s) n := by
  intro lexer between counts
  have follows : Follows lexer.tokens lexer initial :=
    ⟨between, fun different => absurd between different, by simp [tokens, initial]⟩
  obtain ⟨last, other, ran, otherRan, lastFollows, inWords, same, -⟩ :=
    follows.run? (by rw [between]; trivial) words
  obtain ⟨ended, otherEnded, flushed, otherFlushed, endedFollows, endedSame⟩ :=
    lastFollows.flush? inWords
  refine ⟨last, ended, ran, flushed, endsApart_of_isWordy inWords, ?_, ?_⟩
  · rw [endedFollows.tokens, wordTokens, otherRan, Option.bind_some, otherFlushed]
    rfl
  · rw [Counts, endedSame, same]
    exact counts

/-- What stands behind words that end with a separator is read on its own. -/
theorem ReadsAs.words_append (opening : IsOpening s) (reads : ReadsAs d ds n second m) :
    ReadsAs d (s.toList ++ ds) n (wordTokens s ++ second) m := by
  intro lexer between counts
  have follows : Follows lexer.tokens lexer initial :=
    ⟨between, fun different => absurd between different, by simp [tokens, initial]⟩
  obtain ⟨middle, other, ran, otherRan, middleFollows, -, same, apart⟩ :=
    follows.run? (by rw [between]; trivial) opening.1
  have middleBetween := apart opening.2
  obtain ⟨last, ended, lastRan, flushed, ends, tokensEq, lastCounts⟩ :=
    reads middle middleBetween (by rw [Counts, same]; exact counts)
  refine ⟨last, ended, ?_, flushed, ends, ?_, lastCounts⟩
  · rw [run?_append, ran]
    exact lastRan
  · have otherBetween : other.position = .between := middleFollows.position ▸ middleBetween
    rw [tokensEq, middleFollows.tokens, wordTokens, otherRan, Option.bind_some,
      flush?_of_between otherBetween, List.append_assoc]
    rfl

/-- A text ends in front of a separator. -/
theorem ReadsAs.append {c : Char} (reads : ReadsAs d cs n first m) (ends : isEnd c)
    (rest : ReadsAs d (c :: ds) m second l) :
    ReadsAs d (cs ++ c :: ds) n (first ++ second) l := by
  intro lexer between counts
  obtain ⟨middle, ended, ran, flushed, apart, tokensEq, endedCounts⟩ := reads lexer between counts
  obtain ⟨last, lastEnded, lastRan, lastFlushed, lastApart, lastTokens, lastCounts⟩ :=
    rest ended (position_of_flush? flushed) endedCounts
  refine ⟨last, lastEnded, ?_, lastFlushed, lastApart, ?_, lastCounts⟩
  · rw [run?_append, ran, Option.bind_some, run?_cons, step?_of_isEnd apart ends flushed]
    exact lastRan
  · rw [lastTokens, tokensEq, List.append_assoc]

theorem isEnd_of_isSeparator {c : Char} (separator : isSeparator c) : isEnd c := by
  rw [isEnd, separator, Bool.true_or]

/-- A text ends in front of words that begin with a separator. -/
theorem ReadsAs.append_words (reads : ReadsAs d cs n first m) (closing : IsClosing s)
    (rest : ReadsAs d (s.toList ++ ds) m second l) :
    ReadsAs d (cs ++ (s.toList ++ ds)) n (first ++ second) l := by
  obtain ⟨-, begins⟩ := closing
  cases letters : s.toList with
  | nil => simp [letters] at begins
  | cons c others =>
      rw [letters] at begins rest
      exact reads.append (isEnd_of_isSeparator begins) rest

/-- A text that reads as tokens is cut into them. -/
theorem ReadsAs.scan?_eq {text : String} {tokens : List Token}
    (reads : ReadsAs d text.toList 0 tokens n) :
    (Lexeme.scan? text).map (List.map Lexeme.token) = some tokens := by
  obtain ⟨last, ended, ran, flushed, -, tokensEq, -⟩ := reads initial rfl (.inr rfl)
  rw [Lexeme.scan?]
  change Option.map _ ((initial.run? _).bind _) = _
  rw [ran, Option.bind_some, flushed]
  exact congrArg some tokensEq

/-! ## Quotations -/

/-- The content of a quotation is taken whatever its characters are. -/
theorem run?_doubled (mark : Char) (name content : List Char) {lexer : Lexer}
    (quoted : lexer.position = .quoted mark content) :
    ∃ next, lexer.run? (name.flatMap (doubledChar mark)) = some next ∧
      next.position = .quoted mark (name.reverse ++ content) ∧ next.tokens = lexer.tokens ∧
      next.parameters = lexer.parameters := by
  induction name generalizing lexer content with
  | nil => exact ⟨lexer, rfl, quoted, rfl, rfl⟩
  | cons c rest ih =>
      have taken : ∃ next, lexer.run? (doubledChar mark c) = some next ∧
          next.position = .quoted mark (c :: content) ∧ next.tokens = lexer.tokens ∧
          next.parameters = lexer.parameters := by
        by_cases same : c = mark
        · subst same
          simp [doubledChar, run?_cons, step?, quoted, tokens]
        · simp [doubledChar, same, run?_cons, step?, quoted, tokens]
      obtain ⟨next, ran, position, tokensEq, parametersEq⟩ := taken
      obtain ⟨last, lastRan, lastPosition, lastTokens, lastParameters⟩ := ih _ position
      refine ⟨last, ?_, ?_, lastTokens.trans tokensEq, lastParameters.trans parametersEq⟩
      · rw [List.flatMap_cons, run?_append, ran]
        exact lastRan
      · rw [lastPosition, List.reverse_cons, List.append_assoc]
        rfl

/-- What stands between marks of names or strings reads as one token. -/
theorem readsAs_enclosed {mark : Char} (opens : mark = '"' ∨ mark = '`' ∨ mark = '\'')
    (text : String) :
    ReadsAs d (enclosed mark (doubled mark text)).toList n
      [quotedToken mark text.toList.reverse] n := by
  intro lexer between counts
  have spelled : (enclosed mark (doubled mark text)).toList =
      mark :: (text.toList.flatMap (doubledChar mark) ++ [mark]) := by
    simp [enclosed, doubled]
  have apart : isSeparator mark = false ∧ mark ≠ ';' := by
    rcases opens with rfl | rfl | rfl <;> decide
  let start : Lexer := { lexer with position := .quoted mark [], spelling := [mark] }
  have opened : lexer.step? mark = some start := by
    rw [step?_of_between between]
    rcases opens with rfl | rfl | rfl <;> rfl
  have quoted : start.position = .quoted mark [] := rfl
  obtain ⟨inside, ran, position, tokensEq, parametersEq⟩ :=
    run?_doubled mark text.toList [] quoted
  rw [List.append_nil] at position
  let last : Lexer :=
    { inside with
      position := .closed mark text.toList.reverse
      spelling := mark :: inside.spelling }
  have closed : inside.step? mark = some last := by
    simp [step?, position, last]
  refine ⟨last, last.emit (quotedToken mark text.toList.reverse), ?_, rfl, apart, ?_, ?_⟩
  · rw [spelled, run?_cons, opened, Option.bind_some, run?_append, ran, Option.bind_some,
      run?_cons, closed]
    rfl
  · rw [tokens_emit]
    exact congrArg (· ++ [quotedToken mark text.toList.reverse]) tokensEq
  · rw [Counts, parameters_emit]
    exact counts.imp_right parametersEq.trans

/-- A name reads as one token. -/
theorem readsAs_name (name : String) :
    ReadsAs d (d.quoteName name).toList n [.name d.nameMark name] n := by
  have opens : d.nameMark = '"' ∨ d.nameMark = '`' ∨ d.nameMark = '\'' := by
    cases d <;> decide
  have other : d.nameMark ≠ '\'' := by
    cases d <;> decide
  have token : quotedToken d.nameMark name.toList.reverse = .name d.nameMark name := by
    simp [quotedToken, other]
  rw [← token]
  exact readsAs_enclosed opens name

/-! ## Placeholders -/

/-- Digits grow the number of a parameter. -/
theorem run?_digits {digits : List Char} (areDigits : ∀ c ∈ digits, c.isDigit) {lexer : Lexer}
    (parameter : lexer.position = .parameter) :
    lexer.run? digits = some { lexer with spelling := digits.reverse ++ lexer.spelling } := by
  induction digits generalizing lexer with
  | nil => rfl
  | cons c rest ih =>
      have part : isWordPart c := by
        simp [isWordPart, Char.isAlphanum, areDigits c List.mem_cons_self]
      have stepped : lexer.step? c = some { lexer with spelling := c :: lexer.spelling } := by
        simp [step?, parameter, part]
      let grown : Lexer := { lexer with spelling := c :: lexer.spelling }
      have stillParameter : grown.position = .parameter := parameter
      have rest := ih (fun other mem => areDigits other (List.mem_cons_of_mem c mem)) stillParameter
      rw [run?_cons, stepped, Option.bind_some, rest, List.reverse_cons, List.append_assoc]
      rfl

/-- A question mark is the next parameter. -/
theorem readsAs_question (different : d ≠ .postgres) :
    ReadsAs d "?".toList n [.parameter (n + 1)] (n + 1) := by
  intro lexer between counts
  have parameters : lexer.parameters = n := counts.resolve_left different
  let last : Lexer :=
    { lexer with spelling := ['?'], parameters := n + 1 }.emit (.parameter (n + 1))
  refine ⟨last, last, ?_, flush?_of_between rfl, trivial, tokens_emit, .inr rfl⟩
  rw [show "?".toList = ['?'] from rfl, run?_cons, step?_of_between between]
  simp only [start?, last, ← parameters]
  rfl

theorem parameterNumber?_toDigits (n : Nat) :
    parameterNumber? (Nat.toDigits 10 n) = some n := by
  have notEmpty : (Nat.toDigits 10 n).isEmpty = false :=
    List.isEmpty_eq_false_iff.mpr Nat.toDigits_ne_nil
  have all : (Nat.toDigits 10 n).all Char.isDigit = true :=
    List.all_eq_true.mpr fun c mem => Nat.isDigit_of_mem_toDigits (by decide) (by decide) mem
  simp [parameterNumber?, notEmpty, all]

/-- A number behind a dollar sign is the parameter with that number. -/
theorem readsAs_dollar : ReadsAs .postgres ("$" ++ toString n).toList m [.parameter n] l := by
  intro lexer between _
  let start : Lexer := { lexer with position := .parameter, spelling := ['$'] }
  let last : Lexer := { start with spelling := (toString n).toList.reverse ++ ['$'] }
  have areDigits : ∀ c ∈ (toString n).toList, c.isDigit := fun _ mem => isDigit_of_mem_natText mem
  refine ⟨last, last.emit (.parameter n), ?_, ?_, trivial, tokens_emit, .inl rfl⟩
  · have parameter : start.position = .parameter := rfl
    rw [String.toList_append, show "$".toList = ['$'] from rfl, List.singleton_append,
      run?_cons,
      step?_of_between between]
    exact run?_digits areDigits parameter
  · have digits : last.spelling.reverse.drop 1 = Nat.toDigits 10 n := by
      simp [last, Nat.toString_eq_repr]
    rw [flush?, show last.position = .parameter from rfl, digits]
    simp only [parameterNumber?_toDigits]
    rfl

end Sql.Lexer

/-! ## Pieces -/

namespace Piece

/-- A name or a parameter. -/
def IsSlot : Piece → Prop
  | .name _ | .bound _ => True
  | _ => False

/-- The tokens of a piece. -/
def tokens (d : Dialect) : Piece → List Token
  | .text s => Sql.Lexer.wordTokens s
  | .name s => [.name d.nameMark s]
  | .value _ => []
  | .bound n => [.parameter n]

/-- The parameters of some pieces are numbered one by one from `n` on.  Only question
marks need it. -/
def Numbered (d : Dialect) (n : Nat) (pieces : List Piece) : Prop :=
  d = .postgres ∨ bounds pieces = List.range' (n + 1) (bounds pieces).length

variable {d : Dialect} {n : Nat} {first second : List Piece}

theorem numbered_append :
    Numbered d n (first ++ second) ↔
      Numbered d n first ∧ Numbered d (n + (bounds first).length) second := by
  unfold Numbered
  rw [bounds_append, List.length_append, ← List.range'_append_1]
  constructor
  · rintro (postgres | same)
    · exact ⟨.inl postgres, .inl postgres⟩
    · obtain ⟨left, right⟩ := List.append_inj same (by rw [List.length_range'])
      rw [Nat.add_right_comm] at right
      exact ⟨.inr left, .inr right⟩
  · rintro ⟨postgres | left, postgres | right⟩
    · exact .inl postgres
    · exact .inl postgres
    · exact .inl postgres
    · rw [Nat.add_right_comm] at right
      exact .inr (left ▸ right ▸ by simp)

end Piece

open Sql.Lexer Piece

/-- A phrase of names and parameters reads as the tokens of its pieces. -/
theorem Phrase.readsAs {d : Dialect} {n : Nat} {pieces : List Piece}
    (phrase : Phrase IsSlot pieces) (numbered : Numbered d n pieces) :
    ReadsAs d (chars d d.placeholder pieces) n (pieces.flatMap (Piece.tokens d))
      (n + (bounds pieces).length) := by
  induction phrase generalizing n with
  | @slot piece allowed =>
      cases piece with
      | text s => cases allowed
      | value v => cases allowed
      | name name =>
          have reads : ReadsAs d (d.quoteName name).toList n [.name d.nameMark name] n :=
            readsAs_name name
          simpa [chars, spell, Piece.tokens, bounds] using reads
      | bound k =>
          have placeholder : ReadsAs d (d.placeholder k).toList n [.parameter k] (n + 1) := by
            rcases numbered with rfl | number
            · exact readsAs_dollar
            · have next : k = n + 1 := by simpa [bounds] using number
              rw [next]
              cases dialect : d with
              | mysql => exact readsAs_question (by decide)
              | sqlite => exact readsAs_question (by decide)
              | postgres => exact readsAs_dollar
          simpa [chars, spell, Piece.tokens, bounds] using placeholder
  | @words s words =>
      have reads : ReadsAs d s.toList n (wordTokens s) n := readsAs_words words
      simpa [chars, spell, Piece.tokens, bounds] using reads
  | @before s inner opening phrase ih =>
      have reads := ReadsAs.words_append opening (ih numbered)
      simpa [chars, spell, Piece.tokens, bounds] using reads
  | @after s inner closing phrase ih =>
      obtain ⟨left, -⟩ := numbered_append.mp numbered
      have rest : ReadsAs d (s.toList ++ []) (n + (bounds inner).length) (wordTokens s)
          (n + (bounds inner).length) := by
        rw [List.append_nil]
        exact readsAs_words closing.1
      have reads := (ih left).append_words closing rest
      simpa [chars, spell, Piece.tokens, bounds] using reads
  | @between s left right glue leftPhrase rightPhrase ihLeft ihRight =>
      obtain ⟨leftNumbered, rightNumbered⟩ := numbered_append.mp numbered
      have rest := ReadsAs.words_append glue.1 (ihRight rightNumbered)
      have reads := (ihLeft leftNumbered).append_words glue.2 rest
      simpa [chars, spell, Piece.tokens, bounds, Nat.add_assoc] using reads

/-- The text of a phrase with a semicolon reads as the tokens of its pieces and the
semicolon. -/
theorem Phrase.scan?_eq {d : Dialect} {pieces : List Piece} (phrase : Phrase IsSlot pieces)
    (numbered : Numbered d 0 pieces) (params : List Value) :
    (Lexeme.scan? ((⟨pieces ++ [.text ";"], params⟩ : Draft).spell d d.placeholder)).map
        (List.map Lexeme.token) =
      some (pieces.flatMap (Piece.tokens d) ++ [.semicolon]) := by
  have spelled : ((⟨pieces ++ [.text ";"], params⟩ : Draft).spell d d.placeholder).toList =
      chars d d.placeholder pieces ++ [';'] := by
    rw [Draft.toList_spell, chars_append, chars_singleton, spell]
    rfl
  obtain ⟨last, ended, ran, flushed, apart, tokensEq, -⟩ :=
    phrase.readsAs numbered initial rfl (.inr rfl)
  have between := position_of_flush? flushed
  have stepped : last.step? ';' = some ({ ended with spelling := [';'] }.emit .semicolon) := by
    rw [step?_of_isEnd apart (by decide) flushed, step?_of_between between]
    rfl
  have whole : initial.run? (chars d d.placeholder pieces ++ [';']) =
      some ({ ended with spelling := [';'] }.emit .semicolon) := by
    rw [run?_append, ran, Option.bind_some, run?_cons, stepped]
    rfl
  rw [Lexeme.scan?, spelled]
  change Option.map _ ((initial.run? _).bind _) = _
  rw [whole, Option.bind_some, flush?_of_between rfl]
  change some (Lexer.tokens _) = _
  rw [tokens_emit]
  exact congrArg (fun front => some (front ++ [Token.semicolon])) tokensEq

end Polyquery
