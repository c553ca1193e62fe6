import Polyquery.Proofs.Url.Escape
import Polyquery.Proofs.Url.Host
import Polyquery.Url.Reader

/-!
# Addresses of servers that are read

An address of a server has a scheme that is none of the web, a host with a port, maybe a user in
front of it, one segment as its path, and maybe parameters.  If each part is written with its own
characters the address is read part by part.
-/

namespace Polyquery.Url

variable {scheme user password hostText authority segment text front rest : List Char}
  {query : Option (List Char)} {mark c : Char} {host : Host} {port : ℕ}

/-! ## Characters -/

/-- A character that a URL is neither surrounded nor interrupted by. -/
def Visible (c : Char) : Prop :=
  0x20 < c.toNat

instance (c : Char) : Decidable (Visible c) :=
  inferInstanceAs (Decidable (_ < _))

theorem visible_of_not_controls (plain : CharSet.controls c = false) (other : c ≠ ' ') :
    Visible c := by
  simp only [CharSet.controls, Bool.or_eq_false_iff, decide_eq_false_iff_not] at plain
  have notSpace : c.toNat ≠ 0x20 := fun same => other (Char.toNat_inj.mp same)
  rw [Visible]
  omega

theorem visible_of_isAlphanum (plain : c.isAlphanum = true) : Visible c := by
  simp only [Char.isAlphanum, Char.isAlpha, Char.isUpper, Char.isLower, Char.isDigit,
    Bool.or_eq_true, Bool.and_eq_true, decide_eq_true_eq, UInt32.le_iff_toNat_le, ge_iff_le]
    at plain
  change ((65 ≤ c.toNat ∧ c.toNat ≤ 90) ∨ (97 ≤ c.toNat ∧ c.toNat ≤ 122)) ∨
    (48 ≤ c.toNat ∧ c.toNat ≤ 57) at plain
  rw [Visible]
  omega

theorem not_break_of_visible (visible : Visible c) : c ∉ ['\t', '\n', '\r'] := by
  have small : ∀ d ∈ ['\t', '\n', '\r'], d.toNat ≤ 0x20 := by simp
  exact fun mem => absurd visible (not_lt.mpr (small c mem))

theorem dropWhile_eq_self {p : Char → Bool} (begins : ∀ c ∈ text.head?, p c = false) :
    text.dropWhile p = text := by
  cases text with
  | nil => rfl
  | cons c rest => rw [List.dropWhile_cons_of_neg (by simp [begins c rfl])]

/-- A text is read as it is if its ends are visible and it has no tabs and line ends. -/
theorem cleaned_eq_self (begins : ∀ c ∈ text.head?, Visible c)
    (ends : ∀ c ∈ text.getLast?, Visible c) (unbroken : ∀ c ∈ text, c ∉ ['\t', '\n', '\r']) :
    cleaned text = text := by
  have outer (c : Char) (visible : Visible c) : decide (c.toNat ≤ 0x20) = false :=
    decide_eq_false (not_le.mpr visible)
  rw [cleaned, dropWhile_eq_self fun c mem => outer c (begins c mem),
    dropWhile_eq_self fun c mem => outer c (ends c (by rwa [List.head?_reverse] at mem)),
    List.reverse_reverse]
  exact kept_eq_self_iff.mpr unbroken

theorem takeWhile_append_mark {p : Char → Bool} (all : ∀ c ∈ text, p c = true)
    (ends : p mark = false) : (text ++ mark :: rest).takeWhile p = text := by
  rw [List.takeWhile_append_of_pos all, List.takeWhile_cons_of_neg (by simp [ends]),
    List.append_nil]

theorem dropWhile_append_mark {p : Char → Bool} (all : ∀ c ∈ text, p c = true)
    (ends : p mark = false) : (text ++ mark :: rest).dropWhile p = mark :: rest := by
  rw [List.dropWhile_append_of_pos all, List.dropWhile_cons_of_neg (by simp [ends])]

theorem ne_of_notMem (free : mark ∉ text) : ∀ c ∈ text, decide (c ≠ mark) = true :=
  fun _ mem => decide_eq_true fun same => free (same ▸ mem)

/-! ## Parts -/

/-- A scheme that is none of the web, in small letters. -/
structure IsPlain (scheme : List Char) : Prop where
  nonempty : scheme ≠ []
  letters : ∀ c ∈ scheme, c.isAlpha = true
  lower : scheme.map Char.toLower = scheme
  notSpecial : isSpecial scheme = false

theorem scheme?_append (plain : IsPlain scheme) (rest : List Char) :
    scheme? (scheme ++ ':' :: rest) = some (scheme, rest) := by
  obtain ⟨first, more, rfl⟩ := List.exists_cons_of_ne_nil plain.nonempty
  have allowed : ∀ c ∈ first :: more,
      (c.isAlphanum || decide (c = '+') || decide (c = '-') || decide (c = '.')) = true := by
    intro c mem
    simp [Char.isAlphanum, plain.letters c mem]
  rw [scheme?, takeWhile_append_mark allowed (by decide),
    dropWhile_append_mark allowed (by decide)]
  change (if first.isAlpha then some ((first :: more).map Char.toLower, rest) else none) = _
  rw [if_pos (plain.letters first List.mem_cons_self), plain.lower]

theorem splitAt_of_notMem (free : mark ∉ text) : splitAt mark text = (text, none) := by
  have none : text.dropWhile (· ≠ mark) = [] := List.dropWhile_eq_nil_iff.mpr (ne_of_notMem free)
  rw [splitAt, none]

theorem splitAt_append (free : mark ∉ text) :
    splitAt mark (text ++ mark :: rest) = (text, some rest) := by
  rw [splitAt, dropWhile_append_mark (ne_of_notMem free) (by simp),
    takeWhile_append_mark (ne_of_notMem free) (by simp)]

theorem splitUser_of_notMem (free : '@' ∉ text) : splitUser text = none := by
  rw [splitUser, if_neg (by simpa using free)]

theorem splitUser_append (free : '@' ∉ rest) :
    splitUser (text ++ '@' :: rest) = some (text, rest) := by
  have reversed : (text ++ '@' :: rest).reverse = rest.reverse ++ '@' :: text.reverse := by simp
  have free' : '@' ∉ rest.reverse := by simpa using free
  rw [splitUser, if_pos (by simp), reversed]
  dsimp only
  rw [dropWhile_append_mark (ne_of_notMem free') (by simp),
    takeWhile_append_mark (ne_of_notMem free') (by simp), List.tail_cons, List.reverse_reverse,
    List.reverse_reverse]

theorem hostLength_outside (free : ∀ c ∈ text, c ≠ ':' ∧ c ≠ '[' ∧ c ≠ ']') (rest : List Char) :
    hostLength false (text ++ rest) = text.length + hostLength false rest := by
  induction text with
  | nil => simp
  | cons c more ih =>
      obtain ⟨⟨colon, left, right⟩, others⟩ := List.forall_mem_cons.mp free
      rw [List.cons_append, hostLength, if_neg (by simp [colon]), if_neg left, if_neg right,
        ih others, List.length_cons]
      omega

theorem hostLength_inside (free : ∀ c ∈ text, c ≠ '[' ∧ c ≠ ']') (rest : List Char) :
    hostLength true (text ++ rest) = text.length + hostLength true rest := by
  induction text with
  | nil => simp
  | cons c more ih =>
      obtain ⟨⟨left, right⟩, others⟩ := List.forall_mem_cons.mp free
      rw [List.cons_append, hostLength, if_neg (by simp), if_neg left, if_neg right,
        ih others, List.length_cons]
      omega

/-- The text of a host ends before the port. -/
theorem hostLength_of_written (written : Host.Written hostText host) (rest : List Char) :
    hostLength false (hostText ++ ':' :: rest) = hostText.length := by
  have port : hostLength false (':' :: rest) = 0 := by simp [hostLength]
  cases written with
  | name free =>
      have others : ∀ c ∈ hostText, c ≠ ':' ∧ c ≠ '[' ∧ c ≠ ']' := by
        intro c mem
        have plain := free c mem
        refine ⟨?_, ?_, ?_⟩ <;> rintro rfl <;> exact absurd plain (by decide)
      rw [hostLength_outside others, port, Nat.add_zero]
  | @address body groups read =>
      have others : ∀ c ∈ body, c ≠ '[' ∧ c ≠ ']' := by
        intro c mem
        refine ⟨?_, ?_⟩ <;> rintro rfl <;>
          rcases (Host.of_ipv6? read).1.ordinary _ mem with ⟨k, -, value⟩ | same | same <;>
          first | cases value | cases same
      have open_ : hostLength false ('[' :: (body ++ ']' :: ':' :: rest)) =
          1 + hostLength true (body ++ ']' :: ':' :: rest) := by simp [hostLength]
      have close : hostLength true (']' :: ':' :: rest) = 1 := by simp [hostLength]
      have whole : '[' :: body ++ [']'] ++ ':' :: rest = '[' :: (body ++ ']' :: ':' :: rest) := by
        simp
      rw [whole, open_, hostLength_inside others, close]
      simp
      omega

/-! ## Authorities -/

/-- The user and the password as they stand in front of a host. -/
def credentials (user password : List Char) : List Char :=
  if user.isEmpty && password.isEmpty then []
  else user ++ (if password.isEmpty then [] else ':' :: password) ++ ['@']

theorem portOf_toDigits (plain : IsPlain scheme) (port : ℕ) :
    portOf scheme (Nat.toDigits 10 port) =
      if 65535 < port then .error .invalidPort else .ok (some port, []) := by
  have digits : ∀ c ∈ Nat.toDigits 10 port, c.isDigit = true :=
    fun c mem => Nat.isDigit_of_mem_toDigits (by decide) (by decide) mem
  have none : defaultPort? scheme = none := by
    have notSpecial := plain.notSpecial
    rw [isSpecial, Bool.or_eq_false_iff] at notSpecial
    simpa using notSpecial.1
  have some : (Nat.toDigits 10 port).isEmpty = false :=
    List.isEmpty_eq_false_iff.mpr Nat.toDigits_ne_nil
  rw [portOf, List.takeWhile_eq_self_iff.mpr digits, List.dropWhile_eq_nil_iff.mpr digits,
    number_toDigits (by decide) (by decide), none, some]
  by_cases large : 65535 < port <;> simp [large]

theorem splitUser_credentials (ofUser : ∀ c ∈ user, CharSet.user c = false)
    (ofPassword : ∀ c ∈ password, CharSet.user c = false) (free : '@' ∉ rest) :
    ∃ info, (splitUser (credentials user password ++ rest)).getD
        ([], credentials user password ++ rest) = (info, rest) ∧
      info.takeWhile (· ≠ ':') = user ∧ (info.dropWhile (· ≠ ':')).tail = password := by
  have colonUser : ':' ∉ user := fun mem => absurd (ofUser ':' mem) (by decide)
  rw [credentials]
  split
  · rename_i empty
    simp only [Bool.and_eq_true, List.isEmpty_iff] at empty
    obtain ⟨rfl, rfl⟩ := empty
    rw [List.nil_append, splitUser_of_notMem free]
    exact ⟨[], rfl, rfl, rfl⟩
  · rw [List.append_assoc, List.singleton_append, splitUser_append free]
    refine ⟨_, rfl, ?_⟩
    cases password with
    | nil =>
        have none : user.dropWhile (· ≠ ':') = [] :=
          List.dropWhile_eq_nil_iff.mpr (ne_of_notMem colonUser)
        have all : user.takeWhile (· ≠ ':') = user :=
          List.takeWhile_eq_self_iff.mpr (ne_of_notMem colonUser)
        simp only [List.isEmpty_nil, if_true, List.append_nil, all, none, List.tail_nil, and_self]
    | cons c more =>
        simp only [List.isEmpty_cons, Bool.false_eq_true, if_false]
        rw [takeWhile_append_mark (ne_of_notMem colonUser) (by simp),
          dropWhile_append_mark (ne_of_notMem colonUser) (by simp)]
        exact ⟨rfl, rfl⟩

/-- The part before the path is read unless there is no host or the port is too large. -/
theorem authorityOf_written (plain : IsPlain scheme)
    (ofUser : ∀ c ∈ user, CharSet.user c = false)
    (ofPassword : ∀ c ∈ password, CharSet.user c = false)
    (written : Host.Written hostText host) (port : ℕ) :
    authorityOf scheme (credentials user password ++ (hostText ++ ':' :: Nat.toDigits 10 port)) =
      if host = .name [] then .error .emptyHost
      else if 65535 < port then .error .invalidPort
      else .ok ⟨user, password, host, some port, []⟩ := by
  have noAt : '@' ∉ hostText ++ ':' :: Nat.toDigits 10 port := by
    rw [List.mem_append, List.mem_cons]
    rintro (inHost | colon | inPort)
    · exact written.free_of_marks '@' inHost (by decide)
    · cases colon
    · have digit := Nat.isDigit_of_mem_toDigits (by decide) (by decide) inPort
      exact absurd digit (by decide)
  obtain ⟨info, split, isUser, isPassword⟩ := splitUser_credentials ofUser ofPassword noAt
  have hostEnds := hostLength_of_written written (Nat.toDigits 10 port)
  unfold authorityOf
  simp only [split, hostEnds, plain.notSpecial, List.take_left, List.drop_left,
    Host.ofText_eq_ok_iff.mpr written, isUser, isPassword, encode_eq_self ofUser,
    encode_eq_self ofPassword, portOf_toDigits plain]
  by_cases none : host = .name []
  · simp [none]
    rfl
  · have opened (next : Host → Except UrlError Authority) :
        (Except.ok host >>= next) = next host := rfl
    by_cases large : 65535 < port <;> simp [opened, none, large]

/-! ## Addresses -/

/-- A segment is written so that it is read as one. -/
structure IsSegment (segment : List Char) : Prop where
  clear : ∀ c ∈ segment, CharSet.path c = false
  noSlash : '/' ∉ segment
  noDots : isDot segment = false ∧ isDotDot segment = false

theorem toLower_eq_cases {c d : Char} (lower : c.toLower = d) :
    c = d ∨ (65 ≤ c.toNat ∧ d.toNat = c.toNat + 32) := by
  unfold Char.toLower at lower
  split at lower
  · rename_i upper
    simp only [UInt32.le_iff_toNat_le, ge_iff_le] at upper
    have bounds : 65 ≤ c.toNat ∧ c.toNat ≤ 90 := upper
    refine .inr ⟨bounds.1, ?_⟩
    subst lower
    change (c.val + 32).toNat = c.toNat + 32
    have value : c.val.toNat = c.toNat := rfl
    have constant : (32 : UInt32).toNat = 32 := rfl
    rw [UInt32.toNat_add, value, constant]
    omega
  · exact .inl lower

theorem eq_of_toLower {c d : Char} (lower : c.toLower = d) (small : d.toNat < 97) : c = d := by
  rcases toLower_eq_cases lower with same | ⟨upper, shifted⟩
  · exact same
  · omega

/-- A dot, as it is or encoded. -/
def IsDotCode (code : List Char) : Prop :=
  code.map Char.toLower = ['.'] ∨ code.map Char.toLower = ['%', '2', 'e']

theorem decodeBytes_dotCode {code : List Char} (isCode : IsDotCode code) (rest : List Char) :
    decodeBytes (code ++ rest) = 46 :: decodeBytes rest := by
  rcases isCode with plain | encoded
  · obtain ⟨c, more, rfl, isDot, none⟩ := List.map_eq_cons_iff.mp plain
    obtain rfl := List.map_eq_nil_iff.mp none
    obtain rfl := eq_of_toLower isDot (by decide)
    exact decodeBytes_cons_of_ne (by decide) rest
  · obtain ⟨c, more, rfl, percent, more'⟩ := List.map_eq_cons_iff.mp encoded
    obtain ⟨d, more, rfl, two, more'⟩ := List.map_eq_cons_iff.mp more'
    obtain ⟨e, more, rfl, letter, none⟩ := List.map_eq_cons_iff.mp more'
    obtain rfl := List.map_eq_nil_iff.mp none
    obtain rfl := eq_of_toLower percent (by decide)
    obtain rfl := eq_of_toLower two (by decide)
    have low : hexValue? e = some 14 := by
      rcases toLower_eq_cases letter with rfl | ⟨-, shifted⟩
      · rfl
      · have small : 'e'.toNat = 'E'.toNat + 32 := rfl
        obtain rfl := Char.toNat_inj.mp (show e.toNat = 'E'.toNat by omega)
        rfl
    have high : hexValue? '2' = some 2 := rfl
    rw [List.cons_append, List.cons_append, List.cons_append, decodeBytes, high, low]
    rfl

theorem decodeBytes_of_isDot (dot : isDot segment = true) : decodeBytes segment = [46] := by
  simp only [isDot, List.contains_cons, List.contains_nil, Bool.or_false, Bool.or_eq_true,
    beq_iff_eq, ← String.toList_inj, String.toList_ofList] at dot
  have written := decodeBytes_dotCode dot []
  rwa [List.append_nil, decodeBytes_nil] at written

theorem decodeBytes_of_isDotDot (dots : isDotDot segment = true) :
    decodeBytes segment = [46, 46] := by
  simp only [isDotDot, List.contains_cons, List.contains_nil, Bool.or_false, Bool.or_eq_true,
    beq_iff_eq, ← String.toList_inj, String.toList_ofList] at dots
  obtain ⟨first, second, whole, isFirst, isSecond⟩ : ∃ first second : List Char,
      segment.map Char.toLower = first ++ second ∧
        (first = ['.'] ∨ first = ['%', '2', 'e']) ∧
        (second = ['.'] ∨ second = ['%', '2', 'e']) := by
    rcases dots with same | same | same | same
    exacts [⟨['.'], ['.'], same, .inl rfl, .inl rfl⟩,
      ⟨['.'], ['%', '2', 'e'], same, .inl rfl, .inr rfl⟩,
      ⟨['%', '2', 'e'], ['.'], same, .inr rfl, .inl rfl⟩,
      ⟨['%', '2', 'e'], ['%', '2', 'e'], same, .inr rfl, .inr rfl⟩]
  obtain ⟨front, back, rfl, rfl, rfl⟩ := List.map_eq_append_iff.mp whole
  have written := decodeBytes_dotCode isSecond []
  rw [List.append_nil, decodeBytes_nil] at written
  rw [decodeBytes_dotCode isFirst, written]

/-- A text that is encoded is written as dots only if it is made of dots. -/
theorem isSegment_encode (other : text ≠ ['.'] ∧ text ≠ ['.', '.']) :
    IsSegment (encode CharSet.segment text) where
  clear := by
    intro c mem
    rcases of_mem_encode mem with ⟨-, kept⟩ | rfl | ⟨n, small, rfl⟩
    · simp only [CharSet.segment, CharSet.plus, Bool.or_eq_false_iff] at kept
      exact kept.1
    · decide
    · have digits : ∀ n < 16, CharSet.path (hexDigit n) = false := by decide
      exact digits n small
  noSlash := fun mem => absurd (mem_of_mem_encode (by decide) mem).2 (by decide)
  noDots := by
    have marked : CharSet.segment '%' = true := by decide
    have apart (dots : List Char) (plain : ∀ c ∈ dots, CharSet.segment c = false)
        (different : text ≠ dots) :
        decodeBytes (encode CharSet.segment text) ≠ decodeBytes dots := by
      intro same
      have decoded := decode?_encode marked text
      rw [decode?, same, ← encode_eq_self plain, ← decode?, decode?_encode marked] at decoded
      exact different (Option.some.inj decoded).symm
    have one : decodeBytes ['.'] = [46] := decodeBytes_of_isDot (by decide)
    have two : decodeBytes ['.', '.'] = [46, 46] := decodeBytes_of_isDotDot (by decide)
    constructor
    · refine Bool.eq_false_iff.mpr fun dot => apart ['.'] (by simp; decide) other.1 ?_
      rw [decodeBytes_of_isDot dot, one]
    · refine Bool.eq_false_iff.mpr fun dots => apart ['.', '.'] (by simp; decide) other.2 ?_
      rw [decodeBytes_of_isDotDot dots, two]

theorem segmentsOf_segment (single : IsSegment segment) :
    segmentsOf false ('/' :: segment) = [segment] := by
  rw [segmentsOf]
  simp only [Bool.false_eq_true, if_false]
  rw [pieces_of_notMem single.noSlash, resolved]
  simp only [single.noDots, Bool.false_eq_true, if_false, Bool.or_self, Bool.and_false,
    encode_eq_self single.clear, List.nil_append, resolved]

/-- The characters that end an authority or are dropped from it. -/
def ends : List Char :=
  ['\t', '\n', '\r', '#', '/', '?']

theorem notMem_of_clear {set : CharSet} {list : List Char} (replaced : list.all set = true)
    (clear : ∀ c ∈ text, set c = false) : ∀ c ∈ text, c ∉ list := by
  intro c mem inList
  have kept := clear c mem
  rw [List.all_eq_true.mp replaced c inList] at kept
  cases kept

theorem visible_of_clear {set : CharSet}
    (controls : ∀ c, set c = false → CharSet.controls c = false) (space : set ' ' = true)
    (clear : ∀ c ∈ text, set c = false) : ∀ c ∈ text, Visible c := by
  intro c mem
  refine visible_of_not_controls (controls c (clear c mem)) ?_
  rintro rfl
  rw [clear ' ' mem] at space
  cases space

theorem mem_credentials (mem : c ∈ credentials user password) :
    c ∈ user ∨ c ∈ password ∨ c = ':' ∨ c = '@' := by
  rw [credentials] at mem
  split at mem
  · cases mem
  · simp only [List.mem_append, List.mem_singleton] at mem
    rcases mem with (inUser | inPassword) | at_
    · exact .inl inUser
    · split at inPassword
      · cases inPassword
      · rcases List.mem_cons.mp inPassword with colon | inPassword
        · exact .inr (.inr (.inl colon))
        · exact .inr (.inl inPassword)
    · exact .inr (.inr (.inr at_))

theorem authority_free (ofUser : ∀ c ∈ user, CharSet.user c = false)
    (ofPassword : ∀ c ∈ password, CharSet.user c = false)
    (written : Host.Written hostText host) (port : ℕ) :
    ∀ c ∈ credentials user password ++ (hostText ++ ':' :: Nat.toDigits 10 port), c ∉ ends := by
  intro c mem
  simp only [List.mem_append, List.mem_cons] at mem
  rcases mem with inCredentials | inHost | rfl | inPort
  · rcases mem_credentials inCredentials with inUser | inPassword | rfl | rfl
    · exact notMem_of_clear (by decide) ofUser c inUser
    · exact notMem_of_clear (by decide) ofPassword c inPassword
    · decide
    · decide
  · have subset : ends ⊆ Host.marks := by simp [ends, Host.marks]
    exact fun inEnds => written.free_of_marks c inHost (subset inEnds)
  · decide
  · have digit := Nat.isDigit_of_mem_toDigits (by decide) (by decide) inPort
    have others : (ends.all fun c => !c.isDigit) = true := by decide
    intro inEnds
    have notDigit := List.all_eq_true.mp others c inEnds
    rw [digit] at notDigit
    cases notDigit

theorem controls_of_path (c : Char) (clear : CharSet.path c = false) :
    CharSet.controls c = false := by
  simp only [CharSet.path, CharSet.fragment, CharSet.plus, Bool.or_eq_false_iff] at clear
  exact clear.1.1

theorem controls_of_query (c : Char) (clear : CharSet.query c = false) :
    CharSet.controls c = false := by
  simp only [CharSet.query, CharSet.plus, Bool.or_eq_false_iff] at clear
  exact clear.1

theorem visible_optional
    (ofQuery : ∀ text, query = some text → ∀ c ∈ text, CharSet.query c = false) :
    ∀ c ∈ optional '?' query, Visible c := by
  cases query with
  | none => exact nofun
  | some text =>
      refine List.forall_mem_cons.mpr ⟨by decide, ?_⟩
      exact visible_of_clear controls_of_query (by decide) (ofQuery text rfl)

/-- Nothing of a written address is dropped. -/
theorem cleaned_written (plain : IsPlain scheme) (free : ∀ c ∈ authority, c ∉ ends)
    (single : IsSegment segment)
    (ofQuery : ∀ text, query = some text → ∀ c ∈ text, CharSet.query c = false) :
    cleaned (scheme ++ ':' :: '/' :: '/' :: (authority ++ '/' :: segment) ++
        optional '?' query) =
      scheme ++ ':' :: ('/' :: '/' :: (authority ++ '/' :: segment) ++ optional '?' query) := by
  have visibleScheme : ∀ c ∈ scheme, Visible c := fun c mem =>
    visible_of_isAlphanum (by simp [Char.isAlphanum, plain.letters c mem])
  have visibleEnd : ∀ c ∈ '/' :: (segment ++ optional '?' query), Visible c := by
    rw [List.forall_mem_cons, List.forall_mem_append]
    exact ⟨by decide, visible_of_clear controls_of_path (by decide) single.clear,
      visible_optional ofQuery⟩
  have parts : scheme ++ ':' :: '/' :: '/' :: (authority ++ '/' :: segment) ++
      optional '?' query =
      (scheme ++ [':', '/', '/'] ++ authority) ++ '/' :: (segment ++ optional '?' query) := by
    simp
  rw [cleaned_eq_self]
  · simp
  · obtain ⟨first, more, rfl⟩ := List.exists_cons_of_ne_nil plain.nonempty
    intro c mem
    rw [← Option.some.inj mem]
    exact visibleScheme first List.mem_cons_self
  · intro c mem
    rw [parts, List.getLast?_append_of_ne_nil _ (List.cons_ne_nil _ _)] at mem
    exact visibleEnd c (List.mem_of_getLast? mem)
  · rw [parts, List.forall_mem_append, List.forall_mem_append, List.forall_mem_append]
    refine ⟨⟨⟨fun c mem => not_break_of_visible (visibleScheme c mem), by simp⟩,
      fun c mem inBreaks => free c mem ?_⟩,
      fun c mem => not_break_of_visible (visibleEnd c mem)⟩
    have subset : ['\t', '\n', '\r'] ⊆ ends := by simp [ends]
    exact subset inBreaks

/-- A mark that can be in none of the parts is not in front of the query. -/
theorem notMem_front (free : ∀ c ∈ authority, c ∉ ends) (single : IsSegment segment)
    (isMark : c ∈ ['#', '?']) : c ∉ '/' :: '/' :: (authority ++ '/' :: segment) := by
  have marks : ['#', '?'] ⊆ ends := by simp [ends]
  have inAuthority : c ∉ authority := fun mem => free c mem (marks isMark)
  have inSegment : c ∉ segment := fun mem =>
    notMem_of_clear (by decide) single.clear c mem isMark
  have other : c ≠ '/' := by
    rintro rfl
    revert isMark
    decide
  simp [inAuthority, inSegment, other]

theorem hash_notMem_written (free : ∀ c ∈ authority, c ∉ ends) (single : IsSegment segment)
    (ofQuery : ∀ text, query = some text → ∀ c ∈ text, CharSet.query c = false) :
    '#' ∉ '/' :: '/' :: (authority ++ '/' :: segment) ++ optional '?' query := by
  have inQuery : '#' ∉ optional '?' query := by
    cases query with
    | none => exact List.not_mem_nil
    | some text =>
        rintro (_ | ⟨_, mem⟩)
        exact absurd (ofQuery text rfl '#' mem) (by decide)
  exact List.not_mem_append (notMem_front free single (by decide)) inQuery

theorem splitAt_written (free : ∀ c ∈ authority, c ∉ ends) (single : IsSegment segment) :
    splitAt '?' ('/' :: '/' :: (authority ++ '/' :: segment) ++ optional '?' query) =
      ('/' :: '/' :: (authority ++ '/' :: segment), query) := by
  have front := notMem_front free single (by decide : '?' ∈ ['#', '?'])
  cases query with
  | none =>
      rw [optional, List.append_nil]
      exact splitAt_of_notMem front
  | some text => exact splitAt_append front

/-- The text of an address is read part by part. -/
theorem ofText_eq (plain : IsPlain scheme) (free : ∀ c ∈ authority, c ∉ ends)
    (single : IsSegment segment)
    (ofQuery : ∀ text, query = some text → ∀ c ∈ text, CharSet.query c = false) :
    ofText (String.ofList (scheme ++ ':' :: '/' :: '/' :: (authority ++ '/' :: segment) ++
        optional '?' query)) =
      (authorityOf scheme authority).map fun found =>
        ⟨scheme, found.user, found.password, some found.host, found.port,
          .segments (segmentsOf false (found.rest ++ '/' :: segment)), query, none⟩ := by
  have keptQuery : query.map (encode CharSet.query) = query := by
    cases query with
    | none => rfl
    | some text => rw [Option.map_some, encode_eq_self (ofQuery text rfl)]
  have inside : ∀ c ∈ authority, (!endsAuthority false c) = true := by
    intro c mem
    have others := free c mem
    simp only [ends, List.mem_cons, List.not_mem_nil, or_false, not_or] at others
    obtain ⟨-, -, -, hash, slash, question⟩ := others
    simp [endsAuthority, hash, slash, question]
  have notFile : isFile scheme = false := by
    have notSpecial := plain.notSpecial
    rw [isSpecial, Bool.or_eq_false_iff] at notSpecial
    exact notSpecial.2
  unfold ofText
  rw [String.toList_ofList, cleaned_written plain free single ofQuery, scheme?_append plain]
  simp only [splitAt_of_notMem (hash_notMem_written free single ofQuery),
    splitAt_written free single, plain.notSpecial, notFile, Bool.false_eq_true, if_false, keptQuery,
    takeWhile_append_mark inside (by decide : (!endsAuthority false '/') = false),
    dropWhile_append_mark inside (by decide : (!endsAuthority false '/') = false)]
  cases authorityOf scheme authority <;> rfl

/-- An address is read unless there is no host or the port is too large. -/
theorem ofText_written (plain : IsPlain scheme) (ofUser : ∀ c ∈ user, CharSet.user c = false)
    (ofPassword : ∀ c ∈ password, CharSet.user c = false)
    (written : Host.Written hostText host) (port : ℕ) (single : IsSegment segment)
    (ofQuery : ∀ text, query = some text → ∀ c ∈ text, CharSet.query c = false) :
    ofText (String.ofList (scheme ++ ':' :: '/' :: '/' ::
        (credentials user password ++ (hostText ++ ':' :: Nat.toDigits 10 port) ++
          '/' :: segment) ++ optional '?' query)) =
      if host = .name [] then .error .emptyHost
      else if 65535 < port then .error .invalidPort
      else
        .ok ⟨scheme, user, password, some host, some port, .segments [segment], query, none⟩ := by
  rw [ofText_eq plain (authority_free ofUser ofPassword written port) single ofQuery,
    authorityOf_written plain ofUser ofPassword written]
  by_cases none : host = .name []
  · rw [if_pos none, if_pos none]
    rfl
  · rw [if_neg none, if_neg none]
    by_cases large : 65535 < port
    · rw [if_pos large, if_pos large]
      rfl
    · rw [if_neg large, if_neg large, Except.map, List.nil_append, segmentsOf_segment single]

end Polyquery.Url
