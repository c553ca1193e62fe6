import Polyquery.Config.Server
import Polyquery.Proofs.Url.Reading

/-!
# Addresses of servers

An address that is put together from its parts is read again when it is used.  It leads to the
server that is described if the host is one, if neither user nor password has an escape of its own,
and if the database reaches a path as it is.
-/

namespace Polyquery

open Url (encode decode? pieces CharSet HasEscape IsPlain IsSegment KeepsEscapes credentials kept)

namespace Url

variable {scheme segment : List Char}

/-! ## Parts of addresses -/

/-- What is added to the path `/` of an address for a database. -/
def added (database : List Char) : List Char :=
  if database = ['.'] ∨ database = ['.', '.'] ∨ kept database = ['.'] ∨ kept database = ['.', '.']
  then [] else encode CharSet.segment (kept database)

theorem bounds_of_hexValue? {c : Char} (digit : (hexValue? c).isSome) :
    48 ≤ c.toNat ∧ c.toNat ≤ 102 := by
  rw [hexValue?] at digit
  simp only [Char.le_def, UInt32.le_iff_toNat_le] at digit
  change (if 48 ≤ c.toNat ∧ c.toNat ≤ 57 then some (c.toNat - 48)
    else if 65 ≤ c.toNat ∧ c.toNat ≤ 70 then some (c.toNat - 55)
    else if 97 ≤ c.toNat ∧ c.toNat ≤ 102 then some (c.toNat - 87) else none).isSome at digit
  split_ifs at digit
  · omega
  · omega
  · omega
  · cases digit

/-- Users and passwords are written with their escapes. -/
theorem keepsEscapes_user : KeepsEscapes CharSet.user where
  percent := by decide
  digits c digit := by
    have bounds := bounds_of_hexValue? digit
    have controls : CharSet.controls c = false := by
      simp only [CharSet.controls, Bool.or_eq_false_iff, decide_eq_false_iff_not]
      omega
    have other (marks : String)
        (noDigits : (marks.toList.all fun mark => (hexValue? mark).isNone) = true) :
        marks.toList.contains c = false := by
      refine Bool.eq_false_iff.mpr fun contains => ?_
      have none := List.all_eq_true.mp noDigits c (List.contains_iff_mem.mp contains)
      rw [Option.isNone_iff_eq_none.mp none] at digit
      cases digit
    simp only [CharSet.user, CharSet.path, CharSet.fragment, CharSet.plus, Bool.or_eq_false_iff]
    exact ⟨⟨⟨controls, other _ (by decide)⟩, other _ (by decide)⟩, other _ (by decide)⟩

theorem user_encode (text : List Char) :
    ∀ c ∈ encode CharSet.user text, CharSet.user c = false := by
  intro c mem
  rcases of_mem_encode mem with ⟨-, kept⟩ | rfl | ⟨n, small, rfl⟩
  · exact kept
  · decide
  · have digits : ∀ n < 16, CharSet.user (hexDigit n) = false := by decide
    exact digits n small

theorem isSegment_added (database : List Char) : IsSegment (added database) := by
  rw [added]
  split
  · exact ⟨nofun, List.not_mem_nil, rfl, rfl⟩
  · rename_i other
    simp only [not_or] at other
    exact isSegment_encode ⟨other.2.2.1, other.2.2.2⟩

theorem push_root (plain : IsPlain scheme) (database : List Char) :
    Path.push scheme [[]] database = [added database] := by
  have notSpecial := plain.notSpecial
  have notFile : isFile scheme = false := by
    rw [isSpecial, Bool.or_eq_false_iff] at notSpecial
    exact notSpecial.2
  have set : segmentSet scheme = CharSet.segment := by simp [segmentSet, notSpecial]
  rw [Path.push_eq, set, notFile, added]
  split_ifs with dots two one <;> simp_all [opened, Path.up]

/-- Below the path `/` the only segment is what has been added. -/
theorem below_root {url : Url} (plain : IsPlain url.scheme) (root : url.path = .segments [[]])
    (database : List Char) :
    url.below [database] = { url with path := .segments [added database] } := by
  have one : Path.dropEmptyLast [[]] = [[]] := rfl
  rw [below, root]
  dsimp only
  rw [one, List.foldl_cons, List.foldl_nil, push_root plain]

theorem withParameters_of_no_query {url : Url} (empty : url.query = none) (name value : String) :
    url.withParameters [(name, value)] =
      { url with query := some (name.toList ++ '=' :: value.toList) } := by
  simp [withParameters, empty]

theorem hasHost_of_ne_empty {url : Url} {host : Host} (hasHost : url.host = some host)
    (some : host ≠ .name []) : url.hasHost = true := by
  simp [Url.hasHost, hasHost, some]

/-- A database is read back exactly if it is not one or two dots and has no tabs and line ends. -/
theorem decode?_added_iff (database : List Char) :
    decode? (added database) = some database ↔
      (database ≠ ['.'] ∧ database ≠ ['.', '.']) ∧ ∀ c ∈ database, c ∉ ['\t', '\n', '\r'] := by
  have marked : CharSet.segment '%' = true := by decide
  rw [← kept_eq_self_iff, added]
  split
  · rename_i dots
    have empty : decode? [] = some [] := decode?_encode marked []
    rw [empty, Option.some.injEq]
    constructor
    · rintro rfl
      revert dots
      decide
    · rintro ⟨⟨notOne, notTwo⟩, full⟩
      rw [full] at dots
      simp [notOne, notTwo] at dots
  · rename_i other
    simp only [not_or] at other
    rw [decode?_encode marked, Option.some.injEq]
    exact (and_iff_right ⟨other.1, other.2.1⟩).symm

end Url

namespace ServerSettings

variable {settings : ServerSettings} {protocol : Protocol} {host database text : String}
  {parsed : Host}

/-- The port of the server. -/
def usedPort (settings : ServerSettings) (protocol : Protocol) : ℕ :=
  if settings.port = 0 then protocol.usualPort else settings.port

/-- The parameter that asks for an encrypted connection. -/
def Protocol.parameter (protocol : Protocol) : List Char :=
  protocol.encryption.1.toList ++ '=' :: protocol.encryption.2.toList

/-- A protocol has a scheme of its own and a parameter that is written as it is. -/
structure Protocol.IsWritten (protocol : Protocol) : Prop where
  scheme : IsPlain protocol.scheme.toList
  clear : ∀ c ∈ protocol.parameter, CharSet.query c = false
  single : '&' ∉ protocol.parameter

theorem clear_of_all {set : CharSet} {list : List Char}
    (clear : (list.all fun c => !set c) = true) : ∀ c ∈ list, set c = false :=
  fun c mem => by simpa using List.all_eq_true.mp clear c mem

theorem Protocol.isWritten_postgres : IsWritten .postgres where
  scheme := ⟨by decide, List.all_eq_true.mp (by decide), by decide, by decide⟩
  clear := clear_of_all (by decide)
  single := by decide

theorem Protocol.isWritten_mysql : IsWritten .mysql where
  scheme := ⟨by decide, List.all_eq_true.mp (by decide), by decide, by decide⟩
  clear := clear_of_all (by decide)
  single := by decide

/-! ## The address that is put together -/

/-- The address of a server by its parts. -/
def parts (settings : ServerSettings) (protocol : Protocol) (host : Host) (database : String) :
    Url where
  scheme := protocol.scheme.toList
  user := (settings.user.map fun user => encode CharSet.user user.toList).getD []
  password := (settings.user.map fun _ =>
    encode CharSet.user (settings.password.getD "").toList).getD []
  host := some host
  port := some (settings.usedPort protocol)
  path := .segments [Url.added database.toList]
  query := if settings.encrypted then some protocol.parameter else none
  fragment := none

/-- The text that is read first ends with the port and a path without a database. -/
theorem ofText_server (plain : IsPlain protocol.scheme.toList)
    (written : Host.Written host.toList parsed) (port : ℕ) :
    Url.ofText (protocol.scheme ++ "://" ++ host ++ ":" ++ toString port ++ "/") =
      if parsed = .name [] then .error .emptyHost
      else if 65535 < port then .error .invalidPort
      else
        .ok ⟨protocol.scheme.toList, [], [], some parsed, some port, .segments [[]], none,
          none⟩ := by
  have text : protocol.scheme ++ "://" ++ host ++ ":" ++ toString port ++ "/" =
      String.ofList (protocol.scheme.toList ++ ':' :: '/' :: '/' ::
        (credentials [] [] ++ (host.toList ++ ':' :: Nat.toDigits 10 port) ++ '/' :: []) ++
        Url.optional '?' none) := by
    rw [← String.toList_inj]
    simp [credentials, Url.optional, Nat.toString_eq_repr, Nat.toList_repr]
  have nobody : ∀ c ∈ ([] : List Char), CharSet.user c = false := by simp
  have root : Url.IsSegment [] := ⟨by simp, List.not_mem_nil, rfl, rfl⟩
  have noQuery : ∀ text, (none : Option (List Char)) = some text →
      ∀ c ∈ text, CharSet.query c = false := by simp
  rw [text]
  exact Url.ofText_written plain nobody nobody written port root noQuery

/-- An address is put together from its parts unless there is no host or the port is too large. -/
theorem assembled?_eq (plain : IsPlain protocol.scheme.toList)
    (written : Host.Written host.toList parsed) :
    settings.assembled? protocol host database =
      if parsed = .name [] ∨ 65535 < settings.usedPort protocol then none
      else some (settings.parts protocol parsed database) := by
  rw [assembled?]
  change ((Url.ofText (protocol.scheme ++ "://" ++ host ++ ":" ++
    toString (settings.usedPort protocol) ++ "/")).toOption.bind fun url =>
      (settings.withCredentials url).bind fun url => some (if settings.encrypted = true then
        (url.below [database.toList]).withParameters [protocol.encryption]
        else url.below [database.toList])) = _
  rw [ofText_server plain written]
  by_cases none : parsed = .name []
  · rw [if_pos none, if_pos (.inl none)]
    rfl
  rw [if_neg none]
  by_cases large : 65535 < settings.usedPort protocol
  · rw [if_pos large, if_pos (.inr large)]
    rfl
  rw [if_neg large, if_neg (not_or.mpr ⟨none, large⟩), Except.toOption, Option.bind_some,
    withCredentials, parts]
  cases settings.user with
  | none =>
      dsimp only
      rw [Option.bind_some, Url.below_root plain rfl]
      cases settings.encrypted with
      | false => rfl
      | true =>
          rw [if_pos rfl, Url.withParameters_of_no_query rfl]
          rfl
  | some user =>
      dsimp only
      rw [Url.hasHost_of_ne_empty rfl none, if_pos rfl, Option.bind_some, Url.withUser,
        Url.below_root plain rfl]
      cases settings.encrypted with
      | false => rfl
      | true =>
          rw [if_pos rfl, Url.withParameters_of_no_query rfl]
          rfl

theorem display_parts (settings : ServerSettings) (protocol : Protocol) (parsed : Host)
    (database : String) :
    (settings.parts protocol parsed database).display =
      String.ofList (protocol.scheme.toList ++ ':' :: '/' :: '/' ::
        (credentials (settings.parts protocol parsed database).user
          (settings.parts protocol parsed database).password ++
          (parsed.write ++ ':' :: Nat.toDigits 10 (settings.usedPort protocol)) ++
          '/' :: Url.added database.toList) ++
        Url.optional '?' (settings.parts protocol parsed database).query) := by
  have authority : (settings.parts protocol parsed database).authority =
      "//".toList ++ credentials (settings.parts protocol parsed database).user
        (settings.parts protocol parsed database).password ++ parsed.write ++
        ':' :: Nat.toDigits 10 (settings.usedPort protocol) := rfl
  have path : (settings.parts protocol parsed database).path.write =
      '/' :: Url.added database.toList := by simp [parts, Url.Path.write]
  have scheme : (settings.parts protocol parsed database).scheme = protocol.scheme.toList := rfl
  have fragment : (settings.parts protocol parsed database).fragment = none := rfl
  rw [Url.display, authority, path, scheme, fragment]
  simp [Url.optional]

/-- The address is read as it has been put together. -/
theorem ofText_display_parts (isWritten : protocol.IsWritten)
    (written : Host.Written host.toList parsed) (some : parsed ≠ .name [])
    (small : settings.usedPort protocol ≤ 65535) :
    Url.ofText (settings.parts protocol parsed database).display =
      .ok (settings.parts protocol parsed database) := by
  have ofUser : ∀ c ∈ (settings.parts protocol parsed database).user, CharSet.user c = false := by
    rw [parts]
    cases settings.user with
    | none => exact nofun
    | some user => exact Url.user_encode user.toList
  have ofPassword : ∀ c ∈ (settings.parts protocol parsed database).password,
      CharSet.user c = false := by
    rw [parts]
    cases settings.user with
    | none => exact nofun
    | some user => exact Url.user_encode _
  have ofQuery : ∀ text, (settings.parts protocol parsed database).query = Option.some text →
      ∀ c ∈ text, CharSet.query c = false := by
    rw [parts]
    rintro text same
    dsimp only at same
    split at same
    · cases same
      exact isWritten.clear
    · cases same
  have read := Url.ofText_written isWritten.scheme ofUser ofPassword written.write
    (settings.usedPort protocol) (Url.isSegment_added database.toList) ofQuery
  rw [if_neg some, if_neg (not_lt.mpr small)] at read
  rw [display_parts, read]
  rfl

/-! ## Where it leads -/

/-- A URL leads to the server that is described: to its host, port and database, as its user, and
encrypted if that is asked for. -/
structure PointsAt (settings : ServerSettings) (protocol : Protocol) (url : Url) : Prop where
  host : ∃ text host, settings.host = some text ∧ Host.ofText text.toList = .ok host ∧
    url.host = some host
  port : url.port = some (settings.usedPort protocol)
  credentials : ∀ user, settings.user = some user → decode? url.user = some user.toList ∧
    decode? url.password = some (settings.password.getD "").toList
  database : ∃ segment text, url.path = .segments [segment] ∧ settings.database = some text ∧
    decode? segment = some text.toList
  encryption : (∃ query, url.query = some query ∧ protocol.parameter ∈ pieces '&' query) ↔
    settings.encrypted = true

/-- All parts of an address reach it as they are. -/
structure Reaches (settings : ServerSettings) : Prop where
  host : ∀ text, settings.host = some text → ∃ host, Host.Written text.toList host
  credentials : ∀ user, settings.user = some user →
    ¬ HasEscape user.toList ∧ ¬ HasEscape (settings.password.getD "").toList
  database : ∀ text, settings.database = some text →
    (text ≠ "." ∧ text ≠ "..") ∧ ∀ c ∈ text.toList, c ∉ ['\t', '\n', '\r']

/-- The settings with which an address has been put together. -/
theorem exists_of_url_eq_ok (own : settings.address = none)
    (made : settings.url protocol = .ok text) :
    ∃ host database url, settings.host = some host ∧ settings.database = some database ∧
      settings.assembled? protocol host database = some url ∧ text = url.display := by
  unfold url at made
  rw [own] at made
  cases hostIs : settings.host with
  | none =>
      rw [hostIs] at made
      cases made
  | some host =>
      cases databaseIs : settings.database with
      | none =>
          rw [hostIs, databaseIs] at made
          cases made
      | some database =>
          rw [hostIs, databaseIs] at made
          dsimp only at made
          split at made
          · rename_i url assembled
            exact ⟨host, database, url, rfl, rfl, assembled, (Except.ok.inj made).symm⟩
          · cases made

/-- The parts of an address lead to the server if what is encoded can be decoded. -/
theorem pointsAt_parts_iff (isWritten : protocol.IsWritten) (hostIs : settings.host = some host)
    (databaseIs : settings.database = some database)
    (written : Host.Written host.toList parsed) :
    settings.PointsAt protocol (settings.parts protocol parsed database) ↔ settings.Reaches := by
  have databases : decode? (Url.added database.toList) = some database.toList ↔
      ∀ text, settings.database = some text →
        (text ≠ "." ∧ text ≠ "..") ∧ ∀ c ∈ text.toList, c ∉ ['\t', '\n', '\r'] := by
    have dots : database.toList ≠ ['.'] ∧ database.toList ≠ ['.', '.'] ↔
        database ≠ "." ∧ database ≠ ".." := by simp [← String.toList_inj]
    rw [Url.decode?_added_iff, dots, databaseIs]
    exact ⟨fun reaches text same => Option.some.inj same ▸ reaches, fun all => all database rfl⟩
  have users : (∀ user, settings.user = some user →
      decode? (settings.parts protocol parsed database).user = some user.toList ∧
        decode? (settings.parts protocol parsed database).password =
          some (settings.password.getD "").toList) ↔
      ∀ user, settings.user = some user →
        ¬ HasEscape user.toList ∧ ¬ HasEscape (settings.password.getD "").toList := by
    refine forall₂_congr fun user isUser => ?_
    rw [← Url.decode?_encode_iff Url.keepsEscapes_user, ← Url.decode?_encode_iff
      Url.keepsEscapes_user]
    simp only [parts, isUser, Option.map_some, Option.getD_some]
  constructor
  · intro points
    refine ⟨fun text isHost => ?_, users.mp points.credentials, databases.mp ?_⟩
    · rw [hostIs] at isHost
      cases isHost
      exact ⟨parsed, written⟩
    · obtain ⟨segment, text, path, isDatabase, decoded⟩ := points.database
      rw [databaseIs] at isDatabase
      cases isDatabase
      cases path
      exact decoded
  · intro reaches
    refine ⟨⟨host, parsed, hostIs, Host.ofText_eq_ok_iff.mpr written, rfl⟩, rfl,
      users.mpr reaches.credentials,
      ⟨_, database, rfl, databaseIs, databases.mpr reaches.database⟩, ?_⟩
    rw [parts]
    cases settings.encrypted with
    | false => simp
    | true => simp [Url.pieces_of_notMem isWritten.single]

/-- Whenever an address is put together, it leads to the server that is described exactly if all
parts reach it as they are. -/
theorem pointsAt_iff_reaches (server : protocol = .postgres ∨ protocol = .mysql)
    (own : settings.address = none) (made : settings.url protocol = .ok text) :
    (∃ url, Url.ofText text = .ok url ∧ settings.PointsAt protocol url) ↔ settings.Reaches := by
  have isWritten : protocol.IsWritten := by
    rcases server with rfl | rfl
    · exact Protocol.isWritten_postgres
    · exact Protocol.isWritten_mysql
  obtain ⟨host, database, url, hostIs, databaseIs, assembled, rfl⟩ := exists_of_url_eq_ok own made
  have byParts (parsed : Host) (written : Host.Written host.toList parsed) :
      Url.ofText url.display = .ok (settings.parts protocol parsed database) := by
    rw [assembled?_eq isWritten.scheme written] at assembled
    split at assembled
    · cases assembled
    · rename_i fits
      obtain ⟨some, small⟩ := not_or.mp fits
      rw [← Option.some.inj assembled]
      exact ofText_display_parts isWritten written some (not_lt.mp small)
  constructor
  · rintro ⟨read, isRead, points⟩
    obtain ⟨text, parsed, isHost, ofHost, -⟩ := points.host
    rw [hostIs] at isHost
    cases isHost
    have written := Host.ofText_eq_ok_iff.mp ofHost
    rw [byParts parsed written] at isRead
    cases isRead
    exact (pointsAt_parts_iff isWritten hostIs databaseIs written).mp points
  · intro reaches
    obtain ⟨parsed, written⟩ := reaches.host host hostIs
    exact ⟨_, byParts parsed written,
      (pointsAt_parts_iff isWritten hostIs databaseIs written).mpr reaches⟩

/-- A server with an address in brackets and with marks in all other parts. -/
def guarded : ServerSettings where
  host := some "[2001:db8:0:0:1::1]"
  user := some "us@r"
  database := some "films/50%2"
  password := some "p@ss:50%"
  encrypted := true

theorem pointsAt_iff_reaches_guarded :
    guarded.address = none ∧
    guarded.url .postgres = .ok ("postgres://us%40r:p%40ss%3A50%@[2001:db8::1:0:0:1]:5432/" ++
      "films%2F50%252?sslmode=require") ∧
    ∃ url, Url.ofText ("postgres://us%40r:p%40ss%3A50%@[2001:db8::1:0:0:1]:5432/" ++
      "films%2F50%252?sslmode=require") = .ok url ∧ guarded.PointsAt .postgres url := by
  have made : guarded.url .postgres = .ok
      ("postgres://us%40r:p%40ss%3A50%@[2001:db8::1:0:0:1]:5432/" ++
        "films%2F50%252?sslmode=require") := by decide +kernel
  refine ⟨rfl, made, (pointsAt_iff_reaches (.inl rfl) rfl made).mpr ⟨?_, ?_, ?_⟩⟩
  · rintro text ⟨⟩
    exact ⟨.ipv6 [8193, 3512, 0, 0, 1, 0, 0, 1], Host.ofText_eq_ok_iff.mp (by decide +kernel)⟩
  · rintro user ⟨⟩
    exact ⟨(Url.decode?_encode_iff Url.keepsEscapes_user).mp (by decide +kernel),
      (Url.decode?_encode_iff Url.keepsEscapes_user).mp (by decide +kernel)⟩
  · rintro text ⟨⟩
    exact ⟨by decide, by simp⟩

/-- A server whose host has the mark behind a user. -/
def shared : ServerSettings where
  host := some "guest@archive"
  database := some "films"

/-- What is before the mark becomes the user, and the host is what is behind it. -/
theorem not_pointsAt_shared :
    shared.url .postgres = .ok "postgres://guest@archive:5432/films" ∧
    (Url.ofText "postgres://guest@archive:5432/films").toOption.bind Url.host =
      some (.name "archive".toList) ∧
    ¬ ∀ (settings : ServerSettings) (protocol : Protocol) (text : String),
      protocol = .postgres ∨ protocol = .mysql → settings.address = none →
        settings.url protocol = .ok text →
          ∃ url, Url.ofText text = .ok url ∧ settings.PointsAt protocol url := by
  have made : shared.url .postgres = .ok "postgres://guest@archive:5432/films" := by
    decide +kernel
  refine ⟨made, by decide +kernel, fun always => ?_⟩
  obtain ⟨_, -, points⟩ := always shared .postgres _ (.inl rfl) rfl made
  obtain ⟨text, host, isHost, read, -⟩ := points.host
  cases isHost
  have refused : Host.ofText "guest@archive".toList = .error .invalidHostCharacter := by
    decide +kernel
  rw [refused] at read
  cases read

end ServerSettings

end Polyquery
