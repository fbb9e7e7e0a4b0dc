import GelClient.Connection.Dsn
import GelClient.Proofs.Text.Number
import GelClient.Proofs.Text.Slice

/-!
# Data source names read back

A data source name is taken apart at the last `@`, the first colon of the credentials, the first slash behind
them and the last colon in front of it. `Dsn.parse_toText` shows that these are the right ones, whichever parts
are there and whatever the password and the database hold.

The program reads the text in place: every part is a slice of one shared buffer. `Dsn.Shared` reads over slices
of the buffer, where a slice out of range comes to nothing, and `Dsn.Shared.parse_eq` shows that this never
happens.
-/

namespace GelClient

open Text (Slice splitFirst? splitLast? splitPiece? bytesOf)

namespace Dsn

/-- A data source name with parts that its text tells apart. -/
structure IsSeparable (d : Dsn) : Prop where
  user_colon : ∀ user, d.user = some user → ':' ∉ user.toList
  password_eq : d.user = none → d.password = none
  host_ne : d.host ≠ ""
  host_slash : '/' ∉ d.host.toList
  host_at : '@' ∉ d.host.toList
  host_colon : d.port = none → ':' ∉ d.host.toList
  database_ne : d.database ≠ some ""
  database_at : ∀ database, d.database = some database → '@' ∉ database.toList

section Text

/-- The characters of credentials, with the `@` behind them. -/
def credentialsChars : Option String → Option String → List Char
  | some user, some password => (user.toList ++ ':' :: password.toList) ++ ['@']
  | some user, none => user.toList ++ ['@']
  | none, _ => []

/-- The characters of a port, with the colon before them. -/
def portChars : Option UInt16 → List Char
  | some port => ':' :: Nat.toDigits 10 port.toNat
  | none => []

/-- The characters of a database, with the slash before them. -/
def databaseChars : Option String → List Char
  | some database => '/' :: database.toList
  | none => []

/-- The characters of a data source name are those of its parts. -/
theorem toList_toText (d : Dsn) :
    d.toText.toList = (scheme d.legacy).toList ++ ':' :: (['/', '/'] ++
      (credentialsChars d.user d.password ++ ((d.host.toList ++ portChars d.port) ++ databaseChars d.database))) := by
  obtain ⟨legacy, user, password, host, port, database⟩ := d
  have hpiece : "://".toList = [':', '/', '/'] := rfl
  have hcolon : ":".toList = [':'] := rfl
  have hat : "@".toList = ['@'] := rfl
  have hslash : "/".toList = ['/'] := rfl
  cases user <;> cases password <;> cases port <;> cases database <;>
    simp [toText, credentialsChars, portChars, databaseChars, hpiece, hcolon, hat, hslash]

variable {rest : List Char}

/-- The last `@` ends the credentials if none follows, and their first colon ends the user if it has none. -/
theorem credentials_append {user password : Option String} (huser : ∀ u, user = some u → ':' ∉ u.toList)
    (hpassword : user = none → password = none) (hrest : '@' ∉ rest) :
    credentials (credentialsChars user password ++ rest) = (user, password, rest) := by
  cases user with
  | none =>
    rw [hpassword rfl, credentialsChars, List.nil_append, credentials, Text.splitLast?_eq_none hrest]
  | some u =>
    have hu := huser u rfl
    cases password with
    | none =>
      rw [credentialsChars, List.append_assoc, List.singleton_append, credentials,
        Text.splitLast?_append hrest]
      dsimp only
      rw [Text.splitFirst?_eq_none hu, String.ofList_toList]
    | some p =>
      rw [credentialsChars, List.append_assoc, List.singleton_append, credentials,
        Text.splitLast?_append hrest]
      dsimp only
      rw [Text.splitFirst?_append hu]
      dsimp only
      rw [String.ofList_toList, String.ofList_toList]

/-- The first slash ends the host and the port, if they have none. -/
theorem location_append {front : List Char} {database : Option String} (hfront : '/' ∉ front)
    (hdatabase : database ≠ some "") : location (front ++ databaseChars database) = (front, database) := by
  cases database with
  | none => rw [databaseChars, List.append_nil, location, Text.splitFirst?_eq_none hfront]
  | some text =>
    have htext : text.toList ≠ [] := fun h => hdatabase (congrArg some (String.toList_eq_nil_iff.mp h))
    rw [databaseChars, location, Text.splitFirst?_append hfront]
    dsimp only
    rw [List.isEmpty_eq_false_iff.mpr htext, String.ofList_toList]
    rfl

/-- The last colon begins the port, as a port has none. -/
theorem authority_append {host : String} {port : Option UInt16} (hhost : port = none → ':' ∉ host.toList) :
    authority (host.toList ++ portChars port) = .ok (host, port) := by
  cases port with
  | none =>
    rw [portChars, List.append_nil, authority, Text.splitLast?_eq_none (hhost rfl), String.ofList_toList]
  | some n =>
    have hdigits : ':' ∉ Nat.toDigits 10 n.toNat := Text.notMem_toDigits rfl n.toNat
    have hnumber : Text.unsigned? 16 (String.ofList (Nat.toDigits 10 n.toNat)) = some n.toNat :=
      Text.unsigned?_toString (UInt16.toNat_lt n)
    rw [portChars, authority, Text.splitLast?_append hdigits]
    dsimp only
    rw [hnumber, String.ofList_toList]
    dsimp only
    rw [UInt16.ofNat_toNat]

end Text

/-- What is read behind the scheme is decided by the host and the port. -/
theorem parseRest_eq (legacy : Bool) (text : List Char) :
    parseRest legacy text =
      match authority (location (credentials text).2.2).1 with
      | .error e => .error e
      | .ok (host, port) =>
        if host = "" then .error .missingHost
        else .ok {
          legacy, host, port
          user := (credentials text).1
          password := (credentials text).2.1
          database := (location (credentials text).2.2).2 } := by
  rw [parseRest]
  dsimp only
  cases authority (location (credentials text).2.2).1 with
  | error e => rfl
  | ok found =>
    obtain ⟨host, port⟩ := found
    by_cases hhost : host = ""
    · subst hhost
      rfl
    · dsimp only
      rw [if_neg hhost]
      exact if_neg hhost

/-- The parts behind the scheme are read back. -/
theorem parseRest_append {d : Dsn} (h : d.IsSeparable) :
    parseRest d.legacy (credentialsChars d.user d.password ++
      ((d.host.toList ++ portChars d.port) ++ databaseChars d.database)) = .ok d := by
  have hport {c : Char} (hcolon : c ≠ ':') (hdigit : c.isDigit = false) : c ∉ portChars d.port := by
    cases hp : d.port with
    | none => exact List.not_mem_nil
    | some n =>
      rw [portChars, List.mem_cons, not_or]
      exact ⟨hcolon, Text.notMem_toDigits hdigit n.toNat⟩
  have hdatabase : '@' ∉ databaseChars d.database := by
    cases hd : d.database with
    | none => exact List.not_mem_nil
    | some text =>
      rw [databaseChars, List.mem_cons, not_or]
      exact ⟨by decide, h.database_at text hd⟩
  have hslash : '/' ∉ d.host.toList ++ portChars d.port := by
    rw [List.mem_append, not_or]
    exact ⟨h.host_slash, hport (by decide) rfl⟩
  have hat : '@' ∉ (d.host.toList ++ portChars d.port) ++ databaseChars d.database := by
    rw [List.mem_append, List.mem_append, not_or, not_or]
    exact ⟨⟨h.host_at, hport (by decide) rfl⟩, hdatabase⟩
  rw [parseRest_eq, credentials_append h.user_colon h.password_eq hat]
  dsimp only
  rw [location_append hslash h.database_ne]
  dsimp only
  rw [authority_append h.host_colon]
  exact if_neg h.host_ne

/-- A data source name with parts that its text tells apart is read back. -/
theorem parse_toText {d : Dsn} (h : d.IsSeparable) : parse d.toText = .ok d := by
  have hscheme : ':' ∉ (scheme d.legacy).toList := by
    cases d.legacy <;> decide
  rw [parse, toList_toText, Text.splitPiece?_append hscheme]
  dsimp only
  rw [String.ofList_toList]
  have hrest := parseRest_append h
  cases hl : d.legacy with
  | false =>
    rw [hl] at hrest
    rw [if_pos rfl, hrest]
  | true =>
    have hne : scheme true ≠ scheme false := by decide
    rw [hl] at hrest
    rw [if_neg hne, if_pos rfl, hrest]

namespace Shared

/-- Reads the credentials, with the text in front of the last `@` shared. -/
def credentials (buffer : Bytes) (read : Slice) : Option (Option Slice × Option Slice × Slice) := do
  match ← read.cut? (splitLast? '@') ['@'] buffer with
  | none => return (none, none, read)
  | some (front, rest) =>
    let shared ← (Slice.whole buffer).share? front
    match ← shared.cut? (splitFirst? ':') [':'] buffer with
    | none => return (some shared, none, rest)
    | some (user, password) => return (some (← shared.share? user), some (← shared.share? password), rest)

/-- Shares the host and port, and the database unless it is empty. -/
def location (buffer : Bytes) (read : Slice) : Option (Slice × Option Slice) := do
  let whole := Slice.whole buffer
  match ← read.cut? (splitFirst? '/') ['/'] buffer with
  | none => return (← whole.share? read, none)
  | some (front, rest) =>
    let authority ← whole.share? front
    if rest.start = rest.stop then return (authority, none)
    else return (authority, some (← whole.share? rest))

/-- Reads the port and shares the host. -/
def authority (buffer : Bytes) (shared : Slice) : Option (Except ConfigError (Slice × Option UInt16)) := do
  match ← shared.cut? (splitLast? ':') [':'] buffer with
  | none => return .ok (shared, none)
  | some (host, port) =>
    let text ← port.text? buffer
    match Text.unsigned? 16 text with
    | some port => return .ok (← shared.share? host, some (UInt16.ofNat port))
    | none => return .error (.invalidPort text)

/-- Reads what follows the scheme. -/
def parseRest (legacy : Bool) (buffer : Bytes) (read : Slice) : Option (Except ConfigError Dsn) := do
  let (user, password, rest) ← credentials buffer read
  let (hostAndPort, database) ← location buffer rest
  match ← authority buffer hostAndPort with
  | .error e => return .error e
  | .ok (host, port) =>
    if host.start = host.stop then return .error .missingHost
    else return .ok {
      legacy, port
      user := ← user.mapM (Slice.text? buffer)
      password := ← password.mapM (Slice.text? buffer)
      host := ← host.text? buffer
      database := ← database.mapM (Slice.text? buffer) }

/-- Reads a data source name in place. -/
def parse (text : String) : Option (Except ConfigError Dsn) := do
  let buffer := bytesOf text.toList
  match ← (Slice.whole buffer).cut? (splitPiece? [':', '/', '/']) [':', '/', '/'] buffer with
  | none => return .error (.invalidScheme "")
  | some (first, rest) =>
    let name ← first.text? buffer
    if name = scheme false then parseRest false buffer rest
    else if name = scheme true then parseRest true buffer rest
    else return .error (.invalidScheme name)

variable {buffer : Bytes} {read : Slice} {text : List Char}

/-- The credentials are read in place, and what is left stands for the rest. -/
theorem credentials_eq (h : read.Spells buffer text) :
    ∃ user password rest, credentials buffer read = some (user, password, rest) ∧
      user.mapM (Slice.text? buffer) = some (Dsn.credentials text).1 ∧
      password.mapM (Slice.text? buffer) = some (Dsn.credentials text).2.1 ∧
      rest.Spells buffer (Dsn.credentials text).2.2 := by
  unfold credentials Dsn.credentials
  cases hat : splitLast? '@' text with
  | none =>
    rw [h.cut?_of_none ['@'] hat]
    exact ⟨none, none, read, rfl, rfl, rfl, h⟩
  | some parts =>
    obtain ⟨chars, behind⟩ := parts
    obtain ⟨front, rest, hcut, hfront, -, hrest, -⟩ := h.cut?_of_some ['@'] hat (Text.eq_append_of_splitLast? hat)
    obtain ⟨shared, hshare, hshared⟩ := hfront.share? hfront.within_whole
    rw [hcut, Option.bind_eq_bind, Option.bind_some]
    dsimp only
    rw [hshare, Option.bind_eq_bind, Option.bind_some]
    cases hcolon : splitFirst? ':' chars with
    | none =>
      rw [hshared.cut?_of_none [':'] hcolon]
      refine ⟨some shared, none, rest, rfl, ?_, rfl, hrest⟩
      rw [Option.mapM_some, hshared.text?_eq]
      rfl
    | some parts =>
      obtain ⟨name, secret⟩ := parts
      obtain ⟨user, password, hcut, huser, hwithin, hpassword, hwithin'⟩ :=
        hshared.cut?_of_some [':'] hcolon (Text.eq_append_of_splitFirst? hcolon)
      obtain ⟨user', hshare, huser'⟩ := huser.share? hwithin
      obtain ⟨password', hshare', hpassword'⟩ := hpassword.share? hwithin'
      rw [hcut, Option.bind_some]
      dsimp only
      rw [hshare, hshare']
      refine ⟨some user', some password', rest, rfl, ?_, ?_, hrest⟩
      · rw [Option.mapM_some, huser'.text?_eq]
        rfl
      · rw [Option.mapM_some, hpassword'.text?_eq]
        rfl

/-- The host and port and the database are shared. -/
theorem location_eq (h : read.Spells buffer text) :
    ∃ hostAndPort database, location buffer read = some (hostAndPort, database) ∧
      hostAndPort.Spells buffer (Dsn.location text).1 ∧
      database.mapM (Slice.text? buffer) = some (Dsn.location text).2 := by
  unfold location Dsn.location
  cases hslash : splitFirst? '/' text with
  | none =>
    obtain ⟨shared, hshare, hshared⟩ := h.share? h.within_whole
    rw [h.cut?_of_none ['/'] hslash, Option.bind_eq_bind, Option.bind_some]
    dsimp only
    rw [hshare]
    exact ⟨shared, none, rfl, hshared, rfl⟩
  | some parts =>
    obtain ⟨chars, behind⟩ := parts
    obtain ⟨front, rest, hcut, hfront, -, hrest, -⟩ :=
      h.cut?_of_some ['/'] hslash (Text.eq_append_of_splitFirst? hslash)
    obtain ⟨shared, hshare, hshared⟩ := hfront.share? hfront.within_whole
    obtain ⟨database, hshare', hdatabase⟩ := hrest.share? hrest.within_whole
    rw [hcut, Option.bind_eq_bind, Option.bind_some]
    dsimp only
    rw [hshare, Option.bind_eq_bind, Option.bind_some]
    by_cases hempty : behind = []
    · rw [if_pos (hrest.start_eq_stop.mpr hempty), hempty]
      exact ⟨shared, none, rfl, hshared, rfl⟩
    · have hne : rest.start ≠ rest.stop := fun heq => hempty (hrest.start_eq_stop.mp heq)
      rw [if_neg hne, hshare', List.isEmpty_eq_false_iff.mpr hempty]
      refine ⟨shared, some database, rfl, hshared, ?_⟩
      rw [Option.mapM_some, hdatabase.text?_eq]
      rfl

/-- The port is read and the host is shared. -/
theorem authority_eq (h : read.Spells buffer text) :
    (∃ e, authority buffer read = some (.error e) ∧ Dsn.authority text = .error e) ∨
      ∃ host chars port, authority buffer read = some (.ok (host, port)) ∧
        Dsn.authority text = .ok (String.ofList chars, port) ∧ host.Spells buffer chars := by
  unfold authority Dsn.authority
  cases hcolon : splitLast? ':' text with
  | none =>
    rw [h.cut?_of_none [':'] hcolon]
    exact .inr ⟨read, text, none, rfl, rfl, h⟩
  | some parts =>
    obtain ⟨chars, digits⟩ := parts
    obtain ⟨host, port, hcut, hhost, hwithin, hport, -⟩ :=
      h.cut?_of_some [':'] hcolon (Text.eq_append_of_splitLast? hcolon)
    obtain ⟨host', hshare, hhost'⟩ := hhost.share? hwithin
    rw [hcut, Option.bind_eq_bind, Option.bind_some]
    dsimp only
    rw [hport.text?_eq, Option.bind_eq_bind, Option.bind_some]
    cases hnumber : Text.unsigned? 16 (String.ofList digits) with
    | none => exact .inl ⟨_, rfl, rfl⟩
    | some n =>
      dsimp only
      rw [hshare]
      exact .inr ⟨host', chars, _, rfl, rfl, hhost'⟩

/-- What follows the scheme is read in place. -/
theorem parseRest_eq (legacy : Bool) (h : read.Spells buffer text) :
    parseRest legacy buffer read = some (Dsn.parseRest legacy text) := by
  obtain ⟨user, password, rest, hcredentials, huser, hpassword, hrest⟩ := credentials_eq h
  obtain ⟨hostAndPort, database, hlocation, hauthority, hdatabase⟩ := location_eq hrest
  rw [parseRest, hcredentials, Option.bind_eq_bind, Option.bind_some]
  dsimp only
  rw [hlocation, Option.bind_eq_bind, Option.bind_some]
  dsimp only
  rw [Dsn.parseRest_eq]
  obtain ⟨e, hfailed, heq⟩ | ⟨host, chars, port, hread, heq, hhost⟩ := authority_eq hauthority
  · rw [hfailed, heq]
    rfl
  · rw [hread, heq, Option.bind_eq_bind, Option.bind_some]
    dsimp only
    by_cases hempty : chars = []
    · rw [if_pos (hhost.start_eq_stop.mpr hempty), hempty]
      rfl
    · have hne : host.start ≠ host.stop := fun heq => hempty (hhost.start_eq_stop.mp heq)
      have hname : String.ofList chars ≠ "" := fun heq => hempty (String.ofList_eq_empty_iff.mp heq)
      rw [if_neg hne, if_neg hname, huser, hpassword, hdatabase, hhost.text?_eq]
      rfl

/-- A data source name is read in place: no slice is out of range or inside of a character, and none that is
shared lies outside of what shares it. -/
theorem parse_eq (text : String) : parse text = some (Dsn.parse text) := by
  have hwhole := Slice.spells_whole text.toList
  rw [parse, Dsn.parse]
  dsimp only
  cases hscheme : splitPiece? [':', '/', '/'] text.toList with
  | none =>
    rw [hwhole.cut?_of_none [':', '/', '/'] hscheme]
    rfl
  | some parts =>
    obtain ⟨name, behind⟩ := parts
    obtain ⟨first, rest, hcut, hfirst, -, hrest, -⟩ :=
      hwhole.cut?_of_some [':', '/', '/'] hscheme (Text.eq_append_of_splitPiece? hscheme)
    rw [hcut, Option.bind_eq_bind, Option.bind_some]
    dsimp only
    rw [hfirst.text?_eq, Option.bind_eq_bind, Option.bind_some, parseRest_eq false hrest, parseRest_eq true hrest]
    split
    · rfl
    · split <;> rfl

end Shared

/-- What a text can fail to be read for. -/
def IsRefusal : ConfigError → Prop
  | .invalidScheme _ | .invalidPort _ | .missingHost => True
  | .invalidTlsMode _ => False

/-- A host and port are refused for the port. -/
theorem isRefusal_of_authority {text : List Char} {e : ConfigError} (h : authority text = .error e) :
    IsRefusal e := by
  unfold authority at h
  split at h
  next => cases h
  next =>
    split at h
    next => cases h
    next =>
      cases h
      trivial

/-- What follows the scheme is refused for the port or the host. -/
theorem isRefusal_of_parseRest {legacy : Bool} {text : List Char} {e : ConfigError}
    (h : parseRest legacy text = .error e) : IsRefusal e := by
  rw [parseRest_eq] at h
  split at h
  next hauthority =>
    cases h
    exact isRefusal_of_authority hauthority
  next =>
    split at h
    next =>
      cases h
      trivial
    next => cases h

/-- A text is refused for the scheme, the port or the host. -/
theorem isRefusal_of_parse {text : String} {e : ConfigError} (h : parse text = .error e) : IsRefusal e := by
  unfold parse at h
  split at h
  next =>
    cases h
    trivial
  next =>
    dsimp only at h
    split at h
    next => exact isRefusal_of_parseRest h
    next =>
      split at h
      next => exact isRefusal_of_parseRest h
      next =>
        cases h
        trivial

end Dsn

namespace Config

/-- Reads the settings in place. -/
def parseShared (text : String) : Option (Except ConfigError Config) :=
  (Dsn.Shared.parse text).map (Except.map ofDsn)

/-- The settings of a data source name are read back from its text, with defaults for what it leaves out. Every
other text is read in place without a slice out of range, and gives settings or one of three errors. -/
theorem parse_toText_and_settles :
    (∀ d : Dsn, d.IsSeparable → parse d.toText = .ok {
      host := d.host
      port := d.port.getD 5656
      user := d.user.getD "edgedb"
      password := d.password.getD ""
      database := d.database.getD "edgedb" }) ∧
    ∀ text, parseShared text = some (parse text) ∧
      ((∃ c, parse text = .ok c) ∨ ∃ e, parse text = .error e ∧ Dsn.IsRefusal e) := by
  refine ⟨fun d hd => ?_, fun text => ⟨?_, ?_⟩⟩
  · rw [parse, Dsn.parse_toText hd]
    rfl
  · rw [parseShared, Dsn.Shared.parse_eq]
    rfl
  · rw [parse]
    cases h : Dsn.parse text with
    | ok d => exact .inl ⟨ofDsn d, rfl⟩
    | error e => exact .inr ⟨e, rfl, Dsn.isRefusal_of_parse h⟩

/-- A data source name with every delimiter in the wrong place. -/
def awkwardDsn : Dsn where
  legacy := true
  user := some "me@home/"
  password := some "p/w@rd:x"
  host := "[::1]"
  port := some 10700
  database := some "a/b:c"

/-- Each part of the awkward name is found. -/
theorem parse_toText_and_settles_awkward :
    awkwardDsn.toText = "edgedb://me@home/:p/w@rd:x@[::1]:10700/a/b:c" ∧ awkwardDsn.IsSeparable ∧
      parse awkwardDsn.toText = .ok {
        host := "[::1]", port := 10700, user := "me@home/", password := "p/w@rd:x", database := "a/b:c" } := by
  have hseparable : awkwardDsn.IsSeparable := by
    constructor
    case user_colon =>
      rintro _ ⟨⟩
      decide
    case database_at =>
      rintro _ ⟨⟩
      decide
    all_goals decide
  exact ⟨by decide, hseparable, parse_toText_and_settles.1 awkwardDsn hseparable⟩

end Config

end GelClient
