import PromptBroker.Http.Address
import PromptBroker.Http.Path

/-!
# Web addresses

Addresses are read and written by the URL standard. Reading brings an address
into its one written form: scheme and host in lower case, dot segments resolved,
the number behind the host left out where the scheme implies it, and characters
that may not stand in a part percent-encoded as UTF-8. `Url.join?` resolves a
reference against an address, as redirects need it.
-/

namespace PromptBroker.Http

/-- An address in its parts, each in written form. -/
structure Url where
  scheme : List Char
  user : List Char := []
  password : List Char := []
  /-- Absent for addresses that name no place at all; empty where the place is this one. -/
  host : Option (List Char) := none
  /-- The number behind the host; absent if the scheme implies it. -/
  portNumber : Option Nat := none
  /-- Begins with a slash unless the path is opaque or empty. -/
  path : List Char := []
  query : Option (List Char) := none
  fragment : Option (List Char) := none
  deriving DecidableEq, Repr

namespace Url

/-- The kind of the scheme. -/
def kind (u : Url) : SchemeKind := .of u.scheme

/-- Whether the address can be called. -/
def isHttp (u : Url) : Bool :=
  u.scheme == "http".toList || u.scheme == "https".toList

/-! ### Schemes -/

/-- The scheme in lower case, and the text behind its colon. -/
def splitScheme? (cs : List Char) : Option (List Char × List Char) :=
  let allowed := fun (c : Char) => c.isAlphanum || c == '+' || c == '-' || c == '.'
  match cs, cs.takeWhile allowed, cs.dropWhile allowed with
  | c :: _, scheme, ':' :: rest =>
    if c.isAlpha then some (scheme.map Char.toLower, rest) else none
  | _, _, _ => none

/-! ### Authority -/

/-- The text in front of the last at sign, if there is one, and the text behind it. -/
def splitLogin (cs : List Char) : Option (List Char) × List Char :=
  let r := cs.reverse
  match r.dropWhile (· != '@') with
  | [] => (none, cs)
  | _ :: front => (some front.reverse, (r.takeWhile (· != '@')).reverse)

/-- A host and the text behind its colon, if there is one; a colon inside brackets separates
nothing. -/
def splitPort (cs : List Char) : List Char × Option (List Char) :=
  let bracketed := cs.head? == some '['
  let front := if bracketed then cs.takeWhile (· != ']') else cs.takeWhile (· != ':')
  let rest := cs.drop front.length
  match bracketed, rest with
  | true, ']' :: rest =>
    match rest with
    | ':' :: number => (front ++ [']'], some number)
    | _ => (front ++ ']' :: rest, none)
  | _, ':' :: number => (front, some number)
  | _, _ => (cs, none)

/-- The number behind a host, below `2 ^ 16`; no digits are no number. -/
def portNumber? (digits : List Char) : Option (Option Nat) :=
  if digits = [] then some none
  else ((Decimal.readNat? digits).filter (· < 65536)).map some

/-- The address with user name and password read from the text in front of the at sign. -/
def withLogin (u : Url) (login : List Char) : Url :=
  let user := login.takeWhile (· != ':')
  { u with
    user := Escape.encode Escape.userSet user
    password := Escape.encode Escape.userSet (login.drop (user.length + 1)) }

/-- The address with a host. An empty one has neither user nor number. -/
def withHost? (u : Url) (host : List Char) (portText : Option (List Char)) : Option Url := do
  let number ← portNumber? (portText.getD [])
  if host = [] && (portText.isSome || u.user ≠ [] || u.password ≠ []) then none
  else
    some
      { u with
        host := some host
        portNumber := if number == defaultPort? u.scheme then none else number }

/-- Reads what follows the slashes of an authority: authority, then path. Behind the number of a
host a backslash begins the path even where it is no slash. -/
def readAuthority? (u : Url) (cs : List Char) : Option Url := do
  let authority := cs.takeWhile fun c => !u.kind.isSlash c
  let (login, place) := splitLogin authority
  if login = some [] && place = [] then none
  else
    let (hostText, behindColon) := splitPort place
    let portText := behindColon.map (·.takeWhile Char.isDigit)
    let surplus := (behindColon.getD []).dropWhile Char.isDigit
    let host ← if u.kind = .other then plainHost? hostText else host? hostText
    let u ← (u.withLogin (login.getD [])).withHost? host portText
    let rest := cs.drop authority.length
    match surplus with
    | [] =>
      if rest = [] && u.kind = .other then some u
      else some { u with path := Path.ofSegments (Path.segments u.kind [] rest) }
    | c :: _ =>
      if c = '\\' then
        some { u with path := Path.ofSegments (Path.segments u.kind [] ('/' :: (surplus ++ rest))) }
      else none

/-! ### Files -/

/-- The address of a file on this host if `host` is empty. A drive is always here. -/
def ofFile (host path : List Char) : Url :=
  let segments := Path.segments .file [] path
  { scheme := "file".toList
    host := some (if (segments.head?.map Path.isDrive).getD false then [] else host)
    path := Path.ofSegments (Path.trimmed segments) }

/-- Reads what follows the scheme of a file address. Two slashes begin a host, unless that would
be a drive letter; the name for this host is left out. -/
def readFile? (cs : List Char) : Option Url :=
  match cs with
  | a :: b :: rest =>
    if SchemeKind.file.isSlash a && SchemeKind.file.isSlash b then
      let hostText := rest.takeWhile fun c => !SchemeKind.file.isSlash c
      if Path.isDrive hostText then some (ofFile [] rest)
      else if hostText = [] then some (ofFile [] rest)
      else
        (host? hostText).map fun host =>
          ofFile (if String.ofList host = "localhost" then [] else host)
            (rest.drop hostText.length)
    else some (ofFile [] cs)
  | _ => some (ofFile [] cs)

/-! ### Reading -/

/-- The text without blanks and controls at its ends, and without tabs and line breaks. -/
def cleaned (cs : List Char) : List Char :=
  let edge := fun (c : Char) => c.toNat ≤ 0x20
  ((cs.dropWhile edge).reverse.dropWhile edge).reverse.filter fun c =>
    c != '\t' && c != '\n' && c != '\r'

/-- The part in front of a character and, if it occurs, the part behind it. -/
def cutAt (c : Char) (cs : List Char) : List Char × Option (List Char) :=
  match cs.dropWhile (· != c) with
  | [] => (cs, none)
  | _ :: rest => (cs.takeWhile (· != c), some rest)

/-- The address with query and fragment put in. -/
def withTail (u : Url) (query fragment : Option (List Char)) : Url :=
  { u with
    query := query.map (Escape.encode u.kind.querySet)
    fragment := fragment.map (Escape.encode Escape.fragmentSet) }

/-- Reads what follows a scheme that has its own rules. An at sign that stands alone for an
authority is passed over if the address ends there. -/
def readOther? (scheme cs : List Char) (ended : Bool) : Option Url :=
  match cs with
  | '/' :: '/' :: after =>
    readAuthority? { scheme := scheme } (if ended && after = ['@'] then [] else after)
  | '/' :: _ =>
    some { scheme := scheme, path := Path.ofSegments (Path.segments .other [] cs) }
  | _ => some { scheme := scheme, path := Escape.encode Escape.controlSet cs }

/-- Resolves a reference without a scheme against a base; query and fragment are cut off. -/
def joinPath? (base : Url) (cs : List Char) (query : Option (List Char)) : Option Url :=
  match cs with
  | a :: b :: rest =>
    if base.kind.isSlash a && base.kind.isSlash b then
      readAuthority? { scheme := base.scheme }
        (if a = '/' && b = '/' then rest else rest.dropWhile base.kind.isSlash)
    else some (single (a :: b :: rest))
  | cs => some (single cs)
where
  /-- A path of its own, or one below the base's directory. -/
  single (cs : List Char) : Url :=
    match cs with
    | [] => { base with fragment := none, query := if query.isSome then query else base.query }
    | c :: _ =>
      let directory := if base.kind.isSlash c then [] else Path.directory base.path
      { base with
        path := Path.ofSegments (Path.segments base.kind directory cs)
        query := none }

/-- Reads an address, against a base if there is one. -/
def read? (base : Option Url) (text : String) : Option Url := do
  let (front, fragment) := cutAt '#' (cleaned text.toList)
  let (front, query) := cutAt '?' front
  match splitScheme? front with
  | some (scheme, rest) =>
    let sameScheme := base.filter fun b =>
      b.scheme == scheme && (rest.takeWhile b.kind.isSlash).length < 2
    let u ←
      match SchemeKind.of scheme, sameScheme with
      | .web, some b => joinPath? b rest query
      | .web, none => readAuthority? { scheme := scheme } (rest.dropWhile SchemeKind.web.isSlash)
      | .file, _ => readFile? rest
      | .other, _ => readOther? scheme rest (query.isNone && fragment.isNone)
    some (u.withTail query fragment)
  | none =>
    let b ← base
    let u ← joinPath? b front query
    if front = [] && query.isNone then
      some { u with fragment := fragment.map (Escape.encode Escape.fragmentSet) }
    else some (u.withTail query fragment)

/-- Reads an absolute address. -/
def parse? (text : String) : Option Url := read? none text

/-- Resolves a reference against an address. -/
def join? (base : Url) (reference : String) : Option Url := read? (some base) reference

/-! ### Writing -/

/-- The user information in front of a host. -/
def loginChars (u : Url) : List Char :=
  if u.user = [] && u.password = [] then []
  else u.user ++ (if u.password = [] then [] else ':' :: u.password) ++ ['@']

/-- Host and path. A path that would be taken for a host is kept apart by a dot segment. -/
def placeChars (u : Url) : List Char :=
  match u.host with
  | some h =>
    '/' :: '/' :: (u.loginChars ++ h ++
      (match u.portNumber with
      | some p => ':' :: Decimal.digitChars p
      | none => []) ++ u.path)
  | none =>
    match u.path with
    | '/' :: '/' :: _ => '/' :: '.' :: u.path
    | path => path

/-- The written form. -/
def chars (u : Url) : List Char :=
  u.scheme ++ ':' :: (u.placeChars ++
    (match u.query with
    | some q => '?' :: q
    | none => []) ++
    (match u.fragment with
    | some f => '#' :: f
    | none => []))

/-- The written form. -/
def toText (u : Url) : String := String.ofList u.chars

/-- The address without user information. -/
def withoutLogin (u : Url) : Url := { u with user := [], password := [] }

/-- Whether the user information is text, so that it can be given as credentials. -/
def hasPlainLogin (u : Url) : Bool :=
  (Escape.decodeText? u.user).isSome &&
    (u.user ≠ [] || u.password = [] || (Escape.decodeText? u.password).isSome)

/-- The address without the user information that goes into credentials. -/
def detached (u : Url) : Url := if u.hasPlainLogin then u.withoutLogin else u

/-- The address as it is sent: without user information and fragment. -/
def asSent (u : Url) : Url := { u.withoutLogin with fragment := none }

end Url

end PromptBroker.Http
