import PromptBroker.Http.Domain
import PromptBroker.Http.Escape

/-!
# Paths of addresses

Which characters separate the parts of an address depends on the kind of its
scheme. A path is read segment by segment: a dot segment stands for the place it
is in and goes away, a double dot takes the segment in front of it away. A drive
letter, a segment such as `c:`, is the root of a drive; nothing takes it away.
-/

namespace PromptBroker.Http

/-! ### Kinds of schemes -/

/-- Kinds of schemes. -/
inductive SchemeKind where
  /-- Names a host of the web. -/
  | web
  /-- Names a file, on some host or here. -/
  | file
  /-- Has rules of its own. -/
  | other
  deriving DecidableEq, Repr

/-- The number that a web scheme implies. -/
def defaultPort? (scheme : List Char) : Option Nat :=
  match String.ofList scheme with
  | "http" => some 80
  | "https" => some 443
  | "ws" => some 80
  | "wss" => some 443
  | "ftp" => some 21
  | _ => none

namespace SchemeKind

/-- The kind of a scheme. -/
def of (scheme : List Char) : SchemeKind :=
  if (defaultPort? scheme).isSome then .web
  else if String.ofList scheme = "file" then .file
  else .other

/-- The slashes of an address: backslashes count as well, unless the scheme has its own rules. -/
def isSlash (kind : SchemeKind) (c : Char) : Bool := c == '/' || (kind != .other && c == '\\')

/-- What is encoded in a query. -/
def querySet (kind : SchemeKind) : Char → Bool :=
  if kind = .other then Escape.querySet else Escape.webQuerySet

end SchemeKind

namespace Path

/-! ### Segments -/

/-- A segment that stands for the place it is in. -/
def isDot (segment : List Char) : Bool :=
  ["." , "%2e"].contains (String.ofList (segment.map Char.toLower))

/-- A segment that stands for the place above. -/
def isDoubleDot (segment : List Char) : Bool :=
  ["..", ".%2e", "%2e.", "%2e%2e"].contains (String.ofList (segment.map Char.toLower))

/-- A letter with a colon, or with the bar that some write for it. -/
def isDrive : List Char → Bool
  | [c, mark] => c.isAlpha && (mark == ':' || mark == '|')
  | _ => false

/-- The segments above the latest one, latest first. -/
def above : List (List Char) → List (List Char)
  | [] => []
  | latest :: rest => if isDrive latest then latest :: rest else rest

/-- The written form of a segment. At the root of a file path a drive letter gets its colon. -/
def written (kind : SchemeKind) (atRoot : Bool) (segment : List Char) : List Char :=
  if kind = .file && atRoot && isDrive segment then segment.take 1 ++ [':']
  else Escape.encode Escape.pathSet segment

/-- Resolves segments onto those already there, latest first. A dot segment at the end leaves an
empty segment. -/
def resolve (kind : SchemeKind) (done : List (List Char)) :
    List (List Char) → List (List Char)
  | [] => done
  | [last] =>
    if isDoubleDot last then [] :: above done
    else if isDot last then [] :: done
    else written kind done.isEmpty last :: done
  | segment :: rest =>
    if isDoubleDot segment then resolve kind (above done) rest
    else if isDot segment then resolve kind done rest
    else resolve kind (written kind done.isEmpty segment :: done) rest

/-! ### Texts -/

/-- The segments of a path text, which may begin with a slash. -/
def split (kind : SchemeKind) (cs : List Char) : List (List Char) :=
  let cs :=
    match cs with
    | c :: rest => if kind.isSlash c then rest else c :: rest
    | [] => []
  splitAtChars kind.isSlash cs

/-- The resolved segments of a path text, in order. -/
def segments (kind : SchemeKind) (done : List (List Char)) (cs : List Char) :
    List (List Char) :=
  (resolve kind done (split kind cs)).reverse

/-- The path of segments. -/
def ofSegments (segments : List (List Char)) : List Char := segments.flatMap ('/' :: ·)

/-- The segments without empty ones at the front; a last one stays. -/
def trimmed : List (List Char) → List (List Char)
  | [] :: next :: rest => trimmed (next :: rest)
  | segments => segments

/-- The directory that a path is in, latest segment first. -/
def directory (path : List Char) : List (List Char) :=
  (splitAtChars (· == '/') (path.drop 1)).dropLast.reverse

end Path

end PromptBroker.Http
