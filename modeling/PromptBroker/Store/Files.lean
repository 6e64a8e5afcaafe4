import PromptBroker.Decimal.Layout
import PromptBroker.Failure
import PromptBroker.Keyed

/-!
# Stored files

Outputs that are files are stored for the caller and handed out as addresses. The
address names the owner and the file: the base address, user, context and item,
then the file name, each behind a slash. A file name must not be empty and must
not hold a slash.
-/

namespace PromptBroker

/-- Where a file belongs. -/
structure Owner where
  user : Int
  context : Int
  item : Int
  deriving DecidableEq, Repr

/-- The stored files by address. -/
structure Files where
  base : String
  entries : Keyed ByteArray := []

namespace Files

/-- An empty store. Slashes at the end of the base address are dropped. -/
def empty (base : String) : Files :=
  { base := String.ofList ((base.toList.reverse.dropWhile (· == '/')).reverse) }

/-- The base address unless another one is given. -/
def defaultBase : String := "memory://draftfile"

/-- Whether a text may serve as a file name. -/
def isFilename (s : String) : Bool := s != "" && !s.contains '/'

/-- The address of a file. -/
def address (f : Files) (o : Owner) (filename : String) : String :=
  String.ofList (f.base.toList ++ '/' :: Decimal.intChars o.user ++ '/' ::
    Decimal.intChars o.context ++ '/' :: Decimal.intChars o.item ++ '/' :: filename.toList)

/-- The file at an address. -/
def get? (f : Files) (address : String) : Option ByteArray :=
  f.entries.get? address

/-- Stores a file, in place of the one that was there, and tells its address. -/
def put (f : Files) (o : Owner) (filename : String) (bytes : ByteArray) :
    Outcome (String × Files) :=
  if isFilename filename then
    let address := f.address o filename
    .ok (address, { f with entries := f.entries.insert address bytes })
  else .error (.invalidParameter "filename" "a plain, non-empty file name is required")

end Files

end PromptBroker
