import PromptBroker.Text.Blank
import PromptBroker.Text.Utf16

/-!
# Encodings of text

Bytes from the network come with a label that names their encoding, or without one.
A byte order mark at their front says better: it decides, whatever has been
announced, and is no part of the text (`decode_eq_iff`). The marks and labels are
those of the Encoding Standard.

The encodings of Unicode are read here. Of the many others nothing is assumed:
`Charsets` says which of them are known, and how they are read.
-/

namespace PromptBroker.Text

/-- The encodings other than those of Unicode: how bytes are read under a label, which is in lower
case and without blanks around it. -/
abbrev Charsets := String → Option (ByteArray → String)

/-- How bytes are read as text. -/
inductive Encoding where
  | utf8
  | utf16 (order : Utf16.Order)
  | other (read : ByteArray → String)

namespace Encoding

/-- The text that bytes stand for. What stands for nothing is replaced. -/
def read : Encoding → ByteArray → String
  | utf8, bytes => Utf8.decodeLossy bytes
  | utf16 order, bytes => Utf16.decodeLossy order bytes
  | other read, bytes => read bytes

/-! ### Labels -/

/-- The labels of the encodings of Unicode. -/
def labels : List (String × Encoding) :=
  ["unicode-1-1-utf-8", "unicode11utf8", "unicode20utf8", "utf-8", "utf8",
    "x-unicode20utf8"].map (·, utf8) ++
  ["unicodefffe", "utf-16be"].map (·, utf16 .bigEndian) ++
  ["csunicode", "iso-10646-ucs-2", "ucs-2", "unicode", "unicodefeff", "utf-16",
    "utf-16le"].map (·, utf16 .littleEndian)

/-- The encoding that a label names. -/
def ofLabel? (charsets : Charsets) (label : String) : Option Encoding :=
  let name := canonicalName label
  (labels.lookup name).or ((charsets name).map other)

/-! ### Marks -/

/-- The byte order marks. -/
def marks : List (List UInt8 × Encoding) :=
  [([0xEF, 0xBB, 0xBF], utf8), ([0xFE, 0xFF], utf16 .bigEndian),
    ([0xFF, 0xFE], utf16 .littleEndian)]

/-- The text that bytes stand for, if they have been announced to be in some encoding. -/
def decode (announced : Encoding) (bytes : ByteArray) : String :=
  match marks.find? fun m => m.1.isPrefixOf bytes.data.toList with
  | some (mark, marked) => marked.read (bytes.extract mark.length bytes.size)
  | none => announced.read bytes

/-- What is read in bytes that have been announced to be in some encoding. A mark decides, and what
is behind it is the text; without a mark they are what they have been announced to be. -/
inductive Reads (announced : Encoding) : ByteArray → String → Prop
  | marked {mark marked} (among : (mark, marked) ∈ marks) (rest : ByteArray) :
      Reads announced (⟨mark.toArray⟩ ++ rest) (marked.read rest)
  | unmarked {bytes : ByteArray} (unmarked : ∀ m ∈ marks, ¬m.1 <+: bytes.data.toList) :
      Reads announced bytes (announced.read bytes)

variable {announced : Encoding} {bytes : ByteArray} {text : String}

/-- No mark begins with another one, so that at most one of them is there. -/
theorem find?_marks {mark : List UInt8} {marked : Encoding} (among : (mark, marked) ∈ marks)
    (rest : List UInt8) :
    (marks.find? fun m => m.1.isPrefixOf (mark ++ rest)) = some (mark, marked) := by
  simp only [marks, List.mem_cons, List.not_mem_nil, or_false, Prod.mk.injEq] at among
  rcases among with ⟨rfl, rfl⟩ | ⟨rfl, rfl⟩ | ⟨rfl, rfl⟩ <;> rfl

theorem Reads.decode_eq (reads : announced.Reads bytes text) : announced.decode bytes = text := by
  cases reads with
  | @marked mark marked among rest =>
    have behind : (⟨mark.toArray⟩ ++ rest : ByteArray).extract mark.length
        (⟨mark.toArray⟩ ++ rest : ByteArray).size = rest :=
      ByteArray.extract_append_eq_right rfl ByteArray.size_append
    rw [decode, ByteArray.data_append, Array.toList_append, find?_marks among]
    exact congrArg marked.read behind
  | unmarked unmarked =>
    have none : (marks.find? fun m => m.1.isPrefixOf bytes.data.toList) = none :=
      List.find?_eq_none.2 fun m mem => by simpa using unmarked m mem
    rw [decode, none]

theorem exists_reads (announced : Encoding) (bytes : ByteArray) :
    ∃ text, announced.Reads bytes text := by
  by_cases found : ∃ m ∈ marks, m.1 <+: bytes.data.toList
  · obtain ⟨⟨mark, marked⟩, among, rest, front⟩ := found
    obtain rfl : bytes = ⟨mark.toArray⟩ ++ ⟨rest.toArray⟩ := by
      refine ByteArray.ext (Array.toList_inj.1 ?_)
      rw [ByteArray.data_append, Array.toList_append, ← front]
    exact ⟨_, .marked among _⟩
  · exact ⟨_, .unmarked fun m mem front => found ⟨m, mem, front⟩⟩

/-- There is one text to be read, and it is found. -/
theorem decode_eq_iff : announced.decode bytes = text ↔ announced.Reads bytes text := by
  refine ⟨fun decoded => ?_, Reads.decode_eq⟩
  obtain ⟨said, reads⟩ := exists_reads announced bytes
  exact decoded ▸ reads.decode_eq.symm ▸ reads

end Encoding

end PromptBroker.Text
