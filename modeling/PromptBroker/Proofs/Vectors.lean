import PromptBroker.Connector.VectorStore
import PromptBroker.Proofs.Decimal.Plain
import PromptBroker.Proofs.Decimal.Single
import PromptBroker.Proofs.Kinds
import PromptBroker.Proofs.Request.Verdict
import PromptBroker.Proofs.VectorStore.RoundTrip

/-!
# Vectors in text

A response carries text, so the vector of a text is written with commas between its
entries and read back from there. Nothing gets lost between the two: the parts between
the commas are the entries as they were written, each a literal that trimming leaves
alone, and so every vector with an entry is read back entry by entry
(`readVector_join`). What else is read as a vector is said for all texts
(`exists_readVector_iff`). The payload for a vector store carries the vector as it was
read, in this order (`carried?_of_payload`).
-/

namespace PromptBroker

namespace Embedding

open Decimal (plain FloatLiteral readFloat32 literal_plain plain_listable)

variable {text : String} {part : List Char} {x : Float32} {xs : List Float32}
  {vector : List Float}

/-! ### Reading -/

theorem readEntry_eq_ok :
    readEntry part = .ok x ↔ readFloat32 (Text.trimChars part) = .ok x := by
  unfold readEntry
  dsimp only
  cases readFloat32 (Text.trimChars part) <;> simp

/-- A vector is read entry by entry. -/
theorem readVector_eq_ok : readVector text = .ok xs ↔ Text.isAllBlank text = false ∧
    List.Forall₂ (fun part x => readFloat32 (Text.trimChars part) = .ok x)
      (parts text.toList) xs := by
  unfold readVector
  cases Text.isAllBlank text with
  | true => simp
  | false => simp [Outcome.mapM_eq_ok, readEntry_eq_ok]

theorem exists_readFloat32_iff {cs : List Char} :
    (∃ x, readFloat32 cs = .ok x) ↔ ∃ negative m, FloatLiteral cs negative m := by
  simp only [Decimal.readFloat32_eq_ok]
  constructor
  · rintro ⟨x, negative, m, literal, -⟩
    exact ⟨negative, m, literal⟩
  · rintro ⟨negative, m, literal⟩
    exact ⟨_, negative, m, literal, rfl⟩

/-- A text is read as a vector if it is not blank and has nothing but literals between its commas,
and blanks around them. -/
theorem exists_readVector_iff : (∃ xs, readVector text = .ok xs) ↔
    Text.isAllBlank text = false ∧ ∀ part ∈ text.toList.splitOn ',',
      ∃ negative m, FloatLiteral (Text.trimChars part) negative m := by
  simp only [readVector_eq_ok, exists_and_left, ← exists_readFloat32_iff]
  refine and_congr_right fun _ => ?_
  rw [parts]
  generalize text.toList.splitOn ',' = ps
  induction ps with
  | nil => simp
  | cons p ps ih =>
    rw [List.forall_mem_cons, ← ih]
    constructor
    · rintro ⟨_, _ | ⟨first, rest⟩⟩
      exact ⟨⟨_, first⟩, _, rest⟩
    · rintro ⟨⟨x, first⟩, xs, rest⟩
      exact ⟨x :: xs, .cons first rest⟩

/-! ### Writing -/

/-- What stands between the commas of a vector are its entries. -/
theorem parts_join (filled : vector ≠ []) :
    parts (join vector).toList = vector.map fun x => (plain x).toList := by
  rw [parts, join, String.toList_intercalate, List.map_map]
  refine List.splitOn_intercalate ',' ?_ (by simpa using filled)
  rintro _ entry comma
  obtain ⟨x, -, rfl⟩ := List.mem_map.1 entry
  exact (plain_listable x ',' comma).1 rfl

theorem trimChars_plain (x : Float) : Text.trimChars (plain x).toList = (plain x).toList := by
  refine Text.trimChars_of_edges ?_ ?_
  · cases first : (plain x).toList.head? with
    | none => rfl
    | some c => exact (plain_listable x c (List.mem_of_head? first)).2
  · cases last : (plain x).toList.getLast? with
    | none => rfl
    | some c => exact (plain_listable x c (List.mem_of_getLast? last)).2

/-- The first entry is written first. -/
theorem exists_toList_join (x : Float) (vector : List Float) :
    ∃ rest, (join (x :: vector)).toList = (plain x).toList ++ rest := by
  rw [join, String.toList_intercalate]
  cases vector with
  | nil => exact ⟨[], by simp [List.intercalate]⟩
  | cons y vector => exact ⟨_, by simp [List.intercalate]; rfl⟩

/-- A vector with an entry is not blank. -/
theorem isAllBlank_join (filled : vector ≠ []) : Text.isAllBlank (join vector) = false := by
  cases vector with
  | nil => exact absurd rfl filled
  | cons x vector =>
    obtain ⟨negative, m, literal⟩ := literal_plain x
    obtain ⟨c, cs, first⟩ := List.exists_cons_of_ne_nil literal.ne_nil
    obtain ⟨rest, written⟩ := exists_toList_join x vector
    have visible : Text.isBlank c = false := (plain_listable x c (by simp [first])).2
    simp [Text.isAllBlank, String.all_bool_eq, written, first, visible]

/-- A vector with an entry is read back, each entry as the number that its text stands for. -/
theorem readVector_join (filled : vector ≠ []) : ∃ xs, readVector (join vector) = .ok xs ∧
    List.Forall₂ (fun x y => readFloat32 (plain x).toList = .ok y) vector xs := by
  have read : ∃ xs, List.Forall₂ (fun x y => readFloat32 (plain x).toList = .ok y) vector xs := by
    clear filled
    induction vector with
    | nil => exact ⟨[], .nil⟩
    | cons x vector ih =>
      obtain ⟨y, first⟩ := exists_readFloat32_iff.2 (literal_plain x)
      obtain ⟨ys, rest⟩ := ih
      exact ⟨y :: ys, .cons first rest⟩
  obtain ⟨xs, read⟩ := read
  refine ⟨xs, readVector_eq_ok.2 ⟨isAllBlank_join filled, ?_⟩, read⟩
  rw [parts_join filled, List.forall₂_map_left_iff]
  exact read.imp fun x y first => by rwa [trimChars_plain]

/-- Nothing is written for a vector without entries, and nothing read. -/
theorem readVector_join_nil :
    readVector (join []) = .error (.malformedResponse "embedding is empty") := by
  have blank : Text.isAllBlank (join []) = true := by simp [Text.isAllBlank, join]
  rw [readVector, if_pos blank]

/-! ### Answers -/

theorem mapM_asFloat?_numbers (numbers : List Json.Number) :
    (numbers.map Json.number).mapM Json.asFloat? = some (numbers.map Json.Number.toFloat) := by
  induction numbers with
  | nil => rfl
  | cons n numbers ih =>
    rw [List.map_cons, List.mapM_cons, ih]
    rfl

/-- The numbers of an answer, each in its place. -/
theorem decode_of_numbers {i : Instance} {body : ByteArray} {v : Json} {numbers : List Json.Number}
    (read : Json.readBytes body = .ok v)
    (found : v.at? [.key "data", .item 0, .key "embedding"] =
      some (.array (numbers.map .number))) :
    ∃ model usage, decode i body =
      .ok (.text model usage (join (numbers.map Json.Number.toFloat))) := by
  unfold decode
  rw [VectorStore.readJson_of_readBytes read]
  simp only [bind, Except.bind, found, Option.bind_some, Json.asArray?, mapM_asFloat?_numbers]
  exact ⟨_, _, rfl⟩

end Embedding

namespace VectorStore

open Decimal (widen exactValue? singleValue? exactValue?_widen exactValue?_of_not_finite
  isFinite_widen)

variable {i : Instance} {action : RetrievalAction} {prompt : String} {o : Options}
  {xs : List Float32} {p : Http.Payload}

/-! ### Payloads -/

/-- Where the vector stands in the body of a request on points. -/
def vectorPath (i : Instance) : RetrievalAction → List Json.Step
  | .store => [.key "points", .item 0, .key "vector", .key (vectorName i)]
  | .retrieve => [.key "query"]

/-- The vector that a payload carries. -/
def carried? (i : Instance) (action : RetrievalAction) (p : Http.Payload) : Option Json :=
  match p.body with
  | .json v => v.at? (vectorPath i action)
  | _ => none

theorem carried?_of_payload (made : payload i action prompt o xs = .ok p) :
    carried? i action p = some (vectorJson xs) := by
  unfold payload at made
  cases action with
  | store =>
    dsimp only at made
    split at made
    · cases made
    · cases made
      simp [carried?, vectorPath, point_eq, storedPoint, Json.step?, Json.get?]
  | retrieve =>
    cases made
    simp +decide [carried?, vectorPath, Http.Payload.postJson, query, Json.step?, Json.get?,
      Json.ofMembers, Keyed.ofList, Keyed.insert]

/-- How an entry of a vector is sent: as the number it is, or as null if it is beyond the range of
single precision. -/
inductive SentAs : Float32 → Json → Prop
  | number {x : Float32} {y : Float} {value : ℚ} (finite : y.isFinite = true)
      (single : singleValue? x = some value) (double : exactValue? y = some value) :
      SentAs x (.number (.real y finite))
  | beyond {x : Float32} (infinite : x.isFinite = false) : SentAs x .null

theorem sentAs_ofFloat (x : Float32) : SentAs x (Json.ofFloat (widen x)) := by
  unfold Json.ofFloat
  split
  · next finite =>
    have value := Decimal.exactValue?_of_finite finite
    exact .number finite ((exactValue?_widen x).symm.trans value) value
  · next infinite =>
    rw [isFinite_widen] at infinite
    exact .beyond (Bool.eq_false_iff.2 infinite)

/-- There is no number for an entry beyond the range. -/
theorem SentAs.eq_null {x : Float32} {item : Json} (sent : SentAs x item)
    (infinite : x.isFinite = false) : item = .null := by
  cases sent with
  | beyond => rfl
  | number finite single =>
    rw [← isFinite_widen] at infinite
    cases single.symm.trans ((exactValue?_widen x).symm.trans (exactValue?_of_not_finite infinite))

theorem exists_vectorJson_eq (xs : List Float32) :
    ∃ items, vectorJson xs = .array items ∧ List.Forall₂ SentAs xs items := by
  refine ⟨_, rfl, ?_⟩
  rw [List.forall₂_map_right_iff, List.forall₂_same]
  exact fun x _ => sentAs_ofFloat x

end VectorStore

end PromptBroker
