import PromptBroker.Proofs.Resanitize

/-!
# Texts that are found again

A text goes to the backend as a point, and comes back as a hit when a query lists that
point. Putting it together and taking it apart are separate: the point has the text and
its metadata under `payload`, and a hit reads them there, whatever else the answer lists.
The id is made twice, for the point and for the report on storing it, from the id in the
metadata alone.

`round_trip` says that nothing is lost on the way: the hit has the text as it was, and
the metadata as the caller sent it.
-/

namespace PromptBroker

variable {raw o : Options} {w : Json}

/-! ### The caller's metadata -/

/-- Lists and objects pass as they are. -/
theorem eq_of_coerce?_array {v : Json} (h : Schema.coerce? .array v = some w) : v = w := by
  unfold Schema.coerce? Schema.toArray? at h
  dsimp only at h
  split at h
  · exact Option.some.inj h
  · exact Option.some.inj h
  · cases h

theorem Purpose.exists_of_hasStoreId (h : hasStoreId o = true) :
    ∃ members id, o.get? "metadata" = some (.object members) ∧ Keyed.get? "id" members = some id ∧
      id ≠ .null ∧ id ≠ .string "" := by
  unfold hasStoreId at h
  cases present : o.get? "metadata" with
  | none => rw [present] at h; cases h
  | some m =>
    rw [present] at h
    cases m with
    | object members =>
      refine ⟨members, ?_⟩
      cases named : Keyed.get? "id" members with
      | none => simp [Json.get?, named] at h
      | some id =>
        refine ⟨id, rfl, rfl, ?_, ?_⟩
        · rintro rfl
          simp [Json.get?, named] at h
        · rintro rfl
          simp [Json.get?, named] at h
    | _ => cases h

/-- A text is only stored with metadata that the caller has sent, an object with a proper id. -/
theorem Purpose.exists_metadata_of_store {fresh : Uuid}
    (accepted : sanitize .retrieval fresh raw = .ok o)
    (stores : RetrievalAction.ofOptions o = .ok .store) :
    ∃ members id, ("metadata", .object members) ∈ raw ∧
      o.get? "metadata" = some (.object members) ∧ Keyed.get? "id" members = some id ∧
        id ≠ .null ∧ id ≠ .string "" := by
  obtain ⟨o₁, valid, -, completed⟩ := sanitize_eq_ok.1 accepted
  obtain ⟨action, filled, ready⟩ := completeRetrieval_ready completed
  obtain rfl : action = .store :=
    Except.ok.inj ((ofOptions_of_action ready.named).symm.trans stores)
  obtain ⟨members, id, present, proper⟩ := exists_of_hasStoreId (ready.id rfl)
  have passed : o₁.get? "metadata" = some (.object members) := by
    simpa [filled, withHits] using present
  obtain ⟨type, v, sent, declared, coerced⟩ := exists_of_validate valid passed
  cases declared
  cases eq_of_coerce?_array coerced
  exact ⟨members, id, sent, present, proper⟩

namespace VectorStore

variable {i : Instance} {p v id metadata : Json} {points : List Json} {text prompt : String}
  {body : ByteArray}

/-! ### Points -/

/-- A point holds a text with its metadata, under the id that the id of the text leads to. -/
structure Holds (p id : Json) (text : String) (metadata : Json) : Prop where
  id : p.get? "id" = some (.string (pointId id).hyphenated)
  payload : p.get? "payload" = some (.object [("content", .string text), ("metadata", metadata)])

/-- The one point of a request that stores a text. -/
def storedPoint (i : Instance) (id : Json) (vector : List Float32) (text : String)
    (metadata : Json) : Json :=
  .object [("id", .string (pointId id).hyphenated),
    ("payload", .object [("content", .string text), ("metadata", metadata)]),
    ("vector", .object [(vectorName i, vectorJson vector)])]

theorem holds_storedPoint (vector : List Float32) :
    Holds (storedPoint i id vector text metadata) id text metadata :=
  ⟨rfl, rfl⟩

theorem point_eq (vector : List Float32) : point i (pointId id) vector text metadata =
    .object [("points", .array [storedPoint i id vector text metadata])] := by
  simp +decide [point, storedPoint, Json.ofMembers, Keyed.ofList, Keyed.insert]

theorem payload_of_store (present : o.get? "metadata" = some metadata)
    (named : metadata.get? "id" = some id) (vector : List Float32) :
    payload i .store prompt o vector =
      .ok ⟨.put, i.baseEndpoint ++ "collections/" ++ collection i ++ "/points?wait=true",
        .json (.object [("points", .array [storedPoint i id vector prompt metadata])])⟩ := by
  have metadata_eq : VectorStore.metadata o = metadata := by
    rw [VectorStore.metadata, present, Option.getD_some]
  unfold payload
  simp only [metadata_eq, named, String.append_assoc, point_eq]
  rfl

/-! ### Reports -/

theorem readJson_of_readBytes (read : Json.readBytes body = .ok v) :
    Content.readJson body = .ok v := by
  rw [Content.readJson, read]

theorem decode_of_store (stores : RetrievalAction.ofOptions o = .ok .store)
    (read : Json.readBytes body = .ok v) :
    decode i body o = .ok (.text i.modelName Usage.single (stored v o).render) := by
  unfold decode
  rw [readJson_of_readBytes read, stores]
  rfl

theorem decode_of_retrieve (retrieves : RetrievalAction.ofOptions o = .ok .retrieve)
    (read : Json.readBytes body = .ok v) :
    decode i body o = .ok (.text i.modelName Usage.single (Json.array (hits v)).render) := by
  unfold decode
  rw [readJson_of_readBytes read, retrieves]
  rfl

/-- The id that is reported. -/
theorem get?_id_stored (present : o.get? "metadata" = some metadata)
    (named : metadata.get? "id" = some id) :
    (stored v o).get? "id" = some (.string (pointId id).hyphenated) := by
  unfold stored
  rw [present, Option.bind_some, named]
  simp [Json.get?, Json.ofMembers, Keyed.ofList, Json.ofOption]

/-! ### Hits -/

/-- An answer to a query lists points. -/
inductive Lists (v : Json) (points : List Json) : Prop
  | nested {result : Json} (result_eq : v.get? "result" = some result)
      (points_eq : result.get? "points" = some (.array points))
  | flat (result_eq : v.get? "result" = some (.array points))

theorem Lists.hits_eq (h : Lists v points) : hits v = points.map hit := by
  unfold hits
  cases h with
  | nested result_eq points_eq =>
    have found : v.at? [.key "result", .key "points"] = some (.array points) := by
      simp only [Json.at?_cons, Json.at?_nil, Json.step?, result_eq, Option.bind_some, points_eq]
    rw [found]
    rfl
  | flat result_eq =>
    have missing : v.at? [.key "result", .key "points"] = none := by
      simp only [Json.at?_cons, Json.step?, result_eq, Option.bind_some]
      rfl
    rw [missing, result_eq]
    rfl

theorem hit_eq (p : Json) : hit p = .object
    [("content", Json.ofOption (p.at? [.key "payload", .key "content"])),
      ("id", Json.ofOption (p.get? "id")),
      ("metadata", (p.at? [.key "payload", .key "metadata"]).getD (.object [])),
      ("score", Json.ofOption (p.get? "score"))] := by
  simp +decide [hit, Json.ofMembers, Keyed.ofList, Keyed.insert]

/-- The hit of a point that holds a text has the text and its metadata. -/
theorem Holds.hit_eq (h : Holds p id text metadata) : hit p = .object
    [("content", .string text), ("id", .string (pointId id).hyphenated), ("metadata", metadata),
      ("score", Json.ofOption (p.get? "score"))] := by
  have content : p.at? [.key "payload", .key "content"] = some (.string text) := by
    simp only [Json.at?_cons, Json.step?, h.payload, Option.bind_some]
    rfl
  have metadata : p.at? [.key "payload", .key "metadata"] = some metadata := by
    simp only [Json.at?_cons, Json.step?, h.payload, Option.bind_some]
    rfl
  rw [VectorStore.hit_eq, content, metadata, h.id]
  rfl

/-! ### There and back -/

/-- A text is stored with the metadata that the caller sent. Its point has the id that is reported
for it, made from the id in the metadata; and wherever a query lists the point, with any score and
among any others, the hit there has this id and this score, the text and the metadata. -/
theorem round_trip {fresh : Uuid} (accepted : Purpose.sanitize .retrieval fresh raw = .ok o)
    (stores : RetrievalAction.ofOptions o = .ok .store) (i : Instance) (prompt : String)
    (vector : List Float32) :
    ∃ members id point, ("metadata", .object members) ∈ raw ∧
      Keyed.get? "id" members = some id ∧ id ≠ .null ∧ id ≠ .string "" ∧
      payload i .store prompt o vector =
        .ok ⟨.put, i.baseEndpoint ++ "collections/" ++ collection i ++ "/points?wait=true",
          .json (.object [("points", .array [point])])⟩ ∧
      Holds point id prompt (.object members) ∧
      (∀ body v, Json.readBytes body = .ok v → ∃ report,
        decode i body o = .ok (.text i.modelName Usage.single (Json.render report)) ∧
          report.get? "id" = some (.string (pointId id).hyphenated)) ∧
      ∀ (i' : Instance) (asked : Options) (body : ByteArray) (v : Json) (points : List Json),
        RetrievalAction.ofOptions asked = .ok .retrieve → Json.readBytes body = .ok v →
        Lists v points → ∃ found : List Json,
          decode i' body asked =
              .ok (.text i'.modelName Usage.single (Json.array found).render) ∧
            found.length = points.length ∧
            ∀ (n : Nat) (p : Json), points[n]? = some p → Holds p id prompt (.object members) →
              found[n]? = some (.object
                [("content", .string prompt), ("id", .string (pointId id).hyphenated),
                  ("metadata", .object members), ("score", Json.ofOption (p.get? "score"))]) := by
  obtain ⟨members, id, sent, present, named, proper⟩ :=
    Purpose.exists_metadata_of_store accepted stores
  refine ⟨members, id, storedPoint i id vector prompt (.object members), sent, named, proper.1,
    proper.2, payload_of_store present named vector, holds_storedPoint vector, ?_, ?_⟩
  · intro body v read
    exact ⟨stored v o, decode_of_store stores read, get?_id_stored present named⟩
  · intro i' asked body v points retrieves read listed
    refine ⟨points.map hit, ?_, List.length_map .., ?_⟩
    · rw [decode_of_retrieve retrieves read, listed.hits_eq]
    · intro n p place holds
      rw [List.getElem?_map, place, Option.map_some, holds.hit_eq]

/-- The metadata of a page: an id, and tags that nobody looks at. -/
def pageMetadata : List (String × Json) :=
  [("id", .string "page-17"), ("tags", .array [.null, .object [("id", .string "leaf")]])]

/-- The options that store a page, as they are sent. -/
def rawPage : Options := [("action", .string " Store "), ("metadata", .object pageMetadata)]

/-- The same options sanitized. -/
def page : Options :=
  [("action", .string "store"), ("metadata", .object pageMetadata), ("topk", Json.ofInt 1)]

/-- The page as it is listed, with a score. -/
def listedPage (score : Json) : Json :=
  .object [("id", .string (pointId (.string "page-17")).hyphenated),
    ("payload", .object [("content", .string "Leaves need light"),
      ("metadata", .object pageMetadata)]), ("score", score)]

/-- A page is found behind another point, with the tags that it was stored with. -/
theorem round_trip_page :
    Purpose.sanitize .retrieval ⟨0, by decide⟩ rawPage = .ok page ∧
      RetrievalAction.ofOptions page = .ok .store ∧
      ∀ (i : Instance) (body : ByteArray) (other score : Json),
        Json.readBytes body = .ok (.object [("result", .array [other, listedPage score])]) →
        ∃ found : List Json,
          decode i body [] = .ok (.text i.modelName Usage.single (Json.array found).render) ∧
            found.length = 2 ∧ found[1]? = some (.object [("content", .string "Leaves need light"),
              ("id", .string (pointId (.string "page-17")).hyphenated),
              ("metadata", .object pageMetadata), ("score", score)]) := by
  have accepted : Purpose.sanitize .retrieval ⟨0, by decide⟩ rawPage = .ok page := by
    with_unfolding_all rfl
  have stores : RetrievalAction.ofOptions page = .ok .store := by with_unfolding_all rfl
  refine ⟨accepted, stores, fun i body other score read => ?_⟩
  obtain ⟨members, id, -, sent, named, -, -, -, -, -, restored⟩ :=
    round_trip accepted stores i "Leaves need light" []
  obtain rfl : members = pageMetadata := by
    simpa [rawPage] using sent
  cases named
  obtain ⟨found, decoded, length, hits⟩ :=
    restored i [] body _ [other, listedPage score] rfl read (.flat rfl)
  exact ⟨found, decoded, length, hits 1 (listedPage score) rfl ⟨rfl, rfl⟩⟩

end VectorStore

end PromptBroker
