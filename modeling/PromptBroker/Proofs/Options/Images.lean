import PromptBroker.Proofs.Options.Validation
import PromptBroker.Proofs.Resanitize
import PromptBroker.Proofs.Text.DataUrl

/-!
# Images that are accepted

An image to be described comes in a data address. The address is made of a media type
and encoded bytes in one way only (`Parts`), and reading it finds exactly these. So a
request whose options are all declared is accepted if and only if its image is such an
address, and then its options are left as they are (`dataAddress_exact`).
-/

namespace PromptBroker

namespace Text.DataUrl

variable {url mediaType payload : String}

/-- A data address with its media type and its encoded bytes. -/
structure Parts (url mediaType payload : String) : Prop where
  typed : mediaType ≠ ""
  filled : payload ≠ ""
  /-- The first comma of the address ends the header. -/
  plain : ',' ∉ mediaType.toList
  whole : url = "data:" ++ mediaType ++ ";base64," ++ payload

theorem parse?_iff_parts :
    parse? url = some (mediaType, payload) ↔ Parts url mediaType payload := by
  rw [parse?_eq_some_iff]
  constructor
  · rintro ⟨whole, plain, typed, filled⟩
    exact ⟨typed, filled, plain, whole⟩
  · rintro ⟨typed, filled, plain, whole⟩
    exact ⟨whole, plain, typed, filled⟩

end Text.DataUrl

namespace Purpose

open Schema Text.DataUrl

variable {raw o o' : Options} {image : Json} {fresh : Uuid}

/-- The options have an image, and it is a data address. -/
def HasImage (o : Options) : Prop :=
  ∃ url mediaType payload, o.get? "image" = some (.string url) ∧ Parts url mediaType payload

theorem HasImage.present (h : HasImage o) (given : o.get? "image" = some image) :
    image.isNull = false := by
  obtain ⟨url, mediaType, payload, found, -⟩ := h
  cases given.symm.trans found
  rfl

/-- The check of the purpose itself. -/
theorem completeImageDescription_iff :
    completeImageDescription o = .ok o' ↔ o' = o ∧ HasImage o := by
  constructor
  · intro accepted
    refine ⟨(completeImageDescription_eq_ok accepted).symm, ?_⟩
    unfold completeImageDescription at accepted
    split at accepted
    · cases accepted
    next image found =>
    split at accepted
    · next parts read =>
      obtain ⟨url, text, parsed⟩ := Option.bind_eq_some_iff.1 read
      cases image with
      | string url' =>
        cases text
        exact ⟨url, _, _, found, parse?_iff_parts.1 parsed⟩
      | _ => cases text
    · cases accepted
  · rintro ⟨rfl, url, mediaType, payload, found, parts⟩
    simp [completeImageDescription, found, Json.asString?, parse?_iff_parts.2 parts]

/-- Options with nothing but an image pass the schema as they are. -/
theorem validate_of_hasImage (ascending : Keyed.Ascending raw)
    (declared : ∀ e ∈ raw, Purpose.imageDescription.schema.contains e.1 = true)
    (image : HasImage raw) : Purpose.imageDescription.schema.validate raw = .ok raw := by
  refine Settled.validate fun e member => ?_
  obtain ⟨type, known⟩ := Option.isSome_iff_exists.1 (declared e member)
  obtain ⟨key, value⟩ := e
  rw [schema, Keyed.get?, List.lookup_cons] at known
  split at known
  · next same =>
    cases known
    rw [beq_iff_eq] at same
    subst same
    have given : raw.get? "image" = some value := (Keyed.get?_eq_some_iff_mem ascending).2 member
    exact ⟨.raw, rfl, .raw (image.present given)⟩
  · cases known

/-- The schema lets the image through as it was sent. -/
theorem HasImage.of_validate (ascending : Keyed.Ascending raw)
    (passed : Purpose.imageDescription.schema.validate raw = .ok o) (h : HasImage o) :
    HasImage raw := by
  obtain ⟨url, mediaType, payload, found, parts⟩ := h
  have left := passed_of_validate ascending passed
  obtain ⟨value, given, -⟩ := (left.keys "image").1 ⟨_, found⟩
  obtain ⟨type, known, -, -, kept⟩ := left.values "image" value _ given found
  cases known
  cases kept (.inl rfl)
  exact ⟨url, mediaType, payload, given, parts⟩

theorem sanitize_imageDescription_eq_ok (ascending : Keyed.Ascending raw)
    (declared : ∀ e ∈ raw, Purpose.imageDescription.schema.contains e.1 = true) :
    Purpose.imageDescription.sanitize fresh raw = .ok o ↔ o = raw ∧ HasImage raw := by
  rw [sanitize_eq_ok]
  constructor
  · rintro ⟨o₁, passed, -, completed⟩
    obtain ⟨rfl, image⟩ := completeImageDescription_iff.1 completed
    have image := image.of_validate ascending passed
    cases passed.symm.trans (validate_of_hasImage ascending declared image)
    exact ⟨rfl, image⟩
  · rintro ⟨rfl, image⟩
    exact ⟨o, validate_of_hasImage ascending declared image, nofun,
      completeImageDescription_iff.2 ⟨rfl, image⟩⟩

/-- Data addresses are read exactly: what is read of a text are the parts that it is made of, so
that reading undoes building, and nothing is read of any other text. A request for the description
of an image that has no undeclared option is accepted if its image is such an address, and only
then. -/
theorem dataAddress_exact :
    (∀ url mediaType payload,
      parse? url = some (mediaType, payload) ↔ Parts url mediaType payload) ∧
    (∀ mediaType payload, mediaType ≠ "" → payload ≠ "" → ',' ∉ mediaType.toList →
      parse? (build mediaType payload) = some (mediaType, payload)) ∧
    ∀ fresh raw o, Keyed.Ascending raw →
      (∀ e ∈ raw, Purpose.imageDescription.schema.contains e.1 = true) →
      (Purpose.imageDescription.sanitize fresh raw = .ok o ↔
        o = raw ∧ ∃ url mediaType payload,
          Options.get? "image" raw = some (.string url) ∧ Parts url mediaType payload) := by
  refine ⟨fun url mediaType payload => parse?_iff_parts,
    fun mediaType payload typed filled plain => ?_,
    fun fresh raw o ascending declared => sanitize_imageDescription_eq_ok ascending declared⟩
  exact parse?_iff_parts.2 ⟨typed, filled, plain, rfl⟩

/-- A type with a parameter and the marker in it, and encoded bytes with a comma. -/
def drawing : String := build "image/svg+xml;q=1;base64" "PHN2,Zz4="

theorem dataAddress_drawing :
    parse? drawing = some ("image/svg+xml;q=1;base64", "PHN2,Zz4=") ∧
      Purpose.imageDescription.sanitize ⟨15, by decide⟩ [("image", .string drawing)] =
        .ok [("image", .string drawing)] := by
  have plain : ',' ∉ "image/svg+xml;q=1;base64".toList := by decide +kernel
  have read := dataAddress_exact.2.1 "image/svg+xml;q=1;base64" "PHN2,Zz4=" (by decide)
    (by decide) plain
  refine ⟨read, (dataAddress_exact.2.2 _ _ _ (List.pairwise_singleton _ _) ?_).2 ⟨rfl, ?_⟩⟩
  · intro e member
    cases List.mem_singleton.1 member
    rfl
  · exact ⟨_, _, _, rfl, (dataAddress_exact.1 _ _ _).1 read⟩

end Purpose

end PromptBroker
