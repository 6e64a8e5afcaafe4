import PromptBroker.Proofs.Base64
import PromptBroker.Proofs.Request.Posted
import PromptBroker.Proofs.Text.DataUrl

/-!
# Recordings

A recording reaches the broker as base64, either bare or in a data address with an audio
type (`Encodes`), and whatever bytes it consists of, just these are uploaded, as long as
they are within the limit of the provider. One byte more, and the request ends with code 413
before anything has been asked for. The media type is the one that the data address names,
or else it follows from the file name, and it is one that the provider takes in either case
(`uploads_recordings`).
-/

namespace PromptBroker

namespace Base64

variable {bytes : List UInt8}

/-- Neither a blank nor a colon occurs in an encoded text. -/
theorem plain_encodeStandard :
    ∀ c ∈ (encodeStandard bytes).toList, Text.isBlank c = false ∧ c ≠ ':' := by
  have symbol : ∀ n : Fin 64, Text.isBlank (Alphabet.standard.symbol n) = false ∧
      Alphabet.standard.symbol n ≠ ':' := by decide
  rw [encodeStandard, String.toList_ofList]
  exact forall_mem_encode (by decide) fun n below => symbol ⟨n, below⟩

theorem encodeStandard_ne_empty (ne : bytes ≠ []) : encodeStandard bytes ≠ "" := by
  intro empty
  have none := data_encodeStandard bytes
  rw [empty] at none
  exact encodedBytes_ne_nil ne none.symm

theorem trim_encodeStandard : Text.trim (encodeStandard bytes) = encodeStandard bytes :=
  Text.trim_of_forall fun c mem => (plain_encodeStandard c mem).1

/-- An encoded text is no data address. -/
theorem parse?_encodeStandard : Text.DataUrl.parse? (encodeStandard bytes) = none := by
  cases parsed : Text.DataUrl.parse? (encodeStandard bytes) with
  | none => rfl
  | some parts =>
    obtain ⟨address, -⟩ := Text.DataUrl.parse?_eq_some_iff.1 parsed
    have colon : ':' ∈ (encodeStandard bytes).toList := by
      rw [address]
      simp [Text.DataUrl.build]
    exact absurd rfl (plain_encodeStandard _ colon).2

end Base64

namespace Transcription

variable {bytes : ByteArray} {text filename type : String} {declared : Option String}
  {i : Instance} {o : Options} {p : Http.Payload}

/-! ### Recordings as text -/

/-- A text holds some bytes, and it may declare their media type. -/
inductive Encodes (bytes : ByteArray) : String → Option String → Prop
  | bare : Encodes bytes (Base64.encodeStandard bytes.toList) none
  | address {mediaType : String} (audio : mediaType ∈ Catalog.audioTypes) :
      Encodes bytes (Text.DataUrl.build mediaType (Base64.encodeStandard bytes.toList))
        (some mediaType)

theorem toList_ne_nil (nonempty : bytes.size ≠ 0) : bytes.toList ≠ [] := by
  intro none
  rw [Base64.toList_eq_data] at none
  exact nonempty (congrArg List.length none)

theorem Encodes.ne_empty (encodes : Encodes bytes text declared) (nonempty : bytes.size ≠ 0) :
    text ≠ "" := by
  cases encodes with
  | bare => exact Base64.encodeStandard_ne_empty (toList_ne_nil nonempty)
  | address => exact fun empty => by simpa [Text.DataUrl.build] using congrArg String.toList empty

/-- The bytes that are read from a text are those that it holds. -/
theorem Encodes.decode_eq (encodes : Encodes bytes text declared) (nonempty : bytes.size ≠ 0) :
    decodeRecording text = .ok (bytes, declared) := by
  unfold decodeRecording
  cases encodes with
  | bare =>
    rw [Base64.parse?_encodeStandard]
    dsimp only
    rw [Base64.trim_encodeStandard, Base64.decode_encodeStandard]
  | @address mediaType audio =>
    have plain : ∀ m ∈ Catalog.audioTypes, ',' ∉ m.toList ∧ m ≠ "" := by decide
    obtain ⟨comma, ne⟩ := plain _ audio
    rw [Text.DataUrl.parse?_eq_some_iff.2
      ⟨rfl, comma, ne, Base64.encodeStandard_ne_empty (toList_ne_nil nonempty)⟩]
    dsimp only
    rw [Base64.trim_encodeStandard, Base64.decode_encodeStandard]

theorem Encodes.audio_of_declared (encodes : Encodes bytes text declared) :
    ∀ mediaType ∈ declared, mediaType ∈ Catalog.audioTypes := by
  cases encodes with
  | bare => exact nofun
  | address audio =>
    rintro _ ⟨⟩
    exact audio

/-! ### File names -/

/-- A file name has an extension: what stands behind its last dot, in lower case. -/
inductive HasExtension : String → String → Prop
  | intro (stem : String) {suffix : String} (dotless : '.' ∉ suffix.toList) :
      HasExtension (stem ++ "." ++ suffix) (Text.lower suffix)

/-- The extensions that tell a media type. -/
def extensions : List (String × String) :=
  [("m4a", "audio/x-m4a"), ("mp4", "audio/mp4"), ("wav", "audio/wav"), ("webm", "audio/webm"),
    ("mpeg", "video/mpeg"), ("mpga", "audio/mpga")]

/-- The media type that a file name suggests by its extension. -/
inductive Suggests (filename : String) : String → Prop
  | listed {extension type : String} (known : (extension, type) ∈ extensions)
      (ends : HasExtension filename extension) : Suggests filename type
  | other (unlisted : ∀ e ∈ extensions, ¬HasExtension filename e.1) : Suggests filename "audio/mpeg"

theorem HasExtension.ending_eq {extension : String} (ends : HasExtension filename extension) :
    ending filename = extension := by
  cases ends with
  | @intro stem suffix dotless =>
    have plain : ∀ c ∈ suffix.toList.reverse, (c != '.') = true := fun c mem =>
      bne_iff_ne.2 fun same => dotless (same ▸ List.mem_reverse.1 mem)
    have chars : (stem ++ "." ++ suffix).toList.reverse =
        suffix.toList.reverse ++ '.' :: stem.toList.reverse := by
      simp
    have tail : (stem ++ "." ++ suffix).toList.reverse.takeWhile (· != '.') =
        suffix.toList.reverse := by
      rw [chars, List.takeWhile_append_of_pos plain, List.takeWhile_cons_of_neg (by simp),
        List.append_nil]
    have shorter : suffix.toList.reverse.length ≠ (stem ++ "." ++ suffix).length := by
      simp only [List.length_reverse, String.length_append, String.length_toList]
      show _ ≠ _ + 1 + _
      omega
    unfold ending
    dsimp only
    rw [tail, if_neg shorter, List.reverse_reverse, String.ofList_toList]

/-- What is looked at is the extension, if there is one. -/
theorem hasExtension_or_ending_eq (filename : String) :
    HasExtension filename (ending filename) ∨ ending filename = "" := by
  by_cases dot : '.' ∈ filename.toList.reverse
  · obtain ⟨tail, front, chars, dotless⟩ := List.eq_append_cons_of_mem dot
    have parts : filename = String.ofList front.reverse ++ "." ++ String.ofList tail.reverse := by
      refine String.toList_injective ?_
      rw [← List.reverse_reverse filename.toList, chars]
      simp
    have ends : HasExtension filename (Text.lower (String.ofList tail.reverse)) := by
      rw [parts]
      exact .intro _ (by simpa using dotless)
    exact .inl (ends.ending_eq.symm ▸ ends)
  · have whole : filename.toList.reverse.takeWhile (· != '.') = filename.toList.reverse :=
      List.takeWhile_eq_self_iff.2 fun c mem => bne_iff_ne.2 fun same => dot (same ▸ mem)
    refine .inr ?_
    unfold ending
    dsimp only
    rw [whole, if_pos (by rw [List.length_reverse, String.length_toList])]

/-- Any extension that is looked up is one that the file name has. -/
theorem HasExtension.of_ending {e : String × String} (known : e ∈ extensions)
    (same : ending filename = e.1) : HasExtension filename e.1 := by
  have named : ∀ e ∈ extensions, e.1 ≠ "" := by decide
  rcases hasExtension_or_ending_eq filename with ends | none
  · exact same ▸ ends
  · exact absurd (same.symm.trans none) (named e known)

theorem suggestedType_eq_lookup :
    suggestedType filename = (extensions.lookup (ending filename)).getD "audio/mpeg" := by
  unfold suggestedType
  split
  iterate 6
    next same =>
      rw [same]
      rfl
  next m4a mp4 wav webm mpeg mpga =>
    have absent : extensions.lookup (ending filename) = none := by
      refine List.lookup_eq_none_iff.2 ?_
      simp only [extensions, List.forall_mem_cons, bne_iff_ne]
      exact ⟨m4a, mp4, wav, webm, mpeg, mpga, nofun⟩
    rw [absent]
    rfl

theorem suggestedType_eq_iff : suggestedType filename = type ↔ Suggests filename type := by
  rw [suggestedType_eq_lookup]
  constructor
  · rintro rfl
    cases found : extensions.lookup (ending filename) with
    | none =>
      refine .other fun e known ends => ?_
      have := List.lookup_eq_none_iff.1 found e known
      simp [ends.ending_eq] at this
    | some type =>
      obtain ⟨l₁, l₂, split, -⟩ := List.lookup_eq_some_iff.1 found
      have known : (ending filename, type) ∈ extensions := by
        rw [split]
        exact List.mem_append_right _ List.mem_cons_self
      exact .listed known (.of_ending known rfl)
  · rintro (⟨known, ends⟩ | unlisted)
    · have found : ∀ e ∈ extensions, extensions.lookup e.1 = some e.2 := by decide
      rw [ends.ending_eq, found _ known]
      rfl
    · have absent : extensions.lookup (ending filename) = none :=
        List.lookup_eq_none_iff.2 fun e known => bne_iff_ne.2 fun same =>
          unlisted e known (.of_ending known same)
      rw [absent]
      rfl

/-- Whatever the file name, the provider takes what it suggests. -/
theorem suggestedType_mem (filename : String) : suggestedType filename ∈ Catalog.audioTypes := by
  unfold suggestedType
  split <;> decide

/-! ### Payloads -/

/-- The name under which a recording is uploaded. -/
def uploadName (o : Options) : String := (o.text? "filename").getD defaultFilename

/-- The upload of some bytes. -/
def upload (i : Instance) (o : Options) (declared : Option String) (bytes : ByteArray) :
    Http.Upload :=
  ⟨"file", uploadName o, declared.getD (suggestedType (uploadName o)), bytes, fields i o⟩

/-- The media type of an upload is the one that is declared, or else the one that its name
suggests. -/
inductive Typed (u : Http.Upload) : Option String → Prop
  | declared : Typed u (some u.mediaType)
  | suggested (suggests : Suggests u.filename u.mediaType) : Typed u none

theorem typed_upload (i : Instance) (o : Options) (declared : Option String)
    (bytes : ByteArray) : Typed (upload i o declared bytes) declared := by
  cases declared with
  | none => exact .suggested (suggestedType_eq_iff.1 rfl)
  | some mediaType => exact .declared

/-- An upload that the provider takes. -/
structure Fits (u : Http.Upload) : Prop where
  size : u.bytes.size ≤ Catalog.recordingLimit
  audio : u.mediaType ∈ Catalog.audioTypes

/-- What can be read of a text is uploaded if it fits. -/
theorem payload_eq {raw : String} (given : o.text? "audiofile" = some raw)
    (read : decodeRecording raw = .ok (bytes, declared)) :
    payload i o =
      if Catalog.recordingLimit < bytes.size then
        .error (.payloadTooLarge Catalog.recordingLimit bytes.size)
      else if (upload i o declared bytes).mediaType ∈ Catalog.audioTypes then
        .ok ⟨.post, i.target "audio/transcriptions", .upload (upload i o declared bytes)⟩
      else
        .error (.invalidParameter "audiofile"
          s!"unsupported audio type '{(upload i o declared bytes).mediaType}'") := by
  unfold payload
  rw [given]
  dsimp only
  rw [read]
  dsimp only [bind, Except.bind]
  split
  · rfl
  · simp only [List.contains_eq_mem, decide_eq_true_eq]
    rfl

theorem payload_of_encodes (encodes : Encodes bytes text declared) (nonempty : bytes.size ≠ 0)
    (given : o.get? "audiofile" = some (.string text)) (i : Instance) :
    payload i o =
      if Catalog.recordingLimit < bytes.size then
        .error (.payloadTooLarge Catalog.recordingLimit bytes.size)
      else .ok ⟨.post, i.target "audio/transcriptions", .upload (upload i o declared bytes)⟩ := by
  have read : o.text? "audiofile" = some text :=
    Options.text?_eq_some.2 ⟨given, encodes.ne_empty nonempty⟩
  have audio : (upload i o declared bytes).mediaType ∈ Catalog.audioTypes := by
    cases declared with
    | none => exact suggestedType_mem _
    | some mediaType => exact encodes.audio_of_declared mediaType rfl
  rw [payload_eq read (encodes.decode_eq nonempty), if_pos audio]

/-- Whatever is uploaded has been read from the text given, and it fits. -/
theorem exists_of_payload (made : payload i o = .ok p) :
    ∃ raw declared bytes, o.text? "audiofile" = some raw ∧
      decodeRecording raw = .ok (bytes, declared) ∧
      p.body = .upload (upload i o declared bytes) ∧ Fits (upload i o declared bytes) := by
  cases given : o.text? "audiofile" with
  | none =>
    rw [payload, given] at made
    cases made
  | some raw =>
    cases read : decodeRecording raw with
    | error f =>
      rw [payload, given] at made
      dsimp only at made
      rw [read] at made
      cases made
    | ok part =>
      obtain ⟨bytes, declared⟩ := part
      rw [payload_eq given read] at made
      split at made
      · cases made
      next within =>
      split at made
      next audio =>
        cases made
        exact ⟨raw, declared, bytes, rfl, read, rfl, ⟨Nat.not_lt.1 within, audio⟩⟩
      · cases made

end Transcription

/-! ### Requests -/

theorem Connector.binding_of_transcription {c : Connector}
    (serves : c.serves .transcription = true) : c.binding = .whisper := by
  unfold Connector.serves provider at serves
  cases hb : c.binding with
  | whisper => rfl
  | _ => rw [hb] at serves; cases serves

namespace Broker

open Transcription

variable {q : Request} {b b₁ : Broker} {w : World} {route : Route} {o : Options}
  {r : Http.Request} {bytes : ByteArray} {text : String} {declared : Option String}

theorem payload?_of_transcription (transcribes : q.purpose = .transcription)
    (gate : b.gate q.purpose q.caller = (.ok route, b₁)) (text : String) (o : Options) :
    route.connector.payload? text o = some (payload route.connector.config o) := by
  have serves := serves_of_gate gate
  rw [transcribes] at serves
  unfold Connector.payload?
  rw [Connector.binding_of_transcription serves]

/-- The sanitized options hold the recording as it was sent. -/
theorem audiofile_of_sanitize {p : Purpose} {fresh : Uuid} {raw : Options}
    (transcribes : p = .transcription) (sanitized : p.sanitize fresh raw = .ok o)
    (sent : raw.get? "audiofile" = some (.string text)) :
    o.get? "audiofile" = some (.string text) := by
  subst transcribes
  obtain ⟨c, valid, -, completed⟩ := Purpose.sanitize_eq_ok.1 sanitized
  obtain ⟨type, v, declared, coerced, passed⟩ := get?_of_sent valid sent rfl
  have untouched : Keyed.get? "audiofile" Purpose.transcription.schema = some .raw := by decide
  cases untouched.symm.trans declared
  cases coerced
  rw [Purpose.get?_complete_of_not_mem completed (by decide), passed]

/-- A payload that cannot be made ends the request with nothing asked for. -/
theorem make_of_unpayable {f : Failure} (gate : b.gate q.purpose q.caller = (.ok route, b₁))
    (sanitized : q.purpose.sanitize (w.names w.drawn) q.raw = .ok o) (offline : q.purpose ≠ .agent)
    (payload : ∀ text, route.connector.payload? text o = some (.error f)) :
    ∃ b', q.make b w = .ok ((.ofFailure f, b'), w.drawName) := by
  obtain ⟨text, w₁, formatted⟩ := returns_formatPrompt q.purpose q.prompt o w.drawName
  obtain rfl := world_of_formatPrompt offline formatted
  have plan := congrFun (Connector.plan_of_payload (b₁.flags.status VectorStore.flagKey)
    (payload text)) w.drawName
  exact ⟨_, make_eq_ok_iff.2 ⟨none, .unprepared ⟨gate, sanitized, formatted⟩ (.unplanned plan)⟩⟩

/-- All that a transcription puts on record is an upload that fits. -/
theorem Posts.exists_upload (posts : Posts q b w r) (transcribes : q.purpose = .transcription) :
    ∃ o i raw declared bytes, q.purpose.sanitize (w.names w.drawn) q.raw = .ok o ∧
      o.text? "audiofile" = some raw ∧ decodeRecording raw = .ok (bytes, declared) ∧
      r.body = .upload (upload i o declared bytes) ∧ Fits (upload i o declared bytes) := by
  obtain ⟨route, _, _, b₁, _, _, admitted, -⟩ := posts.exists_errand
  have serves := serves_of_gate admitted.gate
  rw [transcribes] at serves
  have plain : route.connector.provider ∈ plainProviders := by
    rw [Connector.provider, Connector.binding_of_transcription serves]
    decide
  rcases posts.exists_payload admitted.gate plain with
    ⟨agent, -⟩ | ⟨o, text, p, sanitized, made, body⟩
  · rw [transcribes] at agent
    cases agent
  · rw [payload?_of_transcription transcribes admitted.gate] at made
    obtain ⟨raw, declared, bytes, given, read, uploaded, fits⟩ :=
      exists_of_payload (Option.some.inj made)
    exact ⟨o, _, raw, declared, bytes, sanitized, given, read, body.trans uploaded, fits⟩

/-- A transcription that passes the gate uploads just the bytes of the recording, unless they are
too many: then it ends with nothing asked for. -/
theorem transcription_of_encodes (encodes : Encodes bytes text declared)
    (nonempty : bytes.size ≠ 0) (transcribes : q.purpose = .transcription)
    (sent : q.raw.get? "audiofile" = some (.string text)) :
    (∀ r, Posts q b w r → ∃ o u, q.purpose.sanitize (w.names w.drawn) q.raw = .ok o ∧
        r.body = .upload u ∧ u.bytes = bytes ∧ u.filename = uploadName o ∧ Typed u declared) ∧
      (Catalog.recordingLimit < bytes.size → ∀ route b₁ o,
        b.gate q.purpose q.caller = (.ok route, b₁) →
        q.purpose.sanitize (w.names w.drawn) q.raw = .ok o →
        ∃ b', q.make b w = .ok ((.ofFailure
          (.payloadTooLarge Catalog.recordingLimit bytes.size), b'), w.drawName)) := by
  constructor
  · intro r posts
    obtain ⟨o, i, raw, declared', bytes', sanitized, given, read, body, -⟩ :=
      posts.exists_upload transcribes
    rw [Options.text?, audiofile_of_sanitize transcribes sanitized sent] at given
    obtain ⟨same, -⟩ := Option.filter_eq_some_iff.1 given
    cases same
    cases (encodes.decode_eq nonempty).symm.trans read
    exact ⟨o, _, sanitized, body, rfl, rfl, typed_upload i o _ _⟩
  · intro beyond route b₁ o gate sanitized
    refine make_of_unpayable gate sanitized (by rw [transcribes]; decide) fun formatted => ?_
    rw [payload?_of_transcription transcribes gate,
      payload_of_encodes encodes nonempty (audiofile_of_sanitize transcribes sanitized sent),
      if_pos beyond]

/-- A recording of any bytes is uploaded exactly, or refused with code 413 before anything has been
asked for, and only its length decides between the two. The media type of an upload is the one that
came with the recording, or else the one that the extension of its name suggests. Whatever else a
caller sends for a recording, no upload is too long, and none is of a type that the provider does
not take. -/
theorem uploads_recordings :
    (∀ bytes text declared, bytes.size ≠ 0 → Encodes bytes text declared →
      (∀ i o, o.get? "audiofile" = some (.string text) →
        (bytes.size ≤ Catalog.recordingLimit → payload i o =
            .ok ⟨.post, i.target "audio/transcriptions", .upload (upload i o declared bytes)⟩ ∧
          Typed (upload i o declared bytes) declared) ∧
        (Catalog.recordingLimit < bytes.size → payload i o =
          .error (.payloadTooLarge Catalog.recordingLimit bytes.size))) ∧
      ∀ q b w, q.purpose = .transcription → q.raw.get? "audiofile" = some (.string text) →
        (∀ r, Posts q b w r → ∃ o u, q.purpose.sanitize (w.names w.drawn) q.raw = .ok o ∧
          r.body = .upload u ∧ u.bytes = bytes ∧ u.filename = uploadName o ∧ Typed u declared) ∧
        (Catalog.recordingLimit < bytes.size → ∀ route b₁ o,
          b.gate q.purpose q.caller = (.ok route, b₁) →
          q.purpose.sanitize (w.names w.drawn) q.raw = .ok o →
          ∃ b', q.make b w = .ok ((.ofFailure
            (.payloadTooLarge Catalog.recordingLimit bytes.size), b'), w.drawName))) ∧
      (∀ limit actual, (Response.ofFailure (.payloadTooLarge limit actual)).code? = some 413) ∧
      (∀ filename type, suggestedType filename = type ↔ Suggests filename type) ∧
      (∀ filename, suggestedType filename ∈ Catalog.audioTypes) ∧
      (∀ i o p, payload i o = .ok p → ∃ u, p.body = .upload u ∧ Fits u) ∧
      ∀ q b w r, q.purpose = .transcription → Posts q b w r → ∃ u, r.body = .upload u ∧ Fits u := by
  refine ⟨fun bytes text declared nonempty encodes => ⟨fun i o given => ?_, ?_⟩,
    fun _ _ => rfl, fun _ _ => suggestedType_eq_iff, suggestedType_mem, fun i o p made => ?_,
    fun q b w r transcribes posts => ?_⟩
  · rw [payload_of_encodes encodes nonempty given]
    exact ⟨fun within => ⟨if_neg (Nat.not_lt.2 within), typed_upload i o declared bytes⟩,
      fun beyond => if_pos beyond⟩
  · exact fun q b w transcribes sent =>
      transcription_of_encodes encodes nonempty transcribes sent
  · obtain ⟨raw, declared, bytes, -, -, body, fits⟩ := exists_of_payload made
    exact ⟨_, body, fits⟩
  · obtain ⟨o, i, raw, declared, bytes, -, -, -, body, fits⟩ := posts.exists_upload transcribes
    exact ⟨_, body, fits⟩

namespace Sample

def whisper : Instance :=
  { name := "local", provider := .whisper, model := "whisper-1", endpoint := "http://[::1]/" }

/-- A broker with nothing but an ear. -/
def listener : Broker where
  config :=
    { instances := [("local", whisper)]
      assignment? := fun _ _ => some "local"
      limit := fun _ _ => 1 }
  connectors := [("local", ⟨whisper, .whisper⟩)]

/-- A recording is to be written down. -/
def transcriptOf (text : String) : Request :=
  ⟨Sample.caller, .transcription, "", 1, [("audiofile", .string text)]⟩

/-- Silence, as many bytes of it. -/
def silence (n : Nat) : ByteArray := ⟨Array.replicate n 0⟩

theorem size_silence (n : Nat) : (silence n).size = n := Array.size_replicate

end Sample

/-- Three bytes of silence are uploaded as what their address says they are, or as what their name
suggests; of a silence that is one byte too long the provider hears nothing. -/
theorem uploads_recordings_silence :
    payload Sample.whisper [("audiofile", .string "data:audio/wav;base64,AAAA")] =
        .ok ⟨.post, "http://[::1]/",
          .upload ⟨"file", "audio.mp3", "audio/wav", Sample.silence 3, [("model", "whisper-1")]⟩⟩ ∧
      payload Sample.whisper
          [("audiofile", .string "AAAA"), ("filename", .string "take.1.WebM")] =
        .ok ⟨.post, "http://[::1]/", .upload
          ⟨"file", "take.1.WebM", "audio/webm", Sample.silence 3, [("model", "whisper-1")]⟩⟩ ∧
      ∃ b', (Sample.transcriptOf (Base64.encodeStandard
          (Sample.silence 26214401).toList)).make Sample.listener (.answering []) =
        .ok ((.ofFailure (.payloadTooLarge 26214400 26214401), b'),
          (World.answering []).drawName) := by
  obtain ⟨whole, -, suggested, -⟩ := uploads_recordings
  refine ⟨?_, ?_, ?_⟩
  · obtain ⟨uploaded, -⟩ := whole (Sample.silence 3) _ _ (by decide)
      (@Encodes.address _ "audio/wav" (by decide))
    have text : Text.DataUrl.build "audio/wav" (Base64.encodeStandard (Sample.silence 3).toList) =
        "data:audio/wav;base64,AAAA" := by with_unfolding_all rfl
    rw [text] at uploaded
    exact ((uploaded Sample.whisper [("audiofile", _)] rfl).1 (by decide)).1
  · obtain ⟨uploaded, -⟩ := whole (Sample.silence 3) _ _ (by decide) .bare
    have text : Base64.encodeStandard (Sample.silence 3).toList = "AAAA" := by
      with_unfolding_all rfl
    rw [text] at uploaded
    have made := ((uploaded Sample.whisper
      [("audiofile", .string "AAAA"), ("filename", .string "take.1.WebM")] rfl).1 (by decide)).1
    have webm : suggestedType "take.1.WebM" = "audio/webm" :=
      (suggested _ _).2 (.listed (by decide +kernel)
        (@HasExtension.intro "take.1" "WebM" (by decide)))
    rw [← webm]
    exact made
  · obtain ⟨-, requested⟩ := whole (Sample.silence 26214401) _ _
      (by rw [Sample.size_silence]; decide) .bare
    obtain ⟨-, refused⟩ := requested (Sample.transcriptOf _) Sample.listener (.answering []) rfl rfl
    rw [Sample.size_silence] at refused
    exact refused (by decide) _ _ _ (by with_unfolding_all rfl) rfl

end Broker

end PromptBroker
