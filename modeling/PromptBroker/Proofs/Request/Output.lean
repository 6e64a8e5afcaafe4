import PromptBroker.Proofs.Base64
import PromptBroker.Proofs.Request.LastWord
import PromptBroker.Proofs.Request.Storage
import PromptBroker.Proofs.Resanitize

/-!
# Files that come of requests

Speech and pictures come as bytes, each provider with a place of its own for them
(`Carries`). If the last word of the provider is an answer with a success status that
carries some bytes, the request succeeds, and its content is an address under which just
these bytes are found from then on. The address is that of the sanitized options: of the
caller, of where the caller stands, of the item, and of the file name. Nothing else in the
store is touched, and nothing at all by a request that fails (`stores_what_is_carried`).
-/

namespace PromptBroker

/-- Where a provider of files puts the bytes of a file in its answer. -/
inductive Carries (bytes body : ByteArray) : Provider → Prop
  | dalle {v} (json : Json.readBytes body = .ok v)
      (found : v.at? [.key "data", .item 0, .key "b64_json"] =
        some (.string (Base64.encodeStandard bytes.toList))) : Carries bytes body .dalle
  | imagen {v} (json : Json.readBytes body = .ok v)
      (found : v.at? [.key "predictions", .item 0, .key "bytesBase64Encoded"] =
        some (.string (Base64.encodeStandard bytes.toList))) : Carries bytes body .imagen
  /-- Sound is the answer itself. -/
  | voice (same : body = bytes) (audible : bytes.isEmpty = false) : Carries bytes body .voice

variable {bytes body : ByteArray} {o : Options} {c : Connector}

theorem Picture.readFile_encodeStandard (bytes : ByteArray) :
    readFile (Base64.encodeStandard bytes.toList) = .ok (.file bytes) := by
  rw [readFile, Base64.decode_encodeStandard]

theorem Content.readJson_eq_ok {v : Json} (json : Json.readBytes body = .ok v) :
    Content.readJson body = .ok v := by
  rw [readJson, json]

/-- What is carried is decoded. -/
theorem Carries.decode_eq (carries : Carries bytes body c.provider) (o : Options) :
    c.decode body o = .ok (.file bytes) := by
  generalize provided : c.provider = provider at carries
  unfold Connector.provider at provided
  unfold Connector.decode
  cases carries with
  | dalle json found =>
    cases binding : c.binding <;> rw [binding] at provided <;> cases provided
    dsimp only [Picture.openaiDecode]
    rw [Content.readJson_eq_ok json]
    dsimp only [bind, Except.bind]
    rw [found]
    exact Picture.readFile_encodeStandard bytes
  | imagen json found =>
    cases binding : c.binding <;> rw [binding] at provided <;> cases provided
    dsimp only [Picture.imagenDecode]
    rw [Content.readJson_eq_ok json]
    dsimp only [bind, Except.bind]
    rw [found]
    exact Picture.readFile_encodeStandard bytes
  | voice same audible =>
    cases binding : c.binding <;> rw [binding] at provided <;> cases provided
    subst same
    dsimp only [Speech.decode]
    rw [if_neg (by simp [audible])]

theorem Carries.filing {provider : Provider} (carries : Carries bytes body provider) :
    provider ∈ Connector.filingProviders := by
  cases carries <;> decide

/-- Sanitized options for a file always say where it belongs. -/
theorem Purpose.exists_fileTarget {p : Purpose} {fresh : Uuid} {raw : Options}
    (filing : p ∈ Purpose.filing) (accepted : p.sanitize fresh raw = .ok o) :
    ∃ item name, o.int? "itemid" = some item ∧ o.text? "filename" = some name := by
  obtain ⟨o₁, -, -, completed⟩ := Purpose.sanitize_eq_ok.1 accepted
  have target (stem extension : String) :
      ∃ item name, (withFileTarget stem extension fresh o₁).int? "itemid" = some item ∧
        (withFileTarget stem extension fresh o₁).text? "filename" = some name := by
    obtain ⟨item, found⟩ := Option.isSome_iff_exists.1 Purpose.isSome_itemid_withFileTarget
    obtain ⟨name, named⟩ := Option.isSome_iff_exists.1 Purpose.isSome_filename_withFileTarget
    exact ⟨item, name, found, named⟩
  simp only [Purpose.filing, List.mem_cons, List.not_mem_nil, or_false] at filing
  rcases filing with rfl | rfl <;> cases completed <;> exact target _ _

theorem Purpose.formatOutput_of_filing {p : Purpose} (filing : p ∈ Purpose.filing) (o : Options)
    (output : String) : p.formatOutput o output = output := by
  simp only [Purpose.filing, List.mem_cons, List.not_mem_nil, or_false] at filing
  rcases filing with rfl | rfl <;> rfl

/-- A file is stored under the name that the options give it. -/
theorem Connector.exists_respond_of_file {item : Int} {name : String} (user context : Int)
    (decoded : c.decode body o = .ok (.file bytes)) (found : o.int? "itemid" = some item)
    (named : o.text? "filename" = some name) (plain : '/' ∉ name.toList) (before : Files) :
    ∃ after, before.put ⟨user, context, item⟩ name bytes =
        .ok (before.address ⟨user, context, item⟩ name, after) ∧
      c.respond body o user context before = (.success c.config.modelName Usage.single
        (before.address ⟨user, context, item⟩ name), after) := by
  have placement : Placement.ofOptions user context o = ⟨⟨user, context, item⟩, name⟩ := by
    rw [Placement.ofOptions, found, named]
    rfl
  have accepted : Files.isFilename name = true := by
    have ne : name ≠ "" := by
      have := (Option.filter_eq_some_iff.1 named).2
      simpa using this
    simpa [Files.isFilename, ne] using plain
  have put : before.put ⟨user, context, item⟩ name bytes = .ok (_, _) :=
    Files.put_eq_ok.2 ⟨accepted, rfl, rfl⟩
  refine ⟨_, put, ?_⟩
  rw [Connector.respond, decoded, placement, Content.deliver, put]

namespace Broker

variable {q : Request} {b b₁ b' : Broker} {w w₁ w' : World} {p : Http.Payload}
  {h : Http.Headers} {nested : Option Response} {heard : Option Http.Heard}

theorem Poised.files_eq (poised : Poised q b w o p h c nested b₁ w₁) : b₁.files = b.files := by
  cases poised with
  | intro admitted prepares signed =>
    exact (prepares.files_eq embeds_keepsFiles).trans admitted.rewired.files_eq

theorem Poised.sanitized (poised : Poised q b w o p h c nested b₁ w₁) :
    q.purpose.sanitize (w.names w.drawn) q.raw = .ok o := by
  cases poised with
  | intro admitted => exact admitted.sanitized

theorem Poised.serves (poised : Poised q b w o p h c nested b₁ w₁) :
    c.serves q.purpose = true := by
  cases poised with
  | intro admitted prepares signed =>
    unfold Connector.serves
    rw [Connector.provider_of_headers signed, prepares.provider_eq]
    exact serves_of_gate admitted.gate

/-- A request that has come to a file: it succeeds, counts as one call, and says where the file is.
There it is found as it came, under the ids and the name that the options give. The address is that
of no other owner and no other name, and everything else in the store is as it was. -/
inductive Filed (q : Request) (b : Broker) (o : Options) (model : String) (bytes : ByteArray) :
    Response → Broker → Prop
  | intro {item name b'} (found : o.int? "itemid" = some item)
      (named : o.text? "filename" = some name)
      (stored : b'.files.get? (b.files.address ⟨q.caller.user, q.context, item⟩ name) = some bytes)
      (owned : ∀ owner filename,
        b.files.address ⟨q.caller.user, q.context, item⟩ name = b.files.address owner filename ↔
          ⟨q.caller.user, q.context, item⟩ = owner ∧ name = filename)
      (others : ∀ other, other ≠ b.files.address ⟨q.caller.user, q.context, item⟩ name →
        b'.files.get? other = b.files.get? other) :
      Filed q b o model bytes
        (.success model ⟨1, 0, 0⟩ (b.files.address ⟨q.caller.user, q.context, item⟩ name)) b'

/-- What the last word carries is stored. -/
theorem LastWord.filed {status : UInt16} (word : LastWord q b w o c (some ⟨status, body⟩) w')
    (accepted : Http.Status.isSuccess status = true) (carries : Carries bytes body c.provider)
    (plain : ∀ name, o.text? "filename" = some name → '/' ∉ name.toList) :
    ∃ r b', q.make b w = .ok ((r, b'), w') ∧ Filed q b o c.config.modelName bytes r b' := by
  obtain ⟨p, h, nested, b₁, w₁, d, c', poised, sent, continues, delivered⟩ := word.exists_sent
  cases delivered _ rfl accepted
  have filing : q.purpose ∈ Purpose.filing :=
    Connector.filing_of_serves carries.filing poised.serves
  obtain ⟨item, name, found, named⟩ := Purpose.exists_fileTarget filing poised.sanitized
  have decoded : c'.decode body o = .ok (.file bytes) := by
    rw [← continues.provider] at carries
    exact carries.decode_eq o
  obtain ⟨after, put, responded⟩ := Connector.exists_respond_of_file q.caller.user
    q.context decoded found named (plain name named) b₁.files
  obtain ⟨b', made, files⟩ := poised.make_of_success sent responded
  rw [poised.files_eq] at put made
  subst files
  refine ⟨_, b', made, ?_⟩
  rw [Response.mapContent, Purpose.formatOutput_of_filing filing, Usage.single_eq,
    continues.config]
  exact .intro found named (Files.get?_of_put put) (fun _ _ => Files.address_eq_iff)
    fun other ne => Files.get?_of_put_of_ne put ne

/-- Whatever bytes the last word on a request carries, for whichever caller, the request succeeds
and they are stored, the rest of the store being left alone; and a request that fails, for whatever
purpose, leaves the store as it was. -/
theorem stores_what_is_carried :
    (∀ (q : Request) b w o c status body bytes w',
      LastWord q b w o c (some ⟨status, body⟩) w' → Http.Status.isSuccess status = true →
      Carries bytes body c.provider →
      (∀ name, o.text? "filename" = some name → '/' ∉ name.toList) →
      ∃ r b', q.make b w = .ok ((r, b'), w') ∧ Filed q b o c.config.modelName bytes r b') ∧
    ∀ (q : Request) b w r b' w', q.make b w = .ok ((r, b'), w') → r.isSuccess = false →
      b'.files = b.files := by
  constructor
  · intro q b w o c status body bytes w' word accepted carries plain
    exact word.filed accepted carries plain
  · intro q b w r b' w' made failed
    obtain ⟨nested, course⟩ := make_eq_ok_iff.1 made
    exact course.files_eq_of_failure failed

/-! ### A text that is spoken -/

namespace Sample

def voice : Instance :=
  { name := "local", provider := .voice, model := "tts-1", endpoint := "http://[::1]/" }

/-- A broker with nothing but a voice. -/
def booth (files : Files) : Broker where
  config :=
    { instances := [("local", voice)]
      assignment? := fun _ _ => some "local"
      limit := fun _ _ => 1 }
  files := files
  connectors := [("local", ⟨voice, .voice⟩)]

/-- A user has a text spoken, always under the same name. -/
def spokenFor (user : Int) : Request :=
  ⟨⟨user, "school", .basic⟩, .speech, "Hello", 1, [("filename", .string "a.mp3")]⟩

/-- The options as they are sanitized. -/
def spokenOptions : Options := [("filename", .string "a.mp3"), ("itemid", Json.ofInt 0)]

/-- What the provider is sent for the text. -/
def spokenText : Http.Payload :=
  .postJson voice.endpoint (Json.ofMembers
    [("input", .string "Hello"), ("voice", .string "alloy"), ("model", .string "tts-1")])

/-- The provider speaks the text, and that is the last word. -/
theorem spoken_lastWord (user : Int) (files : Files) : ∃ w', LastWord (spokenFor user) (booth files)
    (.answering [(200, "sound")]) spokenOptions ⟨voice, .voice⟩
    (some ⟨200, "sound".toUTF8⟩) w' := by
  let w : World := .answering [(200, "sound")]
  let headers := Http.Headers.json.authorize ""
  have admitted : Admitted (spokenFor user) (booth files) w ⟨"local", ⟨voice, .voice⟩⟩
      spokenOptions "Hello" (booth files) w.drawName :=
    ⟨by with_unfolding_all rfl, by with_unfolding_all rfl, rfl⟩
  have plan : Connector.plan ⟨voice, .voice⟩ ((booth files).flags.status VectorStore.flagKey)
      "Hello" spokenOptions w.drawName = .ok ((.ok (.ready spokenText), ⟨voice, .voice⟩,
        (booth files).flags.status VectorStore.flagKey), w.drawName) := by
    with_unfolding_all rfl
  have sound : Http.Headers.isValue "" = true := by simp [Http.Headers.isValue]
  have signed : Connector.headers ⟨voice, .voice⟩ w.drawName =
      .ok ((.ok headers, ⟨voice, .voice⟩), w.drawName) := by
    have key : Connector.openaiHeaders voice = .ok headers := if_pos sound
    exact Run.pure_eq_ok.2 ⟨by rw [key], rfl⟩
  have poised := Poised.intro admitted (.ready plan) signed
  exact poised.exists_lastWord (by decide +kernel)

end Sample

/-- A text is spoken for user 42, and stored; a question that gets no usable answer stores
nothing. -/
theorem stores_what_is_carried_sound :
    (∃ w', LastWord (Sample.spokenFor 42) (Sample.booth (.empty Files.defaultBase))
        (.answering [(200, "sound")]) Sample.spokenOptions ⟨Sample.voice, .voice⟩
        (some ⟨200, "sound".toUTF8⟩) w' ∧
      ∃ r b', (Sample.spokenFor 42).make (Sample.booth (.empty Files.defaultBase))
          (.answering [(200, "sound")]) = .ok ((r, b'), w') ∧
        Filed (Sample.spokenFor 42) (Sample.booth (.empty Files.defaultBase)) Sample.spokenOptions
          "tts-1" "sound".toUTF8 r b') ∧
      ∃ r b' w', Sample.chat.make (Sample.broker 1) (Sample.world ["secret"]) =
          .ok ((r, b'), w') ∧
        r.isSuccess = false ∧ b'.files = (Sample.broker 1).files := by
  constructor
  · obtain ⟨w', word⟩ := Sample.spoken_lastWord 42 (.empty Files.defaultBase)
    refine ⟨w', word, stores_what_is_carried.1 _ _ _ _ _ _ _ _ _ word (by decide)
      (.voice rfl (by decide +kernel)) ?_⟩
    intro name named
    cases named
    decide
  · have failed : (Sample.chat.make (Sample.broker 1) (Sample.world ["secret"])).toOption.map
        (fun s => s.1.1.isSuccess) = some false := by decide +kernel
    cases made : Sample.chat.make (Sample.broker 1) (Sample.world ["secret"]) with
    | error e => rw [made] at failed; cases failed
    | ok s =>
      obtain ⟨⟨r, b'⟩, w'⟩ := s
      rw [made] at failed
      have failed := Option.some.inj failed
      exact ⟨r, b', w', rfl, failed, stores_what_is_carried.2 _ _ _ _ _ _ made failed⟩

end Broker

end PromptBroker
