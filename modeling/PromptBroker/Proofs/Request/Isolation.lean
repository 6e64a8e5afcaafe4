import PromptBroker.Proofs.Request.Accounts
import PromptBroker.Proofs.Request.Output

/-!
# Users are kept apart

Users share one broker: one ledger, and one flat map of files. A request touches the
accounts of its caller and stores files of its caller, and the embedding request on the
way of a retrieval is made for the same caller. Since the address of a file tells whose it
is, everything is the same for every other user (`Course.sameFor`): the accounts, and the
bytes found under the address of any file. It stays so over whole runs
(`sameFor_of_serveAll`).

That the files of one user stay apart from each other is a matter of addresses alone. A
user may store a file again under its old name, and then the new one takes its place.
-/

namespace PromptBroker.Broker

variable {q : Request} {b b₁ b' : Broker} {w w' : World} {nested : Option Response}
  {r : Response} {user : Int} {log : List Answered}

/-! ### One request -/

/-- Everything is the same for a user: the accounts for every purpose, and what is found under the
address of any file of theirs. -/
structure SameFor (user : Int) (b b' : Broker) : Prop where
  accounts : ∀ p, b'.ledger.entry user p = b.ledger.entry user p
  /-- Files have the addresses they had. -/
  base : b'.files.base = b.files.base
  files : ∀ (owner : Owner) filename, owner.user = user →
    b'.files.get? (b.files.address owner filename) = b.files.get? (b.files.address owner filename)

theorem SameFor.refl (user : Int) (b : Broker) : SameFor user b b :=
  ⟨fun _ => rfl, rfl, fun _ _ _ => rfl⟩

theorem SameFor.trans (h : SameFor user b b₁) (h' : SameFor user b₁ b') : SameFor user b b' where
  accounts p := (h'.accounts p).trans (h.accounts p)
  base := h'.base.trans h.base
  files owner filename own := by
    have later := h'.files owner filename own
    rw [Files.address_of_base h.base] at later
    exact later.trans (h.files owner filename own)

theorem Stores.base_eq {f f' : Files} (h : Stores q f r f') : f'.base = f.base := by
  cases h with
  | nothing => rfl
  | file _ _ put => exact Files.base_of_put put

/-- A file of another user has another address than the one that is stored. -/
theorem Stores.get?_eq {f f' : Files} (h : Stores q f r f') {owner : Owner}
    (other : owner.user ≠ q.caller.user) (filename : String) :
    f'.get? (f.address owner filename) = f.get? (f.address owner filename) := by
  cases h with
  | nothing => rfl
  | file _ owned put =>
    refine Files.get?_of_put_of_ne put fun same => other ?_
    obtain ⟨-, address, -⟩ := Files.put_eq_ok.1 put
    obtain ⟨rfl, -⟩ := Files.address_eq_iff.1 (same.trans address.symm)
    exact owned

/-- A request leaves everything as it is for every user but its caller. -/
theorem Course.sameFor (h : Course Embeds q b w nested r b' w') (other : user ≠ q.caller.user) :
    SameFor user b b' where
  accounts p := h.settled.others user p (fun ⟨same, _⟩ => other same) fun ⟨same, _⟩ => other same
  base := (h.stores embeds_keepsFiles).base_eq
  files owner filename own := by
    subst own
    exact (h.stores embeds_keepsFiles).get?_eq other filename

/-! ### Whole runs -/

theorem History.sameFor (h : History b w log b' w')
    (others : ∀ a ∈ log, user ≠ a.request.caller.user) : SameFor user b b' := by
  induction h with
  | nil => exact .refl user _
  | cons course _ ih =>
    obtain ⟨first, rest⟩ := List.forall_mem_cons.1 others
    exact (course.sameFor first).trans (ih rest)

/-- Whatever is served, each request leaves accounts and files of every user but its caller as they
were, and so does the whole run for users who make no request in it. Whenever two files are stored,
whatever the ids and the names, they get the same address only if owner and name are the same. -/
theorem sameFor_of_serveAll {qs : List Request} {rs : List Response}
    (served : serveAll qs b w = .ok ((rs, b'), w')) :
    (∃ log, History b w log b' w' ∧ log.map (·.request) = qs ∧ log.map (·.response) = rs ∧
      ∀ a ∈ log, ∀ user, user ≠ a.request.caller.user → SameFor user a.before a.after) ∧
    (∀ user, (∀ q ∈ qs, user ≠ q.caller.user) → SameFor user b b') ∧
    ∀ (f f' after after' : Files) (o o' : Owner) (filename filename' : String)
      (bytes bytes' : ByteArray) (address address' : String), f'.base = f.base →
      f.put o filename bytes = .ok (address, after) →
      f'.put o' filename' bytes' = .ok (address', after') →
      (address = address' ↔ o = o' ∧ filename = filename') := by
  obtain ⟨log, history, hqs, hrs⟩ := serveAll_eq_ok_iff.1 served
  refine ⟨⟨log, history, hqs, hrs, ?_⟩, ?_, ?_⟩
  · intro a ha user other
    obtain ⟨_, course⟩ := history.course ha
    exact course.sameFor other
  · intro user others
    refine history.sameFor fun a ha => others a.request ?_
    rw [← hqs]
    exact List.mem_map_of_mem ha
  · intro f f' after after' o o' filename filename' bytes bytes' address address' base put put'
    obtain ⟨-, rfl, -⟩ := Files.put_eq_ok.1 put
    obtain ⟨-, rfl, -⟩ := Files.put_eq_ok.1 put'
    rw [Files.address_of_base base]
    exact Files.address_eq_iff

/-- A store that already holds a file of user 7. -/
def Sample.storedBefore : Files :=
  ⟨Files.defaultBase, [("memory://draftfile/7/1/0/a.mp3", "old".toUTF8)]⟩

/-- A text is spoken for user 42, under the name of a file that user 7 has. Both files are there
afterwards, and user 7 is charged nothing. -/
theorem sameFor_of_two_speakers :
    ∃ r b' w', serveAll [Sample.spokenFor 42] (Sample.booth Sample.storedBefore)
        (.answering [(200, "sound")]) = .ok (([r], b'), w') ∧ r.isSuccess = true ∧
      b'.files.get? "memory://draftfile/42/1/0/a.mp3" = some "sound".toUTF8 ∧
      b'.files.get? "memory://draftfile/7/1/0/a.mp3" = some "old".toUTF8 ∧
      b'.ledger.entry 7 .speech = {} := by
  obtain ⟨w', word⟩ := Sample.spoken_lastWord 42 Sample.storedBefore
  obtain ⟨r, b', made, filed⟩ := word.filed (by decide) (.voice rfl (by decide +kernel))
    fun name named => by cases named; decide
  have served : serveAll [Sample.spokenFor 42] (Sample.booth Sample.storedBefore)
      (.answering [(200, "sound")]) = .ok (([r], b'), w') := by
    obtain ⟨nested, course⟩ := make_eq_ok_iff.1 made
    exact serveAll_eq_ok_iff.2 ⟨_, .cons course .nil, rfl, rfl⟩
  obtain ⟨-, untouched, -⟩ := sameFor_of_serveAll served
  have other := untouched 7 (by decide)
  cases filed with
  | @intro item name _ found named stored others =>
    cases found
    cases named
    exact ⟨_, b', w', served, rfl, stored, other.files ⟨7, 1, 0⟩ "a.mp3" rfl,
      other.accounts .speech⟩

end PromptBroker.Broker
