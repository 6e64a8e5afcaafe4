import PromptBroker.Text.DataUrl

/-!
# Reading data addresses

A data address is read at its first comma: what stands in front is the header, what
stands behind it is the encoded file, whatever commas it may hold. So a media type and an
encoded file are read exactly from the address that is built of them, provided that the
media type holds no comma and that neither is empty (`parse?_eq_some_iff`).
-/

namespace PromptBroker.Text.DataUrl

variable {s : String.Slice} {url mediaType payload start rest : String}

/-! ### Cutting texts -/

/-- A text is cut where its list of characters is. -/
theorem toList_copy_takeWhile_dropWhile (p : Char → Bool) :
    (s.takeWhile p).copy.toList = s.copy.toList.takeWhile p ∧
      (s.dropWhile p).copy.toList = s.copy.toList.dropWhile p := by
  have whole : (s.takeWhile p).copy.toList ++ (s.dropWhile p).copy.toList = s.copy.toList := by
    rw [← String.toList_append, String.Slice.takeWhile_append_dropWhile]
  have front : ∀ c ∈ (s.takeWhile p).copy.toList, p c = true := by
    have all : (s.takeWhile p).all p = true := String.Slice.all_takeWhile
    rwa [String.Slice.all_bool_eq, List.all_eq_true] at all
  have back : (s.dropWhile p).copy.toList.head?.any p = false := by
    rw [← String.Slice.startsWith_bool_eq_head?]
    exact String.Slice.startsWith_dropWhile
  rw [← whole, List.takeWhile_append_of_pos front, List.dropWhile_append_of_pos front]
  cases behind : (s.dropWhile p).copy.toList with
  | nil => simp
  | cons c cs =>
    rw [behind] at back
    have stops : ¬p c = true := by simpa using back
    simp [stops]

theorem exists_dropPrefix?_iff :
    (∃ t, s.dropPrefix? start = some t ∧ t.copy = rest) ↔ s.copy = start ++ rest := by
  constructor
  · rintro ⟨t, dropped, rfl⟩
    exact String.Slice.eq_append_of_dropPrefix?_string_eq_some dropped
  · intro whole
    cases dropped : s.dropPrefix? start with
    | none =>
      rw [String.Slice.dropPrefix?_eq_none_iff] at dropped
      simp [whole] at dropped
    | some t =>
      have same := whole.symm.trans (String.Slice.eq_append_of_dropPrefix?_string_eq_some dropped)
      exact ⟨t, rfl, ((String.append_right_inj start).1 same).symm⟩

theorem exists_dropSuffix?_iff {ending : String} :
    (∃ t, s.dropSuffix? ending = some t ∧ t.copy = rest) ↔ s.copy = rest ++ ending := by
  constructor
  · rintro ⟨t, dropped, rfl⟩
    exact String.Slice.eq_append_of_dropSuffix?_string_eq_some dropped
  · intro whole
    cases dropped : s.dropSuffix? ending with
    | none =>
      rw [String.Slice.dropSuffix?_eq_none_iff] at dropped
      simp [whole] at dropped
    | some t =>
      have same := whole.symm.trans (String.Slice.eq_append_of_dropSuffix?_string_eq_some dropped)
      exact ⟨t, rfl, ((String.append_left_inj ending).1 same).symm⟩

theorem exists_dropPrefix?_char_iff {c : Char} :
    (∃ t, s.dropPrefix? c = some t ∧ t.copy = rest) ↔ s.copy = String.singleton c ++ rest := by
  constructor
  · rintro ⟨t, dropped, rfl⟩
    exact String.Slice.eq_append_of_dropPrefix?_char_eq_some dropped
  · intro whole
    cases dropped : s.dropPrefix? c with
    | none =>
      rw [String.Slice.dropPrefix?_eq_none_iff] at dropped
      simp [String.Slice.startsWith_char_eq_head?, whole] at dropped
    | some t =>
      have same := whole.symm.trans (String.Slice.eq_append_of_dropPrefix?_char_eq_some dropped)
      exact ⟨t, rfl, ((String.append_right_inj _).1 same).symm⟩

/-! ### Addresses -/

theorem filled_iff (t u : String.Slice) :
    (if t.isEmpty || u.isEmpty then none else some (t.copy, u.copy)) = some (mediaType, payload) ↔
      t.copy = mediaType ∧ u.copy = payload ∧ mediaType ≠ "" ∧ payload ≠ "" := by
  rw [← String.Slice.isEmpty_copy (s := t), ← String.Slice.isEmpty_copy (s := u)]
  constructor
  · intro h
    split at h
    · cases h
    · next filled =>
      cases h
      simpa using filled
  · rintro ⟨rfl, rfl, front, back⟩
    simp [front, back]

/-- The steps of reading: the header is cut off at the first comma and ends in `;base64`. -/
theorem parse?_eq_some : parse? url = some (mediaType, payload) ↔
    ∃ rest : String, url = "data:" ++ rest ∧
      rest.toList.takeWhile (· != ',') = (mediaType ++ ";base64").toList ∧
      rest.toList.dropWhile (· != ',') = (String.singleton ',' ++ payload).toList ∧
      mediaType ≠ "" ∧ payload ≠ "" := by
  unfold parse?
  simp only [bind, Option.bind_eq_some_iff, filled_iff, String.dropPrefix?_eq_dropPrefix?_toSlice]
  constructor
  · rintro ⟨s, start, u, comma, t, base64, rfl, rfl, front, back⟩
    obtain ⟨header, file⟩ := toList_copy_takeWhile_dropWhile (s := s) (· != ',')
    refine ⟨s.copy, ?_, ?_, ?_, front, back⟩
    · rw [← exists_dropPrefix?_iff.1 ⟨s, start, rfl⟩, String.copy_toSlice]
    · rw [← header, exists_dropSuffix?_iff.1 ⟨t, base64, rfl⟩]
    · rw [← file, exists_dropPrefix?_char_iff.1 ⟨u, comma, rfl⟩]
  · rintro ⟨rest, rfl, header, file, front, back⟩
    obtain ⟨s, start, rfl⟩ := exists_dropPrefix?_iff.2
      (String.copy_toSlice (s := "data:" ++ rest))
    obtain ⟨cutHeader, cutFile⟩ := toList_copy_takeWhile_dropWhile (s := s) (· != ',')
    obtain ⟨t, base64, rfl⟩ :=
      exists_dropSuffix?_iff.2 (String.toList_injective (cutHeader.trans header))
    obtain ⟨u, comma, rfl⟩ :=
      exists_dropPrefix?_char_iff.2 (String.toList_injective (cutFile.trans file))
    exact ⟨s, start, u, comma, t, base64, rfl, rfl, front, back⟩

/-- What is read is what the address was built of. -/
theorem parse?_eq_some_iff : parse? url = some (mediaType, payload) ↔
    url = build mediaType payload ∧ ',' ∉ mediaType.toList ∧ mediaType ≠ "" ∧ payload ≠ "" := by
  rw [parse?_eq_some]
  constructor
  · rintro ⟨rest, rfl, header, file, front, back⟩
    refine ⟨?_, fun comma => ?_, front, back⟩
    · have whole := List.takeWhile_append_dropWhile (p := (· != ',')) (l := rest.toList)
      rw [header, file] at whole
      apply String.toList_injective
      simp [build, ← whole]
    · have mem : ',' ∈ rest.toList.takeWhile (· != ',') := by simp [header, comma]
      exact absurd (List.all_eq_true.1 List.all_takeWhile _ mem) (by decide)
  · rintro ⟨rfl, plain, front, back⟩
    have header : ∀ c ∈ (mediaType ++ ";base64").toList, (c != ',') = true := by
      intro c mem
      rw [String.toList_append, List.mem_append] at mem
      rcases mem with mem | mem
      · exact bne_iff_ne.2 fun comma => plain (comma ▸ mem)
      · have none : ";base64".toList.all (· != ',') = true := by decide +kernel
        exact List.all_eq_true.1 none c mem
    have cut : (mediaType ++ ";base64," ++ payload).toList =
        (mediaType ++ ";base64").toList ++ (String.singleton ',' ++ payload).toList := by simp
    refine ⟨mediaType ++ ";base64," ++ payload, ?_, ?_, ?_, front, back⟩
    · simp [build, String.append_assoc]
    · rw [cut, List.takeWhile_append_of_pos header]
      simp
    · rw [cut, List.dropWhile_append_of_pos header]
      simp

end PromptBroker.Text.DataUrl
