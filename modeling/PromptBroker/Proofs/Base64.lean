import Mathlib.Algebra.Group.Nat.Defs
import PromptBroker.Base64

/-!
# Decoding what was encoded

The encoder puts three bytes into four symbols, the decoder takes four symbols for three
bytes again, as long as more follows, and treats the last group on its own, for it may be
padded. `decodeFrom_encode` follows the encoder group by group: wherever the decoder
stands in a text that goes on with encoded bytes, it ends with these bytes behind what it
has already.
-/

namespace PromptBroker.Base64

variable {i n : Nat} {input out : ByteArray} {w x y z : UInt8} {rest bytes : List UInt8}

/-! ### Symbols -/

/-- The byte of a symbol in a text. -/
def symbolByte (n : Nat) : UInt8 := (Alphabet.standard.symbol n).val.toUInt8

theorem value?_symbolByte (h : n < 64) : value? (symbolByte n) = some (UInt8.ofNat n) := by
  have all : ∀ n : Fin 64, value? (symbolByte n) = some (UInt8.ofNat n) := by decide
  exact all ⟨n, h⟩

theorem symbolByte_ne_padByte (h : n < 64) : symbolByte n ≠ padByte := by
  have all : ∀ n : Fin 64, symbolByte n ≠ padByte := by decide
  exact all ⟨n, h⟩

theorem utf8Size_symbol (h : n < 64) : (Alphabet.standard.symbol n).utf8Size = 1 := by
  have all : ∀ n : Fin 64, (Alphabet.standard.symbol n).utf8Size = 1 := by decide
  exact all ⟨n, h⟩

/-- The bytes of the encoded text, group by group. -/
def encodedBytes : List UInt8 → List UInt8
  | [] => []
  | [a] => [symbolByte (a.toNat / 4), symbolByte (a.toNat % 4 * 16), padByte, padByte]
  | [a, b] =>
    [symbolByte (a.toNat / 4), symbolByte (a.toNat % 4 * 16 + b.toNat / 16),
      symbolByte (b.toNat % 16 * 4), padByte]
  | a :: b :: c :: rest =>
    symbolByte (a.toNat / 4) :: symbolByte (a.toNat % 4 * 16 + b.toNat / 16) ::
      symbolByte (b.toNat % 16 * 4 + c.toNat / 64) :: symbolByte (c.toNat % 64) ::
      encodedBytes rest

theorem map_encode (bytes : List UInt8) :
    (encode .standard true bytes).map (·.val.toUInt8) = encodedBytes bytes := by
  have pad : '='.val.toUInt8 = padByte := rfl
  fun_induction encode .standard true bytes with
  | case4 a b c rest ih =>
    simp only [List.map_cons, ih]
    rfl
  | _ => simp only [if_true, List.map_append, List.map_cons, List.map_nil, pad]; rfl

/-- What holds of the symbols and of the padding holds of every character of an encoded text. -/
theorem forall_mem_encode {P : Char → Prop} (pad : P '=')
    (symbol : ∀ n < 64, P (Alphabet.standard.symbol n)) :
    ∀ c ∈ encode .standard true bytes, P c := by
  fun_induction encode .standard true bytes with
  | case1 => exact nofun
  | case2 a =>
    have := a.toNat_lt
    simp only [if_true, List.cons_append, List.nil_append, List.forall_mem_cons]
    exact ⟨symbol _ (by omega), symbol _ (by omega), pad, pad, nofun⟩
  | case3 a b =>
    have := a.toNat_lt
    have := b.toNat_lt
    simp only [if_true, List.cons_append, List.nil_append, List.forall_mem_cons]
    exact ⟨symbol _ (by omega), symbol _ (by omega), symbol _ (by omega), pad, nofun⟩
  | case4 a b c rest ih =>
    have := a.toNat_lt
    have := b.toNat_lt
    have := c.toNat_lt
    simp only [List.forall_mem_cons]
    exact ⟨symbol _ (by omega), symbol _ (by omega), symbol _ (by omega), symbol _ (by omega), ih⟩

/-- A text of characters of one byte. -/
theorem data_toUTF8 {cs : List Char} (narrow : ∀ c ∈ cs, c.utf8Size = 1) :
    (String.ofList cs).toUTF8.data.toList = cs.map (·.val.toUInt8) := by
  induction cs with
  | nil => rfl
  | cons c cs ih =>
    obtain ⟨first, others⟩ := List.forall_mem_cons.1 narrow
    have tail := ih others
    unfold String.toUTF8 String.ofList List.utf8Encode at tail ⊢
    rw [List.data_toByteArray, List.toList_toArray] at tail ⊢
    rw [List.flatMap_cons, String.utf8EncodeChar_eq_singleton first, tail]
    rfl

theorem data_encodeStandard (bytes : List UInt8) :
    (encodeStandard bytes).toUTF8.data.toList = encodedBytes bytes := by
  rw [encodeStandard, data_toUTF8 (forall_mem_encode rfl fun _ => utf8Size_symbol), map_encode]

theorem length_encodedBytes (bytes : List UInt8) : (encodedBytes bytes).length % 4 = 0 := by
  fun_induction encodedBytes bytes with
  | case4 a b c rest ih =>
    simp only [List.length_cons]
    omega
  | _ => simp

theorem encodedBytes_ne_nil (h : bytes ≠ []) : encodedBytes bytes ≠ [] := by
  unfold encodedBytes
  split
  · exact absurd rfl h
  all_goals simp

/-! ### Groups -/

/-- A number put together from a high and a low part. -/
theorem or_eq_of_parts (high i : Nat) {x y n : Nat} (hx : x = high * 2 ^ i) (hy : y < 2 ^ i)
    (sum : high * 2 ^ i + y = n) : x ||| y = n := by
  rw [hx, ← sum, ← Nat.shiftLeft_eq, Nat.shiftLeft_add_eq_or_of_lt hy]

/-- Three bytes come back from their four numbers. -/
theorem join_parts (a b c : UInt8) :
    join (UInt8.ofNat (a.toNat / 4)) (UInt8.ofNat (a.toNat % 4 * 16 + b.toNat / 16))
      (UInt8.ofNat (b.toNat % 16 * 4 + c.toNat / 64)) (UInt8.ofNat (c.toNat % 64)) = (a, b, c) := by
  have ha := a.toNat_lt
  have hb := b.toNat_lt
  have hc := c.toNat_lt
  refine Prod.ext (UInt8.toNat_inj.1 ?_)
    (Prod.ext (UInt8.toNat_inj.1 ?_) (UInt8.toNat_inj.1 ?_)) <;>
    simp only [join, UInt8.toNat_or, UInt8.toNat_shiftLeft, UInt8.toNat_shiftRight,
      Nat.shiftLeft_eq, Nat.shiftRight_eq_div_pow, UInt8.toNat_ofNat', UInt8.toNat_ofNat,
      Nat.reducePow, Nat.reduceMod]
  · exact or_eq_of_parts (a.toNat / 4) 2 (by omega) (by omega) (by omega)
  · exact or_eq_of_parts (b.toNat / 16) 4 (by omega) (by omega) (by omega)
  · exact or_eq_of_parts (c.toNat / 64) 6 (by omega) (by omega) (by omega)

/-! ### Reading on -/

/-- The bytes from a position on. -/
def Stands (input : ByteArray) (i : Nat) (rest : List UInt8) : Prop :=
  input.data.toList.drop i = rest

theorem Stands.length_eq (h : Stands input i rest) : rest.length = input.size - i := by
  rw [← h, List.length_drop, Array.length_toList, ByteArray.size_data]

theorem Stands.getElem_eq (h : Stands input i rest) {k : Nat} (hk : k < rest.length)
    (bound : i + k < input.size) : input[i + k] = rest[k] := by
  subst h
  rw [ByteArray.getElem_eq_getElem_data, List.getElem_drop, Array.getElem_toList]

theorem Stands.next (h : Stands input i (w :: x :: y :: z :: rest)) :
    Stands input (i + 4) rest := by
  unfold Stands at h ⊢
  rw [← List.drop_drop, h]
  rfl

theorem toList_loop (input : ByteArray) (i : Nat) (before : List UInt8) :
    ByteArray.toList.loop input i before = before.reverse ++ input.data.toList.drop i := by
  fun_induction ByteArray.toList.loop input i before with
  | case1 i before more ih =>
    have bound : i < input.data.toList.length := by simpa [ByteArray.size_data] using more
    rw [ih, List.drop_eq_getElem_cons bound, List.reverse_cons, List.append_assoc]
    simp [ByteArray.get!, more]
  | case2 i before finished =>
    rw [List.drop_eq_nil_of_le (by simpa [ByteArray.size_data] using finished), List.append_nil]

theorem toList_eq_data (bytes : ByteArray) : bytes.toList = bytes.data.toList := by
  rw [ByteArray.toList, toList_loop, List.reverse_nil, List.nil_append, List.drop_zero]

theorem Stands.toList_extract (h : Stands input i rest) :
    (input.extract i input.size).toList = rest := by
  rw [toList_eq_data, ByteArray.data_extract, Array.toList_extract, List.extract_eq_take_drop, h]
  exact List.take_of_length_le (Nat.le_of_eq h.length_eq)

/-- The last group. -/
theorem decodeFrom_of_last (h : Stands input i rest) (last : rest.length ≤ 4) :
    decodeFrom input i out = (Tail.read i 0 ⟨[], 0, 0⟩ rest).bind fun t =>
      (t.bytes i).map fun bytes => bytes.foldl ByteArray.push out := by
  have short : ¬i + 4 < input.size := by
    have := h.length_eq
    omega
  rw [decodeFrom, dif_neg short, h.toList_extract]
  cases Tail.read i 0 ⟨[], 0, 0⟩ rest <;> rfl

/-- A group with more behind it. -/
theorem decodeFrom_of_more (h : Stands input i (w :: x :: y :: z :: rest)) (more : rest ≠ [])
    {w' x' y' z' a b c : UInt8} (hw : value? w = some w') (hx : value? x = some x')
    (hy : value? y = some y') (hz : value? z = some z') (joined : join w' x' y' z' = (a, b, c)) :
    decodeFrom input i out = decodeFrom input (i + 4) (((out.push a).push b).push c) := by
  have long : i + 4 < input.size := by
    have := h.length_eq
    have := List.length_pos_iff.2 more
    simp only [List.length_cons] at *
    omega
  have first : input[i] = w := h.getElem_eq (k := 0) (by simp) (by omega)
  have second : input[i + 1] = x := h.getElem_eq (k := 1) (by simp) (by omega)
  have third : input[i + 2] = y := h.getElem_eq (k := 2) (by simp) (by omega)
  have fourth : input[i + 3] = z := h.getElem_eq (k := 3) (by simp) (by omega)
  rw [decodeFrom, dif_pos long, first, second, third, fourth, hw, hx, hy, hz]
  dsimp only
  rw [joined]

/-! ### The last group -/

theorem read_symbolByte {t : Tail} {offset index : Nat} (unpadded : t.pads = 0) (h : n < 64)
    (rest : List UInt8) : Tail.read offset index t (symbolByte n :: rest) =
      Tail.read offset (index + 1)
        { t with symbols := (symbolByte n, UInt8.ofNat n) :: t.symbols } rest := by
  rw [Tail.read, Tail.push, if_neg (symbolByte_ne_padByte h), if_neg (not_not_intro unpadded),
    value?_symbolByte h]

theorem read_padByte {t : Tail} {offset index : Nat} (behind : 2 ≤ index) (rest : List UInt8) :
    Tail.read offset index t (padByte :: rest) =
      Tail.read offset (index + 1) { t with
        pads := t.pads + 1, firstPad := if t.pads = 0 then index else t.firstPad } rest := by
  rw [Tail.read, Tail.push, if_pos rfl, if_neg (by omega)]

variable {offset first : Nat} {s₀ s₁ s₂ s₃ a b c : UInt8}

theorem bytes_of_two_symbols (joined : (join w x 0 0).1 = a) (unused : x &&& 0x0F = 0) :
    Tail.bytes offset ⟨[(s₁, x), (s₀, w)], 2, first⟩ = .ok [a] := by
  simp [Tail.bytes, unused, joined]

theorem bytes_of_three_symbols (joined : join w x y 0 = (a, b, c)) (unused : y &&& 0x03 = 0) :
    Tail.bytes offset ⟨[(s₂, y), (s₁, x), (s₀, w)], 1, first⟩ = .ok [a, b] := by
  simp [Tail.bytes, unused, joined]

theorem bytes_of_four_symbols (joined : join w x y z = (a, b, c)) :
    Tail.bytes offset ⟨[(s₃, z), (s₂, y), (s₁, x), (s₀, w)], 0, first⟩ = .ok [a, b, c] := by
  simp [Tail.bytes, joined]

/-- The last group of encoded bytes. -/
theorem decodeFrom_of_three (h : Stands input i (encodedBytes bytes)) (ne : bytes ≠ [])
    (last : bytes.length ≤ 3) : decodeFrom input i out = .ok (bytes.foldl ByteArray.push out) := by
  match bytes with
  | [] => exact absurd rfl ne
  | [a] =>
    have ha := a.toNat_lt
    have joined : (join (UInt8.ofNat (a.toNat / 4)) (UInt8.ofNat (a.toNat % 4 * 16)) 0 0).1 = a :=
      congrArg Prod.fst (join_parts a 0 0)
    have unused : ∀ k : Fin 4, UInt8.ofNat (k * 16) &&& 0x0F = 0 := by decide
    rw [decodeFrom_of_last h (by simp [encodedBytes]), encodedBytes,
      read_symbolByte rfl (by omega), read_symbolByte rfl (by omega), read_padByte (by omega),
      read_padByte (by omega)]
    dsimp only [Tail.read, Except.bind]
    rw [bytes_of_two_symbols joined (unused ⟨a.toNat % 4, by omega⟩)]
    rfl
  | [a, b] =>
    have ha := a.toNat_lt
    have hb := b.toNat_lt
    have joined : join (UInt8.ofNat (a.toNat / 4)) (UInt8.ofNat (a.toNat % 4 * 16 + b.toNat / 16))
        (UInt8.ofNat (b.toNat % 16 * 4)) 0 = (a, b, 0) := join_parts a b 0
    have unused : ∀ k : Fin 16, UInt8.ofNat (k * 4) &&& 0x03 = 0 := by decide
    rw [decodeFrom_of_last h (by simp [encodedBytes]), encodedBytes,
      read_symbolByte rfl (by omega), read_symbolByte rfl (by omega),
      read_symbolByte rfl (by omega), read_padByte (by omega)]
    dsimp only [Tail.read, Except.bind]
    rw [bytes_of_three_symbols joined (unused ⟨b.toNat % 16, by omega⟩)]
    rfl
  | [a, b, c] =>
    have ha := a.toNat_lt
    have hb := b.toNat_lt
    have hc := c.toNat_lt
    rw [decodeFrom_of_last h (by simp [encodedBytes]), encodedBytes,
      read_symbolByte rfl (by omega), read_symbolByte rfl (by omega),
      read_symbolByte rfl (by omega), read_symbolByte rfl (by omega)]
    dsimp only [encodedBytes, Tail.read, Except.bind]
    rw [bytes_of_four_symbols (join_parts a b c)]
    rfl
  | _ :: _ :: _ :: _ :: _ =>
    simp only [List.length_cons] at last
    omega

/-! ### The whole text -/

/-- Wherever the rest is encoded bytes, the decoder ends with these. -/
theorem decodeFrom_encodedBytes (h : Stands input i (encodedBytes bytes)) (ne : bytes ≠ []) :
    decodeFrom input i out = .ok (bytes.foldl ByteArray.push out) := by
  fun_induction encodedBytes bytes generalizing i out with
  | case1 | case2 | case3 => exact decodeFrom_of_three h ne (by simp)
  | case4 a b c rest ih =>
    by_cases more : rest = []
    · subst more
      exact decodeFrom_of_three h ne (by simp)
    have ha := a.toNat_lt
    have hb := b.toNat_lt
    have hc := c.toNat_lt
    rw [decodeFrom_of_more h (encodedBytes_ne_nil more) (value?_symbolByte (by omega))
      (value?_symbolByte (by omega)) (value?_symbolByte (by omega))
      (value?_symbolByte (by omega)) (join_parts a b c)]
    exact ih h.next more

theorem foldl_push (bytes : List UInt8) (out : ByteArray) :
    bytes.foldl ByteArray.push out = ⟨out.data ++ bytes.toArray⟩ := by
  induction bytes generalizing out with
  | nil => simp
  | cons a bytes ih =>
    rw [List.foldl_cons, ih]
    simp [ByteArray.data_push]

/-- Decoding inverts encoding. -/
theorem decode_encodeStandard (bytes : ByteArray) :
    decode (encodeStandard bytes.toList) = .ok bytes := by
  rw [toList_eq_data]
  have text := data_encodeStandard bytes.data.toList
  have whole : Stands (encodeStandard bytes.data.toList).toUTF8 0
      (encodedBytes bytes.data.toList) := text
  have size := whole.length_eq
  rw [Nat.sub_zero] at size
  unfold decode decodeBytes
  by_cases empty : bytes.data.toList = []
  · have none : bytes = .empty := ByteArray.ext (Array.toList_eq_nil_iff.1 empty)
    subst none
    rfl
  · have some : (encodeStandard bytes.data.toList).toUTF8.size ≠ 0 := by
      rw [← size]
      exact fun zero => encodedBytes_ne_nil empty (List.length_eq_zero_iff.1 zero)
    have noStray : strayLast (encodeStandard bytes.data.toList).toUTF8 = none := by
      unfold strayLast
      rw [dif_neg]
      rw [← size, length_encodedBytes]
      decide
    rw [if_neg some, noStray]
    dsimp only
    rw [decodeFrom_encodedBytes whole empty, foldl_push]
    simp

end PromptBroker.Base64
