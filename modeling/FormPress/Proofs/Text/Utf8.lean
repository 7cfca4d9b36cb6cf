import FormPress.Text.Utf8
import Mathlib.Data.List.TakeWhile

/-!
# UTF-8 is read back

The bytes of a character are a first byte, which says how many follow it, and a tail; so the decoder
takes a text character by character, whatever stands behind it.
-/

namespace FormPress.Text.Utf8

/-! ## Bytes of characters -/

/-- Bytes that stand for a code point: the tail is as long as the first byte says, and its second
byte is one that the first admits. -/
structure Encodes (bytes : List UInt8) (point : Nat) : Prop where
  exists_bytes : ∃ first tail, bytes = first :: tail ∧ tailCount? first = some tail.length ∧
    (∀ t ∈ tail.head?, admits first t = true) ∧ (∀ t ∈ tail, isTail t = true) ∧
    codePoint first tail = point

/-- What a first byte asks of the second one. -/
theorem admits_iff {first second : UInt8} :
    admits first second = true ↔ isTail second = true ∧
      (first.toNat = 0xE0 → 0xA0 ≤ second.toNat) ∧ (first.toNat = 0xED → second.toNat ≤ 0x9F) ∧
      (first.toNat = 0xF0 → 0x90 ≤ second.toNat) ∧ (first.toNat = 0xF4 → second.toNat ≤ 0x8F) := by
  have hbyte (n : UInt8) : first = n ↔ first.toNat = n.toNat := UInt8.toNat_inj.symm
  have hE0 : (0xE0 : UInt8).toNat = 0xE0 := rfl
  have hED : (0xED : UInt8).toNat = 0xED := rfl
  have hF0 : (0xF0 : UInt8).toNat = 0xF0 := rfl
  have hF4 : (0xF4 : UInt8).toNat = 0xF4 := rfl
  unfold admits
  dsimp only
  rw [Bool.and_eq_true]
  simp only [hbyte, hE0, hED, hF0, hF4]
  refine and_congr_right fun _ => ?_
  split
  · simp only [decide_eq_true_eq]
    omega
  · split
    · simp only [decide_eq_true_eq]
      omega
    · split
      · simp only [decide_eq_true_eq]
        omega
      · split
        · simp only [decide_eq_true_eq]
          omega
        · simp only [true_iff]
          omega

theorem encodes_utf8EncodeChar (c : Char) : Encodes (String.utf8EncodeChar c) c.toNat := by
  have hvalid : c.toNat < 0xD800 ∨ (0xDFFF < c.toNat ∧ c.toNat < 0x110000) := c.valid
  have hnat : c.val.toNat = c.toNat := rfl
  constructor
  unfold String.utf8EncodeChar
  dsimp only
  rw [hnat]
  generalize c.toNat = v at hvalid
  split
  · refine ⟨_, [], rfl, ?_, by simp, by simp, ?_⟩
    · simp [tailCount?]
      omega
    · simp [codePoint]
      omega
  · split
    · refine ⟨_, [_], rfl, ?_, ?_, ?_, ?_⟩
      · unfold tailCount?
        dsimp only
        rw [UInt8.toNat_ofNat', if_neg (by omega), if_neg (by omega), if_pos (by omega)]
        rfl
      · simp [admits_iff, isTail]
        omega
      · simp [isTail]
        omega
      · simp [codePoint]
        omega
    · split
      · refine ⟨_, [_, _], rfl, ?_, ?_, ?_, ?_⟩
        · unfold tailCount?
          dsimp only
          rw [UInt8.toNat_ofNat', if_neg (by omega), if_neg (by omega), if_neg (by omega),
            if_pos (by omega)]
          rfl
        · simp [admits_iff, isTail]
          omega
        · simp [isTail]
          omega
        · simp [codePoint]
          omega
      · refine ⟨_, [_, _, _], rfl, ?_, ?_, ?_, ?_⟩
        · unfold tailCount?
          dsimp only
          rw [UInt8.toNat_ofNat', if_neg (by omega), if_neg (by omega), if_neg (by omega),
            if_neg (by omega), if_pos (by omega)]
          rfl
        · simp [admits_iff, isTail]
          omega
        · simp [isTail]
          omega
        · simp [codePoint]
          omega

/-! ## Texts -/

/-- A tail that a first byte admits is good as a whole, whatever follows it. -/
theorem goodTail_append {first : UInt8} {tail : List UInt8}
    (hsecond : ∀ t ∈ tail.head?, admits first t = true) (htail : ∀ t ∈ tail, isTail t = true)
    (rest : List UInt8) : goodTail first tail.length (tail ++ rest) = tail.length := by
  cases tail with
  | nil =>
    cases rest with
    | nil => rfl
    | cons b rest => rfl
  | cons t tail =>
    rw [List.forall_mem_cons] at htail
    have htake : (tail ++ rest).take tail.length = tail := by simp
    have hall : tail.takeWhile isTail = tail := List.takeWhile_eq_self_iff.2 htail.2
    rw [List.cons_append, goodTail, if_neg (by simp), if_pos (hsecond t rfl), List.length_cons,
      Nat.add_sub_cancel, htake, hall, Nat.add_comm]

/-- A character is decoded in one step. -/
theorem decodeFrom_append {bytes : List UInt8} {point : Nat} (h : Encodes bytes point)
    (fuel start : Nat) (rest : List UInt8) :
    ∃ next, decodeFrom (fuel + 1) start (bytes ++ rest) =
      (decodeFrom fuel next rest).map (Char.ofNat point :: ·) := by
  obtain ⟨first, tail, rfl, hcount, hsecond, htail, rfl⟩ := h
  refine ⟨start + 1 + tail.length, ?_⟩
  rw [List.cons_append, decodeFrom, hcount]
  dsimp only
  rw [if_pos (goodTail_append hsecond htail rest), List.drop_left, List.take_left]

theorem decodeFrom_flatMap (s : List Char) (fuel start : Nat)
    (hfuel : (s.flatMap String.utf8EncodeChar).length ≤ fuel) :
    decodeFrom fuel start (s.flatMap String.utf8EncodeChar) = .ok s := by
  induction s generalizing fuel start with
  | nil => cases fuel <;> rfl
  | cons c rest ih =>
    have hencodes := encodes_utf8EncodeChar c
    have hpos : 0 < (String.utf8EncodeChar c).length :=
      List.length_pos_iff.2 String.utf8EncodeChar_ne_nil
    rw [List.flatMap_cons, List.length_append] at hfuel
    obtain ⟨n, rfl⟩ : ∃ n, fuel = n + 1 := ⟨fuel - 1, by omega⟩
    obtain ⟨next, hstep⟩ := decodeFrom_append hencodes n start (rest.flatMap String.utf8EncodeChar)
    rw [List.flatMap_cons, hstep, ih n next (by omega), Char.ofNat_toNat]
    rfl

theorem toList_loop (bytes : ByteArray) (i : Nat) (r : List UInt8) :
    ByteArray.toList.loop bytes i r = r.reverse ++ bytes.data.toList.drop i := by
  induction h : bytes.size - i generalizing i r with
  | zero =>
    have hend : bytes.data.toList.length ≤ i := by
      rw [Array.length_toList]
      exact Nat.le_of_sub_eq_zero h
    rw [ByteArray.toList.loop, if_neg (by omega), List.drop_eq_nil_of_le hend, List.append_nil]
  | succ n ih =>
    have hlt : i < bytes.data.toList.length := by
      rw [Array.length_toList]
      exact Nat.lt_of_sub_eq_succ h
    have hget : bytes.get! i = bytes.data.toList[i] := by
      have hsize : i < bytes.data.size := by simpa using hlt
      exact (getElem!_pos bytes.data i hsize).trans (Array.getElem_toList hsize).symm
    rw [ByteArray.toList.loop, if_pos (by omega), ih (i + 1) _ (by omega), hget,
      List.drop_eq_getElem_cons hlt, List.reverse_cons, List.append_assoc]
    rfl

theorem toList_toByteArray (bytes : List UInt8) : bytes.toByteArray.toList = bytes := by
  rw [ByteArray.toList, toList_loop, List.toList_data_toByteArray]
  rfl

theorem encode_eq (s : String) : encode s = s.toList.flatMap String.utf8EncodeChar := by
  rw [encode, String.toUTF8_eq_toByteArray, ← String.utf8Encode_toList, List.utf8Encode,
    toList_toByteArray]

/-- **The bytes of a text are decoded as the text.** -/
theorem decode_encode (s : String) : decode (encode s) = .ok s.toList := by
  rw [decode, encode_eq]
  exact decodeFrom_flatMap _ _ _ (Nat.le_refl _)

end FormPress.Text.Utf8
