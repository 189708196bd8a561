import Mathlib.Data.List.Basic
import TripleStore.Text.Utf8

/-!
Contract: characters written as UTF-8 and read back.

Owns:
- the bytes of characters, and how many there are;
- that reading the bytes of characters gives back the characters;
- that a byte below `0x80` is among the bytes of no other character.

Does not own: bytes that are those of no characters.
-/

namespace TripleStore.Text

/-- The bytes of the characters. -/
def encode (characters : List Char) : List UInt8 :=
  characters.flatMap String.utf8EncodeChar

variable {characters : List Char} {character : Char} {bytes : List UInt8}

@[simp] theorem encode_nil : encode [] = [] := rfl

@[simp] theorem encode_cons (first : Char) (others : List Char) :
    encode (first :: others) = String.utf8EncodeChar first ++ encode others := rfl

@[simp] theorem encode_append (front behind : List Char) :
    encode (front ++ behind) = encode front ++ encode behind :=
  List.flatMap_append

/-! ## The bytes of a string -/

theorem toList_loop (array : ByteArray) (index : Nat) (taken : List UInt8) :
    ByteArray.toList.loop array index taken = taken.reverse ++ array.data.toList.drop index := by
  fun_induction ByteArray.toList.loop array index taken with
  | case1 index taken inRange inductionHypothesis =>
      have inList : index < array.data.toList.length := by simpa using inRange
      rw [inductionHypothesis, List.drop_eq_getElem_cons inList]
      simp [ByteArray.get!, inRange]
  | case2 index taken outOfRange =>
      have behind : array.data.toList.length ≤ index := by simpa using outOfRange
      rw [List.drop_eq_nil_of_le behind, List.append_nil]

theorem toUTF8_toList (text : String) : text.toUTF8.toList = encode text.toList := by
  rw [ByteArray.toList, toList_loop, String.toUTF8_eq_toByteArray, ← String.utf8Encode_toList,
    List.utf8Encode, List.toList_data_toByteArray]
  rfl

/-! ## Counting bytes -/

theorem byteLength_append (front behind : List Char) :
    byteLength (front ++ behind) = byteLength front + byteLength behind := by
  induction front with
  | nil => simp [byteLength]
  | cons first others inductionHypothesis =>
      simp only [byteLength, List.cons_append, List.foldr_cons] at inductionHypothesis ⊢
      omega

theorem length_encode (characters : List Char) :
    (encode characters).length = byteLength characters := by
  induction characters with
  | nil => rfl
  | cons first others inductionHypothesis =>
      rw [encode_cons, List.length_append, String.length_utf8EncodeChar, inductionHypothesis]
      rfl

theorem byteLength_toList (text : String) : byteLength text.toList = text.utf8ByteSize := by
  rw [← length_encode, ← String.size_toByteArray, ← String.utf8Encode_toList, List.utf8Encode]
  simp [encode]

/-- Of the ways to cut a text in two, no two have fronts of the same number of bytes. -/
theorem eq_of_byteLength_eq
    {front otherFront behind otherBehind : List Char}
    (whole : front ++ behind = otherFront ++ otherBehind)
    (sameLength : byteLength front = byteLength otherFront) :
    front = otherFront ∧ behind = otherBehind := by
  induction front generalizing otherFront with
  | nil =>
      cases otherFront with
      | nil => exact ⟨rfl, whole⟩
      | cons first others =>
          have positive := first.utf8Size_pos
          simp only [byteLength, List.foldr_nil, List.foldr_cons] at sameLength
          omega
  | cons first others inductionHypothesis =>
      cases otherFront with
      | nil =>
          have positive := first.utf8Size_pos
          simp only [byteLength, List.foldr_nil, List.foldr_cons] at sameLength
          omega
      | cons otherFirst otherOthers =>
          rw [List.cons_append, List.cons_append, List.cons.injEq] at whole
          obtain ⟨rfl, rest⟩ := whole
          have sameRest : byteLength others = byteLength otherOthers :=
            Nat.add_left_cancel sameLength
          obtain ⟨rfl, sameBehind⟩ := inductionHypothesis rest sameRest
          exact ⟨rfl, sameBehind⟩

/-! ## Reading bytes -/

/-- No more bytes are looked at than the longest character has. -/
theorem decode_utf8EncodeChar_append (character : Char) (bytes : List UInt8) :
    decode (String.utf8EncodeChar character ++ bytes) = .char character :: decode bytes := by
  have size := String.length_utf8EncodeChar character
  have atMost : character.utf8Size ≤ longestCharacter := character.utf8Size_le_four
  have found : ((String.utf8EncodeChar character ++ bytes).take
      longestCharacter).toByteArray.utf8DecodeChar? 0 = some character := by
    rw [List.take_append, List.take_of_length_le (by omega), List.toByteArray_append,
      ByteArray.utf8DecodeChar?_utf8EncodeChar_append]
  obtain ⟨byte, later, spelled⟩ := List.exists_cons_of_ne_nil
    (String.utf8EncodeChar_ne_nil : String.utf8EncodeChar character ≠ [])
  rw [spelled, List.length_cons] at size
  rw [spelled, List.cons_append] at found ⊢
  rw [decode]
  simp only [found]
  rw [List.drop_append_of_le_length (by omega), List.drop_of_length_le (by omega),
    List.nil_append]

theorem decode_encode_append (characters : List Char) (bytes : List UInt8) :
    decode (encode characters ++ bytes) = characters.map .char ++ decode bytes := by
  induction characters with
  | nil => rfl
  | cons first others inductionHypothesis =>
      rw [encode_cons, List.append_assoc, decode_utf8EncodeChar_append, inductionHypothesis]
      rfl

theorem decode_encode (characters : List Char) :
    decode (encode characters) = characters.map .char := by
  have whole := decode_encode_append characters []
  rwa [List.append_nil, decode, List.append_nil] at whole

theorem decode?_encode (characters : List Char) :
    decode? (encode characters) = some characters := by
  rw [decode?, decode_encode, characters?_map_char]

/-! ## Bytes that are characters by themselves -/

theorem utf8EncodeChar_of_small (small : character.toNat < 128) :
    String.utf8EncodeChar character = [character.toNat.toUInt8] := by
  unfold String.utf8EncodeChar
  exact if_pos (Nat.le_of_lt_succ small)

/-- The bytes of a character that takes several are all above those that stand alone. -/
theorem not_small_of_mem_utf8EncodeChar
    {byte : UInt8}
    (large : 128 ≤ character.toNat)
    (member : byte ∈ String.utf8EncodeChar character) :
    128 ≤ byte.toNat := by
  have notSmall : ¬character.val.toNat ≤ 0x7f := by
    change ¬character.toNat ≤ 127
    omega
  unfold String.utf8EncodeChar at member
  rw [if_neg notSmall] at member
  split at member
  · simp only [List.mem_cons, List.not_mem_nil, or_false] at member
    rcases member with rfl | rfl <;> simp only [UInt8.toNat_ofNat'] <;> omega
  · split at member
    · simp only [List.mem_cons, List.not_mem_nil, or_false] at member
      rcases member with rfl | rfl | rfl <;> simp only [UInt8.toNat_ofNat'] <;> omega
    · simp only [List.mem_cons, List.not_mem_nil, or_false] at member
      rcases member with rfl | rfl | rfl | rfl <;> simp only [UInt8.toNat_ofNat'] <;> omega

/-- A byte below `0x80` is the whole of a character or not part of it. -/
theorem mem_utf8EncodeChar_iff {byte : UInt8} (small : byte.toNat < 128) :
    byte ∈ String.utf8EncodeChar character ↔ character.toNat = byte.toNat := by
  constructor
  · intro member
    have alone : character.toNat < 128 := by
      by_contra large
      have above := not_small_of_mem_utf8EncodeChar (Nat.le_of_not_lt large) member
      omega
    rw [utf8EncodeChar_of_small alone, List.mem_singleton] at member
    rw [member, Nat.toUInt8, UInt8.toNat_ofNat', Nat.mod_eq_of_lt (by omega)]
  · intro same
    rw [utf8EncodeChar_of_small (by omega), same]
    simp [Nat.toUInt8]

theorem mem_encode_iff {byte : UInt8} (small : byte.toNat < 128) :
    byte ∈ encode characters ↔ ∃ character ∈ characters, character.toNat = byte.toNat := by
  simp only [encode, List.mem_flatMap, mem_utf8EncodeChar_iff small]

end TripleStore.Text
