import GlobalSurvey.Text.Codec

/-!
# UTF-8 reads back what it writes

`decode` undoes `encode` (`decode_encode`), so no two texts have the same bytes (`encode_injective`).
-/
namespace GlobalSurvey.Text.Utf8

theorem byte_toNat {n : Nat} (small : n < 256) : (byte n).toNat = n := by
  simp only [byte, UInt8.toNat_ofNat']
  omega

/-- The numbers that characters have: surrogates are none. -/
theorem toNat_valid (c : Char) : c.toNat < 0xD800 ∨ 0xDFFF < c.toNat ∧ c.toNat < 0x110000 := c.valid

theorem ofNat_of_toNat {c : Char} {n : Nat} (same : n = c.toNat) : Char.ofNat n = c := by
  rw [same, Char.ofNat_toNat]

/-! ## One character -/

theorem readTwo_bytes {c : Char} {high low : Nat} (value : c.toNat = high * 64 + low) (small : high < 32)
    (tail : low < 64) (rest : List UInt8) :
    readTwo (byte (0xC0 + high)) (byte (0x80 + low) :: rest) = .char c rest := by
  have first : (byte (0xC0 + high)).toNat = 0xC0 + high := byte_toNat (by omega)
  have second : (byte (0x80 + low)).toNat = 0x80 + low := byte_toNat (by omega)
  have isTail : isTail (byte (0x80 + low)) = true := by simp [Utf8.isTail, second]; omega
  simp only [readTwo, isTail, if_true, first, second]
  rw [ofNat_of_toNat (c := c) (by omega)]

theorem readThree_bytes {c : Char} {high middle low : Nat} (value : c.toNat = high * 4096 + middle * 64 + low)
    (small : high < 16) (second : middle < 64) (third : low < 64) (needed : 0x800 ≤ c.toNat) (rest : List UInt8) :
    readThree (byte (0xE0 + high)) (byte (0x80 + middle) :: byte (0x80 + low) :: rest) = .char c rest := by
  have a : (byte (0xE0 + high)).toNat = 0xE0 + high := byte_toNat (by omega)
  have b : (byte (0x80 + middle)).toNat = 0x80 + middle := byte_toNat (by omega)
  have d : (byte (0x80 + low)).toNat = 0x80 + low := byte_toNat (by omega)
  have scalar := toNat_valid c
  have opens : isSecondOfThree (byte (0xE0 + high)) (byte (0x80 + middle)) = true := by
    simp [isSecondOfThree, isTail, a, b]
    omega
  have closes : isTail (byte (0x80 + low)) = true := by simp [isTail, d]; omega
  simp only [readThree, opens, closes, if_true, a, b, d]
  rw [ofNat_of_toNat (c := c) (by omega)]

theorem readFour_bytes {c : Char} {top high middle low : Nat}
    (value : c.toNat = top * 262144 + high * 4096 + middle * 64 + low) (small : top < 8) (second : high < 64)
    (third : middle < 64) (fourth : low < 64) (needed : 0x10000 ≤ c.toNat) (rest : List UInt8) :
    readFour (byte (0xF0 + top)) (byte (0x80 + high) :: byte (0x80 + middle) :: byte (0x80 + low) :: rest) =
      .char c rest := by
  have a : (byte (0xF0 + top)).toNat = 0xF0 + top := byte_toNat (by omega)
  have b : (byte (0x80 + high)).toNat = 0x80 + high := byte_toNat (by omega)
  have d : (byte (0x80 + middle)).toNat = 0x80 + middle := byte_toNat (by omega)
  have e : (byte (0x80 + low)).toNat = 0x80 + low := byte_toNat (by omega)
  have scalar := toNat_valid c
  have opens : isSecondOfFour (byte (0xF0 + top)) (byte (0x80 + high)) = true := by
    simp [isSecondOfFour, isTail, a, b]
    omega
  have goesOn : isTail (byte (0x80 + middle)) = true := by simp [isTail, d]; omega
  have closes : isTail (byte (0x80 + low)) = true := by simp [isTail, e]; omega
  simp only [readFour, opens, goesOn, closes, if_true, a, b, d, e]
  rw [ofNat_of_toNat (c := c) (by omega)]

/-- The bytes of a character open with a byte from which the character is read. -/
theorem readChar_encodeChar (c : Char) (rest : List UInt8) :
    ∃ a tail, encodeChar c = a :: tail ∧ readChar a (tail ++ rest) = .char c rest := by
  have scalar := toNat_valid c
  by_cases one : c.toNat < 0x80
  · refine ⟨byte c.toNat, [], by simp [encodeChar, one], ?_⟩
    have value : (byte c.toNat).toNat = c.toNat := byte_toNat (by omega)
    simp [readChar, value, one]
  by_cases two : c.toNat < 0x800
  · refine ⟨byte (0xC0 + c.toNat / 64), [byte (0x80 + c.toNat % 64)], by simp [encodeChar, one, two], ?_⟩
    have first : (byte (0xC0 + c.toNat / 64)).toNat = 0xC0 + c.toNat / 64 := byte_toNat (by omega)
    simp only [readChar, first]
    rw [if_neg (by omega), if_neg (by omega), if_pos (by omega)]
    exact readTwo_bytes (by omega) (by omega) (by omega) rest
  by_cases three : c.toNat < 0x10000
  · refine ⟨byte (0xE0 + c.toNat / 4096), [byte (0x80 + c.toNat / 64 % 64), byte (0x80 + c.toNat % 64)],
      by simp [encodeChar, one, two, three], ?_⟩
    have first : (byte (0xE0 + c.toNat / 4096)).toNat = 0xE0 + c.toNat / 4096 := byte_toNat (by omega)
    simp only [readChar, first]
    rw [if_neg (by omega), if_neg (by omega), if_neg (by omega), if_pos (by omega)]
    exact readThree_bytes (by omega) (by omega) (by omega) (by omega) (by omega) rest
  · refine ⟨byte (0xF0 + c.toNat / 262144),
      [byte (0x80 + c.toNat / 4096 % 64), byte (0x80 + c.toNat / 64 % 64), byte (0x80 + c.toNat % 64)],
      by simp [encodeChar, one, two, three], ?_⟩
    have first : (byte (0xF0 + c.toNat / 262144)).toNat = 0xF0 + c.toNat / 262144 := byte_toNat (by omega)
    simp only [readChar, first]
    rw [if_neg (by omega), if_neg (by omega), if_neg (by omega), if_neg (by omega), if_pos (by omega)]
    exact readFour_bytes (by omega) (by omega) (by omega) (by omega) (by omega) (by omega) rest

/-! ## Texts -/

theorem decodeFrom_encode (text : List Char) (position : Nat) : decodeFrom position (encode text) = .ok text := by
  induction text generalizing position with
  | nil => simp [encode, decodeFrom]
  | cons c text ih =>
    obtain ⟨a, tail, bytes, read⟩ := readChar_encodeChar c (encode text)
    have opened : encode (c :: text) = a :: (tail ++ encode text) := by simp [encode, bytes]
    rw [opened, decodeFrom]
    split
    · rename_i faulty
      rw [read] at faulty
      cases faulty
    · rename_i again
      rw [read] at again
      cases again
      simp only [ih]

/-- Reading the bytes of a text gives the text back. -/
theorem decode_encode (text : List Char) : decode (encode text) = .ok text := decodeFrom_encode text 0

/-- No two texts have the same bytes. -/
theorem encode_injective {a b : List Char} (same : encode a = encode b) : a = b := by
  have read := decode_encode a
  rw [same, decode_encode b] at read
  cases read
  rfl

end GlobalSurvey.Text.Utf8

namespace GlobalSurvey.Text.Codec

theorem decodeUtf8_encode (text : List Char) : decodeUtf8 (Utf8.encode text) = .ok text := by
  simp only [decodeUtf8, Utf8.decode_encode]

end GlobalSurvey.Text.Codec
