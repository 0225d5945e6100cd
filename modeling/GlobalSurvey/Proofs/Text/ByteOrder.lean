import GlobalSurvey.Proofs.Text.Order
import GlobalSurvey.Proofs.Text.Utf8
import Mathlib.Data.String.Basic

/-!
# UTF-8 keeps the order of texts

The bytes of a character are an opening byte and the last digits of its number in base 64 (`encodeChar_eq`). Longer forms
have greater opening bytes, and within one form the digits decide, so the bytes of characters are in the order of their
numbers, whatever follows them (`precedes_encodeChar`). So texts are in the order of their bytes (`encode_lt_encode`).
-/
namespace GlobalSurvey.Text

namespace Utf8

/-! ## Rows of bytes -/

theorem byte_lt_byte {m n : Nat} (less : m < n) (small : n < 256) : byte m < byte n := by
  rw [UInt8.lt_iff_toNat_lt, byte_toNat (by omega), byte_toNat small]
  exact less

/-- The first row comes before the second, whatever follows the one and the other. -/
def Precedes (a b : List UInt8) : Prop := ∀ more other, a ++ more < b ++ other

theorem precedes_of_first {a b : UInt8} (less : a < b) (rest last : List UInt8) : Precedes (a :: rest) (b :: last) :=
  fun _ _ => .rel less

theorem Precedes.append {a b : List UInt8} (precedes : Precedes a b) (rest last : List UInt8) :
    Precedes (a ++ rest) (b ++ last) := by
  intro more other
  rw [List.append_assoc, List.append_assoc]
  exact precedes (rest ++ more) (last ++ other)

theorem Precedes.prepend {a b : List UInt8} (precedes : Precedes a b) (row : List UInt8) :
    Precedes (row ++ a) (row ++ b) := by
  intro more other
  rw [List.append_assoc, List.append_assoc]
  exact List.append_left_lt (precedes more other)

/-! ## The digits of a character -/

/-- The last digits of a number in base 64, each in a byte that continues a character. -/
def tails : Nat → Nat → List UInt8
  | 0, _ => []
  | count + 1, n => tails count (n / 64) ++ [byte (0x80 + n % 64)]

/-- Numbers that agree before their last digits are in the order of these. -/
theorem precedes_tails {count m n : Nat} (same : m / 64 ^ count = n / 64 ^ count) (less : m < n) :
    Precedes (tails count m) (tails count n) := by
  -- the last digit decides only if the numbers agree in all digits before it
  induction count generalizing m n with
  | zero =>
    rw [Nat.pow_zero, Nat.div_one, Nat.div_one] at same
    omega
  | succ count ih =>
    rw [Nat.pow_succ', ← Nat.div_div_eq_div_mul, ← Nat.div_div_eq_div_mul] at same
    rcases Nat.lt_or_eq_of_le (Nat.div_le_div_right (c := 64) less.le) with earlier | equal
    · exact (ih same earlier).append _ _
    · rw [tails, tails, equal]
      exact (precedes_of_first (byte_lt_byte (by omega) (by omega)) [] []).prepend _

/-- How many bytes continue the character with a number. -/
def tailCount (n : Nat) : Nat := if n < 0x80 then 0 else if n < 0x800 then 1 else if n < 0x10000 then 2 else 3

/-- The value of the first byte of the character with a number. -/
def opening (n : Nat) : Nat :=
  if n < 0x80 then n
  else if n < 0x800 then 0xC0 + n / 64
  else if n < 0x10000 then 0xE0 + n / 4096
  else 0xF0 + n / 262144

theorem encodeChar_eq (c : Char) : encodeChar c = byte (opening c.toNat) :: tails (tailCount c.toNat) c.toNat := by
  by_cases one : c.toNat < 0x80
  · simp [encodeChar, opening, tailCount, tails, one]
  by_cases two : c.toNat < 0x800
  · simp [encodeChar, opening, tailCount, tails, one, two]
  by_cases three : c.toNat < 0x10000
  · simp [encodeChar, opening, tailCount, tails, one, two, three]
  · simp [encodeChar, opening, tailCount, tails, one, two, three, Nat.div_div_eq_div_mul]

/-- The greater number has the greater first byte, or both have all digits but those in the other bytes in common. -/
theorem opening_lt_or {m n : Nat} (less : m < n) :
    opening m < opening n ∨
      opening m = opening n ∧ tailCount m = tailCount n ∧ m / 64 ^ tailCount n = n / 64 ^ tailCount n := by
  unfold opening tailCount
  -- two forms differ in their first bytes; in one form the first bytes differ or are made of the same digits
  split_ifs <;> simp <;> omega

theorem precedes_encodeChar {c d : Char} (less : c < d) : Precedes (encodeChar c) (encodeChar d) := by
  have numbers : c.toNat < d.toNat := less
  have small : opening d.toNat < 256 := by
    have scalar := toNat_valid d
    unfold opening
    split_ifs <;> omega
  rw [encodeChar_eq, encodeChar_eq]
  rcases opening_lt_or numbers with opens | ⟨opens, count, same⟩
  · exact precedes_of_first (byte_lt_byte opens small) _ _
  · rw [opens, count]
    exact (precedes_tails same numbers).prepend [byte (opening d.toNat)]

/-! ## Texts -/

theorem encode_lt_encode {a b : List Char} (less : a < b) : encode a < encode b := by
  induction less with
  | @nil c rest =>
    rw [encode, encode, List.flatMap_cons, encodeChar_eq]
    exact .nil
  | rel less => exact precedes_encodeChar less _ _
  | cons _ ih => exact List.append_left_lt ih

end Utf8

/-- Texts are in the order of the numbers of their characters. -/
theorem strictMono_codes_toList : StrictMono fun text : String => codes text.toList :=
  fun _ _ less => List.map_lt (fun _ _ less => less) (String.lt_iff_toList_lt.mp less)

theorem rowLE_iff_le {a b : List Nat} : rowLE a b = true ↔ a ≤ b := rowLE_iff.trans le_iff_eq_or_lt.symm

theorem textLE_iff_le {a b : String} : textLE a b = true ↔ a ≤ b := by
  rw [textLE, rowLE_iff_le]
  exact strictMono_codes_toList.le_iff_le

end GlobalSurvey.Text
