import GlobalSurvey.Proofs.Text.Utf8
import Mathlib.Tactic.SplitIfs

/-!
# Every encoding reads back what it writes

A text that can be written in an encoding is read from its bytes as it was (`decode_of_encode?`), whatever characters it
opens with: of the marks at the start of a file only the one that the encoding itself writes is dropped.
-/
namespace GlobalSurvey.Text

namespace Utf16
open GlobalSurvey.Text.Utf8 (byte byte_toNat toNat_valid ofNat_of_toNat)

/-! ## UTF-16 -/

theorem unit_unitBytes {n : Nat} (small : n < 0x10000) (order : ByteOrder) :
    ∃ a b, unitBytes order n = [a, b] ∧ unit order a b = n := by
  have low : (byte (n % 256)).toNat = n % 256 := byte_toNat (by omega)
  have high : (byte (n / 256)).toNat = n / 256 := byte_toNat (by omega)
  cases order with
  | little =>
    refine ⟨_, _, rfl, ?_⟩
    rw [unit, low, high]
    omega
  | big =>
    refine ⟨_, _, rfl, ?_⟩
    rw [unit, low, high]
    omega

theorem decodeFrom_encodeChar {order : ByteOrder} {bytes : List UInt8} {text : List Char}
    (read : ∀ position, decodeFrom order position bytes = .ok text) (c : Char) (position : Nat) :
    decodeFrom order position (encodeChar order c ++ bytes) = .ok (c :: text) := by
  have scalar := toNat_valid c
  by_cases single : c.toNat < 0x10000
  · obtain ⟨a, b, written, value⟩ := unit_unitBytes single order
    have noSurrogate : unit order a b < 0xD800 ∨ 0xE000 ≤ unit order a b := by omega
    rw [encodeChar, if_pos single, written, decodeFrom.eq_def]
    simp only [List.cons_append, List.nil_append, if_pos noSurrogate, read]
    rw [ofNat_of_toNat value]
  · have upper : 0xD800 + (c.toNat - 0x10000) / 0x400 < 0x10000 := by omega
    have lower : 0xDC00 + (c.toNat - 0x10000) % 0x400 < 0x10000 := by omega
    obtain ⟨a, b, first, high⟩ := unit_unitBytes upper order
    obtain ⟨d, e, second, low⟩ := unit_unitBytes lower order
    have isHigh : ¬ (unit order a b < 0xD800 ∨ 0xE000 ≤ unit order a b) ∧ ¬ 0xDC00 ≤ unit order a b := by omega
    have isLow : 0xDC00 ≤ unit order d e ∧ unit order d e < 0xE000 := by omega
    have value : 0x10000 + (unit order a b - 0xD800) * 0x400 + (unit order d e - 0xDC00) = c.toNat := by omega
    rw [encodeChar, if_neg single, first, second, decodeFrom.eq_def]
    simp only [List.cons_append, List.nil_append, if_neg isHigh.1, if_neg isHigh.2, if_pos isLow, read]
    rw [ofNat_of_toNat value]

/-- Reading the bytes of a text gives the text back. -/
theorem decodeFrom_encode (order : ByteOrder) (text : List Char) (position : Nat) :
    decodeFrom order position (encode order text) = .ok text := by
  induction text generalizing position with
  | nil => rfl
  | cons c rest ih => exact decodeFrom_encodeChar ih c position

end Utf16

namespace Codec
open GlobalSurvey.Text.Utf8 (byte_toNat ofNat_of_toNat)

/-! ## One byte a character -/

theorem decodeBytes_of_mapM {char? : UInt8 → Option Char} {byte? : Char → Option UInt8} {reason : Reason}
    (back : ∀ c b, byte? c = some b → char? b = some c) {text : List Char} {bytes : List UInt8}
    (written : text.mapM byte? = some bytes) (position : Nat) :
    decodeBytes char? reason position bytes = .ok text := by
  induction text generalizing bytes position with
  | nil =>
    cases written
    rfl
  | cons c rest ih =>
    simp only [List.mapM_cons, Option.bind_eq_bind, Option.bind_eq_some_iff, Option.pure_def, Option.some.injEq] at written
    obtain ⟨b, first, more, later, rfl⟩ := written
    simp only [decodeBytes, back c b first, ih later]

theorem toNat_of_narrowByte? {bound : Nat} (narrow : bound ≤ 256) {c : Char} {b : UInt8}
    (written : narrowByte? bound c = some b) : c.toNat < bound ∧ b.toNat = c.toNat := by
  unfold narrowByte? at written
  split at written
  · rename_i small
    cases written
    exact ⟨small, byte_toNat (Nat.lt_of_lt_of_le small narrow)⟩
  · cases written

theorem asciiChar?_of_narrowByte? {c : Char} {b : UInt8} (written : narrowByte? 0x80 c = some b) :
    asciiChar? b = some c := by
  obtain ⟨small, same⟩ := toNat_of_narrowByte? (by decide) written
  rw [asciiChar?, if_pos (same ▸ small), ofNat_of_toNat same]

/-- A character of the page of Windows-1252 is found at its place there. -/
theorem windowsChar?_of_windowsByte? {c : Char} {b : UInt8} (written : windowsByte? c = some b) :
    windowsChar? b = some c := by
  unfold windowsByte? at written
  split_ifs at written with direct null
  · cases written
    have same : (UInt8.ofNat c.toNat).toNat = c.toNat := byte_toNat (by omega)
    rw [windowsChar?, same, if_pos (by omega), Char.ofNat_toNat]
  · obtain ⟨i, found, rfl⟩ := Option.map_eq_some_iff.mp written
    obtain ⟨inside, value, -⟩ := List.findIdx?_eq_some_iff_getElem.mp found
    have inside : i < 32 := inside
    have same : (UInt8.ofNat (0x80 + i)).toNat = 0x80 + i := byte_toNat (by omega)
    have entry : windowsPage[0x80 + i - 0x80]? = some c.toNat := by
      rw [Nat.add_sub_cancel_left]
      exact List.getElem?_eq_some_iff.mpr ⟨inside, of_decide_eq_true value⟩
    rw [windowsChar?, same, if_neg (by omega), entry]
    split
    · rename_i zero
      exact absurd (Option.some.inj zero) null
    · rename_i n found
      cases found
      rw [Char.ofNat_toNat]
    · rename_i none
      cases none

/-! ## All encodings -/

/-- A text that can be written in an encoding is read from its bytes as it was. -/
theorem decode_of_encode? {codec : Codec} {text : List Char} {bytes : List UInt8}
    (written : codec.encode? text = some bytes) : codec.decode bytes = .ok text := by
  cases codec with
  | utf8 =>
    cases written
    simp only [decode, decodeUtf8_encode]
  | utf8Signature =>
    cases written
    cases text with
    | nil => rfl
    | cons c rest =>
      -- what comes after the mark is not empty, so the bytes are not taken for the beginning of a mark
      obtain ⟨a, tail, opens, -⟩ := Utf8.readChar_encodeChar c []
      have filled : Utf8.encode (c :: rest) = a :: (tail ++ Utf8.encode rest) := by simp [Utf8.encode, opens]
      have longer : ¬ (signature ++ Utf8.encode (c :: rest)).isPrefixOf signature = true := by
        rw [List.isPrefixOf_iff_prefix, filled]
        intro short
        have := short.length_le
        rw [List.length_append, List.length_cons] at this
        omega
      have marked : signature.isPrefixOf (signature ++ Utf8.encode (c :: rest)) = true :=
        List.isPrefixOf_iff_prefix.mpr (List.prefix_append _ _)
      have unmarked : (signature ++ Utf8.encode (c :: rest)).drop 3 = Utf8.encode (c :: rest) := rfl
      simp only [decode, if_neg longer, if_pos marked, unmarked, decodeUtf8_encode]
  | ascii => simp only [decode, decodeBytes_of_mapM (fun _ _ => asciiChar?_of_narrowByte?) written]
  | latin1 =>
    have back : ∀ c b, narrowByte? 0x100 c = some b → some (Char.ofNat b.toNat) = some c := by
      intro c b same
      rw [ofNat_of_toNat (toNat_of_narrowByte? (by decide) same).2]
    simp only [decode, decodeBytes_of_mapM back written]
  | windows1252 => simp only [decode, decodeBytes_of_mapM (fun _ _ => windowsChar?_of_windowsByte?) written]
  | utf16 =>
    cases written
    have marked : Utf16.encode .little ('\ufeff' :: text) = [0xFF, 0xFE] ++ Utf16.encode .little text := rfl
    have opens : [0xFF, 0xFE].isPrefixOf ([0xFF, 0xFE] ++ Utf16.encode .little text) = true :=
      List.isPrefixOf_iff_prefix.mpr (List.prefix_append _ _)
    have unmarked : ([0xFF, 0xFE] ++ Utf16.encode .little text).drop 2 = Utf16.encode .little text := rfl
    simp only [decode, marked, if_pos opens, unmarked, decodeUtf16, Utf16.decodeFrom_encode]
  | utf16Order order =>
    cases written
    simp only [decode, decodeUtf16, Utf16.decodeFrom_encode]

end Codec

end GlobalSurvey.Text
