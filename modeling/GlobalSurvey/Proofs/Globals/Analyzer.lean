import GlobalSurvey.Globals.Analyzer
import GlobalSurvey.Proofs.Files.Resolution

/-!
# How the analysis of a source file ends

It ends in names or in a refusal of its own unit, except for two kinds of unit that are unusable: those whose path holds
NUL, and those whose file is UTF-16 without the byte order mark that the encoding asks for (`analyze_own_iff`).
-/
namespace GlobalSurvey

/-! ## Faults of reading -/

namespace Files.Disk

theorem node?_eq_nullCharacter_iff {d : Disk} {path : String} :
    d.node? path = .error .nullCharacter ↔ '\x00' ∈ path.toList := by
  unfold node? checked
  split
  · rename_i null
    simpa using List.contains_iff_mem.mp null
  · rename_i plain
    have plain : '\x00' ∉ path.toList := fun null => plain (List.contains_iff_mem.mpr null)
    split <;> simp [plain]

/-- A file cannot be asked for by a path with the character NUL, and for no other reason is this said. -/
theorem contents_eq_nullCharacter_iff {d : Disk} {path : String} :
    d.contents path = .error .nullCharacter ↔ '\x00' ∈ path.toList := by
  rw [← node?_eq_nullCharacter_iff (d := d), contents]
  cases d.node? path with
  | error fault => simp [bind, Except.bind]
  | ok node => cases node <;> simp [bind, Except.bind]

end Files.Disk

namespace Text.Codec

/-- The bytes are UTF-16 but for the byte order mark that the codec takes the order of the bytes from. -/
structure LacksMark (codec : Codec) (bytes : List UInt8) : Prop where
  codec : codec = .utf16
  some : bytes ≠ []
  noLittle : ¬ [0xFF, 0xFE] <+: bytes
  noBig : ¬ [0xFE, 0xFF] <+: bytes
  readable : ∃ text, Utf16.decode .little bytes = .ok text

/-- Only no bytes at all are no text in UTF-16. -/
theorem eq_nil_of_decodeFrom {order : Utf16.ByteOrder} {position : Nat} {bytes : List UInt8}
    (empty : Utf16.decodeFrom order position bytes = .ok []) : bytes = [] := by
  match bytes with
  | [] => rfl
  | [a] => simp [Utf16.decodeFrom] at empty
  | a :: b :: rest =>
    rw [Utf16.decodeFrom.eq_def] at empty
    simp only at empty
    repeat' split at empty
    all_goals cases empty

theorem decodeUtf16_eq_ok_iff {order : Utf16.ByteOrder} {position : Nat} {bytes : List UInt8} {text : List Char} :
    decodeUtf16 order position bytes = .ok text ↔ Utf16.decodeFrom order position bytes = .ok text := by
  unfold decodeUtf16
  split <;> rename_i read <;> simp [read]

theorem decode_eq_unmarked_iff {codec : Codec} {bytes : List UInt8} :
    codec.decode bytes = .error .unmarked ↔ codec.LacksMark bytes := by
  constructor
  · intro unmarked
    unfold decode at unmarked
    cases codec with
    | utf16 =>
      simp only at unmarked
      split at unmarked
      · split at unmarked <;> cases unmarked
      · rename_i noLittle
        split at unmarked
        · split at unmarked <;> cases unmarked
        · rename_i noBig
          split at unmarked
          · cases unmarked
          · cases unmarked
          · rename_i text some read
            refine ⟨rfl, ?_, fun mark => noLittle ?_, fun mark => noBig ?_, text, decodeUtf16_eq_ok_iff.mp read⟩
            · rintro rfl
              cases read
              exact some rfl
            · exact List.isPrefixOf_iff_prefix.mpr mark
            · exact List.isPrefixOf_iff_prefix.mpr mark
    | _ =>
      simp only at unmarked
      repeat' split at unmarked
      all_goals cases unmarked
  · rintro ⟨rfl, some, noLittle, noBig, text, read⟩
    have read : decodeUtf16 .little 0 bytes = .ok text := decodeUtf16_eq_ok_iff.mpr read
    have text_ne : text ≠ [] := by
      rintro rfl
      exact some (eq_nil_of_decodeFrom (decodeUtf16_eq_ok_iff.mp read))
    unfold decode
    simp only [List.isPrefixOf_iff_prefix, if_neg noLittle, if_neg noBig, read]

end Text.Codec

/-! ## Endings -/

namespace Globals
open GlobalSurvey.Files GlobalSurvey.Text

/-- The source of a unit cannot be used at all: its path holds NUL, or its file lacks the byte order mark. -/
inductive IsUnusable (codec : Codec) (d : Disk) (unit : String) : Prop
  | path (null : '\x00' ∈ unit.toList)
  | unmarked (bytes : List UInt8) (there : d.contents unit = .ok bytes) (lacks : codec.LacksMark bytes)

/-- The ways in which work on the source of a unit ends. -/
inductive Ends (codec : Codec) (d : Disk) (unit : String) {α : Type} : Except Failure α → Prop
  | done (a : α) (usable : ¬ IsUnusable codec d unit) : Ends codec d unit (.ok a)
  | refused (reason : String) (usable : ¬ IsUnusable codec d unit) : Ends codec d unit (.error (.rejected unit reason))
  | path (null : '\x00' ∈ unit.toList) : Ends codec d unit (.error (.file .nullCharacter))
  | unmarked (bytes : List UInt8) (there : d.contents unit = .ok bytes) (lacks : codec.LacksMark bytes) :
      Ends codec d unit (.error .unmarked)

section
variable {options : Options} {d : Disk} {unit : String} {codec : Codec} {bytes : List UInt8}

/-- A source whose bytes are there is unusable only if they lack the byte order mark. -/
theorem usable_of_contents (there : d.contents unit = .ok bytes) (marked : ¬ codec.LacksMark bytes) :
    ¬ IsUnusable codec d unit := by
  rintro (null | ⟨others, again, lacks⟩)
  · rw [Disk.contents_eq_nullCharacter_iff.mpr null] at there
    cases there
  · rw [there] at again
    cases again
    exact marked lacks

theorem usable_of_refused {cause : Cause} {path : String} (refused : d.contents unit = .error (.refused cause path)) :
    ¬ IsUnusable codec d unit := by
  rintro (null | ⟨others, again, -⟩)
  · rw [Disk.contents_eq_nullCharacter_iff.mpr null] at refused
    cases refused
  · rw [refused] at again
    cases again

theorem ends_readText (known : Codec.ofName? options.encoding = some codec) :
    Ends codec d unit (readText options d unit) := by
  unfold readText
  cases there : d.contents unit with
  | error fault =>
    cases fault with
    | nullCharacter => exact .path (Disk.contents_eq_nullCharacter_iff.mp there)
    | refused cause path => exact .refused _ (usable_of_refused there)
  | ok bytes =>
    simp only [known]
    have marked : codec.decode bytes ≠ .error .unmarked → ¬ IsUnusable codec d unit := fun other =>
      usable_of_contents there fun lacks => other (Codec.decode_eq_unmarked_iff.mpr lacks)
    cases read : codec.decode bytes with
    | ok text => exact .done _ (marked (by simp [read]))
    | error fault =>
      cases fault with
      | undecodable what => exact .refused _ (marked (by simp [read]))
      | unmarked => exact .unmarked bytes there (Codec.decode_eq_unmarked_iff.mp read)

/-- An analysis ends as the reading of the file ends, but a text that was read may still be refused. -/
theorem ends_analyze (known : Codec.ofName? options.encoding = some codec) :
    Ends codec d unit (analyze options d unit) := by
  have ends : Ends codec d unit (readText options d unit) := ends_readText known
  unfold analyze
  cases read : readText options d unit with
  | error failure =>
    rw [read] at ends
    cases ends with
    | refused reason usable => exact .refused reason usable
    | path null => exact .path null
    | unmarked bytes there lacks => exact .unmarked bytes there lacks
  | ok text =>
    rw [read] at ends
    cases ends with
    | done _ usable =>
      cases extracted : extractFromText options text with
      | ok names => simpa only [extracted] using .done names usable
      | error fault => simpa only [extracted] using .refused _ usable

/-- Work on a source ends in its result, or in a refusal of its own unit, exactly if the source can be used. -/
theorem Ends.own_iff {α : Type} {result : Except Failure α} (ends : Ends codec d unit result) :
    ((∃ a, result = .ok a) ∨ ∃ reason, result = .error (.rejected unit reason)) ↔ ¬ IsUnusable codec d unit := by
  cases ends with
  | done a usable => exact ⟨fun _ => usable, fun _ => .inl ⟨a, rfl⟩⟩
  | refused reason usable => exact ⟨fun _ => usable, fun _ => .inr ⟨reason, rfl⟩⟩
  | path null => simp [IsUnusable.path null]
  | unmarked bytes there lacks => simp [IsUnusable.unmarked bytes there lacks]

theorem analyze_own_iff (known : Codec.ofName? options.encoding = some codec) :
    ((∃ names, analyze options d unit = .ok names) ∨ ∃ reason, analyze options d unit = .error (.rejected unit reason)) ↔
      ¬ IsUnusable codec d unit := (ends_analyze known).own_iff

end

end Globals

end GlobalSurvey
