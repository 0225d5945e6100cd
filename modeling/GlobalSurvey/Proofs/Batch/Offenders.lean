import GlobalSurvey.Proofs.Batch.Units

/-!
# The first item that is wrong is the one that is blamed

A list of units is accepted as it is exactly if all its items are texts that are not blank, and different from each other.
Otherwise the refusal is about the first item that is not such a text, or is the same as an earlier one
(`blames_of_checkUnits`). The main statement is `validateUnits_exact`.
-/
namespace GlobalSurvey.Batch

/-- There is something wrong with the item at a position: it is no unit, or is there already. -/
def Offends (items : List Value) (position : Nat) : Prop :=
  ∃ item, items[position]? = some item ∧ (¬ IsUnit item ∨ item ∈ items.take position)

/-- The message about the first item with which something is wrong. If it is no unit it is named with its position, and by
itself if it is one that is there already. -/
inductive Blames (items : List Value) : String → Prop
  | unfit {position : Nat} {item : Value} (there : items[position]? = some item)
      (first : ∀ earlier < position, ¬ Offends items earlier) (noUnit : ¬ IsUnit item) :
      Blames items ("Unit #" ++ toString position ++ " is not a valid identifier: " ++ item.text)
  | again {position : Nat} {unit : String} (there : items[position]? = some (.str unit))
      (first : ∀ earlier < position, ¬ Offends items earlier) (named : IsUnit (.str unit))
      (held : .str unit ∈ items.take position) : Blames items ("Unit listed twice: " ++ unit)

section
variable {before rest : List Value} {item : Value}

/-- Nothing is wrong with the items up to a unit that was not there before, if nothing is wrong with those before it. -/
theorem sound_snoc (sound : ∀ earlier < before.length, ¬ Offends (before ++ item :: rest) earlier) (named : IsUnit item)
    (new : item ∉ before) :
    ∀ earlier < (before ++ [item]).length, ¬ Offends (before ++ [item] ++ rest) earlier := by
  rw [List.append_assoc, List.singleton_append]
  intro earlier inside
  rw [List.length_append, List.length_singleton] at inside
  rcases Nat.lt_succ_iff_lt_or_eq.mp inside with less | rfl
  · exact sound earlier less
  · rintro ⟨other, there, wrong⟩
    obtain rfl : item = other := by simpa using there
    rw [List.take_left] at wrong
    rcases wrong with unfit | held
    · exact unfit named
    · exact new held

/-- The check blames the first item with which something is wrong. Of the items before those that it still looks at, among
which nothing is wrong, it keeps the texts. -/
theorem blames_of_checkUnits {seen : List String} {fault : ConfigurationFault}
    (kept : ∀ unit, unit ∈ seen ↔ .str unit ∈ before)
    (sound : ∀ earlier < before.length, ¬ Offends (before ++ rest) earlier)
    (refused : checkUnits before.length seen rest = .error fault) : Blames (before ++ rest) fault.message := by
  induction rest generalizing before seen with
  | nil => cases refused
  | cons item rest ih =>
    have there : (before ++ item :: rest)[before.length]? = some item := by simp
    cases item with
    | str unit =>
      simp only [checkUnits] at refused
      split at refused
      · rename_i blank
        cases refused
        refine .unfit there sound fun named => ?_
        rw [isUnit_str.mp named] at blank
        cases blank
      · rename_i full
        have named : IsUnit (.str unit) := isUnit_str.mpr (by simpa using full)
        split at refused
        · rename_i held
          cases refused
          refine .again there sound named ?_
          rw [List.take_left]
          exact (kept unit).mp held
        · rename_i new
          have fresh : .str unit ∉ before := fun held => new ((kept unit).mpr held)
          have keptAll (other : String) : other ∈ unit :: seen ↔ .str other ∈ before ++ [.str unit] := by
            rw [List.mem_cons, List.mem_append, List.mem_singleton, Value.str.injEq, kept other, or_comm]
          split at refused
          · cases refused
          · rename_i later
            cases refused
            have longer : before.length + 1 = (before ++ [Value.str unit]).length := by simp
            rw [longer] at later
            have blamed := ih keptAll (sound_snoc sound named fresh) later
            rwa [List.append_assoc, List.singleton_append] at blamed
    | _ =>
      cases refused
      refine .unfit there sound ?_
      rintro ⟨_, same, _⟩
      cases same

end

/-- What is iterated, other than a text or bytes, is accepted with its items in their order exactly if they are texts that
are not blank and all different. Otherwise it is refused as a configuration, with blame for the first item with which
something is wrong. -/
theorem validateUnits_exact {v : Value} {items : List Value} (noText : ∀ s, v ≠ .str s) (noBytes : ∀ b, v ≠ .bytes b)
    (iterable : v.iterate = .ok items) :
    ((∃ units, validateUnits v = .ok units ∧ items = units.map .str) ↔ (∀ item ∈ items, IsUnit item) ∧ items.Nodup) ∧
      (¬ ((∀ item ∈ items, IsUnit item) ∧ items.Nodup) → ∃ failure, validateUnits v = .error failure ∧
        failure.kind = "ConfigurationError" ∧ Blames items failure.message) := by
  rw [validateUnits_items noText noBytes iterable, ← exists_units_iff 0]
  cases checked : checkUnits 0 [] items with
  | ok units =>
    have same := (checkUnits_eq_ok.mp checked).1
    exact ⟨iff_of_true ⟨units, rfl, same⟩ ⟨units, rfl⟩, fun refused => absurd ⟨units, rfl⟩ refused⟩
  | error fault =>
    have blamed : Blames ([] ++ items) fault.message :=
      blames_of_checkUnits (by simp) (fun _ none_ => (Nat.not_lt_zero _ none_).elim) checked
    refine ⟨iff_of_false ?_ ?_, fun _ => ⟨.configuration fault, rfl, rfl, blamed⟩⟩
    · rintro ⟨units, accepted, -⟩
      cases accepted
    · rintro ⟨units, accepted⟩
      cases accepted

/-- A unit that is there already, before an item that is no text. -/
theorem repeated_unit_blamed :
    (∀ s, Value.list [.str "a", .str " b", .str "a", .null] ≠ .str s) ∧
      (∀ b, Value.list [.str "a", .str " b", .str "a", .null] ≠ .bytes b) ∧
      ∃ failure, validateUnits (.list [.str "a", .str " b", .str "a", .null]) = .error failure ∧
        failure.message = "Unit listed twice: a" ∧
        Blames [.str "a", .str " b", .str "a", .null] failure.message := by
  have noText : ∀ s, Value.list [.str "a", .str " b", .str "a", .null] ≠ .str s := by rintro _ ⟨⟩
  have noBytes : ∀ b, Value.list [.str "a", .str " b", .str "a", .null] ≠ .bytes b := by rintro _ ⟨⟩
  have spoiled : ¬ ((∀ item ∈ [Value.str "a", .str " b", .str "a", .null], IsUnit item) ∧
      [Value.str "a", .str " b", .str "a", .null].Nodup) := by simp
  obtain ⟨failure, refused, -, blamed⟩ := (validateUnits_exact noText noBytes rfl).2 spoiled
  refine ⟨noText, noBytes, failure, refused, ?_, blamed⟩
  cases refused
  rfl

end GlobalSurvey.Batch
