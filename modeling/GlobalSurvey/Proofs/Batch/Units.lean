import GlobalSurvey.Batch.Units
import GlobalSurvey.Proofs.Text.Blank
import Mathlib.Data.List.Nodup

/-!
# What is accepted as a batch

The items that are accepted as units are texts that are not blank and all different, and they are the units in their order
(`checkUnits_eq_ok`, `of_validateUnits`). The numbers of workers that are accepted are the positive ones
(`validateWorkers_eq_ok`).
-/
namespace GlobalSurvey.Batch

/-! ## Units -/

theorem isIdentifier_iff {unit : String} : isIdentifier unit = true ↔ ∃ c ∈ unit.toList, Text.isBlank c = false := by
  rw [isIdentifier, Bool.not_eq_true', List.isEmpty_eq_false_iff, ne_eq, Text.trim_eq_nil_iff]
  simp

/-- The value is a text that is not blank. -/
def IsUnit (v : Value) : Prop := ∃ unit, v = .str unit ∧ ∃ c ∈ unit.toList, Text.isBlank c = false

theorem isUnit_str {unit : String} : IsUnit (.str unit) ↔ isIdentifier unit = true := by
  rw [isIdentifier_iff]
  constructor
  · rintro ⟨other, same, full⟩
    cases same
    exact full
  · exact fun full => ⟨unit, rfl, full⟩

/-- A text is accepted before other items if it is not blank and was not seen before. -/
theorem checkUnits_str {position : Nat} {seen units : List String} {unit : String} {rest : List Value} :
    checkUnits position seen (.str unit :: rest) = .ok units ↔ isIdentifier unit = true ∧ unit ∉ seen ∧
      ∃ others, checkUnits (position + 1) (unit :: seen) rest = .ok others ∧ units = unit :: others := by
  simp only [checkUnits]
  split
  · rename_i blank
    simp [(Bool.not_eq_true' _).mp blank]
  · rename_i named
    split
    · rename_i held
      simp [held]
    · rename_i new
      have named : isIdentifier unit = true := by simpa using named
      cases checkUnits (position + 1) (unit :: seen) rest <;> simp [named, new, eq_comm]

/-- The units that are accepted are the items themselves: texts that are not blank, all different, and not seen before. -/
theorem checkUnits_eq_ok {position : Nat} {seen units : List String} {items : List Value} :
    checkUnits position seen items = .ok units ↔
      items = units.map .str ∧ (∀ unit ∈ units, isIdentifier unit = true) ∧ units.Nodup ∧ ∀ unit ∈ units, unit ∉ seen := by
  induction items generalizing position seen units with
  | nil => cases units <;> simp [checkUnits]
  | cons v rest ih =>
    cases v with
    | str unit =>
      rw [checkUnits_str]
      simp only [ih]
      constructor
      · rintro ⟨named, new, others, ⟨rfl, names, different, unseen⟩, rfl⟩
        refine ⟨rfl, List.forall_mem_cons.mpr ⟨named, names⟩, ?_, ?_⟩
        · exact List.nodup_cons.mpr ⟨fun again => unseen unit again List.mem_cons_self, different⟩
        · exact List.forall_mem_cons.mpr
            ⟨new, fun other member held => unseen other member (List.mem_cons_of_mem unit held)⟩
      · rintro ⟨same, names, different, unseen⟩
        cases units with
        | nil => cases same
        | cons first others =>
          cases same
          obtain ⟨named, names⟩ := List.forall_mem_cons.mp names
          obtain ⟨new, unseen⟩ := List.forall_mem_cons.mp unseen
          obtain ⟨absent, different⟩ := List.nodup_cons.mp different
          refine ⟨named, new, others, ⟨rfl, names, different, ?_⟩, rfl⟩
          intro other member held
          rcases List.mem_cons.mp held with rfl | before
          · exact absent member
          · exact unseen other member before
    | _ => cases units <;> simp [checkUnits]

theorem exists_units_iff (position : Nat) {items : List Value} :
    (∃ units, checkUnits position [] items = .ok units) ↔ (∀ v ∈ items, IsUnit v) ∧ items.Nodup := by
  simp only [checkUnits_eq_ok, List.not_mem_nil, not_false_eq_true, implies_true, and_true]
  constructor
  · rintro ⟨units, rfl, names, different⟩
    refine ⟨?_, List.Nodup.map (fun _ _ same => Value.str.inj same) different⟩
    intro v member
    obtain ⟨unit, inside, rfl⟩ := List.mem_map.mp member
    exact isUnit_str.mpr (names unit inside)
  · rintro ⟨named, different⟩
    obtain ⟨units, rfl⟩ : ∃ units : List String, items = units.map .str := by
      clear different
      induction items with
      | nil => exact ⟨[], rfl⟩
      | cons v rest ih =>
        obtain ⟨units, rfl⟩ := ih fun other member => named other (List.mem_cons_of_mem v member)
        obtain ⟨unit, rfl, -⟩ := named v List.mem_cons_self
        exact ⟨unit :: units, rfl⟩
    refine ⟨units, rfl, ?_, List.Nodup.of_map _ different⟩
    exact fun unit member => isUnit_str.mp (named (.str unit) (List.mem_map_of_mem member))

/-- Items that are neither a text nor bytes are checked one by one. -/
theorem validateUnits_items {v : Value} {items : List Value} (noText : ∀ s, v ≠ .str s) (noBytes : ∀ b, v ≠ .bytes b)
    (iterable : v.iterate = .ok items) : validateUnits v = (checkUnits 0 [] items).mapError .configuration := by
  unfold validateUnits
  split
  · exact absurd rfl (noText _)
  · exact absurd rfl (noBytes _)
  · rw [iterable]
    simp only
    cases checkUnits 0 [] items <;> rfl

/-- Only items that are texts, none of them blank and all different, are accepted as units. -/
theorem of_validateUnits {v : Value} {units : List String} (accepted : validateUnits v = .ok units) :
    v.iterate = .ok (units.map .str) ∧ (∀ unit ∈ units, isIdentifier unit = true) ∧ units.Nodup := by
  unfold validateUnits at accepted
  split at accepted
  · cases accepted
  · cases accepted
  · split at accepted
    · cases accepted
    · rename_i items iterable
      split at accepted
      · rename_i checked
        cases accepted
        obtain ⟨rfl, named, different, -⟩ := checkUnits_eq_ok.mp checked
        exact ⟨iterable, named, different⟩
      · cases accepted

/-- A list of texts is accepted as it is, if none of them is blank and all are different. -/
theorem validateUnits_texts {units others : List String} : validateUnits (.list (units.map .str)) = .ok others ↔
    others = units ∧ (∀ unit ∈ units, isIdentifier unit = true) ∧ units.Nodup := by
  constructor
  · intro accepted
    obtain ⟨iterable, named, different⟩ := of_validateUnits accepted
    have same : units.map Value.str = others.map .str := Except.ok.inj iterable
    obtain rfl := List.map_injective_iff.mpr (fun _ _ => Value.str.inj) same
    exact ⟨rfl, named, different⟩
  · rintro ⟨rfl, named, different⟩
    have checked : checkUnits 0 [] (others.map .str) = .ok others :=
      checkUnits_eq_ok.mpr ⟨rfl, named, different, fun _ _ => List.not_mem_nil⟩
    rw [validateUnits_items (by rintro _ ⟨⟩) (by rintro _ ⟨⟩) rfl, checked]
    rfl

/-! ## Workers -/

theorem validateWorkers_eq_ok {v : Value} {workers : Nat} :
    validateWorkers v = .ok workers ↔ ∃ n, v = .int n ∧ 1 ≤ n ∧ n.toNat = workers := by
  cases v with
  | int n =>
    simp only [validateWorkers]
    split
    · simp
      omega
    · simp
      omega
  | _ => simp [validateWorkers]

theorem exists_workers_iff {v : Value} : (∃ workers, validateWorkers v = .ok workers) ↔ ∃ n, v = .int n ∧ 1 ≤ n := by
  simp only [validateWorkers_eq_ok]
  constructor
  · rintro ⟨workers, n, same, positive, -⟩
    exact ⟨n, same, positive⟩
  · rintro ⟨n, same, positive⟩
    exact ⟨n.toNat, n, same, positive, rfl⟩

end GlobalSurvey.Batch
