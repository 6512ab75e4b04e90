import OcpDiag.Results.StructValidators

set_option autoImplicit false

/- What the validators of a series and of a measurement accept. -/
namespace OcpDiag.Results

theorem Variant.isString_of_index {value other : Variant} (same : value.index = other.index)
    (isString : other.isString = true) : value.isString = true := by
  cases other with
  | string text => cases value <;> first | rfl | cases same
  | double number => cases isString
  | bool truth => cases isString

theorem Variant.isDouble_of_index {value other : Variant} (same : value.index = other.index)
    (isDouble : other.isDouble = true) : value.isDouble = true := by
  cases other with
  | double number => cases value <;> first | rfl | cases same
  | string text => cases isDouble
  | bool truth => cases isDouble

namespace Validator

/-- The number and the alternative of the values that a type of validator takes. -/
def FitsType (validator : Validator) : Prop :=
  match validator.type with
  | .equal | .notEqual => validator.value.length = 1
  | .lessThan | .lessThanOrEqual | .greaterThan | .greaterThanOrEqual =>
      validator.value.length = 1 ∧ ∀ value ∈ validator.value, value.isDouble = true
  | .regexMatch | .regexNoMatch => ∀ value ∈ validator.value, value.isString = true
  | .inSet | .notInSet =>
      ∀ value ∈ validator.value, value.isString = true ∨ value.isDouble = true
  | .unspecified => False

structure WellFormed (validator : Validator) : Prop where
  nonempty : validator.value ≠ []
  sameType : ∀ value ∈ validator.value, ∀ other ∈ validator.value, value.index = other.index
  fitsType : validator.FitsType

end Validator

structure MeasurementSeriesStart.WellFormed (start : MeasurementSeriesStart) : Prop where
  name : start.name ≠ ""
  subcomponent : ∀ subcomponent, start.subcomponent = some subcomponent → subcomponent.name ≠ ""
  validators : ∀ validator ∈ start.validators, validator.WellFormed
  sameType : ∀ validator ∈ start.validators, ∀ value ∈ validator.value,
    ∀ another ∈ start.validators, ∀ other ∈ another.value, value.index = other.index

theorem Outcome.exists_eq_ok (outcome : Outcome Unit) :
    (∃ value, outcome = .ok value) ↔ outcome = .ok () := by
  constructor
  · rintro ⟨⟨⟩, ok⟩
    exact ok
  · exact fun ok => ⟨(), ok⟩

theorem check_ne_undefined (holds : Bool) (condition message : String) :
    check holds condition message ≠ .undefined := by
  cases holds <;> simp [check]

theorem checkSameType_eq_ok (typeIndex : Int) (identifier : String) (values : List Variant) :
    checkSameType typeIndex identifier values = .ok () ↔
      ∀ value ∈ values, value.index = typeIndex := by
  induction values with
  | nil => simp [checkSameType]
  | cons value rest ih =>
      simp only [checkSameType, Outcome.bind_eq_ok, check_eq_ok, beq_iff_eq, ih,
        List.forall_mem_cons]
      constructor
      · rintro ⟨_, same, later⟩
        exact ⟨same, later⟩
      · rintro ⟨same, later⟩
        exact ⟨(), same, later⟩

theorem checkSameType_ne_undefined (typeIndex : Int) (identifier : String)
    (values : List Variant) : checkSameType typeIndex identifier values ≠ .undefined := by
  induction values with
  | nil => simp [checkSameType]
  | cons value rest ih =>
      exact Outcome.bind_ne_undefined _ _ (check_ne_undefined _ _ _) (fun _ => ih)

namespace Validator

theorem checkType_ne_undefined (validator : Validator) (first : Variant) :
    validator.checkType first ≠ .undefined := by
  unfold checkType
  split
  all_goals
    first
    | exact check_ne_undefined _ _ _
    | exact Outcome.bind_ne_undefined _ _ (check_ne_undefined _ _ _)
        (fun _ => check_ne_undefined _ _ _)
    | simp

/-- No element of an empty list is read: the list is checked first. -/
theorem validateStructOrDie_ne_undefined (validator : Validator) :
    validator.validateStructOrDie ≠ .undefined := by
  unfold validateStructOrDie
  cases validator.value with
  | nil => simp [check]
  | cons first rest =>
      simp only [List.isEmpty_cons, Bool.not_false, check_true, Outcome.ok_bind, firstValue]
      exact Outcome.bind_ne_undefined _ _ (checkSameType_ne_undefined _ _ _)
        (fun _ => checkType_ne_undefined _ _)

/-- The switch looks at the first value, which stands for all of them. -/
theorem checkType_eq_ok (validator : Validator) (first : Variant)
    (isFirst : first ∈ validator.value)
    (same : ∀ value ∈ validator.value, value.index = first.index) :
    validator.checkType first = .ok () ↔ validator.FitsType := by
  have strings : first.isString = true ↔ ∀ value ∈ validator.value, value.isString = true :=
    ⟨fun isString value member => Variant.isString_of_index (same value member) isString,
      fun all => all first isFirst⟩
  have doubles : first.isDouble = true ↔ ∀ value ∈ validator.value, value.isDouble = true :=
    ⟨fun isDouble value member => Variant.isDouble_of_index (same value member) isDouble,
      fun all => all first isFirst⟩
  have either : (first.isString = true ∨ first.isDouble = true) ↔
      ∀ value ∈ validator.value, value.isString = true ∨ value.isDouble = true :=
    ⟨fun kind value member => kind.imp (Variant.isString_of_index (same value member))
      (Variant.isDouble_of_index (same value member)), fun all => all first isFirst⟩
  unfold checkType FitsType
  cases validator.type with
  | equal | notEqual => simp only [check_eq_ok, beq_iff_eq]
  | lessThan | lessThanOrEqual | greaterThan | greaterThanOrEqual =>
      simp only [Outcome.bind_eq_ok, check_eq_ok, beq_iff_eq, doubles, exists_const]
  | regexMatch | regexNoMatch => simp only [check_eq_ok, strings]
  | inSet | notInSet => simp only [check_eq_ok, Bool.or_eq_true, either]
  | unspecified => simp only [reduceCtorEq]

theorem validateStructOrDie_eq_ok (validator : Validator) :
    validator.validateStructOrDie = .ok () ↔ validator.WellFormed := by
  unfold validateStructOrDie
  cases values : validator.value with
  | nil =>
      simp only [List.isEmpty_nil, Bool.not_true, check, Bool.false_eq_true, if_false,
        Outcome.die_bind, reduceCtorEq, false_iff]
      exact fun wellFormed => wellFormed.nonempty values
  | cons first rest =>
      have isFirst : first ∈ validator.value := by simp [values]
      simp only [List.isEmpty_cons, Bool.not_false, check_true, Outcome.ok_bind, firstValue,
        Outcome.bind_eq_ok]
      rw [← values]
      constructor
      · rintro ⟨⟨⟩, checked, fits⟩
        have same := (checkSameType_eq_ok _ _ _).mp checked
        refine ⟨by simp [values], fun value member other isOther => ?_,
          (validator.checkType_eq_ok first isFirst same).mp fits⟩
        rw [same value member, same other isOther]
      · intro wellFormed
        have same := fun value member => wellFormed.sameType value member first isFirst
        exact ⟨(), (checkSameType_eq_ok _ _ _).mpr same,
          (validator.checkType_eq_ok first isFirst same).mpr wellFormed.fitsType⟩

end Validator

/-- The values of a validator that has been checked are never read from an empty list. -/
theorem validateValidators_ne_undefined (accepts : Int → Bool) (condition message : String)
    (validators : List Validator) :
    validateValidators accepts condition message validators ≠ .undefined := by
  induction validators with
  | nil => simp [validateValidators]
  | cons validator rest ih =>
      unfold validateValidators
      cases checked : validator.validateStructOrDie with
      | undefined => exact absurd checked validator.validateStructOrDie_ne_undefined
      | die text => simp
      | ok value =>
          have wellFormed := validator.validateStructOrDie_eq_ok.mp checked
          obtain ⟨first, others, values⟩ := List.exists_cons_of_ne_nil wellFormed.nonempty
          simp only [Outcome.ok_bind, values, firstValue]
          exact Outcome.bind_ne_undefined _ _ (check_ne_undefined _ _ _) (fun _ => ih)

theorem validateValidators_eq_ok (accepts : Int → Bool) (condition message : String)
    (validators : List Validator) :
    validateValidators accepts condition message validators = .ok () ↔
      ∀ validator ∈ validators, validator.WellFormed ∧
        ∀ value ∈ validator.value, accepts value.index = true := by
  induction validators with
  | nil => simp [validateValidators]
  | cons validator rest ih =>
      simp only [validateValidators, Outcome.bind_eq_ok, check_eq_ok, ih, List.forall_mem_cons,
        validator.validateStructOrDie_eq_ok]
      constructor
      · rintro ⟨_, wellFormed, first, isFirst, _, accepted, later⟩
        refine ⟨⟨wellFormed, fun value member => ?_⟩, later⟩
        cases values : validator.value with
        | nil => exact absurd values wellFormed.nonempty
        | cons head others =>
            rw [values] at isFirst
            obtain rfl := Outcome.ok.inj isFirst
            rwa [wellFormed.sameType value member head (by simp [values])]
      · rintro ⟨⟨wellFormed, accepted⟩, later⟩
        obtain ⟨first, others, values⟩ := List.exists_cons_of_ne_nil wellFormed.nonempty
        exact ⟨(), wellFormed, first, by rw [values, firstValue], (),
          accepted first (by simp [values]), later⟩

namespace MeasurementSeriesStart

/-- A validation that is safe, returns for the well-formed starts and dies for the others. -/
def ValidatedExactly (start : MeasurementSeriesStart) : Prop :=
  start.validateStructOrDie ≠ .undefined ∧
    (start.validateStructOrDie = .ok () ↔ start.WellFormed) ∧
    (¬ start.WellFormed → ∃ message, start.validateStructOrDie = .die message)

/-- The first validator, when it is reached, has a value. -/
def FirstHasValue (start : MeasurementSeriesStart) : Prop :=
  start.name ≠ "" →
    (∀ subcomponent, start.subcomponent = some subcomponent → subcomponent.name ≠ "") →
    ∀ validator, start.validators.head? = some validator → validator.value ≠ []

theorem validateSubcomponent_eq_ok (subcomponent : Option Subcomponent) :
    validateSubcomponent subcomponent = .ok () ↔
      ∀ present, subcomponent = some present → present.name ≠ "" := by
  cases subcomponent with
  | none => simp [validateSubcomponent]
  | some present => simp [validateSubcomponent, Subcomponent.validateStructOrDie]

theorem validateSubcomponent_ne_undefined (subcomponent : Option Subcomponent) :
    validateSubcomponent subcomponent ≠ .undefined := by
  cases subcomponent with
  | none => simp [validateSubcomponent]
  | some present => exact check_ne_undefined _ _ _

/-- The validators are compared with the first value of the first of them. -/
theorem wellFormed_iff (start : MeasurementSeriesStart) (validator : Validator)
    (rest : List Validator) (first : Variant) (others : List Variant)
    (validators : start.validators = validator :: rest) (values : validator.value = first :: others) :
    start.WellFormed ↔ start.name ≠ "" ∧
      (∀ subcomponent, start.subcomponent = some subcomponent → subcomponent.name ≠ "") ∧
      ∀ another ∈ start.validators, another.WellFormed ∧
        ∀ value ∈ another.value, first.index = value.index := by
  have isFirst : validator ∈ start.validators := by simp [validators]
  have isValue : first ∈ validator.value := by simp [values]
  constructor
  · intro wellFormed
    exact ⟨wellFormed.name, wellFormed.subcomponent, fun another member =>
      ⟨wellFormed.validators another member, fun value inside =>
        wellFormed.sameType validator isFirst first isValue another member value inside⟩⟩
  · rintro ⟨name, subcomponent, all⟩
    refine ⟨name, subcomponent, fun another member => (all another member).1, ?_⟩
    intro one isOne value isValue another isAnother other isOther
    rw [← (all one isOne).2 value isValue, (all another isAnother).2 other isOther]

/-- With an empty list in the first validator the code reads a value that is not there. -/
theorem validateStructOrDie_undefined_iff (start : MeasurementSeriesStart) :
    start.validateStructOrDie = .undefined ↔ ¬ start.FirstHasValue := by
  unfold validateStructOrDie FirstHasValue
  by_cases named : start.name = ""
  · simp [check, named]
  have nameChecked : (!start.name.isEmpty) = true := by simpa using named
  simp only [nameChecked, check_true, Outcome.ok_bind]
  cases checked : validateSubcomponent start.subcomponent with
  | undefined => exact absurd checked (validateSubcomponent_ne_undefined _)
  | die message =>
      have unnamed := mt (validateSubcomponent_eq_ok start.subcomponent).mpr (by simp [checked])
      simp only [Outcome.die_bind, reduceCtorEq, false_iff, not_not]
      exact fun _ subcomponents => absurd subcomponents unnamed
  | ok value =>
      have subcomponents := (validateSubcomponent_eq_ok start.subcomponent).mp checked
      cases start.validators with
      | nil => simp
      | cons validator rest =>
          cases values : validator.value with
          | nil =>
              simp only [Outcome.ok_bind, values, firstValue, Outcome.undefined_bind, true_iff]
              exact fun has => has named subcomponents validator rfl values
          | cons first others =>
              have safe := validateValidators_ne_undefined
                (fun index => first.index == -1 || first.index == index)
                "type_index == -1 || type_index == validator.value[0].index()"
                ("All validators must be the same type for measurement series start: " ++
                  start.name) (validator :: rest)
              simp only [Outcome.ok_bind, values, firstValue, safe, false_iff, not_not]
              intro _ _ other isOther
              obtain rfl := Option.some.inj isOther
              simp [values]

theorem validateStructOrDie_eq_ok (start : MeasurementSeriesStart) :
    start.validateStructOrDie = .ok () ↔ start.WellFormed := by
  cases validators : start.validators with
  | nil =>
      have parts : start.validateStructOrDie = .ok () ↔ start.name ≠ "" ∧
          ∀ subcomponent, start.subcomponent = some subcomponent → subcomponent.name ≠ "" := by
        simp only [validateStructOrDie, validators, Outcome.bind_eq_ok, check_eq_ok,
          Outcome.pure_eq_ok, ← validateSubcomponent_eq_ok]
        simp [Outcome.exists_eq_ok]
      rw [parts]
      constructor
      · rintro ⟨name, subcomponent⟩
        exact ⟨name, subcomponent, by simp [validators], by simp [validators]⟩
      · intro wellFormed
        exact ⟨wellFormed.name, wellFormed.subcomponent⟩
  | cons validator rest =>
      have isFirst : validator ∈ start.validators := by simp [validators]
      cases values : validator.value with
      | nil =>
          refine iff_of_false ?_ (fun wellFormed =>
            (wellFormed.validators validator isFirst).nonempty values)
          simp [validateStructOrDie, validators, Outcome.bind_eq_ok, values, firstValue]
      | cons first others =>
          rw [start.wellFormed_iff validator rest first others validators values]
          have typed (index : Int) : (first.index == -1 || first.index == index) = true ↔
              first.index = index := by
            cases first <;> simp [Variant.index]
          simp only [validateStructOrDie, Outcome.bind_eq_ok, check_eq_ok, validators, values,
            firstValue, Outcome.ok.injEq, exists_eq_left', validateValidators_eq_ok, typed,
            ← validateSubcomponent_eq_ok]
          simp [Outcome.exists_eq_ok]

/-- The validation is exact unless it reads the first validator before checking it. -/
theorem validateStructOrDie_exact (start : MeasurementSeriesStart) :
    start.ValidatedExactly ↔ start.FirstHasValue := by
  constructor
  · rintro ⟨safe, -, -⟩
    exact not_not.mp (mt start.validateStructOrDie_undefined_iff.mpr safe)
  · intro has
    have safe : start.validateStructOrDie ≠ .undefined :=
      mt start.validateStructOrDie_undefined_iff.mp (not_not.mpr has)
    refine ⟨safe, start.validateStructOrDie_eq_ok, fun malformed => ?_⟩
    cases outcome : start.validateStructOrDie with
    | ok value => exact absurd (start.validateStructOrDie_eq_ok.mp outcome) malformed
    | die message => exact ⟨message, rfl⟩
    | undefined => exact absurd outcome safe

/-- A start whose only validator has no values. -/
def emptyValidator : MeasurementSeriesStart where
  name := "temperature"
  validators := [⟨.equal, [], ""⟩]

theorem validateStructOrDie_not_exact :
    emptyValidator.validateStructOrDie = .undefined ∧ ¬ emptyValidator.ValidatedExactly := by
  refine ⟨by decide, fun exact => ?_⟩
  exact exact.1 (by decide)

end MeasurementSeriesStart

end OcpDiag.Results
