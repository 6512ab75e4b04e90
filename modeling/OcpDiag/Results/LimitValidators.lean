import OcpDiag.Lib.Binary64
import OcpDiag.Results.StructValidity

set_option autoImplicit false

/- The helpers that make validators of an interval. -/
namespace OcpDiag.Results

namespace Double

def le (first second : Double) : Bool := Binary64.le first.bits second.bits

def lt (first second : Double) : Bool := Binary64.lt first.bits second.bits

def eq (first second : Double) : Bool := Binary64.eq first.bits second.bits

end Double

def limitName (name suffix : String) : String := if name.isEmpty then "" else name ++ suffix

/-- What the two helpers have in common. -/
def limitValidators (accepted : Bool) (condition : String) (lowerType upperType : ValidatorType)
    (lowerLimit upperLimit : Double) (name : String) : Outcome (List Validator) := do
  check accepted condition
    "Tried to create a validator limit set with a lower limit that exceeds the upper limit"
  return [{ type := lowerType, value := [.double lowerLimit], name := limitName name " Lower" },
    { type := upperType, value := [.double upperLimit], name := limitName name " Upper" }]

def validateWithinInclusiveLimits (lowerLimit upperLimit : Double) (name : String) :
    Outcome (List Validator) :=
  limitValidators (lowerLimit.le upperLimit) "lower_limit <= upper_limit" .greaterThanOrEqual
    .lessThanOrEqual lowerLimit upperLimit name

/-- The lower limit is allowed here too. -/
def validateWithinExclusiveLimits (lowerLimit upperLimit : Double) (name : String) :
    Outcome (List Validator) :=
  limitValidators (lowerLimit.lt upperLimit) "lower_limit < upper_limit" .greaterThanOrEqual
    .lessThan lowerLimit upperLimit name

/-- The comparison that a numerical type names. -/
def ValidatorType.comparison : ValidatorType → Option (Double → Double → Bool)
  | .equal => some Double.eq
  | .notEqual => some (fun number limit => !number.eq limit)
  | .lessThan => some Double.lt
  | .lessThanOrEqual => some Double.le
  | .greaterThan => some (fun number limit => limit.lt number)
  | .greaterThanOrEqual => some (fun number limit => limit.le number)
  | _ => none

def Validator.Satisfied (validator : Validator) (number : Double) : Prop :=
  ∃ comparison limit, validator.type.comparison = some comparison ∧
    validator.value = [.double limit] ∧ comparison number limit = true

theorem Validator.satisfied_iff (type : ValidatorType) (name : String) (number limit : Double)
    (comparison : Double → Double → Bool) (named : type.comparison = some comparison) :
    Validator.Satisfied { type, value := [.double limit], name } number ↔
      comparison number limit = true := by
  constructor
  · rintro ⟨other, _, same, ⟨⟩, satisfied⟩
    obtain rfl := Option.some.inj (named.symm.trans same)
    exact satisfied
  · exact fun satisfied => ⟨comparison, limit, named, rfl, satisfied⟩

/-- The validators are satisfied inside the interval, and a measurement of the number with them is
as valid as its subcomponent. -/
structure Describe (validators : List Validator) (number : Double) (inside : Prop) : Prop where
  satisfied : (∀ validator ∈ validators, validator.Satisfied number) ↔ inside
  measured : ∀ measurement : Measurement, measurement.name ≠ "" →
    measurement.value = .double number → measurement.validators = validators →
    measurement.validateStructOrDie = validateSubcomponent measurement.subcomponent

/-- What the documentation of the helpers promises for a number. -/
structure DescribesLimits (lower upper number : Double) (name : String) : Prop where
  inclusive : lower.le upper = true →
    ∃ validators, validateWithinInclusiveLimits lower upper name = .ok validators ∧
      validators.length = 2 ∧
      Describe validators number (lower.le number = true ∧ number.le upper = true)
  exclusive : lower.lt upper = true →
    ∃ validators, validateWithinExclusiveLimits lower upper name = .ok validators ∧
      validators.length = 2 ∧
      Describe validators number (lower.lt number = true ∧ number.lt upper = true)

theorem validateStructOrDie_numerical (type : ValidatorType) (name : String) (limit : Double)
    (numerical : type.comparison ≠ none) :
    Validator.validateStructOrDie { type, value := [.double limit], name } = .ok () := by
  unfold Validator.validateStructOrDie Validator.checkType
  cases type <;> first | rfl | exact absurd rfl numerical

/-- The helpers return, where their check accepts the limits, validators of numbers. -/
theorem limitValidators_describe (lowerType upperType : ValidatorType) (condition name : String)
    (lower upper number : Double) (above below : Double → Double → Bool) (inside : Prop)
    (namesAbove : lowerType.comparison = some above)
    (namesBelow : upperType.comparison = some below)
    (same : above number lower = true ∧ below number upper = true ↔ inside) :
    ∃ validators, limitValidators true condition lowerType upperType lower upper name =
        .ok validators ∧ validators.length = 2 ∧ Describe validators number inside := by
  refine ⟨_, rfl, rfl, ?_, ?_⟩
  · simp only [List.forall_mem_cons, List.not_mem_nil, false_imp_iff, implies_true, and_true,
      Validator.satisfied_iff lowerType _ number lower above namesAbove,
      Validator.satisfied_iff upperType _ number upper below namesBelow]
    exact same
  · intro measurement named valued validated
    have lowerValid := validateStructOrDie_numerical lowerType (limitName name " Lower") lower
      (by simp [namesAbove])
    have upperValid := validateStructOrDie_numerical upperType (limitName name " Upper") upper
      (by simp [namesBelow])
    have nonempty : measurement.name.isEmpty = false := by simpa using named
    unfold Measurement.validateStructOrDie
    rw [validated, valued]
    simp only [nonempty, Bool.not_false, check_true, Outcome.ok_bind, validateValidators,
      lowerValid, upperValid, firstValue, Variant.index, BEq.rfl]
    cases validateSubcomponent measurement.subcomponent <;> rfl

section Limits

variable (lower upper number : Double) (name : String)

theorem inclusive_describe (accepted : lower.le upper = true) :
    ∃ validators, validateWithinInclusiveLimits lower upper name = .ok validators ∧
      validators.length = 2 ∧
      Describe validators number (lower.le number = true ∧ number.le upper = true) := by
  unfold validateWithinInclusiveLimits
  rw [accepted]
  exact limitValidators_describe _ _ _ _ _ _ _ _ _ _ rfl rfl Iff.rfl

/-- The validators of the exclusive limits are satisfied on the lower limit too. -/
theorem exclusive_describe (accepted : lower.lt upper = true) :
    ∃ validators, validateWithinExclusiveLimits lower upper name = .ok validators ∧
      validators.length = 2 ∧
      Describe validators number (lower.le number = true ∧ number.lt upper = true) := by
  unfold validateWithinExclusiveLimits
  rw [accepted]
  exact limitValidators_describe _ _ _ _ _ _ _ _ _ _ rfl rfl Iff.rfl

/-- The lower limit makes the difference, where it is below the upper one. -/
theorem excludes_iff (accepted : lower.lt upper = true) :
    ((lower.le number = true ∧ number.lt upper = true) ↔
        (lower.lt number = true ∧ number.lt upper = true)) ↔ ¬ lower.eq number = true := by
  unfold Double.lt Double.le Double.eq at *
  rw [Binary64.le_iff_lt_or_same]
  constructor
  · intro same onLimit
    have below := Binary64.lt_of_eq_of_lt onLimit accepted
    have above := (same.mp ⟨.inr onLimit, below⟩).1
    rw [Binary64.not_lt_of_eq onLimit] at above
    cases above
  · intro off
    exact and_congr_left fun _ => or_iff_left off

/-- The validators describe the limits exactly for a number that is not the lower limit of an
interval that the exclusive helper accepts. -/
theorem describesLimits_iff :
    DescribesLimits lower upper number name ↔
      (lower.lt upper = true → ¬ lower.eq number = true) := by
  constructor
  · intro describes accepted
    rw [← excludes_iff lower upper number accepted]
    obtain ⟨validators, returned, -, described⟩ := describes.exclusive accepted
    obtain ⟨others, same, -, actual⟩ := exclusive_describe lower upper number name accepted
    obtain rfl : validators = others := Outcome.ok.inj (returned.symm.trans same)
    exact actual.satisfied.symm.trans described.satisfied
  · intro off
    refine ⟨inclusive_describe lower upper number name, fun accepted => ?_⟩
    obtain ⟨validators, returned, both, actual⟩ :=
      exclusive_describe lower upper number name accepted
    have excludes := (excludes_iff lower upper number accepted).mpr (off accepted)
    exact ⟨validators, returned, both, actual.satisfied.trans excludes, actual.measured⟩

end Limits

/-- Zero satisfies the validators of the exclusive limits zero and one. -/
theorem describesLimits_not_lower :
    ¬ ∀ lower upper number name, DescribesLimits lower upper number name := by
  intro describes
  let zero : Double := ⟨0⟩
  let one : Double := ⟨0x3FF0000000000000⟩
  have nothing : Binary64.number zero.bits = 0 := by decide
  have positive : 0 < Binary64.number one.bits := Binary64.number_pos (by decide) (by decide)
  have accepted : zero.lt one = true :=
    Binary64.lt_iff.mpr ⟨by decide, by decide, by rwa [nothing]⟩
  have onLimit : zero.le zero = true := by decide
  obtain ⟨validators, returned, -, described⟩ := (describes zero one zero "").exclusive accepted
  obtain ⟨others, same, -, actual⟩ := exclusive_describe zero one zero "" accepted
  obtain rfl : validators = others := Outcome.ok.inj (returned.symm.trans same)
  have inside := described.satisfied.mp (actual.satisfied.mpr ⟨onLimit, accepted⟩)
  exact absurd inside.1 (by decide)

end OcpDiag.Results
