import Mathlib.Data.List.Basic
import Mathlib.Data.Rat.Floor

set_option autoImplicit false

/- JSON documents as a C++ library hands them out, and what becomes of a program that reads them. -/
namespace JsonValue

/-- What a program comes to: a result, an error of its own, an exception for a value of another type
than the one asked for, or undefined behaviour. -/
inductive Access (ε α : Type) where
  | value (result : α)
  | error (status : ε)
  | typeError
  | undefined
  deriving DecidableEq, Repr

namespace Access

variable {ε α β : Type}

def bind (first : Access ε α) (next : α → Access ε β) : Access ε β :=
  match first with
  | .value result => next result
  | .error status => .error status
  | .typeError => .typeError
  | .undefined => .undefined

instance : Monad (Access ε) where
  pure := .value
  bind := bind

def ofExcept : Except ε α → Access ε α
  | .ok result => .value result
  | .error status => .error status

/-- The program is there after it, with a result or with an error of its own. -/
inductive Answered : Access ε α → Prop where
  | value (result : α) : Answered (.value result)
  | error (status : ε) : Answered (.error status)

theorem typeError_not_answered : ¬ (typeError : Access ε α).Answered := nofun

theorem undefined_not_answered : ¬ (undefined : Access ε α).Answered := nofun

instance : (access : Access ε α) → Decidable access.Answered
  | .value result => .isTrue (.value result)
  | .error status => .isTrue (.error status)
  | .typeError => .isFalse typeError_not_answered
  | .undefined => .isFalse undefined_not_answered

attribute [simp] Answered.value Answered.error typeError_not_answered undefined_not_answered

@[simp] theorem pure_eq_value (result : α) : (pure result : Access ε α) = value result := rfl

@[simp] theorem value_bind (result : α) (next : α → Access ε β) :
    (value result >>= next) = next result := rfl

@[simp] theorem error_bind (status : ε) (next : α → Access ε β) :
    (error status >>= next) = error status := rfl

@[simp] theorem typeError_bind (next : α → Access ε β) : (typeError >>= next) = typeError := rfl

@[simp] theorem undefined_bind (next : α → Access ε β) : (undefined >>= next) = undefined := rfl

instance : LawfulMonad (Access ε) :=
  .mk' _ (fun access => by cases access <;> rfl) (fun _ _ => rfl)
    (fun first _ _ => by cases first <;> rfl)

end Access

inductive Value where
  | null
  | boolean (value : Bool)
  | unsigned (value : Nat)
  | integer (value : Int)
  | float (value : Rat)
  | string (text : String)
  | array (values : List Value)
  | object (members : List (String × Value))

namespace Value

variable {ε β : Type}

def member (document : Value) (key : String) : Option Value :=
  match document with
  | .object members => members.lookup key
  | _ => none

def contains (document : Value) (key : String) : Bool := (document.member key).isSome

/-- The const operator[] does not look whether the member is there. -/
def constIndex (document : Value) (key : String) : Access ε Value :=
  match document with
  | .object members =>
      match members.lookup key with
      | some value => .value value
      | none => .undefined
  | _ => .typeError

/-- The other operator[] makes an object of null and adds a missing member as null. The document it
changes is left out: nothing may read it afterwards. -/
def index (document : Value) (key : String) : Access ε Value :=
  match document with
  | .null => .value .null
  | .object members => .value ((members.lookup key).getD .null)
  | _ => .typeError

/-- What a loop over the document goes through; a scalar is the only element of itself. -/
def elements : Value → List Value
  | .null => []
  | .array values => values
  | .object members => members.map Prod.snd
  | scalar => [scalar]

/-- The elements with their keys, which are the positions in an array and empty for a scalar. -/
def items : Value → List (String × Value)
  | .null => []
  | .array values => values.zipIdx.map (fun item => (toString item.2, item.1))
  | .object members => members
  | scalar => [("", scalar)]

def toText : Value → Access ε String
  | .string text => .value text
  | _ => .typeError

def toBool : Value → Access ε Bool
  | .boolean value => .value value
  | _ => .typeError

/-- A cast cuts off the fraction. -/
def whole (value : Rat) : Int := if 0 ≤ value then value.floor else value.ceil

/-- A cast to a type that cannot hold the whole number is undefined. -/
def fits (low high : Int) (value : Rat) : Bool := low ≤ whole value && whole value < high

/-- `get<int>`, which takes a boolean for a number. -/
def toInt32 : Value → Access ε Int
  | .boolean value => .value (if value then 1 else 0)
  | .unsigned value => .value (Int.bmod value (2 ^ 32))
  | .integer value => .value (Int.bmod value (2 ^ 32))
  | .float value => if fits (-2 ^ 31) (2 ^ 31) value then .value (whole value) else .undefined
  | _ => .typeError

/-- `get<uint64_t>`, which does not. -/
def toUint64 : Value → Access ε Nat
  | .unsigned value => .value (value % 2 ^ 64)
  | .integer value => .value (value % 2 ^ 64).toNat
  | .float value => if fits 0 (2 ^ 64) value then .value (whole value).toNat else .undefined
  | _ => .typeError

def isNullOrObject : Value → Bool
  | .null => true
  | .object _ => true
  | _ => false

def isText : Value → Bool
  | .string _ => true
  | _ => false

def isBoolean : Value → Bool
  | .boolean _ => true
  | _ => false

def isInt32 : Value → Bool
  | .boolean _ => true
  | .unsigned _ => true
  | .integer _ => true
  | .float value => fits (-2 ^ 31) (2 ^ 31) value
  | _ => false

def isUint64 : Value → Bool
  | .unsigned _ => true
  | .integer _ => true
  | .float value => fits 0 (2 ^ 64) value
  | _ => false

/-- The document has the member, and it passes the test. -/
def has (document : Value) (key : String) (test : Value → Bool) : Bool :=
  (document.member key).any test

theorem has_iff (document : Value) (key : String) (test : Value → Bool) :
    document.has key test = true ↔
      ∃ value, document.member key = some value ∧ test value = true := by
  rw [has, Option.any_eq_true]

theorem has_eq {document value : Value} {key : String} (found : document.member key = some value)
    (test : Value → Bool) : document.has key test = test value := by
  rw [has, found, Option.any_some]

theorem isNullOrObject_of_member {document value : Value} {key : String}
    (found : document.member key = some value) : document.isNullOrObject = true := by
  cases document with
  | object members => rfl
  | _ => cases found

theorem index_answered_iff (document : Value) (key : String) (next : Value → Access ε β) :
    (document.index key >>= next).Answered ↔
      document.isNullOrObject = true ∧ (next ((document.member key).getD .null)).Answered := by
  cases document <;> simp [index, member, isNullOrObject]

theorem toText_answered_iff (document : Value) (next : String → Access ε β) :
    (document.toText >>= next).Answered ↔
      ∃ text, document = .string text ∧ (next text).Answered := by
  cases document <;> simp [toText]

theorem constIndex_answered_iff (document : Value) (key : String) (next : Value → Access ε β) :
    (document.constIndex key >>= next).Answered ↔
      ∃ value, document.member key = some value ∧ (next value).Answered := by
  cases document with
  | object members => cases found : members.lookup key <;> simp [constIndex, member, found]
  | _ => simp [constIndex, member]

-- A program that goes on in the same way with everything that passes a test.
section Uniform

variable {α : Type} {document : Value} {key : String} {test : Value → Bool} {rest : Prop}

theorem constIndex_has_iff {next : Value → Access ε β}
    (same : ∀ value, (next value).Answered ↔ test value = true ∧ rest) :
    (document.constIndex key >>= next).Answered ↔ document.has key test = true ∧ rest := by
  simp only [constIndex_answered_iff, same, has_iff, ← and_assoc, exists_and_right]

theorem constIndex_contains_iff {next : Value → Access ε β}
    (same : ∀ value, (next value).Answered ↔ rest) :
    (document.constIndex key >>= next).Answered ↔ document.contains key = true ∧ rest := by
  simp only [constIndex_answered_iff, same, contains, Option.isSome_iff_exists, exists_and_right]

/-- The null that the access adds does not pass the test. -/
theorem index_has_of_answered {next : Value → Access ε β}
    (answered : (document.index key >>= next).Answered) (null : test .null = false)
    (passes : ∀ value, (next value).Answered → test value = true) :
    document.has key test = true := by
  have passed := passes _ ((index_answered_iff document key next).mp answered).2
  cases found : document.member key with
  | none =>
      rw [found, Option.getD_none, null] at passed
      cases passed
  | some value =>
      rw [found, Option.getD_some] at passed
      exact (has_iff document key test).mpr ⟨value, found, passed⟩

theorem index_has_iff {next : Value → Access ε β} (null : test .null = false)
    (same : ∀ value, (next value).Answered ↔ test value = true ∧ rest) :
    (document.index key >>= next).Answered ↔ document.has key test = true ∧ rest := by
  constructor
  · intro answered
    refine ⟨index_has_of_answered answered null fun value passed => ((same value).mp passed).1, ?_⟩
    exact ((same _).mp ((index_answered_iff document key next).mp answered).2).2
  · rintro ⟨passes, following⟩
    obtain ⟨value, found, passed⟩ := (has_iff document key test).mp passes
    refine (index_answered_iff document key next).mpr ⟨isNullOrObject_of_member found, ?_⟩
    rw [found, Option.getD_some]
    exact (same value).mpr ⟨passed, following⟩

theorem toText_iff {next : String → Access ε β} (same : ∀ text, (next text).Answered ↔ rest) :
    (document.toText >>= next).Answered ↔ document.isText = true ∧ rest := by
  cases document <;> simp [toText, isText, same]

theorem toBool_iff {next : Bool → Access ε β} (same : ∀ value, (next value).Answered ↔ rest) :
    (document.toBool >>= next).Answered ↔ document.isBoolean = true ∧ rest := by
  cases document <;> simp [toBool, isBoolean, same]

theorem cast_iff {within : Bool} {result : α} {next : α → Access ε β}
    (same : ∀ number, (next number).Answered ↔ rest) :
    ((if within then .value result else .undefined) >>= next).Answered ↔
      within = true ∧ rest := by
  cases within <;> simp [same]

theorem toInt32_iff {next : Int → Access ε β} (same : ∀ number, (next number).Answered ↔ rest) :
    (document.toInt32 >>= next).Answered ↔ document.isInt32 = true ∧ rest := by
  cases document with
  | float value => exact cast_iff same
  | _ => simp [toInt32, isInt32, same]

theorem toUint64_iff {next : Nat → Access ε β} (same : ∀ number, (next number).Answered ↔ rest) :
    (document.toUint64 >>= next).Answered ↔ document.isUint64 = true ∧ rest := by
  cases document with
  | float value => exact cast_iff same
  | _ => simp [toUint64, isUint64, same]

end Uniform

-- What an access gives for a member that passes its test.
section Present

variable {document value : Value} {key : String} {test : Value → Bool}

theorem constIndex_of_member (found : document.member key = some value) (ε : Type) :
    (document.constIndex key : Access ε Value) = .value value := by
  cases document with
  | object members =>
      have looked : members.lookup key = some value := found
      simp only [constIndex, looked]
  | _ => cases found

theorem exists_boolean (passes : document.isBoolean = true) :
    ∃ value, document = .boolean value := by
  cases document with
  | boolean value => exact ⟨value, rfl⟩
  | _ => cases passes

theorem exists_toInt32 (passes : document.isInt32 = true) (ε : Type) :
    ∃ number, (document.toInt32 : Access ε Int) = .value number := by
  cases document with
  | boolean value => exact ⟨_, rfl⟩
  | unsigned value => exact ⟨_, rfl⟩
  | integer value => exact ⟨_, rfl⟩
  | float value => exact ⟨_, if_pos passes⟩
  | _ => cases passes

theorem exists_toUint64 (passes : document.isUint64 = true) (ε : Type) :
    ∃ number, (document.toUint64 : Access ε Nat) = .value number := by
  cases document with
  | unsigned value => exact ⟨_, rfl⟩
  | integer value => exact ⟨_, rfl⟩
  | float value => exact ⟨_, if_pos passes⟩
  | _ => cases passes

end Present

end Value

end JsonValue
