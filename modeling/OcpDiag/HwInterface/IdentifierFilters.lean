import Mathlib.Data.List.Infix
import OcpDiag.Lib.Traversal
import OcpDiag.HwInterface.HwInfo

set_option autoImplicit false

/- Filters of identifiers by regular expressions for their fields. -/
namespace OcpDiag.HwInterface

/-- RE2: what is wrong with an expression, if anything is, and PartialMatch of a text. -/
structure Re2 where
  error : String → Option String
  partialMatch : String → String → Bool

inductive FilterOperator where
  | notSet
  | or
  | and
  | unrecognized (number : Int)
  deriving DecidableEq, Repr

structure Filter where
  idRegex : Option Identifier := none
  op : FilterOperator := .notSet
  deriving DecidableEq, Repr

def kIdFields : List (Identifier → String) :=
  [Identifier.devpath, Identifier.odataId, Identifier.name, Identifier.arena, Identifier.type,
    Identifier.id]

/-- A regex is absent for a field that is not filtered, else it is the pattern it was made of. -/
structure IdentifierMatcher where
  op : FilterOperator
  regexes : List (Option String)
  deriving DecidableEq, Repr

namespace IdentifierMatcher

def badRegex (expression error : String) : Status :=
  ⟨.invalidArgument, "Couldn't create regex \"" ++ expression ++ "\": " ++ error⟩

def createRegex (re2 : Re2) (expression : String) : StatusOr (Option String) :=
  if expression.isEmpty then .ok none
  else
    match re2.error expression with
    | none => .ok (some expression)
    | some error => .error (badRegex expression error)

def create (re2 : Re2) (filter : Filter) : StatusOr IdentifierMatcher :=
  match filter.idRegex with
  | none => .ok { op := filter.op, regexes := kIdFields.map fun _ => none }
  | some regex => do
      let regexes ← kIdFields.mapM fun field => createRegex re2 (field regex)
      return { op := filter.op, regexes }

def empty (matcher : IdentifierMatcher) : Bool := matcher.regexes.all Option.isNone

def andAll (re2 : Re2) (matcher : IdentifierMatcher) (id : Identifier) : Bool :=
  (kIdFields.zip matcher.regexes).all fun (field, regex) =>
    regex.all fun pattern => re2.partialMatch (field id) pattern

def orAll (re2 : Re2) (matcher : IdentifierMatcher) (id : Identifier) : Bool :=
  (kIdFields.zip matcher.regexes).any fun (field, regex) =>
    regex.any fun pattern => re2.partialMatch (field id) pattern

/-- OR is the default operator. -/
def isMatch (re2 : Re2) (matcher : IdentifierMatcher) (id : Identifier) : Bool :=
  if matcher.empty then true
  else if matcher.op = .and then matcher.andAll re2 id
  else matcher.orAll re2 id

end IdentifierMatcher

structure IdentifierMatchersUnion where
  matchers : List IdentifierMatcher
  deriving DecidableEq, Repr

namespace IdentifierMatchersUnion

def create (re2 : Re2) (filters : List Filter) : StatusOr IdentifierMatchersUnion := do
  let matchers ← filters.mapM (IdentifierMatcher.create re2)
  return { matchers }

def isMatch (re2 : Re2) (union : IdentifierMatchersUnion) (id : Identifier) : Bool :=
  if union.matchers.isEmpty then true
  else union.matchers.any fun matcher => matcher.isMatch re2 id

end IdentifierMatchersUnion

/-- The expression of the filter for a field, where it has one. -/
def Filter.expression? (filter : Filter) (field : Identifier → String) : Option String :=
  filter.idRegex.bind fun regex => if (field regex).isEmpty then none else some (field regex)

def Filter.Compiles (re2 : Re2) (filter : Filter) : Prop :=
  ∀ field ∈ kIdFields, ∀ expression, filter.expression? field = some expression →
    re2.error expression = none

/-- The first expression of the filter that does not compile, with the error. -/
def Filter.Fails (re2 : Re2) (filter : Filter) (expression error : String) : Prop :=
  ∃ earlier field later, kIdFields = earlier ++ field :: later ∧
    (∀ other ∈ earlier, ∀ before, filter.expression? other = some before →
      re2.error before = none) ∧
    filter.expression? field = some expression ∧ re2.error expression = some error

/-- The text of the field has a match of the filter's expression. -/
def Filter.Finds (re2 : Re2) (filter : Filter) (id : Identifier) (field : Identifier → String) :
    Prop :=
  ∃ expression, filter.expression? field = some expression ∧
    re2.partialMatch (field id) expression = true

/-- All expressions find a match, or one does; a filter without expressions selects everything. -/
def Filter.Selects (re2 : Re2) (filter : Filter) (id : Identifier) : Prop :=
  if filter.op = .and then
    ∀ field ∈ kIdFields, (filter.expression? field).isSome = true → filter.Finds re2 id field
  else
    (∃ field ∈ kIdFields, (filter.expression? field).isSome = true) →
      ∃ field ∈ kIdFields, filter.Finds re2 id field

def Filter.matcher (filter : Filter) : IdentifierMatcher where
  op := filter.op
  regexes := kIdFields.map filter.expression?

section Create

theorem createRegex_cases (re2 : Re2) {filter : Filter} {regex : Identifier}
    (has : filter.idRegex = some regex) (field : Identifier → String) :
    (filter.expression? field = none ∧
      IdentifierMatcher.createRegex re2 (field regex) = .ok none) ∨
    (∃ expression, filter.expression? field = some expression ∧ re2.error expression = none ∧
      IdentifierMatcher.createRegex re2 (field regex) = .ok (some expression)) ∨
    (∃ expression error, filter.expression? field = some expression ∧
      re2.error expression = some error ∧ IdentifierMatcher.createRegex re2 (field regex) =
        .error (IdentifierMatcher.badRegex expression error)) := by
  unfold IdentifierMatcher.createRegex Filter.expression?
  rw [has, Option.bind_some]
  by_cases unset : (field regex).isEmpty = true
  · rw [if_pos unset, if_pos unset]
    exact Or.inl ⟨rfl, rfl⟩
  · rw [if_neg unset, if_neg unset]
    cases failed : re2.error (field regex) with
    | none => exact Or.inr (Or.inl ⟨_, rfl, failed, rfl⟩)
    | some error => exact Or.inr (Or.inr ⟨_, error, rfl, failed, rfl⟩)

variable {re2 : Re2}

theorem createRegex_ok_iff {filter : Filter} {regex : Identifier}
    (has : filter.idRegex = some regex) (field : Identifier → String) (result : Option String) :
    IdentifierMatcher.createRegex re2 (field regex) = .ok result ↔
      (∀ expression, filter.expression? field = some expression → re2.error expression = none) ∧
        filter.expression? field = result := by
  rcases createRegex_cases re2 has field with
    ⟨asked, made⟩ | ⟨expression, asked, compiles, made⟩ | ⟨expression, error, asked, failed, made⟩
  · simp [asked, made]
  · simp [asked, made, compiles]
  · simp [asked, made, failed]

theorem createRegex_error_iff {filter : Filter} {regex : Identifier}
    (has : filter.idRegex = some regex) (field : Identifier → String) (status : Status) :
    IdentifierMatcher.createRegex re2 (field regex) = .error status ↔
      ∃ expression error, filter.expression? field = some expression ∧
        re2.error expression = some error ∧
        IdentifierMatcher.badRegex expression error = status := by
  rcases createRegex_cases re2 has field with
    ⟨asked, made⟩ | ⟨expression, asked, compiles, made⟩ | ⟨expression, error, asked, failed, made⟩
  · simp [asked, made]
  · simp [asked, made, compiles]
  · simp [asked, made, failed]

theorem expression?_unset {filter : Filter} (unset : filter.idRegex = none) :
    filter.expression? = fun _ => none := by
  funext field
  rw [Filter.expression?, unset]
  rfl

theorem matcher_create_some {filter : Filter} {regex : Identifier}
    (has : filter.idRegex = some regex) :
    IdentifierMatcher.create re2 filter =
      (kIdFields.mapM fun field => IdentifierMatcher.createRegex re2 (field regex)).map
        fun regexes => { op := filter.op, regexes } := by
  unfold IdentifierMatcher.create
  rw [has]
  dsimp only
  cases kIdFields.mapM fun field => IdentifierMatcher.createRegex re2 (field regex) <;> rfl

theorem matcher_create_ok_iff (filter : Filter) (matcher : IdentifierMatcher) :
    IdentifierMatcher.create re2 filter = .ok matcher ↔
      filter.Compiles re2 ∧ filter.matcher = matcher := by
  cases has : filter.idRegex with
  | none =>
      unfold IdentifierMatcher.create Filter.Compiles Filter.matcher
      simp [has, expression?_unset has]
  | some regex =>
      have fields : ∀ regexes, List.Forall₂ (fun field result =>
          IdentifierMatcher.createRegex re2 (field regex) = .ok result) kIdFields regexes ↔
            filter.Compiles re2 ∧ kIdFields.map filter.expression? = regexes := by
        intro regexes
        simp only [createRegex_ok_iff has]
        rw [List.forall₂_and_left, ← List.forall₂_map_left_iff, List.forall₂_eq_eq_eq]
        rfl
      rw [matcher_create_some has, Traversal.map_mapM_ok_iff]
      simp only [fields]
      constructor
      · rintro ⟨regexes, ⟨compiles, rfl⟩, rfl⟩
        exact ⟨compiles, rfl⟩
      · rintro ⟨compiles, rfl⟩
        exact ⟨_, ⟨compiles, rfl⟩, rfl⟩

theorem matcher_create_error_iff (filter : Filter) (status : Status) :
    IdentifierMatcher.create re2 filter = .error status ↔
      ∃ expression error, filter.Fails re2 expression error ∧
        IdentifierMatcher.badRegex expression error = status := by
  cases has : filter.idRegex with
  | none =>
      unfold IdentifierMatcher.create Filter.Fails
      simp [has, expression?_unset has]
  | some regex =>
      rw [matcher_create_some has, Traversal.map_mapM_error_iff]
      simp only [createRegex_ok_iff has, createRegex_error_iff has]
      constructor
      · rintro ⟨earlier, field, later, split, ok, expression, error, asked, failed, same⟩
        refine ⟨expression, error, ⟨earlier, field, later, split, fun other before => ?_, asked,
          failed⟩, same⟩
        obtain ⟨result, compiles, -⟩ := ok other before
        exact compiles
      · rintro ⟨expression, error, ⟨earlier, field, later, split, ok, asked, failed⟩, same⟩
        exact ⟨earlier, field, later, split, fun other before => ⟨_, ok other before, rfl⟩,
          expression, error, asked, failed, same⟩

theorem matcher_empty_iff (filter : Filter) :
    filter.matcher.empty = true ↔
      ¬∃ field ∈ kIdFields, (filter.expression? field).isSome = true := by
  simp [IdentifierMatcher.empty, Filter.matcher]

theorem zip_regexes (filter : Filter) :
    kIdFields.zip filter.matcher.regexes =
      kIdFields.map fun field => (field, filter.expression? field) := by
  have both := List.zip_map' (f := id) (g := filter.expression?) (l := kIdFields)
  rwa [List.map_id] at both

theorem matcher_andAll_iff (filter : Filter) (id : Identifier) :
    filter.matcher.andAll re2 id = true ↔
      ∀ field ∈ kIdFields, (filter.expression? field).isSome = true →
        filter.Finds re2 id field := by
  unfold IdentifierMatcher.andAll
  rw [zip_regexes, List.all_map, List.all_eq_true]
  refine forall₂_congr fun field _ => ?_
  unfold Filter.Finds
  cases asked : filter.expression? field <;> simp [asked]

theorem matcher_orAll_iff (filter : Filter) (id : Identifier) :
    filter.matcher.orAll re2 id = true ↔ ∃ field ∈ kIdFields, filter.Finds re2 id field := by
  unfold IdentifierMatcher.orAll
  rw [zip_regexes, List.any_map, List.any_eq_true]
  refine exists_congr fun field => and_congr Iff.rfl ?_
  unfold Filter.Finds
  cases asked : filter.expression? field <;> simp [asked]

theorem matcher_isMatch_iff (filter : Filter) (id : Identifier) :
    filter.matcher.isMatch re2 id = true ↔ filter.Selects re2 id := by
  unfold IdentifierMatcher.isMatch Filter.Selects
  have operator : filter.matcher.op = filter.op := rfl
  rw [operator]
  by_cases unset : filter.matcher.empty = true
  · have nothing := (matcher_empty_iff filter).mp unset
    rw [if_pos unset]
    split
    · exact iff_of_true rfl fun field member set => absurd ⟨field, member, set⟩ nothing
    · exact iff_of_true rfl fun nonempty => absurd nonempty nothing
  · have nonempty := not_not.mp (mt (matcher_empty_iff filter).mpr unset)
    rw [if_neg unset]
    split
    · exact matcher_andAll_iff filter id
    · rw [matcher_orAll_iff]
      exact ⟨fun finds _ => finds, fun finds => finds nonempty⟩

theorem union_create_eq (filters : List Filter) :
    IdentifierMatchersUnion.create re2 filters =
      (filters.mapM (IdentifierMatcher.create re2)).map fun matchers => { matchers } := by
  unfold IdentifierMatchersUnion.create
  cases filters.mapM (IdentifierMatcher.create re2) <;> rfl

theorem union_create_ok_iff (filters : List Filter) (union : IdentifierMatchersUnion) :
    IdentifierMatchersUnion.create re2 filters = .ok union ↔
      (∀ filter ∈ filters, filter.Compiles re2) ∧ filters.map Filter.matcher = union.matchers := by
  rw [union_create_eq, Traversal.map_mapM_ok_iff]
  simp only [matcher_create_ok_iff]
  constructor
  · rintro ⟨matchers, related, rfl⟩
    rw [List.forall₂_and_left, ← List.forall₂_map_left_iff, List.forall₂_eq_eq_eq] at related
    exact related
  · rintro ⟨compile, same⟩
    refine ⟨union.matchers, ?_, rfl⟩
    rw [List.forall₂_and_left, ← List.forall₂_map_left_iff, List.forall₂_eq_eq_eq]
    exact ⟨compile, same⟩

theorem union_isMatch_iff {filters : List Filter} {union : IdentifierMatchersUnion}
    (same : filters.map Filter.matcher = union.matchers) (id : Identifier) :
    union.isMatch re2 id = true ↔
      filters = [] ∨ ∃ filter ∈ filters, filter.Selects re2 id := by
  unfold IdentifierMatchersUnion.isMatch
  rw [← same]
  cases filters with
  | nil => exact iff_of_true rfl (Or.inl rfl)
  | cons first rest =>
      rw [if_neg (by simp), List.any_map, List.any_eq_true]
      simp only [Function.comp_apply, matcher_isMatch_iff, reduceCtorEq, false_or]

end Create

/-- A union is made unless an expression does not compile, and the first such one is reported; it
matches what one of its filters selects, or everything if there are none. -/
theorem identifierMatchersUnion_exact (re2 : Re2) (filters : List Filter) :
    ((∀ filter ∈ filters, filter.Compiles re2) →
      ∃ union, IdentifierMatchersUnion.create re2 filters = .ok union ∧
        ∀ id, union.isMatch re2 id = true ↔
          filters = [] ∨ ∃ filter ∈ filters, filter.Selects re2 id) ∧
    ∀ status, IdentifierMatchersUnion.create re2 filters = .error status ↔
      ∃ earlier filter later, filters = earlier ++ filter :: later ∧
        (∀ other ∈ earlier, other.Compiles re2) ∧
        ∃ expression error, filter.Fails re2 expression error ∧
          IdentifierMatcher.badRegex expression error = status := by
  refine ⟨fun compile => ?_, fun status => ?_⟩
  · let union : IdentifierMatchersUnion := { matchers := filters.map Filter.matcher }
    exact ⟨union, (union_create_ok_iff filters union).mpr ⟨compile, rfl⟩, union_isMatch_iff rfl⟩
  · rw [union_create_eq, Traversal.map_mapM_error_iff]
    simp only [matcher_create_ok_iff, matcher_create_error_iff, exists_and_left, exists_eq',
      and_true]

/-- What RE2 makes of names, which it finds anywhere in a text, and of a repetition of nothing. -/
def namesRe2 : Re2 where
  error expression :=
    if expression = "*" then some "no argument for repetition operator: *" else none
  partialMatch text pattern := decide (pattern.toList <:+: text.toList)

def nameFilter (name : String) : Filter := { idRegex := some { name } }

theorem nameFilter_selects (name text : String) (nonempty : name ≠ "") :
    (nameFilter name).Selects namesRe2 { name := text } ↔ name.toList <:+: text.toList := by
  simp [Filter.Selects, Filter.Finds, Filter.expression?, nameFilter, namesRe2, kIdFields, nonempty]

theorem identifierMatchersUnion_exact_names :
    ∃ union, IdentifierMatchersUnion.create namesRe2 [nameFilter "name1", nameFilter "name2"] =
        .ok union ∧
      union.isMatch namesRe2 { name := "my_name23" } = true ∧
      union.isMatch namesRe2 { name := "my_name3" } = false := by
  obtain ⟨union, created, selects⟩ := (identifierMatchersUnion_exact namesRe2
    [nameFilter "name1", nameFilter "name2"]).1 (by
      simp [Filter.Compiles, kIdFields, Filter.expression?, nameFilter, namesRe2])
  refine ⟨union, created, (selects _).mpr (Or.inr ⟨nameFilter "name2", by simp, ?_⟩), ?_⟩
  · rw [nameFilter_selects _ _ (by decide)]
    exact ⟨['m', 'y', '_'], ['3'], by simp⟩
  · rw [Bool.eq_false_iff, ne_eq, selects]
    simp only [List.mem_cons, List.not_mem_nil, or_false, exists_eq_or_imp, exists_eq_left,
      nameFilter_selects _ _ (show "name1" ≠ "" by decide),
      nameFilter_selects _ _ (show "name2" ≠ "" by decide), String.reduceToList]
    decide

end OcpDiag.HwInterface
