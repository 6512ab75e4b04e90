import OcpDiag.HwInterface.RangeParse

set_option autoImplicit false

/- The inner loop of `ParseRangeList`, turn by turn. -/
namespace OcpDiag.HwInterface.ParseRangeList

open Results (Outcome)

/-- The values of the loop variable at the tests of the loop, the last of which fails. Incrementing
the largest int is undefined. -/
def loopTests (number stop : Int) : Outcome (List Int) :=
  if number ≤ stop then
    if number = largestInt then .undefined
    else do
      let later ← loopTests (number + 1) stop
      return number :: later
  else .ok [number]
termination_by (stop + 1 - number).toNat

theorem ne_nil_of_loopTests (number stop : Int) (tests : List Int)
    (finished : loopTests number stop = .ok tests) : tests ≠ [] := by
  rw [loopTests] at finished
  split_ifs at finished with more
  · obtain ⟨later, -, same⟩ := (Outcome.bind_eq_ok _ _ _).mp finished
    obtain rfl := Outcome.ok.inj same
    exact List.cons_ne_nil number later
  · obtain rfl := Outcome.ok.inj finished
    exact List.cons_ne_nil number []

/-- Each test but the last one is followed by a push of the loop variable. -/
theorem pushRange_loopTests (number stop : Int) (result : List Int) :
    pushRange number stop result =
      (fun tests : List Int => result ++ tests.dropLast) <$> loopTests number stop := by
  induction left : (stop + 1 - number).toNat generalizing number result with
  | zero =>
      have done : ¬ number ≤ stop := by omega
      rw [pushRange, loopTests, if_neg done, if_neg done]
      simp [Functor.map, Outcome.bind]
  | succ left ih =>
      have more : number ≤ stop := by omega
      rw [pushRange, loopTests, if_pos more, if_pos more]
      by_cases largest : number = largestInt
      · rw [if_pos largest, if_pos largest]
        rfl
      · rw [if_neg largest, if_neg largest, ih _ _ (by omega)]
        cases finished : loopTests (number + 1) stop with
        | die message => rfl
        | undefined => rfl
        | ok later =>
            have nonempty := ne_nil_of_loopTests (number + 1) stop later finished
            have pushed : (number :: later).dropLast = number :: later.dropLast :=
              List.dropLast_cons_of_ne_nil nonempty
            simp [Functor.map, Outcome.bind, pushed]

/-- Below the largest int the tests are those of the numbers and of the one after them. -/
theorem loopTests_eq (number stop : Int) (bounded : stop < largestInt)
    (within : number ≤ stop + 1) :
    loopTests number stop = .ok (interval number stop ++ [stop + 1]) := by
  induction left : (stop + 1 - number).toNat generalizing number with
  | zero =>
      have last : number = stop + 1 := by omega
      have done : ¬ number ≤ stop := by omega
      rw [loopTests, if_neg done, interval_empty number stop (by omega), last, List.nil_append]
  | succ left ih =>
      have more : number ≤ stop := by omega
      have below : ¬ number = largestInt := by omega
      rw [loopTests, if_pos more, if_neg below, ih (number + 1) (by omega) (by omega),
        interval_cons number stop more]
      rfl

/-- The loop variable comes to the largest int, passes the test and is incremented. -/
theorem loopTests_largestInt (number : Int) (bounded : number ≤ largestInt) :
    loopTests number largestInt = .undefined := by
  induction left : (largestInt - number).toNat generalizing number with
  | zero =>
      have largest : number = largestInt := by omega
      rw [loopTests, if_pos bounded, if_pos largest]
  | succ left ih =>
      have below : ¬ number = largestInt := by omega
      rw [loopTests, if_pos bounded, if_neg below, ih (number + 1) (by omega) (by omega)]
      rfl

theorem length_interval (start stop : Int) (forward : start ≤ stop) :
    ((interval start stop).length : Int) = stop - start + 1 := by
  rw [interval, List.length_map, List.length_range]
  omega

/-- The loop ends after one turn for each number of the range, and its variable stays an int. -/
def Expands (start stop : Int) : Prop :=
  ∃ tests, loopTests start stop = .ok tests ∧
    (∀ result, pushRange start stop result = .ok (result ++ tests.dropLast)) ∧
    (tests.countP (fun number => number ≤ stop) : Int) = stop - start + 1 ∧
    ∀ number ∈ tests, number ≤ largestInt

theorem expands_iff (start stop : Int) (forward : start ≤ stop) (fits : stop ≤ largestInt) :
    Expands start stop ↔ stop ≠ largestInt := by
  constructor
  · rintro ⟨tests, finished, -⟩ rfl
    rw [loopTests_largestInt start forward] at finished
    cases finished
  · intro other
    have bounded : stop < largestInt := lt_of_le_of_ne fits other
    have finished := loopTests_eq start stop bounded (by omega)
    refine ⟨_, finished, ?_, ?_, ?_⟩
    · intro result
      rw [pushRange_loopTests, finished]
      rfl
    · have inside : (interval start stop).countP (fun number => number ≤ stop) =
          (interval start stop).length := by
        rw [List.countP_eq_length]
        intro number member
        exact decide_eq_true ((mem_interval start stop number).mp member).2
      have outside : ¬ stop + 1 ≤ stop := by omega
      rw [List.countP_append, inside, List.countP_singleton, decide_eq_false outside]
      simpa using length_interval start stop forward
    · intro number member
      rw [List.mem_append, List.mem_singleton, mem_interval] at member
      omega

theorem le_largestInt_of_reaches {last start stop : Int} {pieces : List (List Char)}
    (reaches : Reaches last pieces start stop) : start ≤ stop ∧ stop ≤ largestInt := by
  induction reaches with
  | here _ passes =>
      obtain ⟨-, second, -, -, read⟩ := passes.parts
      exact ⟨passes.forward, simpleAtoi_le second _ read⟩
  | later _ _ ih => exact ih

/-- Each range that passes the checks is expanded without an overflow, and the call returns. -/
structure ExpandsSafely (text : String) : Prop where
  expands : ∀ start stop, Reaches (-1) (text.toList.splitOn ',') start stop → Expands start stop
  returns : ∃ answer, run text = .ok answer

/-- The call is safe exactly when no range that passes the checks ends at the largest int. -/
theorem expandsSafely_iff (text : String) :
    ExpandsSafely text ↔
      ∀ start stop, Reaches (-1) (text.toList.splitOn ',') start stop → stop ≠ largestInt := by
  constructor
  · intro safe start stop reaches
    obtain ⟨forward, fits⟩ := le_largestInt_of_reaches reaches
    exact (expands_iff start stop forward fits).mp (safe.expands start stop reaches)
  · intro below
    refine ⟨?_, parseRangeList text, run_eq text below⟩
    intro start stop reaches
    obtain ⟨forward, fits⟩ := le_largestInt_of_reaches reaches
    exact (expands_iff start stop forward fits).mpr (below start stop reaches)

/-- The one number of the range is the largest int. -/
theorem not_expandsSafely_largestInt :
    ¬ ∀ text, ExpandsSafely text := by
  intro safe
  have passes : PassesChecks (-1) "2147483647-2147483647".toList largestInt largestInt :=
    ⟨⟨"2147483647", "2147483647", by decide, by decide, by decide⟩, by decide, le_refl _⟩
  have pieces : "2147483647-2147483647".toList.splitOn ',' =
      ["2147483647-2147483647".toList] := by decide
  have reaches : Reaches (-1) ("2147483647-2147483647".toList.splitOn ',')
      largestInt largestInt := by
    rw [pieces]
    exact .here [] passes
  obtain ⟨tests, finished, -⟩ := (safe "2147483647-2147483647").expands _ _ reaches
  rw [loopTests_largestInt largestInt (le_refl _)] at finished
  cases finished

end OcpDiag.HwInterface.ParseRangeList
