import Mathlib.Algebra.Group.Nat.Even
import Mathlib.Data.List.DropRight
import Mathlib.Data.List.Forall2
import Mathlib.Data.List.TakeWhile
import OcpDiag.Results.Outcome

set_option autoImplicit false

/- What the results are started with, out of the arguments of main. The pointers of argv are the
caller's own: a text here is what one of them denotes. -/
namespace OcpDiag.Results.MainArgs

/- The characters of a text are bytes, or whole characters where the bytes spell them. -/
variable {α : Type} [DecidableEq α] (ascii : Char → α)

/-- A missing program name is a null pointer. -/
def commandLineStringFromMainArgs : List (List α) → Outcome (List α)
  | [] => .undefined
  | program :: args => .ok (args.foldl (fun commandLine arg => commandLine ++ ascii ' ' :: arg) program)

/-- `while (argv[i][0] == '-') argv[i]++`. -/
def withoutDashes (flag : List α) : List α := flag.dropWhile (· = ascii '-')

/-- The format is `"%s":"%s"`. -/
def memberText (flag value : List α) : List α :=
  ascii '"' :: (flag ++ ascii '"' :: ascii ':' :: ascii '"' :: (value ++ [ascii '"']))

/-- The loop over the flags from `i` on, with the text so far. A flag without a value reads past the
end of argv. -/
def parameterLoop (parameterJson : List α) : List (List α) → Outcome (List α × List (List α))
  | [] => .ok (parameterJson, [])
  | [_] => .undefined
  | flag :: value :: rest => do
      let moved := withoutDashes ascii flag
      let member := memberText ascii moved value ++ if rest.isEmpty then [] else [ascii ',']
      let (text, args) ← parameterLoop (parameterJson ++ member) rest
      return (text, moved :: value :: args)

/-- The text, and argv as the call leaves it. -/
def parameterJsonFromMainArgs : List (List α) → Outcome (List α × List (List α))
  | program :: arg :: args => do
      let (text, moved) ← parameterLoop ascii [ascii '\x7b'] (arg :: args)
      return (text ++ [ascii '\x7d'], program :: moved)
  | argv => .ok ([ascii '\x7b', ascii '\x7d'], argv)

inductive Call where
  | commandLineString
  | parameterJson
  deriving DecidableEq, Repr

def Call.run (argv : List (List α)) : Call → Outcome (List α × List (List α))
  | .commandLineString => (·, argv) <$> commandLineStringFromMainArgs ascii argv
  | .parameterJson => parameterJsonFromMainArgs ascii argv

/-- The texts of the calls in their order, and argv after them. -/
def runCalls (argv : List (List α)) : List Call → Outcome (List (List α) × List (List α))
  | [] => .ok ([], argv)
  | call :: calls => do
      let (text, moved) ← call.run ascii argv
      let (texts, last) ← runCalls moved calls
      return (text :: texts, last)

/-- Every call gives the text that it gives alone, and argv is in the end what it was. -/
def ReadsOnly (argv : List (List α)) (calls : List Call) : Prop :=
  ∃ texts, runCalls ascii argv calls = .ok (texts, argv) ∧
    List.Forall₂ (fun call text => ∃ moved, call.run ascii argv = .ok (text, moved)) calls texts

/-- The arguments after the program name in odd positions. -/
def flags : List (List α) → List (List α)
  | flag :: _ :: rest => flag :: flags rest
  | rest => rest

def arguments (pairs : List (List α × List α)) : List (List α) :=
  pairs.flatMap (fun pair => [pair.1, pair.2])

omit [DecidableEq α] in
theorem flags_arguments (pairs : List (List α × List α)) :
    flags (arguments pairs) = pairs.map Prod.fst := by
  induction pairs with
  | nil => rfl
  | cons pair pairs ih => exact congrArg (pair.1 :: ·) ih

omit [DecidableEq α] in
theorem arguments_of_even (args : List (List α)) (even : Even args.length) :
    ∃ pairs, args = arguments pairs := by
  induction args using flags.induct with
  | case1 flag value rest ih =>
      obtain ⟨pairs, rfl⟩ := ih (by simpa [Nat.even_add_one] using even)
      exact ⟨(flag, value) :: pairs, rfl⟩
  | case2 rest short =>
      match rest, short, even with
      | [], _, _ => exact ⟨[], rfl⟩
      | [_], _, even => exact absurd even Nat.not_even_one
      | flag :: value :: rest, short, _ => exact absurd rfl (short flag value rest)

/-- What the loop makes of one flag and its value. -/
def moveFlag (pair : List α × List α) : List α × List α := (withoutDashes ascii pair.1, pair.2)

def membersText (pairs : List (List α × List α)) : List α :=
  [ascii ','].intercalate (pairs.map (fun pair => memberText ascii pair.1 pair.2))

theorem parameterLoop_arguments (pairs : List (List α × List α)) (parameterJson : List α) :
    parameterLoop ascii parameterJson (arguments pairs) =
      .ok (parameterJson ++ membersText ascii (pairs.map (moveFlag ascii)),
        arguments (pairs.map (moveFlag ascii))) := by
  induction pairs generalizing parameterJson with
  | nil => simp [parameterLoop, arguments, membersText]
  | cons pair pairs ih =>
      have turn : parameterLoop ascii parameterJson (arguments (pair :: pairs)) = do
          let member := memberText ascii (moveFlag ascii pair).1 pair.2 ++
            if (arguments pairs).isEmpty then [] else [ascii ',']
          let (text, args) ← parameterLoop ascii (parameterJson ++ member) (arguments pairs)
          return (text, (moveFlag ascii pair).1 :: pair.2 :: args) := rfl
      rw [turn]
      simp only [ih]
      cases pairs with
      | nil => simp [membersText, arguments, moveFlag]
      | cons next pairs => simp [membersText, arguments, moveFlag, List.intercalate]

theorem parameterJsonFromMainArgs_arguments (program : List α) (pairs : List (List α × List α)) :
    parameterJsonFromMainArgs ascii (program :: arguments pairs) =
      .ok (ascii '\x7b' :: (membersText ascii (pairs.map (moveFlag ascii)) ++ [ascii '\x7d']),
        program :: arguments (pairs.map (moveFlag ascii))) := by
  cases pairs with
  | nil => rfl
  | cons pair pairs =>
      have loop := parameterLoop_arguments ascii (pair :: pairs) [ascii '\x7b']
      have called : parameterJsonFromMainArgs ascii (program :: arguments (pair :: pairs)) = do
          let (text, moved) ← parameterLoop ascii [ascii '\x7b'] (arguments (pair :: pairs))
          return (text ++ [ascii '\x7d'], program :: moved) := rfl
      rw [called, loop]
      rfl

/-- A call leaves argv as it is, or with the flags moved. -/
theorem run_arguments (program : List α) (pairs : List (List α × List α)) (call : Call) :
    ∃ text, call.run ascii (program :: arguments pairs) = .ok (text, program ::
      arguments (if call = .parameterJson then pairs.map (moveFlag ascii) else pairs)) := by
  cases call with
  | commandLineString => exact ⟨_, rfl⟩
  | parameterJson => exact ⟨_, parameterJsonFromMainArgs_arguments ascii program pairs⟩

theorem withoutDashes_idem (flag : List α) :
    withoutDashes ascii (withoutDashes ascii flag) = withoutDashes ascii flag :=
  List.dropWhile_idempotent _ flag

theorem moveFlag_idem (pairs : List (List α × List α)) :
    (pairs.map (moveFlag ascii)).map (moveFlag ascii) = pairs.map (moveFlag ascii) := by
  simp only [List.map_map]
  refine List.map_congr_left fun pair _ => ?_
  simp only [Function.comp_apply, moveFlag, withoutDashes_idem]

/-- However the calls are ordered, the flags are moved if one of them moves them. -/
theorem runCalls_arguments (program : List α) (pairs : List (List α × List α))
    (calls : List Call) :
    ∃ texts, runCalls ascii (program :: arguments pairs) calls = .ok (texts, program ::
      arguments (if .parameterJson ∈ calls then pairs.map (moveFlag ascii) else pairs)) := by
  induction calls generalizing pairs with
  | nil => exact ⟨[], rfl⟩
  | cons call calls ih =>
      obtain ⟨text, ran⟩ := run_arguments ascii program pairs call
      obtain ⟨texts, rest⟩ := ih (if call = .parameterJson then pairs.map (moveFlag ascii) else pairs)
      refine ⟨text :: texts, ?_⟩
      simp only [runCalls, ran, rest, Outcome.ok_bind, Outcome.pure_eq_ok]
      cases call with
      | commandLineString => simp
      | parameterJson => simp only [if_true, moveFlag_idem, ite_self, List.mem_cons, true_or]

theorem runCalls_unchanged (argv : List (List α)) (calls : List Call)
    (unchanged : ∀ call ∈ calls, ∃ text, call.run ascii argv = .ok (text, argv)) :
    ReadsOnly ascii argv calls := by
  induction calls with
  | nil => exact ⟨[], rfl, .nil⟩
  | cons call calls ih =>
      rw [List.forall_mem_cons] at unchanged
      obtain ⟨text, ran⟩ := unchanged.1
      obtain ⟨texts, rest, alone⟩ := ih unchanged.2
      refine ⟨text :: texts, ?_, .cons ⟨argv, ran⟩ alone⟩
      simp only [runCalls, ran, rest, Outcome.ok_bind, Outcome.pure_eq_ok]

omit [DecidableEq α] in
theorem arguments_inj (pairs other : List (List α × List α))
    (same : arguments pairs = arguments other) : pairs = other := by
  induction pairs generalizing other with
  | nil =>
      cases other with
      | nil => rfl
      | cons pair other => cases same
  | cons pair pairs ih =>
      cases other with
      | nil => cases same
      | cons next other =>
          obtain ⟨first, rest⟩ := List.cons.inj same
          obtain ⟨second, rest⟩ := List.cons.inj rest
          rw [Prod.ext first second, ih other rest]

theorem withoutDashes_eq_iff (flag : List α) :
    withoutDashes ascii flag = flag ↔ flag.head? ≠ some (ascii '-') := by
  rw [withoutDashes, List.dropWhile_eq_self_iff]
  cases flag <;> simp

theorem moveFlag_eq_iff (pairs : List (List α × List α)) :
    pairs.map (moveFlag ascii) = pairs ↔
      ∀ flag ∈ flags (arguments pairs), flag.head? ≠ some (ascii '-') := by
  rw [flags_arguments, List.forall_mem_map]
  simp only [← withoutDashes_eq_iff]
  nth_rewrite 2 [← List.map_id pairs]
  rw [List.map_inj_left]
  simp only [moveFlag, id_eq, Prod.ext_iff, and_true]

/-- Calls only read the arguments exactly when none of them finds a flag with a dash to move. -/
theorem readsOnly_iff (program : List α) (args : List (List α)) (calls : List Call)
    (even : Even args.length) :
    ReadsOnly ascii (program :: args) calls ↔
      (.parameterJson ∈ calls → ∀ flag ∈ flags args, flag.head? ≠ some (ascii '-')) := by
  obtain ⟨pairs, rfl⟩ := arguments_of_even args even
  rw [← moveFlag_eq_iff]
  constructor
  · rintro ⟨texts, ran, -⟩ called
    obtain ⟨others, moved⟩ := runCalls_arguments ascii program pairs calls
    rw [ran, if_pos called] at moved
    have same := (List.cons.inj (Prod.mk.inj (Outcome.ok.inj moved)).2).2
    exact (arguments_inj _ _ same).symm
  · intro kept
    refine runCalls_unchanged ascii _ calls fun call member => ?_
    obtain ⟨text, ran⟩ := run_arguments ascii program pairs call
    refine ⟨text, ran.trans ?_⟩
    split
    next moves => rw [kept (moves ▸ member)]
    next => rfl

theorem readsOnly_iff_undashed :
    ReadsOnly id ["diag".toList, "flag".toList, "-1".toList]
      [.parameterJson, .commandLineString, .parameterJson] :=
  (readsOnly_iff id "diag".toList ["flag".toList, "-1".toList] _ (by decide)).mpr (by decide)

/-- The command line loses its dashes once the parameters were read. -/
theorem readsOnly_not_dashed :
    ¬ ∀ (program : List Char) (args : List (List Char)) (calls : List Call), Even args.length →
      ReadsOnly id (program :: args) calls := by
  intro reads
  obtain ⟨texts, ran, alone⟩ := reads "diag".toList ["--flag".toList, "on".toList]
    [.parameterJson, .commandLineString] (by decide)
  have dropped : runCalls id ["diag".toList, "--flag".toList, "on".toList]
      [.parameterJson, .commandLineString] =
      .ok (["\x7b\"flag\":\"on\"\x7d".toList, "diag flag on".toList],
        ["diag".toList, "flag".toList, "on".toList]) := by
    decide
  rw [ran] at dropped
  exact absurd (Prod.mk.inj (Outcome.ok.inj dropped)).2 (by decide)

end OcpDiag.Results.MainArgs
