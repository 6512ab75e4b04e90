import OcpDiag.Lib.Runs
import OcpDiag.Lib.GreedyPattern
import OcpDiag.HwInterface.Utils

set_option autoImplicit false

/- The errors that rasdaemon reports: `ras-mc-ctl --errors`, read line by line. -/
namespace OcpDiag.HwInterface.RasDaemonErrors

structure Error where
  /-- In seconds since the epoch. -/
  timestamp : Int
  count : Int
  isCorrectable : Bool
  isFatal : Bool
  label : String
  debuginfo : String
  deriving DecidableEq, Repr

/-- absl::ParseTime, from a format and a text to an instant or the text of an error. -/
abbrev ParseTime : Type := String → String → Except String Int

/-- kTimeFormat. -/
def timeFormat : String := "%E4Y-%m-%d %H:%M:%S %z"

inductive ParsingStep where
  | mcTitle
  | mcRecord
  | finish
  deriving DecidableEq, Repr

def parseErrorStatus (step msg line : String) : Status :=
  ⟨.internal, "`ras-mc-ctl --errors`: parsed failed, step: " ++ step ++ ", msg:[" ++ msg ++
    "], line [" ++ line ++ "]"⟩

def parseMcTitle (line : String) : StatusOr ParsingStep :=
  if line = "Memory controller events:" then .ok .mcRecord
  else if line = "No Memory errors." then .ok .finish
  else .error (parseErrorStatus "MC_TITLE" "malform" line)

def locationItems : List (GreedyPattern.Item Char) :=
  [.plus anyChar, .literal " location: ".toList, .plus anyChar]

/-- What follows the type of the error. -/
def messageItems : List (GreedyPattern.Item Char) :=
  .plus anyChar :: .literal " at ".toList :: locationItems

/-- KMcRegexp; its first group is the date, the time and the offset. -/
def mcRegexp : List (GreedyPattern.Item Char) :=
  .plus Char.isDigit :: .literal [' '] ::
    .plus (fun char => char.isDigit || char = '-') :: .literal [' '] ::
    .plus (fun char => char.isDigit || char = ':') :: .literal [' '] ::
    .plus (fun char => char.isDigit || char = '+') :: .literal [' '] ::
    .plus Char.isDigit :: .literal [' '] ::
    .plus wordChar :: .literal " error(s): ".toList :: messageItems

/-- The groups of the pattern, the count as an `int` that has to fit. -/
def matchMcRecord (line : String) : Option (String × Int × String × String) :=
  match GreedyPattern.fullMatch mcRegexp line.toList with
  | some [_, date, time, offset, digits, errType, _, label, _] =>
      ((digitsValue digits).bind (fun value => int32 value)).map (fun count =>
        (String.ofList (date ++ ' ' :: (time ++ ' ' :: offset)), count, String.ofList errType,
          String.ofList label))
  | _ => none

/-- The next step, and the errors with the one of the line. -/
def parseMcRecord (parseTime : ParseTime) (line : String) (memoryErrors : List Error) :
    StatusOr ParsingStep × List Error :=
  if line.isEmpty then (.ok .finish, memoryErrors)
  else
    match matchMcRecord line with
    | none => (.error (parseErrorStatus "MC_RECORD" "malform" line), memoryErrors)
    | some (tempTs, count, tempErrType, label) =>
        match parseTime timeFormat tempTs with
        | .error tsParseErr =>
            (.error (parseErrorStatus "MC_RECORD" ("timestamp: " ++ tsParseErr) line),
              memoryErrors)
        | .ok timestamp =>
            let memoryError (isCorrectable isFatal : Bool) : Error :=
              ⟨timestamp, count, isCorrectable, isFatal, label, line⟩
            if tempErrType = "Corrected" then
              (.ok .mcRecord, memoryErrors ++ [memoryError true false])
            else if tempErrType = "Uncorrected" then
              (.ok .mcRecord, memoryErrors ++ [memoryError false false])
            else if tempErrType = "Fatal" then
              (.ok .mcRecord, memoryErrors ++ [memoryError false true])
            else if tempErrType = "Info" then (.ok .mcRecord, memoryErrors)
            else (.error (parseErrorStatus "MC_RECORD" "Unknow error type" line), memoryErrors)

def unexpectedEndOfFile : Status :=
  ⟨.internal, "`ras-mc-ctl --errors`: parsed failed, unexpected end of file."⟩

/-- The loop; FINISH returns only when it is given one more line. -/
def parseLines (parseTime : ParseTime) :
    ParsingStep → List Error → List String → StatusOr Unit × List Error
  | _, memoryErrors, [] => (.error unexpectedEndOfFile, memoryErrors)
  | .mcTitle, memoryErrors, line :: rest =>
      match parseMcTitle line with
      | .error status => (.error status, memoryErrors)
      | .ok step => parseLines parseTime step memoryErrors rest
  | .mcRecord, memoryErrors, line :: rest =>
      match parseMcRecord parseTime line memoryErrors with
      | (.error status, memoryErrors) => (.error status, memoryErrors)
      | (.ok step, memoryErrors) => parseLines parseTime step memoryErrors rest
  | .finish, memoryErrors, _ :: _ => (.ok (), memoryErrors)

def reportLines (rasErrors : String) : List String :=
  (rasErrors.toList.splitOn '\n').map String.ofList

def parseErrorReport (parseTime : ParseTime) (memoryErrors : List Error) (rasErrors : String) :
    StatusOr Unit × List Error :=
  parseLines parseTime .mcTitle memoryErrors (reportLines rasErrors)

/-- A turn of the loop that does not return. -/
def turn (parseTime : ParseTime) :
    ParsingStep × List Error → String → Option (ParsingStep × List Error)
  | (.mcTitle, memoryErrors), line =>
      (parseMcTitle line).toOption.map (fun step => (step, memoryErrors))
  | (.mcRecord, memoryErrors), line =>
      let parsed := parseMcRecord parseTime line memoryErrors
      parsed.1.toOption.map (fun step => (step, parsed.2))
  | (.finish, _), _ => none

/-- The lines bring the loop to FINISH, with these records, before the lines after. -/
def ReachesFinish (parseTime : ParseTime) (memoryErrors : List Error) (lines : List String)
    (records : List Error) (after : List String) : Prop :=
  ∃ before, lines = before ++ after ∧
    Runs.run (turn parseTime) (.mcTitle, memoryErrors) before =
      some (.finish, memoryErrors ++ records)

/-- A well-formed record line and the errors it adds. -/
def RecordLine (parseTime : ParseTime) (line : String) (records : List Error) : Prop :=
  line.isEmpty = false ∧ parseMcRecord parseTime line [] = (.ok .mcRecord, records)

def FinishedReport (parseTime : ParseTime) (lines : List String) (records : List Error)
    (after : List String) : Prop :=
  lines = "No Memory errors." :: after ∧ records = [] ∨
    ∃ recordLines found, lines = "Memory controller events:" :: (recordLines ++ "" :: after) ∧
      List.Forall₂ (RecordLine parseTime) recordLines found ∧ records = found.flatten

/-- What a line adds does not depend on the errors before it. -/
theorem parseMcRecord_eq (parseTime : ParseTime) (line : String) (memoryErrors : List Error) :
    parseMcRecord parseTime line memoryErrors =
      ((parseMcRecord parseTime line []).1,
        memoryErrors ++ (parseMcRecord parseTime line []).2) := by
  unfold parseMcRecord
  split_ifs
  · simp
  · split
    next => simp
    next =>
        split
        next => simp
        next => split_ifs <;> simp

/-- A line that is accepted is empty or a record. -/
theorem parseMcRecord_ok (parseTime : ParseTime) (line : String) (step : ParsingStep)
    (records : List Error) (parsed : parseMcRecord parseTime line [] = (.ok step, records)) :
    (line = "" ∧ step = .finish ∧ records = []) ∨
      (RecordLine parseTime line records ∧ step = .mcRecord) := by
  by_cases empty : line.isEmpty = true
  · obtain rfl := String.isEmpty_iff.mp empty
    have finished : parseMcRecord parseTime "" [] = (.ok .finish, []) := rfl
    rw [finished] at parsed
    cases parsed
    exact .inl ⟨rfl, rfl, rfl⟩
  · refine .inr ?_
    have record : step = .mcRecord := by
      unfold parseMcRecord at parsed
      rw [if_neg empty] at parsed
      split at parsed
      next => cases parsed
      next =>
          split at parsed
          next => cases parsed
          next => split_ifs at parsed <;> cases parsed <;> rfl
    subst record
    exact ⟨⟨Bool.eq_false_iff.mpr empty, parsed⟩, rfl⟩

/-- A line of records leads back to the records or, when it is empty, to FINISH. -/
theorem turn_record_iff (parseTime : ParseTime) (memoryErrors : List Error) (line : String)
    (next : ParsingStep × List Error) :
    turn parseTime (.mcRecord, memoryErrors) line = some next ↔
      (line = "" ∧ next = (.finish, memoryErrors)) ∨
        ∃ records, RecordLine parseTime line records ∧
          next = (.mcRecord, memoryErrors ++ records) := by
  constructor
  · intro taken
    simp only [turn, parseMcRecord_eq parseTime line memoryErrors] at taken
    obtain ⟨step, parsed, rfl⟩ := Option.map_eq_some_iff.mp taken
    cases answer : parseMcRecord parseTime line [] with
    | mk result records =>
        rw [answer] at parsed
        cases result with
        | error status => cases parsed
        | ok accepted =>
            obtain rfl := Option.some.inj parsed
            rcases parseMcRecord_ok parseTime line accepted records answer with
              ⟨empty, rfl, rfl⟩ | ⟨record, rfl⟩
            · exact .inl ⟨empty, by rw [List.append_nil]⟩
            · exact .inr ⟨records, record, rfl⟩
  · rintro (⟨rfl, rfl⟩ | ⟨records, record, rfl⟩)
    · rfl
    · simp only [turn, parseMcRecord_eq parseTime line memoryErrors, record.2]
      rfl

theorem turn_title_iff (parseTime : ParseTime) (memoryErrors : List Error) (line : String)
    (next : ParsingStep × List Error) :
    turn parseTime (.mcTitle, memoryErrors) line = some next ↔
      (line = "Memory controller events:" ∧ next = (.mcRecord, memoryErrors)) ∨
        (line = "No Memory errors." ∧ next = (.finish, memoryErrors)) := by
  change (parseMcTitle line).toOption.map _ = some next ↔ _
  unfold parseMcTitle
  split_ifs with title none
  · simp [title, Except.toOption, eq_comm]
  · simp [none, Except.toOption, eq_comm]
  · simp [title, none, Except.toOption]

theorem run_finish_iff (parseTime : ParseTime) (memoryErrors : List Error)
    (before : List String) (final : ParsingStep × List Error) :
    Runs.run (turn parseTime) (.finish, memoryErrors) before = some final ↔
      before = [] ∧ final = (.finish, memoryErrors) := by
  cases before with
  | nil => simp [eq_comm]
  | cons line rest => simp [Runs.run, turn]

/-- The induction is on the lines; each record adds its errors to those before it. -/
theorem run_record_iff (parseTime : ParseTime) (memoryErrors final : List Error)
    (before : List String) :
    Runs.run (turn parseTime) (.mcRecord, memoryErrors) before = some (.finish, final) ↔
      ∃ recordLines found, before = recordLines ++ [""] ∧
        List.Forall₂ (RecordLine parseTime) recordLines found ∧
        final = memoryErrors ++ found.flatten := by
  induction before generalizing memoryErrors with
  | nil => simp
  | cons line rest ih =>
      rw [Runs.run_cons_eq_some]
      constructor
      · rintro ⟨next, taken, reached⟩
        rcases (turn_record_iff _ _ _ _).mp taken with ⟨rfl, rfl⟩ | ⟨records, record, rfl⟩
        · obtain ⟨rfl, same⟩ := (run_finish_iff _ _ _ _).mp reached
          obtain ⟨-, rfl⟩ := Prod.mk.inj same
          exact ⟨[], [], rfl, .nil, by simp⟩
        · obtain ⟨recordLines, found, rfl, each, rfl⟩ := (ih _).mp reached
          exact ⟨line :: recordLines, records :: found, rfl, .cons record each, by simp⟩
      · rintro ⟨recordLines, found, split, each, rfl⟩
        cases each with
        | nil =>
            obtain ⟨rfl, rfl⟩ := List.cons.inj split
            refine ⟨_, (turn_record_iff _ _ _ _).mpr (.inl ⟨rfl, rfl⟩), ?_⟩
            simp
        | @cons first records recordLines found record each =>
            obtain ⟨rfl, rfl⟩ := List.cons.inj split
            refine ⟨_, (turn_record_iff _ _ _ _).mpr (.inr ⟨records, record, rfl⟩), ?_⟩
            exact (ih _).mpr ⟨recordLines, found, rfl, each, by simp⟩

theorem reachesFinish_iff (parseTime : ParseTime) (memoryErrors : List Error)
    (lines : List String) (records : List Error) (after : List String) :
    ReachesFinish parseTime memoryErrors lines records after ↔
      FinishedReport parseTime lines records after := by
  constructor
  · rintro ⟨before, rfl, reached⟩
    cases before with
    | nil => simp at reached
    | cons line rest =>
        obtain ⟨next, taken, reached⟩ := (Runs.run_cons_eq_some _ _ _ _ _).mp reached
        rcases (turn_title_iff _ _ _ _).mp taken with ⟨rfl, rfl⟩ | ⟨rfl, rfl⟩
        · obtain ⟨recordLines, found, rfl, each, same⟩ := (run_record_iff _ _ _ _).mp reached
          exact .inr ⟨recordLines, found, by simp, each, List.append_cancel_left same⟩
        · obtain ⟨rfl, same⟩ := (run_finish_iff _ _ _ _).mp reached
          obtain ⟨-, same⟩ := Prod.mk.inj same
          exact .inl ⟨rfl, List.append_right_eq_self.mp same⟩
  · rintro (⟨rfl, rfl⟩ | ⟨recordLines, found, rfl, each, rfl⟩)
    · refine ⟨["No Memory errors."], rfl, ?_⟩
      refine (Runs.run_cons_eq_some _ _ _ _ _).mpr
        ⟨_, (turn_title_iff _ _ _ _).mpr (.inr ⟨rfl, rfl⟩), ?_⟩
      simp
    · refine ⟨"Memory controller events:" :: (recordLines ++ [""]), by simp, ?_⟩
      refine (Runs.run_cons_eq_some _ _ _ _ _).mpr
        ⟨_, (turn_title_iff _ _ _ _).mpr (.inl ⟨rfl, rfl⟩), ?_⟩
      exact (run_record_iff _ _ _ _).mpr ⟨recordLines, found, rfl, each, rfl⟩

theorem parseLines_of_turn (parseTime : ParseTime) (state next : ParsingStep × List Error)
    (line : String) (rest : List String) (taken : turn parseTime state line = some next) :
    parseLines parseTime state.1 state.2 (line :: rest) =
      parseLines parseTime next.1 next.2 rest := by
  obtain ⟨step, memoryErrors⟩ := state
  cases step with
  | mcTitle =>
      rcases (turn_title_iff _ _ _ _).mp taken with ⟨rfl, rfl⟩ | ⟨rfl, rfl⟩ <;> rfl
  | mcRecord =>
      rcases (turn_record_iff _ _ _ _).mp taken with ⟨rfl, rfl⟩ | ⟨records, record, rfl⟩
      · rfl
      · simp only [parseLines, parseMcRecord_eq parseTime line memoryErrors, record.2]
  | finish => cases taken

/-- The loop goes on from where the lines before have brought it. -/
theorem parseLines_of_run (parseTime : ParseTime) (before after : List String)
    (state final : ParsingStep × List Error)
    (reached : Runs.run (turn parseTime) state before = some final) :
    parseLines parseTime state.1 state.2 (before ++ after) =
      parseLines parseTime final.1 final.2 after := by
  induction before generalizing state with
  | nil =>
      obtain rfl := Option.some.inj reached
      rfl
  | cons line rest ih =>
      obtain ⟨next, taken, reached⟩ := (Runs.run_cons_eq_some _ _ _ _ _).mp reached
      rw [List.cons_append, parseLines_of_turn parseTime state next line _ taken]
      exact ih next reached

/-- What the function answers once the lines have brought it to FINISH. -/
theorem parseErrorReport_finished (parseTime : ParseTime) (memoryErrors : List Error)
    (rasErrors : String) (records : List Error) (after : List String)
    (finished : FinishedReport parseTime (reportLines rasErrors) records after) :
    parseErrorReport parseTime memoryErrors rasErrors =
      (if after = [] then .error unexpectedEndOfFile else .ok (), memoryErrors ++ records) := by
  obtain ⟨before, lines, reached⟩ :=
    (reachesFinish_iff parseTime memoryErrors _ _ _).mpr finished
  have rest := parseLines_of_run parseTime before after _ _ reached
  rw [parseErrorReport, lines, rest]
  cases after with
  | nil => rfl
  | cons line after => rfl

/-- A report that has reached FINISH is accepted with the records seen before it; only one that
has not ends too early. -/
def AcceptsFinished (parseTime : ParseTime) (memoryErrors : List Error) (rasErrors : String) :
    Prop :=
  (∀ records after, FinishedReport parseTime (reportLines rasErrors) records after →
    parseErrorReport parseTime memoryErrors rasErrors = (.ok (), memoryErrors ++ records)) ∧
  ((parseErrorReport parseTime memoryErrors rasErrors).1 = .error unexpectedEndOfFile →
    ∀ records after, ¬ FinishedReport parseTime (reportLines rasErrors) records after)

/-- A report is accepted where it ends exactly when a newline follows the line of FINISH. -/
theorem acceptsFinished_iff (parseTime : ParseTime) (memoryErrors : List Error)
    (rasErrors : String) :
    (∀ records after,
      ReachesFinish parseTime memoryErrors (reportLines rasErrors) records after ↔
        FinishedReport parseTime (reportLines rasErrors) records after) ∧
    (AcceptsFinished parseTime memoryErrors rasErrors ↔
      ∀ records after, FinishedReport parseTime (reportLines rasErrors) records after →
        after ≠ []) := by
  refine ⟨fun records after => reachesFinish_iff _ _ _ _ _, ?_, ?_⟩
  · rintro ⟨accepted, -⟩ records after finished rfl
    have answer := parseErrorReport_finished parseTime memoryErrors _ _ _ finished
    rw [accepted records [] finished, if_pos rfl] at answer
    cases answer
  · intro followed
    have answer (records : List Error) (after : List String)
        (finished : FinishedReport parseTime (reportLines rasErrors) records after) :
        parseErrorReport parseTime memoryErrors rasErrors =
          (.ok (), memoryErrors ++ records) := by
      rw [parseErrorReport_finished parseTime memoryErrors _ _ _ finished,
        if_neg (followed records after finished)]
    refine ⟨answer, fun early records after finished => ?_⟩
    rw [answer records after finished] at early
    cases early

/-- Without a final newline the report of a healthy machine is an error. -/
theorem acceptsFinished_not_unterminated :
    ¬ ∀ parseTime memoryErrors rasErrors,
      AcceptsFinished parseTime memoryErrors rasErrors := by
  intro accepts
  have finished : FinishedReport (fun _ _ => .error "") (reportLines "No Memory errors.") [] [] :=
    .inl ⟨by decide, rfl⟩
  have answer := (accepts (fun _ _ => .error "") [] "No Memory errors.").1 [] [] finished
  exact absurd answer (by decide)

end OcpDiag.HwInterface.RasDaemonErrors
