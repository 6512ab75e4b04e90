import OcpDiag.Lib.Window
import OcpDiag.HwInterface.HostAdapter
import OcpDiag.HwInterface.HwInfo
import OcpDiag.HwInterface.RasErrors

set_option autoImplicit false

/- The errors of the host backend: `GetErrors` over the report of rasdaemon. -/
namespace OcpDiag.HwInterface

open RasDaemonErrors (ParseTime parseErrorReport)

/-- HostAdapter::RunCommand, with the timeout as absl::FormatDuration shows it. -/
abbrev RunCommand : Type := String → List String → StatusOr CommandResult

inductive EventSource where
  | default
  | memoryError
  | cpuError
  | pcieError
  | pmbusError
  | advancedDimmError
  | eventlog
  | gpuError
  /-- A number without a name, which proto3 keeps. -/
  | unrecognized (number : Int)
  deriving DecidableEq, Repr

structure Timestamp where
  seconds : Int := 0
  nanos : Int := 0
  deriving DecidableEq, Repr

/-- A timestamp that is not set reads as its default. -/
structure TimestampFilter where
  startTimestamp : Timestamp := {}
  endTimestamp : Timestamp := {}
  deriving DecidableEq, Repr

structure GetErrorsRequest where
  eventSources : List EventSource := []
  filter : Option TimestampFilter := none
  reportDebugInfo : Bool := false
  deriving DecidableEq, Repr

structure ErrorInfo where
  eventTimestamp : Timestamp
  ids : List Identifier
  isCorrectable : Bool
  isFatal : Bool
  eventSource : EventSource
  otherDebugInfo : String := ""
  count : Int
  deriving DecidableEq, Repr

structure GetErrorsResponse where
  errors : List ErrorInfo := []
  deriving DecidableEq, Repr

namespace RasDaemonErrors

/-- The errors of a fresh object; those of a failed call are not looked at. -/
def gather (parseTime : ParseTime) (runCommand : RunCommand) : StatusOr (List Error) := do
  let result ← runCommand "30s" ["ras-mc-ctl", "--errors"]
  if result.exitCode ≠ 0 then
    .error ⟨.internal, "`ras-mc-ctl --errors` run failed, error_code: [" ++
      toString result.exitCode ++ "].\nstdout: [" ++ result.stdout ++ "]\nstderr:[" ++
      result.stderr ++ "] "⟩
  else
    match parseErrorReport parseTime [] result.stdout with
    | (.ok (), memoryErrors) => .ok memoryErrors
    | (.error status, _) => .error status

end RasDaemonErrors

/-- Filtered out: at the start or before it, or after the end. -/
def TimestampFilter.skips (filter : TimestampFilter) (timestamp : Timestamp) : Bool :=
  timestamp.seconds ≤ filter.startTimestamp.seconds ||
    timestamp.seconds > filter.endTimestamp.seconds

/-- One turn of the loop over the memory errors. -/
def GetErrorsRequest.reportError (request : GetErrorsRequest) (error : RasDaemonErrors.Error) :
    Option ErrorInfo :=
  let timestamp : Timestamp := { seconds := error.timestamp }
  if request.filter.any (·.skips timestamp) then none
  else if error.label = "unknown memory" then none
  else some {
    eventSource := .memoryError
    eventTimestamp := timestamp
    count := error.count
    isCorrectable := error.isCorrectable
    isFatal := error.isFatal
    ids := [populateId { type := "dimm", name := error.label } none]
    otherDebugInfo := if request.reportDebugInfo then error.debuginfo else "" }

/-- A filter without a second in it. -/
def TimestampFilter.isEmpty (filter : TimestampFilter) : Bool :=
  filter.startTimestamp.seconds ≥ filter.endTimestamp.seconds

def emptyFilterStatus (filter : TimestampFilter) : Status :=
  ⟨.invalidArgument, "Filter start_timestamp = " ++ toString filter.startTimestamp.seconds ++
    " is greater or equal to end_timestamp = " ++ toString filter.endTimestamp.seconds⟩

/-- HostBackend::GetErrors. -/
def getErrors (parseTime : ParseTime) (runCommand : RunCommand) (request : GetErrorsRequest) :
    StatusOr GetErrorsResponse :=
  match request.filter.filter (·.isEmpty) with
  | some filter => .error (emptyFilterStatus filter)
  | none => do
      let memoryErrors ← RasDaemonErrors.gather parseTime runCommand
      if infoTypeHave request.eventSources .memoryError then
        return { errors := memoryErrors.filterMap request.reportError }
      else return {}

namespace GetErrorsRequest

def windowed (request : GetErrorsRequest) (start stop : Timestamp) : GetErrorsRequest :=
  { request with filter := some ⟨start, stop⟩ }

def unfiltered (request : GetErrorsRequest) : GetErrorsRequest := { request with filter := none }

/-- The errors that the event sources of the request let through. -/
def wanted (request : GetErrorsRequest) (memoryErrors : List RasDaemonErrors.Error) :
    List RasDaemonErrors.Error :=
  if infoTypeHave request.eventSources .memoryError then memoryErrors else []

theorem reportError_windowed (request : GetErrorsRequest) (start stop : Timestamp)
    (error : RasDaemonErrors.Error) :
    (request.windowed start stop).reportError error =
      if start.seconds < error.timestamp ∧ error.timestamp ≤ stop.seconds then
        request.unfiltered.reportError error
      else none := by
  by_cases inside : start.seconds < error.timestamp ∧ error.timestamp ≤ stop.seconds
  · have kept : (⟨start, stop⟩ : TimestampFilter).skips { seconds := error.timestamp } = false := by
      simp only [TimestampFilter.skips, Bool.or_eq_false_iff, decide_eq_false_iff_not]
      omega
    rw [if_pos inside]
    simp only [reportError, windowed, unfiltered, Option.any_some, Option.any_none, kept]
    rfl
  · have skipped : (⟨start, stop⟩ : TimestampFilter).skips { seconds := error.timestamp } = true := by
      simp only [TimestampFilter.skips, Bool.or_eq_true, decide_eq_true_eq]
      omega
    rw [if_neg inside]
    simp only [reportError, windowed, Option.any_some, skipped, if_true]

theorem reportError_timestamp (request : GetErrorsRequest) (error : RasDaemonErrors.Error)
    (reported : ErrorInfo) (kept : request.reportError error = some reported) :
    reported.eventTimestamp.seconds = error.timestamp := by
  simp only [reportError] at kept
  split_ifs at kept <;> exact (Option.some.inj kept) ▸ rfl

end GetErrorsRequest

theorem gather_printed (parseTime : ParseTime) (runCommand : RunCommand) (report stderr : String)
    (printed : runCommand "30s" ["ras-mc-ctl", "--errors"] = .ok ⟨0, report, stderr⟩)
    (accepted : (parseErrorReport parseTime [] report).1 = .ok ()) :
    RasDaemonErrors.gather parseTime runCommand =
      .ok (parseErrorReport parseTime [] report).2 := by
  cases parsed : parseErrorReport parseTime [] report with
  | mk answer memoryErrors =>
      rw [parsed] at accepted
      obtain rfl : answer = .ok () := accepted
      simp only [RasDaemonErrors.gather, printed, bind, Except.bind, ne_eq, not_true_eq_false,
        if_false, parsed]

section Gathered

variable (parseTime : ParseTime) (runCommand : RunCommand)
  (memoryErrors : List RasDaemonErrors.Error)
  (gathered : RasDaemonErrors.gather parseTime runCommand = .ok memoryErrors)
include gathered

theorem getErrors_gathered (request : GetErrorsRequest)
    (nonempty : request.filter.filter (·.isEmpty) = none) :
    getErrors parseTime runCommand request =
      .ok ⟨(request.wanted memoryErrors).filterMap request.reportError⟩ := by
  unfold getErrors GetErrorsRequest.wanted
  rw [nonempty, gathered]
  cases infoTypeHave request.eventSources .memoryError <;> rfl

/-- The answer for a window is made of the errors in it. -/
theorem getErrors_windowed (request : GetErrorsRequest) (start stop : Timestamp)
    (present : start.seconds < stop.seconds) :
    getErrors parseTime runCommand (request.windowed start stop) =
      .ok ⟨(Window.within (·.timestamp) start.seconds stop.seconds
        (request.wanted memoryErrors)).filterMap request.unfiltered.reportError⟩ := by
  have nonempty : (⟨start, stop⟩ : TimestampFilter).isEmpty = false := by
    simp only [TimestampFilter.isEmpty, decide_eq_false_iff_not]
    omega
  have kept : (request.windowed start stop).filter.filter (·.isEmpty) = none := by
    simp only [GetErrorsRequest.windowed, Option.filter, nonempty]
    rfl
  rw [getErrors_gathered parseTime runCommand memoryErrors gathered _ kept]
  unfold Window.within
  rw [List.filterMap_filter]
  congr 2
  apply List.filterMap_congr
  intro error _
  rw [GetErrorsRequest.reportError_windowed]
  simp only [decide_eq_true_eq]

end Gathered

/-- The errors of the whole window up to its middle and after it are the answers for the parts. -/
def SplitAt (parseTime : ParseTime) (runCommand : RunCommand) (request : GetErrorsRequest)
    (start middle stop : Timestamp) : Prop :=
  ∃ whole first second : GetErrorsResponse,
    getErrors parseTime runCommand (request.windowed start stop) = .ok whole ∧
    getErrors parseTime runCommand (request.windowed start middle) = .ok first ∧
    getErrors parseTime runCommand (request.windowed middle stop) = .ok second ∧
    first.errors = whole.errors.filter (·.eventTimestamp.seconds ≤ middle.seconds) ∧
    second.errors = whole.errors.filter (·.eventTimestamp.seconds > middle.seconds)

/-- All errors lie after the start, up to the stop. -/
def HoldsAll (memoryErrors : List RasDaemonErrors.Error) (start stop : Timestamp) : Prop :=
  ∀ error ∈ memoryErrors, start.seconds < error.timestamp ∧ error.timestamp ≤ stop.seconds

/-- Consecutive windows lose no error and report none twice. -/
theorem errorWindows_partition (parseTime : ParseTime) (runCommand : RunCommand)
    (report stderr : String) (request : GetErrorsRequest)
    (printed : runCommand "30s" ["ras-mc-ctl", "--errors"] = .ok ⟨0, report, stderr⟩)
    (accepted : (parseErrorReport parseTime [] report).1 = .ok ()) :
    (∀ start middle stop : Timestamp, start.seconds < middle.seconds →
      middle.seconds < stop.seconds →
        SplitAt parseTime runCommand request start middle stop) ∧
    (∀ start stop : Timestamp, start.seconds < stop.seconds →
      HoldsAll (parseErrorReport parseTime [] report).2 start stop →
        getErrors parseTime runCommand (request.windowed start stop) =
          getErrors parseTime runCommand request.unfiltered) := by
  have gathered := gather_printed parseTime runCommand report stderr printed accepted
  have windows := getErrors_windowed parseTime runCommand _ gathered request
  constructor
  · intro start middle stop early late
    refine ⟨_, _, _, windows start stop (early.trans late), windows start middle early,
      windows middle stop late, ?_, ?_⟩
    · have split := Window.filter_filterMap_of_time _ _ _
        request.unfiltered.reportError_timestamp (fun time => decide (time ≤ middle.seconds))
      rw [split, Window.within_until _ _ _ _ late.le]
    · have split := Window.filter_filterMap_of_time _ _ _
        request.unfiltered.reportError_timestamp (fun time => decide (time > middle.seconds))
      rw [split, Window.within_after _ _ _ _ early.le]
  · intro start stop nonempty all
    have unskipped : request.unfiltered.filter.filter (·.isEmpty) = none := rfl
    have inside : HoldsAll (request.wanted (parseErrorReport parseTime [] report).2) start stop := by
      unfold GetErrorsRequest.wanted
      split
      · exact all
      · exact fun _ absent => absurd absent List.not_mem_nil
    rw [windows start stop nonempty, Window.within_all _ _ _ _ inside,
      getErrors_gathered parseTime runCommand _ gathered _ unskipped]
    rfl

/-- One error, in the second at which the window is cut. -/
def sampleReport : String :=
  "Memory controller events:\n" ++
  "1 2021-06-03 15:13:37 +0000 1 Fatal error(s): F at D location: 0\n\n"

/-- absl::ParseTime at the time of the report. -/
def sampleReportTime (_ text : String) : Except String Int :=
  if text = "2021-06-03 15:13:37 +0000" then .ok 1622733217
  else .error "Failed to parse input"

theorem errorWindows_partition_sample :
    SplitAt sampleReportTime (fun _ _ => .ok ⟨0, sampleReport, ""⟩) {} ⟨1622733216, 0⟩
      ⟨1622733217, 0⟩ ⟨1622733219, 0⟩ :=
  (errorWindows_partition sampleReportTime _ sampleReport "" {} rfl (by decide +kernel)).1 _ _ _
    (by decide) (by decide)

/-- A window without a second in it is refused, also when there is no error to report. -/
theorem errorWindows_not_empty :
    ¬ ∀ (parseTime : ParseTime) (runCommand : RunCommand) (report stderr : String)
      (request : GetErrorsRequest),
      runCommand "30s" ["ras-mc-ctl", "--errors"] = .ok ⟨0, report, stderr⟩ →
      (parseErrorReport parseTime [] report).1 = .ok () →
      (∀ start middle stop : Timestamp, start.seconds < middle.seconds →
        middle.seconds < stop.seconds →
          SplitAt parseTime runCommand request start middle stop) ∧
      (∀ start stop : Timestamp, HoldsAll (parseErrorReport parseTime [] report).2 start stop →
        getErrors parseTime runCommand (request.windowed start stop) =
          getErrors parseTime runCommand request.unfiltered) := by
  intro law
  have healthy : parseErrorReport sampleReportTime [] "No Memory errors.\n" = (.ok (), []) := by
    decide
  have window := (law sampleReportTime (fun _ _ => .ok ⟨0, "No Memory errors.\n", ""⟩)
    "No Memory errors.\n" "" {} rfl (by rw [healthy])).2 ⟨1, 0⟩ ⟨1, 0⟩
    (by rw [healthy]; exact fun _ absent => absurd absent List.not_mem_nil)
  exact absurd window (by decide)

end OcpDiag.HwInterface
