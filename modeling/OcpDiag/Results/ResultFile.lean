import OcpDiag.Lib.BufferedFile
import OcpDiag.Lib.Runs
import OcpDiag.Results.Process
import Mathlib.Logic.Function.Basic

set_option autoImplicit false

/- The file of the results: the flag that names it, the writer that the constructor of a TestRun
opens on it, and the process when it is not the first one. -/
namespace OcpDiag.Results

open BufferedFile

structure Flags where
  copyResultsToStdout : Bool := true
  binaryResultsFilepath : String := ""
  logToResults : Bool := true
  deriving DecidableEq, Repr

/-- The files of records, the file writer and the counter of the active run, and the globals of
test_run.cc. -/
structure FileProcess where
  files : String → Option (List (Option Pb.OutputArtifact))
  writer : Writer Pb.OutputArtifact := {}
  outputFilepath : String := ""
  sequenceNumber : IntIncrementer := {}
  initialized : Bool := false
  logSinkRegistered : Bool := false

/-- What the operating system does when a constructor opens its file. -/
structure Opening where
  opens : Bool
  status : String

namespace FileProcess

/-- ArtifactWriter::SetupRecordWriter; an opened file is truncated. -/
def setupRecordWriter (process : FileProcess) (outputFilepath : String) (opening : Opening) :
    FileProcess × Outcome Unit :=
  if outputFilepath.isEmpty then (process, .ok ())
  else
    (if opening.opens then
      { process with files := Function.update process.files outputFilepath (some []) }
    else process,
      check opening.opens "output_file_writer_.ok()" ("File writer error: " ++ opening.status))

/-- The constructor of the default writer, in the initializer list of the TestRun. -/
def newArtifactWriter (process : FileProcess) (flags : Flags) (opening : Opening) :
    FileProcess × Outcome Unit :=
  match check (!flags.binaryResultsFilepath.isEmpty || flags.copyResultsToStdout)
    "!output_filepath.empty() || output_stream_ != nullptr"
    ("Must specify a valid filepath or output stream (or both) when " ++
      "creating an artifact writer.") with
  | .ok () => process.setupRecordWriter flags.binaryResultsFilepath opening
  | failed => (process, failed)

/-- ArtifactWriter::Write, as far as the file goes; `taken` tells whether the record writer takes
the record. -/
def write (process : FileProcess) (artifact : Pb.OutputVariant) (now : Pb.Timestamp)
    (taken : Bool) : Outcome FileProcess := do
  let (number, sequenceNumber) ← process.sequenceNumber.next
  let record : Pb.OutputArtifact := ⟨artifact, number, now⟩
  return { process with
    sequenceNumber
    writer := if taken && !process.outputFilepath.isEmpty then process.writer.append record
      else process.writer }

/-- ArtifactWriter::FlushLocked. -/
def flush (process : FileProcess) : FileProcess :=
  if process.outputFilepath.isEmpty then process
  else
    { process with
      writer := process.writer.flush
      files := Function.update process.files process.outputFilepath
        ((process.files process.outputFilepath).map process.writer.flushInto) }

/-- The constructor of a TestRun without a writer of its own. -/
def newTestRun (process : FileProcess) (flags : Flags) (start : TestRunStart) (opening : Opening)
    (now : Pb.Timestamp) (taken : Bool) : FileProcess × Outcome Unit :=
  match process.newArtifactWriter flags opening with
  | (opened, .ok ()) =>
      match check (!opened.initialized) "!initialized"
        "Only one TestRun object can be active at a time within a program" with
      | .ok () =>
          let started : FileProcess := { opened with
            writer := {}
            outputFilepath := flags.binaryResultsFilepath
            sequenceNumber := {}
            initialized := true
            logSinkRegistered := flags.logToResults }
          match start.validateStructOrDie with
          | .ok () =>
              match started.write TestRun.schemaVersion now taken with
              | .ok written => (written, .ok ())
              | .die message => (started, .die message)
              | .undefined => (started, .undefined)
          | failed => (started, failed)
      | failed => (opened, failed)
  | (opened, failed) => (opened, failed)

/-- A failed CHECK: the log sinks get the message and are flushed, and the process ends. -/
def die (process : FileProcess) (message : String) (now : Pb.Timestamp) (taken : Bool) :
    Outcome FileProcess :=
  if process.logSinkRegistered then do
    let logged ← process.write (logSinkArtifact .fatal message) now taken
    return logged.flush
  else .ok process

/-- The process that an attempt to construct a TestRun ends, and its last message. -/
def abortedBy (process : FileProcess) (flags : Flags) (start : TestRunStart) (opening : Opening)
    (now : Pb.Timestamp) (taken : Bool) : Option (String × FileProcess) :=
  match process.newTestRun flags start opening now taken with
  | (after, .die message) => (after.die message now taken).toOption.map (fun last => (message, last))
  | _ => none

/-- What the active run does with its writer. -/
inductive Event where
  | write (artifact : Pb.OutputVariant) (now : Pb.Timestamp) (taken : Bool)
  | flush

def step (process : FileProcess) : Event → Option FileProcess
  | .write artifact now taken => (process.write artifact now taken).toOption
  | .flush => some process.flush

/-- The writer after a record that it takes or not. -/
def offered (process : FileProcess) (record : Pb.OutputArtifact) (taken : Bool) :
    Writer Pb.OutputArtifact :=
  if taken && !process.outputFilepath.isEmpty then process.writer.append record
  else process.writer

theorem write_eq_ok (process next : FileProcess) (artifact : Pb.OutputVariant)
    (now : Pb.Timestamp) (taken : Bool) :
    process.write artifact now taken = .ok next ↔
      process.sequenceNumber.count < intMax ∧
        next = { process with
          sequenceNumber := ⟨process.sequenceNumber.count + 1⟩
          writer := process.offered ⟨artifact, process.sequenceNumber.count, now⟩ taken } := by
  let written (number : Nat) (sequenceNumber : IntIncrementer) : FileProcess :=
    { process with
      sequenceNumber
      writer := process.offered ⟨artifact, number, now⟩ taken }
  exact process.sequenceNumber.next_bind_eq_ok written next

theorem offered_flushed (process : FileProcess) (record : Pb.OutputArtifact) (taken : Bool) :
    (process.offered record taken).flushed = process.writer.flushed := by
  unfold offered
  split <;> rfl

theorem mem_offered_buffered (process : FileProcess) (record other : Pb.OutputArtifact)
    (taken : Bool) (member : other ∈ (process.offered record taken).buffered) :
    other ∈ process.writer.buffered ∨ other = record := by
  unfold offered at member
  split at member
  next => simpa [Writer.append] using member
  next => exact .inl member

/-- A run is active whose file has what its writer has flushed; the records are numbered in the
order in which they were written. -/
structure Active (flags : Flags) (process : FileProcess) : Prop where
  initialized : process.initialized = true
  path : process.outputFilepath = flags.binaryResultsFilepath
  sink : process.logSinkRegistered = flags.logToResults
  file : ∃ content, process.files flags.binaryResultsFilepath = some content ∧
    process.writer.Holds content
  flushedBefore : ∀ record ∈ process.writer.flushed, ∀ other ∈ process.writer.buffered,
    record.sequenceNumber < other.sequenceNumber
  numbered : ∀ record ∈ process.writer.flushed ++ process.writer.buffered,
    record.sequenceNumber < (process.sequenceNumber.count : Int)

variable {flags : Flags} {process : FileProcess}

theorem Active.write (active : Active flags process) (artifact : Pb.OutputVariant)
    (now : Pb.Timestamp) (taken : Bool) (next : FileProcess)
    (written : process.write artifact now taken = .ok next) : Active flags next := by
  obtain ⟨-, rfl⟩ := (write_eq_ok process next artifact now taken).mp written
  have flushed := process.offered_flushed ⟨artifact, process.sequenceNumber.count, now⟩ taken
  refine ⟨active.initialized, active.path, active.sink, ?_, ?_, ?_⟩
  · obtain ⟨content, found, holds⟩ := active.file
    refine ⟨content, found, ?_⟩
    unfold Writer.Holds at holds ⊢
    rw [flushed, holds]
  · intro record isFlushed other isBuffered
    rw [flushed] at isFlushed
    rcases process.mem_offered_buffered _ _ _ isBuffered with earlier | rfl
    · exact active.flushedBefore record isFlushed other earlier
    · exact active.numbered record (List.mem_append_left _ isFlushed)
  · intro record member
    have before : ∀ other ∈ process.writer.flushed ++ process.writer.buffered,
        other.sequenceNumber < ((process.sequenceNumber.count + 1 : Nat) : Int) := by
      intro other isOther
      have number := active.numbered other isOther
      omega
    rcases List.mem_append.mp member with isFlushed | isBuffered
    · rw [flushed] at isFlushed
      exact before record (List.mem_append_left _ isFlushed)
    · rcases process.mem_offered_buffered _ _ _ isBuffered with earlier | rfl
      · exact before record (List.mem_append_right _ earlier)
      · change (process.sequenceNumber.count : Int) <
          ((process.sequenceNumber.count + 1 : Nat) : Int)
        omega

theorem Active.flush (active : Active flags process) : Active flags process.flush := by
  unfold FileProcess.flush
  split
  next => exact active
  next =>
      obtain ⟨content, found, holds⟩ := active.file
      refine ⟨active.initialized, active.path, active.sink, ?_, ?_, ?_⟩
      · refine ⟨process.writer.flushInto content, ?_, Writer.holds_flush _ _ holds⟩
        simp only [active.path, Function.update_self, found, Option.map_some]
      · intro record _ other isBuffered
        cases isBuffered
      · intro record member
        refine active.numbered record ?_
        simpa [Writer.flush] using member

theorem Active.step (active : Active flags process) (event : Event) (next : FileProcess)
    (stepped : process.step event = some next) : Active flags next := by
  cases event with
  | write artifact now taken =>
      exact active.write artifact now taken next ((Outcome.toOption_eq_some _ _).mp stepped)
  | flush =>
      obtain rfl := Option.some.inj stepped
      exact active.flush

/-- The file of the flag is empty after its writer is constructed. -/
theorem newArtifactWriter_ok (process opened : FileProcess) (flags : Flags) (opening : Opening)
    (named : flags.binaryResultsFilepath.isEmpty = false)
    (constructed : process.newArtifactWriter flags opening = (opened, .ok ())) :
    opened.files flags.binaryResultsFilepath = some [] := by
  unfold newArtifactWriter setupRecordWriter at constructed
  simp only [named, Bool.not_false, Bool.true_or, check_true, Bool.false_eq_true,
    if_false] at constructed
  obtain ⟨rfl, opens⟩ := Prod.mk.inj constructed
  rw [if_pos ((check_eq_ok _ _ _ _).mp opens)]
  exact Function.update_self ..

theorem newTestRun_active (process first : FileProcess) (flags : Flags) (start : TestRunStart)
    (opening : Opening) (now : Pb.Timestamp) (taken : Bool)
    (named : flags.binaryResultsFilepath.isEmpty = false)
    (constructed : process.newTestRun flags start opening now taken = (first, .ok ())) :
    Active flags first := by
  unfold newTestRun at constructed
  split at constructed
  next opened writerConstructed =>
      have file := newArtifactWriter_ok process opened flags opening named writerConstructed
      split at constructed
      next guarded =>
          simp only at constructed
          split at constructed
          next =>
              split at constructed
              next written schemaWritten =>
                  obtain ⟨rfl, -⟩ := Prod.mk.inj constructed
                  refine Active.write ?_ _ _ _ _ schemaWritten
                  refine ⟨rfl, rfl, rfl, ⟨[], file, rfl⟩, ?_, ?_⟩
                  · intro record isFlushed
                    cases isFlushed
                  · intro record member
                    cases member
              next => cases constructed
              next => cases constructed
          next failed => exact (failed (Prod.mk.inj constructed).2).elim
      next failed => exact (failed (Prod.mk.inj constructed).2).elim
  next opened outcome failed _ => exact (failed (Prod.mk.inj constructed).2).elim

def refusal (opening : Opening) : String :=
  if opening.opens then
    "Check failed: !initialized Only one TestRun object can be active at a time within a program"
  else "Check failed: output_file_writer_.ok() " ++ ("File writer error: " ++ opening.status)

/-- What an attempt finds while a run is active: the file truncated, where it can be opened, and
the guard, or a file that cannot be opened. -/
theorem newTestRun_refused (active : Active flags process) (start : TestRunStart)
    (opening : Opening) (now : Pb.Timestamp) (taken : Bool)
    (named : flags.binaryResultsFilepath.isEmpty = false) :
    process.newTestRun flags start opening now taken =
      (if opening.opens then
        { process with
          files := Function.update process.files flags.binaryResultsFilepath (some []) }
      else process, .die (refusal opening)) := by
  unfold newTestRun newArtifactWriter setupRecordWriter refusal
  cases opens : opening.opens with
  | true => simp [named, check, active.initialized]
  | false => simp [named, check]

/-- The record of the last message. -/
def lastRecord (process : FileProcess) (message : String) (now : Pb.Timestamp) :
    Pb.OutputArtifact :=
  ⟨logSinkArtifact .fatal message, process.sequenceNumber.count, now⟩

/-- Where the sink is registered the file gets what was still buffered and the last message. -/
theorem die_file_iff (process : FileProcess) (message : String) (now : Pb.Timestamp)
    (taken : Bool) (content after : List (Option Pb.OutputArtifact))
    (named : process.outputFilepath.isEmpty = false)
    (file : process.files process.outputFilepath = some content) :
    (∃ last, process.die message now taken = .ok last ∧
        last.files process.outputFilepath = some after) ↔
      (process.logSinkRegistered = true → process.sequenceNumber.count < intMax) ∧
        after = if process.logSinkRegistered then
          (process.offered (process.lastRecord message now) taken).flushInto content
        else content := by
  unfold die
  cases registered : process.logSinkRegistered with
  | false => simp [file, eq_comm]
  | true =>
      simp only [if_true, forall_const, Outcome.bind_eq_ok, Outcome.pure_eq_ok,
        Outcome.ok.injEq, write_eq_ok]
      constructor
      · rintro ⟨last, ⟨logged, ⟨inRange, rfl⟩, rfl⟩, found⟩
        refine ⟨inRange, ?_⟩
        simpa [flush, named, file, eq_comm, lastRecord] using found
      · rintro ⟨inRange, rfl⟩
        refine ⟨_, ⟨_, ⟨inRange, rfl⟩, rfl⟩, ?_⟩
        simp [flush, named, file, lastRecord]

/-- The process is aborted and its file has all that was flushed, in order. -/
def KeepsFlushed (process : FileProcess) (flags : Flags)
    (aborted : Option (String × FileProcess)) : Prop :=
  ∃ message last content, aborted = some (message, last) ∧
    last.files flags.binaryResultsFilepath = some content ∧
    (process.writer.flushed.map some).Sublist content

/-- What is flushed after the file became empty is other than what was flushed before. -/
theorem not_sublist_flushInto_nil (active : Active flags process) (message : String)
    (now : Pb.Timestamp) (taken : Bool) (nonempty : process.writer.flushed ≠ []) :
    ¬ (process.writer.flushed.map Option.some).Sublist
      ((process.offered (process.lastRecord message now) taken).flushInto []) := by
  intro kept
  obtain ⟨record, rest, flushed⟩ := List.exists_cons_of_ne_nil nonempty
  have isFlushed : record ∈ process.writer.flushed := by rw [flushed]; exact List.mem_cons_self
  refine Writer.not_mem_flushInto_nil _ record ?_ (kept.subset (List.mem_map_of_mem isFlushed))
  intro isBuffered
  have number := active.numbered record (List.mem_append_left _ isFlushed)
  rcases process.mem_offered_buffered _ _ _ isBuffered with earlier | same
  · have later := active.flushedBefore record isFlushed record earlier
    omega
  · rw [same] at number
    exact absurd number (Int.lt_irrefl _)

/-- The attempt dies in a process that differs from the one before in its files alone. -/
theorem keepsFlushed_iff_sublist (active : Active flags process) (start : TestRunStart)
    (opening : Opening) (now : Pb.Timestamp) (taken : Bool) (files : String → Option _)
    (content : List (Option Pb.OutputArtifact))
    (named : flags.binaryResultsFilepath.isEmpty = false)
    (file : files flags.binaryResultsFilepath = some content)
    (refused : process.newTestRun flags start opening now taken =
      ({ process with files }, .die (refusal opening))) :
    KeepsFlushed process flags (process.abortedBy flags start opening now taken) ↔
      (flags.logToResults = true → process.sequenceNumber.count < intMax) ∧
        (process.writer.flushed.map some).Sublist (if flags.logToResults then
          (process.offered (process.lastRecord (refusal opening) now) taken).flushInto content
        else content) := by
  have dies (after : List (Option Pb.OutputArtifact)) :=
    die_file_iff { process with files } (refusal opening) now taken content after
      (by rw [active.path, named]) ((congrArg files active.path).trans file)
  unfold KeepsFlushed abortedBy
  simp only [refused, Option.map_eq_some_iff, Outcome.toOption_eq_some, Prod.mk.injEq]
  rw [← active.path, ← active.sink]
  constructor
  · rintro ⟨message, last, after, ⟨_, died, rfl, rfl⟩, found, kept⟩
    obtain ⟨inRange, rfl⟩ := (dies after).mp ⟨_, died, found⟩
    exact ⟨inRange, kept⟩
  · rintro ⟨inRange, kept⟩
    obtain ⟨last, died, found⟩ := (dies _).mpr ⟨inRange, rfl⟩
    exact ⟨_, last, _, ⟨last, died, rfl, rfl⟩, found, kept⟩

theorem abortedBy_keepsFlushed_iff (active : Active flags process) (start : TestRunStart)
    (opening : Opening) (now : Pb.Timestamp) (taken : Bool)
    (named : flags.binaryResultsFilepath.isEmpty = false) :
    KeepsFlushed process flags (process.abortedBy flags start opening now taken) ↔
      (opening.opens = false ∨ process.writer.flushed = []) ∧
        (flags.logToResults = true → process.sequenceNumber.count < intMax) := by
  have refused := newTestRun_refused active start opening now taken named
  cases opens : opening.opens with
  | true =>
      rw [opens, if_pos rfl] at refused
      rw [keepsFlushed_iff_sublist active start opening now taken _ [] named
        (Function.update_self ..) refused, and_comm]
      refine and_congr_left fun _ => ?_
      simp only [Bool.true_eq_false, false_or]
      constructor
      · intro kept
        by_contra some
        split at kept
        next => exact not_sublist_flushInto_nil active _ _ _ some kept
        next => exact some (List.map_eq_nil_iff.mp (List.eq_nil_of_sublist_nil kept))
      · intro nothing
        rw [nothing]
        exact List.nil_sublist _
  | false =>
      obtain ⟨content, file, holds⟩ := active.file
      rw [opens, if_neg Bool.false_ne_true] at refused
      rw [keepsFlushed_iff_sublist active start opening now taken _ content named file refused,
        and_comm]
      refine and_congr_left fun _ => iff_of_true ?_ (.inl rfl)
      split
      next =>
          have same := process.offered_flushed (process.lastRecord (refusal opening) now) taken
          have offeredHolds : (process.offered (process.lastRecord (refusal opening) now)
              taken).Holds content := by
            unfold Writer.Holds at holds ⊢
            rw [same, holds]
          rw [Writer.holds_flush _ _ offeredHolds, Writer.flush, same, List.map_append]
          exact List.sublist_append_left _ _
      next => rw [← holds]

end FileProcess

/-- A second run is refused without harm exactly when the file can no longer be opened, or there
is nothing in it yet, and the counter of the last message does not overflow. -/
theorem secondRun_keepsFlushed_iff (initial first process : FileProcess) (flags : Flags)
    (firstStart start : TestRunStart) (firstOpening opening : Opening)
    (firstNow now : Pb.Timestamp) (firstTaken taken : Bool)
    (events : List FileProcess.Event)
    (named : flags.binaryResultsFilepath.isEmpty = false)
    (constructed :
      initial.newTestRun flags firstStart firstOpening firstNow firstTaken = (first, .ok ()))
    (reached : Runs.run FileProcess.step first events = some process) :
    FileProcess.KeepsFlushed process flags
        (process.abortedBy flags start opening now taken) ↔
      (opening.opens = false ∨ process.writer.flushed = []) ∧
        (flags.logToResults = true → process.sequenceNumber.count < intMax) := by
  have active : FileProcess.Active flags process :=
    Runs.run_preserves FileProcess.step (FileProcess.Active flags)
      (fun _ event next active stepped => active.step event next stepped) first process events
      (FileProcess.newTestRun_active initial first flags firstStart firstOpening firstNow
        firstTaken named constructed) reached
  exact FileProcess.abortedBy_keepsFlushed_iff active start opening now taken named

def sampleFlags : Flags where
  binaryResultsFilepath := "/tmp/results"

/-- A first run on a file that did not exist. -/
def sampleFirst : FileProcess :=
  (({ files := fun _ => none } : FileProcess).newTestRun sampleFlags sampleTestRunStart ⟨true, ""⟩
    {} true).1

theorem sampleFirst_constructed :
    ({ files := fun _ => none } : FileProcess).newTestRun sampleFlags sampleTestRunStart
      ⟨true, ""⟩ {} true = (sampleFirst, .ok ()) := rfl

theorem sampleFlags_named : sampleFlags.binaryResultsFilepath.isEmpty = false := by decide

theorem secondRun_keepsFlushed_iff_removed :
    FileProcess.KeepsFlushed sampleFirst.flush sampleFlags
      (sampleFirst.flush.abortedBy sampleFlags sampleTestRunStart
        ⟨false, "No such file or directory"⟩ {} true) :=
  (secondRun_keepsFlushed_iff _ _ sampleFirst.flush sampleFlags sampleTestRunStart
    sampleTestRunStart ⟨true, ""⟩ ⟨false, "No such file or directory"⟩ {} {} true true [.flush]
    sampleFlags_named sampleFirst_constructed rfl).mpr ⟨.inl rfl, fun _ => by decide⟩

/-- The schema version of the first run is gone when the second one is refused. -/
theorem secondRun_not_keepsFlushed :
    ¬ ∀ (initial first process : FileProcess) (flags : Flags) (firstStart start : TestRunStart)
      (firstOpening opening : Opening) (firstNow now : Pb.Timestamp) (firstTaken taken : Bool)
      (events : List FileProcess.Event), flags.binaryResultsFilepath.isEmpty = false →
      initial.newTestRun flags firstStart firstOpening firstNow firstTaken = (first, .ok ()) →
      Runs.run FileProcess.step first events = some process →
      FileProcess.KeepsFlushed process flags
        (process.abortedBy flags start opening now taken) := by
  intro kept
  have active : FileProcess.Active sampleFlags sampleFirst.flush :=
    (FileProcess.newTestRun_active _ _ _ _ _ _ _ sampleFlags_named sampleFirst_constructed).flush
  have keeps := kept _ _ sampleFirst.flush sampleFlags sampleTestRunStart sampleTestRunStart
    ⟨true, ""⟩ ⟨true, ""⟩ {} {} true true [.flush] sampleFlags_named sampleFirst_constructed rfl
  obtain ⟨unharmed, -⟩ := (FileProcess.abortedBy_keepsFlushed_iff active sampleTestRunStart
    ⟨true, ""⟩ {} true sampleFlags_named).mp keeps
  rcases unharmed with closed | empty
  · cases closed
  · exact List.cons_ne_nil _ _ empty

end OcpDiag.Results
