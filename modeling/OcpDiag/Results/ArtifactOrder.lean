import OcpDiag.Results.ArtifactWriter

set_option autoImplicit false

namespace OcpDiag.Results

open ThreadPool CriticalSection

namespace ArtifactWriter

variable (backend : WriterBackend)

/-- The lines that the conversions of the artifacts give. -/
def jsonLines (artifacts : List Pb.OutputArtifact) : List String :=
  artifacts.filterMap fun artifact => (backend.messageToJsonString artifact).toOption

/-- A writer with a file and a stream has written the log to both. -/
structure Shows (log : ArtifactLog) (writer : ArtifactWriter) : Prop where
  path : writer.outputFilepath.isEmpty = false
  sequenceNumber : writer.sequenceNumber = log.sequenceNumber
  file : writer.outputFile = log.written.filter backend.writeRecord
  stream : writer.outputStream = some (jsonLines backend log.written)

/-- Where the writer is while a thread is in a call that started when it showed the log. -/
def Within (log : ArtifactLog) (call : Call) (writer : ArtifactWriter) : Option Frame → Prop
  | some (.setTimestamp artifact) =>
      ∃ variant, call = .write variant ∧ artifact = { artifact := variant } ∧
        Shows backend log writer
  | some (.setSequenceNumber artifact) =>
      ∃ variant now, call = .write variant ∧ artifact = ⟨variant, 0, now⟩ ∧ Shows backend log writer
  | some (.toFile artifact) =>
      ∃ variant now next, call = .write variant ∧ log.write variant now = .ok next ∧
        artifact = ⟨variant, log.sequenceNumber.count, now⟩ ∧
        Shows backend log { writer with sequenceNumber := log.sequenceNumber } ∧
        writer.sequenceNumber = next.sequenceNumber
  | some (.toStream artifact) =>
      ∃ variant now next, call = .write variant ∧ log.write variant now = .ok next ∧
        artifact = ⟨variant, log.sequenceNumber.count, now⟩ ∧
        Shows backend next { writer with outputStream := some (jsonLines backend next.written) } ∧
        writer.outputStream = some (jsonLines backend log.written)
  | some .flushLocked => call = .flush ∧ Shows backend log writer
  | none =>
      (call = .flush ∧ Shows backend log writer) ∨
      ∃ variant now next, call = .write variant ∧ log.write variant now = .ok next ∧
        Shows backend next writer

theorem within_of_steps (log : ArtifactLog) (call : Call) (start writer : ArtifactWriter)
    (frame : Option Frame) (shows_log : Shows backend log start)
    (steps : Steps (monitor backend) start call writer frame) :
    Within backend log call writer frame := by
  induction steps with
  | enter =>
      cases call with
      | write variant => exact ⟨variant, rfl, rfl, shows_log⟩
      | flush => exact ⟨rfl, shows_log⟩
  | advance now writer next frame after _ moved ih =>
      cases frame with
      | setTimestamp artifact =>
          obtain ⟨variant, rfl, rfl, shown⟩ := ih
          obtain ⟨rfl, rfl⟩ := Prod.mk.inj (Option.some.inj moved)
          exact ⟨variant, now, rfl, rfl, shown⟩
      | setSequenceNumber artifact =>
          obtain ⟨variant, stamp, rfl, rfl, shown⟩ := ih
          simp only [monitor, micro] at moved
          split at moved
          · rename_i number counter drawn
            obtain ⟨inRange, rfl, rfl⟩ := (IntIncrementer.next_eq_ok _ _ _).mp drawn
            obtain ⟨rfl, rfl⟩ := Prod.mk.inj (Option.some.inj moved)
            have same := shown.sequenceNumber
            refine ⟨variant, stamp, _, rfl,
              (ArtifactLog.write_eq_ok _ _ _ _).mpr ⟨same ▸ inRange, rfl⟩, by rw [same],
              ⟨shown.path, rfl, shown.file, shown.stream⟩, by rw [same]⟩
          · cases moved
      | toFile artifact =>
          obtain ⟨variant, stamp, logged, rfl, wrote, rfl, shown, counter⟩ := ih
          obtain ⟨rfl, rfl⟩ := Prod.mk.inj (Option.some.inj moved)
          have path : writer.outputFilepath.isEmpty = false := shown.path
          have file : writer.outputFile = log.written.filter backend.writeRecord := shown.file
          obtain ⟨_, rfl⟩ := (ArtifactLog.write_eq_ok _ _ _ _).mp wrote
          refine ⟨variant, stamp, _, rfl, wrote, rfl, ?_, ?_⟩
          · by_cases taken :
              backend.writeRecord ⟨variant, log.sequenceNumber.count, stamp⟩ <;>
            refine ⟨?_, ?_, ?_, rfl⟩ <;>
            simp [writeToFile, path, taken, counter, file]
          · simp only [writeToFile, path, Bool.false_eq_true, ↓reduceIte]
            split <;> exact shown.stream
      | toStream artifact =>
          obtain ⟨variant, stamp, logged, rfl, wrote, rfl, shown, stream⟩ := ih
          obtain ⟨rfl, rfl⟩ := Prod.mk.inj (Option.some.inj moved)
          refine Or.inr ⟨variant, stamp, logged, rfl, wrote, ?_⟩
          obtain ⟨_, rfl⟩ := (ArtifactLog.write_eq_ok _ _ _ _).mp wrote
          simp only [writeToStream, stream]
          cases converted :
            backend.messageToJsonString ⟨variant, log.sequenceNumber.count, stamp⟩ with
          | ok json =>
              refine ⟨shown.path, shown.sequenceNumber, shown.file, ?_⟩
              simp [jsonLines, converted, Except.toOption]
          | error status =>
              refine ⟨shown.path, shown.sequenceNumber, shown.file, ?_⟩
              simp [jsonLines, converted, Except.toOption, stream]
      | flushLocked =>
          obtain ⟨rfl, shown⟩ := ih
          obtain ⟨rfl, rfl⟩ := Prod.mk.inj (Option.some.inj moved)
          exact Or.inl ⟨rfl, shown⟩

def writesOf (calls : List Call) : List Pb.OutputVariant :=
  calls.filterMap fun
    | .write artifact => some artifact
    | .flush => none

/-- What a thread has written, in order. -/
def artifactsOf (thread : ThreadId) (order : List (ThreadId × Pb.OutputArtifact)) :
    List Pb.OutputVariant :=
  (order.filter (·.1 == thread)).map (·.2.artifact)

/-- An entry's place is its number, and the entries of a thread are the writes it called. -/
structure Ordered (history : List (ThreadId × Call))
    (order : List (ThreadId × Pb.OutputArtifact)) (log : ArtifactLog) : Prop where
  written : log.written = order.map (·.2)
  count : log.sequenceNumber.count = order.length
  numbered : ∀ (k : Nat) entry, order[k]? = some entry → entry.2.sequenceNumber = (k : Int)
  programs : ∀ thread, writesOf (callsOf thread history) = artifactsOf thread order

theorem writesOf_append (first second : List Call) :
    writesOf (first ++ second) = writesOf first ++ writesOf second :=
  List.filterMap_append

theorem artifactsOf_snoc (thread caller : ThreadId) (artifact : Pb.OutputArtifact)
    (order : List (ThreadId × Pb.OutputArtifact)) :
    artifactsOf thread (order ++ [(caller, artifact)]) =
      artifactsOf thread order ++ if caller = thread then [artifact.artifact] else [] := by
  by_cases same : caller = thread <;> simp [artifactsOf, List.filter_append, same]

theorem numbered_snoc (order : List (ThreadId × Pb.OutputArtifact)) (caller : ThreadId)
    (artifact : Pb.OutputArtifact) (number : artifact.sequenceNumber = (order.length : Int))
    (numbered : ∀ (k : Nat) entry, order[k]? = some entry → entry.2.sequenceNumber = (k : Int)) :
    ∀ (k : Nat) entry, (order ++ [(caller, artifact)])[k]? = some entry →
      entry.2.sequenceNumber = (k : Int) := by
  intro k entry found
  rcases Nat.lt_trichotomy k order.length with below | equal | above
  · rw [List.getElem?_append_left below] at found
    exact numbered k entry found
  · rw [equal, List.getElem?_concat_length] at found
    obtain rfl := Option.some.inj found
    rw [equal, number]
  · rw [List.getElem?_eq_none (by simp; omega)] at found
    cases found

/-- A write adds one entry, under the number that is its place. -/
theorem ordered_write (history : List (ThreadId × Call))
    (order : List (ThreadId × Pb.OutputArtifact)) (log next : ArtifactLog) (thread : ThreadId)
    (variant : Pb.OutputVariant) (now : Pb.Timestamp) (ordered : Ordered history order log)
    (wrote : log.write variant now = .ok next) :
    Ordered (history ++ [(thread, .write variant)])
      (order ++ [(thread, ⟨variant, log.sequenceNumber.count, now⟩)]) next := by
  obtain ⟨_, rfl⟩ := (ArtifactLog.write_eq_ok _ _ _ _).mp wrote
  refine ⟨by simp [ordered.written], by simp [ordered.count], ?_, fun other => ?_⟩
  · exact numbered_snoc order thread _ (by simp [ordered.count]) ordered.numbered
  · rw [callsOf_snoc, artifactsOf_snoc]
    by_cases same : thread = other
    · simp only [same, ↓reduceIte, writesOf_append, ordered.programs other]
      rfl
    · simp only [same, ↓reduceIte, ordered.programs other, List.append_nil]

theorem ordered_flush (history : List (ThreadId × Call))
    (order : List (ThreadId × Pb.OutputArtifact)) (log : ArtifactLog) (thread : ThreadId)
    (ordered : Ordered history order log) :
    Ordered (history ++ [(thread, .flush)]) order log := by
  refine ⟨ordered.written, ordered.count, ordered.numbered, fun other => ?_⟩
  rw [callsOf_snoc]
  split
  · rw [writesOf_append, ordered.programs other]
    exact List.append_nil _
  · exact ordered.programs other

/-- Complete calls in any order leave the writer showing a log that has them all. -/
theorem serial_ordered (init writer : ArtifactWriter) (history : List (ThreadId × Call))
    (fresh : Shows backend {} init) (serial : Serial (monitor backend) init history writer) :
    ∃ order log, Ordered history order log ∧ Shows backend log writer := by
  induction serial with
  | nil => exact ⟨[], {}, ⟨rfl, rfl, by simp, fun _ => rfl⟩, fresh⟩
  | snoc history thread call before after _ steps ih =>
      obtain ⟨order, log, ordered, shown⟩ := ih
      rcases within_of_steps backend log call before after none shown steps with
        ⟨rfl, shown⟩ | ⟨variant, now, next, rfl, wrote, shown⟩
      · exact ⟨order, log, ordered_flush history order log thread ordered, shown⟩
      · exact ⟨_, next, ordered_write history order log next thread variant now ordered wrote,
          shown⟩

/-- The list holds the artifacts of all threads under their numbers. The file shows it as far
as records are taken; the stream shows it as far as conversions succeed, and may lag behind
by the artifact that the holder of the mutex is just writing. The list has each thread's
artifacts in the order of its program, up to the calls it has yet to make or to finish. -/
structure GlobalOrder (programs : ThreadId → List Call)
    (pool : Pool (Guarded ArtifactWriter) (Worker Call Frame))
    (order : List (ThreadId × Pb.OutputArtifact)) : Prop where
  numbered : ∀ (k : Nat) entry, order[k]? = some entry → entry.2.sequenceNumber = (k : Int)
  file : pool.shared.object.outputFile = (order.map (·.2)).filter backend.writeRecord
  stream : pool.shared.object.outputStream = some (jsonLines backend (order.map (·.2))) ∨
    ∃ earlier holder last, order = earlier ++ [(holder, last)] ∧
      pool.shared.lock = some holder ∧
      pool.shared.object.outputStream = some (jsonLines backend (earlier.map (·.2)))
  programs : ∀ thread, ∃ pending,
    writesOf (programs thread) =
      artifactsOf thread order ++ pending ++ writesOf (pool.frames thread).todo ∧
    pending.length ≤ 1 ∧ (pending ≠ [] → pool.shared.lock = some thread)

section Holder

variable (programs : ThreadId → List Call) (holder : ThreadId) (call : Call)
  (writer : ArtifactWriter) (frames : ThreadId → Worker Call Frame)
  (history : List (ThreadId × Call)) (order : List (ThreadId × Pb.OutputArtifact))
  (log : ArtifactLog) (ordered : Ordered history order log)
  (mine : programs holder = callsOf holder history ++ call :: (frames holder).todo)
  (others : ∀ thread, thread ≠ holder → (frames thread).inside = none ∧
    programs thread = callsOf thread history ++ (frames thread).todo)

include ordered mine others

/-- Until its record is offered to the file, the holder's artifact is still to come. -/
theorem globalOrder_of_unwritten
    (file : writer.outputFile = log.written.filter backend.writeRecord)
    (stream : writer.outputStream = some (jsonLines backend log.written)) :
    GlobalOrder backend programs ⟨⟨some holder, writer⟩, frames⟩ order := by
  refine ⟨ordered.numbered, ordered.written ▸ file, Or.inl (ordered.written ▸ stream),
    fun thread => ?_⟩
  by_cases same : thread = holder
  · subst same
    refine ⟨writesOf [call], ?_, ?_, fun _ => rfl⟩
    · rw [mine, ← ordered.programs thread, List.append_assoc, ← writesOf_append,
        ← writesOf_append]
      rfl
    · cases call <;> simp [writesOf]
  · refine ⟨[], ?_, by simp, by simp⟩
    rw [(others thread same).2, writesOf_append, ordered.programs thread, List.append_nil]

/-- After that only the stream can be behind. -/
theorem globalOrder_of_recorded (next : ArtifactLog) (variant : Pb.OutputVariant)
    (now : Pb.Timestamp) (called : call = .write variant)
    (wrote : log.write variant now = .ok next)
    (file : writer.outputFile = next.written.filter backend.writeRecord)
    (stream : writer.outputStream = some (jsonLines backend log.written)) :
    GlobalOrder backend programs ⟨⟨some holder, writer⟩, frames⟩
      (order ++ [(holder, ⟨variant, log.sequenceNumber.count, now⟩)]) := by
  have ordered' := ordered_write history order log next holder variant now ordered wrote
  refine ⟨ordered'.numbered, ordered'.written ▸ file,
    Or.inr ⟨order, holder, _, rfl, rfl, ordered.written ▸ stream⟩, fun thread => ?_⟩
  refine ⟨[], ?_, by simp, by simp⟩
  rw [← ordered'.programs thread, callsOf_snoc, List.append_nil, ← writesOf_append]
  by_cases same : thread = holder
  · subst same
    simp [mine, called]
  · simp only [Ne.symm same, ↓reduceIte, (others thread same).2]

end Holder

/-- Whatever the interleaving of the writing threads, there is one order of the artifacts. -/
theorem one_global_order (outputFilepath : String) (path : outputFilepath.isEmpty = false)
    (programs : ThreadId → List Call)
    (pool : Pool (Guarded ArtifactWriter) (Worker Call Frame))
    (labels : List (ThreadId × Action Pb.Timestamp))
    (reached : Runs.run (poolStep (exec (monitor backend)))
      ⟨⟨none, { outputFilepath, outputStream := some [] }⟩,
        fun thread => ⟨programs thread, none⟩⟩ labels = some pool) :
    ∃ order, GlobalOrder backend programs pool order := by
  obtain ⟨history, object, serial, shape⟩ :=
    serialized_run (monitor backend) _ programs pool labels reached
  obtain ⟨order, log, ordered, shown⟩ :=
    serial_ordered backend _ object history ⟨path, rfl, rfl, rfl⟩ serial
  obtain ⟨⟨lock, writer⟩, frames⟩ := pool
  cases lock with
  | none =>
      obtain ⟨rfl, idle⟩ := shape
      refine ⟨order, ordered.numbered, ordered.written ▸ shown.file,
        Or.inl (ordered.written ▸ shown.stream), fun thread => ⟨[], ?_, by simp, by simp⟩⟩
      rw [(idle thread).2, writesOf_append, ordered.programs thread, List.append_nil]
  | some holder =>
      obtain ⟨call, frame, _, steps, mine, others⟩ := shape
      have within := within_of_steps backend log call object writer (some frame) shown steps
      have unwritten := globalOrder_of_unwritten backend programs holder call writer frames history
        order log ordered mine others
      cases frame with
      | setTimestamp artifact =>
          obtain ⟨_, _, _, shown⟩ := within
          exact ⟨order, unwritten shown.file shown.stream⟩
      | setSequenceNumber artifact =>
          obtain ⟨_, _, _, _, shown⟩ := within
          exact ⟨order, unwritten shown.file shown.stream⟩
      | toFile artifact =>
          obtain ⟨_, _, _, _, _, _, shown, _⟩ := within
          exact ⟨order, unwritten shown.file shown.stream⟩
      | flushLocked => exact ⟨order, unwritten within.2.file within.2.stream⟩
      | toStream artifact =>
          obtain ⟨variant, now, next, called, wrote, _, shown, stream⟩ := within
          exact ⟨_, globalOrder_of_recorded backend programs holder call writer frames history
            order log ordered mine others next variant now called wrote shown.file stream⟩

/-- A backend that loses the second record. -/
def sampleBackend : WriterBackend where
  writeRecord artifact := artifact.sequenceNumber != 1
  messageToJsonString artifact := .ok (toString artifact.sequenceNumber)

def samplePrograms : ThreadId → List Call
  | 0 => [.write (.schemaVersion ⟨2, 0⟩), .flush]
  | 1 => [.write (.testRunArtifact (.log ⟨.INFO, "up"⟩))]
  | _ => []

/-- Both threads write; the first is then at its flush. -/
def sampleLabels : List (ThreadId × Action Pb.Timestamp) :=
  [(1, .acquire), (1, .advance ⟨5, 0⟩), (1, .advance {}), (1, .advance {}), (1, .advance {}),
    (0, .acquire), (0, .advance ⟨6, 0⟩), (0, .advance {}), (0, .advance {}), (0, .advance {}),
    (0, .acquire)]

theorem one_global_order_sampleLabels :
    ∃ pool, Runs.run (poolStep (exec (monitor sampleBackend)))
        ⟨⟨none, { outputFilepath := "results", outputStream := some [] }⟩,
          fun thread => ⟨samplePrograms thread, none⟩⟩ sampleLabels = some pool ∧
      pool.shared.object.outputStream = some ["0", "1"] ∧
      ∃ order, GlobalOrder sampleBackend samplePrograms pool order :=
  ⟨_, rfl, rfl, one_global_order sampleBackend "results" (by decide) samplePrograms _ sampleLabels
    rfl⟩

end ArtifactWriter

end OcpDiag.Results
