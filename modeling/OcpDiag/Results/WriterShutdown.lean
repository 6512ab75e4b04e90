import Mathlib.Tactic.SplitIfs
import OcpDiag.Results.ArtifactWriter

set_option autoImplicit false

/- The end of an artifact writer: its clients, the thread that flushes every minute, and the
destructor. -/
namespace OcpDiag.Results.WriterShutdown

open ThreadPool ArtifactWriter

/-- Who may hold the mutex. -/
inductive Party where
  | client (thread : ThreadId)
  | flusher
  | destructor
  deriving DecidableEq, Repr

/-- A call of the record writer. -/
inductive FileCall where
  | writeRecord (artifact : Pb.OutputArtifact)
  | flush
  | close

/-- A client thread in a call of the writer, before it has the mutex and after. -/
inductive ClientAt where
  | calling (call : ArtifactWriter.Call)
  | inside (frame : ArtifactWriter.Frame)

/-- Where the thread is in FlushEveryMinute. There is none without a file or a period. -/
inductive FlushThread where
  | absent
  | starting
  | testing
  | waiting
  | flushing
  | leaving
  | done
  deriving DecidableEq, Repr

inductive Destructor where
  | notStarted
  | locking
  | locked
  | stopped
  | closed
  | joining
  | done
  deriving DecidableEq, Repr

structure State where
  holder : Option Party := none
  flushEachMinute : Bool
  stopFlushRoutine : Bool := false
  writer : ArtifactWriter
  fileCalls : List FileCall := []
  clients : ThreadId → Option ClientAt := fun _ => none
  /-- The artifacts of the Write() calls that have returned. -/
  written : List Pb.OutputArtifact := []
  flusher : FlushThread
  destructor : Destructor := .notStarted

/-- After the constructor, with the flush thread on its way. -/
def start (outputFilepath : String) (outputStream : Option (List String))
    (flushEachMinute : Bool) : State where
  flushEachMinute
  writer := { outputFilepath, outputStream }
  flusher := if outputFilepath.isEmpty || !flushEachMinute then .absent else .starting

inductive Label where
  | call (thread : ThreadId) (call : ArtifactWriter.Call)
  | client (thread : ThreadId) (now : Pb.Timestamp)
  | flusher
  | destructor

/-- The call of the record writer at a point of Write() or Flush(), when there is a file. -/
def fileCalls (writer : ArtifactWriter) (frame : ArtifactWriter.Frame) : List FileCall :=
  if writer.outputFilepath.isEmpty then []
  else
    match frame with
    | .toFile artifact => [.writeRecord artifact]
    | .flushLocked => [.flush]
    | _ => []

/-- The artifact of a Write() that returns. -/
def returned : ArtifactWriter.Frame → List Pb.OutputArtifact
  | .toStream artifact => [artifact]
  | _ => []

variable (backend : WriterBackend)

/-- The mutex is released with the last statement of a call. -/
def clientStep (thread : ThreadId) (now : Pb.Timestamp) (state : State) : Option State :=
  match state.clients thread with
  | none => none
  | some (.calling call) =>
      if state.holder = none then
        some { state with
          holder := some (.client thread)
          clients := Function.update state.clients thread (some (.inside (enter call))) }
      else none
  | some (.inside frame) =>
      (micro backend now state.writer frame).map fun (writer, after) =>
        { state with
          holder := if after.isSome then state.holder else none
          writer
          fileCalls := state.fileCalls ++ fileCalls state.writer frame
          clients := Function.update state.clients thread (after.map .inside)
          written := state.written ++ if after.isSome then [] else returned frame }

/-- AwaitWithTimeout() returns at once where the condition holds. Else it gives the mutex away, and
returns whether the condition holds when it has the mutex again, for whatever reason it wakes. -/
def flusherStep (state : State) : Option State :=
  match state.flusher with
  | .starting =>
      if state.holder = none then
        some { state with holder := some .flusher, flusher := .testing }
      else none
  | .testing =>
      if state.stopFlushRoutine then some { state with flusher := .leaving }
      else some { state with holder := none, flusher := .waiting }
  | .waiting =>
      if state.holder = none then
        some { state with
          holder := some .flusher
          flusher := if state.stopFlushRoutine then .leaving else .flushing }
      else none
  | .flushing =>
      some { state with
        fileCalls := state.fileCalls ++ fileCalls state.writer .flushLocked
        flusher := .testing }
  | .leaving => some { state with holder := none, flusher := .done }
  | .absent | .done => none

def destructorStep (state : State) : Option State :=
  match state.destructor with
  | .notStarted => some { state with destructor := .locking }
  | .locking =>
      if state.holder = none then
        some { state with holder := some .destructor, destructor := .locked }
      else none
  | .locked => some { state with stopFlushRoutine := true, destructor := .stopped }
  | .stopped =>
      if state.writer.outputFilepath.isEmpty then
        some { state with holder := none, destructor := .done }
      else
        some { state with fileCalls := state.fileCalls ++ [.close], destructor := .closed }
  | .closed =>
      if state.flushEachMinute then some { state with holder := none, destructor := .joining }
      else some { state with holder := none, destructor := .done }
  | .joining =>
      if state.flusher = .done then some { state with destructor := .done } else none
  | .done => none

def step (state : State) : Label → Option State
  | .call thread call =>
      match state.clients thread with
      | none =>
          some { state with
            clients := Function.update state.clients thread (some (.calling call)) }
      | some _ => none
  | .client thread now => clientStep backend thread now state
  | .flusher => flusherStep state
  | .destructor => destructorStep state

/-- The clients return from their calls before the destruction begins, and make no calls after. -/
def ClientsReturn (state : State) : Label → Prop
  | .call _ _ => state.destructor = .notStarted
  | .destructor => state.destructor = .notStarted → ∀ thread, state.clients thread = none
  | _ => True

/-- The points with the mutex. -/
def FlushThread.holds : FlushThread → Bool
  | .testing | .flushing | .leaving => true
  | _ => false

def FlushThread.inLoop : FlushThread → Bool
  | .testing | .waiting | .flushing => true
  | _ => false

def Destructor.holds : Destructor → Bool
  | .locked | .stopped | .closed => true
  | _ => false

def Destructor.hasStopped : Destructor → Bool
  | .stopped | .closed | .joining | .done => true
  | _ => false

def Destructor.hasClosed : Destructor → Bool
  | .closed | .joining | .done => true
  | _ => false

def Destructor.hasReleased : Destructor → Bool
  | .joining | .done => true
  | _ => false

/-- The artifact has been given to the record writer, which holds it if it took it. -/
structure InFile (calls : List FileCall) (records : List Pb.OutputArtifact)
    (artifact : Pb.OutputArtifact) : Prop where
  called : .writeRecord artifact ∈ calls
  taken : backend.writeRecord artifact = true → artifact ∈ records

/-- The only Close is the last call. -/
def ClosedLast (calls : List FileCall) : Prop :=
  ∃ before, calls = before ++ [.close] ∧ .close ∉ before

structure Inv (state : State) : Prop where
  path : state.writer.outputFilepath.isEmpty = false
  client : ∀ thread frame, state.clients thread = some (.inside frame) →
    state.holder = some (.client thread)
  flusher : state.flusher.holds = true ↔ state.holder = some .flusher
  destructor : state.destructor.holds = true → state.holder = some .destructor
  stopped : state.destructor.hasStopped = state.stopFlushRoutine
  unflushed : state.flusher = .flushing → state.stopFlushRoutine = false
  alone : state.destructor ≠ .notStarted → ∀ thread, state.clients thread = none
  file : .close ∉ state.fileCalls ∨
    state.destructor.hasClosed = true ∧ ClosedLast state.fileCalls
  sent : ∀ thread artifact, state.clients thread = some (.inside (.toStream artifact)) →
    InFile backend state.fileCalls state.writer.outputFile artifact
  written : ∀ artifact ∈ state.written,
    InFile backend state.fileCalls state.writer.outputFile artifact

variable {backend} {state next : State}

theorem inv_start (outputFilepath : String) (outputStream : Option (List String))
    (flushEachMinute : Bool) (named : outputFilepath.isEmpty = false) :
    Inv backend (start outputFilepath outputStream flushEachMinute) := by
  have outside : (start outputFilepath outputStream flushEachMinute).flusher.holds = false := by
    unfold start
    split <;> rfl
  have unflushed : (start outputFilepath outputStream flushEachMinute).flusher ≠ .flushing := by
    intro same
    rw [same] at outside
    cases outside
  constructor <;> simp_all [start, Destructor.holds, Destructor.hasStopped]

/-- A client in a call keeps the destructor away. -/
theorem Inv.notStarted_of_client (inv : Inv backend state) {thread : ThreadId} {at_ : ClientAt}
    (busy : state.clients thread = some at_) : state.destructor = .notStarted := by
  by_contra started
  rw [inv.alone started thread] at busy
  cases busy

theorem Inv.open_of_notStarted (inv : Inv backend state)
    (fresh : state.destructor = .notStarted) : .close ∉ state.fileCalls := by
  rcases inv.file with unclosed | ⟨closed, -⟩
  · exact unclosed
  · rw [fresh] at closed
    cases closed

theorem inv_call {thread : ThreadId} {call : ArtifactWriter.Call} (inv : Inv backend state)
    (meets : state.destructor = .notStarted)
    (stepped : step backend state (.call thread call) = some next) : Inv backend next := by
  unfold step at stepped
  cases idle : state.clients thread with
  | some at_ => simp [idle] at stepped
  | none =>
      simp only [idle, Option.some.injEq] at stepped
      subst stepped
      refine ⟨inv.path, ?_, inv.flusher, inv.destructor, inv.stopped, inv.unflushed,
        fun started => absurd meets started, inv.file, ?_, inv.written⟩
      · intro other frame inside
        by_cases same : other = thread
        · subst same
          simp at inside
        · exact inv.client other frame (by simpa [same] using inside)
      · intro other artifact inside
        by_cases same : other = thread
        · subst same
          simp at inside
        · exact inv.sent other artifact (by simpa [same] using inside)

theorem InFile.append {calls more : List FileCall} {records others : List Pb.OutputArtifact}
    {artifact : Pb.OutputArtifact} (present : InFile backend calls records artifact) :
    InFile backend (calls ++ more) (records ++ others) artifact :=
  ⟨List.mem_append_left _ present.called,
    fun taken => List.mem_append_left _ (present.taken taken)⟩

/-- The records that a statement adds to the file. -/
def newRecords (backend : WriterBackend) : ArtifactWriter.Frame → List Pb.OutputArtifact
  | .toFile artifact => if backend.writeRecord artifact then [artifact] else []
  | _ => []

/-- What one statement does, as far as the file is concerned. -/
theorem micro_file {now : Pb.Timestamp} {writer after : ArtifactWriter}
    {frame : ArtifactWriter.Frame} {rest : Option ArtifactWriter.Frame} (path : writer.outputFilepath.isEmpty = false)
    (moved : micro backend now writer frame = some (after, rest)) :
    after.outputFilepath = writer.outputFilepath ∧
      after.outputFile = writer.outputFile ++ newRecords backend frame ∧
      ∀ artifact, rest = some (.toStream artifact) → frame = .toFile artifact := by
  cases frame with
  | setTimestamp artifact =>
      obtain ⟨rfl, rfl⟩ := Prod.mk.inj (Option.some.inj moved)
      simp [newRecords]
  | setSequenceNumber artifact =>
      simp only [micro] at moved
      split at moved
      · obtain ⟨rfl, rfl⟩ := Prod.mk.inj (Option.some.inj moved)
        simp [newRecords]
      · cases moved
  | toFile artifact =>
      obtain ⟨rfl, rfl⟩ := Prod.mk.inj (Option.some.inj moved)
      unfold writeToFile newRecords
      rw [path]
      by_cases taken : backend.writeRecord artifact = true <;> simp [taken]
  | toStream artifact =>
      obtain ⟨rfl, rfl⟩ := Prod.mk.inj (Option.some.inj moved)
      unfold writeToStream newRecords
      cases writer.outputStream with
      | none => simp
      | some lines => cases backend.messageToJsonString artifact <;> simp
  | flushLocked =>
      obtain ⟨rfl, rfl⟩ := Prod.mk.inj (Option.some.inj moved)
      simp [newRecords]

theorem fileCalls_open (writer : ArtifactWriter) (frame : ArtifactWriter.Frame) :
    .close ∉ fileCalls writer frame := by
  unfold fileCalls
  split
  · simp
  · cases frame <;> simp

/-- A client takes the mutex. -/
theorem inv_enter {thread : ThreadId} {call : ArtifactWriter.Call} (inv : Inv backend state)
    (calling : state.clients thread = some (.calling call)) (free : state.holder = none) :
    Inv backend { state with
      holder := some (.client thread)
      clients := Function.update state.clients thread (some (.inside (enter call))) } := by
  have fresh := inv.notStarted_of_client calling
  have outside : state.flusher.holds = false := by
    rw [Bool.eq_false_iff, ne_eq, inv.flusher, free]
    simp
  refine ⟨inv.path, ?_, ?_, ?_, inv.stopped, inv.unflushed, fun started => absurd fresh started,
    inv.file, ?_, inv.written⟩
  · intro other frame inside
    by_cases same : other = thread
    · rw [same]
    · have held := inv.client other frame (by simpa [same] using inside)
      rw [free] at held
      cases held
  · simp [outside]
  · intro holds
    rw [fresh] at holds
    cases holds
  · intro other artifact inside
    by_cases same : other = thread
    · subst same
      cases call <;> simp [enter] at inside
    · exact inv.sent other artifact (by simpa [same] using inside)

/-- A client executes one statement under the mutex. -/
theorem inv_inside {thread : ThreadId} {now : Pb.Timestamp} {frame : ArtifactWriter.Frame}
    {writer : ArtifactWriter} {rest : Option ArtifactWriter.Frame} (inv : Inv backend state)
    (inside : state.clients thread = some (.inside frame))
    (moved : micro backend now state.writer frame = some (writer, rest)) :
    Inv backend { state with
      holder := if rest.isSome then state.holder else none
      writer
      fileCalls := state.fileCalls ++ fileCalls state.writer frame
      clients := Function.update state.clients thread (rest.map .inside)
      written := state.written ++ if rest.isSome then [] else returned frame } := by
  have fresh := inv.notStarted_of_client inside
  have held := inv.client thread frame inside
  obtain ⟨samePath, file, toStream⟩ := micro_file inv.path moved
  have grown (artifact : Pb.OutputArtifact)
      (present : InFile backend state.fileCalls state.writer.outputFile artifact) :
      InFile backend (state.fileCalls ++ fileCalls state.writer frame) writer.outputFile
        artifact := file ▸ present.append
  have outside : state.flusher.holds = false := by
    rw [Bool.eq_false_iff, ne_eq, inv.flusher, held]
    simp
  refine ⟨samePath ▸ inv.path, ?_, ?_, ?_, inv.stopped, inv.unflushed,
    fun started => absurd fresh started, .inl ?_, ?_, ?_⟩
  · intro other later inside'
    by_cases same : other = thread
    · subst same
      cases rest with
      | none => simp at inside'
      | some frame' => simpa using held
    · have heldToo := inv.client other later (by simpa [same] using inside')
      rw [held] at heldToo
      exact absurd (Party.client.inj (Option.some.inj heldToo)).symm same
  · cases rest <;> simp [outside, held]
  · intro holds
    rw [fresh] at holds
    cases holds
  · rw [List.mem_append, not_or]
    exact ⟨inv.open_of_notStarted fresh, fileCalls_open state.writer frame⟩
  · intro other artifact streams
    by_cases same : other = thread
    · subst same
      have next : rest = some (.toStream artifact) := by
        cases rest with
        | none => simp at streams
        | some frame' => simpa using streams
      obtain rfl := toStream artifact next
      refine ⟨?_, fun taken => ?_⟩
      · simp [fileCalls, inv.path]
      · simp [file, newRecords, taken]
    · exact grown artifact (inv.sent other artifact (by simpa [same] using streams))
  · intro artifact member
    rcases List.mem_append.mp member with before | now'
    · exact grown artifact (inv.written artifact before)
    · cases frame with
      | toStream other =>
          cases rest with
          | some frame' => simp at now'
          | none =>
              obtain rfl : artifact = other := by simpa [returned] using now'
              exact grown artifact (inv.sent thread artifact inside)
      | _ => split at now' <;> simp [returned] at now'

theorem inv_client {thread : ThreadId} {now : Pb.Timestamp} (inv : Inv backend state)
    (stepped : clientStep backend thread now state = some next) : Inv backend next := by
  unfold clientStep at stepped
  split at stepped
  · cases stepped
  · next call calling =>
      split_ifs at stepped with free
      obtain rfl := Option.some.inj stepped
      exact inv_enter inv calling free
  · next frame inside =>
      obtain ⟨⟨writer, rest⟩, moved, rfl⟩ := Option.map_eq_some_iff.mp stepped
      exact inv_inside inv inside moved

/-- The flush thread moves without a call of the record writer. -/
theorem inv_flusher_moves {holder : Option Party} {flusher : FlushThread}
    (inv : Inv backend state)
    (mine : state.holder = none ∨ state.holder = some .flusher)
    (holds : flusher.holds = true ↔ holder = some .flusher)
    (unflushed : flusher = .flushing → state.stopFlushRoutine = false) :
    Inv backend { state with holder, flusher } := by
  have noClient (thread : ThreadId) : state.holder ≠ some (.client thread) := by
    rcases mine with free | held
    · simp [free]
    · simp [held]
  have noDestructor : state.holder ≠ some .destructor := by
    rcases mine with free | held
    · simp [free]
    · simp [held]
  refine ⟨inv.path, ?_, holds, ?_, inv.stopped, unflushed, inv.alone, inv.file, inv.sent,
    inv.written⟩
  · intro thread frame inside
    exact absurd (inv.client thread frame inside) (noClient thread)
  · intro destroys
    exact absurd (inv.destructor destroys) noDestructor

theorem hasStopped_of_hasClosed {destructor : Destructor} (closed : destructor.hasClosed = true) :
    destructor.hasStopped = true := by
  cases destructor <;> first | rfl | cases closed

theorem inv_flusher_flush (inv : Inv backend state) (flushing : state.flusher = .flushing) :
    Inv backend { state with
      fileCalls := state.fileCalls ++ fileCalls state.writer .flushLocked
      flusher := .testing } := by
  have held : state.holder = some .flusher := inv.flusher.mp (by rw [flushing]; rfl)
  have running := inv.unflushed flushing
  have unclosed : .close ∉ state.fileCalls := by
    rcases inv.file with unclosed | ⟨closed, -⟩
    · exact unclosed
    · have stopped := hasStopped_of_hasClosed closed
      rw [inv.stopped, running] at stopped
      cases stopped
  have grown (artifact : Pb.OutputArtifact)
      (present : InFile backend state.fileCalls state.writer.outputFile artifact) :
      InFile backend (state.fileCalls ++ fileCalls state.writer .flushLocked)
        state.writer.outputFile artifact :=
    ⟨List.mem_append_left _ present.called, present.taken⟩
  refine ⟨inv.path, inv.client, ?_, inv.destructor, inv.stopped, nofun, inv.alone, .inl ?_,
    fun thread artifact inside => grown artifact (inv.sent thread artifact inside),
    fun artifact member => grown artifact (inv.written artifact member)⟩
  · simp [FlushThread.holds, held]
  · rw [List.mem_append, not_or]
    exact ⟨unclosed, fileCalls_open state.writer .flushLocked⟩

theorem inv_flusher (inv : Inv backend state) (stepped : flusherStep state = some next) :
    Inv backend next := by
  unfold flusherStep at stepped
  split at stepped
  · next starting =>
      split_ifs at stepped with free
      obtain rfl := Option.some.inj stepped
      exact inv_flusher_moves inv (.inl free) (by simp [FlushThread.holds]) nofun
  · next testing =>
      have held : state.holder = some .flusher := inv.flusher.mp (by rw [testing]; rfl)
      split_ifs at stepped
      · obtain rfl := Option.some.inj stepped
        exact inv_flusher_moves inv (.inr held) (by simp [FlushThread.holds, held]) nofun
      · obtain rfl := Option.some.inj stepped
        exact inv_flusher_moves inv (.inr held) (by simp [FlushThread.holds]) nofun
  · next waiting =>
      split_ifs at stepped with free stop
      · obtain rfl := Option.some.inj stepped
        exact inv_flusher_moves inv (.inl free) (by simp [FlushThread.holds]) nofun
      · obtain rfl := Option.some.inj stepped
        exact inv_flusher_moves inv (.inl free) (by simp [FlushThread.holds])
          (fun _ => by simpa using stop)
  · next flushing =>
      obtain rfl := Option.some.inj stepped
      exact inv_flusher_flush inv flushing
  · next leaving =>
      have held : state.holder = some .flusher := inv.flusher.mp (by rw [leaving]; rfl)
      obtain rfl := Option.some.inj stepped
      exact inv_flusher_moves inv (.inr held) (by simp [FlushThread.holds]) nofun
  · cases stepped
  · cases stepped

/-- The destructor moves without a call of the record writer. -/
theorem inv_destructor_moves {holder : Option Party} {stop : Bool} {destructor : Destructor}
    (inv : Inv backend state) (alone : ∀ thread, state.clients thread = none)
    (flusher : state.flusher.holds = true ↔ holder = some .flusher)
    (holds : destructor.holds = true → holder = some .destructor)
    (stopped : destructor.hasStopped = stop)
    (unflushed : state.flusher = .flushing → stop = false)
    (closed : state.destructor.hasClosed = true → destructor.hasClosed = true) :
    Inv backend { state with holder, stopFlushRoutine := stop, destructor } := by
  refine ⟨inv.path, ?_, flusher, holds, stopped, unflushed, fun _ => alone, ?_, inv.sent,
    inv.written⟩
  · intro thread frame inside
    rw [alone thread] at inside
    cases inside
  · rcases inv.file with unclosed | ⟨wasClosed, last⟩
    · exact .inl unclosed
    · exact .inr ⟨closed wasClosed, last⟩

theorem inv_destructor (inv : Inv backend state)
    (meets : state.destructor = .notStarted → ∀ thread, state.clients thread = none)
    (stepped : destructorStep state = some next) : Inv backend next := by
  have alone : ∀ thread, state.clients thread = none := by
    by_cases fresh : state.destructor = .notStarted
    · exact meets fresh
    · exact inv.alone fresh
  have apart (held : state.holder = some .destructor) : state.flusher.holds = false := by
    rw [Bool.eq_false_iff, ne_eq, inv.flusher, held]
    simp
  have stopped := inv.stopped
  unfold destructorStep at stepped
  split at stepped
  · next notStarted =>
      obtain rfl := Option.some.inj stepped
      rw [notStarted] at stopped
      exact inv_destructor_moves inv alone inv.flusher nofun stopped inv.unflushed
        (by simp [notStarted, Destructor.hasClosed])
  · next locking =>
      split_ifs at stepped with free
      obtain rfl := Option.some.inj stepped
      rw [locking] at stopped
      have outside : state.flusher.holds = false := by
        rw [Bool.eq_false_iff, ne_eq, inv.flusher, free]
        simp
      exact inv_destructor_moves inv alone (by simp [outside]) (fun _ => rfl) stopped inv.unflushed
        (by simp [locking, Destructor.hasClosed])
  · next locked =>
      obtain rfl := Option.some.inj stepped
      have held := inv.destructor (by rw [locked]; rfl)
      have unflushed : state.flusher ≠ .flushing := by
        intro same
        have outside := apart held
        rw [same] at outside
        cases outside
      exact inv_destructor_moves inv alone inv.flusher (fun _ => held) rfl
        (fun same => absurd same unflushed) (by simp [locked, Destructor.hasClosed])
  · next stoppedNow =>
      have held := inv.destructor (by rw [stoppedNow]; rfl)
      rw [if_neg (by simp [inv.path])] at stepped
      obtain rfl := Option.some.inj stepped
      rw [stoppedNow] at stopped
      have unclosed : .close ∉ state.fileCalls := by
        rcases inv.file with unclosed | ⟨closed, -⟩
        · exact unclosed
        · rw [stoppedNow] at closed
          cases closed
      have grown (artifact : Pb.OutputArtifact)
          (present : InFile backend state.fileCalls state.writer.outputFile artifact) :
          InFile backend (state.fileCalls ++ [.close]) state.writer.outputFile artifact :=
        ⟨List.mem_append_left _ present.called, present.taken⟩
      exact ⟨inv.path, inv.client, inv.flusher, fun _ => held, stopped, inv.unflushed,
        fun _ => alone, .inr ⟨rfl, state.fileCalls, rfl, unclosed⟩,
        fun thread artifact inside => grown artifact (inv.sent thread artifact inside),
        fun artifact member => grown artifact (inv.written artifact member)⟩
  · next closed =>
      have held := inv.destructor (by rw [closed]; rfl)
      rw [closed] at stopped
      split_ifs at stepped
      · obtain rfl := Option.some.inj stepped
        exact inv_destructor_moves inv alone (by simp [apart held]) nofun stopped inv.unflushed
          (fun _ => rfl)
      · obtain rfl := Option.some.inj stepped
        exact inv_destructor_moves inv alone (by simp [apart held]) nofun stopped inv.unflushed
          (fun _ => rfl)
  · next joining =>
      rw [joining] at stopped
      split_ifs at stepped
      obtain rfl := Option.some.inj stepped
      exact inv_destructor_moves inv alone inv.flusher nofun stopped inv.unflushed (fun _ => rfl)
  · cases stepped

theorem inv_step (label : Label) (meets : ClientsReturn state label) (inv : Inv backend state)
    (stepped : step backend state label = some next) : Inv backend next := by
  cases label with
  | call thread call => exact inv_call inv meets stepped
  | client thread now => exact inv_client inv stepped
  | flusher => exact inv_flusher inv stepped
  | destructor => exact inv_destructor inv meets stepped

/-- Nothing reaches the record writer after its Close. -/
def UnusedAfterClose (calls : List FileCall) : Prop :=
  ∀ before after, calls = before ++ .close :: after → after = []

theorem unusedAfterClose_of_inv (inv : Inv backend state) : UnusedAfterClose state.fileCalls := by
  rintro before after same
  rcases inv.file with unclosed | ⟨-, first, last, unclosed⟩
  · rw [same] at unclosed
    exact absurd (by simp) unclosed
  · rcases List.eq_nil_or_concat after with nothing | ⟨others, call, rfl⟩
    · exact nothing
    · have ends : first ++ [.close] = (before ++ .close :: others) ++ [call] := by
        rw [← last, same]
        simp
      obtain ⟨rfl, -⟩ := List.append_inj' ends rfl
      exact absurd (by simp) unclosed

/-- The flush thread is not about to flush, and its next step in the loop leaves it. The step is
possible as soon as the mutex is free. -/
structure FlusherEnds (state : State) : Prop where
  noFlush : state.flusher ≠ .flushing
  leaves : state.flusher.inLoop = true → ∀ next, flusherStep state = some next →
    next.flusher = .leaving
  possible : state.flusher.inLoop = true → state.holder = none ∨ state.holder = some .flusher →
    ∃ next, flusherStep state = some next

theorem flusherEnds_of_inv (inv : Inv backend state)
    (released : state.destructor.hasReleased = true) : FlusherEnds state := by
  have stop : state.stopFlushRoutine = true := by
    rw [← inv.stopped]
    cases at_ : state.destructor <;> rw [at_] at released <;> first | rfl | cases released
  have noFlush : state.flusher ≠ .flushing := by
    intro flushing
    have running := inv.unflushed flushing
    rw [stop] at running
    cases running
  have inside (inLoop : state.flusher.inLoop = true) :
      state.flusher = .testing ∨ state.flusher = .waiting := by
    cases at_ : state.flusher <;> rw [at_] at inLoop noFlush <;> simp_all [FlushThread.inLoop]
  refine ⟨noFlush, ?_, ?_⟩
  · intro inLoop next stepped
    rcases inside inLoop with testing | waiting
    · simp only [flusherStep, testing, stop, if_true, Option.some.injEq] at stepped
      rw [← stepped]
    · simp only [flusherStep, waiting, stop, if_true] at stepped
      split_ifs at stepped
      obtain rfl := Option.some.inj stepped
      rfl
  · intro inLoop mutex
    rcases inside inLoop with testing | waiting
    · simp [flusherStep, testing, stop]
    · have free : state.holder = none := by
        rcases mutex with free | held
        · exact free
        · have holds := inv.flusher.mpr held
          rw [waiting] at holds
          cases holds
      simp [flusherStep, waiting, free]

/-- What is true of a writer at every moment of its life. -/
structure ClosesCleanly (backend : WriterBackend) (state : State) : Prop where
  unused : UnusedAfterClose state.fileCalls
  complete : .close ∈ state.fileCalls → ∀ artifact ∈ state.written,
    InFile backend state.fileCalls state.writer.outputFile artifact
  ends : state.destructor.hasReleased = true → FlusherEnds state

/-- Every interleaving of the clients, the flush thread and the destructor keeps the record writer
from being used after it is closed. -/
theorem closesCleanly (backend : WriterBackend) (outputFilepath : String)
    (outputStream : Option (List String)) (flushEachMinute : Bool)
    (named : outputFilepath.isEmpty = false) (labels : List Label) (state : State)
    (meets : Runs.Meets (step backend) ClientsReturn
      (start outputFilepath outputStream flushEachMinute) labels)
    (reached : Runs.run (step backend) (start outputFilepath outputStream flushEachMinute) labels =
      some state) : ClosesCleanly backend state := by
  have inv : Inv backend state :=
    Runs.run_preserves_of_meets (step backend) ClientsReturn (Inv backend)
      (fun _ label _ meets inv stepped => inv_step label meets inv stepped) _ _ labels meets
      (inv_start outputFilepath outputStream flushEachMinute named) reached
  exact ⟨unusedAfterClose_of_inv inv, fun _ => inv.written, flusherEnds_of_inv inv⟩

/-- A record writer that takes every artifact. -/
def takesAll : WriterBackend where
  writeRecord _ := true
  messageToJsonString _ := .ok "\x7b\x7d"

/-- A client writes, the flush thread starts, waits, times out and flushes, and the destructor
runs while it waits again. -/
def lifeLabels : List Label :=
  .call 0 (.write (.schemaVersion {})) :: List.replicate 5 (.client 0 {}) ++
    List.replicate 5 .flusher ++ List.replicate 5 .destructor ++ [.flusher, .flusher, .destructor]

theorem closesCleanly_life :
    ∃ state, Runs.run (step takesAll) (start "out.riegeli" none true) lifeLabels = some state ∧
      ClosesCleanly takesAll state := by
  have meets : Runs.Meets (step takesAll) ClientsReturn (start "out.riegeli" none true)
      lifeLabels := by
    unfold lifeLabels
    refine Runs.meets_of_step rfl rfl ?_
    iterate 10 refine Runs.meets_of_step trivial rfl ?_
    refine Runs.meets_of_step (fun _ thread => ?_) rfl ?_
    · by_cases same : thread = 0
      · rw [same]
        rfl
      · simp [same, start]
    iterate 4 refine Runs.meets_of_step nofun rfl ?_
    iterate 2 refine Runs.meets_of_step trivial rfl ?_
    exact Runs.meets_of_step nofun rfl trivial
  exact ⟨_, rfl, closesCleanly takesAll "out.riegeli" none true (by decide) lifeLabels _ meets rfl⟩

end OcpDiag.Results.WriterShutdown
