import OcpDiag.Results.Mutexes

set_option autoImplicit false

/- Only one DutInfo exists at a time. Once a run is started the run has it, so that no second one
can be passed to StartAndRegisterDutInfo(). -/
namespace OcpDiag.Results

open ThreadPool

namespace Process

structure OneDutInfo (process : Process) : Prop where
  unique : ∀ first second, process.dutOwner first ≠ .nobody →
    process.dutOwner second ≠ .nobody → first = second
  singleton : ∀ dutInfo, process.dutOwner dutInfo ≠ .nobody → process.singletonInitialized = true
  registered : process.run.started = true → process.run.lifetime ≠ .destroyed →
    ∃ dutInfo, process.run.dutInfo = some dutInfo ∧ process.dutOwner dutInfo = .run
  unregistered : process.run.started = false → process.run.dutInfo = none

/-- A DutInfo that a thread has been handed is its own, and there is none to replace. -/
def Passes (process : Process) (thread : ThreadId) : Frame → Prop
  | .run (.startAndRegisterDutInfo (some dutInfo)) | .run (.notifyStartRun dutInfo) =>
      process.dutOwner dutInfo = .passed thread
  | .run (.destroyPreviousDutInfo _) => False
  | _ => True

def KeepsPassed (thread : ThreadId) (before after : Process) : Prop :=
  ∀ dutInfo other, other ≠ thread → before.dutOwner dutInfo = .passed other →
    after.dutOwner dutInfo = .passed other

theorem passes_of_keepsPassed {before after : Process} {thread other : ThreadId} {frame : Frame}
    (different : other ≠ thread) (keeps : KeepsPassed thread before after)
    (passes : before.Passes other frame) : after.Passes other frame := by
  cases frame with
  | run frame =>
      cases frame with
      | startAndRegisterDutInfo dutInfo =>
          cases dutInfo with
          | none => trivial
          | some dutInfo => exact keeps dutInfo other different passes
      | notifyStartRun dutInfo => exact keeps dutInfo other different passes
      | destroyPreviousDutInfo previous => exact passes
      | _ => trivial
  | _ => trivial

/-- A step that leaves the DutInfos with those who have them. -/
theorem oneDutInfo_of_same {process next : Process} (one : process.OneDutInfo)
    (owner : next.dutOwner = process.dutOwner)
    (singleton : next.singletonInitialized = process.singletonInitialized)
    (started : next.run.started = process.run.started)
    (dutInfo : next.run.dutInfo = process.run.dutInfo)
    (lifetime : process.run.lifetime = .destroyed → next.run.lifetime = .destroyed) :
    next.OneDutInfo := by
  refine ⟨?_, ?_, ?_, ?_⟩
  · rw [owner]
    exact one.unique
  · rw [owner, singleton]
    exact one.singleton
  · rw [owner, started, dutInfo]
    exact fun isStarted alive => one.registered isStarted fun gone => alive (lifetime gone)
  · rw [started, dutInfo]
    exact one.unregistered

theorem keepsPassed_of_same {process next : Process} {thread : ThreadId}
    (owner : next.dutOwner = process.dutOwner) : KeepsPassed thread process next :=
  fun _ _ _ passed => owner ▸ passed

/-- The one DutInfo is given away. -/
theorem one_setDutOwner {process : Process} {dutInfo : DutRef} (one : process.OneDutInfo)
    (owner : DutOwner) (owned : process.dutOwner dutInfo ≠ .nobody) :
    (∀ first second, Function.update process.dutOwner dutInfo owner first ≠ .nobody →
      Function.update process.dutOwner dutInfo owner second ≠ .nobody → first = second) ∧
    (∀ other, other ≠ dutInfo →
      Function.update process.dutOwner dutInfo owner other = .nobody) := by
  have rest : ∀ other, other ≠ dutInfo →
      Function.update process.dutOwner dutInfo owner other = .nobody := by
    intro other different
    rw [Function.update_of_ne different]
    by_contra alive
    exact different (one.unique other dutInfo alive owned)
  refine ⟨fun first second alive also => ?_, rest⟩
  have here : ∀ other, Function.update process.dutOwner dutInfo owner other ≠ .nobody →
      other = dutInfo := fun other lives => by_contra fun different => lives (rest other different)
  rw [here first alive, here second also]

theorem deliver_dutOwner {process next : Process} {severity : AbslSeverity} {message : String}
    {now : Pb.Timestamp} (delivered : process.deliver severity message now = .ok next) :
    next.dutOwner = process.dutOwner ∧ next.singletonInitialized = process.singletonInitialized := by
  rcases deliver_spec _ _ _ _ _ delivered with rfl | ⟨_, wrote⟩
  · exact ⟨rfl, rfl⟩
  · exact (write_spec _ _ _ _ _ wrote).2.2.2

theorem oneDutInfo_of_deliver {process next : Process} {severity : AbslSeverity}
    {message : String} {now : Pb.Timestamp} (one : process.OneDutInfo)
    (delivered : process.deliver severity message now = .ok next) : next.OneDutInfo := by
  obtain ⟨owner, singleton⟩ := deliver_dutOwner delivered
  have same := deliver_same delivered
  exact oneDutInfo_of_same one owner singleton (by rw [same.run]) (by rw [same.run])
    (by rw [same.run]; exact id)

theorem perform_dutOwner {settings : Settings} {process next : Process} {origin : Origin}
    {now : Pb.Timestamp} {request : Request}
    (performed : process.perform settings origin now request = .ok next)
    (register : ∀ dutInfo, request ≠ .registerDutInfo dutInfo)
    (destroy : ∀ dutInfo, request ≠ .destroyDutInfo dutInfo) :
    next.dutOwner = process.dutOwner ∧ next.singletonInitialized = process.singletonInitialized := by
  cases request with
  | write artifact => exact (write_spec _ _ _ _ _ performed).2.2.2
  | notify event =>
      obtain ⟨calculator, _, rfl⟩ := perform_notify performed
      exact ⟨rfl, rfl⟩
  | registerDutInfo dutInfo => exact absurd rfl (register dutInfo)
  | finalize =>
      obtain ⟨calculator, _, rfl⟩ := perform_finalize performed
      exact ⟨rfl, rfl⟩
  | checkAndSetInitializationGuard =>
      obtain ⟨_, rfl⟩ := perform_checkAndSetInitializationGuard performed
      exact ⟨rfl, rfl⟩
  | addLogSink =>
      obtain rfl := Outcome.ok.inj performed
      split <;> exact ⟨rfl, rfl⟩
  | removeLogSink =>
      obtain rfl := Outcome.ok.inj performed
      split <;> exact ⟨rfl, rfl⟩
  | destroyDutInfo dutInfo => exact absurd rfl (destroy dutInfo)
  | _ =>
      obtain rfl := Outcome.ok.inj performed
      exact ⟨rfl, rfl⟩

theorem begins_oneDutInfo {settings : Settings} {thread : ThreadId} {now : Pb.Timestamp}
    {process next : Process} {call : Call} {frame : Frame} (one : process.OneDutInfo)
    (begins : Begins settings thread now process call next frame) :
    next.OneDutInfo ∧ next.Passes thread frame ∧ KeepsPassed thread process next := by
  cases begins with
  | newTestRun unborn =>
      refine ⟨oneDutInfo_of_same one rfl rfl rfl rfl fun gone => ?_, trivial,
        keepsPassed_of_same rfl⟩
      rw [unborn] at gone
      cases gone
  | onRun call entered entry live =>
      refine ⟨one, ?_, fun _ _ _ passed => passed⟩
      cases call with
      | startAndRegisterDutInfo dutInfo =>
          cases dutInfo with
          | none =>
              cases entry
              trivial
          | some dutInfo => cases entry
      | _ =>
          cases entry
          all_goals trivial
  | startAndRegisterDutInfo dutInfo live owned =>
      have alive : process.dutOwner dutInfo ≠ .nobody := by simp [owned]
      obtain ⟨unique, others⟩ := one_setDutOwner one (.passed thread) alive
      refine ⟨⟨unique, fun _ _ => one.singleton dutInfo alive, fun started remains => ?_,
        one.unregistered⟩, Function.update_self .., fun other threadId _ passed => ?_⟩
      · obtain ⟨mine, registered, owner⟩ := one.registered started remains
        have same := one.unique mine dutInfo (by simp [owner]) alive
        rw [same, owned] at owner
        cases owner
      · have same := one.unique other dutInfo (by simp [passed]) alive
        rw [same, owned] at passed
        cases passed
  | deleteTestRun live =>
      refine ⟨oneDutInfo_of_same one rfl rfl rfl rfl fun gone => ?_, trivial,
        keepsPassed_of_same rfl⟩
      rw [live] at gone
      cases gone
  | newDutInfo name id free =>
      have nothing : ∀ other, process.dutOwner other = .nobody := by
        intro other
        by_contra alive
        rw [one.singleton other alive] at free
        cases free
      refine ⟨⟨fun first second alive also => ?_, fun _ _ => rfl, fun started remains => ?_,
        one.unregistered⟩, trivial, fun other threadId _ passed => ?_⟩
      · have here : ∀ other, Function.update process.dutOwner process.dutCount .caller other ≠
            .nobody → other = process.dutCount := by
          intro other lives
          by_contra different
          rw [Function.update_of_ne different] at lives
          exact lives (nothing other)
        rw [here first alive, here second also]
      · obtain ⟨mine, _, owner⟩ := one.registered started remains
        rw [nothing mine] at owner
        cases owner
      · rw [nothing other] at passed
        cases passed
  | deleteDutInfo ref owned =>
      have alive : process.dutOwner ref ≠ .nobody := by simp [owned]
      obtain ⟨unique, others⟩ := one_setDutOwner one .nobody alive
      have nothing : ∀ other, Function.update process.dutOwner ref .nobody other = .nobody := by
        intro other
        by_cases same : other = ref
        · subst same
          exact Function.update_self ..
        · exact others other same
      refine ⟨⟨unique, fun other lives => absurd (nothing other) lives, fun started remains => ?_,
        one.unregistered⟩, trivial, fun other threadId _ passed => ?_⟩
      · obtain ⟨mine, registered, owner⟩ := one.registered started remains
        have same := one.unique mine ref (by simp [owner]) alive
        rw [same, owned] at owner
        cases owner
      · have same := one.unique other ref (by simp [passed]) alive
        rw [same, owned] at passed
        cases passed
  | _ =>
      exact ⟨oneDutInfo_of_same one rfl rfl rfl rfl id, trivial, keepsPassed_of_same rfl⟩

/-- With a DutInfo of its own in hand, a thread finds the run not yet started. -/
theorem unstarted_of_passed {process : Process} {thread : ThreadId} {dutInfo : DutRef}
    (one : process.OneDutInfo) (alive : process.run.lifetime ≠ .destroyed)
    (passed : process.dutOwner dutInfo = .passed thread) : process.run.started = false := by
  by_contra started
  obtain ⟨mine, _, owner⟩ := one.registered (by simpa using started) alive
  have same := one.unique mine dutInfo (by simp [owner]) (by simp [passed])
  rw [same, passed] at owner
  cases owner

theorem run_oneDutInfo {settings : Settings} {process next : Process} {thread : ThreadId}
    {now : Pb.Timestamp} {frame : TestRun.Frame} {run : TestRun} {request : Request}
    {rest : Continue TestRun.Frame} (placed : frame.Placed process.run thread)
    (alive : process.run.lifetime ≠ .destroyed) (one : process.OneDutInfo)
    (passes : process.Passes thread (.run frame))
    (advances : process.run.Advances settings.protobuf thread process.calculator process.dutInfos
      frame run request rest)
    (performed : process.perform settings .run now request = .ok next) :
    ({ next with run } : Process).OneDutInfo ∧
    ({ next with run } : Process).Passes thread (rest.toFrame .run) ∧
    KeepsPassed thread process { next with run } := by
  cases advances with
  | startAndRegisterDutInfo dutInfo free =>
      obtain rfl := Outcome.ok.inj performed
      exact ⟨oneDutInfo_of_same one rfl rfl rfl rfl id, passes, keepsPassed_of_same rfl⟩
  | notifyStartRun dutInfo first =>
      obtain ⟨calculator, _, rfl⟩ := perform_registerDutInfo performed
      have held : process.dutOwner dutInfo ≠ .nobody := by
        rw [passes]
        simp
      obtain ⟨unique, others⟩ := one_setDutOwner one .run held
      refine ⟨⟨unique, fun _ _ => one.singleton dutInfo held,
        fun _ _ => ⟨dutInfo, rfl, Function.update_self ..⟩, fun unstarted => by cases unstarted⟩,
        trivial, fun other threadId different passed => ?_⟩
      have same := one.unique other dutInfo (by simp [passed]) held
      rw [same, passes] at passed
      exact absurd (DutOwner.passed.inj passed).symm different
  | notifyStartRunAgain dutInfo previous again =>
      rw [one.unregistered (unstarted_of_passed one alive passes)] at again
      cases again
  | destroyPreviousDutInfo previous => exact passes.elim
  | destroyMembersDutInfo dutInfo registered =>
      obtain rfl := Outcome.ok.inj performed
      have started : process.run.started = true := by
        by_contra unstarted
        rw [one.unregistered (by simpa using unstarted)] at registered
        cases registered
      obtain ⟨mine, isMine, owner⟩ := one.registered started alive
      rw [registered] at isMine
      cases isMine
      have held : process.dutOwner dutInfo ≠ .nobody := by simp [owner]
      obtain ⟨unique, others⟩ := one_setDutOwner one .nobody held
      refine ⟨⟨unique, fun other lives => ?_, fun _ gone => absurd rfl gone, one.unregistered⟩,
        trivial, fun other threadId _ passed => ?_⟩
      · by_cases same : other = dutInfo
        · subst same
          exact absurd (Function.update_self ..) lives
        · exact absurd (others other same) lives
      · have same := one.unique other dutInfo (by simp [passed]) held
        rw [same, owner] at passed
        cases passed
  | lockEnd free =>
      obtain rfl := Outcome.ok.inj performed
      refine ⟨oneDutInfo_of_same one rfl rfl rfl rfl id, ?_, keepsPassed_of_same rfl⟩
      cases process.run.started <;> trivial
  | destroyMembers =>
      obtain rfl := Outcome.ok.inj performed
      exact ⟨oneDutInfo_of_same one rfl rfl rfl rfl fun _ => rfl, trivial,
        keepsPassed_of_same rfl⟩
  | emitSchemaVersion =>
      obtain ⟨owner, singleton⟩ := perform_dutOwner performed (by simp) (by simp)
      exact ⟨oneDutInfo_of_same one owner singleton rfl rfl fun gone => absurd gone alive, trivial,
        keepsPassed_of_same owner⟩
  | _ =>
      obtain ⟨owner, singleton⟩ := perform_dutOwner performed (by simp) (by simp)
      exact ⟨oneDutInfo_of_same one owner singleton rfl rfl id, trivial,
        keepsPassed_of_same owner⟩

theorem moves_oneDutInfo {settings : Settings} {thread : ThreadId} {process next : Process}
    {label : Label} {frame after : Frame} (placed : process.Placed thread frame)
    (one : process.OneDutInfo) (passes : process.Passes thread frame)
    (moves : Moves settings thread process label frame next after) :
    next.OneDutInfo ∧ next.Passes thread after ∧ KeepsPassed thread process next := by
  cases moves with
  | log _ severity message _ delivered =>
      have owner := (deliver_dutOwner delivered).1
      refine ⟨oneDutInfo_of_deliver one delivered, ?_, keepsPassed_of_same owner⟩
      cases frame with
      | run frame =>
          cases frame with
          | startAndRegisterDutInfo dutInfo =>
              cases dutInfo with
              | none => trivial
              | some dutInfo => simpa only [Passes, owner] using passes
          | notifyStartRun dutInfo => simpa only [Passes, owner] using passes
          | destroyPreviousDutInfo previous => exact passes
          | _ => trivial
      | _ => trivial
  | call call _ _ _ begins => exact begins_oneDutInfo one begins
  | run frame run request rest performed _ alive advances perform =>
      exact run_oneDutInfo placed alive one passes advances perform
  | step ref frame step request rest performed _ _ advances perform =>
      have same := (perform_spec _ _ _ _ _ _ perform).1
      obtain ⟨owner, singleton⟩ := perform_dutOwner perform
        (by cases advances <;> simp) (by cases advances <;> simp)
      refine ⟨oneDutInfo_of_same one owner singleton ?_ ?_ ?_, ?_, keepsPassed_of_same owner⟩
      · simp only [setStep, same.run]
      · simp only [setStep, same.run]
      · simp only [setStep, same.run, imp_self]
      · cases rest <;> trivial
  | series ref frame series request rest performed _ _ _ advances perform =>
      have same := (perform_spec _ _ _ _ _ _ perform).1
      obtain ⟨owner, singleton⟩ := perform_dutOwner perform
        (by cases advances <;> simp) (by cases advances <;> simp)
      refine ⟨oneDutInfo_of_same one owner singleton ?_ ?_ ?_, ?_, keepsPassed_of_same owner⟩
      · simp only [setSeries, same.run]
      · simp only [setSeries, same.run]
      · simp only [setSeries, same.run, imp_self]
      · cases rest <;> trivial
  | dying message _ delivered =>
      exact ⟨oneDutInfo_of_deliver one delivered, trivial,
        keepsPassed_of_same (deliver_dutOwner delivered).1⟩
  | aborting =>
      exact ⟨oneDutInfo_of_same one rfl rfl rfl rfl id, trivial, keepsPassed_of_same rfl⟩
  | _ => exact ⟨one, trivial, keepsPassed_of_same rfl⟩

end Process

/-- One DutInfo at a time, and who has it. -/
abbrev DutInfoOwned : Pool Process Frame → Prop := Outline Process.OneDutInfo Process.Passes

theorem dutInfoOwned_initial (testRunStart : TestRunStart) :
    DutInfoOwned (initialPool testRunStart) := by
  refine ⟨⟨?_, ?_, ?_, ?_⟩, fun _ => trivial⟩
  · intro first _ alive
    exact absurd rfl alive
  · intro _ alive
    exact absurd rfl alive
  · intro started
    cases started
  · intro _
    rfl

theorem dutInfoOwned_step (settings : Settings) (pool final : Pool Process Frame)
    (label : ThreadId × Label) (held : MutexesHeld pool) (owned : DutInfoOwned pool)
    (stepped : systemStep settings pool label = some final) : DutInfoOwned final := by
  refine outline_of_moves Process.KeepsPassed held owned stepped ?_ ?_
  · intro next after moves
    exact Process.moves_oneDutInfo (held.threads label.1) owned.shared (owned.threads label.1) moves
  · intro next thread different _ keeps _ passes
    exact Process.passes_of_keepsPassed different keeps passes

end OcpDiag.Results
