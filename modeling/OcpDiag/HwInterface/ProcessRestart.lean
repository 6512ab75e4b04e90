import OcpDiag.Lib.Polling
import OcpDiag.HwInterface.HostAdapter
import OcpDiag.HwInterface.Utils

set_option autoImplicit false

/- Restarting a process of a host, and waiting for it to come back. -/
namespace OcpDiag.HwInterface

/-- A host adapter and the clock, with the host changing at each use. Times are nanoseconds. -/
structure LiveHost (σ : Type) where
  runCommand : σ → Int → List String → StatusOr CommandResult × σ
  now : σ → Int × σ
  sleepFor : σ → Int → σ

def kRunCommandTimeout : Int := 10000000000

def kProcessRestartRetryInterval : Int := 1000000000

variable {σ : Type}

namespace LiveHost

/-- The reply of pidof; it has the exit code 1 if there is no such process. -/
def pidOfReply (processName : String) (reply : CommandResult) : StatusOr Int :=
  if reply.exitCode = 1 then
    .error ⟨.notFound, "Process " ++ processName ++ " is not running"⟩
  else if 1 < reply.exitCode then
    .error ⟨.internal, "pidof: exit_code=" ++ toString reply.exitCode⟩
  else
    match simpleAtoi reply.stdout with
    | some pid => .ok pid
    | none => .error ⟨.internal, "pidof: invalid output=" ++ reply.stdout⟩

def getPidOfProcess (host : LiveHost σ) (processName : String) (state : σ) : StatusOr Int × σ :=
  match host.runCommand state kRunCommandTimeout ["/bin/pidof", "-s", processName] with
  | (.error status, state) => (.error status, state)
  | (.ok reply, state) => (pidOfReply processName reply, state)

/-- A round of the wait for the pid to change. -/
def pollProcess (host : LiveHost σ) (processName : String) (oldPid startTime processReadyWait : Int)
    (state : σ) : (StatusOr Unit × σ) ⊕ σ :=
  let (time, state) := host.now state
  if time - startTime < processReadyWait then
    let state := host.sleepFor state kProcessRestartRetryInterval
    match host.getPidOfProcess processName state with
    | (.ok newPid, state) => if newPid ≠ oldPid then .inl (.ok (), state) else .inr state
    | (.error _, state) => .inr state
  else .inl (.error ⟨.internal, "Timed out waiting for " ++ processName ++ " to restart"⟩, state)

/-- RestartProcess, for a finite wait. -/
def restartProcess (host : LiveHost σ) (processName : String) (processReadyWait : Int)
    (fuel : Nat) (state : σ) : Option (StatusOr Unit × σ) :=
  match host.getPidOfProcess processName state with
  | (.error status, state) => some (.error status, state)
  | (.ok oldPid, state) =>
      match host.runCommand state kRunCommandTimeout
          ["/usr/sbin/service", "taskd", "restart-service", processName] with
      | (.error status, state) => some (.error status, state)
      | (.ok result, state) =>
          if result.exitCode ≠ 0 then
            some (.error ⟨.internal, "service taskd restart-service " ++ processName ++
              ": exit_code=" ++ toString result.exitCode⟩, state)
          else
            let (startTime, state) := host.now state
            Polling.loop (host.pollProcess processName oldPid startTime processReadyWait) fuel state

/-- The host once a round has looked at the process again. -/
def looked (host : LiveHost σ) (processName : String) (state : σ) : σ :=
  (host.getPidOfProcess processName
    (host.sleepFor (host.now state).2 kProcessRestartRetryInterval)).2

/-- What the round then sees. -/
def sees (host : LiveHost σ) (processName : String) (state : σ) : StatusOr Int :=
  (host.getPidOfProcess processName
    (host.sleepFor (host.now state).2 kProcessRestartRetryInterval)).1

/-- The rounds before this one are in time and see no other process. -/
def StillWaiting (host : LiveHost σ) (processName : String)
    (oldPid startTime processReadyWait : Int) (state : σ) (count : Nat) : Prop :=
  ∀ index < count,
    (host.now ((host.looked processName)^[index] state)).1 - startTime < processReadyWait ∧
    ∀ pid, host.sees processName ((host.looked processName)^[index] state) = .ok pid →
      pid = oldPid

/-- How the wait ends: another pid is seen in time, or the time is over. -/
inductive WaitEnds (host : LiveHost σ) (processName : String)
    (oldPid startTime processReadyWait : Int) (state : σ) : StatusOr Unit × σ → Prop where
  | restarted (count : Nat) (newPid : Int) :
      host.StillWaiting processName oldPid startTime processReadyWait state count →
      (host.now ((host.looked processName)^[count] state)).1 - startTime < processReadyWait →
      host.sees processName ((host.looked processName)^[count] state) = .ok newPid →
      newPid ≠ oldPid →
      WaitEnds host processName oldPid startTime processReadyWait state
        (.ok (), (host.looked processName)^[count + 1] state)
  | timedOut (count : Nat) :
      host.StillWaiting processName oldPid startTime processReadyWait state count →
      processReadyWait ≤ (host.now ((host.looked processName)^[count] state)).1 - startTime →
      WaitEnds host processName oldPid startTime processReadyWait state
        (.error ⟨.internal, "Timed out waiting for " ++ processName ++ " to restart"⟩,
          (host.now ((host.looked processName)^[count] state)).2)

section Wait

variable {host : LiveHost σ} {processName : String} {oldPid startTime processReadyWait : Int}

theorem pollProcess_eq (state : σ) :
    host.pollProcess processName oldPid startTime processReadyWait state =
      if (host.now state).1 - startTime < processReadyWait then
        match host.sees processName state with
        | .ok newPid =>
            if newPid ≠ oldPid then .inl (.ok (), host.looked processName state)
            else .inr (host.looked processName state)
        | .error _ => .inr (host.looked processName state)
      else .inl (.error ⟨.internal, "Timed out waiting for " ++ processName ++ " to restart"⟩,
        (host.now state).2) := by
  unfold pollProcess sees looked
  refine if_congr Iff.rfl ?_ rfl
  dsimp only
  generalize host.getPidOfProcess processName
    (host.sleepFor (host.now state).2 kProcessRestartRetryInterval) = reply
  rcases reply with ⟨status | pid, next⟩ <;> rfl

theorem pollProcess_inr_iff (state next : σ) :
    host.pollProcess processName oldPid startTime processReadyWait state = .inr next ↔
      (host.now state).1 - startTime < processReadyWait ∧
      (∀ pid, host.sees processName state = .ok pid → pid = oldPid) ∧
      next = host.looked processName state := by
  rw [pollProcess_eq]
  by_cases inTime : (host.now state).1 - startTime < processReadyWait
  · rw [if_pos inTime]
    cases seen : host.sees processName state with
    | error status => simp [inTime, eq_comm]
    | ok pid =>
        by_cases same : pid = oldPid
        · simp [inTime, same, eq_comm]
        · simp [same]
  · simp [inTime]

theorem pollProcess_inl_iff (state : σ) (outcome : StatusOr Unit × σ) :
    host.pollProcess processName oldPid startTime processReadyWait state = .inl outcome ↔
      ((host.now state).1 - startTime < processReadyWait ∧
        (∃ newPid, host.sees processName state = .ok newPid ∧ newPid ≠ oldPid) ∧
        outcome = (.ok (), host.looked processName state)) ∨
      (processReadyWait ≤ (host.now state).1 - startTime ∧
        outcome = (.error ⟨.internal, "Timed out waiting for " ++ processName ++ " to restart"⟩,
          (host.now state).2)) := by
  rw [pollProcess_eq]
  by_cases inTime : (host.now state).1 - startTime < processReadyWait
  · have notOver : ¬processReadyWait ≤ (host.now state).1 - startTime := not_le.mpr inTime
    rw [if_pos inTime]
    cases seen : host.sees processName state with
    | error status => simp [notOver]
    | ok pid =>
        by_cases same : pid = oldPid
        · simp [notOver, same]
        · simp only [same, ne_eq, not_false_eq_true, if_true, Sum.inl.injEq, Except.ok.injEq,
            exists_eq_left', inTime, notOver, true_and, false_and, or_false]
          exact eq_comm
  · simp only [inTime, if_false, Sum.inl.injEq, false_and, false_or, not_lt.mp inTime, true_and]
    exact eq_comm

theorem wait_ends_iff (state : σ) (outcome : StatusOr Unit × σ) :
    (∃ fuel, Polling.loop (host.pollProcess processName oldPid startTime processReadyWait) fuel
      state = some outcome) ↔
      WaitEnds host processName oldPid startTime processReadyWait state outcome := by
  have steps : ∀ state next,
      host.pollProcess processName oldPid startTime processReadyWait state = .inr next →
      next = host.looked processName state := fun state next unanswered =>
    ((pollProcess_inr_iff state next).mp unanswered).2.2
  have waiting : ∀ count,
      Polling.Unanswered (host.pollProcess processName oldPid startTime processReadyWait)
        (fun index => (host.looked processName)^[index] state) count ↔
      host.StillWaiting processName oldPid startTime processReadyWait state count := by
    intro count
    refine forall₂_congr fun index _ => ?_
    have next : (host.looked processName)^[index + 1] state =
        host.looked processName ((host.looked processName)^[index] state) :=
      Function.iterate_succ_apply' (host.looked processName) index state
    rw [pollProcess_inr_iff]
    exact ⟨fun all => ⟨all.1, all.2.1⟩, fun both => ⟨both.1, both.2, next⟩⟩
  rw [Polling.loop_eq_some_iff (host.looked processName) steps]
  constructor
  · rintro ⟨count, unanswered, last⟩
    have still := (waiting count).mp unanswered
    rcases (pollProcess_inl_iff _ _).mp last with ⟨inTime, ⟨newPid, seen, other⟩, rfl⟩ | ⟨expired, rfl⟩
    · rw [← Function.iterate_succ_apply' (host.looked processName)]
      exact .restarted count newPid still inTime seen other
    · exact .timedOut count still expired
  · intro ends
    cases ends with
    | restarted count newPid still inTime seen other =>
        refine ⟨count, (waiting count).mpr still, (pollProcess_inl_iff _ _).mpr (.inl ?_)⟩
        rw [Function.iterate_succ_apply']
        exact ⟨inTime, ⟨newPid, seen, other⟩, rfl⟩
    | timedOut count still expired =>
        exact ⟨count, (waiting count).mpr still, (pollProcess_inl_iff _ _).mpr (.inr ⟨expired, rfl⟩)⟩

end Wait

/-- What a call reports, and the host that it leaves behind. -/
inductive Restarted (host : LiveHost σ) (processName : String) (processReadyWait : Int)
    (state : σ) : StatusOr Unit × σ → Prop where
  | notRunning (status : Status) (asked : σ) :
      host.getPidOfProcess processName state = (.error status, asked) →
      Restarted host processName processReadyWait state (.error status, asked)
  | notRun (oldPid : Int) (asked told : σ) (status : Status) :
      host.getPidOfProcess processName state = (.ok oldPid, asked) →
      host.runCommand asked kRunCommandTimeout
        ["/usr/sbin/service", "taskd", "restart-service", processName] = (.error status, told) →
      Restarted host processName processReadyWait state (.error status, told)
  | refused (oldPid : Int) (asked told : σ) (result : CommandResult) :
      host.getPidOfProcess processName state = (.ok oldPid, asked) →
      host.runCommand asked kRunCommandTimeout
        ["/usr/sbin/service", "taskd", "restart-service", processName] = (.ok result, told) →
      result.exitCode ≠ 0 →
      Restarted host processName processReadyWait state
        (.error ⟨.internal, "service taskd restart-service " ++ processName ++ ": exit_code=" ++
          toString result.exitCode⟩, told)
  | waited (oldPid : Int) (asked told : σ) (result : CommandResult)
      (outcome : StatusOr Unit × σ) :
      host.getPidOfProcess processName state = (.ok oldPid, asked) →
      host.runCommand asked kRunCommandTimeout
        ["/usr/sbin/service", "taskd", "restart-service", processName] = (.ok result, told) →
      result.exitCode = 0 →
      WaitEnds host processName oldPid (host.now told).1 processReadyWait (host.now told).2
        outcome →
      Restarted host processName processReadyWait state outcome

/-- The clock never goes back, and no sleep is shorter than it was asked to be. -/
structure Steady (host : LiveHost σ) : Prop where
  read : ∀ state, (host.now state).1 ≤ (host.now (host.now state).2).1
  ran : ∀ state timeout args,
    (host.now state).1 ≤ (host.now (host.runCommand state timeout args).2).1
  slept : ∀ state duration, (host.now state).1 + duration ≤
    (host.now (host.sleepFor state duration)).1

section Call

variable {host : LiveHost σ} {processName : String}

theorem now_getPidOfProcess (steady : host.Steady) (processName : String) (state : σ) :
    (host.now state).1 ≤ (host.now (host.getPidOfProcess processName state).2).1 := by
  have ran := steady.ran state kRunCommandTimeout ["/bin/pidof", "-s", processName]
  unfold getPidOfProcess
  split <;> rename_i answered <;> rw [answered] at ran <;> exact ran

/-- A round takes an interval at least. -/
theorem now_looked (steady : host.Steady) (processName : String) (state : σ) :
    (host.now state).1 + kProcessRestartRetryInterval ≤
      (host.now (host.looked processName state)).1 := by
  have read := steady.read state
  have slept := steady.slept (host.now state).2 kProcessRestartRetryInterval
  have asked := now_getPidOfProcess steady processName
    (host.sleepFor (host.now state).2 kProcessRestartRetryInterval)
  unfold looked
  omega

/-- The rounds that fit in the time that is left. -/
def roundsLeft (host : LiveHost σ) (startTime processReadyWait : Int) (state : σ) : Nat :=
  ((startTime + processReadyWait - (host.now state).1 + kProcessRestartRetryInterval - 1) /
    kProcessRestartRetryInterval).toNat

theorem roundsLeft_lowers (steady : host.Steady) (oldPid startTime processReadyWait : Int)
    (state next : σ)
    (unanswered : host.pollProcess processName oldPid startTime processReadyWait state =
      .inr next) :
    host.roundsLeft startTime processReadyWait next <
      host.roundsLeft startTime processReadyWait state := by
  obtain ⟨inTime, -, rfl⟩ := (pollProcess_inr_iff state next).mp unanswered
  have later := now_looked steady processName state
  unfold roundsLeft kProcessRestartRetryInterval at *
  omega

/-- The polls that fit in the wait. -/
def pollLimit (processReadyWait : Int) : Nat :=
  ((processReadyWait + kProcessRestartRetryInterval - 1) / kProcessRestartRetryInterval).toNat

theorem roundsLeft_start (steady : host.Steady) (processReadyWait : Int) (state : σ) :
    host.roundsLeft (host.now state).1 processReadyWait (host.now state).2 ≤
      pollLimit processReadyWait := by
  have read := steady.read state
  unfold roundsLeft pollLimit kProcessRestartRetryInterval
  omega

theorem restarted_of_restartProcess {processReadyWait : Int} {state : σ} {fuel : Nat}
    {outcome : StatusOr Unit × σ}
    (returned : host.restartProcess processName processReadyWait fuel state = some outcome) :
    host.Restarted processName processReadyWait state outcome := by
  unfold restartProcess at returned
  split at returned
  · rename_i status asked failed
    obtain rfl := Option.some.inj returned
    exact .notRunning status asked failed
  · rename_i oldPid asked known
    split at returned
    · rename_i status told failed
      obtain rfl := Option.some.inj returned
      exact .notRun oldPid asked told status known failed
    · rename_i result told ran
      split at returned
      · rename_i nonzero
        obtain rfl := Option.some.inj returned
        exact .refused oldPid asked told result known ran nonzero
      · rename_i zero
        exact .waited oldPid asked told result outcome known ran (not_not.mp zero)
          ((wait_ends_iff _ _).mp ⟨fuel, returned⟩)

theorem restartProcess_of_restarted {processReadyWait : Int} {state : σ}
    {outcome : StatusOr Unit × σ}
    (restarted : host.Restarted processName processReadyWait state outcome) :
    ∃ fuel, host.restartProcess processName processReadyWait fuel state = some outcome := by
  unfold restartProcess
  cases restarted with
  | notRunning status asked failed =>
      rw [failed]
      exact ⟨0, rfl⟩
  | notRun oldPid asked told status known failed =>
      rw [known]
      dsimp only
      rw [failed]
      exact ⟨0, rfl⟩
  | refused oldPid asked told result known ran nonzero =>
      rw [known]
      dsimp only
      rw [ran]
      exact ⟨0, if_pos nonzero⟩
  | waited oldPid asked told result outcome known ran zero ends =>
      obtain ⟨fuel, answered⟩ := (wait_ends_iff _ _).mpr ends
      rw [known]
      dsimp only
      rw [ran]
      exact ⟨fuel, (if_neg (not_not.mpr zero)).trans answered⟩

theorem restartProcess_more {processReadyWait : Int} {state : σ} {fuel more : Nat}
    {outcome : StatusOr Unit × σ} (enough : fuel ≤ more)
    (returned : host.restartProcess processName processReadyWait fuel state = some outcome) :
    host.restartProcess processName processReadyWait more state = some outcome := by
  unfold restartProcess at returned ⊢
  split at returned
  · exact returned
  · split at returned
    · exact returned
    · split at returned
      · rename_i nonzero
        exact (if_pos nonzero).trans returned
      · rename_i zero
        exact (if_neg zero).trans (Polling.loop_more enough returned)

theorem restartProcess_returns (steady : host.Steady) (processName : String)
    (processReadyWait : Int) (state : σ) (fuel : Nat) (enough : pollLimit processReadyWait < fuel) :
    (host.restartProcess processName processReadyWait fuel state).isSome = true := by
  unfold restartProcess
  split
  · rfl
  · rename_i oldPid asked known
    split
    · rfl
    · rename_i result told ran
      split
      · rfl
      · exact Polling.loop_ends _ (roundsLeft_lowers steady oldPid _ _) fuel _
          ((roundsLeft_start steady processReadyWait told).trans_lt enough)

end Call

/-- A call asks for the restart of a running process once, then polls until another pid is seen or
the wait is over; where the clock goes on it returns, after at most the polls that fit. -/
theorem restartProcess_exact (host : LiveHost σ) (processName : String) (processReadyWait : Int)
    (state : σ) :
    (∀ outcome,
      (∃ fuel, host.restartProcess processName processReadyWait fuel state = some outcome) ↔
        host.Restarted processName processReadyWait state outcome) ∧
    (host.Steady → ∃ outcome, ∀ fuel, pollLimit processReadyWait < fuel →
      host.restartProcess processName processReadyWait fuel state = some outcome) := by
  refine ⟨fun outcome => ⟨?_, restartProcess_of_restarted⟩, fun steady => ?_⟩
  · rintro ⟨fuel, returned⟩
    exact restarted_of_restartProcess returned
  · have returns := restartProcess_returns steady processName processReadyWait state
      (pollLimit processReadyWait + 1) (Nat.lt_succ_self _)
    obtain ⟨outcome, returned⟩ := Option.isSome_iff_exists.mp returns
    exact ⟨outcome, fun fuel enough => restartProcess_more enough returned⟩

/-- A host whose commands take a millisecond, with the pid that its process has. -/
def sampleHost : LiveHost (Int × Int) where
  runCommand state _ args :=
    if args.head? = some "/bin/pidof" then
      (.ok ⟨0, toString state.2 ++ "\n", ""⟩, (state.1 + 1000000, state.2))
    else (.ok ⟨0, "", ""⟩, (state.1 + 1000000, state.2 + 1))
  now state := (state.1, state)
  sleepFor state duration := (state.1 + duration, state.2)

theorem sampleHost_steady : sampleHost.Steady where
  read _ := le_refl _
  ran state timeout args := by
    unfold sampleHost
    dsimp only
    split <;> dsimp only <;> omega
  slept _ _ := le_refl _

theorem restartProcess_exact_sampleHost :
    sampleHost.Restarted "hwd" 5000000000 (0, 41) (.ok (), (1003000000, 42)) ∧
    ∃ outcome, ∀ fuel, 5 < fuel →
      sampleHost.restartProcess "hwd" 5000000000 fuel (0, 41) = some outcome := by
  have exact := restartProcess_exact sampleHost "hwd" 5000000000 (0, 41)
  exact ⟨(exact.1 _).mp ⟨1, rfl⟩, exact.2 sampleHost_steady⟩

end LiveHost

end OcpDiag.HwInterface
