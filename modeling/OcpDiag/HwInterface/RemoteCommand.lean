import OcpDiag.Lib.ShellWords
import OcpDiag.HwInterface.HostAdapter
import Mathlib.Data.List.TakeWhile

set_option autoImplicit false

/- When a command over ssh is the command that the local adapter would run. -/
namespace OcpDiag.HwInterface

open ShellWords

inductive Ending where
  | exited (code : Nat)
  | signaled (signal : Nat)
  deriving DecidableEq, Repr

/-- Signals are numbered from 1. -/
def Ending.isFailure : Ending → Bool
  | .exited code => code ≠ 0
  | .signaled signal => signal ≠ 0

def Ending.status : Ending → WaitStatus
  | .exited code => .exited code
  | .signaled signal => .signaled signal

/-- How a program ends and what it prints. -/
structure Behaviour where
  ending : Ending
  stdout : String
  stderr : String
  deriving DecidableEq, Repr

def Behaviour.outcome (behaviour : Behaviour) : ChildOutcome :=
  .finished behaviour.ending.status (some behaviour.stdout) (some behaviour.stderr)

/-- What ssh itself writes to its standard error, before the program starts and after its end. With
a known hosts file that is never kept it warns of the host key at every new connection. -/
structure SshMessages where
  opening : String := ""
  closing : String := ""
  deriving DecidableEq, Repr

def SshMessages.around (messages : SshMessages) (stderr : String) : String :=
  messages.opening ++ stderr ++ messages.closing

/-- The program as the standard output and error of ssh show it. -/
def Behaviour.overSsh (behaviour : Behaviour) (messages : SshMessages) : Behaviour :=
  { behaviour with stderr := messages.around behaviour.stderr }

/-- The process that is run on the other host, if there is one, and what comes back. -/
structure Execution where
  argv : Option (List String)
  behaviour : Behaviour
  deriving DecidableEq, Repr

/-- The host behind ssh and its POSIX shell. What a text with active characters does depends on
the host's files and variables and is left open, as is what ssh does with its own options. -/
structure SshTarget where
  program : List String → Behaviour
  /-- The reserved words and built-ins of the shell. -/
  ownName : String → Bool
  interpret : String → Execution
  sshOption : List String → Execution
  messages : SshMessages := {}

def isNameStart (char : Char) : Bool := char.isAlpha || char = '_'
def isNameChar (char : Char) : Bool := char.isAlphanum || char = '_'

/-- `name=value`, which sets a variable. -/
def isAssignment (word : String) : Bool :=
  let name := word.toList.takeWhile (· ≠ '=')
  word.toList.contains '=' && name.head?.any isNameStart && name.all isNameChar

/-- ssh reads options also after the destination. -/
def isSshOption (arg : String) : Bool := arg.toList.head? = some '-' && arg ≠ "-"

/-- The shell runs the program that the first word names with the words as its arguments. -/
def SshTarget.shell (target : SshTarget) (text : String) : Execution :=
  match (literalWords text.toList).map (·.map String.ofList) with
  | some (command :: rest) =>
      if isAssignment command || target.ownName command then target.interpret text
      else ⟨some (command :: rest), target.program (command :: rest)⟩
  | _ => target.interpret text

/-- What ssh does with the arguments after its own. -/
def SshTarget.run (target : SshTarget) (args : List String) : Execution :=
  match args with
  | [] => target.interpret ""
  | first :: rest =>
      if isSshOption first then target.sshOption (first :: rest)
      else target.shell (String.intercalate " " (first :: rest))

/-- ssh is started, and its end shows how the command on the target ended. -/
structure SshConnInterface.Reaches (conn : SshConnInterface) (machine : Machine)
    (target : SshTarget) (args : List String) : Prop where
  pipe : machine.pipe = none
  ssh : machine.execvp ((conn.generateSshArg args).map cString) =
    .ok ((target.run args).behaviour.overSsh target.messages).outcome

/-- Where the local adapter runs the command and returns a result, the remote adapter makes the
target run a process with the same arguments and returns the same result. -/
def RemoteIsLocal (conn : SshConnInterface) (ownName : String → Bool) (messages : SshMessages)
    (timeout : String) (args : List String) (behaviour : Behaviour) : Prop :=
  ∀ (machine : Machine) (target : SshTarget) (result : CommandResult),
    target.ownName = ownName → target.messages = messages →
    machine.execvp args = .ok behaviour.outcome → target.program args = behaviour →
    conn.Reaches machine target args →
    localRunCommand machine timeout args = .ok result →
    (target.run args).argv = some args ∧ remoteRunCommand conn machine timeout args = .ok result

/-- The arguments mean themselves to ssh and to the shell. -/
structure SurvivesShell (ownName : String → Bool) (args : List String) : Prop where
  plain : ∀ arg ∈ args, PlainWord arg.toList
  command : ∀ first, args.head? = some first →
    isSshOption first = false ∧ isAssignment first = false ∧ ownName first = false

theorem cString_of_noNul {text : String} (noNul : '\x00' ∉ text.toList) : cString text = text := by
  have all : text.toList.takeWhile (· ≠ '\x00') = text.toList := by
    rw [List.takeWhile_eq_self_iff]
    intro char member
    simp only [ne_eq, decide_not, Bool.not_eq_true', decide_eq_false_iff_not]
    rintro rfl
    exact noNul member
  rw [cString, all, String.ofList_toList]

theorem map_cString {args : List String} (noNul : ∀ arg ∈ args, '\x00' ∉ arg.toList) :
    args.map cString = args := by
  rw [List.map_congr_left (fun arg member => cString_of_noNul (noNul arg member)), List.map_id']

theorem generateSshArg_length (conn : SshConnInterface) (args : List String) :
    args.length < (conn.generateSshArg args).length := by
  simp only [SshConnInterface.generateSshArg, List.length_append, List.length_cons]
  omega

theorem generateSshArg_ne (conn : SshConnInterface) (args : List String) :
    (conn.generateSshArg args).map cString ≠ args := by
  intro same
  have length := congrArg List.length same
  rw [List.length_map] at length
  exact absurd length (Nat.ne_of_gt (generateSshArg_length conn args))

/-- The words of the line that ssh sends are the arguments just when all of them are plain. -/
theorem lineWords_iff {args : List String} (nonempty : args ≠ []) :
    (literalWords (String.intercalate " " args).toList).map (·.map String.ofList) = some args ↔
      ∀ arg ∈ args, PlainWord arg.toList := by
  have someWords : args.map String.toList ≠ [] := by simpa using nonempty
  have back : ∀ words : List (List Char),
      words.map String.ofList = args ↔ words = args.map String.toList := by
    intro words
    constructor
    · rintro rfl
      simp [Function.comp_def]
    · rintro rfl
      simp [Function.comp_def]
  rw [String.toList_intercalate, Option.map_eq_some_iff]
  simp only [back]
  have joined := literalWords_join_iff (args.map String.toList) someWords
  simp only [List.mem_map, forall_exists_index, and_imp, forall_apply_eq_imp_iff₂] at joined
  rw [← joined]
  constructor
  · rintro ⟨words, lexed, rfl⟩
    exact lexed
  · intro lexed
    exact ⟨_, lexed, rfl⟩

/-- A command line of plain arguments runs the command with these arguments. -/
theorem run_of_survives {target : SshTarget} {args : List String} (nonempty : args ≠ [])
    (survives : SurvivesShell target.ownName args) :
    target.run args = ⟨some args, target.program args⟩ := by
  obtain ⟨first, rest, rfl⟩ := List.exists_cons_of_ne_nil nonempty
  obtain ⟨notOption, notAssignment, notOwn⟩ := survives.command first rfl
  have line := (lineWords_iff nonempty).mpr survives.plain
  simp only [SshTarget.run, notOption, Bool.false_eq_true, if_false, SshTarget.shell, line,
    notAssignment, notOwn, Bool.or_self]

/-- A target on which nothing else than a literal command runs a process. -/
def literalTarget (ownName : String → Bool) (messages : SshMessages) (behaviour : Behaviour) :
    SshTarget where
  program := fun _ => behaviour
  ownName := ownName
  interpret := fun _ => ⟨none, behaviour⟩
  sshOption := fun _ => ⟨none, behaviour⟩
  messages := messages

theorem survives_of_literalTarget {ownName : String → Bool} {messages : SshMessages}
    {behaviour : Behaviour} {args : List String} (nonempty : args ≠ [])
    (same : ((literalTarget ownName messages behaviour).run args).argv = some args) :
    SurvivesShell ownName args := by
  obtain ⟨first, rest, rfl⟩ := List.exists_cons_of_ne_nil nonempty
  simp only [SshTarget.run] at same
  split at same
  · cases same
  rename_i notOption
  simp only [SshTarget.shell] at same
  split at same
  · rename_i command others line
    split at same
    · cases same
    rename_i ordinary
    obtain ⟨rfl, rfl⟩ := List.cons.inj (Option.some.inj same)
    simp only [Bool.not_eq_true, Bool.or_eq_false_iff] at ordinary notOption
    refine ⟨(lineWords_iff nonempty).mp line, fun head isHead => ?_⟩
    obtain rfl := Option.some.inj isHead
    exact ⟨notOption, ordinary⟩
  · cases same

/-- Nothing is added just when ssh writes nothing itself. -/
theorem around_eq_iff (messages : SshMessages) (stderr : String) :
    messages.around stderr = stderr ↔ messages = {} := by
  constructor
  · intro same
    have lengths := congrArg String.length same
    simp only [SshMessages.around, String.length_append] at lengths
    have opening : messages.opening = "" := String.length_eq_zero_iff.mp (by omega)
    have closing : messages.closing = "" := String.length_eq_zero_iff.mp (by omega)
    obtain ⟨first, last⟩ := messages
    obtain rfl : first = "" := opening
    obtain rfl : last = "" := closing
    rfl
  · rintro rfl
    simp [SshMessages.around]

theorem localRunCommand_ok {machine : Machine} {timeout : String} {args : List String}
    {behaviour : Behaviour} {result : CommandResult} (noNul : ∀ arg ∈ args, '\x00' ∉ arg.toList)
    (ran : machine.execvp args = .ok behaviour.outcome)
    (ok : localRunCommand machine timeout args = .ok result) :
    machine.stdoutTmpfile = none ∧ machine.stderrTmpfile = none ∧ machine.fork = none ∧
      localExitCode behaviour.ending.status = .ok result.exitCode ∧
      result.stdout = behaviour.stdout ∧ result.stderr = behaviour.stderr := by
  unfold localRunCommand at ok
  split at ok
  · cases ok
  split at ok
  · cases ok
  rename_i files
  simp only [Bool.not_eq_true, Bool.or_eq_false_iff, Option.isSome_eq_false_iff,
    Option.isNone_iff_eq_none] at files
  split at ok
  · cases ok
  rename_i forked
  rw [map_cString noNul, localChild, ran] at ok
  simp only [Behaviour.outcome] at ok
  cases exit : localExitCode behaviour.ending.status with
  | error status => rw [exit] at ok; cases ok
  | ok code =>
      rw [exit] at ok
      cases ok
      exact ⟨files.1, files.2, forked, rfl, rfl, rfl⟩

/-- The part of the local machine that a command needs before ssh is started. -/
structure Machine.Ready (machine : Machine) : Prop where
  stdoutFile : machine.stdoutTmpfile = none
  stderrFile : machine.stderrTmpfile = none
  piped : machine.pipe = none
  forked : machine.fork = none

theorem runCommandWithStdin_of_ready {conn : SshConnInterface} {machine : Machine}
    {args : List String} {behaviour : Behaviour} (ready : machine.Ready) (timeout stdin : String)
    (fed : (if stdin.isEmpty then none else machine.writeStdin stdin) = none)
    (ran : machine.execvp ((conn.generateSshArg args).map cString) = .ok behaviour.outcome) :
    conn.runCommandWithStdin machine timeout stdin args {} =
      (sshExitCode behaviour.ending.status).map (fun exitCode =>
        ⟨exitCode, behaviour.stdout, behaviour.stderr⟩) := by
  unfold SshConnInterface.runCommandWithStdin sshChild
  rw [ready.stdoutFile, ready.stderrFile, ready.piped, ready.forked, ran, fed]
  simp only [Behaviour.outcome]
  cases sshExitCode behaviour.ending.status <;> rfl

theorem remoteRunCommand_eq {conn : SshConnInterface} {machine : Machine} {target : SshTarget}
    {timeout : String} {args : List String} (stdoutFile : machine.stdoutTmpfile = none)
    (stderrFile : machine.stderrTmpfile = none) (forked : machine.fork = none)
    (reaches : conn.Reaches machine target args) :
    remoteRunCommand conn machine timeout args =
      (sshExitCode (target.run args).behaviour.ending.status).map (fun exitCode =>
        ⟨exitCode, (target.run args).behaviour.stdout,
          target.messages.around (target.run args).behaviour.stderr⟩) := by
  exact runCommandWithStdin_of_ready ⟨stdoutFile, stderrFile, reaches.pipe, forked⟩ timeout "" rfl
    reaches.ssh

/-- The two exit codes are the same for an exit and differ for every signal. -/
theorem exitCode_same_iff (ending : Ending) (code : Int)
    (isLocal : localExitCode ending.status = .ok code) :
    sshExitCode ending.status = .ok code ↔ ∃ exitCode, ending = .exited exitCode := by
  cases ending with
  | exited exitCode => exact ⟨fun _ => ⟨exitCode, rfl⟩, fun _ => isLocal⟩
  | signaled signal =>
      constructor
      · intro isRemote
        have signalCode : (128 : Int) + signal = code := by
          simpa [localExitCode, Ending.status] using isLocal
        have negativeCode : -(signal : Int) = code := by
          simpa [sshExitCode, Ending.status] using isRemote
        omega
      · intro ⟨_, same⟩
        cases same

/-- The remote adapter is like the local one for programs that exit, run over a connection on which
ssh writes nothing itself with arguments that mean themselves to ssh and to the shell. -/
theorem remoteIsLocal_iff (conn : SshConnInterface) (ownName : String → Bool)
    (messages : SshMessages) (timeout : String) (args : List String) (behaviour : Behaviour)
    (nonempty : args ≠ []) (noNul : ∀ arg ∈ args, '\x00' ∉ arg.toList) :
    RemoteIsLocal conn ownName messages timeout args behaviour ↔
      (∃ code, behaviour.ending = .exited code) ∧ messages = {} ∧ SurvivesShell ownName args := by
  constructor
  · intro alike
    let target := literalTarget ownName messages behaviour
    let machine : Machine :=
      { execvp := fun argv =>
          .ok (if argv = args then behaviour.outcome
            else ((target.run args).behaviour.overSsh messages).outcome) }
    have ran : machine.execvp args = .ok behaviour.outcome := by simp [machine]
    have reaches : conn.Reaches machine target args :=
      ⟨rfl, by simp [machine, generateSshArg_ne conn args, target, literalTarget]⟩
    obtain ⟨code, exit⟩ : ∃ code, localExitCode behaviour.ending.status = .ok code := by
      cases behaviour.ending <;> exact ⟨_, rfl⟩
    have localResult : localRunCommand machine timeout args =
        .ok ⟨code, behaviour.stdout, behaviour.stderr⟩ := by
      have someArgs : args.isEmpty = false := by simpa using nonempty
      simp only [localRunCommand, someArgs, map_cString noNul, localChild, ran, Behaviour.outcome,
        exit]
      rfl
    obtain ⟨sameArgs, sameResult⟩ := alike machine target _ rfl rfl ran rfl reaches localResult
    have survives := survives_of_literalTarget nonempty sameArgs
    rw [remoteRunCommand_eq rfl rfl rfl reaches, run_of_survives nonempty survives] at sameResult
    cases remote : sshExitCode behaviour.ending.status with
    | error status => simp [target, literalTarget, remote, Except.map] at sameResult
    | ok other =>
        simp only [target, literalTarget, remote, Except.map, Except.ok.injEq,
          CommandResult.mk.injEq] at sameResult
        obtain ⟨rfl, -, stderr⟩ := sameResult
        exact ⟨(exitCode_same_iff behaviour.ending other exit).mp remote,
          (around_eq_iff messages behaviour.stderr).mp stderr, survives⟩
  · rintro ⟨exits, rfl, survives⟩ machine target result rfl silent ran rfl reaches ok
    obtain ⟨stdoutFile, stderrFile, forked, exit, stdout, stderr⟩ := localRunCommand_ok noNul ran ok
    have execution := run_of_survives nonempty survives
    refine ⟨by rw [execution], ?_⟩
    rw [remoteRunCommand_eq stdoutFile stderrFile forked reaches, execution, silent]
    have same := (exitCode_same_iff _ _ exit).mpr exits
    have nothingAdded := (around_eq_iff {} result.stderr).mpr rfl
    simp only [same, Except.map, ← stdout, ← stderr, nothingAdded]

def sampleConn : SshConnInterface := { nodeSpec := ⟨"dut"⟩, sshKeyPath := "/root/.ssh/id" }

/-- A machine that runs the program here and ssh to the target. -/
def sampleMachine (args : List String) (behaviour : Behaviour) (target : SshTarget) : Machine :=
  { execvp := fun argv =>
      .ok (if argv = args then behaviour.outcome
        else ((target.run args).behaviour.overSsh target.messages).outcome) }

def quietExit : Behaviour := ⟨.exited 0, "", ""⟩
def killed : Behaviour := ⟨.signaled 9, "", ""⟩

/-- What ssh writes when the host key is new to it. -/
def hostKeyWarning : SshMessages :=
  { opening := "Warning: Permanently added 'dut' (ED25519) to the list of known hosts.\r\n" }

def sampleTarget (messages : SshMessages) (behaviour : Behaviour) : SshTarget :=
  literalTarget (fun _ => false) messages behaviour

def foundTask : Behaviour := ⟨.exited 0, "4711\n", ""⟩

theorem remoteIsLocal_iff_plain :
    ((sampleTarget {} foundTask).run ["pidof", "-s", "taskd"]).argv =
        some ["pidof", "-s", "taskd"] ∧
      remoteRunCommand sampleConn
          (sampleMachine ["pidof", "-s", "taskd"] foundTask (sampleTarget {} foundTask)) "10s"
          ["pidof", "-s", "taskd"] =
        .ok ⟨0, "4711\n", ""⟩ := by
  have alike := (remoteIsLocal_iff sampleConn (fun _ => false) {} "10s" ["pidof", "-s", "taskd"]
    foundTask (by decide) (by decide)).mpr
    ⟨⟨0, rfl⟩, rfl, by decide, fun first isFirst => by cases isFirst; decide⟩
  have reaches : sampleConn.Reaches
      (sampleMachine ["pidof", "-s", "taskd"] foundTask (sampleTarget {} foundTask))
      (sampleTarget {} foundTask) ["pidof", "-s", "taskd"] := ⟨rfl, by decide⟩
  exact alike _ (sampleTarget {} foundTask) ⟨0, "4711\n", ""⟩ rfl rfl (by decide) rfl reaches
    (by decide)

/-- A space splits an argument, a signal is reported as a negative exit code, and the warning about
the host key is taken for the program's. -/
theorem remoteRunCommand_not_local :
    ((sampleTarget {} quietExit).run ["cat", "a b"]).argv = some ["cat", "a", "b"] ∧
      localRunCommand (sampleMachine ["reboot"] killed (sampleTarget {} killed)) "10s"
        ["reboot"] = .ok ⟨137, "", ""⟩ ∧
      remoteRunCommand sampleConn (sampleMachine ["reboot"] killed (sampleTarget {} killed)) "10s"
        ["reboot"] = .ok ⟨-9, "", ""⟩ ∧
      remoteRunCommand sampleConn
        (sampleMachine ["reboot"] quietExit (sampleTarget hostKeyWarning quietExit)) "10s"
        ["reboot"] = .ok ⟨0, "", hostKeyWarning.opening⟩ ∧
      ¬ RemoteIsLocal sampleConn (fun _ => false) {} "10s" ["cat", "a b"] quietExit ∧
      ¬ RemoteIsLocal sampleConn (fun _ => false) {} "10s" ["reboot"] killed ∧
      ¬ RemoteIsLocal sampleConn (fun _ => false) hostKeyWarning "10s" ["reboot"] quietExit := by
  refine ⟨by decide, by decide, by decide, by decide, fun alike => ?_, fun alike => ?_,
    fun alike => ?_⟩
  · have same := alike (sampleMachine ["cat", "a b"] quietExit (sampleTarget {} quietExit))
      (sampleTarget {} quietExit) ⟨0, "", ""⟩ rfl rfl (by decide) rfl ⟨rfl, by decide⟩ (by decide)
    exact absurd same.1 (by decide)
  · have same := alike (sampleMachine ["reboot"] killed (sampleTarget {} killed))
      (sampleTarget {} killed) ⟨137, "", ""⟩ rfl rfl (by decide) rfl ⟨rfl, by decide⟩ (by decide)
    exact absurd same.2 (by decide)
  · have same := alike
      (sampleMachine ["reboot"] quietExit (sampleTarget hostKeyWarning quietExit))
      (sampleTarget hostKeyWarning quietExit) ⟨0, "", ""⟩ rfl rfl (by decide) rfl
      ⟨rfl, by decide⟩ (by decide)
    exact absurd same.2 (by decide)

end OcpDiag.HwInterface
