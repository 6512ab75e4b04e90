import OcpDiag.HwInterface.Status

set_option autoImplicit false

/- Running a command on this host and, over ssh, on another. -/
namespace OcpDiag.HwInterface

/-- HostAdapter::CommandResult, and ConnInterface::CommandResult. -/
structure CommandResult where
  exitCode : Int
  stdout : String
  stderr : String
  deriving DecidableEq, Repr

/-- A status of `waitpid`. -/
inductive WaitStatus where
  | exited (code : Nat)
  | signaled (signal : Nat)
  | other (status : Int)
  deriving DecidableEq, Repr

/-- What the parent sees of a child before the timeout; an output that cannot be read in full is
absent. -/
inductive ChildOutcome where
  | finished (status : WaitStatus) (stdout stderr : Option String)
  | waitFailed (error : String)
  | timedOut
  deriving DecidableEq, Repr

inductive ExecError where
  | notFound
  | other
  deriving DecidableEq, Repr

/-- The answers of the operating system; an absent error is a success. -/
structure Machine where
  stdoutTmpfile : Option String := none
  stderrTmpfile : Option String := none
  pipe : Option String := none
  fork : Option String := none
  writeStdin : String → Option String := fun _ => none
  execvp : List String → Except ExecError ChildOutcome
  /-- The child that goes on in a copy of the program when `execvp` fails. -/
  strayChild : ChildOutcome := .timedOut

/-- `c_str`, as a C function reads it. -/
def cString (text : String) : String := String.ofList (text.toList.takeWhile (· ≠ '\x00'))

def readLocalFile (contents : Option String) : StatusOr String :=
  match contents with
  | some text => .ok text
  | none => .error ⟨.internal, "Failed to read entirety of file."⟩

def localExitCode : WaitStatus → StatusOr Int
  | .exited code => .ok code
  | .signaled signal => .ok (128 + signal)
  | .other status => .error ⟨.internal,
      "Unexpected state: waitpid returned when subprocess neither exited " ++
        "nor terminated by signal. status=" ++ toString status⟩

/-- The child exits with 127 or 126 when there is nothing to run. -/
def localChild (machine : Machine) (argv : List String) : ChildOutcome :=
  match machine.execvp argv with
  | .ok outcome => outcome
  | .error .notFound => .finished (.exited 127) (some "") (some "")
  | .error .other => .finished (.exited 126) (some "") (some "")

/-- LocalHostAdapter::RunCommand, with the timeout as absl::FormatDuration shows it. -/
def localRunCommand (machine : Machine) (timeout : String) (args : List String) :
    StatusOr CommandResult :=
  if args.isEmpty then .error ⟨.invalidArgument, "Empty args."⟩
  else if machine.stdoutTmpfile.isSome || machine.stderrTmpfile.isSome then
    .error ⟨.internal, "Failed to create tmpfile file."⟩
  else
    match machine.fork with
    | some error => .error ⟨.internal, "Failed to fork the process: " ++ error ++ "."⟩
    | none =>
        match localChild machine (args.map cString) with
        | .timedOut => .error ⟨.deadlineExceeded, "Command failed to finish in " ++ timeout ++ "."⟩
        | .waitFailed error =>
            .error ⟨.internal, "Failed to wait for the child process.: " ++ error⟩
        | .finished status stdout stderr => do
            let exitCode ← localExitCode status
            let stdout ← readLocalFile stdout
            let stderr ← readLocalFile stderr
            return { exitCode, stdout, stderr }

structure NodeSpec where
  address : String
  deriving DecidableEq, Repr

structure CommandOption where
  stdoutFile : String := ""
  stderrFile : String := ""
  deriving DecidableEq, Repr

structure SshConnInterface where
  nodeSpec : NodeSpec
  sshKeyPath : String := ""
  sshTunnelFilePath : String := ""
  sshBinPath : String := "ssh"
  deriving DecidableEq, Repr

def kDefaultSshUser : String := "root"

namespace SshConnInterface

def generateSshArg (conn : SshConnInterface) (args : List String) : List String :=
  [conn.sshBinPath, kDefaultSshUser ++ "@" ++ conn.nodeSpec.address] ++
    (if conn.sshKeyPath.isEmpty then [] else ["-i", conn.sshKeyPath]) ++
    (if conn.sshTunnelFilePath.isEmpty then [] else ["-S", conn.sshTunnelFilePath]) ++
    ["-o", "StrictHostKeyChecking=no", "-o", "UserKnownHostsFile=/dev/null"] ++ args

end SshConnInterface

/-- The exit code is negative when the child is terminated by a signal. -/
def sshExitCode : WaitStatus → StatusOr Int
  | .exited code => .ok code
  | .signaled signal => .ok (-signal)
  | .other _ => .error ⟨.internal,
      "Unexpected state: waitpid returned when subprocess neither exited " ++
        "nor terminated by signal."⟩

def sshChild (machine : Machine) (argv : List String) : ChildOutcome :=
  match machine.execvp argv with
  | .ok outcome => outcome
  | .error _ => machine.strayChild

namespace SshConnInterface

def runCommandWithStdin (conn : SshConnInterface) (machine : Machine) (timeout stdin : String)
    (args : List String) (options : CommandOption) : StatusOr CommandResult :=
  if !options.stdoutFile.isEmpty || !options.stderrFile.isEmpty then
    .error ⟨.unimplemented,
      "Stdout/stderr redirection is requested but not yet implemented."⟩
  else
    match machine.stdoutTmpfile, machine.stderrTmpfile, machine.pipe, machine.fork with
    | some error, _, _, _ =>
        .error ⟨.internal, "Failed to create stdout file for the command: " ++ error ++ "."⟩
    | none, some error, _, _ =>
        .error ⟨.internal, "Failed to create stderr file for the command: " ++ error ++ "."⟩
    | none, none, some error, _ =>
        .error ⟨.internal, "Failed to create pipe for the command: " ++ error ++ "."⟩
    | none, none, none, some error =>
        .error ⟨.internal, "Failed to fork the process: " ++ error ++ "."⟩
    | none, none, none, none =>
        -- with nothing to write the loop makes no call
        match (if stdin.isEmpty then none else machine.writeStdin stdin) with
        | some error => .error ⟨.internal, "Failed to write all data to pipe: " ++ error ++ "."⟩
        | none =>
            match sshChild machine ((conn.generateSshArg args).map cString) with
            | .timedOut =>
                .error ⟨.deadlineExceeded, "Command failed to finish in " ++ timeout ++ "."⟩
            | .waitFailed _ => .error ⟨.internal, "Failed to wait for the child process."⟩
            | .finished status stdout stderr => do
                let exitCode ← sshExitCode status
                let stdout ← readLocalFile stdout
                let stderr ← readLocalFile stderr
                return { exitCode, stdout, stderr }

def runCommand (conn : SshConnInterface) (machine : Machine) (timeout : String)
    (args : List String) (options : CommandOption) : StatusOr CommandResult :=
  conn.runCommandWithStdin machine timeout "" args options

end SshConnInterface

/-- RemoteHostAdapter::RunCommand over an ssh connection. -/
def remoteRunCommand (conn : SshConnInterface) (machine : Machine) (timeout : String)
    (args : List String) : StatusOr CommandResult := do
  let result ← conn.runCommand machine timeout args {}
  return { exitCode := result.exitCode, stdout := result.stdout, stderr := result.stderr }

end OcpDiag.HwInterface
