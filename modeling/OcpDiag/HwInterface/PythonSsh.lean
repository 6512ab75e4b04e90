import Mathlib.Logic.Function.Basic

set_option autoImplicit false

/- Lists as mutable objects: two names for one object see the same changes. -/
namespace ListHeap

variable {Ref α : Type} [DecidableEq Ref]

abbrev Heap (Ref α : Type) : Type := Ref → List α

/-- An index beyond the end stands for the end. -/
def Heap.insert (heap : Heap Ref α) (list : Ref) (index : Nat) (value : α) : Heap Ref α :=
  Function.update heap list ((heap list).take index ++ value :: (heap list).drop index)

variable (heap : Heap Ref α) (list : Ref) (values : List α)

/-- Two inserts into one list are an insert into its contents. -/
theorem insert_update (index : Nat) (value : α) :
    Heap.insert (Function.update heap list values) list index value =
      Function.update heap list (values.take index ++ value :: values.drop index) := by
  rw [Heap.insert, Function.update_self, Function.update_idem]

end ListHeap

/- The ssh connection of the Python library, whose arguments are mutable lists. -/
namespace OcpDiag.HwInterface.PythonSsh

open ListHeap

abbrev Bytes : Type := List UInt8

structure CommandOption where
  stdoutFile : String := ""
  stderrFile : String := ""
  deriving DecidableEq, Repr

structure CommandResult where
  exitCode : Int
  stdout : Bytes
  stderr : Bytes
  deriving DecidableEq, Repr

inductive Exception where
  | notImplementedError (text : String)
  | timeoutError
  | runtimeError (exception : String)
  deriving DecidableEq, Repr

/-- What comes of subprocess.run. -/
inductive CompletedProcess where
  | completed (returncode : Int) (stdout stderr : Bytes)
  | timeoutExpired
  | raised (exception : String)
  deriving DecidableEq, Repr

/-- subprocess.run, which copies its list. The time is in microseconds. -/
abbrev SubprocessRun : Type := List String → Bytes → Int → CompletedProcess

structure SSHConn where
  address : String
  sshKeyPath : String
  sshTunnelFilePath : String
  sshBinPath : String
  deriving DecidableEq, Repr

def sshDefaultUser : String := "root"

variable {Ref : Type} [DecidableEq Ref]

namespace SSHConn

/-- The list that is returned is the list of the caller. -/
def generateSshArgs (conn : SSHConn) (command : Ref) (heap : Heap Ref String) :
    Ref × Heap Ref String :=
  let sshArgs := command
  let heap := heap.insert sshArgs 0 conn.sshBinPath
  let heap := heap.insert sshArgs 1 (sshDefaultUser ++ "@" ++ conn.address)
  let heap := if conn.sshKeyPath.isEmpty then heap
    else (heap.insert sshArgs 2 "-i").insert sshArgs 3 conn.sshKeyPath
  let heap := if conn.sshTunnelFilePath.isEmpty then heap
    else (heap.insert sshArgs 2 "-S").insert sshArgs 3 conn.sshTunnelFilePath
  (sshArgs, heap)

end SSHConn

def CommandOption.redirects (opts : CommandOption) : Bool :=
  !opts.stdoutFile.isEmpty || !opts.stderrFile.isEmpty

def commandResult : CompletedProcess → Except Exception CommandResult
  | .completed returncode stdout stderr => .ok { exitCode := returncode, stdout, stderr }
  | .timeoutExpired => .error .timeoutError
  | .raised exception => .error (.runtimeError exception)

/-- How a call ends: its result, the vector it was built for, and the lists after it. -/
structure Ended (Ref : Type) where
  result : Except Exception CommandResult
  vector : Option (List String)
  heap : Heap Ref String

def SSHConn.runCommand (conn : SSHConn) (run : SubprocessRun) (duration : Int) (stdin : Bytes)
    (args : Ref) (opts : CommandOption) (heap : Heap Ref String) : Ended Ref :=
  if opts.redirects then
    ⟨.error (.notImplementedError
      "Stdout/stderr redirection is requested but not yet implemented."), none, heap⟩
  else
    let (sshArgs, heap) := conn.generateSshArgs args heap
    ⟨commandResult (run (heap sshArgs) stdin duration), some (heap sshArgs), heap⟩

inductive Call where
  | generateSshArgs
  | runCommand (run : SubprocessRun) (duration : Int) (stdin : Bytes) (opts : CommandOption)

/-- The vector that a call builds from the list, as it is at the end of the call. -/
def Call.run (conn : SSHConn) (args : Ref) (heap : Heap Ref String) :
    Call → Option (List String) × Heap Ref String
  | .generateSshArgs =>
      let (sshArgs, heap) := conn.generateSshArgs args heap
      (some (heap sshArgs), heap)
  | .runCommand run duration stdin opts =>
      let ended := conn.runCommand run duration stdin args opts heap
      (ended.vector, ended.heap)

/-- The vectors of the calls in their order, and the lists after them. -/
def runCalls (conn : SSHConn) (args : Ref) (heap : Heap Ref String) :
    List Call → List (Option (List String)) × Heap Ref String
  | [] => ([], heap)
  | call :: calls =>
      let (vector, heap) := call.run conn args heap
      let (vectors, heap) := runCalls conn args heap calls
      (vector :: vectors, heap)

/-- The arguments of ssh itself. -/
def SSHConn.options (conn : SSHConn) : List String :=
  [conn.sshBinPath, sshDefaultUser ++ "@" ++ conn.address] ++
    (if conn.sshTunnelFilePath.isEmpty then [] else ["-S", conn.sshTunnelFilePath]) ++
    (if conn.sshKeyPath.isEmpty then [] else ["-i", conn.sshKeyPath])

/-- The call goes on to build a vector. -/
def Call.builds : Call → Bool
  | .generateSshArgs => true
  | .runCommand _ _ _ opts => !opts.redirects

section Runs

variable (conn : SSHConn) (args : Ref) (heap : Heap Ref String)

/-- The options stand before what the list held. -/
theorem generateSshArgs_eq :
    conn.generateSshArgs args heap =
      (args, Function.update heap args (conn.options ++ heap args)) := by
  have first : heap.insert args 0 conn.sshBinPath =
      Function.update heap args (conn.sshBinPath :: heap args) := by
    simp [Heap.insert]
  unfold SSHConn.generateSshArgs SSHConn.options
  simp only [first, insert_update]
  cases conn.sshKeyPath.isEmpty <;> cases conn.sshTunnelFilePath.isEmpty <;>
    simp [insert_update]

theorem call_run_builds (call : Call) (builds : call.builds = true) :
    call.run conn args heap =
      (some (conn.options ++ heap args),
        Function.update heap args (conn.options ++ heap args)) := by
  cases call with
  | generateSshArgs => simp [Call.run, generateSshArgs_eq]
  | runCommand run duration stdin opts =>
      have plain : opts.redirects = false := by simpa [Call.builds] using builds
      simp [Call.run, SSHConn.runCommand, plain, generateSshArgs_eq]

theorem call_run_redirects (call : Call) (builds : call.builds = false) :
    call.run conn args heap = (none, heap) := by
  cases call with
  | generateSshArgs => cases builds
  | runCommand run duration stdin opts =>
      have redirects : opts.redirects = true := by simpa [Call.builds] using builds
      simp [Call.run, SSHConn.runCommand, redirects]

/-- The options stand in the list once for each call that built a vector. -/
theorem runCalls_heap (calls : List Call) :
    (runCalls conn args heap calls).2 =
      Function.update heap args
        ((List.replicate (calls.countP (·.builds)) conn.options).flatten ++ heap args) := by
  induction calls generalizing heap with
  | nil => simp [runCalls]
  | cons call calls ih =>
      cases builds : call.builds with
      | true =>
          have more : (call :: calls).countP (·.builds) = calls.countP (·.builds) + 1 :=
            List.countP_cons_of_pos builds
          rw [runCalls, call_run_builds conn args heap call builds, more,
            List.replicate_succ', List.flatten_append]
          simp [ih]
      | false =>
          have same : (call :: calls).countP (·.builds) = calls.countP (·.builds) :=
            List.countP_cons_of_neg (by simp [builds])
          rw [runCalls, call_run_redirects conn args heap call builds, same]
          exact ih heap

/-- No vector comes of calls that ask for files. -/
theorem runCalls_none (calls : List Call) (redirect : ∀ call ∈ calls, call.builds = false) :
    runCalls conn args heap calls = (calls.map (fun _ => none), heap) := by
  induction calls with
  | nil => rfl
  | cons call calls ih =>
      obtain ⟨here, later⟩ := List.forall_mem_cons.mp redirect
      rw [runCalls, call_run_redirects conn args heap call here]
      simp only [ih later, List.map_cons]

/-- The list is in the end what it was, and every vector that is built is made of the options and
of what the list was. -/
structure LeavesAlone (calls : List Call) : Prop where
  unchanged : (runCalls conn args heap calls).2 args = heap args
  vectors : ∀ vector, some vector ∈ (runCalls conn args heap calls).1 →
    vector = conn.options ++ heap args

/-- The calls leave the list alone exactly when none of them builds a vector. -/
theorem leavesAlone_iff (calls : List Call) :
    LeavesAlone conn args heap calls ↔ ∀ call ∈ calls, call.builds = false := by
  constructor
  · intro alone call member
    by_contra builds
    have nonempty : 0 < calls.countP (·.builds) :=
      List.countP_pos_iff.mpr ⟨call, member, by simpa using builds⟩
    have lengths := congrArg List.length alone.unchanged
    have longer : 0 < conn.options.length := by simp [SSHConn.options]
    have added := Nat.mul_pos nonempty longer
    rw [runCalls_heap, Function.update_self, List.length_append, List.length_flatten,
      List.map_replicate, List.sum_replicate_nat] at lengths
    omega
  · intro redirect
    have nothing := runCalls_none conn args heap calls redirect
    refine ⟨by rw [nothing], ?_⟩
    intro vector member
    rw [nothing] at member
    simp at member

end Runs

/-- One call already puts the arguments of ssh into the list. -/
theorem leavesAlone_not_cat :
    ¬ ∀ (conn : SSHConn) (args : Unit) (heap : Heap Unit String) (calls : List Call),
      LeavesAlone conn args heap calls := by
  intro alone
  let conn : SSHConn := ⟨"node", "", "", "ssh"⟩
  have unchanged :=
    (alone conn () (fun _ => ["cat", "file"]) [.generateSshArgs]).unchanged
  rw [runCalls_heap, Function.update_self] at unchanged
  exact absurd unchanged (by decide)

end OcpDiag.HwInterface.PythonSsh
