import OcpDiag.HwInterface.PythonSsh

set_option autoImplicit false

/- Remote files by the Python library, between calls whose lists the test keeps. -/
namespace OcpDiag.HwInterface.PythonSsh

open ListHeap

/-- The lists of the interpreter; those from `allocated` on do not exist yet. -/
structure Store where
  heap : Heap Nat String := fun _ => []
  allocated : Nat := 0

/-- A list display, which makes a new object. -/
def Store.alloc (store : Store) (items : List String) : Nat × Store :=
  (store.allocated, ⟨Function.update store.heap store.allocated items, store.allocated + 1⟩)

/-- DEFAULT_IO_TIMEOUT. -/
def defaultIoTimeout : Int := 900000000

inductive FileException where
  | ioError (exitCode : Int)
  | ofCommand (exception : Exception)
  deriving DecidableEq, Repr

/-- How a file call ends, with the vector that its command was run for. -/
structure FileEnded (α : Type) where
  result : Except FileException α
  vector : Option (List String)
  store : Store

def readResult : Except Exception CommandResult → Except FileException Bytes
  | .error exception => .error (.ofCommand exception)
  | .ok result =>
      if result.exitCode = 0 then .ok result.stdout else .error (.ioError result.exitCode)

def writeResult : Except Exception CommandResult → Except FileException Unit
  | .error exception => .error (.ofCommand exception)
  | .ok result => if result.exitCode ≠ 0 then .error (.ioError result.exitCode) else .ok ()

namespace SSHConn

def readFile (conn : SSHConn) (run : SubprocessRun) (path : String) (store : Store) :
    FileEnded Bytes :=
  let (args, store) := store.alloc ["cat", path]
  let ended := conn.runCommand run defaultIoTimeout [] args {} store.heap
  ⟨readResult ended.result, ended.vector, { store with heap := ended.heap }⟩

def writeFile (conn : SSHConn) (run : SubprocessRun) (path : String) (data : Bytes)
    (store : Store) : FileEnded Unit :=
  let (args, store) := store.alloc ["cat", ">", path]
  let ended := conn.runCommand run defaultIoTimeout data args {} store.heap
  ⟨writeResult ended.result, ended.vector, { store with heap := ended.heap }⟩

end SSHConn

/-- What a test does: it makes lists, passes them to calls, and reads and writes files. -/
inductive Operation where
  | newList (items : List String)
  | use (args : Nat) (call : Call)
  | readFile (run : SubprocessRun) (path : String)
  | writeFile (run : SubprocessRun) (path : String) (data : Bytes)

inductive Reply where
  | listed (list : Nat)
  | built (vector : Option (List String))
  | read (vector : Option (List String)) (result : Except FileException Bytes)
  | wrote (vector : Option (List String)) (result : Except FileException Unit)

def Operation.perform (conn : SSHConn) (store : Store) : Operation → Reply × Store
  | .newList items =>
      let (list, store) := store.alloc items
      (.listed list, store)
  | .use args call =>
      let (vector, heap) := call.run conn args store.heap
      (.built vector, { store with heap })
  | .readFile run path =>
      let ended := conn.readFile run path store
      (.read ended.vector ended.result, ended.store)
  | .writeFile run path data =>
      let ended := conn.writeFile run path data store
      (.wrote ended.vector ended.result, ended.store)

def performAll (conn : SSHConn) (store : Store) : List Operation → List Reply × Store
  | [] => ([], store)
  | operation :: rest =>
      let (reply, store) := operation.perform conn store
      let (replies, store) := performAll conn store rest
      (reply :: replies, store)

/-- The operation builds a vector from this list. -/
def Operation.buildsFrom (list : Nat) : Operation → Bool
  | .use args call => args == list && call.builds
  | _ => false

/-- What a list holds after some operations: the options once for each vector built from it. -/
def grown (conn : SSHConn) (list : Nat) (items : List String) (operations : List Operation) :
    List String :=
  (List.replicate (operations.countP (·.buildsFrom list)) conn.options).flatten ++ items

/-- The reply of an operation after others; that of a file call depends on none of them. -/
def Operation.Replies (conn : SSHConn) (start : Store) (earlier : List Operation) :
    Operation → Reply → Prop
  | .newList _, reply => ∃ list, start.allocated ≤ list ∧ reply = .listed list
  | .use args call, reply => args < start.allocated →
      reply = .built (if call.builds then
        some (conn.options ++ grown conn args (start.heap args) earlier) else none)
  | .readFile run path, reply =>
      let vector := conn.options ++ ["cat", path]
      reply = .read (some vector)
        (readResult (commandResult (run vector [] defaultIoTimeout)))
  | .writeFile run path data, reply =>
      let vector := conn.options ++ ["cat", ">", path]
      reply = .wrote (some vector)
        (writeResult (commandResult (run vector data defaultIoTimeout)))

section Operations

variable (conn : SSHConn)

/-- A command on a new list is run for the options and its items, and changes that list alone. -/
theorem runCommand_alloc (run : SubprocessRun) (duration : Int) (stdin : Bytes)
    (items : List String) (store : Store) :
    conn.runCommand run duration stdin (store.alloc items).1 {} (store.alloc items).2.heap =
      ⟨commandResult (run (conn.options ++ items) stdin duration), some (conn.options ++ items),
        Function.update store.heap store.allocated (conn.options ++ items)⟩ := by
  simp [SSHConn.runCommand, CommandOption.redirects, Store.alloc, generateSshArgs_eq]

theorem readFile_eq (run : SubprocessRun) (path : String) (store : Store) :
    conn.readFile run path store =
      ⟨readResult (commandResult (run (conn.options ++ ["cat", path]) [] defaultIoTimeout)),
        some (conn.options ++ ["cat", path]),
        ⟨Function.update store.heap store.allocated (conn.options ++ ["cat", path]),
          store.allocated + 1⟩⟩ := by
  unfold SSHConn.readFile
  dsimp only
  rw [runCommand_alloc]
  rfl

theorem writeFile_eq (run : SubprocessRun) (path : String) (data : Bytes) (store : Store) :
    conn.writeFile run path data store =
      ⟨writeResult (commandResult (run (conn.options ++ ["cat", ">", path]) data
          defaultIoTimeout)),
        some (conn.options ++ ["cat", ">", path]),
        ⟨Function.update store.heap store.allocated (conn.options ++ ["cat", ">", path]),
          store.allocated + 1⟩⟩ := by
  unfold SSHConn.writeFile
  dsimp only
  rw [runCommand_alloc]
  rfl

/-- An operation grows the lists it builds from, and no other that exists. -/
theorem perform_heap (store : Store) (operation : Operation) (list : Nat)
    (inStore : list < store.allocated) :
    list < (operation.perform conn store).2.allocated ∧
      (operation.perform conn store).2.heap list =
        grown conn list (store.heap list) [operation] := by
  have other : list ≠ store.allocated := Nat.ne_of_lt inStore
  unfold grown
  cases operation with
  | newList items =>
      exact ⟨Nat.lt_succ_of_lt inStore, Function.update_of_ne other _ _⟩
  | use args call =>
      refine ⟨inStore, ?_⟩
      cases builds : call.builds with
      | true =>
          have built := call_run_builds conn args store.heap call builds
          by_cases same : args = list
          · subst same
            simp [Operation.perform, built, Operation.buildsFrom, builds]
          · have apart : list ≠ args := Ne.symm same
            simp [Operation.perform, built, Operation.buildsFrom, builds, same, apart]
      | false =>
          have unbuilt := call_run_redirects conn args store.heap call builds
          simp [Operation.perform, unbuilt, Operation.buildsFrom, builds]
  | readFile run path =>
      rw [Operation.perform, readFile_eq]
      exact ⟨Nat.lt_succ_of_lt inStore, Function.update_of_ne other _ _⟩
  | writeFile run path data =>
      rw [Operation.perform, writeFile_eq]
      exact ⟨Nat.lt_succ_of_lt inStore, Function.update_of_ne other _ _⟩

theorem grown_append (list : Nat) (items : List String) (earlier later : List Operation) :
    grown conn list (grown conn list items earlier) later =
      grown conn list items (earlier ++ later) := by
  unfold grown
  rw [← List.append_assoc, ← List.flatten_append, List.replicate_append_replicate,
    List.countP_append, Nat.add_comm]

theorem performAll_heap (store : Store) (operations : List Operation) (list : Nat)
    (inStore : list < store.allocated) :
    list < (performAll conn store operations).2.allocated ∧
      (performAll conn store operations).2.heap list =
        grown conn list (store.heap list) operations := by
  induction operations generalizing store with
  | nil => exact ⟨inStore, rfl⟩
  | cons operation rest ih =>
      obtain ⟨still, here⟩ := perform_heap conn store operation list inStore
      obtain ⟨after, later⟩ := ih (operation.perform conn store).2 still
      refine ⟨after, later.trans ?_⟩
      rw [here]
      exact grown_append conn list (store.heap list) [operation] rest

theorem performAll_append (store : Store) (earlier later : List Operation) :
    performAll conn store (earlier ++ later) =
      ((performAll conn store earlier).1 ++
          (performAll conn (performAll conn store earlier).2 later).1,
        (performAll conn (performAll conn store earlier).2 later).2) := by
  induction earlier generalizing store with
  | nil => rfl
  | cons operation rest ih =>
      rw [List.cons_append, performAll, performAll]
      dsimp only
      rw [ih]
      rfl

theorem performAll_length (store : Store) (operations : List Operation) :
    (performAll conn store operations).1.length = operations.length := by
  induction operations generalizing store with
  | nil => rfl
  | cons operation rest ih =>
      rw [performAll]
      exact congrArg (· + 1) (ih _)

theorem perform_allocated (store : Store) (operation : Operation) :
    store.allocated ≤ (operation.perform conn store).2.allocated := by
  cases operation with
  | newList items => exact Nat.le_succ _
  | use args call => exact Nat.le_refl _
  | readFile run path => rw [Operation.perform, readFile_eq]; exact Nat.le_succ _
  | writeFile run path data => rw [Operation.perform, writeFile_eq]; exact Nat.le_succ _

theorem performAll_allocated (store : Store) (operations : List Operation) :
    store.allocated ≤ (performAll conn store operations).2.allocated := by
  induction operations generalizing store with
  | nil => exact Nat.le_refl _
  | cons operation rest ih =>
      exact Nat.le_trans (perform_allocated conn store operation) (ih _)

theorem perform_replies (store : Store) (earlier : List Operation) (operation : Operation) :
    operation.Replies conn store earlier
      (operation.perform conn (performAll conn store earlier).2).1 := by
  cases operation with
  | newList items => exact ⟨_, performAll_allocated conn store earlier, rfl⟩
  | use args call =>
      intro inStore
      have held := (performAll_heap conn store earlier args inStore).2
      cases builds : call.builds with
      | true =>
          have built := call_run_builds conn args (performAll conn store earlier).2.heap call builds
          simp [Operation.perform, built, held]
      | false =>
          have unbuilt :=
            call_run_redirects conn args (performAll conn store earlier).2.heap call builds
          simp [Operation.perform, unbuilt]
  | readFile run path =>
      rw [Operation.perform, readFile_eq]
      rfl
  | writeFile run path data =>
      rw [Operation.perform, writeFile_eq]
      rfl

end Operations

/-- The flags of the factory, and distutils.spawn.find_executable. -/
structure Factory where
  miServiceAddr : String := ""
  remoteSshKeyPath : String := ""
  remoteSshTunnelFilePath : String := ""
  findExecutable : String → Option String

inductive FactoryException where
  | notImplementedError (text : String)
  | valueError (text : String)
  deriving DecidableEq, Repr

def newConn (factory : Factory) (address : String) : Except FactoryException SSHConn :=
  if !factory.miServiceAddr.isEmpty then
    .error (.notImplementedError "Machine interface is requested but not yet implemented.")
  else if address.isEmpty then .error (.valueError "Machine node address must not be empty.")
  else
    match factory.findExecutable "ssh" with
    | none => .error (.valueError "Unable to find ssh executable")
    | some sshPath =>
        if sshPath ∉ ["/bin/ssh", "/usr/bin/ssh"] then
          .error (.valueError ("SSH exec path (" ++ sshPath ++ ") not among expected values."))
        else .ok {
          address
          sshKeyPath := factory.remoteSshKeyPath
          sshTunnelFilePath := factory.remoteSshTunnelFilePath
          sshBinPath := sshPath }

theorem newConn_ok {factory : Factory} {address : String} {conn : SSHConn}
    (made : newConn factory address = .ok conn) :
    address ≠ "" ∧ conn.address = address ∧ conn.sshBinPath ∈ ["/bin/ssh", "/usr/bin/ssh"] := by
  unfold newConn at made
  split at made
  · cases made
  · split at made
    · cases made
    · rename_i named
      split at made
      · cases made
      · split at made
        · cases made
        · rename_i expected
          obtain rfl := Except.ok.inj made
          exact ⟨by simpa using named, rfl, not_not.mp expected⟩

/-- Whatever a test does with a connection in between, a file is read and written by the same
command, which an expected ssh runs for the root of its node, and the lists of the test hold the
options once for each vector built from them. -/
theorem performAll_exact (factory : Factory) (address : String) (conn : SSHConn)
    (made : newConn factory address = .ok conn) (store : Store) (operations : List Operation) :
    (∃ ssh ∈ ["/bin/ssh", "/usr/bin/ssh"], ∃ options,
      conn.options = [ssh, "root@" ++ address] ++ options) ∧
    (∀ list < store.allocated, (performAll conn store operations).2.heap list =
      grown conn list (store.heap list) operations) ∧
    ∀ earlier operation later, operations = earlier ++ operation :: later →
      ∃ reply, (performAll conn store operations).1[earlier.length]? = some reply ∧
        operation.Replies conn store earlier reply := by
  obtain ⟨-, rfl, expected⟩ := newConn_ok made
  refine ⟨⟨conn.sshBinPath, expected, _, List.append_assoc _ _ _⟩,
    fun list inStore => (performAll_heap conn store operations list inStore).2, ?_⟩
  rintro earlier operation later rfl
  refine ⟨_, ?_, perform_replies conn store earlier operation⟩
  have before := performAll_length conn store earlier
  rw [performAll_append]
  dsimp only
  rw [List.getElem?_append_right (Nat.le_of_eq before), before, Nat.sub_self]
  rfl

def nodeFactory : Factory where
  findExecutable name := some ("/usr/bin/" ++ name)

def nodeConn : SSHConn := ⟨"node", "", "", "/usr/bin/ssh"⟩

/-- A list that is passed on twice, and a file in between. -/
def fileOperations : List Operation :=
  [.newList ["uptime"], .use 0 .generateSshArgs,
    .readFile (fun _ _ _ => .completed 0 [] []) "/etc/hostname", .use 0 .generateSshArgs]

theorem performAll_exact_fileOperations :
    (∃ ssh ∈ ["/bin/ssh", "/usr/bin/ssh"], ∃ options,
      nodeConn.options = [ssh, "root@" ++ "node"] ++ options) ∧
    (∀ list < ({} : Store).allocated, (performAll nodeConn {} fileOperations).2.heap list =
      grown nodeConn list (({} : Store).heap list) fileOperations) ∧
    ∀ earlier operation later, fileOperations = earlier ++ operation :: later →
      ∃ reply, (performAll nodeConn {} fileOperations).1[earlier.length]? = some reply ∧
        operation.Replies nodeConn {} earlier reply :=
  performAll_exact nodeFactory "node" nodeConn rfl {} fileOperations

end OcpDiag.HwInterface.PythonSsh
