import OcpDiag.Lib.Text
import OcpDiag.HwInterface.RemoteCommand
import Mathlib.Logic.Function.Basic

set_option autoImplicit false

/- Reading and writing a file of another host with `cat` over ssh. -/
namespace OcpDiag.HwInterface

open ShellWords

/-- kRWTimeout, as absl::FormatDuration shows it. -/
def kRwTimeout : String := "15m"

namespace SshConnInterface

def readFile (conn : SshConnInterface) (machine : Machine) (fileName : String) : StatusOr String :=
  match conn.runCommand machine kRwTimeout ["cat", fileName] {} with
  | .error status => .error status
  | .ok result =>
      if result.exitCode ≠ 0 then
        .error ⟨.internal, "Failed to read the file: " ++ fileName ++ "\nstderr: " ++
          result.stderr ++ "\nstdout: " ++ result.stdout ++ "."⟩
      else .ok result.stdout

def writeFile (conn : SshConnInterface) (machine : Machine) (fileName data : String) :
    StatusOr Unit :=
  match conn.runCommandWithStdin machine kRwTimeout data ["cat", ">", fileName] {} with
  | .error status => .error status
  | .ok result =>
      if result.exitCode ≠ 0 then
        .error ⟨.internal, "Failed to write the file: " ++ fileName ++ "\nstderr: " ++
          result.stderr ++ "\nstdout: " ++ result.stdout ++ "\nexirtcode: " ++
          toString result.exitCode⟩
      else .ok ()

end SshConnInterface

/-- RemoteHostAdapter::Read over an ssh connection. -/
def remoteRead (conn : SshConnInterface) (machine : Machine) (path : String) : StatusOr String :=
  conn.readFile machine path

/-- RemoteHostAdapter::Write over an ssh connection. -/
def remoteWrite (conn : SshConnInterface) (machine : Machine) (path data : String) :
    StatusOr Unit :=
  conn.writeFile machine path data

/-- A command line as the shell reads it, as far as its characters are literal. -/
inductive ShellLine where
  | command (words : List (List Char))
  | redirected (words : List (List Char)) (target : List Char)
  /-- A redirection without a file. -/
  | malformed
  | active

/-- A redirection starts with the first `>`, after a blank. -/
def parseRedirection (before after : List Char) : ShellLine :=
  if before.getLast?.any isBlank then
    match literalWords before, literalWords after with
    | some words, some (target :: rest) => .redirected (words ++ rest) target
    | some _, some [] => .malformed
    | _, _ => .active
  else .active

def parseShellLine (text : List Char) : ShellLine :=
  match literalWords text with
  | some words => .command words
  | none =>
      match Text.findFirstOf '>' text with
      | some found => parseRedirection (text.take found) (text.drop (found + 1))
      | none => .active

/-- The contents of the regular files of a host. A character stands for a byte. -/
abbrev RemoteFiles : Type := Nat → Option String

/-- A special file, which need not give back what is written to it: what is read from it, where it
can be read, and which texts it takes. -/
structure Device where
  given : Option String
  accepts : String → Bool

/-- The empty name and the names of directories, by which no file is opened. -/
def isDirectoryName (name : String) : Bool :=
  [[], ['.'], ['.', '.']].contains ((name.toList.reverse.takeWhile (· ≠ '/')).reverse)

/-- A host with a POSIX shell. What a text with active characters does is left open, as is what
cat does with an option or with the dash; its one option takes no argument, so that also then it
fails where one of its arguments can be no file. -/
structure RemoteHost where
  /-- The file that a name is opened as, where it can be opened. -/
  locate : String → Option Nat
  /-- The special files; the others are regular. -/
  device : Nat → Option Device
  /-- What a regular file has room for. -/
  stored : Nat → String → String
  diagnostic : String
  interpret : String → String → RemoteFiles → Behaviour × RemoteFiles
  catOption : List String → String → RemoteFiles → Behaviour
  noDirectory : ∀ name, isDirectoryName name = true → locate name = none
  catOption_fails : ∀ args stdin files, args.any isDirectoryName = true →
    (catOption args stdin files).ending.isFailure = true

/-- An option, or the dash for the standard input. -/
def isDash (arg : String) : Bool := arg.toList.head? = some '-'

namespace RemoteHost

variable (host : RemoteHost)

def fileContents (files : RemoteFiles) (location : Nat) : Option String :=
  match host.device location with
  | some device => device.given
  | none => files location

def contents (files : RemoteFiles) (name : String) : Option String :=
  (host.locate name).bind (host.fileContents files)

/-- cat copies its standard input, or its files one after the other. -/
def cat (args : List String) (stdin : String) (files : RemoteFiles) : Behaviour :=
  if args.any isDash then host.catOption args stdin files
  else if args.isEmpty then ⟨.exited 0, stdin, ""⟩
  else
    let texts := args.map (host.contents files)
    ⟨.exited (if texts.all Option.isSome then 0 else 1), String.join (texts.map (·.getD "")),
      host.diagnostic⟩

/-- The shell opens the file, which makes a regular one empty, before the command runs. -/
def catInto (args : List String) (target stdin : String) (files : RemoteFiles) :
    Behaviour × RemoteFiles :=
  match host.locate target with
  | none => (⟨.exited 1, "", host.diagnostic⟩, files)
  | some location =>
      match host.device location with
      | some device =>
          let behaviour := host.cat args stdin files
          (⟨if device.accepts behaviour.stdout then behaviour.ending else .exited 1, "",
            behaviour.stderr⟩, files)
      | none =>
          let opened := Function.update files location (some "")
          let behaviour := host.cat args stdin opened
          let text := host.stored location behaviour.stdout
          (⟨if text = behaviour.stdout then behaviour.ending else .exited 1, "",
            behaviour.stderr⟩, Function.update opened location (some text))

/-- The shell with the text that ssh hands to it. -/
def shell (text stdin : String) (files : RemoteFiles) : Behaviour × RemoteFiles :=
  match parseShellLine text.toList with
  | .command (command :: args) =>
      if command = "cat".toList then (host.cat (args.map String.ofList) stdin files, files)
      else host.interpret text stdin files
  | .redirected (command :: args) target =>
      if command = "cat".toList then
        host.catInto (args.map String.ofList) (String.ofList target) stdin files
      else host.interpret text stdin files
  | .malformed => (⟨.exited 2, "", host.diagnostic⟩, files)
  | _ => host.interpret text stdin files

/-- ssh joins its arguments with single spaces. -/
def run (args : List String) (stdin : String) (files : RemoteFiles) : Behaviour × RemoteFiles :=
  host.shell (String.intercalate " " args) stdin files

end RemoteHost

/-- A host whose shell refuses these texts with active characters, and on which the other names than
these are those of regular files. -/
structure RemoteHost.Within (host : RemoteHost) (refuses special : String → Bool) : Prop where
  refuses : ∀ text stdin files, refuses text = true →
    (host.interpret text stdin files).1.ending.isFailure = true
  regular : ∀ name location, special name = false → host.locate name = some location →
    host.device location = none

/-- A write that returns OK leaves the data in the file of that name and no other file changed,
and reading the file afterwards returns the data. -/
def RemoteRoundTrips (conn : SshConnInterface) (refuses special : String → Bool) (path : String) :
    Prop :=
  ∀ (machine : Machine) (host : RemoteHost) (files : RemoteFiles) (data : String)
    (writing reading : SshMessages), host.Within refuses special →
    let written := host.run (["cat", ">", path].map cString) data files
    machine.execvp ((conn.generateSshArg ["cat", ">", path]).map cString) =
      .ok (written.1.overSsh writing).outcome →
    machine.execvp ((conn.generateSshArg ["cat", path]).map cString) =
      .ok ((host.run (["cat", path].map cString) "" written.2).1.overSsh reading).outcome →
    remoteWrite conn machine path data = .ok () →
    (∃ location, host.locate path = some location ∧
      host.fileContents written.2 location = some data ∧
      ∀ other, other ≠ location → written.2 other = files other) ∧
    remoteRead conn machine path = .ok data

section

variable {conn : SshConnInterface} {machine : Machine} {args : List String}
  {behaviour : Behaviour}

theorem runCommandWithStdin_ok (timeout stdin : String) (result : CommandResult)
    (ran : machine.execvp ((conn.generateSshArg args).map cString) = .ok behaviour.outcome)
    (ok : conn.runCommandWithStdin machine timeout stdin args {} = .ok result) :
    machine.Ready ∧ sshExitCode behaviour.ending.status = .ok result.exitCode := by
  have ready : machine.Ready ∧
      (if stdin.isEmpty then none else machine.writeStdin stdin) = none := by
    unfold SshConnInterface.runCommandWithStdin at ok
    split at ok
    next => cases ok
    next =>
        split at ok
        next => cases ok
        next => cases ok
        next => cases ok
        next => cases ok
        next stdoutFile stderrFile piped forked =>
            split at ok
            next => cases ok
            next fed => exact ⟨⟨stdoutFile, stderrFile, piped, forked⟩, fed⟩
  refine ⟨ready.1, ?_⟩
  rw [runCommandWithStdin_of_ready ready.1 timeout stdin ready.2 ran] at ok
  cases exit : sshExitCode behaviour.ending.status with
  | error status => rw [exit] at ok; cases ok
  | ok code =>
      rw [exit] at ok
      cases ok
      rfl

theorem remoteWrite_ok (path data : String)
    (ran : machine.execvp ((conn.generateSshArg ["cat", ">", path]).map cString) =
      .ok behaviour.outcome)
    (ok : remoteWrite conn machine path data = .ok ()) :
    machine.Ready ∧ sshExitCode behaviour.ending.status = .ok 0 := by
  unfold remoteWrite SshConnInterface.writeFile at ok
  split at ok
  next => cases ok
  next result finished =>
      obtain ⟨ready, exit⟩ := runCommandWithStdin_ok _ _ _ ran finished
      split at ok
      next => cases ok
      next zero =>
          rw [not_not.mp zero] at exit
          exact ⟨ready, exit⟩

theorem remoteWrite_of_exit (ready : machine.Ready) (path data : String)
    (fed : machine.writeStdin data = none)
    (ran : machine.execvp ((conn.generateSshArg ["cat", ">", path]).map cString) =
      .ok behaviour.outcome)
    (exit : behaviour.ending = .exited 0) : remoteWrite conn machine path data = .ok () := by
  have result := runCommandWithStdin_of_ready ready kRwTimeout data
    (by rw [fed, ite_self]) ran
  rw [exit] at result
  unfold remoteWrite SshConnInterface.writeFile
  rw [result]
  rfl

theorem remoteRead_of_exit (ready : machine.Ready) (path : String)
    (ran : machine.execvp ((conn.generateSshArg ["cat", path]).map cString) =
      .ok behaviour.outcome)
    (exit : behaviour.ending = .exited 0) :
    remoteRead conn machine path = .ok behaviour.stdout := by
  have result := runCommandWithStdin_of_ready ready kRwTimeout "" rfl ran
  rw [exit] at result
  unfold remoteRead SshConnInterface.readFile SshConnInterface.runCommand
  rw [result]
  rfl

end

theorem writeLine_toList (path : String) :
    (String.intercalate " " ["cat", ">", path]).toList = "cat > ".toList ++ path.toList := by
  rw [String.toList_intercalate, List.map_cons, List.map_cons, List.map_singleton,
    List.intercalate_cons_cons, List.intercalate_cons_cons, List.intercalate_singleton]
  rfl

theorem readLine_toList (path : String) :
    (String.intercalate " " ["cat", path]).toList =
      [' '].intercalate ["cat".toList, path.toList] := by
  rw [String.toList_intercalate]
  rfl

theorem parseShellLine_write (path : List Char) :
    parseShellLine ("cat > ".toList ++ path) =
      parseRedirection "cat ".toList (' ' :: path) := by
  have active : literalWords ("cat > ".toList ++ path) = none := rfl
  have found : Text.findFirstOf '>' ("cat > ".toList ++ path) = some 4 := rfl
  unfold parseShellLine
  rw [active, found]
  rfl

theorem literalWords_blank (text : List Char) : literalWords (' ' :: text) = literalWords text := by
  unfold literalWords
  rw [lex]
  simp [isBlank]

theorem parseShellLine_read (path : List Char) (plain : PlainWord path) :
    parseShellLine ([' '].intercalate ["cat".toList, path]) = .command ["cat".toList, path] := by
  have cat : PlainWord "cat".toList := by decide
  have words := literalWords_join ["cat".toList, path] (by
    intro word member
    simp only [List.mem_cons, List.not_mem_nil, or_false] at member
    rcases member with rfl | rfl
    · exact cat
    · exact plain)
  unfold parseShellLine
  rw [words]

section

variable (host : RemoteHost) (files : RemoteFiles) (path stdin : String)

theorem run_write_active (active : literalWords path.toList = none) :
    host.run ["cat", ">", path] stdin files =
      host.interpret (String.intercalate " " ["cat", ">", path]) stdin files := by
  have line : parseShellLine (String.intercalate " " ["cat", ">", path]).toList = .active := by
    rw [writeLine_toList, parseShellLine_write]
    unfold parseRedirection
    rw [literalWords_blank, active]
    rfl
  unfold RemoteHost.run RemoteHost.shell
  rw [line]

theorem run_write_blank (blank : literalWords path.toList = some []) :
    host.run ["cat", ">", path] stdin files = (⟨.exited 2, "", host.diagnostic⟩, files) := by
  have line : parseShellLine (String.intercalate " " ["cat", ">", path]).toList = .malformed := by
    rw [writeLine_toList, parseShellLine_write]
    unfold parseRedirection
    rw [literalWords_blank, blank]
    rfl
  unfold RemoteHost.run RemoteHost.shell
  rw [line]

theorem run_write_words (target : List Char) (rest : List (List Char))
    (words : literalWords path.toList = some (target :: rest)) :
    host.run ["cat", ">", path] stdin files =
      host.catInto (rest.map String.ofList) (String.ofList target) stdin files := by
  have line : parseShellLine (String.intercalate " " ["cat", ">", path]).toList =
      .redirected ("cat".toList :: rest) target := by
    rw [writeLine_toList, parseShellLine_write]
    unfold parseRedirection
    rw [literalWords_blank, words]
    rfl
  unfold RemoteHost.run RemoteHost.shell
  rw [line]
  rfl

theorem run_read (plain : PlainWord path.toList) :
    host.run ["cat", path] stdin files = (host.cat [path] stdin files, files) := by
  unfold RemoteHost.run RemoteHost.shell
  rw [readLine_toList, parseShellLine_read path.toList plain]
  simp only [if_true, List.map_cons, List.map_nil, String.ofList_toList]

end

/-- One plain word, which cat takes for the name of a file. -/
def LiteralPath (path : String) : Prop := PlainWord path.toList ∧ isDash path = false

instance (path : String) : Decidable (LiteralPath path) := inferInstanceAs (Decidable (_ ∧ _))

/-- No host accepts the line that writes: its shells refuse the text, there is no file to redirect
to, or that file or one to read can be no file. -/
def RefusedPath (refuses : String → Bool) (path : String) : Prop :=
  match literalWords path.toList with
  | none => refuses (String.intercalate " " ["cat", ">", path]) = true
  | some words => words = [] ∨ ∃ word ∈ words, isDirectoryName (String.ofList word) = true

theorem literalWords_plain (path : List Char) (plain : PlainWord path) :
    literalWords path = some [path] := by
  have alone := literalWords_join [path] (by
    intro word member
    rwa [List.mem_singleton.mp member])
  rwa [List.intercalate_singleton] at alone

/-- A path among its own words is the only one of them, and plain. -/
theorem plain_of_first_word (path : List Char) (rest : List (List Char))
    (words : literalWords path = some (path :: rest)) : rest = [] ∧ PlainWord path := by
  have bound := lex_size words
  rw [size_cons] at bound
  simp only [Option.getD_none, List.length_nil, Mode.pending] at bound
  have nothing : rest = [] := by
    cases rest with
    | nil => rfl
    | cons word rest =>
        rw [size_cons] at bound
        omega
  subst nothing
  have plain := (literalWords_join_iff [path] (by simp)).mp (by
    rwa [List.intercalate_singleton])
  exact ⟨rfl, plain path List.mem_cons_self⟩

section

variable (host : RemoteHost) (files : RemoteFiles)

theorem catInto_stdin_ok (target data : String)
    (regular : ∀ location, host.locate target = some location → host.device location = none)
    (ok : sshExitCode (host.catInto [] target data files).1.ending.status = .ok 0) :
    ∃ location, host.locate target = some location ∧
      (host.catInto [] target data files).2 = Function.update files location (some data) := by
  unfold RemoteHost.catInto at ok ⊢
  split at ok
  next => cases ok
  next location found =>
      have copied (opened : RemoteFiles) : host.cat [] data opened = ⟨.exited 0, data, ""⟩ := rfl
      simp only [regular location found, copied] at ok ⊢
      split at ok
      next all => exact ⟨location, found, by rw [all, Function.update_idem]⟩
      next => cases ok

theorem cat_one (path stdin data : String) (location : Nat) (name : isDash path = false)
    (found : host.locate path = some location)
    (holds : host.fileContents files location = some data) :
    host.cat [path] stdin files = ⟨.exited 0, data, host.diagnostic⟩ := by
  simp [RemoteHost.cat, RemoteHost.contents, name, found, holds]

theorem not_ok_of_failure {ending : Ending} (failed : ending.isFailure = true) :
    sshExitCode ending.status ≠ .ok 0 := by
  cases ending with
  | exited code => simpa [Ending.isFailure, Ending.status, sshExitCode] using failed
  | signaled signal => simpa [Ending.isFailure, Ending.status, sshExitCode] using failed

/-- cat fails where one of its arguments can be no file. -/
theorem cat_fails (args : List String) (stdin : String)
    (noFile : args.any isDirectoryName = true) :
    (host.cat args stdin files).ending.isFailure = true := by
  unfold RemoteHost.cat
  split
  next => exact host.catOption_fails args stdin files noFile
  next =>
      obtain ⟨name, member, isDirectory⟩ := List.any_eq_true.mp noFile
      have someArgs : args.isEmpty = false := by
        cases args with
        | nil => cases member
        | cons => rfl
      have missing : (args.map (host.contents files)).all Option.isSome = false := by
        rw [Bool.eq_false_iff]
        intro all
        have located := List.all_eq_true.mp all _ (List.mem_map_of_mem member)
        rw [RemoteHost.contents, host.noDirectory name isDirectory] at located
        cases located
      simp only [someArgs, missing, Bool.false_eq_true, if_false]
      rfl

theorem catInto_fails (args : List String) (target stdin : String)
    (noFile : (target :: args).any isDirectoryName = true) :
    (host.catInto args target stdin files).1.ending.isFailure = true := by
  unfold RemoteHost.catInto
  split
  next => rfl
  next location found =>
      have notTarget : isDirectoryName target = false := by
        rw [Bool.eq_false_iff]
        intro isDirectory
        rw [host.noDirectory target isDirectory] at found
        cases found
      rw [List.any_cons, notTarget, Bool.false_or] at noFile
      have fails (opened : RemoteFiles) := cat_fails host opened args stdin noFile
      split
      next =>
          dsimp only
          split
          · exact fails _
          · rfl
      next =>
          dsimp only
          split
          · exact fails _
          · rfl

/-- A host refuses to write such a path. -/
theorem run_refused {refuses special : String → Bool} (within : host.Within refuses special)
    (path data : String) (refused : RefusedPath refuses path) :
    (host.run ["cat", ">", path] data files).1.ending.isFailure = true := by
  unfold RefusedPath at refused
  split at refused
  next lexed =>
      rw [run_write_active host files path data lexed]
      exact within.refuses _ _ _ refused
  next words lexed =>
      cases words with
      | nil =>
          rw [run_write_blank host files path data lexed]
          rfl
      | cons target rest =>
          rw [run_write_words host files path data target rest lexed]
          apply catInto_fails host files
          obtain ⟨word, member, isDirectory⟩ := refused.resolve_left (List.cons_ne_nil _ _)
          exact List.any_eq_true.mpr ⟨String.ofList word,
            List.mem_map_of_mem (f := String.ofList) member, isDirectory⟩

end

theorem cString_args (path : String) (noNul : '\x00' ∉ path.toList) :
    ["cat", ">", path].map cString = ["cat", ">", path] ∧
      ["cat", path].map cString = ["cat", path] := by
  simp only [List.map_cons, List.map_nil, cString_of_noNul noNul]
  exact ⟨rfl, rfl⟩

/-- A write that returns OK is read back when the path means itself, or when there is none. -/
theorem remoteRoundTrips_of_literal (conn : SshConnInterface) (refuses special : String → Bool)
    (path : String) (noNul : '\x00' ∉ path.toList)
    (condition : LiteralPath path ∧ special path = false ∨ RefusedPath refuses path) :
    RemoteRoundTrips conn refuses special path := by
  obtain ⟨writeArgs, readArgs⟩ := cString_args path noNul
  intro machine host files data writing reading within written ranWrite ranRead ok
  have line : written = host.run ["cat", ">", path] data files :=
    congrArg (host.run · data files) writeArgs
  clear_value written
  obtain ⟨ready, exit⟩ := remoteWrite_ok path data ranWrite ok
  change sshExitCode written.1.ending.status = .ok 0 at exit
  rcases condition with ⟨⟨plain, name⟩, isRegular⟩ | refused
  · have regular := within.regular path
    have wrote : written = host.catInto [] path data files := by
      have words := run_write_words host files path data path.toList []
        (literalWords_plain path.toList plain)
      rw [String.ofList_toList] at words
      exact line.trans words
    rw [wrote] at exit
    obtain ⟨location, found, after⟩ :=
      catInto_stdin_ok host files path data (fun location => regular location isRegular) exit
    rw [← wrote] at after
    have holds : host.fileContents written.2 location = some data := by
      rw [RemoteHost.fileContents, regular location isRegular found, after]
      exact Function.update_self _ _ _
    refine ⟨⟨location, found, holds, fun other different => ?_⟩, ?_⟩
    · rw [after, Function.update_of_ne different]
    · rw [readArgs, run_read host written.2 path "" plain,
        cat_one host written.2 path "" data location name found holds] at ranRead
      exact remoteRead_of_exit ready path ranRead rfl
  · have failed := run_refused host files within path data refused
    rw [← line] at failed
    exact absurd exit (not_ok_of_failure failed)

/-- A file that takes everything and keeps nothing. -/
def nullDevice : Device where
  given := some ""
  accepts _ := true

/-- All names but the path are one file, and the path is a special file where it may be one; what is
left open succeeds and does nothing, unless it has to fail. -/
def elsewhereHost (refuses special : String → Bool) (path : String) : RemoteHost where
  locate name := if isDirectoryName name then none else if name = path then some 0 else some 1
  device location := if location = 0 ∧ special path = true then some nullDevice else none
  stored _ text := text
  diagnostic := ""
  interpret text _ files := (⟨.exited (if refuses text then 2 else 0), "", ""⟩, files)
  catOption args _ _ := ⟨.exited (if args.any isDirectoryName then 1 else 0), "", ""⟩
  noDirectory _ isDirectory := if_pos isDirectory
  catOption_fails _ _ _ noFile := by rw [if_pos noFile]; rfl

theorem elsewhere_within (refuses special : String → Bool) (path : String) :
    (elsewhereHost refuses special path).Within refuses special where
  refuses text _ _ refused := by
    change (Ending.exited (if refuses text = true then 2 else 0)).isFailure = true
    rw [if_pos refused]
    rfl
  regular name location isRegular found := by
    simp only [elsewhereHost] at found ⊢
    split_ifs at found with noFile same
    · subst same
      rw [if_neg fun both => by rw [isRegular] at both; exact absurd both.2 (by decide)]
    · cases found
      rfl

def emptyFiles : RemoteFiles := fun _ => some ""

section

variable (conn : SshConnInterface) (refuses special : String → Bool) (path data : String)

/-- What the line that writes does on that host. -/
def elsewhereWritten : Behaviour × RemoteFiles :=
  (elsewhereHost refuses special path).run ["cat", ">", path] data emptyFiles

/-- A machine whose ssh answers for the host. -/
def elsewhereMachine : Machine :=
  let written := elsewhereWritten refuses special path data
  { execvp := fun argv =>
      .ok (if argv = (conn.generateSshArg ["cat", ">", path]).map cString then
        (written.1.overSsh {}).outcome
        else (((elsewhereHost refuses special path).run ["cat", path] "" written.2).1.overSsh
          {}).outcome) }

theorem readArg_ne_writeArg :
    (conn.generateSshArg ["cat", path]).map cString ≠
      (conn.generateSshArg ["cat", ">", path]).map cString := by
  intro same
  have lengths := congrArg List.length same
  simp only [List.length_map, SshConnInterface.generateSshArg, List.length_append,
    List.length_cons, List.length_nil] at lengths
  omega

variable {conn refuses special path data}

/-- What the round trip promises of that host, once it accepts the write. -/
theorem elsewhere_of_roundTrips (noNul : '\x00' ∉ path.toList)
    (trips : RemoteRoundTrips conn refuses special path)
    (exit : (elsewhereWritten refuses special path data).1.ending = .exited 0) :
    (elsewhereHost refuses special path).fileContents
        (elsewhereWritten refuses special path data).2 0 = some data ∧
      remoteRead conn (elsewhereMachine conn refuses special path data) path = .ok data := by
  obtain ⟨writeArgs, readArgs⟩ := cString_args path noNul
  have ranWrite : (elsewhereMachine conn refuses special path data).execvp
      ((conn.generateSshArg ["cat", ">", path]).map cString) =
      .ok ((elsewhereWritten refuses special path data).1.overSsh {}).outcome := by
    simp [elsewhereMachine]
  have ranRead : (elsewhereMachine conn refuses special path data).execvp
      ((conn.generateSshArg ["cat", path]).map cString) =
      .ok (((elsewhereHost refuses special path).run ["cat", path] ""
        (elsewhereWritten refuses special path data).2).1.overSsh {}).outcome := by
    simp [elsewhereMachine, readArg_ne_writeArg]
  have ok : remoteWrite conn (elsewhereMachine conn refuses special path data) path data =
      .ok () :=
    remoteWrite_of_exit ⟨rfl, rfl, rfl, rfl⟩ path data rfl ranWrite exit
  have promised := trips (elsewhereMachine conn refuses special path data)
    (elsewhereHost refuses special path) emptyFiles data {} {}
    (elsewhere_within refuses special path)
  rw [writeArgs, readArgs] at promised
  obtain ⟨⟨location, found, holds, -⟩, read⟩ := promised ranWrite ranRead ok
  refine ⟨?_, read⟩
  simp only [elsewhereHost] at found
  split_ifs at found with noFile
  obtain rfl := Option.some.inj found
  exact holds

/-- A special file has kept nothing. -/
theorem special_of_roundTrips (noNul : '\x00' ∉ path.toList)
    (trips : RemoteRoundTrips conn refuses special path)
    (exit : (elsewhereWritten refuses special path data).1.ending = .exited 0)
    (nonempty : data ≠ "") : special path = false := by
  obtain ⟨holds, -⟩ := elsewhere_of_roundTrips noNul trips exit
  rw [Bool.eq_false_iff]
  intro isSpecial
  have device : (elsewhereHost refuses special path).device 0 = some nullDevice :=
    if_pos ⟨rfl, isSpecial⟩
  rw [RemoteHost.fileContents, device] at holds
  exact nonempty (Option.some.inj holds).symm

theorem elsewhere_present (opened : RemoteFiles)
    (present : ∀ location, (opened location).isSome = true) (name : String)
    (isFile : isDirectoryName name = false) :
    ((elsewhereHost refuses special path).contents opened name).isSome = true := by
  have held (location : Nat) :
      ((elsewhereHost refuses special path).fileContents opened location).isSome = true := by
    unfold RemoteHost.fileContents
    split
    next device isDevice =>
        simp only [elsewhereHost] at isDevice
        split_ifs at isDevice
        cases isDevice
        rfl
    next => exact present location
  unfold RemoteHost.contents
  simp only [elsewhereHost, isFile, Bool.false_eq_true, if_false]
  split
  · exact held 0
  · exact held 1

theorem elsewhere_cat (opened : RemoteFiles) (args : List String) (stdin : String)
    (present : ∀ location, (opened location).isSome = true)
    (names : args.any isDirectoryName = false) :
    ((elsewhereHost refuses special path).cat args stdin opened).ending = .exited 0 := by
  unfold RemoteHost.cat
  split
  next => simp only [elsewhereHost, names, Bool.false_eq_true, if_false]
  next noDash =>
      split
      next => rfl
      next =>
          have located : (args.map ((elsewhereHost refuses special path).contents opened)).all
              Option.isSome = true := by
            rw [List.all_eq_true]
            intro text member
            obtain ⟨arg, isArg, rfl⟩ := List.mem_map.mp member
            exact elsewhere_present opened present arg
              (Bool.eq_false_iff.mpr (List.any_eq_false.mp names arg isArg))
          simp only [located, if_true]

theorem elsewhere_catInto (target : String) (args : List String)
    (names : (target :: args).any isDirectoryName = false) :
    ((elsewhereHost refuses special path).catInto args target data emptyFiles).1.ending =
      .exited 0 := by
  rw [List.any_cons, Bool.or_eq_false_iff] at names
  obtain ⟨isFile, others⟩ := names
  unfold RemoteHost.catInto
  split
  next absent =>
      simp only [elsewhereHost, isFile, Bool.false_eq_true, if_false] at absent
      split_ifs at absent
  next location found =>
      split
      next device isDevice =>
          simp only [elsewhereHost] at isDevice
          split_ifs at isDevice
          cases isDevice
          exact elsewhere_cat emptyFiles args data (fun _ => rfl) others
      next =>
          have present (other : Nat) :
              (Function.update emptyFiles location (some "") other).isSome = true := by
            by_cases same : other = location
            · rw [same, Function.update_self]
              rfl
            · rw [Function.update_of_ne same]
              rfl
          exact (if_pos rfl).trans (elsewhere_cat _ args data present others)

/-- The host accepts to write every path that is not refused everywhere. -/
theorem elsewhere_accepts (accepted : ¬ RefusedPath refuses path) :
    (elsewhereWritten refuses special path data).1.ending = .exited 0 := by
  unfold elsewhereWritten
  unfold RefusedPath at accepted
  split at accepted
  next lexed =>
      rw [run_write_active _ _ _ _ lexed]
      simp only [elsewhereHost, if_neg accepted]
  next words lexed =>
      rw [not_or] at accepted
      obtain ⟨someWords, files⟩ := accepted
      obtain ⟨target, rest, rfl⟩ := List.exists_cons_of_ne_nil someWords
      rw [run_write_words _ _ _ _ target rest lexed]
      apply elsewhere_catInto
      rw [← List.map_cons, List.any_map, List.any_eq_false]
      exact fun word member isDirectory => files ⟨word, member, isDirectory⟩

/-- Of the path itself it writes the file only when the path is its own first word. -/
theorem elsewhere_written (isRegular : special path = false)
    (other : ¬ ∃ rest, literalWords path.toList = some (path.toList :: rest)) :
    (elsewhereWritten refuses special path data).2 0 = some "" := by
  unfold elsewhereWritten
  cases lexed : literalWords path.toList with
  | none =>
      rw [run_write_active _ _ _ _ lexed]
      rfl
  | some words =>
      cases words with
      | nil =>
          rw [run_write_blank _ _ _ _ lexed]
          rfl
      | cons target rest =>
          have different : String.ofList target ≠ path := by
            rintro rfl
            exact other ⟨rest, by rwa [String.toList_ofList] at lexed ⊢⟩
          rw [run_write_words _ _ _ _ target rest lexed]
          unfold RemoteHost.catInto
          split
          next => rfl
          next location found =>
              simp only [elsewhereHost, if_neg different] at found
              split_ifs at found
              obtain rfl := Option.some.inj found
              rfl

/-- Where cat takes the path for an option it reads nothing. -/
theorem elsewhere_read (plain : PlainWord path.toList) (dash : isDash path = true)
    (isFile : isDirectoryName path = false) :
    remoteRead conn (elsewhereMachine conn refuses special path data) path = .ok "" := by
  have ran : (elsewhereMachine conn refuses special path data).execvp
      ((conn.generateSshArg ["cat", path]).map cString) = .ok quietExit.outcome := by
    simp [elsewhereMachine, readArg_ne_writeArg, run_read _ _ _ _ plain, RemoteHost.cat, dash,
      elsewhereHost, isFile, quietExit, Behaviour.overSsh, SshMessages.around]
  exact remoteRead_of_exit ⟨rfl, rfl, rfl, rfl⟩ path ran rfl

end

/-- A remote write is read back for the paths that mean themselves to the shell and to cat and name
no special file, and for those that are never written. -/
theorem remoteRoundTrips_iff (conn : SshConnInterface) (refuses special : String → Bool)
    (path : String) (noNul : '\x00' ∉ path.toList) :
    RemoteRoundTrips conn refuses special path ↔
      LiteralPath path ∧ special path = false ∨ RefusedPath refuses path := by
  refine ⟨fun trips => ?_, remoteRoundTrips_of_literal conn refuses special path noNul⟩
  by_contra neither
  rw [not_or] at neither
  obtain ⟨notLiteral, accepted⟩ := neither
  have exit : (elsewhereWritten refuses special path "x").1.ending = .exited 0 :=
    elsewhere_accepts accepted
  have isRegular := special_of_roundTrips noNul trips exit (by decide)
  obtain ⟨holds, read⟩ := elsewhere_of_roundTrips noNul trips exit
  by_cases own : ∃ rest, literalWords path.toList = some (path.toList :: rest)
  · obtain ⟨rest, words⟩ := own
    obtain ⟨rfl, plain⟩ := plain_of_first_word path.toList rest words
    have dash : isDash path = true := by
      by_contra name
      exact notLiteral ⟨⟨plain, Bool.eq_false_iff.mpr name⟩, isRegular⟩
    have isFile : isDirectoryName path = false := by
      rw [Bool.eq_false_iff]
      intro isDirectory
      apply accepted
      rw [RefusedPath, words]
      exact .inr ⟨_, List.mem_cons_self, by rwa [String.ofList_toList]⟩
    rw [elsewhere_read plain dash isFile] at read
    exact absurd (Except.ok.inj read) (by decide)
  · have regular : (elsewhereHost refuses special path).device 0 = none :=
      if_neg fun both => by rw [isRegular] at both; exact absurd both.2 (by decide)
    rw [RemoteHost.fileContents, regular] at holds
    have empty := holds.symm.trans (elsewhere_written isRegular own)
    exact absurd (Option.some.inj empty) (by decide)

def isNullDevice (name : String) : Bool := name = "/dev/null"

theorem remoteRoundTrips_iff_plain :
    RemoteRoundTrips sampleConn (fun _ => false) isNullDevice "/etc/hosts" ∧
      RemoteRoundTrips sampleConn (fun _ => false) isNullDevice "/tmp/a[1" :=
  ⟨(remoteRoundTrips_iff sampleConn _ isNullDevice "/etc/hosts" (by decide)).mpr
      (.inl (by decide)),
    (remoteRoundTrips_iff sampleConn _ isNullDevice "/tmp/a[1" (by decide)).mpr
      (.inl (by decide))⟩

/-- With a blank in its name another file is written, with the contents of a third, and a special
file keeps nothing. -/
theorem remoteRoundTrips_not_blank :
    ¬ RemoteRoundTrips sampleConn (fun _ => false) (fun _ => false) "a b" ∧
      ¬ RemoteRoundTrips sampleConn (fun _ => false) isNullDevice "/dev/null" := by
  refine ⟨fun trips => ?_, fun trips => ?_⟩
  · have exit : (elsewhereWritten (fun _ => false) (fun _ => false) "a b" "x").1.ending =
        .exited 0 := by decide
    obtain ⟨holds, -⟩ := elsewhere_of_roundTrips (by decide) trips exit
    exact absurd holds (by decide)
  · have exit : (elsewhereWritten (fun _ => false) isNullDevice "/dev/null" "x").1.ending =
        .exited 0 := by decide
    exact absurd (special_of_roundTrips (by decide) trips exit (by decide)) (by decide)

end OcpDiag.HwInterface
