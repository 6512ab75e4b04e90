import Mathlib.Algebra.Order.Ring.Nat
import Mathlib.Data.List.Basic
import Mathlib.Tactic.SplitIfs

set_option autoImplicit false

/- The words of a POSIX shell command line: blanks, quoting and quote removal. A text in which
something else is active (an operator, an expansion, a pattern, a comment) has no literal words. -/
namespace ShellWords

/-- How the next character is quoted. -/
inductive Mode where
  | bare
  | escaped
  | single
  | double
  | doubleEscaped
  deriving DecidableEq, Repr

def isBlank (char : Char) : Bool := char = ' ' || char = '\t'

/-- What starts a quotation. -/
def isQuote (char : Char) : Bool := ['\'', '"', '\\'].contains char

/-- A dollar at the end of a word stands for itself; what it means before a character that starts
no expansion is left to the shell. -/
def expands (rest : List Char) : Bool := rest.head?.any fun next => !isBlank next

/-- A bracket opens a pattern where another one closes it in the same component of the word, after
at least one character. A quotation in between counts as one that closes it. -/
def opensPattern (rest : List Char) : Bool :=
  let component := rest.takeWhile fun char => !isBlank char && char ≠ '/'
  let members := if component.head? = some '!' then component.tail else component
  members.tail.contains ']' || members.any isQuote

/-- Operators, expansions and patterns, where they are not quoted, before the rest of the text. -/
def isActive (char : Char) (rest : List Char) : Bool :=
  ['\n', '|', '&', ';', '<', '>', '(', ')', '`', '*', '?'].contains char ||
    (char = '$' && expands rest) || (char = '[' && opensPattern rest)

/-- Comments and home directories, at the start of a word. -/
def isActiveAtStart (char : Char) : Bool := char = '#' || char = '~'

/-- A backslash in double quotes stays before other characters. -/
def doubleEscapedText (char : Char) : List Char :=
  if ['$', '`', '"', '\\'].contains char then [char] else ['\\', char]

/-- The literal words of a text, after quote removal, from a word begun before it. -/
def lex : Mode → Option (List Char) → List Char → Option (List (List Char))
  | .bare, current, [] => some current.toList
  | .bare, current, char :: rest =>
      if isBlank char then (lex .bare none rest).map (current.toList ++ ·)
      else if char = '\'' then lex .single (some (current.getD [])) rest
      else if char = '"' then lex .double (some (current.getD [])) rest
      else if char = '\\' then lex .escaped current rest
      else if isActive char rest || (current.isNone && isActiveAtStart char) then none
      else lex .bare (some (current.getD [] ++ [char])) rest
  | .escaped, current, char :: rest =>
      if char = '\n' then lex .bare current rest
      else lex .bare (some (current.getD [] ++ [char])) rest
  | .single, current, char :: rest =>
      if char = '\'' then lex .bare current rest
      else lex .single (some (current.getD [] ++ [char])) rest
  | .double, current, char :: rest =>
      if char = '"' then lex .bare current rest
      else if char = '\\' then lex .doubleEscaped current rest
      else if char = '$' || char = '`' then none
      else lex .double (some (current.getD [] ++ [char])) rest
  | .doubleEscaped, current, char :: rest =>
      if char = '\n' then lex .double current rest
      else lex .double (some (current.getD [] ++ doubleEscapedText char)) rest
  | _, _, [] => none

def literalWords (text : List Char) : Option (List (List Char)) := lex .bare none text

example : literalWords "a  'b c'\\ d \"\\\"e\"".toList =
    some ["a".toList, "b c d".toList, "\"e".toList] := by decide

/-- A character that stands for itself before the rest of the text. -/
def isPlain (char : Char) (rest : List Char) : Bool :=
  !isBlank char && !isActive char rest && !isQuote char

def allPlain : List Char → Bool
  | [] => true
  | char :: rest => isPlain char rest && allPlain rest

/-- A word that stands for itself. -/
structure PlainWord (word : List Char) : Prop where
  plain : allPlain word = true
  started : ∃ first, word.head? = some first ∧ isActiveAtStart first = false

instance (word : List Char) : Decidable (PlainWord word) :=
  match word with
  | [] => isFalse fun plainWord => by
      obtain ⟨first, isFirst, _⟩ := plainWord.started
      cases isFirst
  | first :: rest =>
      if plain : allPlain (first :: rest) = true ∧ isActiveAtStart first = false then
        isTrue ⟨plain.1, first, rfl, plain.2⟩
      else isFalse fun plainWord => plain ⟨plainWord.plain, by
        obtain ⟨other, isFirst, inactive⟩ := plainWord.started
        cases isFirst
        exact inactive⟩

example : PlainWord "a[b/c]$".toList ∧ ¬ PlainWord "a[b]".toList ∧ ¬ PlainWord "a$b".toList := by
  decide

theorem isPlain_iff (char : Char) (rest : List Char) :
    isPlain char rest = true ↔
      isBlank char = false ∧ isActive char rest = false ∧ isQuote char = false := by
  simp [isPlain, and_assoc]

/-- A word ends at the end of the text, or before a blank. -/
def EndsWord (after : List Char) : Prop := ∀ next, after.head? = some next → isBlank next = true

theorem takeWhile_endsWord {after : List Char} (ends : EndsWord after) :
    (after.takeWhile fun char => !isBlank char && char ≠ '/') = [] := by
  cases after with
  | nil => rfl
  | cons next after => simp [ends next rfl]

/-- What is after the word has no say in what its characters mean. -/
theorem isActive_append (char : Char) (rest : List Char) {after : List Char}
    (ends : EndsWord after) : isActive char (rest ++ after) = isActive char rest := by
  have expansion : expands (rest ++ after) = expands rest := by
    unfold expands
    cases rest with
    | cons next rest => rfl
    | nil =>
        cases after with
        | nil => rfl
        | cons next after => simp [ends next rfl]
  have component : ((rest ++ after).takeWhile fun char => !isBlank char && char ≠ '/') =
      rest.takeWhile fun char => !isBlank char && char ≠ '/' := by
    rw [List.takeWhile_append, takeWhile_endsWord ends, List.append_nil]
    split
    · rename_i whole
      exact (List.IsPrefix.eq_of_length (List.takeWhile_prefix _) whole).symm
    · rfl
  unfold isActive opensPattern
  rw [expansion, component]

theorem isPlain_append {char : Char} {rest after : List Char}
    (plain : allPlain (char :: rest) = true) (ends : EndsWord after) :
    isPlain char (rest ++ after) = true := by
  rw [allPlain, Bool.and_eq_true] at plain
  rw [isPlain, isActive_append char rest ends]
  exact plain.1

/-- A plain character is lexed to itself. -/
theorem lex_bare_plain {current : Option (List Char)} {char : Char} {rest : List Char}
    (plain : isPlain char rest = true) (start : current = none → isActiveAtStart char = false) :
    lex .bare current (char :: rest) = lex .bare (some (current.getD [] ++ [char])) rest := by
  obtain ⟨notBlank, inactive, notQuote⟩ := (isPlain_iff char rest).mp plain
  have fits : (isActive char rest || (current.isNone && isActiveAtStart char)) = false := by
    cases current with
    | none => simp [inactive, start rfl]
    | some word => simp [inactive]
  have unquoted : char ≠ '\'' ∧ char ≠ '"' ∧ char ≠ '\\' := by
    simpa [isQuote] using notQuote
  rw [lex, notBlank, fits]
  simp only [Bool.false_eq_true, if_false, if_neg unquoted.1, if_neg unquoted.2.1,
    if_neg unquoted.2.2]

theorem lex_bare_chars (word chars after : List Char) (plain : allPlain chars = true)
    (ends : EndsWord after) :
    lex .bare (some word) (chars ++ after) = lex .bare (some (word ++ chars)) after := by
  induction chars generalizing word with
  | nil => rw [List.nil_append, List.append_nil]
  | cons char others ih =>
      have here := isPlain_append plain ends
      rw [allPlain, Bool.and_eq_true] at plain
      rw [List.cons_append, lex_bare_plain here (fun absent => by cases absent),
        Option.getD_some, ih _ plain.2, List.append_assoc, List.singleton_append]

theorem lex_plainWord {word : List Char} (plainWord : PlainWord word) {after : List Char}
    (ends : EndsWord after) : lex .bare none (word ++ after) = lex .bare (some word) after := by
  obtain ⟨plain, first, isFirst, inactive⟩ := plainWord
  cases word with
  | nil => cases isFirst
  | cons char others =>
      cases isFirst
      have here := isPlain_append plain ends
      rw [allPlain, Bool.and_eq_true] at plain
      rw [List.cons_append, lex_bare_plain here (fun _ => inactive),
        lex_bare_chars _ _ _ plain.2 ends]
      rfl

theorem endsWord_nil : EndsWord [] := fun _ absent => by cases absent

theorem endsWord_blank {blank : Char} (isBlank : isBlank blank = true) (rest : List Char) :
    EndsWord (blank :: rest) := by
  intro next same
  cases same
  exact isBlank

/-- Plain words joined by spaces are read back. -/
theorem literalWords_join (words : List (List Char)) (plain : ∀ word ∈ words, PlainWord word) :
    literalWords ([' '].intercalate words) = some words := by
  induction words with
  | nil => rfl
  | cons word others ih =>
      have plainWord := plain word List.mem_cons_self
      have later := ih (fun other member => plain other (List.mem_cons_of_mem _ member))
      unfold literalWords at later ⊢
      cases others with
      | nil =>
          have alone := lex_plainWord plainWord endsWord_nil
          rw [List.append_nil] at alone
          rw [List.intercalate_singleton, alone]
          rfl
      | cons next others =>
          have ends : EndsWord (' ' :: [' '].intercalate (next :: others)) :=
            endsWord_blank rfl _
          rw [List.intercalate_cons_cons, List.append_assoc, List.singleton_append,
            lex_plainWord plainWord ends, lex]
          simp only [isBlank, decide_true, Bool.true_or, if_true, later]
          rfl

/-- The room that words take in a line. -/
def size (words : List (List Char)) : Nat := (words.map (fun word => word.length + 1)).sum

theorem size_cons (word : List Char) (words : List (List Char)) :
    size (word :: words) = word.length + 1 + size words := by
  simp [size]

theorem length_join (words : List (List Char)) (nonempty : words ≠ []) :
    ([' '].intercalate words).length + 1 = size words := by
  induction words with
  | nil => exact absurd rfl nonempty
  | cons word others ih =>
      cases others with
      | nil => simp [size]
      | cons next others =>
          have later := ih (List.cons_ne_nil next others)
          rw [List.intercalate_cons_cons, size_cons, ← later]
          simp only [List.length_append, List.length_singleton]
          omega

/-- A backslash in double quotes is counted with the character after it. -/
def Mode.pending : Mode → Nat
  | .doubleEscaped => 1
  | _ => 0

theorem doubleEscapedText_length (char : Char) : (doubleEscapedText char).length ≤ 2 := by
  unfold doubleEscapedText
  split <;> simp

/-- The words take no more room than the text. -/
theorem lex_size {mode : Mode} {current : Option (List Char)} {text : List Char}
    {words : List (List Char)} (lexed : lex mode current text = some words) :
    size words ≤ (current.getD []).length + 1 + text.length + mode.pending := by
  induction text generalizing mode current words with
  | nil =>
      cases mode with
      | bare =>
          cases lexed
          cases current <;> simp [size]
      | escaped | single | double | doubleEscaped => cases lexed
  | cons char rest ih =>
      cases mode with
      | bare =>
          rw [lex] at lexed
          simp only [Mode.pending]
          split_ifs at lexed
          · obtain ⟨others, ok, rfl⟩ := Option.map_eq_some_iff.mp lexed
            have bound := ih ok
            cases current <;>
              simp [size, Mode.pending] at bound ⊢ <;> omega
          all_goals
            have bound := ih lexed
            simp [Mode.pending] at bound ⊢
            omega
      | escaped =>
          rw [lex] at lexed
          simp only [Mode.pending]
          split_ifs at lexed
          all_goals
            have bound := ih lexed
            simp [Mode.pending] at bound ⊢
            omega
      | single =>
          rw [lex] at lexed
          simp only [Mode.pending]
          split_ifs at lexed
          all_goals
            have bound := ih lexed
            simp [Mode.pending] at bound ⊢
            omega
      | double =>
          rw [lex] at lexed
          simp only [Mode.pending]
          split_ifs at lexed
          all_goals
            have bound := ih lexed
            simp [Mode.pending] at bound ⊢
            omega
      | doubleEscaped =>
          rw [lex] at lexed
          simp only [Mode.pending]
          split_ifs at lexed
          all_goals
            have bound := ih lexed
            have short := doubleEscapedText_length char
            simp [Mode.pending] at bound ⊢
            omega

/-- A text that its words fill has no quotes and no spare blanks: the first word ends where the text
first has a blank, and all of them are plain. -/
theorem lex_full {current : Option (List Char)} {text : List Char} {words : List (List Char)}
    (lexed : lex .bare current text = some words)
    (full : size words = (current.getD []).length + 1 + text.length) :
    ∃ chars after others, text = chars ++ after ∧ EndsWord after ∧
      words = (current.getD [] ++ chars) :: others ∧ allPlain chars = true ∧
      (current = none → ∃ first, chars.head? = some first ∧ isActiveAtStart first = false) ∧
      ∀ word ∈ others, PlainWord word := by
  induction text generalizing current words with
  | nil =>
      cases lexed
      cases current with
      | none => simp [size] at full
      | some word =>
          refine ⟨[], [], [], rfl, endsWord_nil, by simp, rfl, fun absent => (by cases absent), ?_⟩
          exact fun _ member => absurd member List.not_mem_nil
  | cons char rest ih =>
      rw [lex] at lexed
      split_ifs at lexed with blank single double escape active
      · obtain ⟨others, ok, rfl⟩ := Option.map_eq_some_iff.mp lexed
        have bound := lex_size ok
        cases current with
        | none =>
            simp [Mode.pending] at bound full
            omega
        | some word =>
            simp only [Option.toList_some, List.singleton_append, size_cons, Option.getD_some,
              List.length_cons] at full
            obtain ⟨chars, after, later, -, -, rfl, plain, started, plainLater⟩ :=
              ih ok (by simp; omega)
            refine ⟨[], char :: rest, chars :: later, rfl, endsWord_blank blank rest, by simp, rfl,
              fun absent => (by cases absent), fun other member => ?_⟩
            rcases List.mem_cons.mp member with rfl | isLater
            · exact ⟨plain, started rfl⟩
            · exact plainLater other isLater
      · have bound := lex_size lexed
        simp [Mode.pending] at bound full
        omega
      · have bound := lex_size lexed
        simp [Mode.pending] at bound full
        omega
      · have bound := lex_size lexed
        simp [Mode.pending] at bound full
        omega
      · simp only [Bool.not_eq_true, Bool.or_eq_false_iff, Bool.and_eq_false_iff] at active blank
        obtain ⟨chars, after, others, rfl, ends, rfl, plain, -, plainOthers⟩ :=
          ih lexed (by simp at full ⊢; omega)
        have inactive : isActive char chars = false := by
          rw [← isActive_append char chars ends]
          exact active.1
        have here : isPlain char chars = true :=
          (isPlain_iff char chars).mpr ⟨blank, inactive, by simp [isQuote, single, double, escape]⟩
        refine ⟨char :: chars, after, others, rfl, ends, by simp, ?_, ?_, plainOthers⟩
        · rw [allPlain, here, plain]
          rfl
        · rintro rfl
          exact ⟨char, rfl, by simpa using active.2⟩

/-- Words joined by spaces are read back just when each of them is plain. -/
theorem literalWords_join_iff (words : List (List Char)) (nonempty : words ≠ []) :
    literalWords ([' '].intercalate words) = some words ↔ ∀ word ∈ words, PlainWord word := by
  constructor
  · intro lexed
    have length := length_join words nonempty
    obtain ⟨chars, after, others, -, -, rfl, plain, started, plainOthers⟩ :=
      lex_full lexed (by simp only [Option.getD_none, List.length_nil]; omega)
    intro word member
    rcases List.mem_cons.mp member with rfl | isOther
    · exact ⟨plain, started rfl⟩
    · exact plainOthers word isOther
  · exact literalWords_join words

end ShellWords
