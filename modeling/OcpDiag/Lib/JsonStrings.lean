import Mathlib.Algebra.BigOperators.Group.List.Basic
import Mathlib.Algebra.Order.BigOperators.Group.List
import Mathlib.Algebra.Order.Ring.Nat
import Mathlib.Data.List.Basic
import Mathlib.Data.List.Forall2
import Mathlib.Data.List.Perm.Subperm

set_option autoImplicit false

/- The texts of JSON objects whose values are strings, as RFC 8259 writes them, and how long they
have to be. -/
namespace JsonStrings

def blank (char : Char) : Bool := char = ' ' || char = '\t' || char = '\n' || char = '\r'

/-- A character that stands for itself between quotes. -/
def unescaped (char : Char) : Bool := char ≠ '"' && char ≠ '\\' && 32 ≤ char.toNat

/-- What a backslash before a letter stands for. -/
def shortEscape : Char → Option Char
  | '"' => some '"'
  | '\\' => some '\\'
  | '/' => some '/'
  | 'b' => some '\x08'
  | 'f' => some '\x0c'
  | 'n' => some '\n'
  | 'r' => some '\r'
  | 't' => some '\t'
  | _ => none

def hexDigit (char : Char) : Option Nat :=
  if char.isDigit then some (char.toNat - '0'.toNat)
  else if 'a' ≤ char ∧ char ≤ 'f' then some (char.toNat - 'a'.toNat + 10)
  else if 'A' ≤ char ∧ char ≤ 'F' then some (char.toNat - 'A'.toNat + 10)
  else none

/-- The code unit of four digits. -/
def codeUnit (digits : List Char) : Option Nat :=
  if digits.length = 4 then
    (digits.mapM hexDigit).map (fun values => values.foldl (fun unit value => 16 * unit + value) 0)
  else none

example : codeUnit "00e9".toList = some 0xE9 := by decide

/-- A piece of the text between quotes and the character that it stands for. Half of a surrogate
pair stands for none. -/
inductive Piece : List Char → Char → Prop where
  | itself (char : Char) (alone : unescaped char = true) : Piece [char] char
  | short (letter char : Char) (escape : shortEscape letter = some char) :
      Piece ['\\', letter] char
  | unicode (digits : List Char) (unit : Nat) (read : codeUnit digits = some unit)
      (whole : unit < 0xD800 ∨ 0xE000 ≤ unit) : Piece ('\\' :: 'u' :: digits) (Char.ofNat unit)
  | surrogates (high low : List Char) (first second : Nat) (firstRead : codeUnit high = some first)
      (secondRead : codeUnit low = some second) (leads : 0xD800 ≤ first ∧ first < 0xDC00)
      (trails : 0xDC00 ≤ second ∧ second < 0xE000) :
      Piece ('\\' :: 'u' :: (high ++ '\\' :: 'u' :: low))
        (Char.ofNat (0x10000 + (first - 0xD800) * 0x400 + (second - 0xDC00)))

inductive Spells : List Char → List Char → Prop where
  | nil : Spells [] []
  | cons (piece rest : List Char) (char : Char) (chars : List Char) (first : Piece piece char)
      (others : Spells rest chars) : Spells (piece ++ rest) (char :: chars)

def StringText (text chars : List Char) : Prop :=
  ∃ inner, text = '"' :: (inner ++ ['"']) ∧ Spells inner chars

/-- The text with whitespace on both sides. -/
def Padded (text inner : List Char) : Prop :=
  ∃ before after, (∀ char ∈ before, blank char = true) ∧ (∀ char ∈ after, blank char = true) ∧
    text = before ++ (inner ++ after)

/-- A member is its name and its value. -/
abbrev Member := List Char × List Char

def MemberText (text : List Char) (member : Member) : Prop :=
  ∃ name value paddedName paddedValue, StringText name member.1 ∧ StringText value member.2 ∧
    Padded paddedName name ∧ Padded paddedValue value ∧ text = paddedName ++ ':' :: paddedValue

/-- The members of an object in the order in which its text has them. -/
def ObjectText (text : List Char) (members : List Member) : Prop :=
  ∃ inner, Padded text ('\x7b' :: (inner ++ ['\x7d'])) ∧
    (members = [] ∧ (∀ char ∈ inner, blank char = true) ∨
      members ≠ [] ∧ ∃ texts, List.Forall₂ MemberText texts members ∧
        inner = [','].intercalate texts)

def PlainMember (member : Member) : Prop :=
  (∀ char ∈ member.1, unescaped char = true) ∧ ∀ char ∈ member.2, unescaped char = true

/-- The member's text where nothing in it is escaped. -/
def plainText (member : Member) : List Char :=
  '"' :: (member.1 ++ '"' :: ':' :: '"' :: (member.2 ++ ['"']))

theorem spells_plain (chars : List Char) (itself : ∀ char ∈ chars, unescaped char = true) :
    Spells chars chars := by
  induction chars with
  | nil => exact .nil
  | cons char chars ih =>
      rw [List.forall_mem_cons] at itself
      exact .cons [char] chars char chars (.itself char itself.1) (ih itself.2)

theorem padded_self (text : List Char) : Padded text text :=
  ⟨[], [], by simp, by simp, by simp⟩

theorem memberText_plain (member : Member) (itself : PlainMember member) :
    MemberText (plainText member) member :=
  ⟨_, _, _, _, ⟨member.1, rfl, spells_plain _ itself.1⟩, ⟨member.2, rfl, spells_plain _ itself.2⟩,
    padded_self _, padded_self _, by simp [plainText]⟩

/-- The object's text where nothing in it is escaped. -/
theorem objectText_plain (members : List Member) (itself : ∀ member ∈ members, PlainMember member) :
    ObjectText ('\x7b' :: ([','].intercalate (members.map plainText) ++ ['\x7d'])) members := by
  refine ⟨_, padded_self _, ?_⟩
  by_cases nothing : members = []
  · exact .inl ⟨nothing, by simp [nothing]⟩
  · refine .inr ⟨nothing, members.map plainText, ?_, rfl⟩
    rw [List.forall₂_map_left_iff, List.forall₂_same]
    exact fun member inside => memberText_plain member (itself member inside)

/-- A character takes at least one character of the text, and exactly one only if it is not
escaped. -/
theorem Piece.length {piece : List Char} {char : Char} (stands : Piece piece char) :
    1 ≤ piece.length ∧ (piece.length ≤ 1 → unescaped char = true) := by
  cases stands with
  | itself _ alone => exact ⟨Nat.le_refl 1, fun _ => alone⟩
  | short letter => simp
  | unicode digits => simp
  | surrogates high low => simp

theorem Spells.length {text chars : List Char} (spells : Spells text chars) :
    chars.length ≤ text.length ∧
      (text.length ≤ chars.length → ∀ char ∈ chars, unescaped char = true) := by
  induction spells with
  | nil => simp
  | cons piece rest char chars first others ih =>
      have low := first.length
      simp only [List.length_append, List.length_cons, List.forall_mem_cons]
      refine ⟨by omega, fun short => ⟨low.2 (by omega), ih.2 (by omega)⟩⟩

theorem StringText.length {text chars : List Char} (denotes : StringText text chars) :
    chars.length + 2 ≤ text.length ∧
      (text.length ≤ chars.length + 2 → ∀ char ∈ chars, unescaped char = true) := by
  obtain ⟨inner, rfl, spells⟩ := denotes
  have low := spells.length
  simp only [List.length_cons, List.length_append, List.length_nil]
  exact ⟨by omega, fun short => low.2 (by omega)⟩

theorem Padded.length {text inner : List Char} (padded : Padded text inner) :
    inner.length ≤ text.length := by
  obtain ⟨before, after, -, -, rfl⟩ := padded
  simp only [List.length_append]
  omega

/-- The length of the plain text with a character to separate it. -/
def cost (member : Member) : Nat := member.1.length + member.2.length + 6

theorem plainText_length (member : Member) : (plainText member).length + 1 = cost member := by
  simp only [plainText, cost, List.length_cons, List.length_append, List.length_nil]
  omega

theorem MemberText.length {text : List Char} {member : Member} (denotes : MemberText text member) :
    cost member ≤ text.length + 1 ∧ (text.length + 1 ≤ cost member → PlainMember member) := by
  obtain ⟨name, value, paddedName, paddedValue, nameText, valueText, namePad, valuePad, rfl⟩ :=
    denotes
  have nameLow := nameText.length
  have valueLow := valueText.length
  have nameLong := namePad.length
  have valueLong := valuePad.length
  simp only [cost, List.length_append, List.length_cons]
  exact ⟨by omega, fun short => ⟨nameLow.2 (by omega), valueLow.2 (by omega)⟩⟩

theorem intercalate_length (separator : Char) (texts : List (List Char)) (nonempty : texts ≠ []) :
    ([separator].intercalate texts).length + 1 =
      (texts.map (fun text => text.length + 1)).sum := by
  induction texts with
  | nil => exact absurd rfl nonempty
  | cons text texts ih =>
      cases texts with
      | nil => simp [List.intercalate]
      | cons next texts =>
          have rest := ih (List.cons_ne_nil _ _)
          rw [List.intercalate_cons_cons, List.map_cons, List.sum_cons, ← rest]
          simp only [List.length_append, List.length_singleton]
          omega

theorem memberTexts_length (texts : List (List Char)) (members : List Member)
    (denote : List.Forall₂ MemberText texts members) :
    (members.map cost).sum ≤ (texts.map (fun text => text.length + 1)).sum ∧
      ((texts.map (fun text => text.length + 1)).sum ≤ (members.map cost).sum →
        ∀ member ∈ members, PlainMember member) := by
  induction denote with
  | nil => simp
  | @cons text member texts members first others ih =>
      have low := first.length
      simp only [List.map_cons, List.sum_cons, List.forall_mem_cons]
      exact ⟨by omega, fun short => ⟨low.2 (by omega), ih.2 (by omega)⟩⟩

theorem ObjectText.length {text : List Char} {members : List Member}
    (denotes : ObjectText text members) (nonempty : members ≠ []) :
    (members.map cost).sum + 1 ≤ text.length ∧
      (text.length ≤ (members.map cost).sum + 1 → ∀ member ∈ members, PlainMember member) := by
  obtain ⟨inner, padded, ⟨nothing, -⟩ | ⟨-, texts, denote, rfl⟩⟩ := denotes
  · exact absurd nothing nonempty
  · have textsSome : texts ≠ [] := by
      rintro rfl
      cases denote
      exact nonempty rfl
    have long := padded.length
    have separated := intercalate_length ',' texts textsSome
    have low := memberTexts_length texts members denote
    simp only [List.length_cons, List.length_append, List.length_nil] at long
    exact ⟨by omega, fun short => low.2 (by omega)⟩

/-- Where the plain text of distinct members denotes them, it is because all of them are plain. -/
theorem plain_of_denotes (pairs members : List Member) (distinct : pairs.Nodup)
    (denotes : ObjectText ('\x7b' :: ([','].intercalate (pairs.map plainText) ++ ['\x7d'])) members)
    (among : ∀ pair ∈ pairs, pair ∈ members) : ∀ pair ∈ pairs, PlainMember pair := by
  intro pair inside
  have nonempty : pairs ≠ [] := List.ne_nil_of_mem inside
  have membersSome : members ≠ [] := List.ne_nil_of_mem (among pair inside)
  obtain ⟨ordered, permuted, sublist⟩ := distinct.subperm among
  have fewer : (pairs.map cost).sum ≤ (members.map cost).sum := by
    rw [← (permuted.map cost).sum_eq]
    exact (sublist.map cost).sum_le_sum fun _ _ => Nat.zero_le _
  have separated : ([','].intercalate (pairs.map plainText)).length + 1 =
      (pairs.map cost).sum := by
    rw [intercalate_length ',' _ (by simpa using nonempty), List.map_map]
    exact congrArg List.sum (List.map_congr_left fun pair _ => plainText_length pair)
  have all := (denotes.length membersSome).2 (by
    simp only [List.length_cons, List.length_append, List.length_nil]
    omega)
  exact all pair (among pair inside)

end JsonStrings
