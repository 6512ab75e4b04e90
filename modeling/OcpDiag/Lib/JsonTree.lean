import Mathlib.Data.List.Basic

set_option autoImplicit false

/- JSON values, and how they are built from tokens. -/
namespace JsonText

inductive Json where
  | null
  | bool (value : Bool)
  | number (text : List Char)
  | string (chars : List Char)
  | array (values : List Json)
  | object (members : List (List Char × Json))

namespace Json

-- every string of a value, names included, is mapped
mutual

def mapStrings (change : List Char → List Char) : Json → Json
  | .null => .null
  | .bool value => .bool value
  | .number text => .number text
  | .string chars => .string (change chars)
  | .array values => .array (mapValues change values)
  | .object members => .object (mapMembers change members)

def mapValues (change : List Char → List Char) : List Json → List Json
  | [] => []
  | value :: values => mapStrings change value :: mapValues change values

def mapMembers (change : List Char → List Char) : List (List Char × Json) → List (List Char × Json)
  | [] => []
  | (name, value) :: members => (change name, mapStrings change value) :: mapMembers change members

end

mutual

def strings : Json → List (List Char)
  | .string chars => [chars]
  | .array values => valueStrings values
  | .object members => memberStrings members
  | _ => []

def valueStrings : List Json → List (List Char)
  | [] => []
  | value :: values => strings value ++ valueStrings values

def memberStrings : List (List Char × Json) → List (List Char)
  | [] => []
  | (name, value) :: members => name :: (strings value ++ memberStrings members)

end

variable (change other : List Char → List Char)

mutual

theorem mapStrings_eq_iff : (value : Json) →
    (mapStrings change value = mapStrings other value ↔
      ∀ chars ∈ strings value, change chars = other chars)
  | .null => by simp [mapStrings, strings]
  | .bool value => by simp [mapStrings, strings]
  | .number text => by simp [mapStrings, strings]
  | .string chars => by simp [mapStrings, strings]
  | .array values => by
      simpa [mapStrings, strings] using mapValues_eq_iff values
  | .object members => by
      simpa [mapStrings, strings] using mapMembers_eq_iff members

theorem mapValues_eq_iff : (values : List Json) →
    (mapValues change values = mapValues other values ↔
      ∀ chars ∈ valueStrings values, change chars = other chars)
  | [] => by simp [mapValues, valueStrings]
  | value :: values => by
      rw [mapValues, mapValues, valueStrings, List.cons.injEq, mapStrings_eq_iff value,
        mapValues_eq_iff values, List.forall_mem_append]

theorem mapMembers_eq_iff : (members : List (List Char × Json)) →
    (mapMembers change members = mapMembers other members ↔
      ∀ chars ∈ memberStrings members, change chars = other chars)
  | [] => by simp [mapMembers, memberStrings]
  | (name, value) :: members => by
      rw [mapMembers, mapMembers, memberStrings, List.cons.injEq, Prod.mk.injEq,
        mapStrings_eq_iff value, mapMembers_eq_iff members, List.forall_mem_cons,
        List.forall_mem_append, and_assoc]

end

mutual

theorem strings_mapStrings : (value : Json) →
    strings (mapStrings change value) = (strings value).map change
  | .null => rfl
  | .bool value => rfl
  | .number text => rfl
  | .string chars => rfl
  | .array values => by rw [mapStrings, strings, strings, strings_mapValues values]
  | .object members => by rw [mapStrings, strings, strings, strings_mapMembers members]

theorem strings_mapValues : (values : List Json) →
    valueStrings (mapValues change values) = (valueStrings values).map change
  | [] => rfl
  | value :: values => by
      rw [mapValues, valueStrings, valueStrings, strings_mapStrings value,
        strings_mapValues values, List.map_append]

theorem strings_mapMembers : (members : List (List Char × Json)) →
    memberStrings (mapMembers change members) = (memberStrings members).map change
  | [] => rfl
  | (name, value) :: members => by
      rw [mapMembers, memberStrings, memberStrings, strings_mapStrings value,
        strings_mapMembers members, List.map_cons, List.map_append]

end

theorem mapValues_append (values later : List Json) :
    mapValues change (values ++ later) = mapValues change values ++ mapValues change later := by
  induction values with
  | nil => rfl
  | cons value values ih => rw [List.cons_append, mapValues, ih, mapValues, List.cons_append]

theorem mapMembers_append (members later : List (List Char × Json)) :
    mapMembers change (members ++ later) =
      mapMembers change members ++ mapMembers change later := by
  induction members with
  | nil => rfl
  | cons member members ih => rw [List.cons_append, mapMembers, ih, mapMembers, List.cons_append]

end Json

inductive Token where
  | mark (char : Char)
  | word (text : List Char)
  | string (chars : List Char)

def Token.mapString (change : List Char → List Char) : Token → Token
  | .mark char => .mark char
  | .word text => .word text
  | .string chars => .string (change chars)

/-- What follows the digits, where there is one at least. -/
def afterDigits (text : List Char) : Option (List Char) :=
  if text.head?.any Char.isDigit then some (text.dropWhile Char.isDigit) else none

def dropSign (signs : List Char) : List Char → List Char
  | [] => []
  | char :: rest => if char ∈ signs then rest else char :: rest

def afterInteger : List Char → Option (List Char)
  | '0' :: rest => some rest
  | text => afterDigits text

def afterFraction : List Char → Option (List Char)
  | '.' :: rest => afterDigits rest
  | text => some text

def afterExponent : List Char → Option (List Char)
  | 'e' :: rest => afterDigits (dropSign ['+', '-'] rest)
  | 'E' :: rest => afterDigits (dropSign ['+', '-'] rest)
  | text => some text

def isNumber (text : List Char) : Bool :=
  ((afterInteger (dropSign ['-'] text)).bind afterFraction).bind afterExponent = some []

example : isNumber "-10.5e+3".toList = true ∧ isNumber "01".toList = false := by decide

def wordValue (text : List Char) : Option Json :=
  if text = ['n', 'u', 'l', 'l'] then some .null
  else if text = ['t', 'r', 'u', 'e'] then some (.bool true)
  else if text = ['f', 'a', 'l', 's', 'e'] then some (.bool false)
  else if isNumber text then some (.number text)
  else none

/-- An array or an object that is open, the object perhaps with the name of its next member. -/
inductive Frame where
  | array (values : List Json)
  | object (members : List (List Char × Json))
  | member (members : List (List Char × Json)) (name : List Char)

/-- An item is a value, or a member's name in an object. The first one may be missing. -/
inductive Awaits where
  | item
  | first
  | colon
  | next

inductive Build where
  | inside (frames : List Frame) (awaits : Awaits)
  | whole (value : Json)

def complete : List Frame → Json → Option Build
  | [], value => some (.whole value)
  | .array values :: frames, value =>
      some (.inside (.array (values ++ [value]) :: frames) .next)
  | .member members name :: frames, value =>
      some (.inside (.object (members ++ [(name, value)]) :: frames) .next)
  | .object _ :: _, _ => none

def takeValue (frames : List Frame) : Token → Option Build
  | .string chars => complete frames (.string chars)
  | .word text => (wordValue text).bind (complete frames)
  | .mark char =>
      if char = '[' then some (.inside (.array [] :: frames) .first)
      else if char = '\x7b' then some (.inside (.object [] :: frames) .first)
      else none

def takeItem : List Frame → Token → Option Build
  | .object members :: frames, .string chars =>
      some (.inside (.member members chars :: frames) .colon)
  | .object _ :: _, _ => none
  | frames, token => takeValue frames token

def close : List Frame → Token → Option Build
  | .array values :: frames, .mark char =>
      if char = ']' then complete frames (.array values) else none
  | .object members :: frames, .mark char =>
      if char = '\x7d' then complete frames (.object members) else none
  | _, _ => none

def takeToken : Build → Token → Option Build
  | .inside frames .item, token => takeItem frames token
  | .inside frames .first, token => (close frames token).or (takeItem frames token)
  | .inside frames .colon, .mark char => if char = ':' then some (.inside frames .item) else none
  | .inside frames .next, .mark char =>
      if char = ',' then some (.inside frames .item) else close frames (.mark char)
  | _, _ => none

def buildFrom (build : Build) : List Token → Option Json
  | [] =>
      match build with
      | .whole value => some value
      | .inside _ _ => none
  | token :: rest => (takeToken build token).bind fun next => buildFrom next rest

section Mapping

variable (change : List Char → List Char)

def Frame.mapStrings : Frame → Frame
  | .array values => .array (Json.mapValues change values)
  | .object members => .object (Json.mapMembers change members)
  | .member members name => .member (Json.mapMembers change members) (change name)

def Build.mapStrings : Build → Build
  | .inside frames awaits => .inside (frames.map (Frame.mapStrings change)) awaits
  | .whole value => .whole (value.mapStrings change)

theorem complete_mapStrings (frames : List Frame) (value : Json) :
    complete (frames.map (Frame.mapStrings change)) (value.mapStrings change) =
      (complete frames value).map (Build.mapStrings change) := by
  cases frames with
  | nil => rfl
  | cons frame frames =>
      cases frame with
      | array values =>
          simp [complete, Frame.mapStrings, Build.mapStrings, Json.mapValues_append, Json.mapValues]
      | object members => rfl
      | member members name =>
          simp [complete, Frame.mapStrings, Build.mapStrings, Json.mapMembers_append,
            Json.mapMembers]

theorem wordValue_mapStrings (text : List Char) (value : Json)
    (word : wordValue text = some value) : value.mapStrings change = value := by
  unfold wordValue at word
  split at word
  · cases word
    rfl
  split at word
  · cases word
    rfl
  split at word
  · cases word
    rfl
  split at word
  · cases word
    rfl
  · cases word

theorem close_mapStrings (frames : List Frame) (token : Token) :
    close (frames.map (Frame.mapStrings change)) (token.mapString change) =
      (close frames token).map (Build.mapStrings change) := by
  cases frames with
  | nil => rfl
  | cons frame frames =>
      cases token with
      | mark char =>
          cases frame with
          | array values =>
              simp only [List.map_cons, Frame.mapStrings, Token.mapString, close]
              split
              · exact complete_mapStrings change frames (.array values)
              · rfl
          | object members =>
              simp only [List.map_cons, Frame.mapStrings, Token.mapString, close]
              split
              · exact complete_mapStrings change frames (.object members)
              · rfl
          | member members name => rfl
      | word text => cases frame <;> rfl
      | string chars => cases frame <;> rfl

theorem takeValue_mapStrings (frames : List Frame) (token : Token) :
    takeValue (frames.map (Frame.mapStrings change)) (token.mapString change) =
      (takeValue frames token).map (Build.mapStrings change) := by
  cases token with
  | mark char =>
      simp only [Token.mapString, takeValue]
      split
      · rfl
      split <;> rfl
  | word text =>
      cases word : wordValue text with
      | none => simp [Token.mapString, takeValue, word]
      | some value =>
          simp only [Token.mapString, takeValue, word, Option.bind_some]
          rw [← complete_mapStrings, wordValue_mapStrings change text value word]
  | string chars => exact complete_mapStrings change frames (.string chars)

theorem takeItem_mapStrings (frames : List Frame) (token : Token) :
    takeItem (frames.map (Frame.mapStrings change)) (token.mapString change) =
      (takeItem frames token).map (Build.mapStrings change) := by
  cases frames with
  | nil => exact takeValue_mapStrings change [] token
  | cons frame frames =>
      cases frame with
      | array values => exact takeValue_mapStrings change (.array values :: frames) token
      | object members => cases token <;> rfl
      | member members name =>
          exact takeValue_mapStrings change (.member members name :: frames) token

theorem takeToken_mapStrings (build : Build) (token : Token) :
    takeToken (build.mapStrings change) (token.mapString change) =
      (takeToken build token).map (Build.mapStrings change) := by
  cases build with
  | whole value => rfl
  | inside frames awaits =>
      cases awaits with
      | item => exact takeItem_mapStrings change frames token
      | first =>
          simp only [Build.mapStrings, takeToken, close_mapStrings, takeItem_mapStrings,
            Option.map_or]
      | colon =>
          cases token with
          | mark char =>
              simp only [Build.mapStrings, Token.mapString, takeToken]
              split <;> rfl
          | word text => rfl
          | string chars => rfl
      | next =>
          cases token with
          | mark char =>
              simp only [Build.mapStrings, Token.mapString, takeToken]
              split
              · rfl
              · exact close_mapStrings change frames (.mark char)
          | word text => rfl
          | string chars => rfl

theorem buildFrom_mapStrings (build : Build) (tokens : List Token) :
    buildFrom (build.mapStrings change) (tokens.map (Token.mapString change)) =
      (buildFrom build tokens).map (Json.mapStrings change) := by
  induction tokens generalizing build with
  | nil =>
      cases build with
      | inside frames awaits => rfl
      | whole value => rfl
  | cons token tokens ih =>
      rw [List.map_cons, buildFrom, buildFrom, takeToken_mapStrings, Option.bind_map,
        Option.map_bind]
      exact congrArg _ (funext fun next => ih next)

end Mapping

end JsonText
