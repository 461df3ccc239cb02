import FilterQuery.Json.Literal
import FilterQuery.Json.Quoted

/-!
# Writing JSON

`render` writes a value on one line without any blanks, `renderPretty` over
several lines with two blanks of indentation a level; both list the members
of an object in the order in which it holds them.

A number that is not finite has no JSON text. `write` and `writePretty`
refuse a value that holds one, and name the first.
-/

namespace FilterQuery

/-- Why a value cannot be written: it holds a number that is not finite. -/
inductive WriteError where
  | nonFinite (x : Float)
deriving Repr

namespace WriteError

def nameOf (x : Float) : String :=
  if x.isNaN then "NaN" else if x < 0 then "-inf" else "inf"

def message : WriteError → String
  | .nonFinite x => "non-finite number " ++ nameOf x

end WriteError

namespace Json

/-- The characters of a number; a number without a literal is written as
`null`, the one JSON value that is no value. -/
def Number.chars (n : Number) : List Char :=
  if n.isFinite then n.literal.text else ['n', 'u', 'l', 'l']

def booleanChars : Bool → List Char
  | true => ['t', 'r', 'u', 'e']
  | false => ['f', 'a', 'l', 's', 'e']

/-! ## On one line -/

mutual

def chars : Json → List Char
  | .null => ['n', 'u', 'l', 'l']
  | .boolean b => booleanChars b
  | .number n => n.chars
  | .string s => Quoted.write s
  | .array [] => ['[', ']']
  | .array (item :: rest) => '[' :: item.chars ++ itemChars rest
  | .object [] => ['\x7b', '\x7d']
  | .object ((key, value) :: rest) =>
      '\x7b' :: Quoted.write key ++ ':' :: value.chars ++ memberChars rest

/-- The characters of the items after the first, and the closing bracket. -/
def itemChars : List Json → List Char
  | [] => [']']
  | item :: rest => ',' :: item.chars ++ itemChars rest

/-- The characters of the members after the first, and the closing brace. -/
def memberChars : List (String × Json) → List Char
  | [] => ['\x7d']
  | (key, value) :: rest =>
      ',' :: Quoted.write key ++ ':' :: value.chars ++ memberChars rest

end

def render (j : Json) : String := String.ofList j.chars

/-! ## Over several lines -/

def newline (level : Nat) : List Char := '\n' :: List.replicate (2 * level) ' '

mutual

/-- The characters of a value whose first line is indented already. -/
def prettyChars (level : Nat) : Json → List Char
  | .array (item :: rest) =>
      '[' :: newline (level + 1) ++ item.prettyChars (level + 1) ++ prettyItems level rest
  | .object ((key, value) :: rest) =>
      '\x7b' :: newline (level + 1) ++ Quoted.write key ++ [':', ' ']
        ++ value.prettyChars (level + 1) ++ prettyMembers level rest
  | .null => ['n', 'u', 'l', 'l']
  | .boolean b => booleanChars b
  | .number n => n.chars
  | .string s => Quoted.write s
  | .array [] => ['[', ']']
  | .object [] => ['\x7b', '\x7d']

def prettyItems (level : Nat) : List Json → List Char
  | [] => newline level ++ [']']
  | item :: rest =>
      ',' :: newline (level + 1) ++ item.prettyChars (level + 1) ++ prettyItems level rest

def prettyMembers (level : Nat) : List (String × Json) → List Char
  | [] => newline level ++ ['\x7d']
  | (key, value) :: rest =>
      ',' :: newline (level + 1) ++ Quoted.write key ++ [':', ' ']
        ++ value.prettyChars (level + 1) ++ prettyMembers level rest

end

def renderPretty (j : Json) : String := String.ofList (j.prettyChars 0)

/-! ## Refusing what has no text -/

mutual

/-- The first number of a value that is not finite, in the order of
writing. -/
def nonFinite? : Json → Option Float
  | .number (.float x) => if x.isFinite then none else some x
  | .array items => nonFiniteItem? items
  | .object members => nonFiniteMember? members
  | _ => none

def nonFiniteItem? : List Json → Option Float
  | [] => none
  | item :: rest => item.nonFinite? <|> nonFiniteItem? rest

def nonFiniteMember? : List (String × Json) → Option Float
  | [] => none
  | (_, value) :: rest => value.nonFinite? <|> nonFiniteMember? rest

end

/-- Write a value with one of the printers, if it can be written. -/
def writeWith (print : Json → String) (j : Json) : Except WriteError String :=
  match j.nonFinite? with
  | some x => .error (.nonFinite x)
  | none => .ok (print j)

def write (j : Json) : Except WriteError String := j.writeWith render

def writePretty (j : Json) : Except WriteError String := j.writeWith renderPretty

end Json

end FilterQuery
