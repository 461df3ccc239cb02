import FilterQuery.Json.Basic

/-!
# Values

The constants of a filter and the values of a query document. Integers have
64 bits and are kept apart from floats. A regular expression is a value too:
only a pattern that is compiled gives one, and in JSON it is written as
an object.

Equality of values is equality of what the store compares: floats by their
numeric equality, under which a NaN differs from itself and both zeros are
one.
-/

namespace FilterQuery

/-- A regular expression: its source and its options, one letter each. -/
structure Regex where
  source : String
  options : String
deriving Repr, DecidableEq

/-- Whether an expression matches without regard to case. -/
def Regex.ignoresCase (r : Regex) : Bool := r.options.toList.contains 'i'

/-- A constant of a filter, or a value of a query document. -/
inductive Value where
  | null
  | boolean (b : Bool)
  | integer (n : Int64)
  | float (x : Float)
  | string (s : String)
  | array (items : List Value)
  | object (entries : List (String × Value))
  | regex (r : Regex)
deriving Inhabited

/-- A query document: values under keys, in key order. -/
abbrev Document := Entries Value

namespace Value

def kindName : Value → String
  | .null => "null"
  | .boolean _ => "boolean"
  | .integer _ => "integer"
  | .float _ => "float"
  | .string _ => "string"
  | .array _ => "array"
  | .object _ => "object"
  | .regex _ => "regex"

def text? : Value → Option String
  | .string s => some s
  | _ => none

def single (key : String) (value : Value) : Value := .object (Entries.single key value)

mutual

/-- Whether a value may stand in a query as a constant: null, a truth value,
a text, a finite number, or an array of such values. Documents and regular
expressions would be read as parts of the query. -/
def isPlain : Value → Bool
  | .float x => x.isFinite
  | .array items => arePlain items
  | .object _ | .regex _ => false
  | .null | .boolean _ | .integer _ | .string _ => true

def arePlain : List Value → Bool
  | [] => true
  | item :: rest => item.isPlain && arePlain rest

end

/-! ## Equality -/

mutual

def beq : Value → Value → Bool
  | .null, .null => true
  | .boolean a, .boolean b => a == b
  | .integer a, .integer b => a == b
  | .float a, .float b => a == b
  | .string a, .string b => a == b
  | .array as, .array bs => itemsBeq as bs
  | .object as, .object bs => entriesBeq as bs
  | .regex a, .regex b => a == b
  | _, _ => false

def itemsBeq : List Value → List Value → Bool
  | [], [] => true
  | a :: as, b :: bs => beq a b && itemsBeq as bs
  | _, _ => false

def entriesBeq : List (String × Value) → List (String × Value) → Bool
  | [], [] => true
  | (k, a) :: as, (l, b) :: bs => k == l && beq a b && entriesBeq as bs
  | _, _ => false

end

instance : BEq Value := ⟨beq⟩

/-! ## Values as JSON -/

def regexJson (r : Regex) : Json :=
  .object [("$regularExpression",
    .object [("pattern", .string r.source), ("options", .string r.options)])]

mutual

def toJson : Value → Json
  | .null => .null
  | .boolean b => .boolean b
  | .integer n => .integer n.toInt
  | .float x => .number (.float x)
  | .string s => .string s
  | .array items => .array (jsonItems items)
  | .object entries => .object (jsonMembers entries)
  | .regex r => regexJson r

def jsonItems : List Value → List Json
  | [] => []
  | item :: rest => item.toJson :: jsonItems rest

def jsonMembers : List (String × Value) → List (String × Json)
  | [] => []
  | (key, value) :: rest => (key, value.toJson) :: jsonMembers rest

end

/-- An integer of a JSON value that no value can hold. -/
structure OutOfRange where
  integer : Int
deriving Repr, DecidableEq

/-- The value of an integer, if it fits 64 bits. -/
def ofInt (n : Int) : Except OutOfRange Value :=
  if Int64.minValue.toInt ≤ n ∧ n ≤ Int64.maxValue.toInt then .ok (.integer (Int64.ofInt n))
  else .error ⟨n⟩

mutual

/-- The value a JSON value stands for. An integer beyond 64 bits is refused
and not rounded to a float; the first one in the order of the JSON value is
named. -/
def ofJson : Json → Except OutOfRange Value
  | .null => .ok .null
  | .boolean b => .ok (.boolean b)
  | .number (.integer n) => ofInt n
  | .number (.float x) => .ok (.float x)
  | .string s => .ok (.string s)
  | .array items => (ofItems items).map .array
  | .object members => (ofMembers members).map .object

/-- The values of the items of a JSON array. -/
def ofItems : List Json → Except OutOfRange (List Value)
  | [] => .ok []
  | item :: rest => do
      let value ← ofJson item
      let values ← ofItems rest
      return value :: values

/-- The entries of a JSON object, in their order. -/
def ofMembers : List (String × Json) → Except OutOfRange (List (String × Value))
  | [] => .ok []
  | (key, member) :: rest => do
      let value ← ofJson member
      let entries ← ofMembers rest
      return (key, value) :: entries

end

end Value

end FilterQuery
