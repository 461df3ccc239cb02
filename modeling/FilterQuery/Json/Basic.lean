import FilterQuery.Entries

/-!
# JSON values

A JSON value as a tree. Integers and floats are kept apart, so that `42`
and `42.0` stay different. An object lists its members in the order in which
they are written; one that was read lists them by key, each key once.
-/

namespace FilterQuery

namespace Json

/-- A JSON number: an integer is written without a fraction, a float with a
fraction or an exponent. -/
inductive Number where
  | integer (n : Int)
  | float (x : Float)
deriving Repr, DecidableEq

end Json

inductive Json where
  | null
  | boolean (b : Bool)
  | number (n : Json.Number)
  | string (s : String)
  | array (items : List Json)
  | object (members : List (String × Json))
deriving Repr, Inhabited

namespace Json

def integer (n : Int) : Json := .number (.integer n)

def strings (items : List String) : Json := .array (items.map .string)

mutual

/-- How many containers are open at the deepest place of a value. -/
def depth : Json → Nat
  | .array items => depthOfItems items + 1
  | .object members => depthOfMembers members + 1
  | _ => 0

def depthOfItems : List Json → Nat
  | [] => 0
  | item :: rest => max item.depth (depthOfItems rest)

def depthOfMembers : List (String × Json) → Nat
  | [] => 0
  | (_, value) :: rest => max value.depth (depthOfMembers rest)

end

end Json

end FilterQuery
