import FilterQuery.Json.Literal
import FilterQuery.Json.Quoted

/-!
# A JSON text as read

Reading does not stop at a fault with nothing in hand: it gives a `Source`,
the tree of what stands in the text up to the first fault, and marks the
place of the fault. A decoder that walks this tree from the front therefore
meets a misplaced value before a fault that comes after it, and a fault
before a misplaced value that comes after that: the first problem in the
order of the text.

A list in the tree ends either `closed`, with its bracket, or `broken`, with
a fault in place of a comma or bracket. Leaves keep what may be well written
without standing for anything: a number too large for a double, and a text
with half of a surrogate pair.
-/

namespace FilterQuery

namespace Json

mutual

/-- A JSON value as it stands in a text, up to the first fault. -/
inductive Source where
  | null
  | boolean (b : Bool)
  | number (value : Option Number)
  | string (text : Option String)
  | array (items : Source.Items)
  | object (members : Source.Members)
  | fault

/-- The items of an array and how their list ends. -/
inductive Source.Items where
  | closed
  | broken
  | cons (item : Source) (rest : Source.Items)

/-- The members of an object and how their list ends. A key that is no quoted
text is a fault, so the list breaks before it. -/
inductive Source.Members where
  | closed
  | broken
  | cons (key : Option String) (value : Source) (rest : Source.Members)

end

namespace Source

/-! ## Sound sources -/

mutual

/-- There is no fault in the source. -/
def isSound : Source → Bool
  | .array items => items.isSound
  | .object members => members.isSound
  | .fault => false
  | _ => true

def Items.isSound : Items → Bool
  | .closed => true
  | .broken => false
  | .cons item rest => item.isSound && rest.isSound

def Members.isSound : Members → Bool
  | .closed => true
  | .broken => false
  | .cons _ value rest => value.isSound && rest.isSound

end

mutual

/-- The value a source stands for: nothing where there is a fault in it, a
leaf of it stands for nothing, or more than `depth` containers are open at
one place. -/
def toJson? (depth : Nat) : Source → Option Json
  | .null => some .null
  | .boolean b => some (.boolean b)
  | .number n => n.map .number
  | .string s => s.map .string
  | .array items =>
      match depth with
      | 0 => none
      | depth + 1 => (items.toJsons? depth).map .array
  | .object members =>
      match depth with
      | 0 => none
      | depth + 1 => (members.toEntries? depth).map fun es => .object (Entries.ofList es)
  | .fault => none

def Items.toJsons? (depth : Nat) : Items → Option (List Json)
  | .closed => some []
  | .broken => none
  | .cons item rest => do
      let value ← item.toJson? depth
      let values ← rest.toJsons? depth
      return value :: values

/-- The members in the order of the text. -/
def Members.toEntries? (depth : Nat) : Members → Option (List (String × Json))
  | .closed => some []
  | .broken => none
  | .cons key value rest => do
      let key ← key
      let value ← value.toJson? depth
      let entries ← rest.toEntries? depth
      return (key, value) :: entries

end

end Source

/-! ## The source of a value -/

mutual

/-- The source of a value that is written. -/
def toSource : Json → Source
  | .null => .null
  | .boolean b => .boolean b
  | .number n => .number (some n)
  | .string s => .string (some s)
  | .array items => .array (itemSources items)
  | .object members => .object (memberSources members)

def itemSources : List Json → Source.Items
  | [] => .closed
  | item :: rest => .cons item.toSource (itemSources rest)

def memberSources : List (String × Json) → Source.Members
  | [] => .closed
  | (key, value) :: rest => .cons (some key) value.toSource (memberSources rest)

end

end Json

end FilterQuery
