import FilterQuery.Decoder

/-!
# Targets

A target refers to a field of a stored document, possibly deep inside it: a
path of one or more segments. `Target.field` identifies the top-level field,
which is what field policies speak of, and `Target.pointer` the whole path;
both are JSON pointers, in which `~` is written `~0` and `/` is written `~1`.
-/

namespace FilterQuery

inductive Segment where
  | field (name : String)
  | index (position : Int64)
deriving Repr, DecidableEq

namespace Segment

def text : Segment → String
  | .field name => name
  | .index position => String.ofList (Json.Number.integer position.toInt).literal.text

def toJson : Segment → Json
  | .field name => .string name
  | .index position => .integer position.toInt

/-- The segment a JSON value stands for: a text, or an integer of 64 bits. -/
def ofJson? : Json → Option Segment
  | .string name => some (.field name)
  | .number (.integer n) =>
      if Int64.minValue.toInt ≤ n ∧ n ≤ Int64.maxValue.toInt then some (.index (Int64.ofInt n))
      else none
  | _ => none

/-- Reads the whole value before it looks at what it is. -/
def decode : Decoder Segment := fun depth source => do
  let j ← Decoder.value depth source
  match ofJson? j with
  | some segment => return segment
  | none => throw (.data .notASegment)

end Segment

/-! ## JSON pointers -/

namespace Pointer

def escapeChar (c : Char) : List Char :=
  if c = '~' then ['~', '0'] else if c = '/' then ['~', '1'] else [c]

/-- A text as a token of a pointer, led by a slash. -/
def token (s : String) : List Char := '/' :: s.toList.flatMap escapeChar

def ofTexts (texts : List String) : String := String.ofList (texts.flatMap token)

end Pointer

/-! ## Targets -/

structure Target where
  first : Segment
  rest : List Segment
deriving Repr, DecidableEq

namespace Target

def segments (t : Target) : List Segment := t.first :: t.rest

def ofSegments? : List Segment → Option Target
  | [] => none
  | first :: rest => some ⟨first, rest⟩

def ofNames? (names : List String) : Option Target := ofSegments? (names.map .field)

def texts (t : Target) : List String := t.segments.map Segment.text

/-- The pointer to the top-level field: what identifies it in a policy and in
the list of fields a filter refers to. -/
def field (t : Target) : String := Pointer.ofTexts [t.first.text]

def pointer (t : Target) : String := Pointer.ofTexts t.texts

def toJson (t : Target) : Json := .array (t.segments.map Segment.toJson)

/-- Reads the list of segments to its end before it looks at its length. -/
def decode : Decoder Target := fun depth source => do
  let segments ← Decoder.list Segment.decode depth source
  match ofSegments? segments with
  | some target => return target
  | none => throw (.data .emptyTarget)

end Target

end FilterQuery
