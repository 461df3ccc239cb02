import FilterQuery.DecodeError
import FilterQuery.Json.Reader

/-!
# Decoding JSON into typed values

A decoder takes the source of a value and the number of containers that may
still be opened, and gives the typed value or the first problem in the order
of the text. Here are the decoders of JSON values, texts, lists and maps;
`FilterQuery.Decoder.Record` has those of structures, and
`FilterQuery.Decoder.Choice` those of alternatives.
-/

namespace FilterQuery

open Json (FloatReader Source)

/-- How deep containers may stand in each other in a text that is decoded. -/
def depthLimit : Nat := 127

/-- Takes the number of containers that may still be opened, and a source. -/
abbrev Decoder (α : Type) := Nat → Source → Except DecodeError α

namespace Decoder

/-- That a source is not what was expected. A container that is not wanted
is refused at its bracket, whatever is in it. -/
def refuse (expected : String) : Source → DecodeError
  | .null => .data (.invalidType .null expected)
  | .boolean b => .data (.invalidType (.boolean b) expected)
  | .number none => .malformed
  | .number (some (.integer n)) => .data (.invalidType (.integer n) expected)
  | .number (some (.float x)) => .data (.invalidType (.float x) expected)
  | .string none => .malformed
  | .string (some s) => .data (.invalidType (.string s) expected)
  | .array _ => .data (.invalidType .sequence expected)
  | .object _ => .data (.invalidType .map expected)
  | .fault => .malformed

def value : Decoder Json := fun depth source =>
  match source.toJson? depth with
  | some j => .ok j
  | none => .error .malformed

def text : Decoder String := fun _ source =>
  match source with
  | .string (some s) => .ok s
  | source => .error (refuse "a string" source)

/-- Nothing in place of a value, written `null`. -/
def optional {α : Type} (decode : Decoder α) : Decoder (Option α) := fun depth source =>
  match source with
  | .null => .ok none
  | source => (decode depth source).map some

def items {α : Type} (item : Source → Except DecodeError α) :
    Source.Items → Except DecodeError (List α)
  | .closed => .ok []
  | .broken => .error .malformed
  | .cons source rest => do
      let head ← item source
      let tail ← items item rest
      return head :: tail

/-- An array of items of one kind. -/
def list {α : Type} (item : Decoder α) : Decoder (List α) := fun depth source =>
  match source, depth with
  | .array _, 0 => .error .malformed
  | .array sources, depth + 1 => items (item depth) sources
  | source, _ => .error (refuse "a sequence" source)

/-- The members of an object; of several with one key the last counts. -/
def members {α : Type} (member : Source → Except DecodeError α) :
    Source.Members → Except DecodeError (List (String × α))
  | .closed => .ok []
  | .broken => .error .malformed
  | .cons none _ _ => .error .malformed
  | .cons (some key) source rest => do
      let head ← member source
      let tail ← members member rest
      return (key, head) :: tail

/-- An object whose members are of one kind. -/
def entries {α : Type} (member : Decoder α) : Decoder (Entries α) := fun depth source =>
  match source, depth with
  | .object _, 0 => .error .malformed
  | .object sources, depth + 1 => (members (member depth) sources).map Entries.ofList
  | source, _ => .error (refuse "a map" source)

/-! ## Texts -/

/-- Decode a whole text; nothing but blanks may follow the value. -/
def fromText [FloatReader] {α : Type} (decode : Decoder α) (text : String) : Except DecodeError α :=
  let (source, complete) := Source.ofText text
  match decode depthLimit source with
  | .ok a => if complete then .ok a else .error .malformed
  | .error e => .error e

end Decoder

end FilterQuery
