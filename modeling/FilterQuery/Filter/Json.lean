import FilterQuery.Clause.Json
import FilterQuery.Filter

/-!
# Filters in JSON

How filters, their statements and what these hold are written and read. A
filter nested in a filter opens four containers more: its statement and the
list of these, the object that names its kind, and itself. So the decoders
recurse on the number of containers that may still be opened.
-/

namespace FilterQuery

namespace Conjunction

def name : Conjunction → String
  | .and => "and"
  | .or => "or"

def toJson (c : Conjunction) : Json := .string c.name

def decode : Decoder Conjunction :=
  Decoder.choice fun _ => [("and", .bare .and), ("or", .bare .or)]

end Conjunction

mutual

/-- The JSON form of what a statement holds: an object with the name of its
kind. -/
def Member.toJson : Member → Json
  | .clause clause => .object [("clause", clause.toJson)]
  | .group filter => .object [("filter", filter.toJson)]

def Statement.toJson : Statement → Json
  | ⟨conjunction, member⟩ =>
      .object [("conjunctive", conjunction.toJson), ("value", member.toJson)]

def Filter.toJson : Filter → Json
  | ⟨statements⟩ => .object [("statements", .array (statementsJson statements))]

def statementsJson : List Statement → List Json
  | [] => []
  | statement :: rest => statement.toJson :: statementsJson rest

end

structure Statement.Draft where
  conjunction : Option Conjunction := none
  member : Option Member := none

structure Filter.Draft where
  statements : Option (List Statement) := none

namespace Decoder

/-- How the fields of a statement are read, given how its value is. The
conjunction may lack; then it is `and`. -/
def statementFields (depth : Nat) (member : Json.Source → Except DecodeError Member) :
    List (Field Statement.Draft) := [
  { name := "conjunctive", canLack := true
    isSet := (·.conjunction.isSome)
    set := fun source draft => do
      return { draft with conjunction := ← Conjunction.decode depth source } },
  { name := "value", canLack := false
    isSet := (·.member.isSome)
    set := fun source draft => do return { draft with member := ← member source } }]

/-- How the field of a filter is read, given how its statements are. -/
def filterFields (statements : Json.Source → Except DecodeError (List Statement)) :
    List (Field Filter.Draft) := [
  { name := "statements", canLack := false
    isSet := (·.statements.isSome)
    set := fun source draft => do return { draft with statements := ← statements source } }]

def finishStatement (draft : Statement.Draft) : Except DecodeError Statement := do
  return ⟨draft.conjunction.getD .and, ← required "value" draft.member⟩

def finishFilter (draft : Filter.Draft) : Except DecodeError Filter := do
  return ⟨← required "statements" draft.statements⟩

/-- The alternatives of what a statement holds. -/
def memberAlternatives (clause : Json.Source → Except DecodeError Clause)
    (filter : Json.Source → Except DecodeError Filter) : List (String × Alternative Member) := [
  ("clause", .holding fun source => (clause source).map .clause),
  ("filter", .holding fun source => (filter source).map .group)]

end Decoder

mutual

def Member.decode : Decoder Member
  | 0, source =>
      Decoder.closedChoice
        (Decoder.memberAlternatives (fun _ => .error .malformed) (fun _ => .error .malformed)) source
  | depth + 1, source =>
      Decoder.openChoice
        (Decoder.memberAlternatives (Clause.decode depth) (Filter.decode depth)) source

def Statement.decode : Decoder Statement
  | 0, source => Decoder.closedRecord "Statement" source
  | depth + 1, source => do
      let draft ← Decoder.openRecord "Statement" {}
        (Decoder.statementFields depth (Member.decode depth)) source
      Decoder.finishStatement draft

def Filter.decode : Decoder Filter
  | 0, source => Decoder.closedRecord "Filter" source
  | depth + 1, source => do
      let draft ← Decoder.openRecord "Filter" {}
        (Decoder.filterFields (decodeStatements depth)) source
      Decoder.finishFilter draft

def decodeStatements : Decoder (List Statement)
  | 0, .array _ => .error .malformed
  | depth + 1, .array sources => Decoder.items (Statement.decode depth) sources
  | _, source => .error (Decoder.refuse "a sequence" source)

end

end FilterQuery
