import FilterQuery.Clause
import FilterQuery.Decoder.Choice
import FilterQuery.Decoder.Record

/-!
# Clauses in JSON

How ranges, operands and clauses are written and read.
-/

namespace FilterQuery

namespace Value

/-- Reads the whole JSON value before it looks at its integers. -/
def decode : Decoder Value := fun depth source => do
  let j ← Decoder.value depth source
  match ofJson j with
  | .ok value => return value
  | .error ⟨n⟩ => throw (.data (.outOfRange n))

end Value

namespace Range

def toJson (r : Range) : Json :=
  .object [("lower", r.lower.toJson), ("upper", r.upper.toJson)]

structure Draft where
  lower : Option Value := none
  upper : Option Value := none

def fields (depth : Nat) : List (Decoder.Field Draft) := [
  { name := "lower", canLack := false
    isSet := (·.lower.isSome)
    set := fun source draft => do return { draft with lower := ← Value.decode depth source } },
  { name := "upper", canLack := false
    isSet := (·.upper.isSome)
    set := fun source draft => do return { draft with upper := ← Value.decode depth source } }]

/-- A record of its two bounds. -/
def decode : Decoder Range := fun depth source => do
  let draft ← Decoder.record "Range" {} fields depth source
  return ⟨← Decoder.required "lower" draft.lower, ← Decoder.required "upper" draft.upper⟩

end Range

namespace Constant

/-- The JSON form of a constant: an object with the name of its kind. -/
def toJson : Constant → Json
  | .literal value => .object [("literal", value.toJson)]
  | .range bounds => .object [("range", bounds.toJson)]

end Constant

namespace Operand

/-- The JSON form of an operand: an object with the name of its kind. -/
def toJson : Operand → Json
  | .target t => .object [("target", t.toJson)]
  | .constant c => c.toJson

/-- A choice by the name of the kind. -/
def decode : Decoder Operand :=
  Decoder.choice fun depth => [
    ("target", .holding fun source => (Target.decode depth source).map .target),
    ("literal", .holding fun source => (Value.decode depth source).map literal),
    ("range", .holding fun source => (Range.decode depth source).map range)]

end Operand

namespace Clause

def toJson (c : Clause) : Json :=
  .object [("subject", c.subject.toJson), ("operator", c.operator.toJson),
    ("object", c.object.toJson)]

structure Draft where
  subject : Option Operand := none
  operator : Option Operator := none
  object : Option Operand := none

def fields (depth : Nat) : List (Decoder.Field Draft) := [
  { name := "subject", canLack := false
    isSet := (·.subject.isSome)
    set := fun source draft => do return { draft with subject := ← Operand.decode depth source } },
  { name := "operator", canLack := false
    isSet := (·.operator.isSome)
    set := fun source draft => do
      return { draft with operator := ← Operator.decode depth source } },
  { name := "object", canLack := false
    isSet := (·.object.isSome)
    set := fun source draft => do return { draft with object := ← Operand.decode depth source } }]

/-- A record of its operands and its operator. -/
def decode : Decoder Clause := fun depth source => do
  let draft ← Decoder.record "Clause" {} fields depth source
  return {
    subject := ← Decoder.required "subject" draft.subject
    operator := ← Decoder.required "operator" draft.operator
    object := ← Decoder.required "object" draft.object }

end Clause

end FilterQuery
