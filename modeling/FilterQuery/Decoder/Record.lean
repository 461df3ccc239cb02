import FilterQuery.Decoder

/-!
# Decoding structures

A structure is written as an object with its field names as keys, in any
order, or as an array of its fields in their order. Unknown keys are passed
over. `record` reads the fields into a draft, in which each field is there or
not; the caller makes the structure of it, and says with `required` which
fields have to be there.
-/

namespace FilterQuery

open Json (Source)

namespace Decoder

/-- One field of a record that is being read: `σ` holds the fields read so
far. -/
structure Field (σ : Type) where
  name : String
  /-- An array may end before this field. -/
  canLack : Bool
  isSet : σ → Bool
  set : Source → σ → Except DecodeError σ

/-- The fields of a record that is written as an array. Nothing may follow
them. `read` fields were read before these. -/
def fieldItems {σ : Type} (record : String) (size : Nat) :
    (read : Nat) → List (Field σ) → Source.Items → σ → Except DecodeError σ
  | _, [], .closed, state => .ok state
  | _, [], _, _ => .error .malformed
  | read, field :: fields, .closed, state =>
      if field.canLack then fieldItems record size (read + 1) fields .closed state
      else .error (.data (.invalidLength read record size))
  | _, _ :: _, .broken, _ => .error .malformed
  | read, field :: fields, .cons source rest, state =>
      match field.set source state with
      | .ok state => fieldItems record size (read + 1) fields rest state
      | .error e => .error e

/-- The fields of a record that is written as an object, in any order. The
value of an unknown key is passed over; a key that stands twice is refused
before its second value is looked at. -/
def fieldMembers {σ : Type} (fields : List (Field σ)) :
    Source.Members → σ → Except DecodeError σ
  | .closed, state => .ok state
  | .broken, _ => .error .malformed
  | .cons none _ _, _ => .error .malformed
  | .cons (some key) source rest, state =>
      match fields.find? (·.name = key) with
      | none => if source.isSound then fieldMembers fields rest state else .error .malformed
      | some field =>
          if field.isSet state then .error (.data (.duplicateField key))
          else
            match field.set source state with
            | .ok state => fieldMembers fields rest state
            | .error e => .error e

/-- A record that may be opened. Fields that are lacking stay as they are in
`start`. -/
def openRecord {σ : Type} (name : String) (start : σ) (fields : List (Field σ)) :
    Source → Except DecodeError σ
  | .array sources => fieldItems name fields.length 0 fields sources start
  | .object sources => fieldMembers fields sources start
  | source => .error (refuse ("struct " ++ name) source)

/-- A record where no container may be opened. -/
def closedRecord {α : Type} (name : String) : Source → Except DecodeError α
  | .array _ => .error .malformed
  | .object _ => .error .malformed
  | source => .error (refuse ("struct " ++ name) source)

/-- A record; its fields are given the depth inside it. -/
def record {σ : Type} (name : String) (start : σ) (fields : Nat → List (Field σ)) : Decoder σ
  | 0, source => closedRecord name source
  | depth + 1, source => openRecord name start (fields depth) source

/-- The value of a field that an object has to have. -/
def required {α : Type} (name : String) : Option α → Except DecodeError α
  | some a => .ok a
  | none => .error (.data (.missingField name))

end Decoder

end FilterQuery
