import FilterQuery.Decoder

/-!
# Decoding alternatives

One of several alternatives is written as its name alone, if it has no
content, or as an object with one member, whose key is the name and whose
value is the content.
-/

namespace FilterQuery

open Json (Source)

namespace Decoder

/-- One alternative of a choice: a name alone, or a name with content. -/
inductive Alternative (α : Type) where
  | bare (a : α)
  | holding (decode : Source → Except DecodeError α)

/-- The alternative of a name. -/
def named {α : Type} (alternatives : List (String × Alternative α)) (name : String) :
    Except DecodeError (Alternative α) :=
  match alternatives.lookup name with
  | some a => .ok a
  | none => .error (.data (.unknownVariant name (alternatives.map Prod.fst)))

/-- The alternative that stands as a name alone. -/
def Alternative.ofName {α : Type} : Alternative α → Except DecodeError α
  | .bare a => .ok a
  | .holding _ => .error (.data (.invalidType .unitVariant "newtype variant"))

/-- The alternative that stands with content. A name that needs none may
hold `null`. -/
def Alternative.ofContent {α : Type} (source : Source) : Alternative α → Except DecodeError α
  | .holding decode => decode source
  | .bare a =>
      match source with
      | .null => .ok a
      | source => .error (refuse "unit" source)

/-- The alternative that an object with one member holds. -/
def onlyMember {α : Type} (alternatives : List (String × Alternative α)) :
    Source.Members → Except DecodeError α
  | .closed => .error .malformed
  | .broken => .error .malformed
  | .cons none _ _ => .error .malformed
  | .cons (some key) source rest => do
      let alternative ← named alternatives key
      let a ← alternative.ofContent source
      match rest with
      | .closed => return a
      | _ => throw .malformed

/-- A choice whose object form may be opened. -/
def openChoice {α : Type} (alternatives : List (String × Alternative α)) :
    Source → Except DecodeError α
  | .string (some name) => do (← named alternatives name).ofName
  | .object sources => onlyMember alternatives sources
  | _ => .error .malformed

/-- A choice where no container may be opened. -/
def closedChoice {α : Type} (alternatives : List (String × Alternative α)) :
    Source → Except DecodeError α
  | .string (some name) => do (← named alternatives name).ofName
  | _ => .error .malformed

/-- One of several alternatives; they are given the depth inside the
object. -/
def choice {α : Type} (alternatives : Nat → List (String × Alternative α)) : Decoder α
  | 0, source => closedChoice (alternatives 0) source
  | depth + 1, source => openChoice (alternatives depth) source

end Decoder

end FilterQuery
