import FilterQuery.Decoder.Choice
import FilterQuery.Decoder.Record
import FilterQuery.Strategy

/-!
# Strategy options in JSON

Options are read in two ways. `StrategyOptions.decode` reads them as a record
like every other, with the decoder's errors. `Strategy.ofJson` takes any JSON
value and says which key has the wrong shape; there `null` means that nothing
is asked for, at every level.
-/

namespace FilterQuery

/-! ## As records -/

namespace RequireMode

def toJson (m : RequireMode) : Json := .string m.name

def decode : Decoder RequireMode :=
  Decoder.choice fun _ => [("any", .bare .any), ("all", .bare .all)]

end RequireMode

/-- The JSON form of what may be missing: `null` stands for nothing. -/
def Json.ofOption {α : Type} (toJson : α → Json) : Option α → Json
  | none => .null
  | some a => toJson a

namespace RequireOptions

def toJson (o : RequireOptions) : Json :=
  .object [("fields", Json.ofOption Json.strings o.fields),
    ("which", Json.ofOption RequireMode.toJson o.which)]

/-- The fields read so far. One that was read as `null` is there too. -/
structure Draft where
  fields : Option (Option (List String)) := none
  which : Option (Option RequireMode) := none

def fieldsOf (depth : Nat) : List (Decoder.Field Draft) := [
  { name := "fields", canLack := true
    isSet := (·.fields.isSome)
    set := fun source draft => do
      let fields ← Decoder.optional (Decoder.list Decoder.text) depth source
      return { draft with fields := some fields } },
  { name := "which", canLack := true
    isSet := (·.which.isSome)
    set := fun source draft => do
      let which ← Decoder.optional RequireMode.decode depth source
      return { draft with which := some which } }]

def decode : Decoder RequireOptions := fun depth source => do
  let draft ← Decoder.record "RequireOptions" {} fieldsOf depth source
  return ⟨draft.fields.getD none, draft.which.getD none⟩

end RequireOptions

namespace StrategyOptions

def toJson (o : StrategyOptions) : Json :=
  .object [("allow", Json.ofOption Json.strings o.allow),
    ("deny", Json.ofOption Json.strings o.deny),
    ("require", Json.ofOption RequireOptions.toJson o.require)]

structure Draft where
  allow : Option (Option (List String)) := none
  deny : Option (Option (List String)) := none
  require : Option (Option RequireOptions) := none

def fieldsOf (depth : Nat) : List (Decoder.Field Draft) := [
  { name := "allow", canLack := true
    isSet := (·.allow.isSome)
    set := fun source draft => do
      let allow ← Decoder.optional (Decoder.list Decoder.text) depth source
      return { draft with allow := some allow } },
  { name := "deny", canLack := true
    isSet := (·.deny.isSome)
    set := fun source draft => do
      let deny ← Decoder.optional (Decoder.list Decoder.text) depth source
      return { draft with deny := some deny } },
  { name := "require", canLack := true
    isSet := (·.require.isSome)
    set := fun source draft => do
      let require ← Decoder.optional RequireOptions.decode depth source
      return { draft with require := some require } }]

def decode : Decoder StrategyOptions := fun depth source => do
  let draft ← Decoder.record "StrategyOptions" {} fieldsOf depth source
  return ⟨draft.allow.getD none, draft.deny.getD none, draft.require.getD none⟩

end StrategyOptions

/-! ## As any JSON value -/

namespace Strategy

/-- The texts of a list of JSON values, if they all are texts. -/
def textsOf? : List Json → Option (List String)
  | [] => some []
  | .string s :: rest => (textsOf? rest).map (s :: ·)
  | _ :: _ => none

/-- A list of texts where there may be none; `e` says that it is something
else. -/
def textsOf (e : StrategyError) : Option Json → Except StrategyError (Option (List String))
  | none | some .null => .ok none
  | some (.array items) =>
      match textsOf? items with
      | some texts => .ok (some texts)
      | none => .error e
  | some _ => .error e

def modeOf : Option Json → Except StrategyError (Option RequireMode)
  | none | some .null => .ok none
  | some (.string name) =>
      match RequireMode.ofName? name with
      | some mode => .ok (some mode)
      | none => .error .invalidRequireMode
  | some _ => .error .invalidRequireMode

/-- What is asked for about required fields, where there may be nothing. -/
def requireOf : Option Json → Except StrategyError (Option RequireOptions)
  | none | some .null => .ok none
  | some (.object members) => do
      let fields ← textsOf .requireFieldsNotArray (members.lookup "fields")
      let which ← modeOf (members.lookup "which")
      return some ⟨fields, which⟩
  | some _ => .error .requireNotObject

/-- The strategy of options given as any JSON value. -/
def ofJson : Json → Except StrategyError Strategy
  | .null => .ok unrestricted
  | .object members => do
      let allow ← textsOf .allowNotArray (members.lookup "allow")
      let deny ← textsOf .denyNotArray (members.lookup "deny")
      let require ← requireOf (members.lookup "require")
      new ⟨allow, deny, require⟩
  | _ => .error .optionsNotObject

end Strategy

end FilterQuery
