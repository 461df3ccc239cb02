import FilterQuery.Filter.Json
import FilterQuery.Filter.Query
import FilterQuery.Strategy.Options

/-!
# Conversions

`Filter.convertWith` builds the document of a filter and gives it together
with the fields that the filter refers to, once these are found to be enough
for the strategy.
-/

namespace FilterQuery

/-- What a filter is converted to: the top-level fields it refers to, each
once, in the order of first reference, and its query document. -/
structure ConversionResult where
  fields : List String
  document : Document

namespace ConversionResult

def toJson (r : ConversionResult) : Json :=
  .object [("fields", Json.strings r.fields), ("document", .object (Value.jsonMembers r.document))]

structure Draft where
  fields : Option (List String) := none
  document : Option Document := none

def fieldsOf (depth : Nat) : List (Decoder.Field Draft) := [
  { name := "fields", canLack := false
    isSet := (·.fields.isSome)
    set := fun source draft => do
      return { draft with fields := ← Decoder.list Decoder.text depth source } },
  { name := "document", canLack := false
    isSet := (·.document.isSome)
    set := fun source draft => do
      return { draft with document := ← Decoder.entries Value.decode depth source } }]

/-- A record of the fields and the document. -/
def decode : Decoder ConversionResult := fun depth source => do
  let draft ← Decoder.record "ConversionResult" {} fieldsOf depth source
  return ⟨← Decoder.required "fields" draft.fields, ← Decoder.required "document" draft.document⟩

end ConversionResult

/-- The result of a run that ends with a document. -/
def Session.finish (s : Strategy) (session : Session) (document : Document) :
    Except ConvertError ConversionResult := do
  s.assertRequired session
  return ⟨session, document⟩

namespace Filter

variable [RegexEngine]

def convertWith (f : Filter) (s : Strategy) : Except ConvertError ConversionResult :=
  match Session.start.build s f with
  | (.ok document, session) => session.finish s document
  | (.error e, _) => .error e

/-- Convert a filter that may refer to every field. -/
def convert (f : Filter) : Except ConvertError ConversionResult := f.convertWith .unrestricted

end Filter

end FilterQuery
