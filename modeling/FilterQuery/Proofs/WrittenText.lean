import FilterQuery.Decoder.Choice
import FilterQuery.Decoder.Record
import FilterQuery.Proofs.JsonText

/-!
# Decoding what was written

`Decoder.Recovers decode j a` says that the JSON value `j` can be written, on
one line as well as over several, and that the decoder finds `a` in either
text. As the reader gives back the source of what is printed, this is a
matter of the decoder on that source alone (`recovers_of_decode`).

Beside it stand the steps of the decoders on well-formed sources: one lemma
for the items of a list, one for each kind of field of a record, and one for
a choice that is written with its content. With them a decoder of a structure
is run by naming, field by field, what is read there.
-/

namespace FilterQuery

namespace Json

/-! ## Values that can be written -/

mutual

theorem nonFinite?_eq_none : ∀ {j : Json}, (∀ n ∈ j.numbers, n.isFinite = true) →
    j.nonFinite? = none
  | .null, _ | .boolean _, _ | .string _, _ | .number (.integer _), _ => rfl
  | .number (.float x), h => by
      have hx : x.isFinite = true := h (.float x) (by simp [numbers])
      rw [nonFinite?, if_pos hx]
  | .array _, h => by
      rw [numbers] at h
      rw [nonFinite?, nonFiniteItem?_eq_none h]
  | .object _, h => by
      rw [numbers] at h
      rw [nonFinite?, nonFiniteMember?_eq_none h]

theorem nonFiniteItem?_eq_none : ∀ {items : List Json},
    (∀ n ∈ numbersOfItems items, n.isFinite = true) → nonFiniteItem? items = none
  | [], _ => rfl
  | item :: rest, h => by
      rw [numbersOfItems, List.forall_mem_append] at h
      rw [nonFiniteItem?, nonFinite?_eq_none h.1, nonFiniteItem?_eq_none h.2]
      rfl

theorem nonFiniteMember?_eq_none : ∀ {members : List (String × Json)},
    (∀ n ∈ numbersOfMembers members, n.isFinite = true) → nonFiniteMember? members = none
  | [], _ => rfl
  | (_, value) :: rest, h => by
      rw [numbersOfMembers, List.forall_mem_append] at h
      rw [nonFiniteMember?, nonFinite?_eq_none h.1, nonFiniteMember?_eq_none h.2]
      rfl

end

theorem writeWith_eq_ok {j : Json} (h : ∀ n ∈ j.numbers, n.isFinite = true)
    (print : Json → String) : j.writeWith print = .ok (print j) := by
  rw [writeWith, nonFinite?_eq_none h]

end Json

open Json (FloatReader Source)

namespace Decoder

variable {α : Type}

/-! ## Reading back -/

theorem fromText_of_ofText [FloatReader] {decode : Decoder α} {text : String} {source : Source}
    (h : Source.ofText text = (source, true)) :
    fromText decode text = decode depthLimit source := by
  simp only [fromText, h]
  cases decode depthLimit source <;> rfl

/-- The value can be written, by either printer, and what is written is
decoded as `a`. -/
structure Recovers [FloatReader] (decode : Decoder α) (j : Json) (a : α) : Prop where
  line : ∃ text, j.write = .ok text ∧ fromText decode text = .ok a
  lines : ∃ text, j.writePretty = .ok text ∧ fromText decode text = .ok a

theorem recovers_of_decode [FloatReader] {decode : Decoder α} {j : Json} {a : α}
    (hnumbers : ∀ n ∈ j.numbers, n.Faithful) (h : decode depthLimit j.toSource = .ok a) :
    Recovers decode j a := by
  have hfinite : ∀ n ∈ j.numbers, n.isFinite = true := fun n hn => (hnumbers n hn).1
  constructor
  · refine ⟨j.render, Json.writeWith_eq_ok hfinite _, ?_⟩
    rw [fromText_of_ofText (Source.ofText_render hnumbers), h]
  · refine ⟨j.renderPretty, Json.writeWith_eq_ok hfinite _, ?_⟩
    rw [fromText_of_ofText (Source.ofText_renderPretty hnumbers), h]

/-! ## Lists -/

theorem items_itemSources {item : Source → Except DecodeError α} {toJson : α → Json} :
    ∀ {as : List α}, (∀ a ∈ as, item (toJson a).toSource = .ok a) →
      items item (Json.itemSources (as.map toJson)) = .ok as
  | [], _ => rfl
  | a :: rest, h => by
      obtain ⟨ha, hrest⟩ := List.forall_mem_cons.mp h
      rw [List.map_cons, Json.itemSources, items, ha, items_itemSources hrest]
      rfl

theorem list_toSource {item : Decoder α} {toJson : α → Json} {depth : Nat} {as : List α}
    (h : ∀ a ∈ as, item depth (toJson a).toSource = .ok a) :
    list item (depth + 1) (Json.array (as.map toJson)).toSource = .ok as :=
  items_itemSources h

/-! ## Records -/

section Records

variable {σ : Type} {fields : List (Field σ)} {state : σ}

theorem fieldMembers_nil : fieldMembers fields (Json.memberSources []) state = .ok state := rfl

/-- The first member fills its field. -/
theorem fieldMembers_cons {field : Field σ} {key : String} {value : Json}
    {rest : List (String × Json)} (next : σ) {final : σ}
    (hfield : fields.find? (·.name = key) = some field) (hfree : field.isSet state = false)
    (hset : field.set value.toSource state = .ok next)
    (hrest : fieldMembers fields (Json.memberSources rest) next = .ok final) :
    fieldMembers fields (Json.memberSources ((key, value) :: rest)) state = .ok final := by
  simp [Json.memberSources, fieldMembers, hfield, hfree, hset, hrest]

theorem record_toSource {name : String} {fields : Nat → List (Field σ)} {depth : Nat}
    {members : List (String × Json)} {final : σ}
    (h : fieldMembers (fields depth) (Json.memberSources members) state = .ok final) :
    record name state fields (depth + 1) (Json.object members).toSource = .ok final := h

end Records

/-! ## Choices -/

/-- An alternative that is written with its content. -/
theorem openChoice_object {alternatives : List (String × Alternative α)} {name : String}
    {decode : Source → Except DecodeError α} {content : Json} {a : α}
    (hname : alternatives.lookup name = some (.holding decode))
    (ha : decode content.toSource = .ok a) :
    openChoice alternatives (Json.object [(name, content)]).toSource = .ok a := by
  have hnamed : named alternatives name = .ok (.holding decode) := by rw [named, hname]
  simp only [Json.toSource, Json.memberSources, openChoice, onlyMember, hnamed, bind, Except.bind,
    Alternative.ofContent, ha]
  rfl

end Decoder

end FilterQuery
