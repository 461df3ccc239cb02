import Mathlib.Data.List.Nodup
import FilterQuery.Proofs.Translation
import FilterQuery.Proofs.WrittenText

/-!
# Reading a record from an object

A record is read from an object by going through its members and filling a
draft. What comes of it can be said without the way there, field by field: the
place of a field holds what is decoded from the member of that name, and
stays as it was if there is none (`Fills.of_members`). And if no key stands
twice, the record is read whenever each of its fields is
(`exists_fieldMembers`).

`Fills` is what the fields of a record have to satisfy for that: each has a
place of its own in the draft.
-/

namespace FilterQuery

/-! ## Values at hand -/

namespace Json

mutual

/-- A value at hand has no fault. -/
theorem isSound_toSource : ∀ j : Json, j.toSource.isSound = true
  | .null | .boolean _ | .number _ | .string _ => rfl
  | .array items => by
      rw [toSource, Source.isSound]
      exact isSound_itemSources items
  | .object members => by
      rw [toSource, Source.isSound]
      exact isSound_memberSources members

theorem isSound_itemSources : ∀ items : List Json, (itemSources items).isSound = true
  | [] => rfl
  | item :: rest => by
      rw [itemSources, Source.Items.isSound, isSound_toSource item, isSound_itemSources rest]
      rfl

theorem isSound_memberSources : ∀ members : List (String × Json),
    (memberSources members).isSound = true
  | [] => rfl
  | (key, value) :: rest => by
      rw [memberSources, Source.Members.isSound, isSound_toSource value,
        isSound_memberSources rest]
      rfl

end

end Json

open Json (Source)

namespace Decoder

variable {σ β : Type} {fields : List (Field σ)} {members : List (String × Json)}
  {state final : σ}

/-- A member is passed over if its key is unknown, and else fills a field that
was free. -/
theorem fieldMembers_cons_eq_ok {key : String} {value : Json} :
    fieldMembers fields (Json.memberSources ((key, value) :: members)) state = .ok final ↔
      (fields.find? (·.name = key) = none ∧
          fieldMembers fields (Json.memberSources members) state = .ok final) ∨
        ∃ field next, fields.find? (·.name = key) = some field ∧ field.isSet state = false ∧
          field.set value.toSource state = .ok next ∧
          fieldMembers fields (Json.memberSources members) next = .ok final := by
  rw [Json.memberSources, fieldMembers, Json.isSound_toSource]
  cases hfield : fields.find? (·.name = key) with
  | none => simp
  | some field =>
      cases hfree : field.isSet state with
      | true => simp [hfree]
      | false => cases hset : field.set value.toSource state <;> simp [hfree, hset]

/-! ## Places in a draft -/

/-- Setting a field does not touch a place of the draft. -/
def Field.Leaves (get : σ → Option β) (field : Field σ) : Prop :=
  ∀ source state next, field.set source state = .ok next → get next = get state

/-- What is put elsewhere is not put there. -/
theorem Field.Leaves.of_set {γ : Type} {get : σ → Option β} {field : Field σ}
    {decode : Source → Except DecodeError γ} {put : σ → γ → σ}
    (hset : ∀ source state, field.set source state = decode source >>= fun c => pure (put state c))
    (hput : ∀ state c, get (put state c) = get state) : field.Leaves get := by
  intro source state next h
  rw [hset] at h
  obtain ⟨c, -, hnext⟩ := Except.bind_eq_ok_iff.mp h
  cases hnext
  exact hput state c

/-- The field of a name keeps what is decoded for it at a place of the draft,
and no other field touches that place. -/
structure Fills (fields : List (Field σ)) (name : String) (get : σ → Option β)
    (decode : Source → Except DecodeError β) : Prop where
  fills : ∃ (field : Field σ) (put : σ → β → σ), fields.find? (·.name = name) = some field ∧
    (∀ state, field.isSet state = (get state).isSome) ∧
    (∀ source state, field.set source state = decode source >>= fun b => pure (put state b)) ∧
    ∀ state b, get (put state b) = some b
  alone : ∀ other ∈ fields, other.name ≠ name → other.Leaves get

namespace Fills

variable {name : String} {get : σ → Option β} {decode : Source → Except DecodeError β}

/-- There is one field of the name, so what is known of it is known of the
one that is found. -/
theorem of_find (h : Fills fields name get decode) {field : Field σ}
    (hfield : fields.find? (·.name = name) = some field) :
    ∃ put : σ → β → σ, (∀ state, field.isSet state = (get state).isSome) ∧
      (∀ source state, field.set source state = decode source >>= fun b => pure (put state b)) ∧
      ∀ state b, get (put state b) = some b := by
  obtain ⟨field', put, hfield', hput⟩ := h.fills
  obtain rfl : field = field' := Option.some.inj (hfield.symm.trans hfield')
  exact ⟨put, hput⟩

theorem isSet_eq (h : Fills fields name get decode) {field : Field σ}
    (hfield : fields.find? (·.name = name) = some field) (state : σ) :
    field.isSet state = (get state).isSome := by
  obtain ⟨put, hisSet, -⟩ := h.of_find hfield
  exact hisSet state

theorem set_eq_ok (h : Fills fields name get decode) {field : Field σ} {source : Source} {next : σ}
    (hfield : fields.find? (·.name = name) = some field)
    (hset : field.set source state = .ok next) :
    ∃ b, decode source = .ok b ∧ get next = some b := by
  obtain ⟨put, -, hdecode, hput⟩ := h.of_find hfield
  rw [hdecode] at hset
  obtain ⟨b, hb, hnext⟩ := Except.bind_eq_ok_iff.mp hset
  cases hnext
  exact ⟨b, hb, hput state b⟩

theorem exists_set (h : Fills fields name get decode) {field : Field σ} {source : Source} {b : β}
    (hfield : fields.find? (·.name = name) = some field) (hb : decode source = .ok b)
    (state : σ) : ∃ next, field.set source state = .ok next := by
  obtain ⟨put, -, hdecode, -⟩ := h.of_find hfield
  exact ⟨put state b, by rw [hdecode, hb]; rfl⟩

/-- The place of a field after the members were read. A member of its name is
found there, and the place was free for it. -/
theorem of_members (h : Fills fields name get decode) :
    ∀ {members : List (String × Json)} {state final : σ},
      fieldMembers fields (Json.memberSources members) state = .ok final →
        (members.lookup name = none ∧ get final = get state) ∨
          ∃ j b, members.lookup name = some j ∧ get state = none ∧ decode j.toSource = .ok b ∧
            get final = some b
  | [], _, _, hread => by
      cases hread
      exact Or.inl ⟨rfl, rfl⟩
  | (key, value) :: rest, state, final, hread => by
      rw [List.lookup_cons]
      by_cases hname : name = key
      · subst hname
        rw [beq_self_eq_true]
        rcases fieldMembers_cons_eq_ok.mp hread with
          ⟨hnone, -⟩ | ⟨field, next, hfield, hfree, hset, hrest⟩
        · obtain ⟨field, put, hfield, -⟩ := h.fills
          rw [hfield] at hnone
          cases hnone
        · obtain ⟨b, hb, hnext⟩ := h.set_eq_ok hfield hset
          rw [h.isSet_eq hfield, Option.isSome_eq_false_iff, Option.isNone_iff_eq_none] at hfree
          rcases h.of_members hrest with ⟨-, hfinal⟩ | ⟨_, _, -, hnone, -⟩
          · exact Or.inr ⟨value, b, rfl, hfree, hb, hfinal.trans hnext⟩
          · rw [hnext] at hnone
            cases hnone
      · rw [beq_eq_false_iff_ne.mpr hname]
        rcases fieldMembers_cons_eq_ok.mp hread with
          ⟨-, hrest⟩ | ⟨other, next, hother, -, hset, hrest⟩
        · exact h.of_members hrest
        · have hne : other.name ≠ name := by
            have hkey : other.name = key := by simpa using List.find?_some hother
            exact hkey ▸ Ne.symm hname
          have hnext := h.alone other (List.mem_of_find?_eq_some hother) hne _ _ _ hset
          have hfinal := h.of_members hrest
          rwa [hnext] at hfinal

end Fills

/-! ## Reading succeeds -/

/-- The member of a name, if there is one, can be decoded, and its place is
free. -/
def Readable (fields : List (Field σ)) (members : List (String × Json)) (state : σ)
    (name : String) : Prop :=
  ∃ (β : Type) (get : σ → Option β) (decode : Source → Except DecodeError β),
    Fills fields name get decode ∧
      ∀ j, members.lookup name = some j → get state = none ∧ ∃ b, decode j.toSource = .ok b

namespace Readable

variable {key name : String}

theorem tail {value : Json} (hkey : key ∉ members.map Prod.fst)
    (h : Readable fields ((key, value) :: members) state name) :
    Readable fields members state name := by
  obtain ⟨β, get, decode, hfills, hmember⟩ := h
  refine ⟨β, get, decode, hfills, fun j hj => hmember j ?_⟩
  obtain ⟨before, after, rfl, -⟩ := List.lookup_eq_some_iff.mp hj
  have hne : name ≠ key := by
    rintro rfl
    exact hkey (by simp)
  rw [List.lookup_cons, beq_eq_false_iff_ne.mpr hne]
  exact hj

/-- Setting a field is no obstacle to the others, nor to itself if its key
does not stand again. -/
theorem set {field : Field σ} {source : Source} {next : σ} (hmem : field ∈ fields)
    (hkey : field.name ∉ members.map Prod.fst) (hset : field.set source state = .ok next)
    (h : Readable fields members state name) : Readable fields members next name := by
  obtain ⟨β, get, decode, hfills, hmember⟩ := h
  refine ⟨β, get, decode, hfills, fun j hj => ?_⟩
  have hne : field.name ≠ name := by
    rintro rfl
    obtain ⟨before, after, rfl, -⟩ := List.lookup_eq_some_iff.mp hj
    exact hkey (by simp)
  rw [hfills.alone field hmem hne _ _ _ hset]
  exact hmember j hj

end Readable

/-- A record is read from an object in which no key stands twice and every
field can be read. -/
theorem exists_fieldMembers : ∀ {members : List (String × Json)} {state : σ},
    (members.map Prod.fst).Nodup →
      (∀ field ∈ fields, Readable fields members state field.name) →
        ∃ final, fieldMembers fields (Json.memberSources members) state = .ok final
  | [], state, _, _ => ⟨state, rfl⟩
  | (key, value) :: rest, state, hkeys, hreadable => by
      obtain ⟨hkey, hrest⟩ := List.nodup_cons.mp hkeys
      cases hfield : fields.find? (·.name = key) with
      | none =>
          obtain ⟨final, hfinal⟩ := exists_fieldMembers hrest fun field hmem =>
            (hreadable field hmem).tail hkey
          exact ⟨final, fieldMembers_cons_eq_ok.mpr (Or.inl ⟨hfield, hfinal⟩)⟩
      | some field =>
          have hmem := List.mem_of_find?_eq_some hfield
          obtain rfl : field.name = key := by simpa using List.find?_some hfield
          obtain ⟨β, get, decode, hfills, hmember⟩ := hreadable field hmem
          obtain ⟨hfree, b, hb⟩ := hmember value (by rw [List.lookup_cons, beq_self_eq_true])
          obtain ⟨next, hset⟩ := hfills.exists_set hfield hb state
          obtain ⟨final, hfinal⟩ := exists_fieldMembers hrest fun other hother =>
            ((hreadable other hother).tail hkey).set hmem hkey hset
          have hisSet : field.isSet state = false := by rw [hfills.isSet_eq hfield, hfree]; rfl
          exact ⟨final, fieldMembers_cons_eq_ok.mpr
            (Or.inr ⟨field, next, hfield, hisSet, hset, hfinal⟩)⟩

/-! ## Members that may be missing -/

/-- What is decoded of a member that may be missing, and may be `null`. -/
def optionalMember (decode : Decoder β) (depth : Nat) : Option Json → Except DecodeError (Option β)
  | none => .ok none
  | some j => optional decode depth j.toSource

theorem optionalMember_some {decode : Decoder β} {depth : Nat} {j : Json} (hj : j ≠ .null) :
    optionalMember decode depth (some j) = (decode depth j.toSource).map some := by
  cases j with
  | null => exact absurd rfl hj
  | boolean _ | number _ | string _ | array _ | object _ => rfl

section Optional

variable {name : String} {decode : Decoder β} {depth : Nat} {get : σ → Option (Option β)}

theorem Fills.optionalMember_eq (h : Fills fields name get (optional decode depth))
    (hstate : get state = none)
    (hread : fieldMembers fields (Json.memberSources members) state = .ok final) :
    optionalMember decode depth (members.lookup name) = .ok ((get final).getD none) := by
  rcases h.of_members hread with ⟨hlookup, hfinal⟩ | ⟨j, b, hlookup, -, hj, hfinal⟩
  · rw [hlookup, hfinal, hstate]
    rfl
  · rw [hlookup, hfinal]
    exact hj

theorem Fills.readable (h : Fills fields name get (optional decode depth))
    (hstate : get state = none) {a : Option β}
    (hmember : optionalMember decode depth (members.lookup name) = .ok a) :
    Readable fields members state name := by
  refine ⟨_, get, _, h, fun j hj => ⟨hstate, a, ?_⟩⟩
  rw [hj] at hmember
  exact hmember

end Optional

end Decoder

end FilterQuery
