import FilterQuery.Proofs.ByteOrder
import FilterQuery.Proofs.ReadSources
import FilterQuery.Proofs.WrittenText

/-!
# What becomes of imported JSON

A JSON value that is taken over as a value is either refused or kept as it is.
Which of the two is a matter of its numbers alone, in the order of traversal:
`refusal?_ofJson` says that the first one that no value can hold is named, and
`toJson_of_ofJson` that otherwise writing undoes the import.

Both hold of every tree. What is added for a tree that was read
(`Json.Parsed`) is what its numbers can be: an integer beyond 64 bits with a
sign is one of 64 bits without, and a float is finite, so that what was
imported can be written.
-/

namespace FilterQuery

namespace Json

/-! ## Trees that were read -/

/-- Within the bounds of what number texts stand for: an integer of 64 bits,
with a sign or without, or a finite float. -/
def Number.Readable : Number → Prop
  | .integer n => -2 ^ 63 ≤ n ∧ n < 2 ^ 64
  | .float x => x.isFinite = true

theorem Literal.bounds_of_integer? {l : Literal} {n : Int} (h : l.integer? = some n) :
    -2 ^ 63 ≤ n ∧ n < 2 ^ 64 := by
  have hmin : Int64.minValue.toInt = -2 ^ 63 := by decide
  have hsize : UInt64.size = 2 ^ 64 := rfl
  rw [integer?] at h
  split at h
  · split at h
    · split at h
      next hbounds =>
        cases h
        simp only [Bool.and_eq_true, decide_eq_true_eq] at hbounds
        omega
      next => cases h
    · split at h
      · cases h
        omega
      next => cases h
  · cases h

theorem Literal.readable_of_value? [FloatReader]
    (l : Literal) (n : Number) (h : l.value? = some n) :
    n.Readable := by
  cases n with
  | float x => exact isFinite_of_value? h
  | integer n =>
    rw [value?] at h
    split at h
    next m hm =>
      cases h
      exact bounds_of_integer? hm
    next => simp at h

/-- A JSON value of any nesting as it is read of a text: its numbers are within
bounds and its objects list their members in the order of the bytes of their
keys. -/
inductive Parsed : Json → Prop
  | null : Parsed .null
  | boolean (b : Bool) : Parsed (.boolean b)
  | number {n : Number} (hn : n.Readable) : Parsed (.number n)
  | string (s : String) : Parsed (.string s)
  | array {items : List Json} (h : ∀ item ∈ items, Parsed item) : Parsed (.array items)
  | object {members : List (String × Json)}
      (hkeys : (members.map fun e => Text.bytes e.1).Pairwise (· < ·))
      (h : ∀ e ∈ members, Parsed e.2) : Parsed (.object members)

theorem hereditary_parsed : Hereditary Number.Readable fun _ => Parsed where
  null _ := .null
  boolean _ := .boolean
  number _ _ := .number
  string _ := .string
  array _ _ := .array
  object _ _ hordered := .object (Entries.ordered_iff_bytes.mp hordered)

/-- Whatever is read of a text is parsed, however deep the reader may go. -/
theorem parsed_of_read [FloatReader] {text : String} {depth : Nat} {j : Json}
    (h : (Source.ofText text).1.toJson? depth = some j) : Parsed j :=
  hereditary_parsed.of_toJson? (Source.allNumbers_ofText Literal.readable_of_value? text) h

/-! ## Numbers of trees -/

theorem numbersOfItems_eq_flatMap (items : List Json) :
    numbersOfItems items = items.flatMap numbers := by
  induction items with
  | nil => rfl
  | cons item rest ih => rw [numbersOfItems, ih, List.flatMap_cons]

theorem numbersOfMembers_eq_flatMap (members : List (String × Json)) :
    numbersOfMembers members = members.flatMap fun e => e.2.numbers := by
  induction members with
  | nil => rfl
  | cons e rest ih => rw [numbersOfMembers, ih, List.flatMap_cons]

theorem Parsed.readable {j : Json} (hj : Parsed j) : ∀ n ∈ j.numbers, n.Readable := by
  induction hj with
  | null | boolean b | string s => exact fun n hn => (List.not_mem_nil hn).elim
  | number hn =>
    intro n hmem
    rw [List.mem_singleton.mp hmem]
    exact hn
  | array _ ih =>
    intro n hmem
    rw [numbers, numbersOfItems_eq_flatMap] at hmem
    obtain ⟨item, hitem, hn⟩ := List.mem_flatMap.mp hmem
    exact ih item hitem n hn
  | object _ _ ih =>
    intro n hmem
    rw [numbers, numbersOfMembers_eq_flatMap] at hmem
    obtain ⟨e, he, hn⟩ := List.mem_flatMap.mp hmem
    exact ih e he n hn

theorem Parsed.nonFinite?_eq_none {j : Json} (hj : Parsed j) : j.nonFinite? = none := by
  refine Json.nonFinite?_eq_none fun n hn => ?_
  have hreadable := hj.readable n hn
  cases n with
  | integer n => rfl
  | float x => exact hreadable

end Json

namespace Value

/-! ## What is refused -/

/-- The integer that a refusal is about. -/
def refusal? {α : Type} : Except OutOfRange α → Option OutOfRange
  | .error e => some e
  | .ok _ => none

theorem refusal?_map {α β : Type} (f : α → β) (x : Except OutOfRange α) :
    refusal? (x.map f) = refusal? x := by
  cases x <;> rfl

/-- Of two imports one after the other the first refusal counts. -/
theorem refusal?_both {α β γ : Type} (f : α → β → γ) (x : Except OutOfRange α)
    (y : Except OutOfRange β) :
    refusal? (do
      let a ← x
      let b ← y
      return f a b) = (refusal? x).or (refusal? y) := by
  cases x <;> cases y <;> rfl

/-- What there is to refuse about a number. -/
def unfit? : Json.Number → Option OutOfRange
  | .integer n =>
      if Int64.minValue.toInt ≤ n ∧ n ≤ Int64.maxValue.toInt then none else some ⟨n⟩
  | .float _ => none

mutual

/-- An import is refused for the first number that is unfit, at any depth. -/
theorem refusal?_ofJson : ∀ j : Json, refusal? (ofJson j) = j.numbers.findSome? unfit?
  | .null | .boolean _ | .string _ | .number (.float _) => rfl
  | .number (.integer n) => by
      rw [ofJson, ofInt, Json.numbers, List.findSome?_singleton, unfit?]
      split <;> rfl
  | .array items => by
      rw [ofJson, refusal?_map, refusal?_ofItems items, Json.numbers]
  | .object members => by
      rw [ofJson, refusal?_map, refusal?_ofMembers members, Json.numbers]

theorem refusal?_ofItems : ∀ items : List Json,
    refusal? (ofItems items) = (Json.numbersOfItems items).findSome? unfit?
  | [] => rfl
  | item :: rest => by
      rw [ofItems, refusal?_both, refusal?_ofJson item, refusal?_ofItems rest,
        Json.numbersOfItems, List.findSome?_append]

theorem refusal?_ofMembers : ∀ members : List (String × Json),
    refusal? (ofMembers members) = (Json.numbersOfMembers members).findSome? unfit?
  | [] => rfl
  | (key, member) :: rest => by
      rw [ofMembers, refusal?_both, refusal?_ofJson member, refusal?_ofMembers rest,
        Json.numbersOfMembers, List.findSome?_append]

end

/-! ## What is kept -/

mutual

/-- Writing undoes an import. -/
theorem toJson_of_ofJson : ∀ {j : Json} {v : Value}, ofJson j = .ok v → v.toJson = j
  | .null, _, h | .boolean _, _, h | .string _, _, h | .number (.float _), _, h => by
      cases h
      rfl
  | .number (.integer n), _, h => by
      rw [ofJson, ofInt] at h
      split at h
      next hbounds =>
        cases h
        rw [toJson, Int64.toInt_ofInt_of_le hbounds.1 (Int.lt_of_le_of_lt hbounds.2 (by decide))]
        rfl
      next => cases h
  | .array items, _, h => by
      obtain ⟨vs, hvs, rfl⟩ := Except.map_eq_ok_iff.mp h
      rw [toJson, jsonItems_of_ofItems hvs]
  | .object members, _, h => by
      obtain ⟨es, hes, rfl⟩ := Except.map_eq_ok_iff.mp h
      rw [toJson, jsonMembers_of_ofMembers hes]

theorem jsonItems_of_ofItems : ∀ {items : List Json} {vs : List Value},
    ofItems items = .ok vs → jsonItems vs = items
  | [], _, h => by
      cases h
      rfl
  | item :: rest, _, h => by
      obtain ⟨v, hv, h⟩ := Except.bind_eq_ok_iff.mp h
      obtain ⟨vs, hvs, h⟩ := Except.bind_eq_ok_iff.mp h
      cases h
      rw [jsonItems, toJson_of_ofJson hv, jsonItems_of_ofItems hvs]

theorem jsonMembers_of_ofMembers : ∀ {members : List (String × Json)} {es : List (String × Value)},
    ofMembers members = .ok es → jsonMembers es = members
  | [], _, h => by
      cases h
      rfl
  | (key, member) :: rest, _, h => by
      obtain ⟨v, hv, h⟩ := Except.bind_eq_ok_iff.mp h
      obtain ⟨es, hes, h⟩ := Except.bind_eq_ok_iff.mp h
      cases h
      rw [jsonMembers, toJson_of_ofJson hv, jsonMembers_of_ofMembers hes]

end

/-! ## The main statement -/

theorem unfit?_of_beyond {n : Int} (h : 2 ^ 63 ≤ n) : unfit? (.integer n) = some ⟨n⟩ := by
  have hmax : Int64.maxValue.toInt = 2 ^ 63 - 1 := by decide
  rw [unfit?, if_neg (by omega)]

/-- All that is unfit about a number that was read is that it is an integer
beyond 64 bits with a sign. -/
theorem beyond_of_unfit? {n : Json.Number} (hn : n.Readable) {e : OutOfRange}
    (h : unfit? n = some e) : n = .integer e.integer ∧ 2 ^ 63 ≤ e.integer ∧ e.integer < 2 ^ 64 := by
  have hmin : Int64.minValue.toInt = -2 ^ 63 := by decide
  have hmax : Int64.maxValue.toInt = 2 ^ 63 - 1 := by decide
  cases n with
  | float x => cases h
  | integer n =>
    rw [unfit?] at h
    split at h
    next => cases h
    next hunfit =>
      cases h
      have hlow : -2 ^ 63 ≤ n := hn.1
      have hbeyond : 2 ^ 63 ≤ n := by omega
      exact ⟨rfl, hbeyond, hn.2⟩

/-- The integer stands in the tree, has 64 bits but no room for a sign, and is
the first such one in the order of traversal: through arrays item by item, and
through objects in the order of their keys. -/
def FirstBeyond (j : Json) (n : Int) : Prop :=
  ∃ before after, j.numbers = before ++ .integer n :: after ∧ 2 ^ 63 ≤ n ∧ n < 2 ^ 64 ∧
    ∀ m, .integer m ∈ before → m < 2 ^ 63

theorem firstBeyond_of_error {j : Json} (hj : j.Parsed) {e : OutOfRange}
    (h : ofJson j = .error e) : FirstBeyond j e.integer := by
  have hfirst : j.numbers.findSome? unfit? = some e := by
    rw [← refusal?_ofJson, h]
    rfl
  obtain ⟨before, n, after, hnumbers, hn, hbefore⟩ := List.findSome?_eq_some_iff.mp hfirst
  have hreadable : ∀ m ∈ before ++ n :: after, m.Readable := hnumbers ▸ hj.readable
  obtain ⟨rfl, hlow, hhigh⟩ := beyond_of_unfit? (hreadable n (by simp)) hn
  refine ⟨before, after, hnumbers, hlow, hhigh, fun m hm => ?_⟩
  by_contra hbeyond
  have hunfit := unfit?_of_beyond (Int.not_lt.mp hbeyond)
  rw [hbefore _ hm] at hunfit
  cases hunfit

theorem exists_error_iff {j : Json} (hj : j.Parsed) :
    (∃ e, ofJson j = .error e) ↔ ∃ n, .integer n ∈ j.numbers ∧ 2 ^ 63 ≤ n ∧ n < 2 ^ 64 := by
  constructor
  · rintro ⟨e, h⟩
    obtain ⟨before, after, hnumbers, hlow, hhigh, -⟩ := firstBeyond_of_error hj h
    exact ⟨e.integer, by simp [hnumbers], hlow, hhigh⟩
  · rintro ⟨n, hn, hlow, hhigh⟩
    cases h : ofJson j with
    | error e => exact ⟨e, rfl⟩
    | ok v =>
      -- no number is unfit if there is nothing to refuse
      have hnone : j.numbers.findSome? unfit? = none := by
        rw [← refusal?_ofJson, h]
        rfl
      have hunfit := unfit?_of_beyond hlow
      rw [List.findSome?_eq_none_iff.mp hnone _ hn] at hunfit
      cases hunfit

/-- A JSON value that was read is refused exactly if it holds an integer from
`2 ^ 63` on, and then the first one is named. Otherwise what it was imported
as can be written, and is written as the very same JSON value. -/
theorem ofJson_lossless {j : Json} (hj : j.Parsed) :
    ((∃ e, ofJson j = .error e) ↔ ∃ n, .integer n ∈ j.numbers ∧ 2 ^ 63 ≤ n ∧ n < 2 ^ 64) ∧
      (∀ e, ofJson j = .error e → FirstBeyond j e.integer ∧
        (ConvertError.outOfRange e.integer).message
          = "Invalid filter. Unable to convert. Integer " ++ toString e.integer
              ++ " is out of range") ∧
      ∀ v, ofJson j = .ok v → v.toJson = j ∧ v.toJson.nonFinite? = none := by
  refine ⟨exists_error_iff hj, fun e h => ⟨firstBeyond_of_error hj h, rfl⟩, fun v h => ?_⟩
  have hwritten : v.toJson = j := toJson_of_ofJson h
  rw [hwritten]
  exact ⟨rfl, hj.nonFinite?_eq_none⟩

/-- Two integers that no value can hold, the larger one in front and under the
later key. -/
def beyondTwice : String :=
  "\x7b\"b\": 18446744073709551615, \"a\": [1, \x7b\"c\": 9223372036854775808\x7d]\x7d"

/-- The integers at both ends of what a value can hold, and a float. -/
def withinBounds : String :=
  "\x7b\"é\": \x7b\x7d, \"Z\": [\"a\", -9223372036854775808, null, 9223372036854775807]," ++
    "\"a\": 1.50\x7d"

theorem ofJson_lossless_beyondTwice :
    (∃ j e, (Json.Source.ofText beyondTwice).1.toJson? 3 = some j ∧ j.Parsed ∧
        ofJson j = .error e ∧ e.integer = 9223372036854775808 ∧ FirstBeyond j e.integer ∧
        ∃ n, .integer n ∈ j.numbers ∧ 2 ^ 63 ≤ n ∧ n < 2 ^ 64) ∧
      ∃ j v, (Json.Source.ofText withinBounds).1.toJson? 3 = some j ∧ j.Parsed ∧
        ofJson j = .ok v ∧ v.toJson = j ∧ v.toJson.nonFinite? = none := by
  constructor
  · have hrefusal : ((Json.Source.ofText beyondTwice).1.toJson? 3).map
        (fun j => refusal? (ofJson j)) = some (some ⟨9223372036854775808⟩) := by decide +kernel
    obtain ⟨j, hread, hj⟩ := Option.map_eq_some_iff.mp hrefusal
    have hparsed := Json.parsed_of_read hread
    cases h : ofJson j with
    | ok v =>
      rw [h] at hj
      cases hj
    | error e =>
      rw [h] at hj
      cases hj
      obtain ⟨hrefused, hfirst, -⟩ := ofJson_lossless hparsed
      exact ⟨j, _, hread, hparsed, h, rfl, (hfirst _ h).1, hrefused.mp ⟨_, h⟩⟩
  · have hrefusal : ((Json.Source.ofText withinBounds).1.toJson? 3).map
        (fun j => refusal? (ofJson j)) = some none := by decide +kernel
    obtain ⟨j, hread, hj⟩ := Option.map_eq_some_iff.mp hrefusal
    have hparsed := Json.parsed_of_read hread
    cases h : ofJson j with
    | ok v => exact ⟨j, v, hread, hparsed, h, (ofJson_lossless hparsed).2.2 v h⟩
    | error e =>
      rw [h] at hj
      cases hj

end Value

end FilterQuery
