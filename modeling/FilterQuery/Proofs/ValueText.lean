import FilterQuery.Clause.Json
import FilterQuery.Proofs.JsonText
import FilterQuery.Proofs.Spelling

/-!
# Values in JSON texts

What is left of a value that is written and read back. Objects keep their
entries, as these stand in the order of keys already (`Entries.ofList_of_ordered`),
integers and floats stay apart, and only a regular expression changes: it is
written as an object and read as that object (`Value.withoutRegexes`).

`Value.decode_toSource` says so of the decoder, for every value that stands no
deeper than the decoder goes, and `Value.numbers_toJson` lists the numbers
that the text has to carry. Two conditions sort values by what JSON does to
them: a `Writable` one has a text, and a `Canonical` one comes back from it
unchanged. Both are conditions on all parts of a value, and are kept by arrays
and objects.
-/

namespace FilterQuery

/-! ## Entries in order -/

namespace Entries

variable {α : Type}

instance (es : Entries α) : Decidable (Ordered es) :=
  inferInstanceAs (Decidable ((es.map Prod.fst).Pairwise (· < ·)))

/-- A key behind all others goes to the end. -/
theorem insert_of_forall_lt {key : String} {value : α} {es : Entries α}
    (h : ∀ e ∈ es, e.1 < key) : insert key value es = es ++ [(key, value)] := by
  induction es with
  | nil => rfl
  | cons e rest ih =>
    obtain ⟨hlt, hrest⟩ := List.forall_mem_cons.mp h
    have hnot : ¬key < e.1 := String.lt_asymm hlt
    have hne : key ≠ e.1 := fun he => String.lt_irrefl _ (he ▸ hlt)
    rw [insert, if_neg hnot, if_neg hne, ih hrest, List.cons_append]

/-- Entries that stand in order are their own entries in order. -/
theorem ofList_of_ordered {es : Entries α} (h : Ordered es) : ofList es = es := by
  suffices hfold : ∀ rest front : Entries α, Ordered (front ++ rest) →
      rest.foldl (fun acc e => insert e.1 e.2 acc) front = front ++ rest from hfold es [] h
  intro rest
  induction rest with
  | nil => intro front _; rw [List.append_nil]; rfl
  | cons e rest ih =>
    intro front hordered
    have hfront : ∀ d ∈ front, d.1 < e.1 := by
      rw [Ordered, List.map_append, List.pairwise_append] at hordered
      intro d hd
      exact hordered.2.2 d.1 (List.mem_map_of_mem hd) e.1 (by simp)
    rw [List.foldl_cons, insert_of_forall_lt hfront]
    simpa using ih (front ++ [(e.1, e.2)]) (by simpa using hordered)

end Entries

/-! ## What is read of a value -/

/-- The object that a regular expression is written as. -/
def Regex.toValue (r : Regex) : Value :=
  .single "$regularExpression"
    (.object [("options", .string r.options), ("pattern", .string r.source)])

namespace Value

mutual

/-- The value with an object in place of each regular expression. -/
def withoutRegexes : Value → Value
  | .array items => .array (itemsWithoutRegexes items)
  | .object entries => .object (entriesWithoutRegexes entries)
  | .regex r => r.toValue
  | .null => .null
  | .boolean b => .boolean b
  | .integer n => .integer n
  | .float x => .float x
  | .string s => .string s

def itemsWithoutRegexes : List Value → List Value
  | [] => []
  | item :: rest => item.withoutRegexes :: itemsWithoutRegexes rest

def entriesWithoutRegexes : List (String × Value) → List (String × Value)
  | [] => []
  | (key, value) :: rest => (key, value.withoutRegexes) :: entriesWithoutRegexes rest

end

def float? : Value → Option Float
  | .float x => some x
  | _ => none

/-- The floats in a value, at any depth. -/
def floats (v : Value) : List Float := v.parts.filterMap float?

/-- The objects in a value have their entries in order. -/
def Ordered (v : Value) : Prop := ∀ es, .object es ∈ v.parts → Entries.Ordered es

/-- There is no regular expression in a value. -/
def NoRegex (v : Value) : Prop := ∀ r, .regex r ∉ v.parts

def Finite (v : Value) : Prop := ∀ x ∈ v.floats, x.isFinite = true

/-! ## Conditions on all parts -/

theorem partsOfEntries_eq (es : List (String × Value)) :
    partsOfEntries es = es.flatMap fun e => e.2.parts := by
  induction es with
  | nil => rfl
  | cons e rest ih => rw [partsOfEntries, ih, List.flatMap_cons]

theorem mem_parts_array {p : Value} {items : List Value} :
    p ∈ (Value.array items).parts ↔ p = .array items ∨ ∃ item ∈ items, p ∈ item.parts := by
  rw [parts, partsOfItems_eq, List.mem_cons, List.mem_flatMap]

theorem mem_parts_object {p : Value} {es : List (String × Value)} :
    p ∈ (Value.object es).parts ↔ p = .object es ∨ ∃ e ∈ es, p ∈ e.2.parts := by
  rw [parts, partsOfEntries_eq, List.mem_cons, List.mem_flatMap]

theorem mem_floats {x : Float} {v : Value} : x ∈ v.floats ↔ .float x ∈ v.parts := by
  rw [floats, List.mem_filterMap]
  constructor
  · rintro ⟨p, hp, hx⟩
    cases p <;> cases hx
    exact hp
  · exact fun h => ⟨.float x, h, rfl⟩

/-- A value that has a JSON text in which nothing is lost but what is a regular
expression: its objects have their entries in order and its floats are
finite. -/
structure Writable (v : Value) : Prop where
  ordered : v.Ordered
  finite : v.Finite

/-- A value as JSON can carry it: writable, and without a regular
expression. -/
structure Canonical (v : Value) : Prop extends Writable v where
  noRegex : v.NoRegex

namespace Writable

theorem array {items : List Value} (h : ∀ item ∈ items, item.Writable) :
    (Value.array items).Writable where
  ordered es hes := by
    rcases mem_parts_array.mp hes with hes | ⟨item, hitem, hes⟩
    · cases hes
    · exact (h item hitem).ordered es hes
  finite x hx := by
    rcases mem_parts_array.mp (mem_floats.mp hx) with hx | ⟨item, hitem, hx⟩
    · cases hx
    · exact (h item hitem).finite x (mem_floats.mpr hx)

theorem object {es : List (String × Value)} (hes : Entries.Ordered es)
    (h : ∀ e ∈ es, e.2.Writable) : (Value.object es).Writable where
  ordered ds hds := by
    rcases mem_parts_object.mp hds with hds | ⟨e, he, hds⟩
    · cases hds
      exact hes
    · exact (h e he).ordered ds hds
  finite x hx := by
    rcases mem_parts_object.mp (mem_floats.mp hx) with hx | ⟨e, he, hx⟩
    · cases hx
    · exact (h e he).finite x (mem_floats.mpr hx)

theorem float {x : Float} (hx : x.isFinite = true) : (Value.float x).Writable where
  ordered es hes := by cases List.mem_singleton.mp hes
  finite _ hy := List.mem_singleton.mp hy ▸ hx

/-- A value that holds no other values and is no float. -/
theorem leaf {v : Value} (hparts : v.parts = [v]) (hobject : ∀ es, v ≠ .object es)
    (hfloat : v.float? = none) : v.Writable where
  ordered es hes := by
    rw [hparts] at hes
    exact absurd (List.mem_singleton.mp hes).symm (hobject es)
  finite x hx := by simp [floats, hparts, hfloat] at hx

end Writable

namespace Canonical

theorem array {items : List Value} (h : ∀ item ∈ items, item.Canonical) :
    (Value.array items).Canonical where
  toWritable := .array fun item hitem => (h item hitem).toWritable
  noRegex r hr := by
    rcases mem_parts_array.mp hr with hr | ⟨item, hitem, hr⟩
    · cases hr
    · exact (h item hitem).noRegex r hr

theorem object {es : List (String × Value)} (hes : Entries.Ordered es)
    (h : ∀ e ∈ es, e.2.Canonical) : (Value.object es).Canonical where
  toWritable := .object hes fun e he => (h e he).toWritable
  noRegex r hr := by
    rcases mem_parts_object.mp hr with hr | ⟨e, he, hr⟩
    · cases hr
    · exact (h e he).noRegex r hr

theorem float {x : Float} (hx : x.isFinite = true) : (Value.float x).Canonical where
  toWritable := .float hx
  noRegex r hr := by cases List.mem_singleton.mp hr

/-- A value that holds no other values and is neither a float nor a regular
expression. -/
theorem leaf {v : Value} (hparts : v.parts = [v]) (hobject : ∀ es, v ≠ .object es)
    (hregex : ∀ r, v ≠ .regex r) (hfloat : v.float? = none) : v.Canonical where
  toWritable := .leaf hparts hobject hfloat
  noRegex r hr := by
    rw [hparts] at hr
    exact hregex r (List.mem_singleton.mp hr).symm

theorem null : Value.null.Canonical := leaf rfl nofun nofun rfl

theorem boolean (b : Bool) : (Value.boolean b).Canonical := leaf rfl nofun nofun rfl

theorem integer (n : Int64) : (Value.integer n).Canonical := leaf rfl nofun nofun rfl

theorem string (s : String) : (Value.string s).Canonical := leaf rfl nofun nofun rfl

end Canonical

/-! ## Values without regular expressions -/

theorem keys_entriesWithoutRegexes : ∀ entries : List (String × Value),
    (entriesWithoutRegexes entries).map Prod.fst = entries.map Prod.fst
  | [] => rfl
  | (key, value) :: rest => by
      rw [entriesWithoutRegexes, List.map_cons, List.map_cons, keys_entriesWithoutRegexes rest]

theorem keys_jsonMembers : ∀ entries : List (String × Value),
    (jsonMembers entries).map Prod.fst = entries.map Prod.fst
  | [] => rfl
  | (key, value) :: rest => by
      rw [jsonMembers, List.map_cons, List.map_cons, keys_jsonMembers rest]

mutual

/-- A value without regular expressions is read as it is. -/
theorem withoutRegexes_of_noRegex : ∀ {v : Value}, v.NoRegex → v.withoutRegexes = v
  | .null, _ | .boolean _, _ | .integer _, _ | .float _, _ | .string _, _ => rfl
  | .array items, h => by
      have hitems : ∀ r, .regex r ∉ partsOfItems items := fun r hr =>
        h r (List.mem_cons_of_mem _ hr)
      rw [withoutRegexes, itemsWithoutRegexes_of_noRegex hitems]
  | .object entries, h => by
      have hentries : ∀ r, .regex r ∉ partsOfEntries entries := fun r hr =>
        h r (List.mem_cons_of_mem _ hr)
      rw [withoutRegexes, entriesWithoutRegexes_of_noRegex hentries]
  | .regex r, h => (h r List.mem_cons_self).elim

theorem itemsWithoutRegexes_of_noRegex : ∀ {items : List Value},
    (∀ r, .regex r ∉ partsOfItems items) → itemsWithoutRegexes items = items
  | [], _ => rfl
  | item :: rest, h => by
      have hitem : item.NoRegex := fun r hr => h r (List.mem_append_left _ hr)
      have hrest : ∀ r, .regex r ∉ partsOfItems rest := fun r hr =>
        h r (List.mem_append_right _ hr)
      rw [itemsWithoutRegexes, withoutRegexes_of_noRegex hitem,
        itemsWithoutRegexes_of_noRegex hrest]

theorem entriesWithoutRegexes_of_noRegex : ∀ {entries : List (String × Value)},
    (∀ r, .regex r ∉ partsOfEntries entries) → entriesWithoutRegexes entries = entries
  | [], _ => rfl
  | (key, value) :: rest, h => by
      have hvalue : value.NoRegex := fun r hr => h r (List.mem_append_left _ hr)
      have hrest : ∀ r, .regex r ∉ partsOfEntries rest := fun r hr =>
        h r (List.mem_append_right _ hr)
      rw [entriesWithoutRegexes, withoutRegexes_of_noRegex hvalue,
        entriesWithoutRegexes_of_noRegex hrest]

end

/-! ## Reading a value -/

theorem toJson?_regexJson (r : Regex) {depth : Nat} (hdepth : 2 ≤ depth) :
    (regexJson r).toSource.toJson? depth = some r.toValue.toJson := by
  obtain ⟨depth, rfl⟩ : ∃ n, depth = n + 2 := ⟨depth - 2, by omega⟩
  have hsorted : Entries.ofList [("pattern", Json.string r.source), ("options", .string r.options)]
      = [("options", .string r.options), ("pattern", .string r.source)] := by
    have hlt : "options" < "pattern" := by decide
    simp [Entries.ofList, Entries.insert, hlt]
  simp only [regexJson, Json.toSource, Json.memberSources, Json.Source.toJson?,
    Json.Source.Members.toEntries?, Option.bind_eq_bind, Option.bind_some, Option.pure_def,
    Option.map_some, hsorted]
  rfl

mutual

/-- The JSON value that is read where a value was written. -/
theorem toJson?_toSource : ∀ {v : Value} {depth : Nat}, v.Ordered → v.toJson.depth ≤ depth →
    v.toJson.toSource.toJson? depth = some v.withoutRegexes.toJson
  | .null, _, _, _ | .boolean _, _, _, _ | .integer _, _, _, _ | .float _, _, _, _
  | .string _, _, _, _ => rfl
  | .array items, depth, hordered, hdepth => by
      rw [toJson, Json.depth] at hdepth
      obtain ⟨depth, rfl⟩ : ∃ n, depth = n + 1 := ⟨depth - 1, by omega⟩
      have hitems : ∀ es, .object es ∈ partsOfItems items → Entries.Ordered es := fun es hes =>
        hordered es (List.mem_cons_of_mem _ hes)
      rw [toJson, Json.toSource, Json.Source.toJson?,
        toJsons?_itemSources hitems (by omega), withoutRegexes, toJson]
      rfl
  | .object entries, depth, hordered, hdepth => by
      rw [toJson, Json.depth] at hdepth
      obtain ⟨depth, rfl⟩ : ∃ n, depth = n + 1 := ⟨depth - 1, by omega⟩
      have hentries : ∀ es, .object es ∈ partsOfEntries entries → Entries.Ordered es :=
        fun es hes => hordered es (List.mem_cons_of_mem _ hes)
      have hmembers : Entries.Ordered (jsonMembers (entriesWithoutRegexes entries)) := by
        rw [Entries.Ordered, keys_jsonMembers, keys_entriesWithoutRegexes]
        exact hordered entries List.mem_cons_self
      rw [toJson, Json.toSource, Json.Source.toJson?,
        toEntries?_memberSources hentries (by omega), withoutRegexes, toJson, Option.map_some,
        Entries.ofList_of_ordered hmembers]
  | .regex r, depth, _, hdepth => by
      rw [toJson] at hdepth ⊢
      exact toJson?_regexJson r hdepth

theorem toJsons?_itemSources : ∀ {items : List Value} {depth : Nat},
    (∀ es, .object es ∈ partsOfItems items → Entries.Ordered es) →
      Json.depthOfItems (jsonItems items) ≤ depth →
        (Json.itemSources (jsonItems items)).toJsons? depth
          = some (jsonItems (itemsWithoutRegexes items))
  | [], _, _, _ => rfl
  | item :: rest, depth, hordered, hdepth => by
      rw [jsonItems, Json.depthOfItems] at hdepth
      have hitem : item.Ordered := fun es hes => hordered es (List.mem_append_left _ hes)
      have hrest : ∀ es, .object es ∈ partsOfItems rest → Entries.Ordered es := fun es hes =>
        hordered es (List.mem_append_right _ hes)
      rw [jsonItems, Json.itemSources, Json.Source.Items.toJsons?,
        toJson?_toSource hitem (by omega), toJsons?_itemSources hrest (by omega)]
      rfl

theorem toEntries?_memberSources : ∀ {entries : List (String × Value)} {depth : Nat},
    (∀ es, .object es ∈ partsOfEntries entries → Entries.Ordered es) →
      Json.depthOfMembers (jsonMembers entries) ≤ depth →
        (Json.memberSources (jsonMembers entries)).toEntries? depth
          = some (jsonMembers (entriesWithoutRegexes entries))
  | [], _, _, _ => rfl
  | (key, value) :: rest, depth, hordered, hdepth => by
      rw [jsonMembers, Json.depthOfMembers] at hdepth
      have hvalue : value.Ordered := fun es hes => hordered es (List.mem_append_left _ hes)
      have hrest : ∀ es, .object es ∈ partsOfEntries rest → Entries.Ordered es := fun es hes =>
        hordered es (List.mem_append_right _ hes)
      rw [jsonMembers, Json.memberSources, Json.Source.Members.toEntries?,
        toJson?_toSource hvalue (by omega), toEntries?_memberSources hrest (by omega)]
      rfl

end

theorem ofInt_toInt (n : Int64) : ofInt n.toInt = .ok (.integer n) := by
  have hlow : Int64.minValue.toInt ≤ n.toInt := n.minValue_le_toInt
  have hhigh : n.toInt ≤ Int64.maxValue.toInt := n.toInt_le
  rw [ofInt, if_pos ⟨hlow, hhigh⟩, Int64.ofInt_toInt]

mutual

theorem ofJson_toJson : ∀ v : Value, ofJson v.withoutRegexes.toJson = .ok v.withoutRegexes
  | .null | .boolean _ | .float _ | .string _ | .regex _ => rfl
  | .integer n => ofInt_toInt n
  | .array items => by
      rw [withoutRegexes, toJson, ofJson, ofItems_jsonItems items]
      rfl
  | .object entries => by
      rw [withoutRegexes, toJson, ofJson, ofMembers_jsonMembers entries]
      rfl

theorem ofItems_jsonItems : ∀ items : List Value,
    ofItems (jsonItems (itemsWithoutRegexes items)) = .ok (itemsWithoutRegexes items)
  | [] => rfl
  | item :: rest => by
      rw [itemsWithoutRegexes, jsonItems, ofItems, ofJson_toJson item, ofItems_jsonItems rest]
      rfl

theorem ofMembers_jsonMembers : ∀ entries : List (String × Value),
    ofMembers (jsonMembers (entriesWithoutRegexes entries)) = .ok (entriesWithoutRegexes entries)
  | [] => rfl
  | (key, value) :: rest => by
      rw [entriesWithoutRegexes, jsonMembers, ofMembers, ofJson_toJson value,
        ofMembers_jsonMembers rest]
      rfl

end

/-- A value that is written is read back, with an object in place of each
regular expression. -/
theorem decode_toSource {v : Value} {depth : Nat} (hordered : v.Ordered)
    (hdepth : v.toJson.depth ≤ depth) :
    decode depth v.toJson.toSource = .ok v.withoutRegexes := by
  rw [decode, Decoder.value, toJson?_toSource hordered hdepth]
  simp only [bind, Except.bind, ofJson_toJson]
  rfl

/-! ## The numbers of a value -/

def number? : Value → Option Json.Number
  | .integer n => some (.integer n.toInt)
  | .float x => some (.float x)
  | _ => none

mutual

theorem numbers_toJson : ∀ v : Value, v.toJson.numbers = v.parts.filterMap number?
  | .null | .boolean _ | .integer _ | .float _ | .string _ | .regex _ => rfl
  | .array items => by
      rw [toJson, Json.numbers, parts, List.filterMap_cons_none rfl, numbersOfItems_jsonItems items]
  | .object entries => by
      rw [toJson, Json.numbers, parts, List.filterMap_cons_none rfl,
        numbersOfMembers_jsonMembers entries]

theorem numbersOfItems_jsonItems : ∀ items : List Value,
    Json.numbersOfItems (jsonItems items) = (partsOfItems items).filterMap number?
  | [] => rfl
  | item :: rest => by
      rw [jsonItems, Json.numbersOfItems, partsOfItems, List.filterMap_append, numbers_toJson item,
        numbersOfItems_jsonItems rest]

theorem numbersOfMembers_jsonMembers : ∀ entries : List (String × Value),
    Json.numbersOfMembers (jsonMembers entries) = (partsOfEntries entries).filterMap number?
  | [] => rfl
  | (key, value) :: rest => by
      rw [jsonMembers, Json.numbersOfMembers, partsOfEntries, List.filterMap_append,
        numbers_toJson value, numbersOfMembers_jsonMembers rest]

end

/-- What holds of 64-bit integers and of the floats of a value holds of all
numbers that are written for it. -/
theorem forall_numbers_toJson {P : Json.Number → Prop}
    (hinteger : ∀ i : Int64, P (.integer i.toInt)) {v : Value}
    (hfloat : ∀ x ∈ v.floats, P (.float x)) : ∀ n ∈ v.toJson.numbers, P n := by
  intro n hn
  rw [numbers_toJson] at hn
  obtain ⟨part, hpart, hnumber⟩ := List.mem_filterMap.mp hn
  cases part with
  | integer i =>
    cases hnumber
    exact hinteger i
  | float x =>
    cases hnumber
    exact hfloat x (List.mem_filterMap.mpr ⟨.float x, hpart, rfl⟩)
  | null | boolean b | string s | array items | object entries | regex r => cases hnumber

end Value

end FilterQuery
