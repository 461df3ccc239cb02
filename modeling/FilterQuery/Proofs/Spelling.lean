import FilterQuery.Query

/-!
# Reading a document back

A document is all that leaves a conversion, and in it a connective, an
operator, a field and a reference are told apart by their spelling alone.
This file looks at documents as a store does, without the `Query` they were
spelled from: `Value.parts` walks a value to any depth, and the views below
are read off the walk:

- `Value.allEntries`, every key at any depth with what stands under it;
- `Value.dottedKeys`, the keys that are no operators, hence fields;
- `Value.expressionTexts`, the texts inside `$expr`, where the store takes a
  text that starts with a dollar sign for a field.

`Value.EachEntry` asks for a property of all the entries. The lemmas say what
the views are on the spelling of each constructor of `Query`. Connectives add
nothing to a view but what their members have (`dottedKeys_seesThrough`,
`expressionTexts_seesThrough`), and a plain constant has no entries
(`allEntries_of_isPlain`), so it cannot add a key.
-/

namespace FilterQuery

/-! ## Walking a value -/

namespace Value

mutual

/-- A value and the values in it at any depth. -/
def parts : Value → List Value
  | .array items => .array items :: partsOfItems items
  | .object entries => .object entries :: partsOfEntries entries
  | .null => [.null]
  | .boolean b => [.boolean b]
  | .integer n => [.integer n]
  | .float x => [.float x]
  | .string x => [.string x]
  | .regex r => [.regex r]

def partsOfItems : List Value → List Value
  | [] => []
  | item :: rest => item.parts ++ partsOfItems rest

def partsOfEntries : List (String × Value) → List Value
  | [] => []
  | (_, value) :: rest => value.parts ++ partsOfEntries rest

end

def entries : Value → List (String × Value)
  | .object entries => entries
  | _ => []

def allEntries (v : Value) : List (String × Value) := v.parts.flatMap entries

/-- The texts at any depth; keys are no texts. -/
def texts (v : Value) : List String := v.parts.filterMap text?

theorem partsOfItems_eq (items : List Value) : partsOfItems items = items.flatMap parts := by
  induction items with
  | nil => rfl
  | cons item rest ih => rw [partsOfItems, ih, List.flatMap_cons]

@[simp] theorem allEntries_array (items : List Value) :
    (Value.array items).allEntries = items.flatMap allEntries := by
  rw [allEntries, parts, partsOfItems_eq, List.flatMap_cons, List.flatMap_assoc]
  rfl

@[simp] theorem allEntries_single (key : String) (v : Value) :
    (Value.single key v).allEntries = (key, v) :: v.allEntries := by
  simp [allEntries, single, Entries.single, parts, partsOfEntries, entries]

@[simp] theorem allEntries_regex (r : Regex) : (Value.regex r).allEntries = [] := rfl

@[simp] theorem texts_array (items : List Value) :
    (Value.array items).texts = items.flatMap texts := by
  rw [texts, parts, partsOfItems_eq, List.filterMap_cons_none rfl, List.filterMap_flatMap]
  rfl

@[simp] theorem texts_single (key : String) (v : Value) :
    (Value.single key v).texts = v.texts := by
  rw [texts, single, Entries.single, parts, List.filterMap_cons_none rfl, partsOfEntries,
    partsOfEntries, List.append_nil]
  rfl

@[simp] theorem texts_string (x : String) : (Value.string x).texts = [x] := rfl

mutual

/-- A plain value holds no document, at no depth. -/
theorem allEntries_of_isPlain : ∀ {v : Value}, v.isPlain = true → v.allEntries = []
  | .null, _ | .boolean _, _ | .integer _, _ | .float _, _ | .string _, _ => rfl
  | .array items, h => by
      rw [isPlain] at h
      rw [allEntries_array, flatMap_allEntries_of_arePlain h]
  | .object _, h | .regex _, h => by simp [isPlain] at h

theorem flatMap_allEntries_of_arePlain :
    ∀ {items : List Value}, arePlain items = true → items.flatMap allEntries = []
  | [], _ => rfl
  | item :: rest, h => by
      rw [arePlain, Bool.and_eq_true] at h
      rw [List.flatMap_cons, allEntries_of_isPlain h.1, flatMap_allEntries_of_arePlain h.2,
        List.append_nil]

end

/-! ## Properties of entries -/

/-- The entries in a value, at any depth, have a property. -/
def EachEntry (P : String × Value → Prop) (v : Value) : Prop := ∀ e ∈ v.allEntries, P e

section EachEntry

variable {P : String × Value → Prop}

theorem eachEntry_single {key : String} {v : Value} :
    (Value.single key v).EachEntry P ↔ P (key, v) ∧ v.EachEntry P := by
  rw [EachEntry, allEntries_single, List.forall_mem_cons, EachEntry]

theorem eachEntry_array {items : List Value} :
    (Value.array items).EachEntry P ↔ ∀ v ∈ items, v.EachEntry P := by
  rw [EachEntry, allEntries_array, List.forall_mem_flatMap]
  rfl

end EachEntry

/-! ## Fields and expressions -/

/-- The keys that stand for connectives and operators. -/
def operatorKeys : List String :=
  ["$and", "$or", "$expr", "$eq", "$ne", "$gt", "$gte", "$lt", "$lte", "$in", "$nin", "$regex",
    "$not"]

/-- The keys that stand for connectives. -/
def connectiveKeys : List String := ["$and", "$or"]

/-- The keys at any depth that stand for fields. -/
def dottedKeys (v : Value) : List String :=
  (v.allEntries.map Prod.fst).filter (· ∉ operatorKeys)

/-- The texts at any depth inside expressions. -/
def expressionTexts (v : Value) : List String :=
  v.allEntries.flatMap fun e => if e.1 = "$expr" then e.2.texts else []

end Value

namespace Query

/-- A query as a value: its document. -/
def toValue (q : Query) : Value := .object q.toDocument

theorem documents_eq_map (qs : List Query) : documents qs = qs.map toValue := by
  induction qs with
  | nil => rfl
  | cons q rest ih => rw [documents, ih, List.map_cons, toValue]

theorem toValue_all (qs : List Query) :
    (Query.all qs).toValue = .single "$and" (.array (qs.map toValue)) := by
  rw [toValue, toDocument, documents_eq_map, Value.single]

theorem toValue_any (qs : List Query) :
    (Query.any qs).toValue = .single "$or" (.array (qs.map toValue)) := by
  rw [toValue, toDocument, documents_eq_map, Value.single]

theorem eachEntry_all {P : String × Value → Prop} {qs : List Query} :
    (Query.all qs).toValue.EachEntry P ↔
      P ("$and", .array (qs.map toValue)) ∧ ∀ q ∈ qs, q.toValue.EachEntry P := by
  rw [toValue_all, Value.eachEntry_single, Value.eachEntry_array, List.forall_mem_map]

theorem eachEntry_any {P : String × Value → Prop} {qs : List Query} :
    (Query.any qs).toValue.EachEntry P ↔
      P ("$or", .array (qs.map toValue)) ∧ ∀ q ∈ qs, q.toValue.EachEntry P := by
  rw [toValue_any, Value.eachEntry_single, Value.eachEntry_array, List.forall_mem_map]

theorem toValue_field (key : String) (cond : Condition) :
    (Query.field key cond).toValue = .single key cond.toValue := rfl

theorem toValue_expression (e : Expression) :
    (Query.expression e).toValue = .single "$expr" e.toValue := rfl

/-! ## Views of connectives -/

/-- A view to which connectives add nothing: it shows of a connective what it
shows of the members. -/
structure SeesThrough {β : Type} (view : Query → List β) : Prop where
  all (qs : List Query) : view (.all qs) = qs.flatMap view
  any (qs : List Query) : view (.any qs) = qs.flatMap view

theorem dottedKeys_connective {op : String} (hop : op ∈ Value.operatorKeys) (qs : List Query) :
    (Value.single op (.array (qs.map toValue))).dottedKeys
      = qs.flatMap fun q => q.toValue.dottedKeys := by
  simp [Value.dottedKeys, hop, List.flatMap_map, List.map_flatMap, List.filter_flatMap]

theorem dottedKeys_seesThrough : SeesThrough fun q => q.toValue.dottedKeys where
  all qs := by rw [toValue_all, dottedKeys_connective (by decide)]
  any qs := by rw [toValue_any, dottedKeys_connective (by decide)]

theorem expressionTexts_connective {op : String} (hop : op ≠ "$expr") (qs : List Query) :
    (Value.single op (.array (qs.map toValue))).expressionTexts
      = qs.flatMap fun q => q.toValue.expressionTexts := by
  simp [Value.expressionTexts, hop, List.flatMap_map, List.flatMap_assoc]

theorem expressionTexts_seesThrough : SeesThrough fun q => q.toValue.expressionTexts where
  all qs := by rw [toValue_all, expressionTexts_connective (by decide)]
  any qs := by rw [toValue_any, expressionTexts_connective (by decide)]

end Query

/-! ## Views of conditions

Below a field's key stand operators and plain constants only, so the key
itself is all that a condition adds to the fields of a document. -/

def Condition.Plain : Condition → Prop
  | .compare _ v | .within v | .without v => v.isPlain = true
  | .like _ | .unlike _ => True

/-- What a condition is spelled with. -/
def Condition.entries : Condition → List (String × Value)
  | .compare .eq _ => []
  | .compare r v => [(r.key, v)]
  | .within v => [("$in", v)]
  | .without v => [("$nin", v)]
  | .like r => [("$regex", .regex r)]
  | .unlike r => [("$not", .single "$regex" (.regex r)), ("$regex", .regex r)]

theorem Condition.allEntries_toValue {cond : Condition} (hc : cond.Plain) :
    cond.toValue.allEntries = cond.entries := by
  cases cond with
  | compare r v =>
      have hv := Value.allEntries_of_isPlain hc
      cases r <;> simp [toValue, entries, hv]
  | within v | without v => simp [toValue, entries, Value.allEntries_of_isPlain hc]
  | like r | unlike r => simp [toValue, entries]

/-- The keys in a value are operators, and none of them opens an
expression. -/
def Value.SpellsOperators (v : Value) : Prop :=
  ∀ e ∈ v.allEntries, e.1 ∈ operatorKeys ∧ e.1 ≠ "$expr"

namespace Value

theorem SpellsOperators.dottedKeys_eq_nil {v : Value} (hv : v.SpellsOperators) :
    v.dottedKeys = [] := by
  rw [dottedKeys, List.filter_eq_nil_iff]
  intro k hk
  obtain ⟨e, he, rfl⟩ := List.mem_map.mp hk
  simpa using (hv e he).1

theorem SpellsOperators.expressionTexts_eq_nil {v : Value} (hv : v.SpellsOperators) :
    v.expressionTexts = [] := by
  rw [expressionTexts, List.flatMap_eq_nil_iff]
  exact fun e he => if_neg (hv e he).2

theorem dottedKeys_single (key : String) (v : Value) :
    (Value.single key v).dottedKeys
      = (if key ∈ operatorKeys then [] else [key]) ++ v.dottedKeys := by
  by_cases hkey : key ∈ operatorKeys <;> simp [dottedKeys, hkey]

theorem expressionTexts_single (key : String) (v : Value) :
    (Value.single key v).expressionTexts
      = (if key = "$expr" then v.texts else []) ++ v.expressionTexts := by
  rw [expressionTexts, allEntries_single, List.flatMap_cons, expressionTexts]

/-- A text without a dollar sign is no operator. -/
theorem notMem_operatorKeys {key : String} (hkey : '$' ∉ key.toList) : key ∉ operatorKeys := by
  have hall : ∀ op ∈ operatorKeys, '$' ∈ op.toList := by decide
  exact fun hm => hkey (hall key hm)

end Value

theorem Condition.spellsOperators {cond : Condition} (hc : cond.Plain) :
    cond.toValue.SpellsOperators := by
  rw [Value.SpellsOperators, allEntries_toValue hc]
  cases cond with
  | compare r v => cases r <;> simp [entries, Relation.key, Value.operatorKeys]
  | within v | without v | like r | unlike r => simp [entries, Value.operatorKeys]

theorem Query.dottedKeys_field {key : String} {cond : Condition} (hkey : '$' ∉ key.toList)
    (hc : cond.Plain) : (Query.field key cond).toValue.dottedKeys = [key] := by
  rw [toValue_field, Value.dottedKeys_single, if_neg (Value.notMem_operatorKeys hkey),
    (Condition.spellsOperators hc).dottedKeys_eq_nil, List.append_nil]

theorem Query.expressionTexts_field {key : String} {cond : Condition}
    (hkey : '$' ∉ key.toList) (hc : cond.Plain) :
    (Query.field key cond).toValue.expressionTexts = [] := by
  have hne : key ≠ "$expr" := fun he => hkey (he ▸ by decide)
  rw [toValue_field, Value.expressionTexts_single, if_neg hne,
    (Condition.spellsOperators hc).expressionTexts_eq_nil, List.append_nil]

/-! ## Views of expressions

The texts of an expression are those of its arguments: a reference is one
text with a dollar sign in front, and a constant has whatever texts it has. -/

/-- The arguments of an expression as often as they are spelled: a range
spells its subject once for each bound. -/
def Expression.arguments : Expression → List Argument
  | .compare _ left right => [left, right]
  | .between subject lower upper => [subject, lower, subject, upper]
  | .outside subject lower upper => [subject, lower, subject, upper]
  | .within subject list => [subject, list]
  | .without subject list => [subject, list]

/-- An argument that is a constant is a plain one. -/
def Argument.Plain : Argument → Prop
  | .reference _ => True
  | .constant v => v.isPlain = true

theorem Argument.allEntries_toValue {a : Argument} (ha : a.Plain) :
    a.toValue.allEntries = [] := by
  cases a with
  | reference key => rfl
  | constant v => exact Value.allEntries_of_isPlain ha

/-- What an expression is spelled with, the outer operator first. -/
def Expression.entries : Expression → List (String × Value)
  | .compare r a b => [(r.key, .array [a.toValue, b.toValue])]
  | .between a l u =>
      [("$and", .array [binary "$gte" a l, binary "$lte" a u]),
        ("$gte", .array [a.toValue, l.toValue]), ("$lte", .array [a.toValue, u.toValue])]
  | .outside a l u =>
      [("$or", .array [binary "$lt" a l, binary "$gt" a u]),
        ("$lt", .array [a.toValue, l.toValue]), ("$gt", .array [a.toValue, u.toValue])]
  | .within a l => [("$in", .array [a.toValue, l.toValue])]
  | .without a l => [("$not", binary "$in" a l), ("$in", .array [a.toValue, l.toValue])]

theorem Expression.allEntries_toValue {x : Expression} (hx : ∀ a ∈ x.arguments, a.Plain) :
    x.toValue.allEntries = x.entries := by
  have hnone : ∀ a ∈ x.arguments, a.toValue.allEntries = [] := fun a ha =>
    a.allEntries_toValue (hx a ha)
  cases x <;> simp_all [toValue, binary, entries, arguments]

theorem Expression.spellsOperators {x : Expression} (hx : ∀ a ∈ x.arguments, a.Plain) :
    x.toValue.SpellsOperators := by
  rw [Value.SpellsOperators, allEntries_toValue hx]
  cases x with
  | compare r a b => cases r <;> simp [entries, Relation.key, Value.operatorKeys]
  | between a l u | outside a l u | within a l | without a l =>
      simp [entries, Value.operatorKeys]

theorem Expression.texts_toValue (x : Expression) :
    x.toValue.texts = x.arguments.flatMap fun a => a.toValue.texts := by
  cases x <;> simp [toValue, binary, arguments]

theorem Query.dottedKeys_expression {x : Expression} (hx : ∀ a ∈ x.arguments, a.Plain) :
    (Query.expression x).toValue.dottedKeys = [] := by
  rw [toValue_expression, Value.dottedKeys_single, if_pos (by decide),
    (Expression.spellsOperators hx).dottedKeys_eq_nil, List.append_nil]

theorem Query.expressionTexts_expression {x : Expression} (hx : ∀ a ∈ x.arguments, a.Plain) :
    (Query.expression x).toValue.expressionTexts
      = x.arguments.flatMap fun a => a.toValue.texts := by
  rw [toValue_expression, Value.expressionTexts_single, if_pos rfl,
    (Expression.spellsOperators hx).expressionTexts_eq_nil, List.append_nil,
    Expression.texts_toValue]

end FilterQuery
