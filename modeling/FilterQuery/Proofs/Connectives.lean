import FilterQuery.Proofs.DocumentEntries

/-!
# How many members connectives have

A connective is there to join, so in a query document it should have two
members or more; one alone can stand for itself, and a store refuses a
connective that has none. `Value.ConnectivesSized` asks for such numbers at
every depth, and lets them depend on the connective.

A clause spells connectives only for ranges, with the two bounds as members,
on a field as well as in an expression. With that the numbers are up to the
statements of the filter: an `$or` always joins two members at least, and so
does an `$and`, unless it stands for a filter without statements and is empty
(`Filter.connectives_join_iff`).
-/

namespace FilterQuery

/-! ## Connectives in a value -/

namespace Value

/-- Under each connective, at any depth, there is an array of members, as many
as `size` allows for it. -/
def ConnectivesSized (size : String → Nat → Prop) (v : Value) : Prop :=
  v.EachEntry fun e => e.1 ∈ connectiveKeys →
    ∃ members, e.2 = .array members ∧ size e.1 members.length

/-- A text without a dollar sign is no connective. -/
theorem notMem_connectiveKeys {key : String} (hkey : '$' ∉ key.toList) :
    key ∉ connectiveKeys := by
  have hall : ∀ op ∈ connectiveKeys, op ∈ operatorKeys := by decide
  exact fun hm => notMem_operatorKeys hkey (hall key hm)

end Value

/-! ## Connectives of clauses -/

section Sized

variable {size : String → Nat → Prop}

theorem Condition.connectivesSized {cond : Condition} (hc : cond.Plain) :
    cond.toValue.ConnectivesSized size := by
  rw [Value.ConnectivesSized, Value.EachEntry, allEntries_toValue hc]
  cases cond with
  | compare r v => cases r <;> simp [entries, Relation.key, Value.connectiveKeys]
  | within v | without v | like r | unlike r => simp [entries, Value.connectiveKeys]

/-- The connectives of an expression are those of its range. -/
theorem Expression.connectivesSized (hand : size "$and" 2) (hor : size "$or" 2) {x : Expression}
    (hx : ∀ a ∈ x.arguments, a.Plain) : x.toValue.ConnectivesSized size := by
  rw [Value.ConnectivesSized, Value.EachEntry, allEntries_toValue hx]
  cases x with
  | compare r a b => cases r <;> simp [entries, Relation.key, Value.connectiveKeys]
  | between a l u => simp [entries, Value.connectiveKeys, hand]
  | outside a l u => simp [entries, Value.connectiveKeys, hor]
  | within a l | without a l => simp [entries, Value.connectiveKeys]

theorem Query.connectivesSized_field {key : String} {cond : Condition}
    (hkey : '$' ∉ key.toList) (hc : cond.Plain) :
    (Query.field key cond).toValue.ConnectivesSized size := by
  rw [toValue_field]
  exact Value.eachEntry_single.mpr
    ⟨fun h => absurd h (Value.notMem_connectiveKeys hkey), cond.connectivesSized hc⟩

theorem Query.connectivesSized_expression (hand : size "$and" 2) (hor : size "$or" 2)
    {x : Expression} (hx : ∀ a ∈ x.arguments, a.Plain) :
    (Query.expression x).toValue.ConnectivesSized size := by
  have hkey : "$expr" ∉ Value.connectiveKeys := by decide
  rw [toValue_expression]
  exact Value.eachEntry_single.mpr ⟨fun h => absurd h hkey, x.connectivesSized hand hor hx⟩

theorem FieldAsks.connectivesSized [RegexEngine] (hand : size "$and" 2) (hor : size "$or" 2)
    {key : String} {op : Operator} {object : Constant}
    {q : Query} (hkey : '$' ∉ key.toList) (h : FieldAsks key op object q) :
    q.toValue.ConnectivesSized size := by
  have hfield : ∀ cond : Condition, cond.Plain →
      (Query.field key cond).toValue.ConnectivesSized size := fun cond hc =>
    Query.connectivesSized_field hkey hc
  cases h with
  | compare r hv | within hv | without hv => exact hfield _ hv
  | like hc | unlike hc => exact hfield _ trivial
  | @between l u hl hu =>
      have hbounds := And.intro (hfield (.compare .gte l) hl) (hfield (.compare .lte u) hu)
      refine Query.eachEntry_all.mpr ⟨fun _ => ⟨_, rfl, hand⟩, ?_⟩
      simpa [Value.ConnectivesSized] using hbounds
  | @outside l u hl hu =>
      have hbounds := And.intro (hfield (.compare .lt l) hl) (hfield (.compare .gt u) hu)
      refine Query.eachEntry_any.mpr ⟨fun _ => ⟨_, rfl, hor⟩, ?_⟩
      simpa [Value.ConnectivesSized] using hbounds

theorem Clause.Asks.connectivesSized [RegexEngine] (hand : size "$and" 2) (hor : size "$or" 2)
    {s : Strategy} {c : Clause} {q : Query} (h : c.Asks s q) : q.toValue.ConnectivesSized size := by
  cases h with
  | field hshape ht hq =>
      exact hq.connectivesSized hand hor (Target.dollar_notMem_key ht.unreserved)
  | fields hshape ht hu =>
      exact Query.connectivesSized_expression hand hor
        (by simp [Expression.arguments, Argument.Plain])
  | constants hshape hq =>
      obtain ⟨x, rfl, hx, -⟩ := hq.arguments
      exact Query.connectivesSized_expression hand hor hx

end Sized

/-! ## Connectives of filters -/

namespace Filter

variable {f : Filter} {s : Strategy} {r : ConversionResult}

/-- As long as two members or more will do, the connectives of a document are
of the right size exactly if the one that stands for an empty filter is. -/
theorem connectivesSized_document [RegexEngine] {size : String → Nat → Prop}
    (hmany : ∀ op n, 2 ≤ n → size op n) (h : f.convertWith s = .ok r) :
    (Value.object r.document).ConnectivesSized size ↔
      ∀ g ∈ f.subfilters, g.statements = [] → size "$and" 0 := by
  have hmet : MetByMany fun e => e.1 ∈ Value.connectiveKeys →
      ∃ members, e.2 = .array members ∧ size e.1 members.length := fun op _ members hlength _ =>
    ⟨members, rfl, hmany op _ hlength⟩
  have hclauses : ∀ c ∈ f.clauses, (c.query s).toValue.ConnectivesSized size := fun c hc =>
    ((convertWith_eq_ok.mp h).1 c hc).connectivesSized (hmany "$and" 2 (by decide))
      (hmany "$or" 2 (by decide))
  have hempty : ("$and" ∈ Value.connectiveKeys →
      ∃ members, Value.array [] = .array members ∧ size "$and" members.length) ↔
        size "$and" 0 := by
    constructor
    · intro hsized
      obtain ⟨members, hmembers, hsize⟩ := hsized (by decide)
      cases hmembers
      exact hsize
    · exact fun hsize _ => ⟨[], rfl, hsize⟩
  rw [Value.ConnectivesSized, eachEntry_document hmet h]
  constructor
  · rintro ⟨hsized, -⟩ g hg hnone
    exact hempty.mp (hsized g hg hnone)
  · intro hsize
    exact ⟨fun g hg hnone => hempty.mpr (hsize g hg hnone), hclauses⟩

/-- At every depth the connectives of a document join two members at least,
exactly if each filter, nested or not, has a statement. Without that an `$and`
is empty at places, but an `$or` never is, and one member never stands under
a connective. -/
theorem connectives_join_iff [RegexEngine] (h : f.convertWith s = .ok r) :
    ((Value.object r.document).ConnectivesSized (fun _ n => 2 ≤ n) ↔
        ∀ g ∈ f.subfilters, g.statements ≠ []) ∧
      (Value.object r.document).ConnectivesSized fun op n => 2 ≤ n ∨ op = "$and" ∧ n = 0 := by
  constructor
  · rw [connectivesSized_document (fun _ _ hn => hn) h]
    simp
  · rw [connectivesSized_document (fun _ _ hn => Or.inl hn) h]
    exact fun _ _ _ => Or.inr ⟨rfl, rfl⟩

/-- A range, or else two clauses in a nested filter. -/
def rangeOrPair : Filter :=
  (ofClause ⟨.target ⟨.field "foo", []⟩, .between, .range ⟨.integer 0, .integer 42⟩⟩).orGroup
    ((ofClause ⟨.target ⟨.field "bar", []⟩, .relation .eq, .literal (.integer 1)⟩).and
      ⟨.target ⟨.field "baz", []⟩, .relation .eq, .literal (.integer 2)⟩)

def rangeOrPairDocument : Document :=
  [("$or", .array [
    .object [("$and", .array [.object [("foo", .object [("$gte", .integer 0)])],
      .object [("foo", .object [("$lte", .integer 42)])]])],
    .object [("$and", .array [.object [("bar", .integer 1)], .object [("baz", .integer 2)]])]])]

theorem connectives_join_iff_rangeOrPair :
    rangeOrPair.convertWith .unrestricted = .ok ⟨["/foo", "/bar", "/baz"], rangeOrPairDocument⟩ ∧
      (Value.object rangeOrPairDocument).ConnectivesSized fun _ n => 2 ≤ n := by
  have hconverts : rangeOrPair.convertWith .unrestricted
      = .ok ⟨["/foo", "/bar", "/baz"], rangeOrPairDocument⟩ := rfl
  refine ⟨hconverts, (connectives_join_iff hconverts).1.mpr ?_⟩
  simp [rangeOrPair, ofClause, empty, push, orGroup, and, subfilters, subfiltersOf,
    Member.subfilters]

/-- A filter without statements is converted, and to a connective that joins
nothing. -/
theorem connective_of_empty :
    empty.convertWith .unrestricted = .ok ⟨[], [("$and", .array [])]⟩ ∧
      ¬(Value.object [("$and", .array [])]).ConnectivesSized fun _ n => 2 ≤ n := by
  refine ⟨rfl, fun h => ?_⟩
  obtain ⟨members, hmembers, hlength⟩ := h ("$and", .array []) (.head _) (by decide)
  cases hmembers
  cases hlength

end Filter

end FilterQuery
