import FilterQuery.Proofs.DocumentEntries

/-!
# What membership operators look in

`in` and `nin` look for a value in a list, on a field as `$in` and `$nin` and
between constants as a `$in` with the list behind the subject. The constant
that stands for the list is checked as any constant is: it has to be plain,
which a number is too. So a conversion that succeeds does not say that there
is a list.

`LooksInLists` is what a store asks of an entry for a field, or for an
expression, and of the membership operators under it.
`Filter.looks_in_lists_iff` says when a document meets it at every depth:
exactly if each clause has an array where its operator expects a list
(`Clause.lists`), and whatever else is in the filter is of no account.
-/

namespace FilterQuery

/-! ## Lists of clauses -/

/-- Whether an operator looks for a value in a list. -/
def Operator.isMembership : Operator → Bool
  | .within | .without => true
  | _ => false

/-- The constant of a clause that stands where its operator expects a list: on
either side of a target, and behind another constant. -/
def Clause.lists (c : Clause) : List Constant :=
  match c.shape with
  | .targetConstant _ op object | .constantConstant _ op object =>
      if op.isMembership then [object] else []
  | .targetTarget _ _ _ => []

/-! ## Lists in a document -/

/-- The membership operators under an entry have a list: on a field it is the
operand, and in an expression the second of two arguments. -/
structure LooksInLists (e : String × Value) : Prop where
  onField : e.1 ∉ Value.operatorKeys →
    ∀ o ∈ e.2.allEntries, o.1 = "$in" ∨ o.1 = "$nin" → ∃ items, o.2 = .array items
  inExpression : e.1 = "$expr" →
    ∀ o ∈ e.2.allEntries, o.1 = "$in" → ∃ subject items, o.2 = .array [subject, .array items]

theorem looksInLists_of_operator {op : String} (hop : op ∈ Value.operatorKeys ∧ op ≠ "$expr")
    (v : Value) : LooksInLists (op, v) where
  onField := fun h => absurd hop.1 h
  inExpression := fun h => absurd h hop.2

theorem looksInLists_field {key : String} (hkey : key ∉ Value.operatorKeys) {v : Value} :
    LooksInLists (key, v) ↔
      ∀ o ∈ v.allEntries, o.1 = "$in" ∨ o.1 = "$nin" → ∃ items, o.2 = .array items := by
  have hne : key ≠ "$expr" := fun h => hkey (h ▸ by decide)
  exact ⟨fun h => h.onField hkey, fun h => ⟨fun _ => h, fun he => absurd he hne⟩⟩

theorem looksInLists_expression {v : Value} :
    LooksInLists ("$expr", v) ↔
      ∀ o ∈ v.allEntries, o.1 = "$in" → ∃ subject items, o.2 = .array [subject, .array items] := by
  have hkey : "$expr" ∈ Value.operatorKeys := by decide
  exact ⟨fun h => h.inExpression rfl, fun h => ⟨fun hk => absurd hkey hk, fun _ => h⟩⟩

theorem Value.SpellsOperators.looksInLists {v : Value} (hv : v.SpellsOperators) :
    v.EachEntry LooksInLists :=
  fun e he => looksInLists_of_operator (hv e he) e.2

theorem metByMany_looksInLists : MetByMany LooksInLists := by
  have hkeys : ∀ op ∈ Value.connectiveKeys, op ∈ Value.operatorKeys ∧ op ≠ "$expr" := by decide
  exact fun op hop members _ => looksInLists_of_operator (hkeys op hop) (.array members)

/-! ## Lists of queries -/

def Condition.InList : Condition → Prop
  | .within v | .without v => ∃ items, v = .array items
  | .compare _ _ | .like _ | .unlike _ => True

def Expression.InList : Expression → Prop
  | .within _ l | .without _ l => ∃ items, l.toValue = .array items
  | .compare _ _ _ | .between _ _ _ | .outside _ _ _ => True

/-- A field has no membership operator under it but that of its condition. -/
theorem Query.eachEntry_looksInLists_field {key : String} {cond : Condition}
    (hkey : '$' ∉ key.toList) (hc : cond.Plain) :
    (Query.field key cond).toValue.EachEntry LooksInLists ↔ cond.InList := by
  rw [toValue_field, Value.eachEntry_single, looksInLists_field (Value.notMem_operatorKeys hkey),
    and_iff_left (cond.spellsOperators hc).looksInLists, cond.allEntries_toValue hc]
  cases cond with
  | compare r v => cases r <;> simp [Condition.entries, Relation.key, Condition.InList]
  | within v | without v | like r | unlike r => simp [Condition.entries, Condition.InList]

theorem Query.eachEntry_looksInLists_expression {x : Expression}
    (hx : ∀ a ∈ x.arguments, a.Plain) :
    (Query.expression x).toValue.EachEntry LooksInLists ↔ x.InList := by
  rw [toValue_expression, Value.eachEntry_single, looksInLists_expression,
    and_iff_left (x.spellsOperators hx).looksInLists, x.allEntries_toValue hx]
  cases x with
  | compare r a b => cases r <;> simp [Expression.entries, Relation.key, Expression.InList]
  | between a l u | outside a l u | within a l | without a l =>
      simp [Expression.entries, Expression.InList]

/-! ## Lists of accepted clauses -/

theorem FieldAsks.looksInLists_iff [RegexEngine] {key : String} {op : Operator}
    {object : Constant} {q : Query} (hkey : '$' ∉ key.toList) (h : FieldAsks key op object q) :
    q.toValue.EachEntry LooksInLists ↔
      (op.isMembership = true → ∃ items, object = .literal (.array items)) := by
  have hfield : ∀ cond : Condition, cond.Plain →
      ((Query.field key cond).toValue.EachEntry LooksInLists ↔ cond.InList) := fun cond hc =>
    Query.eachEntry_looksInLists_field hkey hc
  cases h with
  | compare r hv | within hv | without hv =>
      refine (hfield _ ?_).trans ?_
      · exact hv
      · simp [Condition.InList, Operator.isMembership]
  | like hc | unlike hc =>
      refine (hfield _ ?_).trans ?_
      · trivial
      · simp [Condition.InList, Operator.isMembership]
  | @between l u hl hu =>
      have hlower := hfield (.compare .gte l) hl
      have hupper := hfield (.compare .lte u) hu
      rw [Query.eachEntry_all, and_iff_right (looksInLists_of_operator (by decide) _)]
      simp [hlower, hupper, Condition.InList, Operator.isMembership]
  | @outside l u hl hu =>
      have hlower := hfield (.compare .lt l) hl
      have hupper := hfield (.compare .gt u) hu
      rw [Query.eachEntry_any, and_iff_right (looksInLists_of_operator (by decide) _)]
      simp [hlower, hupper, Condition.InList, Operator.isMembership]

theorem ConstantsAsk.looksInLists_iff {a b : Constant} {op : Operator} {q : Query}
    (h : ConstantsAsk a op b q) :
    q.toValue.EachEntry LooksInLists ↔
      (op.isMembership = true → ∃ items, b = .literal (.array items)) := by
  obtain ⟨x, hq, hx, -⟩ := h.arguments
  rw [hq, Query.eachEntry_looksInLists_expression hx]
  cases h <;> cases hq <;> simp [Expression.InList, Operator.isMembership, Argument.toValue]

theorem Clause.Asks.looksInLists_iff [RegexEngine] {s : Strategy} {c : Clause}
    {q : Query} (h : c.Asks s q) :
    q.toValue.EachEntry LooksInLists ↔
      ∀ a ∈ c.lists, ∃ items, a = .literal (.array items) := by
  rw [lists]
  cases h with
  | @field t op object q hshape ht hq =>
      rw [hshape, hq.looksInLists_iff (Target.dollar_notMem_key ht.unreserved)]
      by_cases hop : op.isMembership = true <;> simp [hop]
  | fields hshape ht hu =>
      rw [hshape, Query.eachEntry_looksInLists_expression
        (by simp [Expression.arguments, Argument.Plain])]
      simp [Expression.InList]
  | @constants a b op q hshape hq =>
      rw [hshape, hq.looksInLists_iff]
      by_cases hop : op.isMembership = true <;> simp [hop]

/-! ## Lists of filters -/

namespace Filter

/-- In a document every `$in` and `$nin` on a field has an array, and every
`$in` inside an expression has one as its second argument, exactly if in each
clause with a membership operator the constant that stands for the list is an
array. -/
theorem looks_in_lists_iff [RegexEngine] {f : Filter} {s : Strategy} {r : ConversionResult}
    (h : f.convertWith s = .ok r) :
    (∀ e ∈ (Value.object r.document).allEntries, LooksInLists e) ↔
      ∀ c ∈ f.clauses, ∀ a ∈ c.lists, ∃ items, a = .literal (.array items) := by
  have hasks := (convertWith_eq_ok.mp h).1
  have hclauses : (∀ c ∈ f.clauses, (c.query s).toValue.EachEntry LooksInLists) ↔
      ∀ c ∈ f.clauses, ∀ a ∈ c.lists, ∃ items, a = .literal (.array items) :=
    forall₂_congr fun c hc => (hasks c hc).looksInLists_iff
  have hempty : LooksInLists ("$and", .array []) := looksInLists_of_operator (by decide) _
  rw [← hclauses, ← Value.EachEntry, eachEntry_document metByMany_looksInLists h]
  exact and_iff_right fun _ _ _ => hempty

/-- A list on either side of a target, and one behind a constant. -/
def memberships : Filter :=
  ((ofClause ⟨.target ⟨.field "foo", []⟩, .within, .literal (.array [.integer 1])⟩).or
    ⟨.literal (.array []), .without, .target ⟨.field "bar", []⟩⟩).or
    ⟨.literal (.integer 42), .without, .literal (.array [.integer 42])⟩

def membershipsDocument : Document :=
  [("$or", .array [
    .object [("foo", .object [("$in", .array [.integer 1])])],
    .object [("bar", .object [("$nin", .array [])])],
    .object [("$expr", .object [("$not",
      .object [("$in", .array [.integer 42, .array [.integer 42]])])])]])]

theorem looks_in_lists_iff_memberships :
    memberships.convertWith .unrestricted = .ok ⟨["/foo", "/bar"], membershipsDocument⟩ ∧
      ∀ e ∈ (Value.object membershipsDocument).allEntries, LooksInLists e := by
  have hconverts : memberships.convertWith .unrestricted
      = .ok ⟨["/foo", "/bar"], membershipsDocument⟩ := rfl
  refine ⟨hconverts, (looks_in_lists_iff hconverts).mpr ?_⟩
  simp [memberships, ofClause, empty, push, or, clauses, clausesOf, Statement.clauses,
    Member.clauses, Clause.lists, Clause.shape, Operator.isMembership, Operator.flipped,
    Operand.literal]

/-- A number in place of the list, on a field and in an expression. -/
def inNumber : Filter :=
  (ofClause ⟨.target ⟨.field "foo", []⟩, .within, .literal (.integer 42)⟩).or
    ⟨.literal (.integer 42), .within, .literal (.integer 42)⟩

def inNumberDocument : Document :=
  [("$or", .array [.object [("foo", .object [("$in", .integer 42)])],
    .object [("$expr", .object [("$in", .array [.integer 42, .integer 42])])]])]

theorem number_in_place_of_list :
    inNumber.convertWith .unrestricted = .ok ⟨["/foo"], inNumberDocument⟩ ∧
      (("foo", .single "$in" (.integer 42)) ∈ (Value.object inNumberDocument).allEntries ∧
        ¬LooksInLists ("foo", .single "$in" (.integer 42))) ∧
      (("$expr", .single "$in" (.array [.integer 42, .integer 42])) ∈
          (Value.object inNumberDocument).allEntries ∧
        ¬LooksInLists ("$expr", .single "$in" (.array [.integer 42, .integer 42]))) := by
  refine ⟨rfl, ⟨.tail _ (.head _), fun h => ?_⟩, .tail _ (.tail _ (.tail _ (.head _))),
    fun h => ?_⟩
  · obtain ⟨items, hitems⟩ := h.onField (by decide) ("$in", .integer 42) (.head _) (Or.inl rfl)
    cases hitems
  · obtain ⟨subject, items, hitems⟩ := h.inExpression rfl
      ("$in", .array [.integer 42, .integer 42]) (.head _) rfl
    cases hitems

end Filter

end FilterQuery
