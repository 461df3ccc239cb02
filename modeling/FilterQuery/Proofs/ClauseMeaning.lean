import FilterQuery.Proofs.BooleanMeaning

/-!
# A fragment says of a record what its clause says

A store holds a record and compares values. Two readers ask it for a truth
value. `Store.reads` reads a document by its spelling alone: operators under
the key of a field, connectives, and `$expr`, in which a text with a dollar
sign in front stands for what the record holds under the key that follows.
`Clause.meaning` reads a clause as it is written: an operator between two
operands.

`Store.reads_fragment` says that both agree on every clause that is accepted,
whatever the record holds and however values compare. Of equality nothing is
assumed but symmetry, which is needed where a clause with its target behind
the operator is turned around (`Clause.meaning_turned`); orders, lists and
patterns are whatever the store makes of them.

The one place where spelling can deceive is a constant that is compared with
a constant: there a text with a dollar sign would be read as a field, so the
statement asks that there be none. Constants that are compared with a field
may hold such texts.
-/

namespace FilterQuery

/-! ## Stores -/

/-- A record, and how values compare: `less` and `atMost` in the order of
their arguments, `among` with the list behind the value. -/
structure Store where
  record : String → Value
  equal : Value → Value → Bool
  equal_comm : ∀ a b, equal a b = equal b a
  less : Value → Value → Bool
  atMost : Value → Value → Bool
  among : Value → Value → Bool
  fits : Regex → Value → Bool

namespace Store

def relation (w : Store) : Relation → Value → Value → Bool
  | .eq, a, b => w.equal a b
  | .ne, a, b => !w.equal a b
  | .gt, a, b => w.less b a
  | .gte, a, b => w.atMost b a
  | .lt, a, b => w.less a b
  | .lte, a, b => w.atMost a b

/-- The other side of a relation is the relation of the sides exchanged. -/
theorem relation_flipped (w : Store) (r : Relation) (a b : Value) :
    w.relation r.flipped b a = w.relation r a b := by
  cases r with
  | eq => exact w.equal_comm b a
  | ne => exact congrArg (!·) (w.equal_comm b a)
  | gt | gte | lt | lte => rfl

end Store

/-! ## Reading a clause -/

namespace Operand

def value? (w : Store) : Operand → Option Value
  | .target t => some (w.record t.key)
  | .constant (.literal v) => some v
  | .constant (.range _) => none

def range? : Operand → Option Range
  | .constant (.range bounds) => some bounds
  | _ => none

def pattern? [RegexEngine] : Operand → Option Regex
  | .constant (.literal (.string text)) => Pattern.compile? text
  | _ => none

end Operand

/-- Whether two things are both there and stand in a relation. -/
def bothThere {α β : Type} (p : α → β → Bool) : Option α → Option β → Bool
  | some a, some b => p a b
  | _, _ => false

namespace Clause

/-- What a clause tests, and what it holds that against. Patterns, ranges and
lists have no other side, so a target is what is tested wherever it stands. -/
def sides (c : Clause) : Operand × Operand :=
  match c.subject, c.object with
  | .constant subject, .target object => (.target object, .constant subject)
  | subject, object => (subject, object)

/-- The truth of a clause as it is written. -/
def meaning [RegexEngine] (w : Store) (c : Clause) : Bool :=
  match c.operator with
  | .relation r => bothThere (w.relation r) (c.subject.value? w) (c.object.value? w)
  | .like => bothThere (fun a r => w.fits r a) (c.sides.1.value? w) c.sides.2.pattern?
  | .unlike => !bothThere (fun a r => w.fits r a) (c.sides.1.value? w) c.sides.2.pattern?
  | .between =>
      bothThere (fun a bounds => w.atMost bounds.lower a && w.atMost a bounds.upper)
        (c.sides.1.value? w) c.sides.2.range?
  | .outside =>
      bothThere (fun a bounds => w.less a bounds.lower || w.less bounds.upper a)
        (c.sides.1.value? w) c.sides.2.range?
  | .within => bothThere w.among (c.sides.1.value? w) (c.sides.2.value? w)
  | .without => !bothThere w.among (c.sides.1.value? w) (c.sides.2.value? w)
  | .other _ => false

/-- A constant against a target says the same as the target against the
constant under the operator seen from there. -/
theorem meaning_turned [RegexEngine] (w : Store) (a : Constant) (op : Operator) (t : Target) :
    meaning w ⟨.constant a, op, .target t⟩ = meaning w ⟨.target t, op.flipped, .constant a⟩ := by
  cases op with
  | relation r =>
      cases a with
      | literal v => exact (w.relation_flipped r v (w.record t.key)).symm
      | range bounds => rfl
  | like | unlike | between | outside | within | without | other token => rfl

end Clause

/-! ## Reading a document -/

/-- The key that a text refers to. -/
def reference? (x : String) : Option String :=
  match x.toList with
  | '$' :: key => some (String.ofList key)
  | _ => none

/-- `$not` denies what stands under it, and all else is left to `p`. -/
def Value.readNot (p : Value → Bool) : Value → Bool
  | .object [(key, v)] => if key = "$not" then !readNot p v else p (.object [(key, v)])
  | v => p v

namespace Store

/-- What an operator says of the value in front of it and the one behind. -/
def operator (w : Store) (op : String) (a b : Value) : Bool :=
  match op with
  | "$eq" => w.equal a b
  | "$ne" => !w.equal a b
  | "$gt" => w.less b a
  | "$gte" => w.atMost b a
  | "$lt" => w.less a b
  | "$lte" => w.atMost a b
  | "$in" => w.among a b
  | "$nin" => !w.among a b
  | "$regex" =>
      match b with
      | .regex r => w.fits r a
      | _ => false
  | _ => false

/-- What stands under the key of a field, read of the field's value. -/
def condition (w : Store) (a : Value) : Value → Bool :=
  Value.readNot fun
    | .object [(op, v)] => w.operator op a v
    | v => w.equal a v

mutual

def argument (w : Store) : Value → Value
  | .string x =>
      match reference? x with
      | some key => w.record key
      | none => .string x
  | .array items => .array (w.arguments items)
  | v => v

def arguments (w : Store) : List Value → List Value
  | [] => []
  | item :: rest => w.argument item :: w.arguments rest

end

def comparison (w : Store) : Value → Bool
  | .object [(op, .array [a, b])] => w.operator op (w.argument a) (w.argument b)
  | _ => false

def expression (w : Store) : Value → Bool := Value.holds (Value.readNot w.comparison)

/-- The truth of a document: `$and` and `$or` are connectives, and below them
stand expressions and conditions on fields. -/
def reads (w : Store) : Value → Bool :=
  Value.holds fun
    | .object [(key, v)] => if key = "$expr" then w.expression v else w.condition (w.record key) v
    | _ => false

/-! ### Conditions -/

theorem operator_key (w : Store) (r : Relation) (a b : Value) :
    w.operator r.key a b = w.relation r a b := by
  cases r <;> rfl

/-- A plain value is no document, so it is not taken for an operator. -/
theorem condition_of_isPlain (w : Store) {a v : Value} (hv : v.isPlain = true) :
    w.condition a v = w.equal a v := by
  cases v with
  | object entries => simp [Value.isPlain] at hv
  | null | boolean _ | integer _ | float _ | string _ | array _ | regex _ => rfl

theorem condition_compare (w : Store) {a v : Value} (r : Relation) (hv : v.isPlain = true) :
    w.condition a (Condition.compare r v).toValue = w.relation r a v := by
  cases r with
  | eq => exact w.condition_of_isPlain hv
  | ne | gt | gte | lt | lte => rfl

theorem reads_field (w : Store) {key : String} (hkey : '$' ∉ key.toList) (cond : Condition) :
    w.reads (Query.field key cond).toValue = w.condition (w.record key) cond.toValue := by
  have hne : key ≠ "$expr" := fun he => hkey (he ▸ by decide)
  rw [reads, Query.holds_field hkey, Query.truth]
  exact if_neg hne

theorem reads_all (w : Store) (qs : List Query) :
    w.reads (Query.all qs).toValue = qs.all fun q => w.reads q.toValue := by
  rw [reads, Query.holds_all]

theorem reads_any (w : Store) (qs : List Query) :
    w.reads (Query.any qs).toValue = qs.any fun q => w.reads q.toValue := by
  rw [reads, Query.holds_any]

/-! ### Expressions -/

theorem toList_referenceTo (key : String) : (referenceTo key).toList = '$' :: key.toList := by
  rw [referenceTo, String.toList_append]
  rfl

theorem reference?_referenceTo (key : String) : reference? (referenceTo key) = some key := by
  rw [reference?, toList_referenceTo]
  simp

theorem reference?_eq_none {x : String} (hx : x.toList.head? ≠ some '$') :
    reference? x = none := by
  unfold reference?
  split
  · rename_i hcons
    rw [hcons] at hx
    exact absurd rfl hx
  · rfl

mutual

/-- A constant without texts that start with a dollar sign stands for
itself. -/
theorem argument_eq_self (w : Store) :
    ∀ {v : Value}, (∀ x ∈ v.texts, x.toList.head? ≠ some '$') → w.argument v = v
  | .string x, h => by
      have hx : x.toList.head? ≠ some '$' := h x (by rw [Value.texts_string]; simp)
      rw [argument, reference?_eq_none hx]
  | .array items, h => by
      rw [Value.texts_array] at h
      rw [argument, arguments_eq_self w h]
  | .null, _ | .boolean _, _ | .integer _, _ | .float _, _ | .object _, _ | .regex _, _ => rfl

theorem arguments_eq_self (w : Store) :
    ∀ {items : List Value}, (∀ x ∈ items.flatMap Value.texts, x.toList.head? ≠ some '$') →
      w.arguments items = items
  | [], _ => rfl
  | item :: rest, h => by
      rw [List.flatMap_cons] at h
      obtain ⟨hitem, hrest⟩ := List.forall_mem_append.mp h
      rw [arguments, argument_eq_self w hitem, arguments_eq_self w hrest]

end

theorem argument_reference (w : Store) (key : String) :
    w.argument (Argument.reference key).toValue = w.record key := by
  rw [Argument.toValue, argument, reference?_referenceTo]

/-- What an expression says before it is spelled. -/
def judges (w : Store) : Expression → Bool
  | .compare r a b => w.relation r (w.argument a.toValue) (w.argument b.toValue)
  | .between a l u =>
      w.atMost (w.argument l.toValue) (w.argument a.toValue)
        && w.atMost (w.argument a.toValue) (w.argument u.toValue)
  | .outside a l u =>
      w.less (w.argument a.toValue) (w.argument l.toValue)
        || w.less (w.argument u.toValue) (w.argument a.toValue)
  | .within a l => w.among (w.argument a.toValue) (w.argument l.toValue)
  | .without a l => !w.among (w.argument a.toValue) (w.argument l.toValue)

theorem expression_binary (w : Store) {op : String} {a b : Argument}
    (hop : op ∉ ["$and", "$or", "$not"]) :
    w.expression (Expression.binary op a b)
      = w.operator op (w.argument a.toValue) (w.argument b.toValue) := by
  simp only [List.mem_cons, List.not_mem_nil, or_false, not_or] at hop
  obtain ⟨hand, hor, hnot⟩ := hop
  rw [expression, Expression.binary, Value.holds_single hand hor]
  exact if_neg hnot

theorem expression_and (w : Store) (a b : Value) :
    w.expression (.single "$and" (.array [a, b])) = (w.expression a && w.expression b) := by
  rw [expression, Value.single, Entries.single, Value.holds, if_pos rfl, allHold_eq]
  simp only [List.all_cons, List.all_nil, Bool.and_true]

theorem expression_or (w : Store) (a b : Value) :
    w.expression (.single "$or" (.array [a, b])) = (w.expression a || w.expression b) := by
  rw [expression, Value.single, Entries.single, Value.holds, if_neg (by decide), if_pos rfl,
    anyHolds_eq]
  simp only [List.any_cons, List.any_nil, Bool.or_false]

theorem expression_eq_judges (w : Store) (e : Expression) : w.expression e.toValue = w.judges e := by
  cases e with
  | compare r a b =>
      rw [Expression.toValue, expression_binary w (by cases r <;> decide), operator_key]
      rfl
  | between a l u =>
      have hlower := @expression_binary w "$gte" a l (by decide)
      have hupper := @expression_binary w "$lte" a u (by decide)
      rw [Expression.toValue, expression_and, hlower, hupper]
      rfl
  | outside a l u =>
      have hlower := @expression_binary w "$lt" a l (by decide)
      have hupper := @expression_binary w "$gt" a u (by decide)
      rw [Expression.toValue, expression_or, hlower, hupper]
      rfl
  | within a l =>
      rw [Expression.toValue, expression_binary w (by decide)]
      rfl
  | without a l =>
      rw [Expression.toValue, expression, Value.holds_single (by decide) (by decide)]
      rfl

theorem reads_expression (w : Store) (e : Expression) :
    w.reads (Query.expression e).toValue = w.judges e := by
  rw [reads, Query.holds_expression, ← expression_eq_judges]
  rfl

end Store

/-! ## Both readings agree -/

theorem FieldAsks.reads_eq_meaning [RegexEngine] {t : Target} {op : Operator} {object : Constant}
    {q : Query} (w : Store) (h : FieldAsks t.key op object q) (hkey : '$' ∉ t.key.toList) :
    w.reads q.toValue = Clause.meaning w ⟨.target t, op, .constant object⟩ := by
  cases h with
  | compare r hv =>
      rw [w.reads_field hkey, w.condition_compare r hv]
      rfl
  | within hv | without hv =>
      rw [w.reads_field hkey]
      rfl
  | @like text regex hc | @unlike text regex hc =>
      have hpattern : (Operand.constant (.literal (.string text))).pattern? = some regex := hc
      rw [w.reads_field hkey, Clause.meaning, Clause.sides, hpattern]
      rfl
  | between hl hu =>
      rw [w.reads_all]
      simp only [List.all_cons, List.all_nil, Bool.and_true, w.reads_field hkey,
        w.condition_compare _ hl, w.condition_compare _ hu]
      rfl
  | outside hl hu =>
      rw [w.reads_any]
      simp only [List.any_cons, List.any_nil, Bool.or_false, w.reads_field hkey,
        w.condition_compare _ hl, w.condition_compare _ hu]
      rfl

theorem ConstantsAsk.reads_eq_meaning [RegexEngine] {a b : Constant} {op : Operator} {q : Query}
    (w : Store) (h : ConstantsAsk a op b q)
    (htexts : ∀ x ∈ (a.values ++ b.values).flatMap Value.texts, x.toList.head? ≠ some '$') :
    w.reads q.toValue = Clause.meaning w ⟨.constant a, op, .constant b⟩ := by
  have hself : ∀ v ∈ a.values ++ b.values, w.argument v = v := fun v hv =>
    w.argument_eq_self fun x hx => htexts x (List.mem_flatMap.mpr ⟨v, hv, hx⟩)
  cases h with
  | compare r ha hb | within ha hb | without ha hb =>
      simp only [Constant.values, List.cons_append, List.nil_append, List.forall_mem_cons] at hself
      obtain ⟨ha', hb', -⟩ := hself
      rw [w.reads_expression]
      simp only [Store.judges, Argument.toValue, ha', hb']
      rfl
  | between ha hl hu | outside ha hl hu =>
      simp only [Constant.values, List.cons_append, List.nil_append, List.forall_mem_cons] at hself
      obtain ⟨ha', hl', hu', -⟩ := hself
      rw [w.reads_expression]
      simp only [Store.judges, Argument.toValue, ha', hl', hu']
      rfl

namespace Clause

theorem Asks.reads_eq_meaning [RegexEngine] {s : Strategy} {c : Clause} {q : Query} (w : Store)
    (h : c.Asks s q) (htexts : ∀ x ∈ c.comparedTexts, x.toList.head? ≠ some '$') :
    w.reads q.toValue = c.meaning w := by
  obtain ⟨subject, op, object⟩ := c
  cases h with
  | field hshape ht hq =>
      have hkey := Target.dollar_notMem_key ht.unreserved
      -- the target stands before or behind the operator
      cases subject <;> cases object <;> cases hshape
      · exact hq.reads_eq_meaning w hkey
      · rw [meaning_turned]
        exact hq.reads_eq_meaning w hkey
  | fields hshape ht hu =>
      cases subject <;> cases object <;> cases hshape
      rw [w.reads_expression]
      simp only [Store.judges, w.argument_reference]
      rfl
  | constants hshape hq =>
      cases subject <;> cases object <;> cases hshape
      exact hq.reads_eq_meaning w htexts

end Clause

/-- Of every record the fragment of an accepted clause says what the clause
says, however values compare, as long as no constant that is compared with a
constant is spelled like a reference. -/
theorem Store.reads_fragment [RegexEngine] {s : Strategy} {c : Clause} {fragment : Document}
    (w : Store) (h : c.fragment s = .ok fragment)
    (htexts : ∀ x ∈ c.comparedTexts, x.toList.head? ≠ some '$') :
    w.reads (.object fragment) = c.meaning w := by
  rw [Clause.fragment_eq_settle, settle_eq_ok] at h
  obtain ⟨hrefused, rfl⟩ := h
  exact (Clause.refusal?_eq_none.mp hrefused).reads_eq_meaning w htexts

/-- A record with an age, where integers compare as integers and nothing
else compares. -/
def pensioner : Store where
  record key := if key = "age" then .integer 70 else .null
  equal
    | .integer m, .integer n => m == n
    | _, _ => false
  equal_comm a b := by
    cases a <;> cases b <;> simp [Bool.beq_comm]
  less
    | .integer m, .integer n => m < n
    | _, _ => false
  atMost
    | .integer m, .integer n => m ≤ n
    | _, _ => false
  among
    | .integer m, .array items => items.any fun
        | .integer n => m == n
        | _ => false
    | _, _ => false
  fits _ _ := false

def outsideWorkingAge : Clause :=
  ⟨.range ⟨.integer 18, .integer 65⟩, .outside, .target ⟨.field "age", []⟩⟩

def threeNotListed : Clause :=
  ⟨.literal (.integer 3), .without, .literal (.array [.integer 1, .string "3"])⟩

theorem Store.reads_fragment_pensioner :
    (∃ fragment, outsideWorkingAge.fragment .unrestricted = .ok fragment ∧
        (∀ x ∈ outsideWorkingAge.comparedTexts, x.toList.head? ≠ some '$') ∧
        pensioner.reads (.object fragment) = outsideWorkingAge.meaning pensioner ∧
        outsideWorkingAge.meaning pensioner = true) ∧
      ∃ fragment, threeNotListed.fragment .unrestricted = .ok fragment ∧
        (∀ x ∈ threeNotListed.comparedTexts, x.toList.head? ≠ some '$') ∧
        pensioner.reads (.object fragment) = threeNotListed.meaning pensioner := by
  have hage : outsideWorkingAge.fragment .unrestricted
      = .ok [("$or", .array [.object [("age", .object [("$lt", .integer 18)])],
          .object [("age", .object [("$gt", .integer 65)])]])] := rfl
  have hlist : threeNotListed.fragment .unrestricted
      = .ok [("$expr", .object [("$not", .object [("$in",
          .array [.integer 3, .array [.integer 1, .string "3"]])])])] := rfl
  have hageTexts : ∀ x ∈ outsideWorkingAge.comparedTexts, x.toList.head? ≠ some '$' := by decide
  have hlistTexts : ∀ x ∈ threeNotListed.comparedTexts, x.toList.head? ≠ some '$' := by decide
  exact ⟨⟨_, hage, hageTexts, Store.reads_fragment pensioner hage hageTexts, by decide⟩,
    ⟨_, hlist, hlistTexts, Store.reads_fragment pensioner hlist hlistTexts⟩⟩

end FilterQuery
