import FilterQuery.Proofs.Assembly
import FilterQuery.Proofs.ReservedText

/-!
# The grammar of query documents

Constants and segments of a filter come from outside and end up in the
document, some as keys and some as values. That they cannot change what the
document asks for is a matter of its form: every document that a conversion
gives has a derivation in a grammar in which operators are fixed texts, what
comes from a constant is plain, and what comes from a segment is a key that
no operator is spelled like (`document_isQuery`).

The grammar speaks of values, as a store sees them, and has one production
for each form that a document, a condition and an expression can take. Each
mapping has one entry. The derivation follows the filter: one for each clause,
from the table of what clauses ask, and connectives around them
(`Filter.assemble_invariant`).
-/

namespace FilterQuery

/-- A key that stands for a field and can be taken for nothing else. -/
structure FieldKey (key : String) : Prop where
  unreserved : isReserved key = false
  no_dollar : '$' ∉ key.toList
  no_hyphens : ¬['-', '-'] <:+: key.toList

theorem FieldKey.of_unreserved {key : String} (h : isReserved key = false) : FieldKey key where
  unreserved := h
  no_dollar := notMem_of_unreserved (by decide) h
  no_hyphens hinfix := by
    have hreserved : isReserved key = true := holdsReserved_iff.mpr (Or.inr hinfix)
    rw [h] at hreserved
    cases hreserved

/-! ## Productions -/

namespace Grammar

section Expressions

/- The keys of resolved targets, which references may name. -/
variable (resolved : String → Prop)

inductive IsArgument : Value → Prop
  | plain {v : Value} (hv : v.isPlain = true) : IsArgument v
  | reference {key : String} (hkey : resolved key) : IsArgument (.string (referenceTo key))

inductive IsPair : Value → Prop
  | pair {a b : Value} (ha : IsArgument resolved a) (hb : IsArgument resolved b) :
      IsPair (.array [a, b])

inductive IsExpression : Value → Prop
  | compare {op : String} {args : Value} (hop : op ∈ ["$eq", "$ne", "$gt", "$gte", "$lt", "$lte"])
      (hargs : IsPair resolved args) : IsExpression (.single op args)
  | within {args : Value} (hargs : IsPair resolved args) : IsExpression (.single "$in" args)
  | without {args : Value} (hargs : IsPair resolved args) :
      IsExpression (.single "$not" (.single "$in" args))
  | between {lower upper : Value} (hlower : IsPair resolved lower)
      (hupper : IsPair resolved upper) :
      IsExpression (.single "$and" (.array [.single "$gte" lower, .single "$lte" upper]))
  | outside {lower upper : Value} (hlower : IsPair resolved lower)
      (hupper : IsPair resolved upper) :
      IsExpression (.single "$or" (.array [.single "$lt" lower, .single "$gt" upper]))

end Expressions

/-- Documents, over the keys that references may name. -/
inductive IsQuery [RegexEngine] (resolved : String → Prop) : Value → Prop
  | equal {key : String} {v : Value} (hkey : FieldKey key) (hv : v.isPlain = true) :
      IsQuery resolved (.single key v)
  | operator {key op : String} {v : Value} (hkey : FieldKey key)
      (hop : op ∈ ["$ne", "$gt", "$gte", "$lt", "$lte", "$in", "$nin"]) (hv : v.isPlain = true) :
      IsQuery resolved (.single key (.single op v))
  | like {key text : String} {regex : Regex} (hkey : FieldKey key)
      (hregex : Pattern.compile? text = some regex) :
      IsQuery resolved (.single key (.single "$regex" (.regex regex)))
  | unlike {key text : String} {regex : Regex} (hkey : FieldKey key)
      (hregex : Pattern.compile? text = some regex) :
      IsQuery resolved (.single key (.single "$not" (.single "$regex" (.regex regex))))
  | all {members : List Value} (h : ∀ m ∈ members, IsQuery resolved m) :
      IsQuery resolved (.single "$and" (.array members))
  | any {members : List Value} (h : ∀ m ∈ members, IsQuery resolved m) :
      IsQuery resolved (.single "$or" (.array members))
  | expression {e : Value} (he : IsExpression resolved e) : IsQuery resolved (.single "$expr" e)

/-! ## Derivations of clauses -/

variable {resolved : String → Prop}

theorem isQuery_all [RegexEngine] {qs : List Query} (h : ∀ q ∈ qs, IsQuery resolved q.toValue) :
    IsQuery resolved (Query.all qs).toValue := by
  rw [Query.toValue_all]
  exact .all (List.forall_mem_map.mpr h)

theorem isQuery_any [RegexEngine] {qs : List Query} (h : ∀ q ∈ qs, IsQuery resolved q.toValue) :
    IsQuery resolved (Query.any qs).toValue := by
  rw [Query.toValue_any]
  exact .any (List.forall_mem_map.mpr h)

theorem isQuery_compare [RegexEngine] {key : String}
    {v : Value} (r : Relation) (hkey : FieldKey key) (hv : v.isPlain = true) :
    IsQuery resolved (Query.field key (.compare r v)).toValue := by
  rw [Query.toValue_field]
  cases r with
  | eq => exact .equal hkey hv
  | ne | gt | gte | lt | lte => exact .operator hkey (by decide) hv

theorem isQuery_of_fieldAsks [RegexEngine] {key : String} {op : Operator} {object : Constant}
    {q : Query} (hkey : FieldKey key) (h : FieldAsks key op object q) :
    IsQuery resolved q.toValue := by
  cases h with
  | compare r hv => exact isQuery_compare r hkey hv
  | like hc => exact .like hkey hc
  | unlike hc => exact .unlike hkey hc
  | within hv | without hv => exact .operator hkey (by decide) hv
  | between hl hu =>
      have hlower : IsQuery resolved _ := isQuery_compare .gte hkey hl
      have hupper : IsQuery resolved _ := isQuery_compare .lte hkey hu
      exact isQuery_all (by simp [hlower, hupper])
  | outside hl hu =>
      have hlower : IsQuery resolved _ := isQuery_compare .lt hkey hl
      have hupper : IsQuery resolved _ := isQuery_compare .gt hkey hu
      exact isQuery_any (by simp [hlower, hupper])

theorem isExpression_compare {a b : Argument} (r : Relation)
    (h : IsPair resolved (.array [a.toValue, b.toValue])) :
    IsExpression resolved (Expression.compare r a b).toValue :=
  .compare (by cases r <;> decide) h

theorem isExpression_of_constantsAsk {a b : Constant} {op : Operator} {q : Query}
    (h : ConstantsAsk a op b q) :
    ∃ e, q = .expression e ∧ IsExpression resolved e.toValue := by
  have hpair : ∀ {v u : Value}, v.isPlain = true → u.isPlain = true →
      IsPair resolved (.array [v, u]) := fun hv hu => .pair (.plain hv) (.plain hu)
  cases h with
  | compare r ha hb => exact ⟨_, rfl, isExpression_compare r (hpair ha hb)⟩
  | within ha hb => exact ⟨_, rfl, .within (hpair ha hb)⟩
  | without ha hb => exact ⟨_, rfl, .without (hpair ha hb)⟩
  | between ha hl hu => exact ⟨_, rfl, .between (hpair ha hl) (hpair ha hu)⟩
  | outside ha hl hu => exact ⟨_, rfl, .outside (hpair ha hl) (hpair ha hu)⟩

theorem isQuery_of_asks [RegexEngine] {s : Strategy} {c : Clause} {q : Query} (h : c.Asks s q)
    (hresolved : ∀ t ∈ c.targets, resolved t.key) : IsQuery resolved q.toValue := by
  cases h with
  | field hshape ht hq =>
      exact isQuery_of_fieldAsks (.of_unreserved (Target.key_unreserved ht.unreserved)) hq
  | @fields t u r hshape ht hu =>
      rw [Clause.targets_eq_shape, hshape] at hresolved
      have hpair : IsPair resolved
          (.array [.string (referenceTo t.key), .string (referenceTo u.key)]) :=
        .pair (.reference (hresolved t (by simp))) (.reference (hresolved u (by simp)))
      exact .expression (isExpression_compare r hpair)
  | constants hshape hq =>
      obtain ⟨e, rfl, he⟩ := isExpression_of_constantsAsk hq
      exact .expression he

end Grammar

/-! ## The main statement -/

/-- The document of a converted filter has a derivation in the grammar, in
which references name targets of the filter that resolve. -/
theorem Filter.document_isQuery [RegexEngine] {f : Filter} {s : Strategy} {r : ConversionResult}
    (h : f.convertWith s = .ok r) :
    Grammar.IsQuery (fun key => ∃ t ∈ f.targets, (t.resolve s).outcome = .ok key)
      (.object r.document) := by
  obtain ⟨hasks, -, rfl⟩ := convertWith_eq_ok.mp h
  refine assemble_invariant (P := fun q => Grammar.IsQuery _ q.toValue)
    (fun _ => Grammar.isQuery_all) (fun _ => Grammar.isQuery_any) fun c hc => ?_
  refine Grammar.isQuery_of_asks (hasks c hc) fun t ht => ?_
  have haccepted : t.Accepted s := (hasks c hc).accepted ht
  exact ⟨t, List.mem_flatMap.mpr ⟨c, hc, ht⟩, Target.resolve_outcome_eq_ok.mpr ⟨haccepted, rfl⟩⟩

/-- Segments that begin or end with a hyphen, a constant that is spelled like
an operator, a pattern, a range and a reference. -/
def hyphensAndDollars : Filter :=
  (Filter.ofClause
    ⟨.target ⟨.field "a-", [.field "-b", .index (-1)]⟩, .relation .eq,
      .literal (.array [.string "$where", .null])⟩)
    |>.andGroup ((Filter.ofClause
        ⟨.target ⟨.field "name", []⟩, .unlike, .literal (.string "$or*")⟩).or
      ⟨.target ⟨.field "low", []⟩, .relation .lte, .target ⟨.field "high", []⟩⟩)
    |>.or ⟨.range ⟨.string "$gt", .integer 9⟩, .outside, .target ⟨.field "age", []⟩⟩

def hyphensAndDollarsResult : ConversionResult :=
  ⟨["/a-", "/name", "/low", "/high", "/age"],
    [("$or", .array [
      .object [("$and", .array [
        .object [("a-.-b.-1", .array [.string "$where", .null])],
        .object [("$or", .array [
          .object [("name", .object [("$not", .object [("$regex",
            .regex ⟨"^\\$or.*$", "i"⟩)])])],
          .object [("$expr", .object [("$lte", .array [.string "$low", .string "$high"])])]])]])],
      .object [("$or", .array [
        .object [("age", .object [("$lt", .string "$gt")])],
        .object [("age", .object [("$gt", .integer 9)])]])]])]⟩

theorem Filter.document_isQuery_hyphensAndDollars :
    hyphensAndDollars.convertWith .unrestricted = .ok hyphensAndDollarsResult ∧
      Grammar.IsQuery (fun key => ∃ t ∈ hyphensAndDollars.targets,
          (t.resolve .unrestricted).outcome = .ok key)
        (.object hyphensAndDollarsResult.document) :=
  ⟨rfl, Filter.document_isQuery rfl⟩

end FilterQuery
