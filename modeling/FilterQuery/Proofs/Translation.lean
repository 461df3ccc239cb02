import FilterQuery.Clause.Query
import FilterQuery.Proofs.Resolution
import FilterQuery.Proofs.Spelling

/-!
# What a clause is translated to

The translation of a clause as a table. `Clause.Asks s c q` says that the
clause `c` asks the query `q` under the strategy `s`; it has a rule for each
shape of clause, and for the shapes with a constant a rule for each operator
(`FieldAsks`, `ConstantsAsk`). A rule names the operands it applies to, so
what is not in the table is refused.

`Clause.toQuery_outcome_eq_ok` is the only place where the translation is
unfolded: a clause is accepted exactly with the queries of the table. From
the table the views of `Spelling` follow for the fragment of one clause:
which keys it adds to the fields of a document (`mem_dottedKeys`) and which
texts to its expressions (`mem_expressionTexts`).
-/

namespace FilterQuery

/-! ## Outcomes of steps -/

theorem Except.bind_eq_ok_iff {ε α β : Type} {x : Except ε α} {f : α → Except ε β} {b : β} :
    (x >>= f) = .ok b ↔ ∃ a, x = .ok a ∧ f a = .ok b := by
  cases x with
  | error e =>
      constructor
      · intro h
        cases h
      · rintro ⟨a, ha, -⟩
        cases ha
  | ok a =>
      constructor
      · intro h
        exact ⟨a, rfl, h⟩
      · rintro ⟨a', ha, hb⟩
        cases ha
        exact hb

theorem Except.bind_eq_error {ε α β : Type} {x : Except ε α} {f : α → Except ε β} {e : ε}
    (h : (x >>= f) = .error e) : x = .error e ∨ ∃ a, x = .ok a ∧ f a = .error e := by
  cases x with
  | error d =>
    cases h
    exact Or.inl rfl
  | ok a => exact Or.inr ⟨a, rfl, h⟩

theorem Except.map_eq_ok_iff {ε α β : Type} {x : Except ε α} {f : α → β} {b : β} :
    x.map f = .ok b ↔ ∃ a, x = .ok a ∧ f a = b := by
  cases x with
  | error e =>
      constructor
      · intro h
        cases h
      · rintro ⟨a, ha, -⟩
        cases ha
  | ok a => simp [Except.map]

theorem Trace.bind_outcome {α β : Type} (t : Trace α) (next : α → Trace β) :
    (t >>= next).outcome = t.outcome >>= fun a => (next a).outcome := by
  rw [Trace.bind_eq_andThen]
  cases h : t.outcome with
  | error e =>
      rw [Trace.andThen_of_error h]
      rfl
  | ok a =>
      rw [Trace.andThen_of_ok h]
      rfl

theorem Trace.bind_outcome_eq_ok {α β : Type} {t : Trace α} {next : α → Trace β} {b : β} :
    (t >>= next).outcome = .ok b ↔ ∃ a, t.outcome = .ok a ∧ (next a).outcome = .ok b := by
  rw [Trace.bind_outcome, Except.bind_eq_ok_iff]

/-! ## Constants that pass -/

namespace Constant

theorem plain_eq_ok {op : Operator} {v w : Value} :
    plain op v = .ok w ↔ v.isPlain = true ∧ w = v := by
  unfold plain
  by_cases hv : v.isPlain = true
  · rw [if_pos hv]
    exact ⟨fun h => ⟨hv, (Except.ok.inj h).symm⟩, fun ⟨_, h⟩ => h ▸ rfl⟩
  · rw [if_neg hv]
    exact ⟨fun h => (nomatch h), fun ⟨h, _⟩ => absurd h hv⟩

section Bind

variable {α : Type} {op : Operator} {c : Constant} {a : α}

/-- What goes on after a constant was taken as a literal. -/
theorem bind_plainLiteral_eq_ok {next : Value → Except ConvertError α} :
    (c.plainLiteral op >>= next) = .ok a ↔
      ∃ v, c = .literal v ∧ v.isPlain = true ∧ next v = .ok a := by
  rw [Except.bind_eq_ok_iff]
  cases c with
  | literal w =>
      simp only [plainLiteral, plain_eq_ok]
      constructor
      · rintro ⟨v, ⟨hw, rfl⟩, hnext⟩
        exact ⟨v, rfl, hw, hnext⟩
      · rintro ⟨v, hc, hv, hnext⟩
        cases hc
        exact ⟨w, ⟨hv, rfl⟩, hnext⟩
  | range b =>
      constructor
      · rintro ⟨v, hv, -⟩
        cases hv
      · rintro ⟨v, hc, -⟩
        cases hc

/-- What goes on after a constant was taken as a range. -/
theorem bind_plainBounds_eq_ok {next : Range → Except ConvertError α} :
    (c.plainBounds op >>= next) = .ok a ↔
      ∃ l u, c = .range ⟨l, u⟩ ∧ l.isPlain = true ∧ u.isPlain = true ∧ next ⟨l, u⟩ = .ok a := by
  rw [Except.bind_eq_ok_iff]
  cases c with
  | literal w =>
      constructor
      · rintro ⟨b, hb, -⟩
        cases hb
      · rintro ⟨l, u, hc, -⟩
        cases hc
  | range bounds =>
      obtain ⟨lower, upper⟩ := bounds
      simp only [plainBounds, Except.bind_eq_ok_iff, plain_eq_ok]
      constructor
      · rintro ⟨b, ⟨l, ⟨hl, rfl⟩, u, ⟨hu, rfl⟩, hb⟩, hnext⟩
        cases hb
        exact ⟨l, u, rfl, hl, hu, hnext⟩
      · rintro ⟨l, u, hc, hl, hu, hnext⟩
        cases hc
        exact ⟨⟨lower, upper⟩, ⟨lower, ⟨hl, rfl⟩, upper, ⟨hu, rfl⟩, rfl⟩, hnext⟩

/-- What goes on after a constant was taken as a pattern. -/
theorem bind_pattern_eq_ok [RegexEngine] {next : Regex → Except ConvertError α} :
    (c.pattern op >>= next) = .ok a ↔
      ∃ text regex, c = .literal (.string text) ∧ Pattern.compile? text = some regex ∧
        next regex = .ok a := by
  rw [Except.bind_eq_ok_iff]
  constructor
  · rintro ⟨regex, hregex, hnext⟩
    obtain ⟨v, rfl, -, hv⟩ := bind_plainLiteral_eq_ok.mp hregex
    cases v with
    | string text =>
        cases hc : Pattern.compile? text with
        | none =>
            simp only [hc] at hv
            cases hv
        | some compiled =>
            simp only [hc] at hv
            cases hv
            exact ⟨text, regex, rfl, hc, hnext⟩
    | null | boolean _ | integer _ | float _ | array _ | object _ | regex _ => cases hv
  · rintro ⟨text, regex, rfl, hc, hnext⟩
    refine ⟨regex, bind_plainLiteral_eq_ok.mpr ⟨.string text, rfl, rfl, ?_⟩, hnext⟩
    simp only [hc]
    rfl

end Bind

end Constant

/-! ## The tables

One rule for an operator and the constants it takes. Literals and bounds
are plain, and a pattern is a text that compiles. -/

/-- What an operator and a constant ask of the field with a key. -/
inductive FieldAsks [RegexEngine] (key : String) : Operator → Constant → Query → Prop
  | compare (r : Relation) {v : Value} (hv : v.isPlain = true) :
      FieldAsks key (.relation r) (.literal v) (.field key (.compare r v))
  | like {text : String} {regex : Regex} (hc : Pattern.compile? text = some regex) :
      FieldAsks key .like (.literal (.string text)) (.field key (.like regex))
  | unlike {text : String} {regex : Regex} (hc : Pattern.compile? text = some regex) :
      FieldAsks key .unlike (.literal (.string text)) (.field key (.unlike regex))
  | between {l u : Value} (hl : l.isPlain = true) (hu : u.isPlain = true) :
      FieldAsks key .between (.range ⟨l, u⟩)
        (.all [.field key (.compare .gte l), .field key (.compare .lte u)])
  | outside {l u : Value} (hl : l.isPlain = true) (hu : u.isPlain = true) :
      FieldAsks key .outside (.range ⟨l, u⟩)
        (.any [.field key (.compare .lt l), .field key (.compare .gt u)])
  | within {v : Value} (hv : v.isPlain = true) :
      FieldAsks key .within (.literal v) (.field key (.within v))
  | without {v : Value} (hv : v.isPlain = true) :
      FieldAsks key .without (.literal v) (.field key (.without v))

/-- What two constants are asked under an operator. -/
inductive ConstantsAsk : Constant → Operator → Constant → Query → Prop
  | compare (r : Relation) {a b : Value} (ha : a.isPlain = true) (hb : b.isPlain = true) :
      ConstantsAsk (.literal a) (.relation r) (.literal b)
        (.expression (.compare r (.constant a) (.constant b)))
  | between {a l u : Value} (ha : a.isPlain = true) (hl : l.isPlain = true)
      (hu : u.isPlain = true) :
      ConstantsAsk (.literal a) .between (.range ⟨l, u⟩)
        (.expression (.between (.constant a) (.constant l) (.constant u)))
  | outside {a l u : Value} (ha : a.isPlain = true) (hl : l.isPlain = true)
      (hu : u.isPlain = true) :
      ConstantsAsk (.literal a) .outside (.range ⟨l, u⟩)
        (.expression (.outside (.constant a) (.constant l) (.constant u)))
  | within {a b : Value} (ha : a.isPlain = true) (hb : b.isPlain = true) :
      ConstantsAsk (.literal a) .within (.literal b)
        (.expression (.within (.constant a) (.constant b)))
  | without {a b : Value} (ha : a.isPlain = true) (hb : b.isPlain = true) :
      ConstantsAsk (.literal a) .without (.literal b)
        (.expression (.without (.constant a) (.constant b)))

theorem FieldAsks.isOther_eq_false [RegexEngine] {key : String} {op : Operator}
    {object : Constant} {q : Query} (h : FieldAsks key op object q) : op.isOther = false := by
  cases h <;> rfl

/-- What a clause asks under a strategy. -/
inductive Clause.Asks [RegexEngine] (s : Strategy) (c : Clause) : Query → Prop
  | field {t : Target} {op : Operator} {object : Constant} {q : Query}
      (hshape : c.shape = .targetConstant t op object) (ht : t.Accepted s)
      (hq : FieldAsks t.key op object q) : Asks s c q
  | fields {t u : Target} {r : Relation} (hshape : c.shape = .targetTarget t (.relation r) u)
      (ht : t.Accepted s) (hu : u.Accepted s) :
      Asks s c (.expression (.compare r (.reference t.key) (.reference u.key)))
  | constants {a b : Constant} {op : Operator} {q : Query}
      (hshape : c.shape = .constantConstant a op b) (hq : ConstantsAsk a op b q) : Asks s c q

namespace Clause

theorem condition_eq_ok [RegexEngine] {key : String} {op : Operator} {object : Constant}
    {q : Query} :
    condition key op object = .ok q ↔ FieldAsks key op object q := by
  constructor
  · intro h
    cases op with
    | relation r =>
        obtain ⟨v, rfl, hv, hq⟩ := Constant.bind_plainLiteral_eq_ok.mp h
        cases hq
        exact .compare r hv
    | like =>
        obtain ⟨text, regex, rfl, hc, hq⟩ := Constant.bind_pattern_eq_ok.mp h
        cases hq
        exact .like hc
    | unlike =>
        obtain ⟨text, regex, rfl, hc, hq⟩ := Constant.bind_pattern_eq_ok.mp h
        cases hq
        exact .unlike hc
    | between =>
        obtain ⟨l, u, rfl, hl, hu, hq⟩ := Constant.bind_plainBounds_eq_ok.mp h
        cases hq
        exact .between hl hu
    | outside =>
        obtain ⟨l, u, rfl, hl, hu, hq⟩ := Constant.bind_plainBounds_eq_ok.mp h
        cases hq
        exact .outside hl hu
    | within =>
        obtain ⟨v, rfl, hv, hq⟩ := Constant.bind_plainLiteral_eq_ok.mp h
        cases hq
        exact .within hv
    | without =>
        obtain ⟨v, rfl, hv, hq⟩ := Constant.bind_plainLiteral_eq_ok.mp h
        cases hq
        exact .without hv
    | other token => cases h
  · intro h
    cases h with
    | compare r hv | within hv | without hv =>
        exact Constant.bind_plainLiteral_eq_ok.mpr ⟨_, rfl, hv, rfl⟩
    | like hc | unlike hc => exact Constant.bind_pattern_eq_ok.mpr ⟨_, _, rfl, hc, rfl⟩
    | between hl hu | outside hl hu =>
        exact Constant.bind_plainBounds_eq_ok.mpr ⟨_, _, rfl, hl, hu, rfl⟩

theorem constantsQuery_eq_ok {a b : Constant} {op : Operator} {q : Query} :
    constantsQuery a op b = .ok q ↔ ConstantsAsk a op b q := by
  constructor
  · intro h
    cases op with
    | relation r =>
        obtain ⟨v, rfl, hv, h⟩ := Constant.bind_plainLiteral_eq_ok.mp h
        obtain ⟨w, rfl, hw, hq⟩ := Constant.bind_plainLiteral_eq_ok.mp h
        cases hq
        exact .compare r hv hw
    | between =>
        obtain ⟨v, rfl, hv, h⟩ := Constant.bind_plainLiteral_eq_ok.mp h
        obtain ⟨l, u, rfl, hl, hu, hq⟩ := Constant.bind_plainBounds_eq_ok.mp h
        cases hq
        exact .between hv hl hu
    | outside =>
        obtain ⟨v, rfl, hv, h⟩ := Constant.bind_plainLiteral_eq_ok.mp h
        obtain ⟨l, u, rfl, hl, hu, hq⟩ := Constant.bind_plainBounds_eq_ok.mp h
        cases hq
        exact .outside hv hl hu
    | within =>
        obtain ⟨v, rfl, hv, h⟩ := Constant.bind_plainLiteral_eq_ok.mp h
        obtain ⟨w, rfl, hw, hq⟩ := Constant.bind_plainLiteral_eq_ok.mp h
        cases hq
        exact .within hv hw
    | without =>
        obtain ⟨v, rfl, hv, h⟩ := Constant.bind_plainLiteral_eq_ok.mp h
        obtain ⟨w, rfl, hw, hq⟩ := Constant.bind_plainLiteral_eq_ok.mp h
        cases hq
        exact .without hv hw
    | like | unlike | other token => cases h
  · intro h
    cases h with
    | compare r ha hb | within ha hb | without ha hb =>
        exact Constant.bind_plainLiteral_eq_ok.mpr ⟨_, rfl, ha,
          Constant.bind_plainLiteral_eq_ok.mpr ⟨_, rfl, hb, rfl⟩⟩
    | between ha hl hu | outside ha hl hu =>
        exact Constant.bind_plainLiteral_eq_ok.mpr ⟨_, rfl, ha,
          Constant.bind_plainBounds_eq_ok.mpr ⟨_, _, rfl, hl, hu, rfl⟩⟩

theorem pathQuery_of_accepted [RegexEngine] {s : Strategy} {t : Target} {op : Operator}
    {object : Constant} {q : Query} (ht : t.Accepted s) (hq : FieldAsks t.key op object q) :
    pathQuery s t op object = ⟨[t.field], .ok q⟩ := by
  rw [pathQuery, hq.isOther_eq_false, Target.resolve_of_accepted ht, if_neg Bool.false_ne_true,
    Trace.bind_eq_andThen, Trace.andThen_of_ok rfl, condition_eq_ok.mpr hq]
  rfl

theorem pathQuery_of_refused [RegexEngine] {s : Strategy} {t : Target} {op : Operator}
    {e : ConvertError} (hop : op.isOther = false) (ht : t.resolve s = ⟨[], .error e⟩) (object : Constant) :
    pathQuery s t op object = ⟨[], .error e⟩ := by
  rw [pathQuery, hop, if_neg Bool.false_ne_true, ht]
  rfl

/-- The trace of a clause that is accepted: its targets are recorded in
reading order. -/
theorem Asks.toQuery_eq [RegexEngine] {s : Strategy} {c : Clause} {q : Query} (h : c.Asks s q) :
    c.toQuery s = ⟨c.targets.map Target.field, .ok q⟩ := by
  obtain ⟨subject, op, object⟩ := c
  cases h with
  | field hshape ht hq =>
      have hquery := pathQuery_of_accepted ht hq
      rw [toQuery, hshape]
      cases subject <;> cases object <;> cases hshape <;> exact hquery
  | @fields t u r hshape ht hu =>
      rw [toQuery, hshape]
      cases subject <;> cases object <;> cases hshape
      simp only [pathsQuery, Target.resolve_of_accepted ht, Target.resolve_of_accepted hu]
      rfl
  | @constants a b op' _ hshape hq =>
      rw [toQuery, hshape]
      cases subject <;> cases object <;> cases hshape
      simp only [Trace.ofExcept, constantsQuery_eq_ok.mpr hq]
      rfl

/-- A clause is accepted exactly with the queries of the table. -/
theorem toQuery_outcome_eq_ok [RegexEngine] {s : Strategy} {c : Clause} {q : Query} :
    (c.toQuery s).outcome = .ok q ↔ c.Asks s q := by
  constructor
  · intro h
    rw [toQuery] at h
    cases hshape : c.shape with
    | targetConstant t op object =>
        simp only [hshape, pathQuery] at h
        split at h
        · cases h
        · obtain ⟨key, hkey, hq⟩ := Trace.bind_outcome_eq_ok.mp h
          obtain ⟨ht, rfl⟩ := Target.resolve_outcome_eq_ok.mp hkey
          exact .field hshape ht (condition_eq_ok.mp hq)
    | targetTarget t op u =>
        simp only [hshape, pathsQuery] at h
        obtain ⟨left, hleft, h⟩ := Trace.bind_outcome_eq_ok.mp h
        obtain ⟨right, hright, hq⟩ := Trace.bind_outcome_eq_ok.mp h
        obtain ⟨ht, rfl⟩ := Target.resolve_outcome_eq_ok.mp hleft
        obtain ⟨hu, rfl⟩ := Target.resolve_outcome_eq_ok.mp hright
        cases op with
        | relation r =>
            cases hq
            exact .fields hshape ht hu
        | like | unlike | between | outside | within | without | other token => cases hq
    | constantConstant a op b =>
        simp only [hshape, Trace.ofExcept] at h
        exact .constants hshape (constantsQuery_eq_ok.mp h)
  · intro h
    rw [h.toQuery_eq]

end Clause

/-! ## Which targets and constants a clause spells

By its shape a clause puts a target into a document either as a key or as a
reference, and only a clause without targets puts constants beside
references. -/

def Constant.values : Constant → List Value
  | .literal v => [v]
  | .range ⟨lower, upper⟩ => [lower, upper]

namespace FieldAsks

variable {key : String} {op : Operator} {object : Constant} {q : Query}

/-- What a view that sees through connectives shows of each condition on the
field, it shows of all that is asked of the field. -/
theorem mem_view [RegexEngine] {β : Type} {view : Query → List β} (hview : Query.SeesThrough view)
    {shown : List β} (hfield : ∀ cond : Condition, cond.Plain → view (.field key cond) = shown)
    (h : FieldAsks key op object q) {b : β} : b ∈ view q ↔ b ∈ shown := by
  cases h with
  | compare r hv | within hv | without hv =>
      rw [hfield]
      exact hv
  | like hc | unlike hc =>
      rw [hfield]
      trivial
  | @between l u hl hu =>
      have hlower : view (.field key (.compare .gte l)) = shown := hfield _ hl
      have hupper : view (.field key (.compare .lte u)) = shown := hfield _ hu
      simp [hview.all, hlower, hupper]
  | @outside l u hl hu =>
      have hlower : view (.field key (.compare .lt l)) = shown := hfield _ hl
      have hupper : view (.field key (.compare .gt u)) = shown := hfield _ hu
      simp [hview.any, hlower, hupper]

theorem mem_dottedKeys [RegexEngine] (hkey : '$' ∉ key.toList) (h : FieldAsks key op object q)
    {k : String} :
    k ∈ q.toValue.dottedKeys ↔ k = key := by
  have hshown := h.mem_view Query.dottedKeys_seesThrough (b := k)
    fun cond hc => Query.dottedKeys_field hkey hc
  rw [hshown, List.mem_singleton]

theorem notMem_expressionTexts [RegexEngine]
    (hkey : '$' ∉ key.toList) (h : FieldAsks key op object q) {x : String} :
    x ∉ q.toValue.expressionTexts := by
  have hshown := h.mem_view Query.expressionTexts_seesThrough (b := x)
    fun cond hc => Query.expressionTexts_field hkey hc
  rw [hshown]
  exact List.not_mem_nil

end FieldAsks

/-- Constants that are compared with each other stand in one expression, and
no text but theirs stands there. -/
theorem ConstantsAsk.arguments {a b : Constant} {op : Operator} {q : Query}
    (h : ConstantsAsk a op b q) :
    ∃ e, q = .expression e ∧ (∀ x ∈ e.arguments, x.Plain) ∧
      ∀ text, (text ∈ e.arguments.flatMap fun x => x.toValue.texts) ↔
        text ∈ (a.values ++ b.values).flatMap Value.texts := by
  cases h with
  | compare r ha hb | within ha hb | without ha hb =>
      refine ⟨_, rfl, by simp [Expression.arguments, Argument.Plain, ha, hb], fun text => ?_⟩
      simp [Expression.arguments, Argument.toValue, Constant.values]
  | between ha hl hu | outside ha hl hu =>
      refine ⟨_, rfl, by simp [Expression.arguments, Argument.Plain, ha, hl, hu], fun text => ?_⟩
      -- the subject is spelled twice, once for each bound
      simp only [Expression.arguments, Argument.toValue, Constant.values, List.flatMap_cons,
        List.flatMap_nil, List.mem_append, List.cons_append, List.nil_append, List.append_nil]
      grind

namespace Clause

/-- The target that a clause compares with a constant. -/
def addressedTargets (c : Clause) : List Target :=
  match c.shape with
  | .targetConstant t _ _ => [t]
  | .targetTarget _ _ _ | .constantConstant _ _ _ => []

/-- The targets that a clause compares with each other. -/
def comparedTargets (c : Clause) : List Target :=
  match c.shape with
  | .targetTarget t _ u => [t, u]
  | .targetConstant _ _ _ | .constantConstant _ _ _ => []

/-- The texts at any depth of the constants that a clause compares with each
other. -/
def comparedTexts (c : Clause) : List String :=
  match c.shape with
  | .constantConstant a _ b => (a.values ++ b.values).flatMap Value.texts
  | .targetConstant _ _ _ | .targetTarget _ _ _ => []

theorem targets_eq (c : Clause) : c.targets = c.addressedTargets ++ c.comparedTargets := by
  obtain ⟨subject, op, object⟩ := c
  cases subject <;> cases object <;> rfl

/-- The targets of a clause, the subject first, once its shape is known. -/
theorem targets_eq_shape (c : Clause) :
    c.targets = match c.shape with
      | .targetConstant t _ _ => [t]
      | .targetTarget t _ u => [t, u]
      | .constantConstant _ _ _ => [] := by
  obtain ⟨subject, op, object⟩ := c
  cases subject <;> cases object <;> rfl

namespace Asks

variable {s : Strategy} {c : Clause} {q : Query}

theorem accepted [RegexEngine] (h : c.Asks s q) {t : Target} (ht : t ∈ c.targets) :
    t.Accepted s := by
  rw [targets_eq, addressedTargets, comparedTargets] at ht
  cases h with
  | field hshape hacc hq =>
      simp only [hshape, List.append_nil, List.mem_singleton] at ht
      exact ht ▸ hacc
  | fields hshape hacc hacc' =>
      simp only [hshape, List.nil_append, List.mem_cons, List.not_mem_nil, or_false] at ht
      rcases ht with rfl | rfl
      · exact hacc
      · exact hacc'
  | constants hshape hq =>
      simp only [hshape, List.append_nil, List.not_mem_nil] at ht

/-- The key of a target against a constant is spelled, once for each
comparison, and nothing but that is spelled as a field. -/
theorem mem_dottedKeys [RegexEngine] (h : c.Asks s q) {k : String} :
    k ∈ q.toValue.dottedKeys ↔ ∃ t ∈ c.addressedTargets, k = t.key := by
  rw [addressedTargets]
  cases h with
  | field hshape hacc hq =>
      simp only [hshape, hq.mem_dottedKeys (Target.dollar_notMem_key hacc.unreserved),
        List.mem_singleton, exists_eq_left]
  | fields hshape hacc hacc' =>
      rw [Query.dottedKeys_expression (by simp [Expression.arguments, Argument.Plain])]
      simp [hshape]
  | constants hshape hq =>
      obtain ⟨x, rfl, hplain, -⟩ := hq.arguments
      simp [hshape, Query.dottedKeys_expression hplain]

/-- The texts inside the expressions of a clause are its references and the
texts of the constants it compares with each other. -/
theorem mem_expressionTexts [RegexEngine] (h : c.Asks s q) {x : String} :
    x ∈ q.toValue.expressionTexts ↔
      (∃ t ∈ c.comparedTargets, x = referenceTo t.key) ∨ x ∈ c.comparedTexts := by
  rw [comparedTargets, comparedTexts]
  cases h with
  | field hshape hacc hq =>
      simp [hshape, hq.notMem_expressionTexts (Target.dollar_notMem_key hacc.unreserved)]
  | fields hshape hacc hacc' =>
      rw [Query.expressionTexts_expression (by simp [Expression.arguments, Argument.Plain])]
      simp [hshape, Expression.arguments, Argument.toValue]
  | constants hshape hq =>
      obtain ⟨e, rfl, hplain, htexts⟩ := hq.arguments
      simp [hshape, Query.expressionTexts_expression hplain, htexts]

end Asks

end Clause

end FilterQuery
