import FilterQuery.Proofs.Screening

/-!
# Why a filter is refused

An error carries what it is about: a field, a pointer, a token, the required
fields. `ConvertError.Truthful` says what has to be the case for an error to
be no false accusation, and `convertWith_error_truthful` that no conversion
fails with another one.

The way there follows the checks back from the error. A target is refused for
its field or for a segment (`Target.Refused`), a clause for one of its targets,
as a pattern without one, or for its operator and constants (`Clause.Refused`),
and a filter for a clause or for what it does not refer to
(`convertWith_eq_error`).
-/

namespace FilterQuery

/-! ## Targets -/

/-- Why a target does not resolve. Segments matter only below a field that is
permitted. -/
inductive Target.Refused (s : Strategy) (t : Target) : ConvertError → Prop where
  | denied {fields : List String} (hlist : s.list = .deny fields) (hmem : t.field ∈ fields) :
      Refused s t (.deniedField t.field)
  | unallowed {fields : List String} (hlist : s.list = .allow fields) (hmem : t.field ∉ fields) :
      Refused s t (.unallowedField t.field)
  | reserved (hpermits : s.permits t.field = true) (hreserved : t.isReserved = true) :
      Refused s t (.invalidTarget t.pointer)

/-- A field that is not permitted is on the list of what is denied, or not on
the list of what is allowed, and the error says which. -/
theorem Strategy.breach_cases {s : Strategy} {field : String} (h : s.permits field = false) :
    (∃ fields, s.list = .deny fields ∧ field ∈ fields ∧ s.breach field = .deniedField field) ∨
      ∃ fields, s.list = .allow fields ∧ field ∉ fields ∧
        s.breach field = .unallowedField field := by
  obtain ⟨list, required, mode⟩ := s
  cases list with
  | unrestricted => cases h
  | allow fields => exact Or.inr ⟨fields, rfl, by simpa [permits, FieldList.permits] using h, rfl⟩
  | deny fields => exact Or.inl ⟨fields, rfl, by simpa [permits, FieldList.permits] using h, rfl⟩

theorem Target.resolve_outcome_eq_error {s : Strategy} {t : Target} {e : ConvertError} :
    (t.resolve s).outcome = .error e ↔ t.Refused s e := by
  constructor
  · intro h
    cases hpermits : s.permits t.field with
    | false =>
        rw [resolve_of_breach hpermits] at h
        obtain rfl := Except.error.inj h
        rcases Strategy.breach_cases hpermits with
          ⟨_, hlist, hmem, hbreach⟩ | ⟨_, hlist, hmem, hbreach⟩
        · exact hbreach ▸ .denied hlist hmem
        · exact hbreach ▸ .unallowed hlist hmem
    | true =>
        cases hreserved : t.isReserved with
        | true =>
            rw [resolve_of_reserved hpermits hreserved] at h
            obtain rfl := Except.error.inj h
            exact .reserved hpermits hreserved
        | false =>
            rw [resolve_of_accepted ⟨hpermits, hreserved⟩] at h
            cases h
  · intro h
    cases h with
    | denied hlist hmem =>
        rw [resolve_of_breach (by simp [Strategy.permits, hlist, FieldList.permits, hmem])]
        simp [Strategy.breach, Strategy.isDenyList, hlist]
    | unallowed hlist hmem =>
        rw [resolve_of_breach (by simp [Strategy.permits, hlist, FieldList.permits, hmem])]
        simp [Strategy.breach, Strategy.isDenyList, hlist]
    | reserved hpermits hreserved => rw [resolve_of_reserved hpermits hreserved]

/-! ## Operators and constants -/

/-- Whether an error is about the operator and the constants of a clause and
about nothing else. -/
def ConvertError.isMalformed : ConvertError → Bool
  | .invalidTarget _ | .deniedField _ | .unallowedField _ | .requiredField _ _
  | .patternForLiteral => false
  | .unknownOperator _ | .misplacedRange _ | .notPlain _ _ | .rangeRequired _ | .textRequired _ _
  | .patternTooLarge _ | .emptyTarget | .outOfRange _ => true

/-- A step that blames nothing but operators and constants. -/
def OnlyMalformed {α : Type} (x : Except ConvertError α) : Prop :=
  ∀ e, x = .error e → e.isMalformed = true

namespace OnlyMalformed

variable {α β : Type}

theorem ok (a : α) : OnlyMalformed (.ok a) := fun _ h => nomatch h

theorem error {e : ConvertError} (h : e.isMalformed = true) :
    OnlyMalformed (.error e : Except _ α) :=
  fun _ he => Except.error.inj he ▸ h

theorem bind {x : Except ConvertError α} {next : α → Except ConvertError β} (hx : OnlyMalformed x)
    (hnext : ∀ a, OnlyMalformed (next a)) : OnlyMalformed (x >>= next) := by
  intro e h
  rcases Except.bind_eq_error h with h | ⟨a, -, h⟩
  · exact hx e h
  · exact hnext a e h

end OnlyMalformed

namespace Constant

variable (op : Operator)

theorem plain_onlyMalformed (v : Value) : OnlyMalformed (plain op v) := by
  unfold plain
  split
  · exact .ok v
  · exact .error rfl

theorem plainLiteral_onlyMalformed : ∀ c : Constant, OnlyMalformed (c.plainLiteral op)
  | .literal v => plain_onlyMalformed op v
  | .range _ => .error rfl

theorem plainBounds_onlyMalformed : ∀ c : Constant, OnlyMalformed (c.plainBounds op)
  | .literal _ => .error rfl
  | .range ⟨lower, upper⟩ =>
      (plain_onlyMalformed op lower).bind fun _ =>
        (plain_onlyMalformed op upper).bind fun _ => .ok _

theorem pattern_onlyMalformed [RegexEngine] (c : Constant) : OnlyMalformed (c.pattern op) := by
  refine (c.plainLiteral_onlyMalformed op).bind fun v => ?_
  cases v with
  | string text =>
      cases hregex : Pattern.compile? text with
      | some regex =>
          simp only [hregex]
          exact .ok regex
      | none =>
          simp only [hregex]
          exact .error rfl
  | null | boolean _ | integer _ | float _ | array _ | object _ | regex _ => exact .error rfl

end Constant

namespace Clause

theorem condition_onlyMalformed [RegexEngine] (key : String) (op : Operator) (object : Constant) :
    OnlyMalformed (condition key op object) := by
  cases op with
  | relation r => exact (object.plainLiteral_onlyMalformed _).bind fun _ => .ok _
  | like | unlike => exact (object.pattern_onlyMalformed _).bind fun _ => .ok _
  | between | outside => exact (object.plainBounds_onlyMalformed _).bind fun _ => .ok _
  | within | without => exact (object.plainLiteral_onlyMalformed _).bind fun _ => .ok _
  | other token => exact .error rfl

/-- Constants are compared with each other by every operator with a meaning
but those that take a pattern. -/
theorem constantsQuery_onlyMalformed {op : Operator} (hlike : op ≠ .like) (hunlike : op ≠ .unlike)
    (a b : Constant) : OnlyMalformed (constantsQuery a op b) := by
  cases op with
  | relation r =>
      exact (a.plainLiteral_onlyMalformed _).bind fun _ =>
        (b.plainLiteral_onlyMalformed _).bind fun _ => .ok _
  | between | outside =>
      exact (a.plainLiteral_onlyMalformed _).bind fun _ =>
        (b.plainBounds_onlyMalformed _).bind fun _ => .ok _
  | within | without =>
      exact (a.plainLiteral_onlyMalformed _).bind fun _ =>
        (b.plainLiteral_onlyMalformed _).bind fun _ => .ok _
  | like => exact absurd rfl hlike
  | unlike => exact absurd rfl hunlike
  | other token => exact .error rfl

/-! ## Clauses -/

/-- Why a clause is refused. -/
inductive Refused (s : Strategy) (c : Clause) : ConvertError → Prop where
  | target {t : Target} {e : ConvertError} (hmem : t ∈ c.targets) (ht : t.Refused s e) :
      Refused s c e
  | pattern (hop : c.operator = .like ∨ c.operator = .unlike) (htargets : c.targets = []) :
      Refused s c .patternForLiteral
  | malformed {e : ConvertError} (he : e.isMalformed = true) : Refused s c e

theorem operator_eq_of_constants {c : Clause} {a b : Constant} {op : Operator}
    (h : c.shape = .constantConstant a op b) : c.operator = op := by
  obtain ⟨subject, op', object⟩ := c
  cases subject <;> cases object <;> cases h
  rfl

theorem refused_of_error [RegexEngine] {s : Strategy} {c : Clause} {e : ConvertError}
    (h : (c.toQuery s).outcome = .error e) : c.Refused s e := by
  have htargets := c.targets_eq_shape
  rw [toQuery] at h
  cases hshape : c.shape with
  | targetConstant t op object =>
      simp only [hshape, pathQuery] at h htargets
      split at h
      · obtain rfl := Except.error.inj h
        exact .malformed rfl
      · rw [Trace.bind_outcome] at h
        rcases Except.bind_eq_error h with h | ⟨key, -, h⟩
        · exact .target (by simp [htargets]) (Target.resolve_outcome_eq_error.mp h)
        · exact .malformed (condition_onlyMalformed key op object e h)
  | targetTarget t op u =>
      simp only [hshape, pathsQuery] at h htargets
      rw [Trace.bind_outcome] at h
      rcases Except.bind_eq_error h with h | ⟨left, -, h⟩
      · exact .target (by simp [htargets]) (Target.resolve_outcome_eq_error.mp h)
      rw [Trace.bind_outcome] at h
      rcases Except.bind_eq_error h with h | ⟨right, -, h⟩
      · exact .target (by simp [htargets]) (Target.resolve_outcome_eq_error.mp h)
      split at h
      · cases h
      · obtain rfl := Except.error.inj h
        exact .malformed rfl
  | constantConstant a op b =>
      simp only [hshape, Trace.ofExcept] at h htargets
      have hop := operator_eq_of_constants hshape
      by_cases hpattern : op = .like ∨ op = .unlike
      · rcases hpattern with rfl | rfl
        · obtain rfl := Except.error.inj h
          exact .pattern (Or.inl hop) htargets
        · obtain rfl := Except.error.inj h
          exact .pattern (Or.inr hop) htargets
      · rw [not_or] at hpattern
        exact .malformed (constantsQuery_onlyMalformed hpattern.1 hpattern.2 a b e h)

end Clause

/-! ## Required fields -/

/-- What it is to miss required fields: one of them if all are needed, and
each of them if any will do. -/
def RequireMode.Missed (mode : RequireMode) (required fields : List String) : Prop :=
  match mode with
  | .all => ∃ field ∈ required, field ∉ fields
  | .any => ∀ field ∈ required, field ∉ fields

theorem Strategy.isMetBy_eq_false {s : Strategy} {fields : List String} :
    s.isMetBy fields = false ↔ s.required ≠ [] ∧ s.mode.Missed s.required fields := by
  unfold isMetBy RequireMode.Missed
  cases s.mode with
  | any => simp
  | all =>
      simp only [List.all_eq_false, List.contains_iff_mem]
      refine ⟨fun ⟨field, hfield, hnot⟩ => ⟨List.ne_nil_of_mem hfield, field, hfield, hnot⟩, ?_⟩
      rintro ⟨-, field, hfield, hnot⟩
      exact ⟨field, hfield, hnot⟩

/-- Neither order nor repetition of the fields plays a part. -/
theorem Strategy.isMetBy_congr (s : Strategy) {fields fields' : List String}
    (h : ∀ field, field ∈ fields ↔ field ∈ fields') : s.isMetBy fields = s.isMetBy fields' := by
  have hcontains : fields.contains = fields'.contains := by
    funext field
    rw [Bool.eq_iff_iff, List.contains_iff_mem, List.contains_iff_mem]
    exact h field
  rw [isMetBy, isMetBy, hcontains]

namespace Filter

theorem mem_reported (f : Filter) (field : String) :
    field ∈ Session.start.addAll f.mentionedFields ↔ field ∈ f.mentionedFields := by
  simp [Session.mem_addAll, Session.start]

/-! ## Conversions -/

/-- A conversion fails with the first refusal of a clause, or else with the
required fields. -/
theorem convertWith_eq_error [RegexEngine] {f : Filter} {s : Strategy} {e : ConvertError} :
    f.convertWith s = .error e ↔
      f.clauses.findSome? (Clause.refusal? s) = some e ∨
        (∀ c ∈ f.clauses, c.Asks s (c.query s)) ∧ s.isMetBy f.mentionedFields = false ∧
          e = .requiredField s.required s.mode := by
  cases hrefused : f.clauses.findSome? (Clause.refusal? s) with
  | some d =>
      have hnot : ¬∀ c ∈ f.clauses, c.Asks s (c.query s) := by
        intro hasks
        obtain ⟨c, hc, hd⟩ := List.exists_of_findSome?_eq_some hrefused
        rw [Clause.refusal?_eq_none.mpr (hasks c hc)] at hd
        cases hd
      simp [convertWith_of_refused hrefused, hnot]
  | none =>
      have hasks : ∀ c ∈ f.clauses, c.Asks s (c.query s) := fun c hc =>
        Clause.refusal?_eq_none.mp (List.findSome?_eq_none_iff.mp hrefused c hc)
      have hmet := s.isMetBy_congr (mem_reported f)
      rw [convertWith_of_asks hasks, Session.finish_eq, ← mentionedFields, hmet]
      cases s.isMetBy f.mentionedFields with
      | true => simp
      | false =>
          rw [if_neg Bool.false_ne_true]
          constructor
          · intro h
            exact Or.inr ⟨hasks, rfl, (Except.error.inj h).symm⟩
          · rintro (h | ⟨-, -, rfl⟩)
            · cases h
            · rfl

end Filter

/-- What an error says about the filter and the strategy it is blamed on. -/
def ConvertError.Truthful [RegexEngine] (f : Filter) (s : Strategy) : ConvertError → Prop
  | .deniedField field =>
      (∃ denied, s.list = .deny denied ∧ field ∈ denied) ∧ ∃ t ∈ f.targets, t.field = field
  | .unallowedField field =>
      (∃ allowed, s.list = .allow allowed ∧ field ∉ allowed) ∧ ∃ t ∈ f.targets, t.field = field
  | .invalidTarget pointer =>
      ∃ t ∈ f.targets, t.pointer = pointer ∧ (∃ x ∈ t.texts, isReserved x = true) ∧
        s.permits t.field = true
  | .requiredField fields mode =>
      fields = s.required ∧ mode = s.mode ∧ fields ≠ [] ∧
        (∀ c ∈ f.clauses, ∃ d, c.fragment s = .ok d) ∧ mode.Missed fields f.mentionedFields
  | .patternForLiteral =>
      ∃ c ∈ f.clauses, (c.operator = .like ∨ c.operator = .unlike) ∧ c.targets = []
  | e => ∃ c ∈ f.clauses, c.fragment s = .error e

namespace ConvertError

variable {f : Filter} {s : Strategy}

theorem truthful_of_target [RegexEngine] {t : Target} {e : ConvertError} (ht : t ∈ f.targets)
    (h : t.Refused s e) : e.Truthful f s := by
  cases h with
  | denied hlist hmem => exact ⟨⟨_, hlist, hmem⟩, t, ht, rfl⟩
  | unallowed hlist hmem => exact ⟨⟨_, hlist, hmem⟩, t, ht, rfl⟩
  | reserved hpermits hreserved =>
      exact ⟨t, ht, rfl, List.any_eq_true.mp hreserved, hpermits⟩

theorem truthful_of_malformed [RegexEngine] {c : Clause} {e : ConvertError} (hc : c ∈ f.clauses)
    (he : e.isMalformed = true) (h : c.fragment s = .error e) : e.Truthful f s := by
  cases e with
  | invalidTarget _ | deniedField _ | unallowedField _ | requiredField _ _ | patternForLiteral =>
      cases he
  | unknownOperator _ | misplacedRange _ | notPlain _ _ | rangeRequired _ | textRequired _ _
  | patternTooLarge _ | emptyTarget | outOfRange _ => exact ⟨c, hc, h⟩

theorem truthful_of_clause [RegexEngine] {c : Clause} {e : ConvertError} (hc : c ∈ f.clauses)
    (h : c.refusal? s = some e) : e.Truthful f s := by
  have hrefused := Clause.refused_of_error (Clause.refusal?_eq_some.mp h)
  cases hrefused with
  | target hmem ht => exact truthful_of_target (List.mem_flatMap.mpr ⟨c, hc, hmem⟩) ht
  | pattern hop htargets => exact ⟨c, hc, hop, htargets⟩
  | malformed he =>
      refine truthful_of_malformed hc he ?_
      rw [Clause.fragment_eq_settle, h, settle_some]

end ConvertError

namespace Filter

/-- Errors tell the truth: a field that is named is in the filter and not
permitted, a pointer is that of a target with a reserved segment, required
fields are those of the strategy and are missed by clauses that can all be
translated, and every other error is that of a clause on its own. -/
theorem convertWith_error_truthful [RegexEngine] {f : Filter} {s : Strategy} {e : ConvertError}
    (h : f.convertWith s = .error e) : e.Truthful f s := by
  rcases convertWith_eq_error.mp h with hrefused | ⟨hasks, hmet, rfl⟩
  · obtain ⟨c, hc, hc'⟩ := List.exists_of_findSome?_eq_some hrefused
    exact ConvertError.truthful_of_clause hc hc'
  · obtain ⟨hne, hmissed⟩ := Strategy.isMetBy_eq_false.mp hmet
    refine ⟨rfl, rfl, hne, fun c hc => ⟨(c.query s).toDocument, ?_⟩, hmissed⟩
    rw [Clause.fragment_eq_settle, Clause.refusal?_eq_none.mpr (hasks c hc), settle_none]

/-- `/baz` stands behind its constant, and so does the target of the clause
that is added last: that one is refused as the clause it is read as, with
`lt` for `gt`. -/
theorem convertWith_error_truthful_barTwice :
    (barTwice.convertWith ⟨.deny ["/baz"], [], .any⟩ = .error (.deniedField "/baz") ∧
        (ConvertError.deniedField "/baz").Truthful barTwice ⟨.deny ["/baz"], [], .any⟩) ∧
      (barTwice.convertWith ⟨.unrestricted, ["/id", "/foo"], .all⟩
          = .error (.requiredField ["/id", "/foo"] .all) ∧
        (ConvertError.requiredField ["/id", "/foo"] .all).Truthful barTwice
          ⟨.unrestricted, ["/id", "/foo"], .all⟩) ∧
      (ConvertError.misplacedRange "lt").Truthful
        (barTwice.and
          ⟨.range ⟨.integer 1, .integer 2⟩, .relation .gt, .target ⟨.field "baz", []⟩⟩)
        .unrestricted := by
  refine ⟨⟨rfl, ?_⟩, ⟨rfl, ?_⟩, ?_⟩
  · exact convertWith_error_truthful (f := barTwice) rfl
  · exact convertWith_error_truthful (f := barTwice) rfl
  · exact convertWith_error_truthful rfl

end Filter

end FilterQuery
