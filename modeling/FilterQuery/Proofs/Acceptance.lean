import FilterQuery.Proofs.CallSequences

/-!
# Which clauses are translated

A clause is translated if its operands are of kinds that its operator takes,
its targets may be referred to and its constants are plain.
`Clause.Translatable` says so from the two sides of the clause as they are
written and from nothing that the translation finds out on its way: it does
not turn the clause around, and what is plain it says of every part of a
value (`Value.Plain`).

Every shape of clause has its own checks, in its own order, and nothing else
stops a clause: `translates_iff` is an equivalence, in every session.
-/

namespace FilterQuery

/-! ## Plain values -/

namespace Value

/-- Whether a value may stand in a query, the values it holds apart. -/
def isData : Value → Bool
  | .float x => x.isFinite
  | .object _ | .regex _ => false
  | .null | .boolean _ | .integer _ | .string _ | .array _ => true

/-- Every part of a value, at any depth, may stand in a query. -/
def Plain (v : Value) : Prop := ∀ part ∈ v.parts, part.isData = true

mutual

theorem isPlain_iff : ∀ v : Value, v.isPlain = true ↔ v.Plain
  | .null | .boolean _ | .integer _ | .float _ | .string _ | .regex _ => by
      simp [isPlain, Plain, parts, isData]
  | .object _ => by simp [isPlain, Plain, parts, isData]
  | .array items => by
      have hitems : (∀ part ∈ items.flatMap parts, part.isData = true) ↔
          ∀ item ∈ items, item.Plain := by
        simp only [List.mem_flatMap, Plain]
        grind
      rw [isPlain, arePlain_iff items, Plain, parts, partsOfItems_eq, List.forall_mem_cons, hitems]
      simp [isData]

theorem arePlain_iff : ∀ items : List Value,
    arePlain items = true ↔ ∀ item ∈ items, item.Plain
  | [] => by simp [arePlain]
  | item :: rest => by
      rw [arePlain, Bool.and_eq_true, isPlain_iff item, arePlain_iff rest, List.forall_mem_cons]

end

end Value

/-! ## Operators and constants -/

namespace Constant

/-- A plain literal. -/
def IsData : Constant → Prop
  | .literal v => v.Plain
  | .range _ => False

/-- A range with plain bounds. -/
def IsBounds : Constant → Prop
  | .literal _ => False
  | .range bounds => bounds.lower.Plain ∧ bounds.upper.Plain

/-- A literal text that is a pattern. -/
def IsPattern [RegexEngine] : Constant → Prop
  | .literal (.string text) => (Pattern.compile? text).isSome = true
  | .literal _ | .range _ => False

theorem isData_iff {a : Constant} : a.IsData ↔ ∃ v, a = .literal v ∧ v.isPlain = true := by
  cases a with
  | literal v => simp [IsData, Value.isPlain_iff]
  | range bounds => simp [IsData]

theorem isBounds_iff {a : Constant} :
    a.IsBounds ↔ ∃ l u, a = .range ⟨l, u⟩ ∧ l.isPlain = true ∧ u.isPlain = true := by
  cases a with
  | literal v => simp [IsBounds]
  | range bounds =>
      obtain ⟨l, u⟩ := bounds
      simp only [IsBounds, Value.isPlain_iff]
      constructor
      · rintro ⟨hl, hu⟩
        exact ⟨l, u, rfl, hl, hu⟩
      · rintro ⟨l', u', heq, hl, hu⟩
        cases heq
        exact ⟨hl, hu⟩

theorem isPattern_iff [RegexEngine] {a : Constant} :
    a.IsPattern ↔ ∃ text regex, a = .literal (.string text) ∧
      Pattern.compile? text = some regex := by
  cases a with
  | range bounds => simp [IsPattern]
  | literal v => cases v <;> simp [IsPattern, Option.isSome_iff_exists]

end Constant

namespace Operator

/-- What an operator takes beside a target. -/
def TakesBesideTarget [RegexEngine] (op : Operator) (a : Constant) : Prop :=
  match op with
  | .relation _ | .within | .without => a.IsData
  | .between | .outside => a.IsBounds
  | .like | .unlike => a.IsPattern
  | .other _ => False

/-- What an operator takes without a target, the subject first. -/
def TakesConstants (op : Operator) (a b : Constant) : Prop :=
  match op with
  | .relation _ | .within | .without => a.IsData ∧ b.IsData
  | .between | .outside => a.IsData ∧ b.IsBounds
  | .like | .unlike | .other _ => False

/-- It makes no difference on which side of the target the constant stands. -/
theorem takesBesideTarget_flipped [RegexEngine] (op : Operator) (a : Constant) :
    op.flipped.TakesBesideTarget a ↔ op.TakesBesideTarget a := by
  cases op <;> exact Iff.rfl

end Operator

theorem exists_fieldAsks_iff [RegexEngine] {key : String} {op : Operator} {a : Constant} :
    (∃ q, FieldAsks key op a q) ↔ op.TakesBesideTarget a := by
  constructor
  · rintro ⟨q, h⟩
    cases h with
    | compare r hv | within hv | without hv => exact Constant.isData_iff.mpr ⟨_, rfl, hv⟩
    | like hc | unlike hc => exact Constant.isPattern_iff.mpr ⟨_, _, rfl, hc⟩
    | between hl hu | outside hl hu => exact Constant.isBounds_iff.mpr ⟨_, _, rfl, hl, hu⟩
  · intro h
    cases op with
    | relation _ | within | without =>
        obtain ⟨v, rfl, hv⟩ := Constant.isData_iff.mp h
        exact ⟨_, by constructor; exact hv⟩
    | between | outside =>
        obtain ⟨l, u, rfl, hl, hu⟩ := Constant.isBounds_iff.mp h
        exact ⟨_, by constructor <;> assumption⟩
    | like | unlike =>
        obtain ⟨text, regex, rfl, hc⟩ := Constant.isPattern_iff.mp h
        exact ⟨_, by constructor; exact hc⟩
    | other token => exact h.elim

theorem exists_constantsAsk_iff {a b : Constant} {op : Operator} :
    (∃ q, ConstantsAsk a op b q) ↔ op.TakesConstants a b := by
  constructor
  · rintro ⟨q, h⟩
    cases h with
    | compare r ha hb | within ha hb | without ha hb =>
        exact ⟨Constant.isData_iff.mpr ⟨_, rfl, ha⟩, Constant.isData_iff.mpr ⟨_, rfl, hb⟩⟩
    | between ha hl hu | outside ha hl hu =>
        exact ⟨Constant.isData_iff.mpr ⟨_, rfl, ha⟩, Constant.isBounds_iff.mpr ⟨_, _, rfl, hl, hu⟩⟩
  · intro h
    cases op with
    | relation _ | within | without =>
        obtain ⟨ha, hb⟩ := h
        obtain ⟨v, rfl, hv⟩ := Constant.isData_iff.mp ha
        obtain ⟨w, rfl, hw⟩ := Constant.isData_iff.mp hb
        exact ⟨_, by constructor <;> assumption⟩
    | between | outside =>
        obtain ⟨ha, hb⟩ := h
        obtain ⟨v, rfl, hv⟩ := Constant.isData_iff.mp ha
        obtain ⟨l, u, rfl, hl, hu⟩ := Constant.isBounds_iff.mp hb
        exact ⟨_, by constructor <;> assumption⟩
    | like | unlike | other token => exact h.elim

/-! ## Clauses -/

namespace Clause

/-- What it takes for a clause to be translated. A target may be referred to
if its field is permitted and none of its segments is reserved. -/
def Translatable [RegexEngine] (s : Strategy) (c : Clause) : Prop :=
  match c.subject, c.object with
  | .target t, .target u => t.Accepted s ∧ u.Accepted s ∧ ∃ r, c.operator = .relation r
  | .target t, .constant a | .constant a, .target t =>
      t.Accepted s ∧ c.operator.TakesBesideTarget a
  | .constant a, .constant b => c.operator.TakesConstants a b

/-- A clause asks something as soon as its shape does. -/
theorem exists_asks_iff [RegexEngine] {s : Strategy} {c : Clause} :
    (∃ q, c.Asks s q) ↔
      match c.shape with
      | .targetConstant t op a => t.Accepted s ∧ ∃ q, FieldAsks t.key op a q
      | .targetTarget t op u => t.Accepted s ∧ u.Accepted s ∧ ∃ r, op = .relation r
      | .constantConstant a op b => ∃ q, ConstantsAsk a op b q := by
  constructor
  · rintro ⟨q, h⟩
    cases h with
    | field hshape ht hq =>
        rw [hshape]
        exact ⟨ht, _, hq⟩
    | fields hshape ht hu =>
        rw [hshape]
        exact ⟨ht, hu, _, rfl⟩
    | constants hshape hq =>
        rw [hshape]
        exact ⟨_, hq⟩
  · intro h
    cases hshape : c.shape with
    | targetConstant t op a =>
        rw [hshape] at h
        obtain ⟨ht, q, hq⟩ := h
        exact ⟨q, .field hshape ht hq⟩
    | targetTarget t op u =>
        rw [hshape] at h
        obtain ⟨ht, hu, r, rfl⟩ := h
        exact ⟨_, .fields hshape ht hu⟩
    | constantConstant a op b =>
        rw [hshape] at h
        obtain ⟨q, hq⟩ := h
        exact ⟨q, .constants hshape hq⟩

theorem exists_asks_iff_translatable [RegexEngine] {s : Strategy} {c : Clause} :
    (∃ q, c.Asks s q) ↔ c.Translatable s := by
  rw [exists_asks_iff]
  obtain ⟨subject, op, object⟩ := c
  cases subject with
  | target t =>
      cases object with
      | target u => exact Iff.rfl
      | constant a => exact and_congr_right' exists_fieldAsks_iff
  | constant a =>
      cases object with
      | target t =>
          -- the shape has the operator as seen from the target
          have hflipped := op.takesBesideTarget_flipped a
          exact and_congr_right' (exists_fieldAsks_iff.trans hflipped)
      | constant b => exact exists_constantsAsk_iff

end Clause

namespace Session

/-- In every session a clause is translated exactly if it is translatable. -/
theorem translates_iff [RegexEngine] (s : Strategy) (session : Session) (c : Clause) :
    (∃ document, (session.call s (.translate c)).1 = .ok (.document document)) ↔
      c.Translatable s := by
  rw [← Clause.exists_asks_iff_translatable]
  constructor
  · rintro ⟨document, h⟩
    rw [call_eq_run] at h
    obtain ⟨q, hq, -⟩ := Trace.bind_outcome_eq_ok.mp h
    exact ⟨q, Clause.toQuery_outcome_eq_ok.mp hq⟩
  · rintro ⟨q, hq⟩
    refine ⟨q.toDocument, ?_⟩
    rw [call_eq_run]
    exact Trace.bind_outcome_eq_ok.mpr ⟨q, Clause.toQuery_outcome_eq_ok.mpr hq, rfl⟩

end Session

end FilterQuery
