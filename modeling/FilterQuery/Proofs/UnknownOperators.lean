import FilterQuery.Proofs.CallSequences
import FilterQuery.Proofs.Refusals

/-!
# Operators without a meaning

An operator without a meaning fits no operands, so a clause that has one is
always refused. When it is looked at depends on the shape of the clause: first
of all beside a constant, and last of all between two targets.
`Clause.toQuery_of_other` says so with one equation for every shape: resolve
the targets that are compared with each other, and then refuse the operator.

What a session hears and what it keeps is thus up to these targets alone. The
operator is blamed exactly if each of them is accepted, and the session stays
as it was exactly if it had their fields before
(`Session.unknown_operator_iff`).
-/

namespace FilterQuery

/-! ## Resolving without looking at the keys -/

namespace Target

/-- Resolve targets one after the other, for what they refer to and for the
first refusal only. -/
def resolveAll (s : Strategy) : List Target → Trace Unit
  | [] => pure ()
  | t :: rest => do
      let _ ← t.resolve s
      resolveAll s rest

theorem resolveAll_of_accepted {s : Strategy} : ∀ {ts : List Target},
    (∀ t ∈ ts, t.Accepted s) → resolveAll s ts = ⟨ts.map field, .ok ()⟩
  | [], _ => rfl
  | t :: rest, h => by
      obtain ⟨ht, hrest⟩ := List.forall_mem_cons.mp h
      rw [resolveAll, resolve_of_accepted ht, resolveAll_of_accepted hrest]
      rfl

/-- Of targets that are not all accepted one is refused, and nothing comes
after it. -/
theorem exists_refused_resolveAll {s : Strategy} : ∀ {ts : List Target},
    (¬∀ t ∈ ts, t.Accepted s) →
      ∃ t ∈ ts, ∃ e, t.Refused s e ∧ (resolveAll s ts).outcome = .error e
  | [], h => absurd (List.forall_mem_nil _) h
  | t :: rest, h => by
      by_cases ht : t.Accepted s
      · have hrest : ¬∀ u ∈ rest, u.Accepted s := fun hall =>
          h (List.forall_mem_cons.mpr ⟨ht, hall⟩)
        obtain ⟨u, hu, e, he, houtcome⟩ := exists_refused_resolveAll hrest
        refine ⟨u, List.mem_cons_of_mem t hu, e, he, ?_⟩
        rw [resolveAll, Trace.bind_outcome, resolve_of_accepted ht]
        exact houtcome
      · obtain ⟨e, he⟩ := resolve_of_not_accepted ht
        have hrefused : t.Refused s e := resolve_outcome_eq_error.mp (by rw [he])
        refine ⟨t, List.mem_cons_self, e, hrefused, ?_⟩
        rw [resolveAll, Trace.bind_outcome, he]
        rfl

/-- No target is refused for an operator. -/
theorem Refused.ne_unknownOperator {s : Strategy} {t : Target} {e : ConvertError}
    (h : t.Refused s e) (token : String) : e ≠ .unknownOperator token := by
  rintro rfl
  cases h

end Target

/-! ## Clauses -/

variable {c : Clause} {token : String}

theorem Clause.toQuery_of_other [RegexEngine] (hop : c.operator = .other token) (s : Strategy) :
    c.toQuery s
      = Target.resolveAll s c.comparedTargets >>= fun _ =>
          Trace.fail (.unknownOperator token) := by
  obtain ⟨subject, op, object⟩ := c
  obtain rfl : op = .other token := hop
  cases subject with
  | target t =>
      cases object with
      | target u =>
          rw [toQuery, comparedTargets]
          simp only [shape, pathsQuery, Target.resolveAll, bind_assoc, pure_bind]
          rfl
      | constant a => rfl
  | constant a =>
      cases object with
      | target u => rfl
      | constant b => rfl

theorem Call.trace_of_other [RegexEngine] (hop : c.operator = .other token) (s : Strategy) :
    (Call.translate c).trace s
      = Target.resolveAll s c.comparedTargets >>= fun _ =>
          Trace.fail (.unknownOperator token) := by
  rw [trace, Clause.toQuery_of_other hop, bind_assoc]
  rfl

/-! ## Sessions -/

namespace Session

/-- Nothing new comes to a session that holds it all. -/
theorem addAll_eq_self_iff {session : Session} {fs : List String} :
    session.addAll fs = session ↔ ∀ f ∈ fs, f ∈ session := by
  constructor
  · intro h f hf
    rw [← h]
    exact mem_addAll.mpr (Or.inr hf)
  · intro h
    induction fs with
    | nil => rfl
    | cons f rest ih =>
        obtain ⟨hf, hrest⟩ := List.forall_mem_cons.mp h
        have hstep : session.addAll (f :: rest) = (session.add f).addAll rest := rfl
        rw [hstep, add_of_mem hf, ih hrest]

/-- The operator is blamed, and the fields of the compared targets stay
recorded. -/
theorem call_of_other [RegexEngine] (hop : c.operator = .other token)
    {s : Strategy} (session : Session) (h : ∀ t ∈ c.comparedTargets, t.Accepted s) :
    session.call s (.translate c)
      = (.error (.unknownOperator token),
          session.addAll (c.comparedTargets.map Target.field)) := by
  rw [call_eq_run, Call.trace_of_other hop, Target.resolveAll_of_accepted h, Trace.bind_eq_andThen,
    Trace.andThen_of_ok rfl, run, Trace.fail, List.append_nil]

/-- A compared target is blamed before the operator is looked at. -/
theorem exists_refused_call_of_other [RegexEngine] (hop : c.operator = .other token) {s : Strategy}
    (session : Session) (h : ¬∀ t ∈ c.comparedTargets, t.Accepted s) :
    ∃ t ∈ c.comparedTargets, ∃ e, t.Refused s e ∧
      (session.call s (.translate c)).1 = .error e := by
  obtain ⟨t, ht, e, he, houtcome⟩ := Target.exists_refused_resolveAll h
  refine ⟨t, ht, e, he, ?_⟩
  rw [call_eq_run, run, Call.trace_of_other hop, Trace.bind_outcome, houtcome]
  rfl

/-- An operator without a meaning is refused in every session, whatever the
operands are, and the error names it or a target that is compared with another
one. It names the operator exactly if the compared targets are accepted; and
then the session is the one before exactly if it had their fields. -/
theorem unknown_operator_iff [RegexEngine] (hop : c.operator = .other token) (s : Strategy)
    (session : Session) :
    (∃ e, (session.call s (.translate c)).1 = .error e ∧
        (e.message = "Unknown operator: " ++ token ∨ ∃ t ∈ c.comparedTargets, t.Refused s e)) ∧
      ((session.call s (.translate c)).1 = .error (.unknownOperator token) ↔
        ∀ t ∈ c.comparedTargets, t.Accepted s) ∧
      (session.call s (.translate c) = (.error (.unknownOperator token), session) ↔
        ∀ t ∈ c.comparedTargets, t.Accepted s ∧ t.field ∈ session) := by
  by_cases haccepted : ∀ t ∈ c.comparedTargets, t.Accepted s
  · rw [call_of_other hop session haccepted, Prod.mk.injEq, addAll_eq_self_iff,
      List.forall_mem_map]
    refine ⟨⟨_, rfl, Or.inl rfl⟩, iff_of_true rfl haccepted, fun h t ht => ?_, fun h => ?_⟩
    · exact ⟨haccepted t ht, h.2 t ht⟩
    · exact ⟨rfl, fun t ht => (h t ht).2⟩
  · obtain ⟨t, ht, e, he, houtcome⟩ := exists_refused_call_of_other hop session haccepted
    have hnamed : (session.call s (.translate c)).1 ≠ .error (.unknownOperator token) := by
      rw [houtcome]
      exact fun h => he.ne_unknownOperator token (Except.error.inj h)
    refine ⟨⟨e, houtcome, Or.inr ⟨t, ht, he⟩⟩, iff_of_false hnamed haccepted, ?_⟩
    refine iff_of_false (fun h => hnamed (congrArg Prod.fst h)) fun h => ?_
    exact haccepted fun u hu => (h u hu).1

/-- Two targets with an operator that is spelled like none. -/
def fooNopeBar : Clause :=
  ⟨.target ⟨.field "foo", [.index 0]⟩, .other "nope", .target ⟨.field "bar", []⟩⟩

/-- The fields are known in another order, and one of them from another
path. -/
theorem unknown_operator_iff_fooNopeBar :
    fooNopeBar.operator = .other "nope" ∧
      fooNopeBar.comparedTargets = [⟨.field "foo", [.index 0]⟩, ⟨.field "bar", []⟩] ∧
      Session.call ⟨.allow ["/foo", "/bar"], [], .any⟩ ["/bar", "/foo"] (.translate fooNopeBar)
        = (.error (.unknownOperator "nope"), ["/bar", "/foo"]) := by
  have hop : fooNopeBar.operator = .other "nope" := rfl
  obtain ⟨-, -, hunchanged⟩ :=
    unknown_operator_iff hop ⟨.allow ["/foo", "/bar"], [], .any⟩ ["/bar", "/foo"]
  refine ⟨hop, rfl, hunchanged.mpr fun t ht => ?_⟩
  have hcases : t = ⟨.field "foo", [.index 0]⟩ ∨ t = ⟨.field "bar", []⟩ := by
    simpa [Clause.comparedTargets, Clause.shape, fooNopeBar] using ht
  rcases hcases with rfl | rfl
  · exact ⟨⟨rfl, rfl⟩, by decide⟩
  · exact ⟨⟨rfl, rfl⟩, by decide⟩

/-- Between two targets the operator goes unnamed if one of them is denied, and
both stay recorded if none is. -/
theorem unknown_operator_unnamed :
    start.call ⟨.deny ["/bar"], [], .any⟩ (.translate fooNopeBar)
        = (.error (.deniedField "/bar"), ["/foo"]) ∧
      start.call .unrestricted (.translate fooNopeBar)
        = (.error (.unknownOperator "nope"), ["/foo", "/bar"]) := ⟨rfl, rfl⟩

end Session

end FilterQuery
