import FilterQuery.Proofs.Replacement
import FilterQuery.Proofs.ReportedFields

/-!
# Clauses seen from the other side

A clause that compares a target with a constant says the same when the two
change places and the operator is seen from the other side. Which of the two
ways a clause is written in is gone once it has a shape (`shape_flipped`): the
target comes first there, and the operator was turned with it, where turning
twice is not turning. So clauses of a filter may be turned around anywhere in
it, each for itself (`convertWith_flipped`).
-/

namespace FilterQuery

namespace Clause

/-- A clause with exactly one target has the shape of the clause seen from the
other side. -/
theorem shape_flipped {c : Clause} (h : c.targets.length = 1) : c.flipped.shape = c.shape := by
  obtain ⟨subject, operator, object⟩ := c
  cases subject with
  | target t =>
      cases object with
      | target u => cases h
      | constant a =>
          show Shape.targetConstant t operator.flipped.flipped a = .targetConstant t operator a
          rw [Operator.flipped_flipped]
  | constant a =>
      cases object with
      | target u => rfl
      | constant b => cases h

theorem toQuery_flipped [RegexEngine] {c : Clause} (h : c.targets.length = 1) (s : Strategy) :
    c.flipped.toQuery s = c.toQuery s := by
  rw [toQuery, shape_flipped h, toQuery]

end Clause

/-- A clause with exactly one target and the clause seen from the other side. -/
inductive Member.Flipped : Member → Member → Prop
  | clause {c : Clause} (h : c.targets.length = 1) : Member.Flipped (.clause c) (.clause c.flipped)

namespace Filter

/-- Turning clauses with one target around, any of them and at any depth, makes
no difference to a conversion. -/
theorem convertWith_flipped [RegexEngine]
    {f g : Filter} (h : f.Replaced Member.Flipped g) (s : Strategy) :
    g.convertWith s = f.convertWith s := by
  refine h.convertWith_eq fun m n hmn => ?_
  cases hmn with
  | clause hc =>
      rw [Member.toQuery, Member.toQuery, Clause.toQuery_flipped hc]
      exact .refl _

/-- `barTwice` with the clause in its group and the last clause turned
around. -/
def barTwiceTurned : Filter :=
  (Filter.ofClause
    ⟨.target ⟨.field "bar", [.index 0]⟩, .relation .eq, .literal (.integer 1)⟩)
    |>.orGroup ((Filter.ofClause
        ⟨.target ⟨.field "foo", []⟩, .relation .lt, .target ⟨.field "bar", [.index 1]⟩⟩).and
      ⟨.target ⟨.field "baz", []⟩, .relation .lt, .literal (.integer 3)⟩)
    |>.and ⟨.target ⟨.field "foo", [.field "x"]⟩, .between, .range ⟨.integer 1, .integer 2⟩⟩

theorem convertWith_flipped_barTwice :
    barTwice.Replaced Member.Flipped barTwiceTurned ∧
      barTwiceTurned.convertWith .unrestricted
        = .ok ⟨["/bar", "/foo", "/baz"], barTwiceDocument⟩ ∧
      barTwiceTurned.convertWith ⟨.deny ["/baz"], [], .any⟩ = .error (.deniedField "/baz") := by
  have hgroup : Filter.Replaced Member.Flipped
      ((Filter.ofClause
        ⟨.target ⟨.field "foo", []⟩, .relation .lt, .target ⟨.field "bar", [.index 1]⟩⟩).and
        ⟨.literal (.integer 3), .relation .gt, .target ⟨.field "baz", []⟩⟩)
      ((Filter.ofClause
        ⟨.target ⟨.field "foo", []⟩, .relation .lt, .target ⟨.field "bar", [.index 1]⟩⟩).and
        ⟨.target ⟨.field "baz", []⟩, .relation .lt, .literal (.integer 3)⟩) :=
    .mk (.cons (.keep _) (.cons (.replace (.clause rfl)) .nil))
  have hturned : barTwice.Replaced Member.Flipped barTwiceTurned :=
    .mk (.cons (.keep _) (.cons (.group hgroup) (.cons (.replace (.clause rfl)) .nil)))
  exact ⟨hturned, (convertWith_flipped hturned _).trans rfl,
    (convertWith_flipped hturned _).trans rfl⟩

end Filter

end FilterQuery
