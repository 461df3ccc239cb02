import Mathlib.Logic.Relation
import FilterQuery.Proofs.ReportedFields

/-!
# Redundant structure

Three things in a filter say nothing: how its first statement joins the ones
before it, a group around a single statement, and a group around the whole
filter. `Filter.Restructured` has a rule for each, and one to apply them
inside of a group, so at any depth.

No rule changes the trace of a filter, which is more than the result of the
conversion: the same targets are resolved in the same order
(`Restructured.toQuery_eq`). So it makes no difference how many of the rules
are applied, and in which direction (`convertWith_restructured`).
-/

namespace FilterQuery

/-! ## Restructuring -/

/-- One change of a filter that leaves its clauses and their connectives as
they are. -/
inductive Filter.Restructured : Filter → Filter → Prop
  /-- The first statement joins nothing, whatever it says. -/
  | retag (c d : Conjunction) (m : Member) (rest : List Statement) :
      Restructured ⟨⟨c, m⟩ :: rest⟩ ⟨⟨d, m⟩ :: rest⟩
  /-- A group of one statement is what that statement holds. -/
  | ungroup (before : List Statement) (c d : Conjunction) (m : Member) (after : List Statement) :
      Restructured ⟨before ++ ⟨c, .group ⟨[⟨d, m⟩]⟩⟩ :: after⟩ ⟨before ++ ⟨c, m⟩ :: after⟩
  /-- A filter is the group of the filter. -/
  | enclose (c : Conjunction) (f : Filter) : Restructured f ⟨[⟨c, .group f⟩]⟩
  | inside (before : List Statement) (c : Conjunction) {f g : Filter} (after : List Statement)
      (h : Restructured f g) :
      Restructured ⟨before ++ ⟨c, .group f⟩ :: after⟩ ⟨before ++ ⟨c, .group g⟩ :: after⟩

/-! ## The rules keep the trace -/

section Traces

variable {s : Strategy}

theorem joinStatements_retag (c d : Conjunction) (q : Query) (rest : List (Conjunction × Query)) :
    joinStatements ((c, q) :: rest) = joinStatements ((d, q) :: rest) := rfl

theorem joinStatements_singleton (c : Conjunction) (q : Query) :
    joinStatements [(c, q)] = q := rfl

theorem Filter.toQuery_cons [RegexEngine] (c : Conjunction) (m : Member) (rest : List Statement) :
    Filter.toQuery s ⟨⟨c, m⟩ :: rest⟩ = do
      let head ← m.toQuery s
      let tail ← statementQueries s rest
      return joinStatements ((c, head) :: tail) := by
  simp only [Filter.toQuery, statementQueries, Statement.toQuery, bind_assoc, pure_bind]

/-- A filter of one statement is translated as what the statement holds. -/
theorem Filter.toQuery_singleton [RegexEngine] (c : Conjunction) (m : Member) :
    Filter.toQuery s ⟨[⟨c, m⟩]⟩ = m.toQuery s := by
  simp only [toQuery_cons, statementQueries, pure_bind, joinStatements_singleton, bind_pure]

theorem statementQueries_congr [RegexEngine] {m n : Member} (h : m.toQuery s = n.toQuery s)
    (c : Conjunction) (before after : List Statement) :
    statementQueries s (before ++ ⟨c, m⟩ :: after)
      = statementQueries s (before ++ ⟨c, n⟩ :: after) := by
  induction before with
  | nil => simp only [List.nil_append, statementQueries, Statement.toQuery, h]
  | cons statement rest ih => simp only [List.cons_append, statementQueries, ih]

/-- In a filter a member may be exchanged for one with the same trace. -/
theorem Filter.toQuery_congr [RegexEngine] {m n : Member} (h : m.toQuery s = n.toQuery s)
    (c : Conjunction) (before after : List Statement) :
    Filter.toQuery s ⟨before ++ ⟨c, m⟩ :: after⟩ = Filter.toQuery s ⟨before ++ ⟨c, n⟩ :: after⟩ := by
  rw [Filter.toQuery, Filter.toQuery, statementQueries_congr h]

/-- Restructuring a filter changes nothing in its trace. -/
theorem Filter.Restructured.toQuery_eq [RegexEngine] {f g : Filter} (h : f.Restructured g) :
    f.toQuery s = g.toQuery s := by
  induction h with
  | retag c d m rest => simp only [Filter.toQuery_cons, joinStatements_retag c d]
  | ungroup before c d m after =>
      refine Filter.toQuery_congr ?_ c before after
      rw [Member.toQuery, Filter.toQuery_singleton]
  | enclose c f => rw [Filter.toQuery_singleton, Member.toQuery]
  | inside before c after h ih =>
      refine Filter.toQuery_congr ?_ c before after
      rw [Member.toQuery, Member.toQuery, ih]

end Traces

/-! ## Any number of changes -/

namespace Filter

/-- Filters that come from each other by any number of changes to their
redundant structure, made or undone, are converted alike. -/
theorem convertWith_restructured [RegexEngine] {f g : Filter} (h : Relation.EqvGen Restructured f g)
    (s : Strategy) : g.convertWith s = f.convertWith s := by
  induction h with
  | rel f g hstep => rw [convertWith_eq_run, convertWith_eq_run, hstep.toQuery_eq]
  | refl f => rfl
  | symm f g _ ih => exact ih.symm
  | trans f g k _ _ hfg hgk => exact hgk.trans hfg

/-- `barTwice` in a group of its own, with its first clause in a group and
`or` in front of every first statement. -/
def barTwiceEnclosed : Filter :=
  ⟨[⟨.or, .group ⟨[
    ⟨.or, .group ⟨[⟨.or, .clause
      ⟨.target ⟨.field "bar", [.index 0]⟩, .relation .eq, .literal (.integer 1)⟩⟩]⟩⟩,
    ⟨.or, .group ⟨[
      ⟨.or, .clause
        ⟨.target ⟨.field "foo", []⟩, .relation .lt, .target ⟨.field "bar", [.index 1]⟩⟩⟩,
      ⟨.and, .clause ⟨.literal (.integer 3), .relation .gt, .target ⟨.field "baz", []⟩⟩⟩]⟩⟩,
    ⟨.and, .clause
      ⟨.range ⟨.integer 1, .integer 2⟩, .between, .target ⟨.field "foo", [.field "x"]⟩⟩⟩]⟩⟩]⟩

theorem convertWith_restructured_barTwice :
    Relation.EqvGen Restructured barTwice barTwiceEnclosed ∧
      barTwiceEnclosed.convertWith .unrestricted
        = .ok ⟨["/bar", "/foo", "/baz"], barTwiceDocument⟩ ∧
      barTwiceEnclosed.convertWith ⟨.deny ["/baz"], [], .any⟩ = .error (.deniedField "/baz") := by
  have henclosed : Relation.EqvGen Restructured barTwice barTwiceEnclosed := by
    refine .trans _ _ _ (.symm _ _ (.rel _ _ (.ungroup [] .and .or _ _))) ?_
    refine .trans _ _ _ (.rel _ _ (.retag .and .or _ _)) ?_
    refine .trans _ _ _ (.rel _ _ (.inside [_] .or [_] (.retag .and .or _ _))) ?_
    exact .rel _ _ (.enclose .or _)
  exact ⟨henclosed, (convertWith_restructured henclosed _).trans rfl,
    (convertWith_restructured henclosed _).trans rfl⟩

end Filter

end FilterQuery
