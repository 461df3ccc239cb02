import FilterQuery.Proofs.Replacement
import FilterQuery.Proofs.ReportedFields

/-!
# Ranges as two comparisons

A clause that asks whether a target lies in a range, or outside of one, says
what a group of two comparisons says. The two are translated in different
ways: the query of the clause is put together by the clause itself
(`Clause.condition`), and that of the group by joining statements. They come
to the same query (`joinStatements_pair`), but the group resolves the target
twice. A session does not tell: it keeps a field once, and a target that is
refused is refused at its first comparison (`comparisons_alike`).

So ranges may be written out anywhere in a filter (`convertWith_rangesApart`),
as long as the bounds are plain. With a bound that is not plain both are
refused, but the error names the operator that was written.
-/

namespace FilterQuery

/-! ## The group of two comparisons -/

namespace Filter

/-- A target against both bounds of a range. -/
def comparisons (first : Conjunction) (low : Relation) (joined : Conjunction) (high : Relation)
    (t : Target) (bounds : Range) : Filter :=
  ⟨[⟨first, .clause ⟨.target t, .relation low, .literal bounds.lower⟩⟩,
    ⟨joined, .clause ⟨.target t, .relation high, .literal bounds.upper⟩⟩]⟩

/-- At least the lower bound and at most the upper one. What the first of the
two says about joining is left open. -/
def withinBounds (first : Conjunction) : Target → Range → Filter :=
  comparisons first .gte .and .lte

/-- Less than the lower bound or greater than the upper one. -/
def outsideBounds (first : Conjunction) : Target → Range → Filter :=
  comparisons first .lt .or .gt

end Filter

/-- The connective of two statements. -/
def Conjunction.connect (p q : Query) : Conjunction → Query
  | .and => .all [p, q]
  | .or => .any [p, q]

theorem joinStatements_pair (first joined : Conjunction) (p q : Query) :
    joinStatements [(first, p), (joined, q)] = joined.connect p q := by
  cases joined <;> rfl

/-! ## Sessions do not tell them apart -/

theorem Session.addAll_twice (session : Session) (field : String) :
    session.addAll [field, field] = session.addAll [field] := by
  have hmem : field ∈ session.add field := mem_add.mpr (Or.inr rfl)
  exact add_of_mem hmem

namespace Filter

variable {s : Strategy} {t : Target} {first joined : Conjunction} {low high : Relation}

theorem toQuery_comparisons [RegexEngine] (s : Strategy) (bounds : Range) :
    (comparisons first low joined high t bounds).toQuery s = do
      let p ← Clause.pathQuery s t (.relation low) (.literal bounds.lower)
      let q ← Clause.pathQuery s t (.relation high) (.literal bounds.upper)
      return joined.connect p q := by
  have hlow : Clause.toQuery s ⟨.target t, .relation low, .literal bounds.lower⟩
      = Clause.pathQuery s t (.relation low) (.literal bounds.lower) := rfl
  have hhigh : Clause.toQuery s ⟨.target t, .relation high, .literal bounds.upper⟩
      = Clause.pathQuery s t (.relation high) (.literal bounds.upper) := rfl
  simp only [comparisons, Filter.toQuery, statementQueries, Statement.toQuery, Member.toQuery,
    hlow, hhigh, bind_assoc, pure_bind, joinStatements_pair]

/-- An operator that asks of the field what the two comparisons ask together
is translated as they are. -/
theorem comparisons_alike [RegexEngine] {op : Operator} {l u : Value} (hl : l.isPlain = true)
    (hu : u.isPlain = true)
    (hq : FieldAsks t.key op (.range ⟨l, u⟩)
      (joined.connect (.field t.key (.compare low l)) (.field t.key (.compare high u)))) :
    (Clause.pathQuery s t op (.range ⟨l, u⟩)).Alike
      ((comparisons first low joined high t ⟨l, u⟩).toQuery s) := by
  intro session
  rw [toQuery_comparisons]
  by_cases ht : t.Accepted s
  · have hlow := Clause.pathQuery_of_accepted ht (.compare low hl)
    have hhigh := Clause.pathQuery_of_accepted ht (.compare high hu)
    have hrange := Clause.pathQuery_of_accepted ht hq
    rw [hlow, hhigh, hrange]
    -- the queries are the same, and the group records the field once more
    show (_, session.addAll [t.field]) = (_, session.addAll [t.field, t.field])
    rw [Session.addAll_twice]
    rfl
  · obtain ⟨e, he⟩ := Target.resolve_of_not_accepted ht
    rw [Clause.pathQuery_of_refused hq.isOther_eq_false he, Clause.pathQuery_of_refused rfl he]
    rfl

end Filter

/-! ## Ranges anywhere in a filter -/

/-- A clause of a target and a range, whichever of them comes first, and the
group of the comparisons with its bounds. -/
inductive Member.RangeApart : Member → Member → Prop
  | between {c : Clause} {t : Target} {l u : Value} (first : Conjunction)
      (hl : l.isPlain = true) (hu : u.isPlain = true)
      (hshape : c.shape = .targetConstant t .between (.range ⟨l, u⟩)) :
      Member.RangeApart (.clause c) (.group (.withinBounds first t ⟨l, u⟩))
  | outside {c : Clause} {t : Target} {l u : Value} (first : Conjunction)
      (hl : l.isPlain = true) (hu : u.isPlain = true)
      (hshape : c.shape = .targetConstant t .outside (.range ⟨l, u⟩)) :
      Member.RangeApart (.clause c) (.group (.outsideBounds first t ⟨l, u⟩))

theorem Member.RangeApart.alike [RegexEngine] {m n : Member} (h : m.RangeApart n) (s : Strategy) :
    (m.toQuery s).Alike (n.toQuery s) := by
  cases h with
  | @between c t l u first hl hu hshape =>
      have hq : FieldAsks t.key .between (.range ⟨l, u⟩)
          (Conjunction.and.connect (.field t.key (.compare .gte l))
            (.field t.key (.compare .lte u))) := .between hl hu
      rw [Member.toQuery, Member.toQuery, Clause.toQuery, hshape]
      exact Filter.comparisons_alike hl hu hq
  | @outside c t l u first hl hu hshape =>
      have hq : FieldAsks t.key .outside (.range ⟨l, u⟩)
          (Conjunction.or.connect (.field t.key (.compare .lt l))
            (.field t.key (.compare .gt u))) := .outside hl hu
      rw [Member.toQuery, Member.toQuery, Clause.toQuery, hshape]
      exact Filter.comparisons_alike hl hu hq

namespace Filter

/-- Taking ranges with plain bounds apart, any of them and at any depth, makes
no difference to a conversion. -/
theorem convertWith_rangesApart [RegexEngine] {f g : Filter} (h : f.Replaced Member.RangeApart g)
    (s : Strategy) : g.convertWith s = f.convertWith s :=
  h.convertWith_eq fun _ _ hmn => hmn.alike s

/-- A range in a group and behind its target, and one in front of its
target. -/
def discounted : Filter :=
  (Filter.ofGroup ((Filter.ofClause
      ⟨.target ⟨.field "price", []⟩, .outside, .range ⟨.integer 5, .integer 9⟩⟩).and
    ⟨.target ⟨.field "price", [.field "net"]⟩, .relation .ne, .literal .null⟩))
    |>.or ⟨.range ⟨.string "a", .string "m"⟩, .between, .target ⟨.field "name", []⟩⟩

def discountedApart : Filter :=
  (Filter.ofGroup ((Filter.ofGroup ((Filter.ofClause
        ⟨.target ⟨.field "price", []⟩, .relation .lt, .literal (.integer 5)⟩).or
      ⟨.target ⟨.field "price", []⟩, .relation .gt, .literal (.integer 9)⟩)).and
    ⟨.target ⟨.field "price", [.field "net"]⟩, .relation .ne, .literal .null⟩))
    |>.orGroup ((Filter.ofClause
        ⟨.target ⟨.field "name", []⟩, .relation .gte, .literal (.string "a")⟩).and
      ⟨.target ⟨.field "name", []⟩, .relation .lte, .literal (.string "m")⟩)

theorem convertWith_rangesApart_discounted :
    discounted.Replaced Member.RangeApart discountedApart ∧
      (∃ r, discountedApart.convertWith .unrestricted = .ok r ∧
        discounted.convertWith .unrestricted = .ok r ∧ r.fields = ["/price", "/name"]) ∧
      discountedApart.convertWith ⟨.deny ["/name"], [], .any⟩ = .error (.deniedField "/name") := by
  have hgroup : Filter.Replaced Member.RangeApart
      ((Filter.ofClause
        ⟨.target ⟨.field "price", []⟩, .outside, .range ⟨.integer 5, .integer 9⟩⟩).and
        ⟨.target ⟨.field "price", [.field "net"]⟩, .relation .ne, .literal .null⟩)
      ((Filter.ofGroup (outsideBounds .and ⟨.field "price", []⟩ ⟨.integer 5, .integer 9⟩)).and
        ⟨.target ⟨.field "price", [.field "net"]⟩, .relation .ne, .literal .null⟩) :=
    .mk (.cons (.replace (.outside .and rfl rfl rfl)) (.cons (.keep _) .nil))
  have happart : discounted.Replaced Member.RangeApart discountedApart :=
    .mk (.cons (.group hgroup) (.cons (.replace (.between .and rfl rfl rfl)) .nil))
  exact ⟨happart, ⟨_, (convertWith_rangesApart happart _).trans rfl, rfl, rfl⟩,
    (convertWith_rangesApart happart _).trans rfl⟩

end Filter

end FilterQuery
