import FilterQuery.Proofs.Threading
import FilterQuery.Proofs.Translation

/-!
# How a filter is put together from its clauses

Translating a filter is a walk over its clauses in reading order, and a way
of joining what the clauses ask. The two are taken apart here.
`Filter.assemble` is the joining alone: it takes the query of each clause
for granted. `walk` is the walk alone, and `Filter.toQuery_eq_walk` is the
one induction that puts them together again; what a walk comes to and what
it records is then a matter of lists (`walk_outcome`, `walk_of_asks`).

With that, a statement about the documents of all filters is one about a
fold. For a view of documents to which connectives add nothing,
`Query.SeesThrough.assemble` says that the document shows what its clauses
show, clause by clause.
-/

namespace FilterQuery

/-! ## Clauses on their own -/

namespace Clause

def refusal? [RegexEngine] (s : Strategy) (c : Clause) : Option ConvertError :=
  match (c.toQuery s).outcome with
  | .ok _ => none
  | .error e => some e

/-- The query of a clause that is accepted. -/
def query [RegexEngine] (s : Strategy) (c : Clause) : Query :=
  match (c.toQuery s).outcome with
  | .ok q => q
  | .error _ => .all []

theorem refusal?_eq_none [RegexEngine] {s : Strategy} {c : Clause} :
    c.refusal? s = none ↔ c.Asks s (c.query s) := by
  rw [← toQuery_outcome_eq_ok, refusal?, query]
  cases (c.toQuery s).outcome with
  | ok q => simp
  | error e => simp

theorem refusal?_eq_some [RegexEngine] {s : Strategy} {c : Clause} {e : ConvertError} :
    c.refusal? s = some e ↔ (c.toQuery s).outcome = .error e := by
  rw [refusal?]
  cases (c.toQuery s).outcome <;> simp

end Clause

/-- The outcome of a step that has a given result unless it is refused. -/
def settle {α : Type} (refusal : Option ConvertError) (a : α) : Except ConvertError α :=
  match refusal with
  | some e => .error e
  | none => .ok a

@[simp] theorem settle_none {α : Type} (a : α) : settle none a = .ok a := rfl

@[simp] theorem settle_some {α : Type} (e : ConvertError) (a : α) :
    settle (some e) a = .error e := rfl

theorem settle_eq_ok {α : Type} {refusal : Option ConvertError} {a b : α} :
    settle refusal a = .ok b ↔ refusal = none ∧ a = b := by
  cases refusal with
  | none => simp
  | some e => simp

/-! ## Joining without translating -/

/-- The query of a filter, given the queries of clauses. -/
def Filter.assemble (ask : Clause → Query) (f : Filter) : Query := f.fold ask joinStatements

/-! ## The walk -/

/-- Translate clauses one after the other, for what they refer to and for the
first refusal only. -/
def walk [RegexEngine] (s : Strategy) : List Clause → Trace Unit
  | [] => pure ()
  | clause :: rest => do
      let _ ← clause.toQuery s
      walk s rest

theorem walk_append [RegexEngine] (s : Strategy) : ∀ cs ds : List Clause,
    walk s (cs ++ ds) = walk s cs >>= fun _ => walk s ds
  | [], ds => (pure_bind () fun _ => walk s ds).symm
  | c :: rest, ds => by
      rw [List.cons_append, walk, walk, bind_assoc]
      exact congrArg _ (funext fun _ => walk_append s rest ds)

theorem walk_outcome [RegexEngine] (s : Strategy) : ∀ cs : List Clause,
    (walk s cs).outcome = settle (cs.findSome? (Clause.refusal? s)) ()
  | [] => rfl
  | c :: rest => by
      rw [walk, Trace.bind_outcome, List.findSome?_cons, Clause.refusal?, walk_outcome s rest]
      cases (c.toQuery s).outcome <;> rfl

theorem walk_of_asks [RegexEngine] {s : Strategy} {ask : Clause → Query} : ∀ {cs : List Clause},
    (∀ c ∈ cs, c.Asks s (ask c)) →
      walk s cs = ⟨(cs.flatMap Clause.targets).map Target.field, .ok ()⟩
  | [], _ => rfl
  | c :: rest, h => by
      obtain ⟨hc, hrest⟩ := List.forall_mem_cons.mp h
      rw [walk, hc.toQuery_eq, walk_of_asks hrest, Trace.bind_eq_andThen, Trace.andThen_of_ok rfl,
        List.flatMap_cons, List.map_append]

theorem Clause.toQuery_eq_bind [RegexEngine] (s : Strategy) (c : Clause) :
    c.toQuery s = c.toQuery s >>= fun _ => pure (c.query s) := by
  rw [Trace.bind_eq_andThen, query, Trace.andThen]
  cases hq : c.toQuery s with
  | mk fields outcome =>
      cases outcome with
      | ok q => simp only [Trace.pure_eq_done, Trace.done, List.append_nil]
      | error e => rfl

mutual

theorem Member.toQuery_eq_walk [RegexEngine] (s : Strategy) : ∀ m : Member,
    m.toQuery s
      = walk s m.clauses >>= fun _ => pure (m.fold (Clause.query s) joinStatements)
  | .clause c => by
      rw [Member.toQuery, Member.clauses, Member.fold, walk, walk, bind_assoc]
      simp only [pure_bind]
      exact Clause.toQuery_eq_bind s c
  | .group f => by
      rw [Member.toQuery, Member.clauses, Member.fold]
      exact Filter.toQuery_eq_walk s f

/-- Translating a filter is walking over its clauses in reading order, at
any depth, and assembling what they ask at the end. -/
theorem Filter.toQuery_eq_walk [RegexEngine] (s : Strategy) : ∀ f : Filter,
    f.toQuery s = walk s f.clauses >>= fun _ => pure (f.assemble (Clause.query s))
  | ⟨statements⟩ => by
      rw [Filter.toQuery, Filter.clauses, Filter.assemble, Filter.fold,
        statementQueries_eq_walk s statements, bind_assoc]
      simp only [pure_bind]

theorem statementQueries_eq_walk [RegexEngine] (s : Strategy) : ∀ ss : List Statement,
    statementQueries s ss
      = walk s (clausesOf ss) >>= fun _ => pure (foldAll (Clause.query s) joinStatements ss)
  | [] => rfl
  | ⟨_, m⟩ :: rest => by
      rw [statementQueries, Statement.toQuery, clausesOf, Statement.clauses, foldAll,
        walk_append, Member.toQuery_eq_walk s m, statementQueries_eq_walk s rest]
      simp only [bind_assoc, pure_bind]

end

/-- A filter fails with the first of its clauses that is refused, in reading
order, and is assembled otherwise. -/
theorem Filter.toQuery_outcome [RegexEngine] (s : Strategy) (f : Filter) :
    (f.toQuery s).outcome
      = settle (f.clauses.findSome? (Clause.refusal? s)) (f.assemble (Clause.query s)) := by
  rw [Filter.toQuery_eq_walk, Trace.bind_outcome, walk_outcome]
  cases f.clauses.findSome? (Clause.refusal? s) <;> rfl

/-- The trace of a filter whose clauses are accepted: all their targets are
recorded, those of nested filters in place. -/
theorem Filter.toQuery_of_asks [RegexEngine] {s : Strategy} {f : Filter}
    (h : ∀ c ∈ f.clauses, c.Asks s (c.query s)) :
    f.toQuery s
      = ⟨(f.clauses.flatMap Clause.targets).map Target.field,
          .ok (f.assemble (Clause.query s))⟩ := by
  rw [Filter.toQuery_eq_walk, walk_of_asks h, Trace.bind_eq_andThen, Trace.andThen_of_ok rfl]
  simp only [Trace.pure_eq_done, Trace.done, List.append_nil]

/-! ## Documents in a session -/

/-- What a clause is translated to on its own, in a session of its own. -/
def Clause.fragment [RegexEngine] (s : Strategy) (c : Clause) : Except ConvertError Document :=
  (Session.start.take (Resolver.translate s c)).1.map Query.toDocument

theorem Clause.fragment_eq_settle [RegexEngine] (s : Strategy) (c : Clause) :
    c.fragment s = settle (c.refusal? s) (c.query s).toDocument := by
  rw [fragment, Resolver.translate_follows, Session.run, refusal?, query]
  cases (c.toQuery s).outcome <;> rfl

theorem Session.build_eq_settle [RegexEngine] (s : Strategy) (session : Session) (f : Filter) :
    (session.build s f).1
      = settle (f.clauses.findSome? (Clause.refusal? s))
          (f.assemble (Clause.query s)).toDocument := by
  rw [build_eq_run, run, Trace.bind_outcome, Filter.toQuery_outcome]
  cases f.clauses.findSome? (Clause.refusal? s) <;> rfl

/-! ## Views of assembled queries -/

namespace Query.SeesThrough

variable {β : Type} {view : Query → List β}

theorem allOf (hview : SeesThrough view) (qs : List Query) :
    view (Query.allOf qs) = qs.flatMap view := by
  unfold Query.allOf
  split
  · rw [List.flatMap_singleton]
  · exact hview.all qs

theorem anyOf (hview : SeesThrough view) (qs : List Query) :
    view (Query.anyOf qs) = qs.flatMap view := by
  unfold Query.anyOf
  split
  · rw [List.flatMap_singleton]
  · exact hview.any qs

/-- Grouping and joining show what the members show, in their order. -/
theorem joinStatements (hview : SeesThrough view) (members : List (Conjunction × Query)) :
    view (joinStatements members) = (mapMembers view members).flatMap Prod.snd := by
  have hgroup : (fun g => view (Query.allOf g)) = fun g => g.flatMap view :=
    funext fun g => hview.allOf g
  calc view (FilterQuery.joinStatements members)
      = ((groups members).map Query.allOf).flatMap view := hview.anyOf _
    _ = (groups members).flatten.flatMap view := by
        rw [List.flatMap_map, hgroup, ← List.flatMap_id', List.flatMap_assoc]
    _ = (mapMembers view members).flatMap Prod.snd := by
        rw [groups_flatten, mapMembers, List.flatMap_map, List.flatMap_map]

/-- A view that sees through connectives shows of a filter what it shows of
its clauses. -/
theorem assemble (hview : SeesThrough view) (ask : Clause → Query) (f : Filter) :
    view (f.assemble ask) = f.clauses.flatMap fun c => view (ask c) := by
  rw [Filter.assemble, Filter.fold_fusion hview.joinStatements, Filter.fold_flatMap]

end Query.SeesThrough

/-! ## Invariants of assembled queries -/

section Invariant

variable {P : Query → Prop}

theorem Query.allOf_invariant (hall : ∀ qs : List Query, (∀ q ∈ qs, P q) → P (.all qs))
    {qs : List Query} (h : ∀ q ∈ qs, P q) : P (Query.allOf qs) := by
  unfold Query.allOf
  split
  · exact h _ (List.mem_singleton.mpr rfl)
  · exact hall _ h

theorem Query.anyOf_invariant (hany : ∀ qs : List Query, (∀ q ∈ qs, P q) → P (.any qs))
    {qs : List Query} (h : ∀ q ∈ qs, P q) : P (Query.anyOf qs) := by
  unfold Query.anyOf
  split
  · exact h _ (List.mem_singleton.mpr rfl)
  · exact hany _ h

theorem joinStatements_invariant (hall : ∀ qs : List Query, (∀ q ∈ qs, P q) → P (.all qs))
    (hany : ∀ qs : List Query, (∀ q ∈ qs, P q) → P (.any qs))
    {members : List (Conjunction × Query)} (h : ∀ m ∈ members, P m.2) :
    P (joinStatements members) := by
  refine Query.anyOf_invariant hany fun q hq => ?_
  obtain ⟨g, hg, rfl⟩ := List.mem_map.mp hq
  refine Query.allOf_invariant hall fun q hq => ?_
  have hmem : q ∈ members.map Prod.snd := by
    rw [← groups_flatten]
    exact List.mem_flatten.mpr ⟨g, hg, hq⟩
  obtain ⟨m, hm, rfl⟩ := List.mem_map.mp hmem
  exact h m hm

/-- What connectives keep and the queries of clauses have, an assembled query
has. -/
theorem Filter.assemble_invariant (hall : ∀ qs : List Query, (∀ q ∈ qs, P q) → P (.all qs))
    (hany : ∀ qs : List Query, (∀ q ∈ qs, P q) → P (.any qs)) {ask : Clause → Query} {f : Filter}
    (h : ∀ c ∈ f.clauses, P (ask c)) : P (f.assemble ask) :=
  Filter.fold_invariant (fun _ hm => joinStatements_invariant hall hany hm) h

end Invariant

/-! ## Conversions -/

namespace Filter

def targets (f : Filter) : List Target := f.clauses.flatMap Clause.targets

/-- A conversion fails with the first clause that is refused. -/
theorem convertWith_of_refused [RegexEngine] {f : Filter} {s : Strategy} {e : ConvertError}
    (h : f.clauses.findSome? (Clause.refusal? s) = some e) : f.convertWith s = .error e := by
  have houtcome := toQuery_outcome s f
  rw [h, settle_some] at houtcome
  simp only [convertWith_eq_run, Session.run, houtcome]

/-- Without a refusal it is left to the required fields. -/
theorem convertWith_of_asks [RegexEngine] {f : Filter} {s : Strategy}
    (h : ∀ c ∈ f.clauses, c.Asks s (c.query s)) :
    f.convertWith s = Session.finish s (Session.start.addAll (f.targets.map Target.field))
      (f.assemble (Clause.query s)).toDocument := by
  rw [convertWith_eq_run, toQuery_of_asks h]
  rfl

/-- A successful conversion is a walk without refusals, and its result is
read off the clauses. -/
theorem convertWith_eq_ok [RegexEngine] {f : Filter} {s : Strategy} {r : ConversionResult} :
    f.convertWith s = .ok r ↔
      (∀ c ∈ f.clauses, c.Asks s (c.query s)) ∧
        s.isMetBy r.fields = true ∧
        r = ⟨Session.start.addAll (f.targets.map Target.field),
          (f.assemble (Clause.query s)).toDocument⟩ := by
  constructor
  · intro h
    cases hrefused : f.clauses.findSome? (Clause.refusal? s) with
    | some e =>
        rw [convertWith_of_refused hrefused] at h
        cases h
    | none =>
        have hasks : ∀ c ∈ f.clauses, c.Asks s (c.query s) := fun c hc =>
          Clause.refusal?_eq_none.mp (List.findSome?_eq_none_iff.mp hrefused c hc)
        rw [convertWith_of_asks hasks] at h
        obtain ⟨u, hmet, hr⟩ := Except.bind_eq_ok_iff.mp h
        cases hr
        refine ⟨hasks, ?_, rfl⟩
        unfold Strategy.assertRequired at hmet
        split at hmet
        · assumption
        · cases hmet
  · rintro ⟨hasks, hmet, rfl⟩
    rw [convertWith_of_asks hasks]
    refine Except.bind_eq_ok_iff.mpr ⟨(), ?_, rfl⟩
    rw [Strategy.assertRequired]
    exact if_pos hmet

end Filter

end FilterQuery
