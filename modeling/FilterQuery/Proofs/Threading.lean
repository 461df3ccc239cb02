import FilterQuery.Conversion
import FilterQuery.Proofs.Folding
import FilterQuery.Proofs.Spelling

/-!
# The program and its traces

The program hands a session from step to step. In every session a step comes
to what its trace comes to and leaves behind the fields of the trace
(`Resolver.Follows`); so it does not depend on what was listed before. Steps
after each other follow traces after each other, and what is left are the two
loops of the program.

Going over a path ends at its first reserved segment, and otherwise with the
key of the whole path (`Target.joinSegments_eq`). Going over statements keeps
the closed groups and the members of the open one; at every point these are
the groups that the statements so far fall into, and the statements to come
only go on from there (`Groups.closed_addFrom`). So the document that is built
is that of the joined queries (`Resolver.build_follows`).
-/

namespace FilterQuery

/-! ## Steps after each other -/

section Steps

variable {α β : Type}

theorem Session.run_bind (session : Session) (t : Trace α) (next : α → Trace β) :
    session.run (t >>= next) =
      match session.run t with
      | (.ok a, session') => session'.run (next a)
      | (.error e, session') => (.error e, session') := by
  rw [Trace.bind_eq_andThen]
  cases h : t.outcome with
  | ok a => simp only [run, Trace.andThen_of_ok h, addAll_append, h]
  | error e => simp only [run, Trace.andThen_of_error h, h]

theorem Session.take_bind (session : Session) (step : Resolver α) (next : α → Resolver β) :
    session.take (step >>= next) =
      match session.take step with
      | (.ok a, session') => session'.take (next a)
      | (.error e, session') => (.error e, session') := by
  have hbind : session.take (step >>= next)
      = StateT.run (ExceptT.bindCont next (session.take step).1) (session.take step).2 := rfl
  rw [hbind]
  rcases session.take step with ⟨e | a, session'⟩
  · rfl
  · rfl

/-- In every session the step comes to what the trace comes to, and adds the
fields of the trace. -/
def Resolver.Follows (step : Resolver α) (t : Trace α) : Prop :=
  ∀ session : Session, session.take step = session.run t

namespace Resolver.Follows

theorem pure (a : α) : Follows (pure a) (pure a) := fun _ => rfl

theorem throw (e : ConvertError) : Follows (throw e : Resolver α) (Trace.fail e) := fun _ => rfl

theorem ofExcept : ∀ outcome : Except ConvertError α,
    Follows (ofExcept outcome) (Trace.ofExcept outcome)
  | .ok _ => fun _ => rfl
  | .error _ => fun _ => rfl

theorem record (field : String) : Follows (record field) (Trace.refer field) := fun _ => rfl

theorem bind {step : Resolver α} {t : Trace α} {next : α → Resolver β} {later : α → Trace β}
    (h : Follows step t) (hnext : ∀ a, Follows (next a) (later a)) :
    Follows (step >>= next) (t >>= later) := by
  intro session
  rw [Session.take_bind, Session.run_bind, h session]
  rcases session.run t with ⟨e | a, session'⟩
  · rfl
  · exact hnext a session'

end Resolver.Follows

end Steps

/-! ## Going over a path -/

/-- The loop over segments, from any key: it fails if one of them is reserved,
and puts them all behind the key if none is. -/
theorem Target.joinSegments_eq (t : Target) : ∀ (segments : List Segment) (key : String),
    t.joinSegments key segments
      = if (segments.map Segment.text).any FilterQuery.isReserved then
          .error (.invalidTarget t.pointer)
        else .ok ((segments.map Segment.text).foldl extendKey key)
  | [], _ => rfl
  | segment :: rest, key => by
      rw [joinSegments, List.map_cons, List.any_cons, List.foldl_cons]
      cases FilterQuery.isReserved segment.text with
      | true => rfl
      | false => exact joinSegments_eq t rest (extendKey key segment.text)

namespace Resolver

theorem resolve_follows (s : Strategy) (t : Target) : Follows (resolve s t) (t.resolve s) := by
  have hloop : t.joinSegments "" t.segments
      = if t.isReserved then .error (.invalidTarget t.pointer) else .ok t.key :=
    t.joinSegments_eq t.segments ""
  rw [resolve, Target.resolve]
  refine .bind (.ofExcept _) fun _ => ?_
  rw [hloop]
  cases t.isReserved with
  | true => exact Follows.throw (.invalidTarget t.pointer)
  | false => exact (Follows.record t.field).bind fun _ => .pure t.key

theorem reference_follows (s : Strategy) (t : Target) :
    Follows (reference s t) (t.reference s) :=
  (resolve_follows s t).bind fun _ => .pure _

theorem translate_follows [RegexEngine] (s : Strategy) (c : Clause) :
    Follows (translate s c) (c.toQuery s) := by
  rw [translate, Clause.toQuery]
  cases c.shape with
  | targetConstant t op object =>
      simp only [Clause.pathQuery]
      cases op.isOther with
      | true => exact .throw _
      | false => exact (resolve_follows s t).bind fun _ => .ofExcept _
  | targetTarget t op u =>
      refine (resolve_follows s t).bind fun _ => (resolve_follows s u).bind fun _ => ?_
      cases op with
      | relation r => exact .pure _
      | _ => exact .throw _
  | constantConstant a op b => exact .ofExcept _

end Resolver

/-! ## Going over statements -/

namespace Groups

/-- The groups of a filter when more statements have been added, the first of
them at the given position. -/
def addFrom : Groups → (position : Nat) → List (Conjunction × Document) → Groups
  | g, _, [] => g
  | g, position, (conjunction, fragment) :: rest =>
      addFrom ((g.turn position conjunction).push fragment) (position + 1) rest

/-- Behind the first statement, the closed groups stay as they are, the open
one is continued up to the next `or`, and each `or` opens another. -/
theorem closed_addFrom : ∀ (members : List (Conjunction × Document)) (g : Groups) (position : Nat),
    0 < position →
      (g.addFrom position members).close.anyOf
        = g.anyOf
          ++ ((g.allOf ++ (splitAtOr members).1) :: (splitAtOr members).2).map collapse
  | [], g, _, _ => by simp [addFrom, close, splitAtOr]
  | (.and, fragment) :: rest, g, position, hposition => by
      have hturn : g.turn position .and = g := if_neg (by simp)
      rw [addFrom, closed_addFrom rest _ _ (Nat.succ_pos _), hturn]
      simp [push, splitAtOr]
  | (.or, fragment) :: rest, g, position, hposition => by
      have hturn : g.turn position .or = g.close := if_pos (by simpa using hposition)
      rw [addFrom, closed_addFrom rest _ _ (Nat.succ_pos _), hturn]
      simp [push, close, splitAtOr]

/-- The first statement closes no group, whatever it says about joining. -/
theorem closed_addFrom_start (members : List (Conjunction × Document)) :
    (addFrom {} 0 members).close.anyOf = (groups members).map collapse := by
  cases members with
  | nil => rfl
  | cons m rest => exact closed_addFrom rest _ 1 Nat.one_pos

end Groups

/-! ## Documents of groups -/

theorem splitAtOr_map {α β : Type} (g : α → β) (rest : List (Conjunction × α)) :
    splitAtOr (mapMembers g rest)
      = ((splitAtOr rest).1.map g, (splitAtOr rest).2.map (·.map g)) := by
  induction rest with
  | nil => rfl
  | cons m rest ih =>
      obtain ⟨conjunction, a⟩ := m
      rw [mapMembers] at ih
      cases conjunction with
      | and => simp [mapMembers, splitAtOr, ih]
      | or => simp [mapMembers, splitAtOr, ih]

theorem groups_map {α β : Type} (g : α → β) (members : List (Conjunction × α)) :
    groups (mapMembers g members) = (groups members).map (·.map g) := by
  cases members with
  | nil => rfl
  | cons m rest =>
      have hrest := splitAtOr_map g rest
      rw [mapMembers] at hrest
      simp [mapMembers, groups, hrest]

theorem Query.map_object_map_toDocument (qs : List Query) :
    (qs.map toDocument).map Value.object = documents qs := by
  rw [documents_eq_map, List.map_map]
  rfl

theorem collapse_map_toDocument : ∀ qs : List Query,
    collapse (qs.map Query.toDocument) = (Query.allOf qs).toDocument
  | [] => rfl
  | [_] => rfl
  | q :: r :: rest => by
      show Entries.single "$and"
        (Value.array (((q :: r :: rest).map Query.toDocument).map Value.object)) = _
      rw [Query.map_object_map_toDocument]
      rfl

namespace Groups

/-- A filter is any of its groups, the open one included. -/
theorem document_of_closed {g : Groups} {qs : List Query}
    (h : g.close.anyOf = qs.map Query.toDocument) : g.document = (Query.anyOf qs).toDocument := by
  obtain ⟨closed, members⟩ := g
  cases closed with
  | nil =>
      obtain ⟨q, rfl, hq⟩ := List.map_eq_singleton_iff.mp h.symm
      exact hq.symm
  | cons first rest =>
      have hmany : ∀ q, qs ≠ [q] := by
        rintro q rfl
        simp [close] at h
      rw [document, h, Query.map_object_map_toDocument, Query.anyOf, Query.toDocument]
      · rfl
      · exact hmany

theorem document_addFrom (members : List (Conjunction × Query)) :
    (addFrom {} 0 (mapMembers Query.toDocument members)).document
      = (joinStatements members).toDocument := by
  refine document_of_closed ?_
  rw [closed_addFrom_start, groups_map, List.map_map, List.map_map]
  exact List.map_congr_left fun g _ => collapse_map_toDocument g

end Groups

/-! ## Building -/

namespace Resolver

mutual

theorem buildMember_follows [RegexEngine] (s : Strategy) : ∀ m : Member,
    Follows (buildMember s m) (m.toQuery s >>= fun q => pure q.toDocument)
  | .clause c => by
      rw [buildMember, Member.toQuery]
      exact (translate_follows s c).bind fun _ => .pure _
  | .group f => by
      rw [buildMember, Member.toQuery]
      exact build_follows s f

/-- Building a filter comes to the document of its query. -/
theorem build_follows [RegexEngine] (s : Strategy) : ∀ f : Filter,
    Follows (build s f) (f.toQuery s >>= fun q => pure q.toDocument)
  | ⟨statements⟩ => by
      have hloop := (buildFrom_follows s statements 0 {}).bind fun g => .pure g.document
      rw [build, Filter.toQuery]
      simpa only [bind_assoc, pure_bind, Groups.document_addFrom] using hloop

theorem buildFrom_follows [RegexEngine] (s : Strategy) :
    ∀ (ss : List Statement) (position : Nat) (g : Groups),
      Follows (buildFrom s position g ss)
        (statementQueries s ss >>= fun members =>
          pure (g.addFrom position (mapMembers Query.toDocument members)))
  | [], _, g => .pure g
  | ⟨conjunction, m⟩ :: rest, position, g => by
      have hstep := (buildMember_follows s m).bind fun fragment =>
        buildFrom_follows s rest (position + 1) ((g.turn position conjunction).push fragment)
      rw [buildFrom, statementQueries, Statement.toQuery]
      simpa only [bind_assoc, pure_bind, mapMembers, List.map_cons, Groups.addFrom] using hstep

end

end Resolver

theorem Session.build_eq_run [RegexEngine] (s : Strategy) (session : Session) (f : Filter) :
    session.build s f = session.run (f.toQuery s >>= fun q => pure q.toDocument) :=
  Resolver.build_follows s f session

/-- A conversion is a run of the trace of the filter, from a session without
fields. -/
theorem Filter.convertWith_eq_run [RegexEngine] (f : Filter) (s : Strategy) :
    f.convertWith s =
      match Session.start.run (f.toQuery s) with
      | (.ok query, session) => session.finish s query.toDocument
      | (.error e, _) => .error e := by
  rw [convertWith, Session.build_eq_run, Session.run_bind]
  rcases Session.start.run (f.toQuery s) with ⟨e | q, session⟩
  · rfl
  · rfl

end FilterQuery
