import FilterQuery.Proofs.Assembly

/-!
# Calls on one session

A session takes calls: to resolve or to reference a target, to translate a
clause, to build a filter. A call can fail half-way, a comparison of two
targets after the first of them and a filter in the middle of a group, and
the session goes on with what was recorded until then.

`Trace.Records` says what is recorded also by a step that fails: the fields
of the targets at the front of those it was given, each of them accepted.
Steps after each other keep that (`Trace.Records.bind`), so the trace of every
call has it (`Call.records`), and a call follows its trace
(`Call.step_follows`). The invariant of a session (`Session.Accounted`) is then
kept by a call, whatever comes of it, and by any run of calls.
-/

namespace FilterQuery

/-! ## What a step records -/

/-- A step records the fields of the targets it was given, in order and each
of them accepted: of all if it succeeds, and of some at the front if not. -/
inductive Trace.Records {α : Type} (s : Strategy) (targets : List Target) : Trace α → Prop where
  | whole (a : α) (haccepted : ∀ t ∈ targets, t.Accepted s) :
      Records s targets ⟨targets.map Target.field, .ok a⟩
  | cut {front rest : List Target} (e : ConvertError) (hcut : targets = front ++ rest)
      (haccepted : ∀ t ∈ front, t.Accepted s) :
      Records s targets ⟨front.map Target.field, .error e⟩

namespace Trace.Records

variable {α β : Type} {s : Strategy} {targets : List Target}

theorem fail (e : ConvertError) : (Trace.fail e : Trace α).Records s targets :=
  .cut e (List.nil_append targets).symm (List.forall_mem_nil _)

theorem ofExcept : ∀ outcome : Except ConvertError α, (Trace.ofExcept outcome).Records s []
  | .ok a => .whole a (List.forall_mem_nil _)
  | .error e => fail e

theorem bind {t : Trace α} {next : α → Trace β} {later : List Target}
    (ht : t.Records s targets) (hnext : ∀ a, (next a).Records s later) :
    (t >>= next).Records s (targets ++ later) := by
  rw [bind_eq_andThen]
  cases ht with
  | cut e hcut haccepted =>
      rw [andThen_of_error rfl]
      exact .cut e (by rw [hcut, List.append_assoc]) haccepted
  | whole a haccepted =>
      rw [andThen_of_ok rfl]
      -- the second step is cut or not, and behind what the first one records
      have hlater := hnext a
      generalize next a = u at hlater ⊢
      cases hlater with
      | whole b haccepted' =>
          rw [← List.map_append]
          exact .whole b (List.forall_mem_append.mpr ⟨haccepted, haccepted'⟩)
      | cut e hcut haccepted' =>
          rw [← List.map_append]
          exact .cut e (by rw [hcut, List.append_assoc])
            (List.forall_mem_append.mpr ⟨haccepted, haccepted'⟩)

theorem map {t : Trace α} (ht : t.Records s targets) (g : α → β) :
    (t >>= fun a => pure (g a)).Records s targets := by
  have h := ht.bind fun a => ofExcept (.ok (g a))
  rwa [List.append_nil] at h

/-- Nothing is recorded but accepted targets. -/
theorem exists_target {t : Trace α} (ht : t.Records s targets) {field : String}
    (hfield : field ∈ t.fields) : ∃ u ∈ targets, u.Accepted s ∧ u.field = field := by
  cases ht with
  | whole a haccepted =>
      obtain ⟨u, hu, rfl⟩ := List.mem_map.mp hfield
      exact ⟨u, hu, haccepted u hu, rfl⟩
  | cut e hcut haccepted =>
      obtain ⟨u, hu, rfl⟩ := List.mem_map.mp hfield
      exact ⟨u, hcut ▸ List.mem_append_left _ hu, haccepted u hu, rfl⟩

end Trace.Records

theorem Target.resolve_records (s : Strategy) (t : Target) : (t.resolve s).Records s [t] := by
  by_cases ht : t.Accepted s
  · rw [resolve_of_accepted ht]
    exact .whole t.key fun u hu => List.mem_singleton.mp hu ▸ ht
  · obtain ⟨e, he⟩ := resolve_of_not_accepted ht
    rw [he]
    exact .fail e

namespace Clause

theorem pathQuery_records [RegexEngine]
    (s : Strategy) (t : Target) (op : Operator) (object : Constant) :
    (pathQuery s t op object).Records s [t] := by
  unfold pathQuery
  split
  · exact .fail _
  · exact (t.resolve_records s).bind fun key => .ofExcept (condition key op object)

/-- Both targets are resolved before the operator is looked at, so both may
stay recorded though the clause is refused. -/
theorem pathsQuery_records (s : Strategy) (t : Target) (op : Operator) (u : Target) :
    (pathsQuery s t op u).Records s [t, u] := by
  refine (t.resolve_records s).bind fun left => ?_
  refine (u.resolve_records s).bind fun right => (?_ : Trace.Records s [] _)
  split
  · exact .ofExcept (.ok _)
  · exact .fail _

theorem toQuery_records [RegexEngine] (s : Strategy) (c : Clause) :
    (c.toQuery s).Records s c.targets := by
  rw [targets_eq_shape, toQuery]
  cases c.shape with
  | targetConstant t op object => exact pathQuery_records s t op object
  | targetTarget t op u => exact pathsQuery_records s t op u
  | constantConstant a op b => exact .ofExcept (constantsQuery a op b)

end Clause

theorem walk_records [RegexEngine] (s : Strategy) : ∀ cs : List Clause,
    (walk s cs).Records s (cs.flatMap Clause.targets)
  | [] => .ofExcept (.ok ())
  | c :: rest => (c.toQuery_records s).bind fun _ => walk_records s rest

theorem Filter.toQuery_records [RegexEngine] (s : Strategy) (f : Filter) :
    (f.toQuery s).Records s f.targets := by
  rw [toQuery_eq_walk]
  exact (walk_records s f.clauses).map fun _ => f.assemble (Clause.query s)

/-! ## Calls -/

/-- What a session can be asked for. -/
inductive Call where
  | resolve (target : Target)
  | reference (target : Target)
  | translate (clause : Clause)
  | build (filter : Filter)

/-- What a call returns: the key or the reference of a target, or the
document of a clause or of a filter. -/
inductive Reply where
  | text (text : String)
  | document (document : Document)

namespace Call

/-- The targets that are passed in with a call. -/
def targets : Call → List Target
  | .resolve t => [t]
  | .reference t => [t]
  | .translate c => c.targets
  | .build f => f.targets

/-- The step that a call takes. -/
def step [RegexEngine] (s : Strategy) : Call → Resolver Reply
  | .resolve t => do return .text (← Resolver.resolve s t)
  | .reference t => do return .text (← Resolver.reference s t)
  | .translate c => do return .document (← Resolver.translate s c).toDocument
  | .build f => do return .document (← Resolver.build s f)

def trace [RegexEngine] (s : Strategy) : Call → Trace Reply
  | .resolve t => do return .text (← t.resolve s)
  | .reference t => do return .text (← t.reference s)
  | .translate c => do return .document (← c.toQuery s).toDocument
  | .build f => do return .document (← f.toQuery s).toDocument

theorem step_follows [RegexEngine] (s : Strategy) (call : Call) :
    Resolver.Follows (call.step s) (call.trace s) := by
  cases call with
  | resolve t => exact (Resolver.resolve_follows s t).bind fun _ => .pure _
  | reference t => exact (Resolver.reference_follows s t).bind fun _ => .pure _
  | translate c => exact (Resolver.translate_follows s c).bind fun _ => .pure _
  | build f =>
      have hbuild := (Resolver.build_follows s f).bind fun d => .pure (Reply.document d)
      rw [bind_assoc] at hbuild
      exact hbuild

theorem records [RegexEngine] (s : Strategy) (call : Call) :
    (call.trace s).Records s call.targets := by
  cases call with
  | resolve t => exact (t.resolve_records s).map _
  | reference t => exact ((t.resolve_records s).map referenceTo).map _
  | translate c => exact (c.toQuery_records s).map _
  | build f => exact (f.toQuery_records s).map _

end Call

namespace Session

/-- Make a call: what it returns, and the session after it. -/
def call [RegexEngine] (s : Strategy) (session : Session) (call : Call) :
    Except ConvertError Reply × Session :=
  session.take (call.step s)

/-- The session after some calls. The next one is made whether or not a call
succeeds. -/
def callAll [RegexEngine] (s : Strategy) (session : Session) (calls : List Call) : Session :=
  calls.foldl (fun session call => (session.call s call).2) session

theorem callAll_append [RegexEngine] (s : Strategy) (session : Session) (calls later : List Call) :
    session.callAll s (calls ++ later) = (session.callAll s calls).callAll s later :=
  List.foldl_append

theorem call_eq_run [RegexEngine] (s : Strategy) (session : Session) (call : Call) :
    session.call s call = session.run (call.trace s) :=
  call.step_follows s session

/-! ### One call -/

theorem prefix_call [RegexEngine] (s : Strategy) (session : Session) (call : Call) :
    session <+: (session.call s call).2 := by
  rw [call_eq_run]
  exact prefix_addAll session _

/-- A session holds no field twice, and each for an accepted target among
those that were passed in. -/
structure Accounted (s : Strategy) (targets : List Target) (session : Session) : Prop where
  nodup : session.Nodup
  exists_target : ∀ field ∈ session, ∃ t ∈ targets, t.Accepted s ∧ t.field = field

theorem Accounted.start (s : Strategy) : Accounted s [] start :=
  ⟨List.nodup_nil, List.forall_mem_nil _⟩

theorem Accounted.call [RegexEngine] {s : Strategy} {targets : List Target} {session : Session}
    (h : Accounted s targets session) (call : Call) :
    Accounted s (targets ++ call.targets) (session.call s call).2 := by
  rw [call_eq_run]
  refine ⟨nodup_addAll h.nodup _, fun field hfield => ?_⟩
  rcases mem_addAll.mp hfield with hold | hnew
  · obtain ⟨t, ht, hfound⟩ := h.exists_target field hold
    exact ⟨t, List.mem_append_left _ ht, hfound⟩
  · obtain ⟨t, ht, hfound⟩ := (call.records s).exists_target hnew
    exact ⟨t, List.mem_append_right _ ht, hfound⟩

/-! ### Runs of calls -/

theorem prefix_callAll [RegexEngine] (s : Strategy) : ∀ (session : Session) (calls : List Call),
    session <+: session.callAll s calls
  | session, [] => List.prefix_refl session
  | session, call :: rest => (prefix_call s session call).trans (prefix_callAll s _ rest)

theorem Accounted.callAll [RegexEngine] {s : Strategy} :
    ∀ {targets : List Target} {session : Session},
    Accounted s targets session → ∀ calls : List Call,
      Accounted s (targets ++ calls.flatMap Call.targets) (session.callAll s calls)
  | targets, _, h, [] => by
      rw [List.flatMap_nil, List.append_nil]
      exact h
  | targets, _, h, call :: rest => by
      have hrest := Accounted.callAll (h.call call) rest
      rwa [List.append_assoc] at hrest

/-- However calls follow each other and whichever of them fail: no field is
recorded twice, each is permitted and the field of a target that was passed
in and has no reserved segment, and what was recorded stays in front of what
is recorded later. -/
theorem callAll_invariant [RegexEngine] (s : Strategy) (calls : List Call) :
    (start.callAll s calls).Nodup ∧
      (∀ field ∈ start.callAll s calls, s.permits field = true ∧
        ∃ t ∈ calls.flatMap Call.targets, t.isReserved = false ∧ t.field = field) ∧
      ∀ later : List Call, start.callAll s calls <+: start.callAll s (calls ++ later) := by
  have haccounted := (Accounted.start s).callAll calls
  refine ⟨haccounted.nodup, fun field hfield => ?_, fun later => ?_⟩
  · obtain ⟨t, ht, haccepted, rfl⟩ := haccounted.exists_target field hfield
    exact ⟨haccepted.permitted, t, ht, haccepted.unreserved, rfl⟩
  · rw [callAll_append]
    exact prefix_callAll s _ later

/-- The first call fails at its second target and the second one at its
operator. Their targets stay recorded, up to the one that is denied. -/
example :
    start.callAll ⟨.deny ["/bar"], [], .any⟩
      [.translate ⟨.target ⟨.field "foo", []⟩, .relation .lt, .target ⟨.field "bar", []⟩⟩,
        .build (.ofClause
          ⟨.target ⟨.field "baz", []⟩, .like, .target ⟨.field "foo", [.field "x"]⟩⟩),
        .resolve ⟨.field "foo", [.index 0]⟩]
      = ["/foo", "/baz"] := rfl

end Session

end FilterQuery
