import FilterQuery.Proofs.ReportedFields

/-!
# A strategy only screens

A strategy has no say in what a filter is translated to. Convert the filter
without restrictions, look at the fields that are reported, and let through
or refuse: that is all a strategy does to a filter that can be converted at
all (`convertWith_of_convert`), though its checks are spread over the whole
walk and run on every target. `convertWith_eq_ok_iff_convert` says so for
both outcomes, and which field a refusal names.

Two things carry this. Acceptance of a clause splits into acceptance without
restrictions and permission for each of its targets (`Clause.Asks.transfer`),
with the same query; and the first target that is not permitted is also the
first among the reported fields, as a session keeps first mentions
(`Session.find?_addAll`).
-/

namespace FilterQuery

/-! ## Breaches of a field list -/

/-- The error for a field that is not permitted. -/
def Strategy.breach (s : Strategy) (field : String) : ConvertError :=
  if s.isDenyList then .deniedField field else .unallowedField field

/-- The first field that is not permitted. -/
def Strategy.breached? (s : Strategy) (fields : List String) : Option String :=
  fields.find? fun field => !s.permits field

theorem Strategy.breached?_eq_none {s : Strategy} {fields : List String} :
    s.breached? fields = none ↔ ∀ field ∈ fields, s.permits field = true := by
  simp [breached?]

theorem Session.find?_addAll (p : String → Bool) (session : Session) (fs : List String) :
    (session.addAll fs).find? p = (session ++ fs).find? p := by
  induction fs generalizing session with
  | nil => rw [List.append_nil, addAll, List.foldl_nil]
  | cons f rest ih =>
      have hstep : session.addAll (f :: rest) = (session.add f).addAll rest := rfl
      rw [hstep, ih]
      by_cases hf : f ∈ session
      · -- the field was found before, or it is not what is looked for
        rw [add_of_mem hf, List.find?_append, List.find?_append]
        cases hfound : session.find? p with
        | some g => rfl
        | none =>
            have hpf : ¬p f = true := List.find?_eq_none.mp hfound f hf
            rw [List.find?_cons_of_neg hpf]
      · rw [add_of_notMem hf, List.append_assoc, List.singleton_append]

theorem Strategy.breached?_addAll_start (s : Strategy) (fs : List String) :
    s.breached? (Session.start.addAll fs) = s.breached? fs := by
  rw [breached?, Session.find?_addAll, Session.start, List.nil_append, breached?]

/-! ## Targets -/

theorem Target.resolve_of_breach {s : Strategy} {t : Target} (h : s.permits t.field = false) :
    t.resolve s = ⟨[], .error (s.breach t.field)⟩ := by
  have hdenied : s.assertAllowed t = .error (s.breach t.field) := by
    rw [Strategy.assertAllowed, Strategy.breach, h, if_neg Bool.false_ne_true]
    split <;> rfl
  rw [resolve, hdenied]
  rfl

/-! ## Clauses -/

namespace Clause

theorem Asks.query_eq [RegexEngine] {s : Strategy} {c : Clause} {q : Query} (h : c.Asks s q) :
    c.query s = q := by
  rw [query, h.toQuery_eq]

/-- What an accepted clause asks under one strategy, it asks under every
strategy that permits its targets. -/
theorem Asks.transfer [RegexEngine] {s s' : Strategy} {c : Clause} {q : Query} (h : c.Asks s q)
    (hpermits : ∀ t ∈ c.targets, s'.permits t.field = true) : c.Asks s' q := by
  have haccepted : ∀ t ∈ c.targets, t.Accepted s' := fun t ht =>
    ⟨hpermits t ht, (h.accepted ht).unreserved⟩
  rw [targets_eq_shape] at haccepted
  cases h with
  | @field t op object _ hshape ht hq =>
      rw [hshape] at haccepted
      exact .field hshape (haccepted t (by simp)) hq
  | @fields t u r hshape ht hu =>
      rw [hshape] at haccepted
      exact .fields hshape (haccepted t (by simp)) (haccepted u (by simp))
  | constants hshape hq => exact .constants hshape hq

/-- Of two targets the subject is judged first. -/
theorem pathsQuery_of_breach {s : Strategy} {t u : Target} {field : String} (op : Operator)
    (ht : t.isReserved = false) (hbreach : s.breached? [t.field, u.field] = some field) :
    (pathsQuery s t op u).outcome = .error (s.breach field) := by
  rw [Strategy.breached?] at hbreach
  cases hpermits : s.permits t.field with
  | false =>
      rw [List.find?_cons_of_pos (by simp [hpermits])] at hbreach
      obtain rfl := Option.some.inj hbreach
      rw [pathsQuery, Target.resolve_of_breach hpermits]
      rfl
  | true =>
      rw [List.find?_cons_of_neg (by simp [hpermits])] at hbreach
      obtain rfl := List.mem_singleton.mp (List.mem_of_find?_eq_some hbreach)
      have hdenied : s.permits u.field = false := by simpa using List.find?_some hbreach
      rw [pathsQuery, Target.resolve_of_accepted ⟨hpermits, ht⟩, Target.resolve_of_breach hdenied]
      rfl

/-- A clause that is accepted without restrictions is refused for the first
of its targets that is not permitted. -/
theorem Asks.refusal?_of_breached [RegexEngine] {s : Strategy} {c : Clause} {q : Query}
    {field : String} (h : c.Asks .unrestricted q)
    (hbreach : s.breached? (c.targets.map Target.field) = some field) :
    c.refusal? s = some (s.breach field) := by
  rw [targets_eq_shape] at hbreach
  cases h with
  | @field t op object _ hshape ht hq =>
      rw [hshape] at hbreach
      obtain rfl := List.mem_singleton.mp (List.mem_of_find?_eq_some hbreach)
      have hdenied : s.permits t.field = false := by simpa using List.find?_some hbreach
      refine refusal?_eq_some.mpr ?_
      have hrefused := pathQuery_of_refused hq.isOther_eq_false (Target.resolve_of_breach hdenied)
      rw [toQuery, hshape]
      simp only [hrefused]
  | @fields t u r hshape ht hu =>
      rw [hshape] at hbreach
      refine refusal?_eq_some.mpr ?_
      rw [toQuery, hshape]
      exact pathsQuery_of_breach _ ht.unreserved hbreach
  | constants hshape hq =>
      rw [hshape] at hbreach
      cases hbreach

theorem Asks.refusal?_eq [RegexEngine] {c : Clause}
    {q : Query} (h : c.Asks .unrestricted q) (s : Strategy) :
    c.refusal? s = (s.breached? (c.targets.map Target.field)).map s.breach := by
  cases hbreach : s.breached? (c.targets.map Target.field) with
  | some field => exact h.refusal?_of_breached hbreach
  | none =>
      have hpermits : ∀ t ∈ c.targets, s.permits t.field = true :=
        List.forall_mem_map.mp (Strategy.breached?_eq_none.mp hbreach)
      have hasks : c.Asks s q := h.transfer hpermits
      rw [Option.map_none, refusal?_eq_none, hasks.query_eq]
      exact hasks

end Clause

/-! ## Filters -/

theorem findSome?_refusal? [RegexEngine] (s : Strategy) :
    ∀ {cs : List Clause}, (∀ c ∈ cs, c.Asks .unrestricted (c.query .unrestricted)) →
      cs.findSome? (Clause.refusal? s)
        = (s.breached? ((cs.flatMap Clause.targets).map Target.field)).map s.breach
  | [], _ => rfl
  | c :: rest, h => by
      obtain ⟨hc, hrest⟩ := List.forall_mem_cons.mp h
      rw [List.findSome?_cons, hc.refusal?_eq s, findSome?_refusal? s hrest, List.flatMap_cons,
        List.map_append, Strategy.breached?, Strategy.breached?, Strategy.breached?,
        List.find?_append]
      cases (c.targets.map Target.field).find? fun field => !s.permits field <;> rfl

/-- Clauses that are accepted under one strategy are accepted under every
strategy that permits their targets, and ask the same. -/
theorem Filter.asks_transfer [RegexEngine] {f : Filter} {s s' : Strategy}
    (hasks : ∀ c ∈ f.clauses, c.Asks s (c.query s))
    (hpermits : ∀ t ∈ f.targets, s'.permits t.field = true) :
    (∀ c ∈ f.clauses, c.Asks s' (c.query s')) ∧
      f.assemble (Clause.query s') = f.assemble (Clause.query s) := by
  have hasks' : ∀ c ∈ f.clauses, c.Asks s' (c.query s) := fun c hc =>
    (hasks c hc).transfer fun t ht => hpermits t (List.mem_flatMap.mpr ⟨c, hc, ht⟩)
  have hquery : ∀ c ∈ f.clauses, c.query s' = c.query s := fun c hc => (hasks' c hc).query_eq
  refine ⟨fun c hc => ?_, Filter.fold_congr hquery⟩
  rw [hquery c hc]
  exact hasks' c hc

/-! ## Screening -/

/-- What a strategy makes of a conversion without restrictions. -/
def Strategy.screen (s : Strategy) (r : ConversionResult) : Except ConvertError ConversionResult :=
  match s.breached? r.fields with
  | some field => .error (s.breach field)
  | none => if s.isMetBy r.fields then .ok r else .error (.requiredField s.required s.mode)

theorem Strategy.screen_of_permits {s : Strategy} {r : ConversionResult}
    (h : ∀ field ∈ r.fields, s.permits field = true) :
    s.screen r
      = if s.isMetBy r.fields then .ok r else .error (.requiredField s.required s.mode) := by
  rw [screen, breached?_eq_none.mpr h]

theorem Strategy.screen_eq_ok {s : Strategy} {r : ConversionResult} :
    s.screen r = .ok r ↔
      (∀ field ∈ r.fields, s.permits field = true) ∧ s.isMetBy r.fields = true := by
  constructor
  · intro h
    cases hbreach : s.breached? r.fields with
    | some field =>
        rw [screen, hbreach] at h
        cases h
    | none =>
        have hpermits := breached?_eq_none.mp hbreach
        rw [screen_of_permits hpermits] at h
        split at h
        · exact ⟨hpermits, ‹_›⟩
        · cases h
  · rintro ⟨hpermits, hmet⟩
    rw [screen_of_permits hpermits, if_pos hmet]

theorem Session.finish_eq (s : Strategy) (session : Session) (document : Document) :
    session.finish s document
      = if s.isMetBy session then .ok ⟨session, document⟩
        else .error (.requiredField s.required s.mode) := by
  rw [finish, Strategy.assertRequired]
  split <;> rfl

namespace Filter

/-- A filter that can be converted without restrictions is screened. -/
theorem convertWith_of_convert [RegexEngine] {f : Filter}
    {r : ConversionResult} (h : f.convert = .ok r) (s : Strategy) :
    f.convertWith s = s.screen r := by
  obtain ⟨hasks, -, rfl⟩ := convertWith_eq_ok.mp h
  cases hbreach : s.breached? (f.targets.map Target.field) with
  | some field =>
      -- no clause is refused for anything but a field, so the first one is named
      have hrefusal := findSome?_refusal? s hasks
      rw [← targets, hbreach] at hrefusal
      rw [convertWith_of_refused hrefusal, Strategy.screen, Strategy.breached?_addAll_start, hbreach]
  | none =>
      have hpermits := List.forall_mem_map.mp (Strategy.breached?_eq_none.mp hbreach)
      obtain ⟨hasks', hassemble⟩ := asks_transfer hasks hpermits
      rw [convertWith_of_asks hasks', Session.finish_eq, hassemble, Strategy.screen,
        Strategy.breached?_addAll_start, hbreach]

theorem convert_of_convertWith [RegexEngine] {f : Filter} {s : Strategy} {r : ConversionResult}
    (h : f.convertWith s = .ok r) : f.convert = .ok r := by
  obtain ⟨hasks, -, rfl⟩ := convertWith_eq_ok.mp h
  have hpermits : ∀ t ∈ f.targets, Strategy.unrestricted.permits t.field = true := fun _ _ => rfl
  obtain ⟨hasks', hassemble⟩ := asks_transfer hasks hpermits
  rw [convert, convertWith_of_asks hasks', Session.finish_eq, hassemble]
  rfl

/-- A filter is converted under a strategy exactly with what it is converted
to without one, if the strategy permits all fields that are reported and is
met by them. Otherwise the first field that is not permitted is named, and if
there is none, the required fields are. -/
theorem convertWith_eq_ok_iff_convert [RegexEngine]
    (f : Filter) (s : Strategy) (r : ConversionResult) :
    (f.convertWith s = .ok r ↔
        f.convert = .ok r ∧ (∀ field ∈ r.fields, s.permits field = true) ∧
          s.isMetBy r.fields = true) ∧
      (f.convert = .ok r → (∃ field ∈ r.fields, s.permits field = false) →
        ∃ field, r.fields.find? (fun x => !s.permits x) = some field ∧
          f.convertWith s
            = .error (if s.isDenyList then .deniedField field else .unallowedField field)) ∧
      (f.convert = .ok r → (∀ field ∈ r.fields, s.permits field = true) →
        s.isMetBy r.fields = false →
        f.convertWith s = .error (.requiredField s.required s.mode)) := by
  refine ⟨⟨fun h => ?_, fun ⟨hconvert, hscreen⟩ => ?_⟩, fun hconvert hbreach => ?_,
    fun hconvert hpermits hmet => ?_⟩
  · have hconvert := convert_of_convertWith h
    rw [convertWith_of_convert hconvert] at h
    exact ⟨hconvert, Strategy.screen_eq_ok.mp h⟩
  · rw [convertWith_of_convert hconvert]
    exact Strategy.screen_eq_ok.mpr hscreen
  · rw [convertWith_of_convert hconvert, Strategy.screen]
    cases hfound : s.breached? r.fields with
    | some field => exact ⟨field, hfound, rfl⟩
    | none =>
        obtain ⟨field, hfield, hdenied⟩ := hbreach
        rw [Strategy.breached?_eq_none.mp hfound field hfield] at hdenied
        cases hdenied
  · rw [convertWith_of_convert hconvert, Strategy.screen_of_permits hpermits, hmet]
    rfl

/-- All of `/bar`, `/foo` and `/baz` are reported of this filter: a strategy
lets it through, one refuses `/foo` before `/baz`, and one misses a field. -/
theorem convertWith_eq_ok_iff_convert_barTwice :
    barTwice.convertWith ⟨.allow ["/foo", "/baz", "/bar"], ["/baz", "/foo"], .all⟩
        = .ok ⟨["/bar", "/foo", "/baz"], barTwiceDocument⟩ ∧
      barTwice.convertWith ⟨.deny ["/baz", "/foo"], [], .any⟩ = .error (.deniedField "/foo") ∧
      barTwice.convertWith ⟨.unrestricted, ["/id", "/key"], .any⟩
        = .error (.requiredField ["/id", "/key"] .any) := by
  have hconvert : barTwice.convert = .ok ⟨["/bar", "/foo", "/baz"], barTwiceDocument⟩ := rfl
  refine ⟨?_, ?_, ?_⟩
  · exact (convertWith_eq_ok_iff_convert _ _ _).1.mpr ⟨hconvert, by decide, by decide⟩
  · obtain ⟨field, hfound, hrefused⟩ := (convertWith_eq_ok_iff_convert barTwice
      ⟨.deny ["/baz", "/foo"], [], .any⟩ _).2.1 hconvert ⟨"/baz", by decide, by decide⟩
    obtain rfl : "/foo" = field := Option.some.inj hfound
    exact hrefused
  · exact (convertWith_eq_ok_iff_convert barTwice _ _).2.2 hconvert (fun _ _ => rfl) (by decide)

end Filter

end FilterQuery
