import FilterQuery.Proofs.Refusals

/-!
# Rearranged filters

Whether a filter is accepted has nothing to do with how its clauses are put
together. Each clause is judged for itself, and for the required fields it
only counts which fields are mentioned at all (`convertible_iff`). So filters
in which the same clauses occur, in whatever order and groups, however often
and joined by whatever, are accepted together, and they report the same
fields up to order (`convertWith_sameClauses`).
-/

namespace FilterQuery

namespace Filter

/-- A filter can be converted if each of its clauses can and the fields that
they mention are enough. -/
theorem convertible_iff [RegexEngine] {f : Filter} {s : Strategy} :
    (∃ r, f.convertWith s = .ok r) ↔
      (∀ c ∈ f.clauses, c.Asks s (c.query s)) ∧ s.isMetBy f.mentionedFields = true := by
  rw [← s.isMetBy_congr (mem_reported f)]
  constructor
  · rintro ⟨r, h⟩
    obtain ⟨hasks, hmet, rfl⟩ := convertWith_eq_ok.mp h
    exact ⟨hasks, hmet⟩
  · rintro ⟨hasks, hmet⟩
    exact ⟨_, convertWith_eq_ok.mpr ⟨hasks, hmet, rfl⟩⟩

/-- The same clauses occur in two filters, at any place in them. -/
def SameClauses (f g : Filter) : Prop := ∀ c, c ∈ f.clauses ↔ c ∈ g.clauses

namespace SameClauses

variable {f g : Filter}

theorem mem_mentionedFields (h : f.SameClauses g) (field : String) :
    field ∈ f.mentionedFields ↔ field ∈ g.mentionedFields := by
  have htargets : ∀ t, t ∈ f.targets ↔ t ∈ g.targets := by
    intro t
    rw [targets, targets, List.mem_flatMap, List.mem_flatMap]
    exact exists_congr fun c => and_congr_left' (h c)
  rw [mentionedFields, mentionedFields, List.mem_map, List.mem_map]
  exact exists_congr fun t => and_congr_left' (htargets t)

/-- What is reported is a matter of which fields are mentioned, but for the
order. -/
theorem fields_perm [RegexEngine] (h : f.SameClauses g) {s : Strategy} {r r' : ConversionResult}
    (hr : f.convertWith s = .ok r) (hr' : g.convertWith s = .ok r') :
    r.fields.Perm r'.fields := by
  obtain ⟨-, hfirst⟩ := fields_eq_firstMentions hr
  obtain ⟨-, hfirst'⟩ := fields_eq_firstMentions hr'
  rw [List.perm_ext_iff_of_nodup hfirst.nodup hfirst'.nodup]
  intro field
  rw [hfirst.mem_iff, hfirst'.mem_iff, h.mem_mentionedFields]

end SameClauses

/-- Filters in which the same clauses occur are accepted by the same
strategies, with the same fields up to order. -/
theorem convertWith_sameClauses [RegexEngine] {f g : Filter} (h : f.SameClauses g) (s : Strategy) :
    ((∃ r, f.convertWith s = .ok r) ↔ ∃ r, g.convertWith s = .ok r) ∧
      ∀ r r', f.convertWith s = .ok r → g.convertWith s = .ok r' →
        r.fields.Perm r'.fields := by
  refine ⟨?_, fun r r' => h.fields_perm⟩
  rw [convertible_iff, convertible_iff, s.isMetBy_congr h.mem_mentionedFields]
  exact and_congr_left' (forall_congr' fun c => imp_congr_left (h c))

/-- The clauses of `barTwice` backwards, the first of them twice, and in other
groups. -/
def barTwiceBackwards : Filter :=
  (Filter.ofGroup ((Filter.ofClause
      ⟨.range ⟨.integer 1, .integer 2⟩, .between, .target ⟨.field "foo", [.field "x"]⟩⟩).or
    ⟨.literal (.integer 3), .relation .gt, .target ⟨.field "baz", []⟩⟩))
    |>.or ⟨.target ⟨.field "bar", [.index 0]⟩, .relation .eq, .literal (.integer 1)⟩
    |>.and ⟨.target ⟨.field "foo", []⟩, .relation .lt, .target ⟨.field "bar", [.index 1]⟩⟩
    |>.and ⟨.target ⟨.field "bar", [.index 0]⟩, .relation .eq, .literal (.integer 1)⟩

theorem convertWith_sameClauses_barTwice :
    barTwice.SameClauses barTwiceBackwards ∧
      (∃ r, barTwiceBackwards.convertWith .unrestricted = .ok r ∧
        r.fields = ["/foo", "/baz", "/bar"] ∧ ["/bar", "/foo", "/baz"].Perm r.fields) ∧
      ¬∃ r, barTwiceBackwards.convertWith ⟨.allow ["/foo", "/bar"], [], .any⟩ = .ok r := by
  have hsame : barTwice.SameClauses barTwiceBackwards := by
    intro c
    simp only [barTwice, barTwiceBackwards, ofClause, ofGroup, orGroup, Filter.and, Filter.or, push,
      empty, clauses, clausesOf, Statement.clauses, Member.clauses, List.nil_append,
      List.cons_append, List.append_nil, List.mem_cons, List.not_mem_nil, or_false]
    tauto
  have hresult : barTwice.convertWith .unrestricted
      = .ok ⟨["/bar", "/foo", "/baz"], barTwiceDocument⟩ := rfl
  refine ⟨hsame, ?_, ?_⟩
  · obtain ⟨r, hr⟩ := (convertWith_sameClauses hsame .unrestricted).1.mp ⟨_, hresult⟩
    have hperm := (convertWith_sameClauses hsame .unrestricted).2 _ _ hresult hr
    obtain ⟨hfields, -⟩ := fields_eq_firstMentions hr
    exact ⟨r, hr, hfields.trans rfl, hperm⟩
  · rw [← (convertWith_sameClauses hsame _).1]
    rintro ⟨r, hr⟩
    cases hr

end Filter

end FilterQuery
