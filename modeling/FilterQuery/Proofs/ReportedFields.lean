import Mathlib.Data.List.Nodup
import FilterQuery.Proofs.Assembly

/-!
# The fields that a conversion reports

The fields are collected while targets are resolved, one by one and at any
depth of a filter. What comes out is a plain statement about the filter
alone (`fields_eq_firstMentions`): the fields of all targets of all clauses
in reading order, each kept where it is mentioned first.

`FirstMentions` says what that is without a way to compute it. Adding a field
to a session keeps it (`FirstMentions.add`), and with that so does a whole
run.
-/

namespace FilterQuery

/-- A list holds what another one mentions, each once, in the order of first
mention. -/
structure FirstMentions (kept mentioned : List String) : Prop where
  nodup : kept.Nodup
  mem_iff : ∀ x, x ∈ kept ↔ x ∈ mentioned
  inOrder : kept.Pairwise fun x y => mentioned.idxOf x < mentioned.idxOf y

/-! ## Sessions keep first mentions -/

theorem Session.add_of_mem {session : Session} {f : String} (h : f ∈ session) :
    session.add f = session :=
  if_pos (by simpa using h)

theorem Session.add_of_notMem {session : Session} {f : String} (h : f ∉ session) :
    session.add f = session ++ [f] :=
  if_neg (by simpa using h)

/-- What is mentioned later does not move what was mentioned before. -/
theorem FirstMentions.pairwise_append {kept mentioned : List String}
    (h : FirstMentions kept mentioned) (later : List String) :
    kept.Pairwise fun x y => (mentioned ++ later).idxOf x < (mentioned ++ later).idxOf y := by
  refine h.inOrder.imp_of_mem fun {x y} hx hy hlt => ?_
  have hx' : x ∈ mentioned := (h.mem_iff x).mp hx
  have hy' : y ∈ mentioned := (h.mem_iff y).mp hy
  rw [List.idxOf_append_of_mem hx', List.idxOf_append_of_mem hy']
  exact hlt

theorem FirstMentions.add {kept mentioned : List String} (h : FirstMentions kept mentioned)
    (f : String) : FirstMentions (Session.add kept f) (mentioned ++ [f]) := by
  by_cases hf : f ∈ kept
  · have hmem : f ∈ mentioned := (h.mem_iff f).mp hf
    rw [Session.add_of_mem hf]
    refine ⟨h.nodup, fun x => ?_, h.pairwise_append [f]⟩
    rw [h.mem_iff, List.mem_append, List.mem_singleton]
    exact ⟨Or.inl, fun hx => hx.elim id fun hx => hx ▸ hmem⟩
  · have hnew : f ∉ mentioned := fun hm => hf ((h.mem_iff f).mpr hm)
    rw [Session.add_of_notMem hf]
    refine ⟨?_, fun x => ?_, ?_⟩
    · rw [List.nodup_append]
      refine ⟨h.nodup, List.nodup_singleton f, fun x hx y hy => ?_⟩
      rw [List.mem_singleton.mp hy]
      exact fun hxf => hf (hxf ▸ hx)
    · rw [List.mem_append, List.mem_append, h.mem_iff]
    · rw [List.pairwise_append]
      refine ⟨h.pairwise_append [f], List.pairwise_singleton _ f, fun x hx y hy => ?_⟩
      obtain rfl := List.mem_singleton.mp hy
      have hx' : x ∈ mentioned := (h.mem_iff x).mp hx
      -- all that was mentioned stands in front of what is new
      have hlast : (mentioned ++ [y]).idxOf y = mentioned.length := by
        rw [List.idxOf_append_of_notMem hnew]
        simp
      rw [List.idxOf_append_of_mem hx', hlast]
      exact List.idxOf_lt_length_of_mem hx'

theorem FirstMentions.addAll :
    ∀ {kept mentioned : List String} (fs : List String), FirstMentions kept mentioned →
      FirstMentions (Session.addAll kept fs) (mentioned ++ fs)
  | kept, mentioned, [], h => by
      rw [List.append_nil]
      exact h
  | kept, mentioned, f :: rest, h => by
      have hrest := FirstMentions.addAll rest (h.add f)
      rw [List.append_assoc] at hrest
      exact hrest

theorem FirstMentions.start : FirstMentions Session.start [] :=
  ⟨List.nodup_nil, fun _ => Iff.rfl, List.Pairwise.nil⟩

/-! ## Sessions erase duplicates -/

theorem Session.addAll_eq_append_eraseDups (session : Session) (fs : List String) :
    session.addAll fs = session ++ (fs.filter fun f => decide (f ∉ session)).eraseDups := by
  induction fs generalizing session with
  | nil => simp [addAll]
  | cons f rest ih =>
      have hstep : session.addAll (f :: rest) = (session.add f).addAll rest := rfl
      rw [hstep, ih]
      by_cases hf : f ∈ session
      · rw [add_of_mem hf, List.filter_cons_of_neg (by simpa using hf)]
      · have hfilter : (rest.filter fun g => decide (g ∉ session ++ [f]))
            = (rest.filter fun g => decide (g ∉ session)).filter fun g => !g == f := by
          rw [List.filter_filter]
          refine List.filter_congr fun g _ => ?_
          rw [Bool.eq_iff_iff]
          simp [and_comm]
        rw [add_of_notMem hf, List.filter_cons_of_pos (by simpa using hf), List.eraseDups_cons,
          hfilter, List.append_assoc, List.singleton_append]

theorem Session.addAll_start (fs : List String) : start.addAll fs = fs.eraseDups := by
  rw [addAll_eq_append_eraseDups, start, List.nil_append]
  simp

/-! ## The main statement -/

namespace Filter

/-- The fields of the targets of a filter, as often as it mentions them. -/
def mentionedFields (f : Filter) : List String := f.targets.map Target.field

/-- The fields that are reported are those of all targets in reading order,
each at its first mention only. -/
theorem fields_eq_firstMentions [RegexEngine] {f : Filter} {s : Strategy} {r : ConversionResult}
    (h : f.convertWith s = .ok r) :
    r.fields = f.mentionedFields.eraseDups ∧ FirstMentions r.fields f.mentionedFields := by
  obtain ⟨-, -, rfl⟩ := convertWith_eq_ok.mp h
  exact ⟨Session.addAll_start _, FirstMentions.start.addAll _⟩

/-- A filter that mentions two places below one field, one of them in a group
and behind the operator, and a field in front of a constant. -/
def barTwice : Filter :=
  (Filter.ofClause
    ⟨.target ⟨.field "bar", [.index 0]⟩, .relation .eq, .literal (.integer 1)⟩)
    |>.orGroup ((Filter.ofClause
        ⟨.target ⟨.field "foo", []⟩, .relation .lt, .target ⟨.field "bar", [.index 1]⟩⟩).and
      ⟨.literal (.integer 3), .relation .gt, .target ⟨.field "baz", []⟩⟩)
    |>.and ⟨.range ⟨.integer 1, .integer 2⟩, .between, .target ⟨.field "foo", [.field "x"]⟩⟩

def barTwiceDocument : Document :=
  [("$or", .array [
    .object [("bar.0", .integer 1)],
    .object [("$and", .array [
      .object [("$and", .array [
        .object [("$expr", .object [("$lt", .array [.string "$foo", .string "$bar.1"])])],
        .object [("baz", .object [("$lt", .integer 3)])]])],
      .object [("$and", .array [
        .object [("foo.x", .object [("$gte", .integer 1)])],
        .object [("foo.x", .object [("$lte", .integer 2)])]])]])]])]

theorem fields_eq_firstMentions_barTwice :
    barTwice.convertWith .unrestricted = .ok ⟨["/bar", "/foo", "/baz"], barTwiceDocument⟩ ∧
      ["/bar", "/foo", "/baz"] = barTwice.mentionedFields.eraseDups ∧
        FirstMentions ["/bar", "/foo", "/baz"] barTwice.mentionedFields := by
  have hresult : barTwice.convertWith .unrestricted
      = .ok ⟨["/bar", "/foo", "/baz"], barTwiceDocument⟩ := rfl
  exact ⟨hresult, fields_eq_firstMentions hresult⟩

end Filter

end FilterQuery
