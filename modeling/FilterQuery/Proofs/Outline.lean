import Mathlib.Data.List.SplitBy
import FilterQuery.Proofs.Assembly

/-!
# The outline of a filter's document

What the document of a filter is, without saying how it is found: cut the
statements before each `or` but the first statement, join the members of a
piece by `$and` and the pieces by `$or`, and leave out a connective that
would have one member. `Filter.outline` says this of documents alone, given
a fragment for each clause; it knows no queries, no strategy and no session.

`build_eq_outline` is the refinement: in any session, hence after any earlier
builds and however they ended, building a filter fails with the error of the
first clause in reading order that is refused on its own, and otherwise ends
with the outlined document over the fragments the clauses have on their own.
-/

namespace FilterQuery

/-! ## Outlines -/

/-- Whether a member stays in the piece of the one before it. -/
def joinsAnd {α : Type} : Conjunction × α → Conjunction × α → Bool
  | _, (.and, _) => true
  | _, (.or, _) => false

/-- The pieces that a list falls into when it is cut before each member
tagged `or`, the first member apart. An empty list is one empty piece. -/
def cutAtOr {α : Type} : List (Conjunction × α) → List (List α)
  | [] => [[]]
  | members => (members.splitBy joinsAnd).map (·.map Prod.snd)

/-- One document stands for itself; any other number needs the connective. -/
def connect (connective : String) : List Document → Document
  | [only] => only
  | members => [(connective, .array (members.map .object))]

/-- The document of statements: their pieces are joined. -/
def outlineStatements (members : List (Conjunction × Document)) : Document :=
  connect "$or" ((cutAtOr members).map (connect "$and"))

/-- The document of a filter, given the fragments of clauses. -/
def Filter.outline (fragment : Clause → Document) (f : Filter) : Document :=
  f.fold fragment outlineStatements

/-! ## Groups are pieces -/

theorem map_snd_splitBy_loop {α : Type} (rest : List (Conjunction × α)) :
    ∀ (m : Conjunction × α) (current : List (Conjunction × α))
      (finished : List (List (Conjunction × α))),
      (List.splitBy.loop joinsAnd rest m current finished).map (·.map Prod.snd)
        = finished.reverse.map (·.map Prod.snd)
          ++ ((current.reverse ++ [m]).map Prod.snd ++ (splitAtOr rest).1)
            :: (splitAtOr rest).2 := by
  -- on what is left to cut; the loop keeps the current piece and the
  -- finished ones last member first, and both have to be general
  induction rest with
  | nil =>
      intro m current finished
      simp [List.splitBy.loop, splitAtOr]
  | cons next rest ih =>
      intro m current finished
      obtain ⟨conjunction, a⟩ := next
      cases conjunction with
      | and =>
          simp only [List.splitBy.loop, joinsAnd]
          rw [ih]
          simp [splitAtOr]
      | or =>
          simp only [List.splitBy.loop, joinsAnd]
          rw [ih]
          simp [splitAtOr]

theorem cutAtOr_eq_groups {α : Type} (members : List (Conjunction × α)) :
    cutAtOr members = groups members := by
  cases members with
  | nil => rfl
  | cons m rest =>
      have hloop := map_snd_splitBy_loop rest m [] []
      simpa [cutAtOr, List.splitBy, groups] using hloop

example : cutAtOr [(.or, 1), (.and, 2), (.or, 3), (.or, 4)] = [[1, 2], [3], [4]] := rfl

/-! ## Assembled queries are outlined documents -/

theorem Query.connect_map_toDocument {connective : String} {qs : List Query}
    (hmany : ∀ q, qs ≠ [q]) :
    connect connective (qs.map toDocument)
      = Entries.single connective (.array (documents qs)) := by
  rw [connect, map_object_map_toDocument]
  · rfl
  · intro only honly
    obtain ⟨q, rfl, -⟩ := List.map_eq_singleton_iff.mp honly
    exact hmany q rfl

theorem Query.toDocument_allOf (qs : List Query) :
    (Query.allOf qs).toDocument = connect "$and" (qs.map toDocument) := by
  unfold Query.allOf
  split
  · rfl
  · exact (connect_map_toDocument ‹_›).symm

theorem Query.toDocument_anyOf (qs : List Query) :
    (Query.anyOf qs).toDocument = connect "$or" (qs.map toDocument) := by
  unfold Query.anyOf
  split
  · rfl
  · exact (connect_map_toDocument ‹_›).symm

theorem toDocument_joinStatements (members : List (Conjunction × Query)) :
    (joinStatements members).toDocument
      = outlineStatements (mapMembers Query.toDocument members) := by
  rw [joinStatements, Query.toDocument_anyOf, outlineStatements, cutAtOr_eq_groups, groups_map,
    List.map_map, List.map_map]
  congr 1
  exact List.map_congr_left fun g _ => Query.toDocument_allOf g

/-- The document of an assembled query is the outlined one, whatever the
clauses ask. -/
theorem Filter.toDocument_assemble (ask : Clause → Query) (f : Filter) :
    (f.assemble ask).toDocument = f.outline fun c => (ask c).toDocument :=
  Filter.fold_fusion toDocument_joinStatements f

/-! ## The main statement -/

/-- Why a clause on its own is refused, if it is. -/
def Clause.fragmentError? [RegexEngine] (s : Strategy) (c : Clause) : Option ConvertError :=
  match c.fragment s with
  | .ok _ => none
  | .error e => some e

/-- The fragment of a clause that is accepted on its own. -/
def Clause.fragmentDocument [RegexEngine] (s : Strategy) (c : Clause) : Document :=
  match c.fragment s with
  | .ok fragment => fragment
  | .error _ => []

theorem Clause.fragmentError?_eq_refusal? [RegexEngine] (s : Strategy) :
    Clause.fragmentError? s = Clause.refusal? s := by
  funext c
  rw [fragmentError?, fragment_eq_settle]
  cases c.refusal? s <;> rfl

theorem Clause.fragmentDocument_eq [RegexEngine] {s : Strategy}
    {c : Clause} (h : c.refusal? s = none) :
    c.fragmentDocument s = (c.query s).toDocument := by
  rw [fragmentDocument, fragment_eq_settle, h, settle_none]

/-- In every session, so after any builds before it, building a filter gives
the error of the first clause in reading order that is refused on its own;
without one it gives the outlined document, over what the clauses are
translated to on their own. -/
theorem build_eq_outline [RegexEngine] (s : Strategy) (session : Session) (f : Filter) :
    (session.build s f).1
      = match f.clauses.findSome? (Clause.fragmentError? s) with
        | some e => .error e
        | none => .ok (f.outline (Clause.fragmentDocument s)) := by
  rw [Session.build_eq_settle, Clause.fragmentError?_eq_refusal?]
  cases hrefused : f.clauses.findSome? (Clause.refusal? s) with
  | some e => rfl
  | none =>
      have hfragments : ∀ c ∈ f.clauses, (c.query s).toDocument = c.fragmentDocument s :=
        fun c hc => (Clause.fragmentDocument_eq (List.findSome?_eq_none_iff.mp hrefused c hc)).symm
      rw [settle_none, Filter.toDocument_assemble, Filter.outline, Filter.fold_congr hfragments]
      rfl

/-- The `or` in front of a nested filter closes a group of one member, and the
nested filter is cut on its own. -/
example :
    (Session.build .unrestricted ["/seen"]
      ((Filter.ofClause ⟨.target ⟨.field "foo", []⟩, .relation .eq, .literal (.integer 1)⟩).orGroup
          ((Filter.ofClause
                ⟨.target ⟨.field "bar", []⟩, .relation .lt, .literal (.integer 2)⟩).and
              ⟨.target ⟨.field "baz", []⟩, .relation .eq, .literal .null⟩
            |>.or ⟨.target ⟨.field "bar", []⟩, .relation .ne, .literal (.integer 3)⟩)
        |>.and ⟨.literal (.integer 4), .relation .gt, .target ⟨.field "foo", []⟩⟩)).1
      = .ok [("$or", .array [
          .object [("foo", .integer 1)],
          .object [("$and", .array [
            .object [("$or", .array [
              .object [("$and", .array [
                .object [("bar", .object [("$lt", .integer 2)])],
                .object [("baz", .null)]])],
              .object [("bar", .object [("$ne", .integer 3)])]])],
            .object [("foo", .object [("$lt", .integer 4)])]])]])] := rfl

end FilterQuery
