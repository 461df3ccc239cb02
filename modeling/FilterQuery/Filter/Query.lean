import FilterQuery.Clause.Query
import FilterQuery.Filter

/-!
# Queries of filters

`Filter.toQuery` says what a filter asks of a stored document, under a
strategy. Statements are joined from left to right, and `and` binds tighter
than `or`: each `or` starts a new group, a group asks for all of its members,
and the filter for any of its groups. A connective of one member is left out.
A filter without statements asks for nothing, and is spelled as a connective
without members.

The program does not group first. It goes over the statements once and keeps
the groups that are closed apart from the members of the open one, as
documents (`Groups`); `Session.build` is that step.
-/

namespace FilterQuery

/-! ## Joining statements -/

/-- The members at the front that are joined by `and`, and the groups that
start with each `or` after them. -/
def splitAtOr {α : Type} : List (Conjunction × α) → List α × List (List α)
  | [] => ([], [])
  | (.and, a) :: rest =>
      let (here, more) := splitAtOr rest
      (a :: here, more)
  | (.or, a) :: rest =>
      let (here, more) := splitAtOr rest
      ([], (a :: here) :: more)

/-- The members of a filter in groups. The first member opens the first
group, whatever it says about joining. -/
def groups {α : Type} : List (Conjunction × α) → List (List α)
  | [] => [[]]
  | (_, a) :: rest =>
      let (here, more) := splitAtOr rest
      (a :: here) :: more

theorem splitAtOr_flatten {α : Type} (members : List (Conjunction × α)) :
    (splitAtOr members).1 ++ (splitAtOr members).2.flatten = members.map Prod.snd := by
  induction members with
  | nil => rfl
  | cons member rest ih =>
    obtain ⟨conjunction, a⟩ := member
    cases conjunction <;> simp [splitAtOr, ← ih]

/-- Grouping loses no member, adds none and keeps their order. -/
theorem groups_flatten {α : Type} (members : List (Conjunction × α)) :
    (groups members).flatten = members.map Prod.snd := by
  cases members with
  | nil => rfl
  | cons member rest =>
    have hrest := splitAtOr_flatten rest
    simp [groups, ← hrest]

/-- The query of the queries of statements. -/
def joinStatements (members : List (Conjunction × Query)) : Query :=
  Query.anyOf ((groups members).map Query.allOf)

variable [RegexEngine]

mutual

def Member.toQuery (s : Strategy) : Member → Trace Query
  | .clause clause => clause.toQuery s
  | .group filter => filter.toQuery s

/-- The query of a statement, with how it joins the ones before it. -/
def Statement.toQuery (s : Strategy) : Statement → Trace (Conjunction × Query)
  | ⟨conjunction, member⟩ => do return (conjunction, ← member.toQuery s)

def Filter.toQuery (s : Strategy) : Filter → Trace Query
  | ⟨statements⟩ => do return joinStatements (← statementQueries s statements)

/-- The queries of statements, found in order. -/
def statementQueries (s : Strategy) : List Statement → Trace (List (Conjunction × Query))
  | [] => return []
  | statement :: rest => do
      let head ← statement.toQuery s
      let tail ← statementQueries s rest
      return head :: tail

end

/-! ## Building documents -/

/-- All of the documents at once; one alone needs no connective. -/
def collapse : List Document → Document
  | [only] => only
  | members => Entries.single "$and" (.array (members.map .object))

/-- The statements of a filter so far: the groups that an `or` has closed, and
the members of the open one. -/
structure Groups where
  anyOf : List Document := []
  allOf : List Document := []

namespace Groups

def close (g : Groups) : Groups := ⟨g.anyOf ++ [collapse g.allOf], []⟩

def push (g : Groups) (fragment : Document) : Groups := { g with allOf := g.allOf ++ [fragment] }

/-- Make room for the statement at a position: an `or` closes the open group,
but not before the first statement. -/
def turn (g : Groups) (position : Nat) (conjunction : Conjunction) : Groups :=
  if 0 < position && conjunction = .or then g.close else g

/-- The document of a filter when its statements are all there. -/
def document (g : Groups) : Document :=
  if g.anyOf.isEmpty then collapse g.allOf
  else Entries.single "$or" (.array (g.close.anyOf.map .object))

end Groups

namespace Resolver

mutual

def buildMember (s : Strategy) : Member → Resolver Document
  | .clause clause => do return (← translate s clause).toDocument
  | .group filter => build s filter

def build (s : Strategy) : Filter → Resolver Document
  | ⟨statements⟩ => do return (← buildFrom s 0 {} statements).document

/-- Add statements to the groups, the first of them at the given position. -/
def buildFrom (s : Strategy) : (position : Nat) → Groups → List Statement → Resolver Groups
  | _, g, [] => return g
  | position, g, ⟨conjunction, member⟩ :: rest => do
      let g := g.turn position conjunction
      let fragment ← buildMember s member
      buildFrom s (position + 1) (g.push fragment) rest

end

end Resolver

/-- Build the document of a filter in a session: the outcome, and the session
after it. -/
def Session.build (s : Strategy) (session : Session) (f : Filter) :
    Except ConvertError Document × Session :=
  session.take (Resolver.build s f)

end FilterQuery
