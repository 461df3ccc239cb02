import FilterQuery.Clause

/-!
# Filters

A filter is a list of statements. Each statement holds a clause or a nested
filter and says how it joins the statements before it; what the first one
says about that is without meaning.
-/

namespace FilterQuery

/-- How a statement joins the ones before it. -/
inductive Conjunction where
  | and
  | or
deriving Repr, DecidableEq

mutual

inductive Member where
  | clause (clause : Clause)
  | group (filter : Filter)

structure Statement where
  conjunction : Conjunction
  member : Member

structure Filter where
  statements : List Statement

end

namespace Filter

/-! ## Building filters -/

def empty : Filter := ⟨[]⟩

def push (f : Filter) (conjunction : Conjunction) (member : Member) : Filter :=
  ⟨f.statements ++ [⟨conjunction, member⟩]⟩

def ofClause (clause : Clause) : Filter := empty.push .and (.clause clause)

def ofGroup (filter : Filter) : Filter := empty.push .and (.group filter)

/-- Require a clause as well. -/
def and (f : Filter) (clause : Clause) : Filter := f.push .and (.clause clause)

/-- Accept a clause instead. -/
def or (f : Filter) (clause : Clause) : Filter := f.push .or (.clause clause)

/-- Require a nested filter as well. -/
def andGroup (f : Filter) (group : Filter) : Filter := f.push .and (.group group)

/-- Accept a nested filter instead. -/
def orGroup (f : Filter) (group : Filter) : Filter := f.push .or (.group group)

end Filter

/-! ## Clauses in reading order -/

mutual

def Member.clauses : Member → List Clause
  | .clause clause => [clause]
  | .group filter => filter.clauses

def Statement.clauses : Statement → List Clause
  | ⟨_, member⟩ => member.clauses

/-- The clauses of a filter in reading order, those of nested filters in
place. -/
def Filter.clauses : Filter → List Clause
  | ⟨statements⟩ => clausesOf statements

def clausesOf : List Statement → List Clause
  | [] => []
  | statement :: rest => statement.clauses ++ clausesOf rest

end

end FilterQuery
