import FilterQuery.ConvertError

/-!
# Steps of a conversion

A step of a conversion ends with an outcome, and on the way it refers to
fields. Both are kept: the fields also of a step that fails, as a later step
of the same run may succeed. A `Session` is the fields of a whole run, each
listed once, in the order in which they were first referred to, and a
`Resolver` a step of the program: it is handed the session of the steps before
it, and hands it on.

A `Trace` is a step with its outcome and its fields in hand. What a step comes
to does not depend on the steps before it, so a trace is plain data and not a
function of a session. `Proofs.Threading` has that of every step of the
program.
-/

namespace FilterQuery

/-! ## Traces -/

/-- The fields that a step refers to, in order, and its outcome. -/
structure Trace (α : Type) where
  fields : List String
  outcome : Except ConvertError α

namespace Trace

variable {α β : Type}

def done (a : α) : Trace α := ⟨[], .ok a⟩

def fail (e : ConvertError) : Trace α := ⟨[], .error e⟩

def ofExcept (outcome : Except ConvertError α) : Trace α := ⟨[], outcome⟩

def refer (field : String) : Trace Unit := ⟨[field], .ok ()⟩

/-- One step after another: a failure ends the run, and keeps the fields. -/
def andThen (t : Trace α) (next : α → Trace β) : Trace β :=
  match t.outcome with
  | .ok a => ⟨t.fields ++ (next a).fields, (next a).outcome⟩
  | .error e => ⟨t.fields, .error e⟩

instance : Monad Trace where
  pure := done
  bind := andThen

/-! ### Laws -/

theorem pure_eq_done (a : α) : (pure a : Trace α) = done a := rfl

theorem bind_eq_andThen (t : Trace α) (next : α → Trace β) : t >>= next = t.andThen next := rfl

theorem andThen_of_ok {t : Trace α} {a : α} (h : t.outcome = .ok a) (next : α → Trace β) :
    t.andThen next = ⟨t.fields ++ (next a).fields, (next a).outcome⟩ := by
  rw [andThen, h]

theorem andThen_of_error {t : Trace α} {e : ConvertError} (h : t.outcome = .error e)
    (next : α → Trace β) : t.andThen next = ⟨t.fields, .error e⟩ := by
  rw [andThen, h]

/-- Steps that refer to no field and succeed change nothing, and how steps
are bracketed does not matter. -/
instance : LawfulMonad Trace := LawfulMonad.mk' Trace
  (fun t => by
    obtain ⟨fields, outcome⟩ := t
    cases outcome <;> simp [Functor.map, andThen, done])
  (fun a f => by simp [bind, pure, andThen, done])
  (fun t f g => by
    obtain ⟨fields, outcome⟩ := t
    cases outcome with
    | error e => simp [bind, andThen]
    | ok a =>
      simp only [bind, andThen]
      cases (f a).outcome <;> simp [List.append_assoc])

end Trace

/-! ## Sessions -/

/-- The fields referred to so far, each once, in the order of first
reference. -/
abbrev Session := List String

namespace Session

def start : Session := []

def add (s : Session) (field : String) : Session :=
  if s.contains field then s else s ++ [field]

def addAll (s : Session) (fields : List String) : Session := fields.foldl add s

/-- Take a step: its outcome, and the session after it. -/
def run {α : Type} (s : Session) (t : Trace α) : Except ConvertError α × Session :=
  (t.outcome, s.addAll t.fields)

/-! ### Laws -/

theorem addAll_append (s : Session) (fs gs : List String) :
    s.addAll (fs ++ gs) = (s.addAll fs).addAll gs :=
  List.foldl_append

theorem mem_add {s : Session} {f g : String} : g ∈ s.add f ↔ g ∈ s ∨ g = f := by
  simp only [add]
  split
  next h =>
    have hf : f ∈ s := by simpa using h
    exact ⟨Or.inl, fun hg => hg.elim id (fun he => he ▸ hf)⟩
  next => simp

/-- A session holds the fields it held and those that were added. -/
theorem mem_addAll {s : Session} {fs : List String} {g : String} :
    g ∈ s.addAll fs ↔ g ∈ s ∨ g ∈ fs := by
  induction fs generalizing s with
  | nil => simp [addAll]
  | cons f rest ih =>
    have hstep : s.addAll (f :: rest) = (s.add f).addAll rest := rfl
    rw [hstep, ih, mem_add]
    simp [or_assoc]

/-- Fields are only ever added at the end. -/
theorem prefix_addAll (s : Session) (fs : List String) : s <+: s.addAll fs := by
  induction fs generalizing s with
  | nil => exact List.prefix_refl s
  | cons f rest ih =>
    have hadd : s <+: s.add f := by
      simp only [add]
      split
      · exact List.prefix_refl s
      · exact List.prefix_append s [f]
    exact hadd.trans (ih (s.add f))

theorem nodup_addAll {s : Session} (h : s.Nodup) (fs : List String) : (s.addAll fs).Nodup := by
  induction fs generalizing s with
  | nil => exact h
  | cons f rest ih =>
    refine ih ?_
    simp only [add]
    split
    · exact h
    next hf =>
      have hmem : f ∉ s := by simpa using hf
      exact List.nodup_append.mpr ⟨h, by simp, fun a ha b hb => by
        rw [List.mem_singleton.mp hb]
        exact fun he => hmem (he ▸ ha)⟩

end Session

/-! ## Steps on a session -/

/-- A step that takes a session and leaves one, whether or not it fails. -/
abbrev Resolver := ExceptT ConvertError (StateM Session)

namespace Resolver

/-- List a field in the session, unless it is there. -/
def record (field : String) : Resolver Unit := modify fun session => session.add field

end Resolver

/-- Take a step of the program: its outcome, and the session after it. -/
def Session.take {α : Type} (session : Session) (step : Resolver α) :
    Except ConvertError α × Session :=
  step.run.run session

end FilterQuery
