import FilterQuery.Proofs.Threading

/-!
# Filters with replaced members

`Filter.Replaced R f g` says that `g` is `f` with some members, at any depth,
replaced by members to which `R` relates them.

What a conversion takes from a member is what it comes to and which fields it
adds to the session; steps that agree on that in every session are alike
(`Trace.Alike`). Alike steps stay alike in a longer run (`Alike.bind`), so
replacing members by alike ones makes no difference to the conversion, neither
to its result nor to its error (`Filter.Replaced.convertWith_eq`).
-/

namespace FilterQuery

/-! ## Steps that no session tells apart -/

section Steps

variable {α β : Type}

/-- In every session the steps come to the same and leave the same session. -/
def Trace.Alike (t u : Trace α) : Prop := ∀ session : Session, session.run t = session.run u

theorem Trace.Alike.refl (t : Trace α) : t.Alike t := fun _ => rfl

theorem Trace.Alike.bind {t u : Trace α} {next next' : α → Trace β} (h : t.Alike u)
    (hnext : ∀ a, (next a).Alike (next' a)) : (t >>= next).Alike (u >>= next') := by
  intro session
  rw [Session.run_bind, Session.run_bind, h session]
  rcases session.run u with ⟨e | a, session'⟩
  · rfl
  · exact hnext _ _

end Steps

/-! ## Replacing members -/

mutual

/-- A member is kept, or replaced as a whole, or it is a group in which
members are replaced. -/
inductive Member.Replaced (R : Member → Member → Prop) : Member → Member → Prop
  | keep (m : Member) : Member.Replaced R m m
  | replace {m n : Member} (h : R m n) : Member.Replaced R m n
  | group {f g : Filter} (h : Filter.Replaced R f g) : Member.Replaced R (.group f) (.group g)

inductive Filter.Replaced (R : Member → Member → Prop) : Filter → Filter → Prop
  | mk {ss ts : List Statement} (h : StatementsReplaced R ss ts) : Filter.Replaced R ⟨ss⟩ ⟨ts⟩

/-- Statements join as they did, whatever becomes of their members. -/
inductive StatementsReplaced (R : Member → Member → Prop) :
    List Statement → List Statement → Prop
  | nil : StatementsReplaced R [] []
  | cons {conjunction : Conjunction} {m n : Member} {ss ts : List Statement}
      (hm : Member.Replaced R m n) (hrest : StatementsReplaced R ss ts) :
      StatementsReplaced R (⟨conjunction, m⟩ :: ss) (⟨conjunction, n⟩ :: ts)

end

section Alike

variable {R : Member → Member → Prop} {s : Strategy}

mutual

theorem Member.Replaced.alike [RegexEngine]
    (hR : ∀ m n, R m n → (m.toQuery s).Alike (n.toQuery s)) :
    ∀ {m n : Member}, m.Replaced R n → (m.toQuery s).Alike (n.toQuery s)
  | _, _, .keep m => .refl _
  | _, _, .replace h => hR _ _ h
  | _, _, .group h => by
      rw [Member.toQuery, Member.toQuery]
      exact Filter.Replaced.alike hR h

theorem Filter.Replaced.alike [RegexEngine]
    (hR : ∀ m n, R m n → (m.toQuery s).Alike (n.toQuery s)) :
    ∀ {f g : Filter}, f.Replaced R g → (f.toQuery s).Alike (g.toQuery s)
  | _, _, .mk h => by
      rw [Filter.toQuery, Filter.toQuery]
      exact (StatementsReplaced.alike hR h).bind fun _ => .refl _

theorem StatementsReplaced.alike [RegexEngine]
    (hR : ∀ m n, R m n → (m.toQuery s).Alike (n.toQuery s)) :
    ∀ {ss ts : List Statement}, StatementsReplaced R ss ts →
      (statementQueries s ss).Alike (statementQueries s ts)
  | _, _, .nil => .refl _
  | _, _, .cons hm hrest => by
      rw [statementQueries, statementQueries, Statement.toQuery, Statement.toQuery]
      exact ((Member.Replaced.alike hR hm).bind fun _ => .refl _).bind fun _ =>
        (StatementsReplaced.alike hR hrest).bind fun _ => .refl _

end

/-- Replacing members by alike ones makes no difference to a conversion. -/
theorem Filter.Replaced.convertWith_eq [RegexEngine]
    (hR : ∀ m n, R m n → (m.toQuery s).Alike (n.toQuery s)) {f g : Filter}
    (h : f.Replaced R g) : g.convertWith s = f.convertWith s := by
  rw [Filter.convertWith_eq_run, Filter.convertWith_eq_run, h.alike hR Session.start]

end Alike

end FilterQuery
