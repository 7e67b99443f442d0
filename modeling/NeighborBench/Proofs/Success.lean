import Mathlib.Data.List.Forall2

/-! # Runs that succeed

A run of several steps succeeds if and only if each of them does, one after another. It ends at the
first that does not.
-/

namespace NeighborBench

theorem except_bind_ok {ε α β : Type} (x : Except ε α) (f : α → Except ε β) (b : β) :
    (x >>= f) = .ok b ↔ ∃ a, x = .ok a ∧ f a = .ok b := by
  cases x with
  | error e =>
    constructor
    · intro h
      cases h
    · rintro ⟨a, h, -⟩
      cases h
  | ok a =>
    constructor
    · intro h
      exact ⟨a, rfl, h⟩
    · rintro ⟨_, h, hb⟩
      cases h
      exact hb

theorem mapM_cons_eq_some {α β : Type} {f : α → Option β} {a : α} {rest : List α} {bs : List β} :
    (a :: rest).mapM f = some bs ↔
      ∃ b more, f a = some b ∧ rest.mapM f = some more ∧ bs = b :: more := by
  rw [List.mapM_cons]
  cases f a with
  | none => simp
  | some b =>
    cases rest.mapM f with
    | none => simp
    | some more => simp [eq_comm]

theorem mapM_eq_some_iff {α β : Type} {f : α → Option β} {as : List α} {bs : List β} :
    as.mapM f = some bs ↔ List.Forall₂ (fun a b => f a = some b) as bs := by
  induction as generalizing bs with
  | nil => simp [eq_comm]
  | cons a rest ih =>
    rw [mapM_cons_eq_some]
    constructor
    · rintro ⟨b, more, hb, hmore, rfl⟩
      exact .cons hb (ih.mp hmore)
    · rintro (_ | ⟨hb, hmore⟩)
      exact ⟨_, _, hb, ih.mpr hmore, rfl⟩

theorem state_bind {ω α β : Type} (x : StateM ω α) (f : α → StateM ω β) (w : ω) :
    (x >>= f) w = f (x w).1 (x w).2 := rfl

theorem run_bind_ok {σ ε α β : Type} (x : ExceptT ε (StateM σ) α)
    (f : α → ExceptT ε (StateM σ) β) (b : β) (before after : σ) :
    (x >>= f).run.run before = (.ok b, after) ↔
      ∃ a between, x.run.run before = (.ok a, between) ∧ (f a).run.run between = (.ok b, after) := by
  change (ExceptT.bindCont f (x before).1) (x before).2 = _ ↔
    ∃ a between, x before = (.ok a, between) ∧ _
  rcases x before with ⟨answer, between⟩
  cases answer with
  | error e =>
    constructor
    · intro h
      cases h
    · rintro ⟨a, _, h, -⟩
      cases h
  | ok a =>
    constructor
    · intro h
      exact ⟨a, between, rfl, h⟩
    · rintro ⟨_, _, h, hb⟩
      cases h
      exact hb

theorem run_bind_of_ok {σ ε α β : Type} {x : ExceptT ε (StateM σ) α}
    {f : α → ExceptT ε (StateM σ) β} {a : α} {before between : σ}
    (h : x.run.run before = (.ok a, between)) :
    (x >>= f).run.run before = (f a).run.run between := by
  change (ExceptT.bindCont f (x before).1) (x before).2 = _
  rw [show x before = (.ok a, between) from h]
  rfl

theorem run_bind_of_error {σ ε α β : Type} {x : ExceptT ε (StateM σ) α}
    {f : α → ExceptT ε (StateM σ) β} {e : ε} {before between : σ}
    (h : x.run.run before = (.error e, between)) :
    (x >>= f).run.run before = (.error e, between) := by
  change (ExceptT.bindCont f (x before).1) (x before).2 = _
  rw [show x before = (.error e, between) from h]
  rfl

theorem run_pure_ok {σ ε α : Type} (a b : α) (before after : σ) :
    (pure a : ExceptT ε (StateM σ) α).run.run before = (.ok b, after) ↔ a = b ∧ before = after := by
  constructor
  · intro h
    cases h
    exact ⟨rfl, rfl⟩
  · rintro ⟨rfl, rfl⟩
    rfl

theorem run_mk_pure {σ ε α : Type} (x : Except ε α) (w : σ) :
    (ExceptT.mk (pure x) : ExceptT ε (StateM σ) α).run.run w = (x, w) := rfl

theorem run_mk_pure_ok {σ ε α : Type} (x : Except ε α) (a : α) (before after : σ) :
    (ExceptT.mk (pure x) : ExceptT ε (StateM σ) α).run.run before = (.ok a, after) ↔
      x = .ok a ∧ before = after := by
  constructor
  · intro h
    cases h
    exact ⟨rfl, rfl⟩
  · rintro ⟨rfl, rfl⟩
    rfl

theorem run_mapError_ok {σ ε κ α : Type} (act : StateM σ (Except κ α)) (f : κ → ε) (a : α)
    (before after : σ) :
    (ExceptT.mk (do
      let answer ← act
      pure (answer.mapError f)) : ExceptT ε (StateM σ) α).run.run before = (.ok a, after) ↔
      act.run before = (.ok a, after) := by
  change ((act before).1.mapError f, (act before).2) = _ ↔ act before = _
  rcases act before with ⟨answer, between⟩
  cases answer with
  | error e =>
    constructor
    · intro h
      cases h
    · intro h
      cases h
  | ok found =>
    constructor
    · intro h
      cases h
      rfl
    · intro h
      cases h
      rfl

end NeighborBench
