import NeighborBench.Proofs.Dataset.Tape
import NeighborBench.Proofs.Query.Trials

/-! # Watched datasets

A dataset that keeps the calls that are made to it. The answers are those of the dataset inside.
-/

namespace NeighborBench

open Dataset (Call)

structure Watched (δ : Type) where
  inner : δ
  /-- The first call comes first. -/
  calls : List Call := []

namespace Watched

variable {δ : Type} [Dataset δ]

instance : Dataset (Watched δ) where
  size d := Dataset.size d.inner
  read count d :=
    let (found, inner) := Dataset.read count d.inner
    (found, ⟨inner, d.calls ++ [.read count]⟩)
  reset d :=
    let (done, inner) := Dataset.reset d.inner
    (done, ⟨inner, d.calls ++ [.reset]⟩)

@[simp] theorem read_eq (count : Nat) (d : Watched δ) :
    Dataset.read count d = ((Dataset.read count d.inner).1,
      ⟨(Dataset.read count d.inner).2, d.calls ++ [.read count]⟩) := rfl

@[simp] theorem reset_eq (d : Watched δ) :
    Dataset.reset d = ((Dataset.reset d.inner).1,
      ⟨(Dataset.reset d.inner).2, d.calls ++ [.reset]⟩) := rfl

theorem mirrors : Mirrors fun (d : δ) (w : Watched δ) => w.inner = d := by
  constructor
  · rintro d w rfl
    rfl
  · rintro d w rfl
    exact ⟨_, rfl, rfl⟩
  · rintro d w rfl
    exact ⟨_, rfl, rfl⟩

end Watched

section

variable {δ : Type} [Dataset δ]

theorem Tape.watched {At : Nat → δ → Prop} {rows : Rows} (tape : Tape At rows) :
    Tape (fun c (w : Watched δ) => At c w.inner) rows := by
  have h := tape.mirrored Watched.mirrors
  simpa using h

theorem Yields.watched {n : Nat} {queries rest : δ} {vectors : List (List Single)}
    (yields : Yields n queries vectors rest) (calls : List Call) :
    ∃ later, Yields n (⟨queries, calls⟩ : Watched δ) vectors ⟨rest, later⟩ := by
  induction yields generalizing calls with
  | spent queries => exact ⟨calls, .spent _⟩
  | finished n queries rest read =>
    exact ⟨calls ++ [.read 1], .finished _ _ _ (by simp [read])⟩
  | empty n queries rest read =>
    exact ⟨calls ++ [.read 1], .empty _ _ _ (by simp [read])⟩
  | row n queries next rest vector others vectors read more ih =>
    obtain ⟨later, hlater⟩ := ih (calls ++ [.read 1])
    exact ⟨later, .row _ _ _ _ _ others _ (by simp [read]) hlater⟩

end

/-! ## Services whose datasets are watched -/

section

variable {ω δ : Type}

/-- The same services, with every dataset watched from the time that it is opened. -/
def Services.watched (services : Services (StateM ω) δ) : Services (StateM ω) (Watched δ) where
  openDataset ref := do
    let opened ← services.openDataset ref
    pure (opened.map fun d => ⟨d, []⟩)
  connect := services.connect
  clock := services.clock

theorem Services.opened_watched (services : Services (StateM ω) δ) (ref : DatasetRef)
    (w : Watched δ) (before after : World ω)
    (h : services.watched.noted.openDataset ref before = (.ok w, after)) :
    (∃ outside left, services.openDataset ref outside = (.ok w.inner, left)) ∧ w.calls = [] := by
  change ((services.openDataset ref before.outside).1.map _, _) = _ at h
  rcases hopened : services.openDataset ref before.outside with ⟨answer, outside⟩
  rw [hopened] at h
  cases answer with
  | error e => cases h
  | ok d =>
    cases h
    exact ⟨⟨_, _, hopened⟩, rfl⟩

theorem QueryStep.neighbors_watched [Dataset δ] (services : Services (StateM ω) δ)
    (config : StepConfig) (s : QueryStep (StateM (World ω)) (Watched δ)) (before after : World ω)
    (built : ofConfig services.watched.noted config before = (.ok s, after)) (d : Watched δ)
    (held : s.neighbors = some d) :
    (∃ ref outside left, services.openDataset ref outside = (.ok d.inner, left)) ∧ d.calls = [] := by
  obtain ⟨p, opened, left, -, hneighbors⟩ :=
    neighbors_of_ofConfig services.watched.noted config s before after built
  rw [held] at hneighbors
  obtain ⟨ref, outside, behind, -, hopened⟩ := openNeighbors_opened _ _ _ d _ _ hneighbors
  obtain ⟨hinner, hcalls⟩ := services.opened_watched ref d outside behind hopened
  exact ⟨⟨ref, hinner⟩, hcalls⟩

end

end NeighborBench
