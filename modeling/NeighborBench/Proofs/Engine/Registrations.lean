import Mathlib.Data.List.Induction
import NeighborBench.Proofs.Keyed
import NeighborBench.Proofs.Text.ByteOrder
import NeighborBench.Query.Step

/-! # Filling a registry

A registry is filled by calls, each with a label and a constructor. A label belongs to the first call
that names it. Any later call for it is refused and changes nothing.
-/

namespace NeighborBench

/-! ## Calls -/

section

variable {m : Type → Type} {σ : Type}

/-- A call that registers a kind: one of the caller's own, or the query step. -/
inductive Registration (m : Type → Type) (σ : Type) where
  | kind (label : String) (build : Constructor m σ)
  | query {δ : Type} [Dataset δ] (services : Services m δ) (wrap : QueryStep m δ → σ)

namespace Registration

def label : Registration m σ → String
  | kind label _ => label
  | query _ _ => QueryStep.kindLabel

/-- The call that a label belongs to. -/
def firstFor (label : String) (calls : List (Registration m σ)) : Option (Registration m σ) :=
  calls.find? (·.label = label)

theorem firstFor_eq_none_iff (label : String) (calls : List (Registration m σ)) :
    firstFor label calls = none ↔ label ∉ calls.map Registration.label := by
  simp [firstFor]

theorem firstFor_append (label : String) (calls : List (Registration m σ))
    (call : Registration m σ) :
    firstFor label (calls ++ [call]) =
      (firstFor label calls).or (if call.label = label then some call else none) := by
  unfold firstFor
  rw [List.find?_append, List.find?_singleton]
  simp only [decide_eq_true_eq]

variable [Monad m]

def build : Registration m σ → Constructor m σ
  | kind _ build => build
  | query services wrap => QueryStep.construct services wrap

def apply (r : Registry m σ) : Registration m σ → Except StepError (Registry m σ)
  | kind label build => r.register label build
  | query services wrap => r.registerQuery services wrap

theorem apply_eq (r : Registry m σ) (call : Registration m σ) :
    call.apply r = r.register call.label call.build := by
  cases call <;> rfl

end Registration

variable [Monad m]

namespace Registry

/-- The answer to a call, and the registry behind it. -/
def attempt (r : Registry m σ) (call : Registration m σ) : Except StepError Unit × Registry m σ :=
  match call.apply r with
  | .ok next => (.ok (), next)
  | .error e => (.error e, r)

/-- The registry behind a history of calls, from an empty one. -/
def after (calls : List (Registration m σ)) : Registry m σ :=
  calls.foldl (fun r call => (r.attempt call).2) {}

theorem after_append (calls : List (Registration m σ)) (call : Registration m σ) :
    after (calls ++ [call]) = ((after calls).attempt call).2 := by
  rw [after, List.foldl_append]
  rfl

/-! ## What a registry holds -/

/-- Every label stands at its place, with the constructor of its first call. -/
structure Reflects (r : Registry m σ) (calls : List (Registration m σ)) : Prop where
  sorted : r.kinds.Pairwise fun k l => k.1 < l.1
  first : ∀ label,
    Keyed.get? label r.kinds = (Registration.firstFor label calls).map Registration.build

section

variable {r : Registry m σ} {calls : List (Registration m σ)} (h : r.Reflects calls)

include h

theorem Reflects.contains_iff (label : String) :
    r.contains label = true ↔ label ∈ calls.map Registration.label := by
  rw [contains, h.first, Option.isSome_map, Option.isSome_iff_ne_none, ne_eq,
    Registration.firstFor_eq_none_iff, not_not]

theorem Reflects.mem_labels_iff (label : String) :
    label ∈ r.labels ↔ label ∈ calls.map Registration.label := by
  have hnone := Keyed.get?_eq_none_iff label r.kinds
  rw [h.first, Option.map_eq_none_iff, Registration.firstFor_eq_none_iff] at hnone
  exact (not_iff_not.mp hnone).symm

theorem Reflects.labels_sorted : r.labels.Pairwise fun k l => Text.bytes k < Text.bytes l := by
  unfold labels Keyed.keys
  rw [List.pairwise_map]
  exact h.sorted.imp Text.bytes_lt

theorem Reflects.attempt_of_taken (call : Registration m σ)
    (htaken : call.label ∈ calls.map Registration.label) :
    r.attempt call = (.error (.configuration (.repeatedKind call.label)), r) := by
  rw [attempt, call.apply_eq, register, if_pos ((h.contains_iff _).mpr htaken)]

theorem Reflects.attempt_of_free (call : Registration m σ)
    (hfree : call.label ∉ calls.map Registration.label) :
    r.attempt call = (.ok (), ⟨Keyed.insert call.label call.build r.kinds⟩) := by
  rw [attempt, call.apply_eq, register, if_neg (fun hin => hfree ((h.contains_iff _).mp hin))]

theorem Reflects.attempt (call : Registration m σ) :
    (r.attempt call).2.Reflects (calls ++ [call]) := by
  by_cases htaken : call.label ∈ calls.map Registration.label
  · rw [h.attempt_of_taken call htaken]
    refine ⟨h.sorted, fun label => ?_⟩
    rw [h.first, Registration.firstFor_append]
    by_cases hlabel : call.label = label
    · -- The label was found before, so what stands behind it does not matter.
      have hsome := (Registration.firstFor_eq_none_iff label calls).not.mpr
        (not_not.mpr (hlabel ▸ htaken))
      obtain ⟨first, hfirst⟩ := Option.ne_none_iff_exists'.mp hsome
      rw [hfirst, Option.some_or]
    · rw [if_neg hlabel, Option.or_none]
  · rw [h.attempt_of_free call htaken]
    refine ⟨Keyed.insert_sorted _ _ _ h.sorted, fun label => ?_⟩
    rw [Keyed.get?_insert, h.first, Registration.firstFor_append]
    by_cases hlabel : call.label = label
    · have hnone := (Registration.firstFor_eq_none_iff label calls).mpr (hlabel ▸ htaken)
      rw [if_pos hlabel, if_pos hlabel, hnone, Option.none_or, Option.map_some]
    · rw [if_neg hlabel, if_neg hlabel, Option.or_none]

theorem Reflects.create_eq (config : StepConfig) :
    r.create config =
      match Registration.firstFor config.stepName calls with
      | some call => call.build config
      | none => pure (.error (.configuration (.unknownKind config.stepName))) := by
  unfold create
  rw [h.first]
  cases Registration.firstFor config.stepName calls with
  | none => rfl
  | some call => rfl

end

theorem after_reflects (calls : List (Registration m σ)) : (after calls).Reflects calls := by
  induction calls using List.reverseRecOn with
  | nil => exact ⟨.nil, fun _ => rfl⟩
  | append_singleton calls call ih =>
    rw [after_append]
    exact ih.attempt call

end Registry

end

/-! ## Main statement -/

/-- Whatever calls came before, a call is refused if and only if one of them was for its label: the
error names the label, and the registry is as it was. Its labels are those of all calls, each once,
in the order of their bytes. A step is built by the first call for its kind, with its configuration
and the context: the answer is that constructor's own, the status of its step included. Without such
a call nothing is built, and the error names the kind. -/
theorem registry_keeps_first_calls {κ σ : Type} {m : Type → Type} [Monad m]
    (calls : List (Registration (ReaderT κ m) σ)) :
    (∀ call : Registration (ReaderT κ m) σ,
      if call.label ∈ calls.map Registration.label then
        ∃ e, (Registry.after calls).attempt call = (.error (.configuration e), .after calls) ∧
          e.message = s!"step kind `{call.label}` is already registered"
      else (Registry.after calls).attempt call = (.ok (), .after (calls ++ [call]))) ∧
    (∀ label, (Registry.after calls).contains label = true ↔ label ∈ calls.map Registration.label) ∧
    (∀ label, label ∈ (Registry.after calls).labels ↔ label ∈ calls.map Registration.label) ∧
    (Registry.after calls).labels.Pairwise (fun k l => Text.bytes k < Text.bytes l) ∧
    ∀ (config : StepConfig) (context : κ),
      match calls.find? (·.label = config.stepName) with
      | some call => ((Registry.after calls).create config).run context =
          (call.build config).run context
      | none => ∃ e, ((Registry.after calls).create config).run context =
          pure (.error (.configuration e)) ∧ e.message = s!"invalid step `{config.stepName}`" := by
  have hreflects := Registry.after_reflects calls
  refine ⟨fun call => ?_, hreflects.contains_iff, hreflects.mem_labels_iff,
    hreflects.labels_sorted, fun config context => ?_⟩
  · split_ifs with htaken
    · exact ⟨_, hreflects.attempt_of_taken call htaken, rfl⟩
    · rw [Registry.after_append, hreflects.attempt_of_free call htaken]
  · rw [hreflects.create_eq config]
    change match Registration.firstFor config.stepName calls with
      | some call => _
      | none => _
    cases Registration.firstFor config.stepName calls with
    | none => exact ⟨_, rfl, rfl⟩
    | some call => rfl

end NeighborBench
