import Mathlib.Order.Bounds.Basic
import NeighborBench.Proofs.Query.Trials

/-! # Hits as numbers

The ids of all trials are read as numbers before anything is scored. The first id that is no number
is reported at the trial that it is in.
-/

namespace NeighborBench

/-- Every id that was answered is a number. -/
def SearchReply.Numeric (reply : SearchReply) : Prop :=
  ∀ id ∈ reply.hits, ∃ n, Text.readInt64 id = .ok n

theorem SearchReply.numeric_of_map (reply : SearchReply) (numbers : List Int)
    (h : reply.hits.map Text.readInt64 = numbers.map .ok) : reply.Numeric := by
  intro id hid
  have hmem : Text.readInt64 id ∈ numbers.map Except.ok := by
    rw [← h]
    exact List.mem_map_of_mem hid
  obtain ⟨n, -, hn⟩ := List.mem_map.mp hmem
  exact ⟨n, hn.symm⟩

namespace QueryStep

theorem numericHit_of_ok (trial : Nat) (id : String) (n : Int) (h : Text.readInt64 id = .ok n) :
    numericHit trial id = .ok n := by
  rw [numericHit, h]

theorem numericHit_of_error (trial : Nat) (id : String) (fault : Text.IntegerFault)
    (h : Text.readInt64 id = .error fault) :
    numericHit trial id = .error (.transport trial (.badHit id fault.message)) := by
  rw [numericHit, h]

/-- Reading the ids of one trial has two outcomes: all of them as numbers, or the first that is none. -/
def IdsPost (trial : Nat) (ids : List String) : Except StepError (List Int) → Prop
  | .ok numbers => ids.map Text.readInt64 = numbers.map .ok
  | .error e => ∃ earlier id later fault, ids = earlier ++ id :: later ∧
      (∀ other ∈ earlier, ∃ n, Text.readInt64 other = .ok n) ∧
      Text.readInt64 id = .error fault ∧ e = .transport trial (.badHit id fault.message)

theorem mapM_numericHit (trial : Nat) (ids : List String) :
    IdsPost trial ids (ids.mapM (numericHit trial)) := by
  induction ids with
  | nil => rfl
  | cons id rest ih =>
    rw [List.mapM_cons]
    cases hid : Text.readInt64 id with
    | error fault =>
      -- The ids behind it are not looked at.
      rw [numericHit_of_error trial id fault hid]
      exact ⟨[], id, rest, fault, rfl, nofun, hid, rfl⟩
    | ok n =>
      rw [numericHit_of_ok trial id n hid]
      cases hrest : rest.mapM (numericHit trial) with
      | error e =>
        rw [hrest] at ih
        obtain ⟨earlier, bad, later, fault, rfl, hearlier, hbad, rfl⟩ := ih
        refine ⟨id :: earlier, bad, later, fault, rfl, ?_, hbad, rfl⟩
        simpa [hid] using hearlier
      | ok numbers =>
        rw [hrest] at ih
        have hnumbers : rest.map Text.readInt64 = numbers.map .ok := ih
        change (id :: rest).map Text.readInt64 = (n :: numbers).map .ok
        rw [List.map_cons, List.map_cons, hid, hnumbers]

/-- The same of all trials, of which the first is `trial`. -/
def HitsPost (trial : Nat) (replies : List SearchReply) :
    Except StepError (List (List Int)) → Prop
  | .ok results => replies.map (·.hits.map Text.readInt64) = results.map (·.map .ok)
  | .error e => ∃ earlier reply later, replies = earlier ++ reply :: later ∧
      (∀ other ∈ earlier, other.Numeric) ∧ IdsPost (trial + earlier.length) reply.hits (.error e)

theorem numericHits_post (trial : Nat) (trials : List Trial) :
    HitsPost trial (trials.map (·.reply)) (numericHits trial trials) := by
  induction trials generalizing trial with
  | nil => rfl
  | cons t rest ih =>
    have hids := mapM_numericHit trial t.hits
    have hrest := ih (trial + 1)
    rw [numericHits]
    cases hread : t.hits.mapM (numericHit trial) with
    | error e =>
      -- This trial is the first one, whatever is in the others.
      rw [hread] at hids
      exact ⟨[], t.reply, rest.map (·.reply), rfl, nofun, hids⟩
    | ok numbers =>
      rw [hread] at hids
      have hnumbers : t.hits.map Text.readInt64 = numbers.map .ok := hids
      cases hmore : numericHits (trial + 1) rest with
      | error e =>
        rw [hmore] at hrest
        obtain ⟨earlier, reply, later, hsplit, hearlier, hbad⟩ := hrest
        refine ⟨t.reply :: earlier, reply, later, by rw [List.map_cons, hsplit]; rfl, ?_, ?_⟩
        · have hnumeric : t.reply.Numeric := t.reply.numeric_of_map numbers hnumbers
          simpa [hnumeric] using hearlier
        · have hplace : trial + (t.reply :: earlier).length = trial + 1 + earlier.length := by
            rw [List.length_cons]
            omega
          rwa [hplace]
      | ok results =>
        rw [hmore] at hrest
        have hresults : (rest.map (·.reply)).map (·.hits.map Text.readInt64) =
          results.map (·.map .ok) := hrest
        change ((t :: rest).map (·.reply)).map (·.hits.map Text.readInt64) =
          (numbers :: results).map (·.map .ok)
        rw [List.map_cons, List.map_cons, List.map_cons, ← hnumbers, hresults]
        rfl

theorem numeric_of_numbers {replies : List SearchReply} {results : List (List Int)}
    (numbers : replies.map (·.hits.map Text.readInt64) = results.map (·.map .ok)) :
    ∀ reply ∈ replies, reply.Numeric := by
  intro reply hreply
  have hmem : reply.hits.map Text.readInt64 ∈ results.map (·.map .ok) := by
    rw [← numbers]
    exact List.mem_map_of_mem hreply
  obtain ⟨read, -, hread⟩ := List.mem_map.mp hmem
  exact reply.numeric_of_map read hread.symm

theorem HitsPost.length_eq {trial : Nat} {replies : List SearchReply} {results : List (List Int)}
    (h : HitsPost trial replies (.ok results)) : results.length = replies.length := by
  have hlength := congrArg List.length h
  simpa using hlength.symm

/-- The trials with an id that is no number. -/
def nonNumeric (replies : List SearchReply) : Set Nat :=
  {t | ∃ reply ∈ replies[t]?, ¬reply.Numeric}

theorem HitsPost.isLeast {replies : List SearchReply} {e : StepError}
    (h : HitsPost 0 replies (.error e)) :
    ∃ t id fault, IsLeast (nonNumeric replies) t ∧
      e = .transport t (.badHit id (Text.IntegerFault.message fault)) := by
  obtain ⟨earlier, reply, later, rfl, hearlier, before, id, behind, fault, hhits, -, hid, rfl⟩ := h
  refine ⟨earlier.length, id, fault, ⟨⟨reply, by simp, ?_⟩, ?_⟩, by rw [Nat.zero_add]⟩
  · intro hnumeric
    obtain ⟨n, hn⟩ := hnumeric id (by simp [hhits])
    rw [hid] at hn
    cases hn
  · rintro t ⟨other, hother, hbad⟩
    by_contra hlt
    rw [List.getElem?_append_left (by omega)] at hother
    exact hbad (hearlier other (List.mem_of_getElem? hother))

end QueryStep

end NeighborBench
