import NeighborBench.Proofs.Dataset.Watched
import NeighborBench.Proofs.Query.Action
import NeighborBench.Proofs.Query.Hits
import NeighborBench.Proofs.Recall.Definition

/-! # The recall that a run measures

A run with recall reads its neighbours in two passes, and both of them are in front of the first row
when they begin. So trial `i` is scored against row `i`, whatever the neighbours were used for before.
-/

namespace NeighborBench

open Dataset (Call)

namespace Recall

/-! ## Calls -/

section

variable {δ : Type} [Dataset δ]

theorem counts_calls (r k queries : Nat) (results : List (List Int)) (w : Watched δ) :
    ∃ reads ≤ queries,
      (counts r k queries results w).2.calls = w.calls ++ List.replicate reads (.read 1) := by
  induction queries generalizing results w with
  | zero => exact ⟨0, Nat.le_refl 0, (List.append_nil _).symm⟩
  | succ queries ih =>
    rw [counts, Watched.read_eq]
    rcases (Dataset.read 1 w.inner).1 with e | _ | batch
    · exact ⟨1, by omega, rfl⟩
    · exact ⟨1, by omega, rfl⟩
    · simp only
      rcases batch.asIds with e | _ | ⟨row, others⟩
      · exact ⟨1, by omega, rfl⟩
      · exact ⟨1, by omega, rfl⟩
      · obtain ⟨reads, hreads, hcalls⟩ := ih results.tail
          ⟨(Dataset.read 1 w.inner).2, w.calls ++ [.read 1]⟩
        refine ⟨reads + 1, by omega, ?_⟩
        simp only [hcalls, List.replicate_succ, List.append_assoc, List.singleton_append]

theorem evaluate_calls (r k queries : Nat) (results : List (List Int)) (w : Watched δ) :
    ∃ reads ≤ queries,
      (evaluate r k queries results w).2.calls = w.calls ++ List.replicate reads (.read 1) := by
  obtain ⟨reads, hreads, hcalls⟩ := counts_calls r k queries results w
  refine ⟨reads, hreads, ?_⟩
  rw [← hcalls, evaluate]
  rcases counts r k queries results w with ⟨_ | c, after⟩ <;> rfl

end

end Recall

namespace QueryStep

open Recall

/-! ## Two passes -/

section

variable {δ : Type} [Dataset δ]

theorem rewind_run (d first : δ) (h : Dataset.reset d = (.ok (), first)) :
    rewind.run.run d = (.ok (), first) := by
  change ((Dataset.reset d).1.mapError StepError.ofDataset, (Dataset.reset d).2) = _
  rw [h]
  rfl

theorem scores_first (k r : Nat) (results : List (List Int)) (d first left : δ) (e : StepError)
    (hreset : Dataset.reset d = (.ok (), first))
    (hpass : evaluate k k results.length results first = (.error e, left)) :
    (scores k r results).run.run d = (.error e, left) := by
  have hscore : (score k k results.length results).run.run first = (.error e, left) := hpass
  rw [scores, run_bind_of_ok (rewind_run d first hreset), run_bind_of_error hscore]

theorem scores_both (k r : Nat) (results : List (List Int)) (d first behind second left last : δ)
    (atK atR : Float) (hreset : Dataset.reset d = (.ok (), first))
    (hpass : evaluate k k results.length results first = (.ok atK, behind))
    (hreset' : Dataset.reset behind = (.ok (), second))
    (hpass' : evaluate r k results.length results second = (.ok atR, left))
    (hlast : Dataset.reset left = (.ok (), last)) :
    (scores k r results).run.run d =
      (.ok [(recallAtK, .scalar atK), (recallAtR r, .scalar atR)], last) := by
  have hscore : (score k k results.length results).run.run first = (.ok atK, behind) := hpass
  have hscore' : (score r k results.length results).run.run second = (.ok atR, left) := hpass'
  rw [scores, run_bind_of_ok (rewind_run d first hreset), run_bind_of_ok hscore,
    run_bind_of_ok (rewind_run behind second hreset'), run_bind_of_ok hscore',
    run_bind_of_ok (rewind_run left last hlast)]
  rfl

/-- The calls of one pass over so many rows. -/
def pass (reads : Nat) : List Call := .reset :: List.replicate reads (.read 1)

variable {At : Nat → δ → Prop} {rows : List (List Int)}

theorem pass_run (tape : Tape At (.ids rows)) (r k queries : Nat) (results : List (List Int))
    (c : Nat) (w : Watched δ) (h : At c w.inner) :
    ∃ first behind : Watched δ, ∃ reads ≤ queries, Dataset.reset w = (.ok (), first) ∧
      evaluate r k queries results first =
        (quotient r k results rows 0 (min queries rows.length), behind) ∧
      At (min queries rows.length) behind.inner ∧ behind.calls = w.calls ++ pass reads := by
  -- A pass begins in front of the first row, wherever the pass before it has ended.
  obtain ⟨first, hreset, hfirst⟩ := tape.watched.rewinds c w h
  obtain ⟨behind, hevaluate, hbehind⟩ :=
    evaluate_at tape.watched r k queries results 0 first hfirst
  obtain ⟨reads, hreads, hcalls⟩ := evaluate_calls r k queries results first
  have hfirstCalls : first.calls = w.calls ++ [.reset] := by
    have hlog : (Dataset.reset w).2.calls = w.calls ++ [.reset] := rfl
    rw [← hlog, hreset]
  rw [Nat.sub_zero, Nat.zero_add] at hbehind
  rw [Nat.sub_zero] at hevaluate
  refine ⟨first, behind, reads, hreads, hreset, hevaluate, hbehind, ?_⟩
  rw [hevaluate] at hcalls
  rw [hcalls, hfirstCalls, List.append_assoc]
  rfl

theorem scores_degenerate (tape : Tape At (.ids rows)) (k r : Nat) (results : List (List Int))
    (c : Nat) (w : Watched δ) (h : At c w.inner)
    (hslots : slotsOver k k rows 0 (min results.length rows.length) = 0) :
    ∃ last : Watched δ, ∃ reads ≤ results.length,
      (scores k r results).run.run w = (.error .degenerateRecall, last) ∧
      At (min results.length rows.length) last.inner ∧ last.calls = w.calls ++ pass reads := by
  obtain ⟨first, last, reads, hreads, hreset, hpass, hlast, hcalls⟩ :=
    pass_run tape k k results.length results c w h
  rw [quotient, if_pos hslots] at hpass
  exact ⟨last, reads, hreads, scores_first k r results w first last _ hreset hpass, hlast, hcalls⟩

theorem scores_measured (tape : Tape At (.ids rows)) (k r : Nat) (results : List (List Int))
    (c : Nat) (w : Watched δ) (h : At c w.inner) (n : Nat) (hn : n = min results.length rows.length)
    (hk : slotsOver k k rows 0 n ≠ 0) (hr : slotsOver r k rows 0 n ≠ 0) :
    ∃ last : Watched δ, ∃ i ≤ results.length, ∃ j ≤ results.length,
      (scores k r results).run.run w = (.ok
        [(recallAtK, .scalar
            (Float.ofNat (hitsOver k k results rows 0 n) / Float.ofNat (slotsOver k k rows 0 n))),
          (recallAtR r, .scalar
            (Float.ofNat (hitsOver r k results rows 0 n) / Float.ofNat (slotsOver r k rows 0 n)))],
        last) ∧
      At 0 last.inner ∧ last.calls = w.calls ++ (pass i ++ (pass j ++ [.reset])) := by
  subst hn
  obtain ⟨first, behind, i, hi, hreset, hpass, hbehind, hcalls⟩ :=
    pass_run tape k k results.length results c w h
  obtain ⟨second, left, j, hj, hreset', hpass', hleft, hcalls'⟩ :=
    pass_run tape r k results.length results _ behind hbehind
  obtain ⟨last, hlast, hplace⟩ := tape.watched.rewinds _ left hleft
  have hlastCalls : last.calls = left.calls ++ [.reset] := by
    have hlog : (Dataset.reset left).2.calls = left.calls ++ [.reset] := rfl
    rw [← hlog, hlast]
  rw [quotient, if_neg hk] at hpass
  rw [quotient, if_neg hr] at hpass'
  refine ⟨last, i, hi, j, hj, scores_both k r results w first behind second left last _ _ hreset hpass
    hreset' hpass' hlast, hplace, ?_⟩
  rw [hlastCalls, hcalls', hcalls, List.append_assoc, List.append_assoc]

end

/-! ## After the trials -/

section

variable {m : Type → Type} {δ : Type} [Dataset δ] (s : QueryStep m δ) (trials : List Trial)

theorem recalls_of_bad (d : δ) (e : StepError) (hd : s.neighbors = some d)
    (hhits : numericHits 0 trials = .error e) : s.recalls trials = (.error e, some d) := by
  simp only [recalls, hd, hhits]

theorem recalls_of_numeric (d last : δ) (results : List (List Int))
    (answer : Except StepError Measures) (hd : s.neighbors = some d)
    (hhits : numericHits 0 trials = .ok results)
    (hscores : (scores s.k s.r results).run.run d = (answer, last)) :
    s.recalls trials = (answer, some last) := by
  have hrun : (scores s.k s.r results).run d = (answer, last) := hscores
  simp only [recalls, hd, hhits, hrun]

theorem settle_of_error (queries : δ) (e : StepError) (neighbors : Option δ)
    (h : s.recalls trials = (.error e, neighbors)) :
    s.settle (.ok trials) queries = (.error e, { s with queries, neighbors }) := by
  simp only [settle, h]

theorem settle_of_ok (queries first : δ) (recalled : Measures) (neighbors : Option δ)
    (h : s.recalls trials = (.ok recalled, neighbors))
    (hreset : Dataset.reset queries = (.ok (), first)) :
    s.settle (.ok trials) queries =
      (.ok (seriesOf trials ++ recalled), { s with queries := first, neighbors }) := by
  simp only [settle, h, hreset]

theorem settle_eq (queries : δ) (hreset : (Dataset.reset queries).1 = .ok ()) :
    (s.settle (.ok trials) queries).1 = (s.recalls trials).1.map (seriesOf trials ++ ·) ∧
      (s.settle (.ok trials) queries).2.neighbors = (s.recalls trials).2 := by
  rcases hrecalls : s.recalls trials with ⟨e | recalled, neighbors⟩
  · rw [settle_of_error s trials queries e neighbors hrecalls]
    exact ⟨rfl, rfl⟩
  · rw [settle_of_ok s trials queries _ recalled neighbors hrecalls (Prod.ext hreset rfl)]
    exact ⟨rfl, rfl⟩

end

/-- What the replies of a run come to, over rows of ids in neighbours that were `d` before: the
answer, and the neighbours that it leaves. -/
inductive Scored {δ : Type} (At : Nat → δ → Prop) (rows : List (List Int)) (k r : Nat)
    (replies : List SearchReply) (d : Watched δ) :
    Except StepError Measures × Option (Watched δ) → Prop where
  | bad (t : Nat) (id : String) (fault : Text.IntegerFault) (first : IsLeast (nonNumeric replies) t) :
    Scored At rows k r replies d (.error (.transport t (.badHit id fault.message)), some d)
  | degenerate (results : List (List Int)) (last : Watched δ) (n reads : Nat)
    (numbers : replies.map (·.hits.map Text.readInt64) = results.map (·.map .ok))
    (scored : n = min replies.length rows.length) (bound : reads ≤ replies.length)
    (slots : slotsOver k k rows 0 n = 0) (place : At n last.inner)
    (calls : last.calls = d.calls ++ pass reads) :
    Scored At rows k r replies d (.error .degenerateRecall, some last)
  | measured (results : List (List Int)) (last : Watched δ) (n i j : Nat)
    (numbers : replies.map (·.hits.map Text.readInt64) = results.map (·.map .ok))
    (scored : n = min replies.length rows.length) (bounds : i ≤ replies.length ∧ j ≤ replies.length)
    (slots : slotsOver k k rows 0 n ≠ 0) (place : At 0 last.inner)
    (calls : last.calls = d.calls ++ (pass i ++ (pass j ++ [.reset]))) :
    Scored At rows k r replies d (.ok
      [(recallAtK, .scalar
          (Float.ofNat (hitsOver k k results rows 0 n) / Float.ofNat (slotsOver k k rows 0 n))),
        (recallAtR r, .scalar
          (Float.ofNat (hitsOver r k results rows 0 n) / Float.ofNat (slotsOver r k rows 0 n)))],
      some last)

theorem slotsOver_pos_iff (k r : Nat) (rows : List (List Int)) (n : Nat) (hk : 0 < k) (hr : 0 < r) :
    slotsOver k k rows 0 n = 0 ↔ slotsOver r k rows 0 n = 0 := by
  rw [slotsOver_eq_zero_iff k k rows 0 n hk, slotsOver_eq_zero_iff r k rows 0 n hr]

theorem recalls_scored {m : Type → Type} {δ : Type} [Dataset δ] (s : QueryStep m (Watched δ))
    {At : Nat → δ → Prop} {rows : List (List Int)} (tape : Tape At (.ids rows)) (hk : 0 < s.k)
    (hr : 0 < s.r) (c : Nat) (d : Watched δ) (hd : s.neighbors = some d) (place : At c d.inner)
    (trials : List Trial) :
    Scored At rows s.k s.r (trials.map (·.reply)) d (s.recalls trials) := by
  have hpost := numericHits_post 0 trials
  cases hhits : numericHits 0 trials with
  | error e =>
    rw [hhits] at hpost
    obtain ⟨t, id, fault, hfirst, rfl⟩ := hpost.isLeast
    rw [s.recalls_of_bad trials d _ hd hhits]
    exact .bad t id fault hfirst
  | ok results =>
    rw [hhits] at hpost
    have hlength := hpost.length_eq
    by_cases hslots : slotsOver s.k s.k rows 0 (min results.length rows.length) = 0
    · obtain ⟨last, reads, hreads, hscores, hplace, hcalls⟩ :=
        scores_degenerate tape s.k s.r results c d place hslots
      rw [s.recalls_of_numeric trials d last results _ hd hhits hscores]
      rw [hlength] at hslots hplace hreads
      exact .degenerate results last _ reads hpost rfl hreads hslots hplace hcalls
    · have hslots' := mt (slotsOver_pos_iff s.k s.r rows _ hk hr).mpr hslots
      obtain ⟨last, i, hi, j, hj, hscores, hplace, hcalls⟩ :=
        scores_measured tape s.k s.r results c d place _ rfl hslots hslots'
      rw [s.recalls_of_numeric trials d last results _ hd hhits hscores]
      rw [hlength] at hslots hi hj ⊢
      exact .measured results last _ i j hpost rfl ⟨hi, hj⟩ hslots hplace hcalls

/-! ## Whole runs -/

section

variable {ω δ : Type} [Dataset δ]

theorem answers_zipWith (request : List Single → SearchRequest) (vectors : List (List Single))
    (trials : List Trial) (last : ω) (h : trials.length = vectors.length) :
    World.answers ⟨last, List.zipWith (fun vector (t : Trial) =>
      .searched (request vector) (.ok t.reply)) vectors trials⟩ =
      (trials.map (·.reply)).map .ok := by
  unfold World.answers
  induction trials generalizing vectors with
  | nil => simp
  | cons t rest ih =>
    obtain ⟨vector, others, rfl⟩ := List.exists_cons_of_length_eq_add_one h.symm
    have hrest := ih others (by simpa using h)
    simp [Event.answer?, hrest]

/-- In a run that executes its trials and whose searches all answer, trial `i` is scored against row `i` of the neighbours. A hit
that is no number ends the run at the first trial that has one, before the neighbours are touched.
With numbers only, the two recalls are quotients over the trials that have a row, or none of them is
defined; both are read from the first row on, and no pass reads more rows than there were trials. -/
theorem action_pairs_trials_with_rows (services : Services (StateM ω) δ) (config : StepConfig)
    (s : QueryStep (StateM (World ω)) (Watched δ)) (before after : World ω)
    (built : ofConfig services.watched.noted config before = (.ok s, after))
    (calculated : config.bool "calculate_recall" (some false) = .ok true)
    (vectors : List (List Single)) (rest : δ)
    (yields : Yields s.queryCount s.queries.inner vectors rest)
    (rewinds : (Dataset.reset rest).1 = .ok ())
    (At : Nat → δ → Prop) (rows : List (List Int)) (tape : Tape At (.ids rows))
    (placed : ∀ d ∈ s.neighbors, ∃ c, At c d.inner)
    (outside : ω)
    (executed : (s.action.run ⟨outside, []⟩).1.1 ≠ .error (.noRoom s.queryCount))
    (replies : List SearchReply)
    (answered : (s.action.run ⟨outside, []⟩).2.answers = replies.map .ok) :
    let ran := s.action.run ⟨outside, []⟩
    let calls := ran.1.2.neighbors.map (·.calls)
    ∃ (k r : Nat) (times : List Float),
      config.positive "k" 100 = .ok k ∧ config.positive "r" 1 = .ok r ∧
      replies.length = vectors.length ∧ times.length = vectors.length ∧
      (∀ t, IsLeast (nonNumeric replies) t → calls = some [] ∧
        ∃ id fault, ran.1.1 = .error (.transport t (.badHit id (Text.IntegerFault.message fault)))) ∧
      ((∀ reply ∈ replies, reply.Numeric) → ∃ results : List (List Int),
        replies.map (·.hits.map Text.readInt64) = results.map (·.map .ok) ∧
        let n := min replies.length rows.length
        let hits := fun R => hitsOver R k results rows 0 n
        let slots := fun R => slotsOver R k rows 0 n
        (ran.1.1 = .error .degenerateRecall ↔ slots k = 0) ∧ (slots k = 0 ↔ slots r = 0) ∧
        (slots k ≠ 0 → ran.1.1 = .ok (seriesFrom replies times ++
          [("recall@K", .scalar (Float.ofNat (hits k) / Float.ofNat (slots k))),
            (s!"recall@{r}", .scalar (Float.ofNat (hits r) / Float.ofNat (slots r)))])) ∧
        (k ≤ r → hits r = hits k ∧ slots r = slots k) ∧
        (replies = [] → ran.1.1 = .error .degenerateRecall) ∧
        ∃ i ≤ replies.length, ∃ j ≤ replies.length,
          calls = some (pass i) ∨ calls = some (pass i ++ (pass j ++ [.reset]))) := by
  intro ran calls
  obtain ⟨p, hbuilt⟩ := built_of_ofConfig services.watched.noted config s before after built
  have hheld : s.neighbors.isSome = true := by
    rw [hbuilt.neighbors]
    exact Except.ok.inj (hbuilt.resolved.calculateRecall.symm.trans calculated)
  obtain ⟨d, hd⟩ := Option.isSome_iff_exists.mp hheld
  obtain ⟨c, hplace⟩ := placed d hd
  obtain ⟨-, hcalls⟩ := neighbors_watched services config s before after built d hd
  obtain ⟨later, hyields⟩ := yields.watched s.queries.calls
  have room : s.queryCount ≤ roomFor trialBytes := by
    by_contra crowded
    rw [s.action_without_room (Nat.lt_of_not_le crowded)] at executed
    exact executed rfl
  obtain ⟨trials, last, hlength, hran⟩ := action_answered hbuilt.noted room hyields outside (by
    intro request fault hmem
    have hanswer := World.mem_answers _ request _ hmem
    rw [answered] at hanswer
    simp at hanswer)
  have hreplies : trials.map (·.reply) = replies := by
    rw [hran, answers_zipWith s.request vectors trials last hlength] at answered
    exact List.map_injective_iff.mpr (fun _ _ h => Except.ok.inj h) answered
  have hcount : replies.length = trials.length := by rw [← hreplies, List.length_map]
  have hk := ((StepConfig.positive_eq_ok _ _ _ _).mp hbuilt.resolved.k).1
  have hr := ((StepConfig.positive_eq_ok _ _ _ _).mp hbuilt.resolved.r).1
  have hscored := recalls_scored s tape (by rwa [hbuilt.k]) (by rwa [hbuilt.r]) c d hd hplace trials
  have hsettle := s.settle_eq trials ⟨rest, later⟩ rewinds
  rw [seriesOf_eq, hreplies] at hsettle
  have hanswer : ran.1.1 = _ := (congrArg (·.1.1) hran).trans hsettle.1
  have hneighbors : ran.1.2.neighbors = _ := (congrArg (·.1.2.neighbors) hran).trans hsettle.2
  rw [hreplies, hbuilt.k, hbuilt.r] at hscored
  -- All that is left to know of the recalls is which of the three ends they came to.
  generalize s.recalls trials = recalled at hscored hanswer hneighbors
  refine ⟨p.k, p.r, trials.map (·.clientTime), hbuilt.resolved.k, hbuilt.resolved.r,
    hcount.trans hlength, by rw [List.length_map, hlength], ?_, ?_⟩
  · -- Only a trial with a hit that is no number ends the run before any score.
    intro t hleast
    have hnumeric : ¬∀ reply ∈ replies, reply.Numeric := by
      obtain ⟨reply, hreply, hbad⟩ := hleast.1
      exact fun h => hbad (h reply (List.mem_of_getElem? hreply))
    cases hscored with
    | bad first id fault hfirst =>
      simp only [calls, hneighbors, hanswer, hfirst.unique hleast]
      exact ⟨congrArg some hcalls, id, fault, rfl⟩
    | degenerate results last n reads numbers =>
      exact absurd (numeric_of_numbers numbers) hnumeric
    | measured results last n i j numbers =>
      exact absurd (numeric_of_numbers numbers) hnumeric
  · intro hnumeric
    cases hscored with
    | bad first id fault hfirst =>
      obtain ⟨reply, hreply, hbad⟩ := hfirst.1
      exact absurd (hnumeric reply (List.mem_of_getElem? hreply)) hbad
    | degenerate results last n reads numbers hn hreads hslots hplace hlog =>
      subst hn
      rw [hcalls] at hlog
      refine ⟨results, numbers, iff_of_true hanswer hslots,
        slotsOver_pos_iff p.k p.r rows _ hk hr, fun h => absurd hslots h,
        fun h => ⟨hitsOver_of_le _ _ _ _ _ _ h, slotsOver_of_le _ _ _ _ _ h⟩, fun _ => hanswer,
        reads, hreads, reads, hreads, .inl ?_⟩
      simp only [calls, hneighbors]
      exact congrArg some hlog
    | measured results last n i j numbers hn hbounds hslots hplace hlog =>
      subst hn
      rw [hcalls] at hlog
      refine ⟨results, numbers, iff_of_false ?_ hslots, slotsOver_pos_iff p.k p.r rows _ hk hr,
        fun _ => hanswer,
        fun h => ⟨hitsOver_of_le _ _ _ _ _ _ h, slotsOver_of_le _ _ _ _ _ h⟩, ?_,
        i, hbounds.1, j, hbounds.2, .inr ?_⟩
      · rw [hanswer]
        nofun
      · rintro rfl
        simp [slotsOver] at hslots
      · simp only [calls, hneighbors]
        exact congrArg some hlog

end

/-- Two queries with their neighbours, of which the first is answered one of two. -/
def paired : Services (StateM Nat) Memory where
  openDataset ref := pure (.ok (match ref.role with
    | .neighbors => ⟨.ids [[7, 5], [4]], 0⟩
    | _ => ⟨.vectors [[.ofByte 1], [.ofByte 2]], 0⟩))
  connect _ := pure (.ok fun _ => do
    let sent ← get
    set (sent + 1)
    pure (.ok ⟨Float.ofNat sent, if sent = 0 then ["7", "9"] else ["4"]⟩))
  clock := pure 0

def scoredQueries : StepConfig where
  stepName := "query"
  config := [("index_name", .string "docs"), ("field_name", .string "v"), ("k", .int 2),
    ("dataset_path", .string "queries.fbin"), ("calculate_recall", .bool true),
    ("neighbors_path", .string "truth.ibin")]

/-- Of three slots two are hit, and of the first slots both. -/
theorem paired_hits_two_of_three :
    ∃ s after, ofConfig paired.watched.noted scoredQueries ⟨0, []⟩ = (.ok s, after) ∧
      let ran := s.action.run ⟨0, []⟩
      ran.2.answers = [.ok ⟨Float.ofNat 0, ["7", "9"]⟩, .ok ⟨Float.ofNat 1, ["4"]⟩] ∧
      ∃ times : List Float, times.length = 2 ∧
        ran.1.1 = .ok (seriesFrom [⟨Float.ofNat 0, ["7", "9"]⟩, ⟨Float.ofNat 1, ["4"]⟩] times ++
          [("recall@K", .scalar (Float.ofNat 2 / Float.ofNat 3)),
            ("recall@1", .scalar (Float.ofNat 2 / Float.ofNat 2))]) := by
  obtain ⟨s, after, measures, built, hcount, hqueries, hneighbors, hanswers, hmeasures⟩ :
      ∃ s after measures,
      ofConfig paired.watched.noted scoredQueries ⟨0, []⟩ = (.ok s, after) ∧ s.queryCount = 2 ∧
      s.queries = ⟨⟨.vectors [[.ofByte 1], [.ofByte 2]], 0⟩, []⟩ ∧
      s.neighbors = some ⟨⟨.ids [[7, 5], [4]], 0⟩, []⟩ ∧
      (s.action.run ⟨0, []⟩).2.answers =
        [.ok ⟨Float.ofNat 0, ["7", "9"]⟩, .ok ⟨Float.ofNat 1, ["4"]⟩] ∧
      (s.action.run ⟨0, []⟩).1.1 = .ok measures :=
    ⟨_, _, _, rfl, rfl, rfl, rfl, rfl, rfl⟩
  have yields : Yields s.queryCount s.queries.inner [[.ofByte 1], [.ofByte 2]]
      ⟨.vectors [[.ofByte 1], [.ofByte 2]], 2⟩ := by
    rw [hcount, hqueries]
    exact .row _ _ _ _ _ _ _ rfl (.row _ _ _ _ _ _ _ rfl (.spent _))
  have tape := tape_memory (.ids [[7, 5], [4]]) (by decide)
  have placed : ∀ d ∈ s.neighbors, ∃ c, d.inner = Memory.mk (.ids [[7, 5], [4]]) c := by
    rw [hneighbors]
    rintro d ⟨⟩
    exact ⟨0, rfl⟩
  have numbers : [(⟨Float.ofNat 0, ["7", "9"]⟩ : SearchReply), ⟨Float.ofNat 1, ["4"]⟩].map
      (·.hits.map Text.readInt64) = [[7, 9], [4]].map (·.map .ok) := by decide
  obtain ⟨k, r, times, hk, hr, -, htimes, -, hscored⟩ :=
    action_pairs_trials_with_rows paired scoredQueries s ⟨0, []⟩ after built rfl _ _ yields rfl _ _
      tape placed 0 (by rw [hmeasures]; nofun)
      [⟨Float.ofNat 0, ["7", "9"]⟩, ⟨Float.ofNat 1, ["4"]⟩] hanswers
  obtain ⟨results, hresults, -, -, hmeasured, -⟩ := hscored (numeric_of_numbers numbers)
  have hsame : results = [[7, 9], [4]] := by
    have hinjective : Function.Injective fun ids : List Int =>
        ids.map (Except.ok : Int → Except Text.IntegerFault Int) :=
      List.map_injective_iff.mpr fun _ _ h => Except.ok.inj h
    exact List.map_injective_iff.mpr hinjective (hresults.symm.trans numbers)
  cases hk
  cases hr
  subst hsame
  exact ⟨s, after, built, hanswers, times, htimes, hmeasured (by decide)⟩

end QueryStep

end NeighborBench
