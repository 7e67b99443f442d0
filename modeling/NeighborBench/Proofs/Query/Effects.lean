import NeighborBench.Proofs.Query.Scores
import NeighborBench.Proofs.Step.Lifecycle

/-! # Where a run leaves its datasets

A run ends in one of few ways, and each of them leaves the queries, the neighbours and the service at
a place that is known from the trial where it ended.
-/

namespace NeighborBench.QueryStep

open Recall

/-! ## Trials over a tape -/

/-- The answers to trials that were all answered. -/
def answersOf (trials : List Trial) : List (Except SearchFault SearchReply) :=
  (trials.map (·.reply)).map .ok

theorem answersOf_ne_error (trials : List Trial) (t : Nat) (fault : SearchFault) :
    (answersOf trials)[t]? ≠ some (.error fault) := by
  simp [answersOf]

theorem numeric_of_answersOf (trials : List Trial) (numeric : ∀ t ∈ trials, t.reply.Numeric) :
    ¬∃ reply, .ok reply ∈ answersOf trials ∧ ¬reply.Numeric := by
  rintro ⟨reply, hmem, hbad⟩
  obtain ⟨t, ht, rfl⟩ : ∃ t ∈ trials, t.reply = reply := by simpa [answersOf] using hmem
  exact hbad (numeric t ht)

section

variable {ω δ : Type} [Dataset δ]

/-- How trials end that begin in front of row `c`: all of them are answered, or the last one fails. -/
inductive Ended (At : Nat → δ → Prop) (c n : Nat) :
    List (Except SearchFault SearchReply) → Except StepError (List Trial) → δ → Prop where
  | all (trials : List Trial) (left : δ) (count : trials.length = n) (place : At (c + n) left) :
    Ended At c n (answersOf trials) (.ok trials) left
  | failed (replies : List SearchReply) (fault : SearchFault) (left : δ)
    (place : At (c + replies.length + 1) left) :
    Ended At c n (replies.map .ok ++ [.error fault])
      (.error (.transport (c + replies.length) fault)) left

omit [Dataset δ] in
theorem Ended.answered {At : Nat → δ → Prop} {c n : Nat}
    {answers : List (Except SearchFault SearchReply)} {outcome : Except StepError (List Trial)}
    {left : δ} (h : Ended At (c + 1) n answers outcome left) (t : Trial) :
    Ended At c (n + 1) (.ok t.reply :: answers) (outcome.map (t :: ·)) left := by
  have hplace : ∀ i, c + 1 + i = c + (i + 1) := fun i => by omega
  cases h with
  | all trials left count place =>
    rw [hplace] at place
    exact .all (t :: trials) left (congrArg (· + 1) count) place
  | failed replies fault left place =>
    rw [hplace] at place ⊢
    exact .failed (t.reply :: replies) fault left place

theorem nextVector_at {At : Nat → δ → Prop} {rows : List (List Single)}
    (tape : Tape At (.vectors rows)) (c : Nat) (d : δ) (h : At c d) (hlt : c < rows.length) :
    ∃ after, nextVector d = (.ok (some rows[c]), after) ∧ At (c + 1) after := by
  obtain ⟨after, hread, hafter⟩ := tape.next c d h hlt
  refine ⟨after, ?_, hafter⟩
  rw [nextVector, hread, Rows.slice_vectors rows c hlt]
  rfl

theorem trials_ended {s : QueryStep (StateM (World ω)) δ} (noted : s.Noted) {At : Nat → δ → Prop}
    {rows : List (List Single)} (tape : Tape At (.vectors rows)) (n c : Nat) (d : δ) (h : At c d)
    (bound : c + n ≤ rows.length) (w : World ω) :
    ∃ outcome left outside events,
      (s.trials n c d).run w = ((outcome, left), ⟨outside, w.events ++ events⟩) ∧
      Ended At c n (events.filterMap Event.answer?) outcome left := by
  induction n generalizing c d w with
  | zero =>
    refine ⟨.ok [], d, w.outside, [], ?_, .all [] d rfl h⟩
    rw [List.append_nil]
    rfl
  | succ n ih =>
    obtain ⟨next, hnext, hplace⟩ := nextVector_at tape c d h (by omega)
    rw [trials, hnext]
    simp only
    obtain ⟨start, answer, stop, outside, hsearch⟩ := search_run noted (s.request rows[c]) _ w
    rw [hsearch]
    cases answer with
    | error fault =>
      exact ⟨.error (.transport c fault), next, outside, [.searched _ (.error fault)], rfl,
        .failed [] fault next hplace⟩
    | ok reply =>
      -- The later trials begin one row on, with this search already in the journal.
      obtain ⟨outcome, left, last, events, hrun, hended⟩ := ih (c + 1) next hplace (by omega)
        ⟨outside, w.events ++ [.searched (s.request rows[c]) (.ok reply)]⟩
      let this : Trial := ⟨reply.took, milliseconds (stop - start), reply.hits⟩
      refine ⟨outcome.map (this :: ·), left, last,
        .searched (s.request rows[c]) (.ok this.reply) :: events, ?_, hended.answered this⟩
      rw [StateT.run_bind, hrun, List.append_assoc]
      rfl

theorem trials_of_ids (s : QueryStep (StateM (World ω)) δ) {At : Nat → δ → Prop}
    {rows : List (List Int)} (tape : Tape At (.ids rows)) (n : Nat) (d : δ) (h : At 0 d)
    (bound : n ≤ rows.length) (w : World ω) :
    ∃ outcome left, (s.trials n 0 d).run w = ((outcome, left), w) ∧
      (Ended At 0 n [] outcome left ∨ outcome = .error (.dataset (.rowKind .vector))) := by
  cases n with
  | zero => exact ⟨.ok [], d, rfl, .inl (.all [] d rfl h)⟩
  | succ n =>
    obtain ⟨after, hread, -⟩ := tape.next 0 d h (Nat.lt_of_lt_of_le n.succ_pos bound)
    refine ⟨.error (.dataset (.rowKind .vector)), after, ?_, .inr rfl⟩
    rw [trials, nextVector, hread]
    rfl

theorem trials_on_tape {s : QueryStep (StateM (World ω)) δ} (noted : s.Noted) {At : Nat → δ → Prop}
    {rows : Rows} (tape : Tape At rows) (n : Nat) (d : δ) (h : At 0 d) (bound : n ≤ rows.length)
    (outside : ω) :
    ∃ outcome left last, (s.trials n 0 d).run ⟨outside, []⟩ = ((outcome, left), last) ∧
      (Ended At 0 n last.answers outcome left ∨
        last.answers = [] ∧ outcome = .error (.dataset (.rowKind .vector))) := by
  cases rows with
  | vectors rows =>
    obtain ⟨outcome, left, last, events, hrun, hended⟩ :=
      trials_ended noted tape n 0 d h (by rwa [Nat.zero_add]) ⟨outside, []⟩
    exact ⟨outcome, left, _, hrun, .inl hended⟩
  | ids rows =>
    obtain ⟨outcome, left, hrun, hended | hrefused⟩ := s.trials_of_ids tape n d h bound ⟨outside, []⟩
    · exact ⟨outcome, left, _, hrun, .inl hended⟩
    · exact ⟨outcome, left, _, hrun, .inr ⟨rfl, hrefused⟩⟩

end

/-! ## Recall over a tape -/

/-- What the replies of a run come to, and where that leaves neighbours that were `d` before. -/
inductive Settled {δ : Type} (At : Nat → δ → Prop) (rows : Rows) (replies : List SearchReply) (d : Watched δ) :
    Except StepError Measures × Option (Watched δ) → Prop where
  | bad (t : Nat) (id : String) (fault : Text.IntegerFault) (first : IsLeast (nonNumeric replies) t) :
    Settled At rows replies d (.error (.transport t (.badHit id fault.message)), some d)
  | degenerate (last : Watched δ) (numeric : ∀ reply ∈ replies, reply.Numeric)
    (place : At (min replies.length rows.length) last.inner) :
    Settled At rows replies d (.error .degenerateRecall, some last)
  | measured (recalled : Measures) (last : Watched δ) (numeric : ∀ reply ∈ replies, reply.Numeric)
    (place : At 0 last.inner) : Settled At rows replies d (.ok recalled, some last)
  | refused (last : Watched δ) (numeric : ∀ reply ∈ replies, reply.Numeric) :
    Settled At rows replies d (.error (.dataset (.rowKind .id)), some last)

theorem Scored.settled {δ : Type} {At : Nat → δ → Prop} {rows : List (List Int)} {k r : Nat}
    {replies : List SearchReply} {d : Watched δ}
    {recalled : Except StepError Measures × Option (Watched δ)}
    (h : Scored At rows k r replies d recalled) : Settled At (.ids rows) replies d recalled := by
  cases h with
  | bad t id fault first => exact .bad t id fault first
  | degenerate results last n reads numbers scored bound slots place =>
    subst scored
    exact .degenerate last (numeric_of_numbers numbers) place
  | measured results last n i j numbers scored bounds slots place =>
    exact .measured _ last (numeric_of_numbers numbers) place

section

variable {δ : Type} [Dataset δ]

theorem evaluate_vectors {At : Nat → δ → Prop} {rows : List (List Single)}
    (tape : Tape At (.vectors rows)) (r k queries : Nat) (results : List (List Int)) (d : δ)
    (h : At 0 d) :
    ∃ after, (evaluate r k queries results d = (.error .degenerateRecall, after) ∧
        At (min queries rows.length) after) ∨
      evaluate r k queries results d = (.error (.dataset (.rowKind .id)), after) := by
  -- Rows of vectors are no neighbours: the first of them is refused.
  cases queries with
  | zero => exact ⟨d, .inl ⟨rfl, by rwa [Nat.zero_min]⟩⟩
  | succ queries =>
    by_cases hlt : 0 < rows.length
    · obtain ⟨after, hread, -⟩ := tape.next 0 d h hlt
      refine ⟨after, .inr ?_⟩
      rw [evaluate, counts, hread]
      rfl
    · have hnone : rows.length = 0 := by omega
      obtain ⟨after, hread, hafter⟩ := tape.finished 0 d h (Nat.le_of_eq hnone)
      refine ⟨after, .inl ⟨?_, by rwa [hnone, Nat.min_zero]⟩⟩
      rw [evaluate, counts, hread]
      rfl

theorem recalls_settled {m : Type → Type} (s : QueryStep m (Watched δ)) {At : Nat → δ → Prop}
    {rows : Rows} (tape : Tape At rows) (hk : 0 < s.k) (hr : 0 < s.r) (d : Watched δ)
    (hd : s.neighbors = some d) (place : At 0 d.inner) (trials : List Trial) :
    Settled At rows (trials.map (·.reply)) d (s.recalls trials) := by
  cases rows with
  | ids rows => exact (recalls_scored s tape hk hr 0 d hd place trials).settled
  | vectors rows =>
    -- Hits are read as numbers first, so a bad one is found before the wrong rows are.
    have hpost := numericHits_post 0 trials
    cases hhits : numericHits 0 trials with
    | error e =>
      rw [hhits] at hpost
      obtain ⟨t, id, fault, hfirst, rfl⟩ := hpost.isLeast
      rw [s.recalls_of_bad trials d _ hd hhits]
      exact .bad t id fault hfirst
    | ok results =>
      rw [hhits] at hpost
      obtain ⟨first, hreset, hfirst⟩ := tape.watched.rewinds 0 d place
      obtain ⟨last, ⟨hpass, hplace⟩ | hpass⟩ :=
        evaluate_vectors tape.watched s.k s.k results.length results first hfirst
      · rw [s.recalls_of_numeric trials d last results _ hd hhits
          (scores_first s.k s.r results d first last _ hreset hpass)]
        rw [hpost.length_eq] at hplace
        exact .degenerate last (numeric_of_numbers hpost) hplace
      · rw [s.recalls_of_numeric trials d last results _ hd hhits
          (scores_first s.k s.r results d first last _ hreset hpass)]
        exact .refused last (numeric_of_numbers hpost)

end

/-! ## Whole runs -/

/-- What a run of a step leaves, from the answers to its searches and the answer of the run. -/
structure Effects {m : Type → Type} (s : QueryStep m (Watched Stored)) (scored : Prop)
    (answers : List (Except SearchFault SearchReply)) (outcome : Except StepError StepResult)
    (left : Step (QueryStep m (Watched Stored))) : Prop where
  /-- A success leaves all datasets at their first row. -/
  success : ∀ result, outcome = .ok result → left.body.queries.inner.cursor = 0 ∧
    (scored → ∃ d, left.body.neighbors = some d ∧ d.inner.cursor = 0)
  /-- A search that fails is the last one, and the neighbours are as they were. -/
  failedSearch : ∀ t fault, answers[t]? = some (.error fault) →
    outcome = .error (.transport t fault) ∧ answers.length = t + 1 ∧
    left.body.queries.inner.cursor = t + 1 ∧
    left.body.neighbors = s.neighbors ∧ ∀ d ∈ s.neighbors, d.calls = []
  /-- A hit that is no number is found after all searches, and the neighbours are as they were. -/
  badHit : scored → (∀ fault, .error fault ∉ answers) →
    (∃ reply, .ok reply ∈ answers ∧ ¬reply.Numeric) →
    (∃ t id fault, outcome = .error (.transport t (.badHit id (Text.IntegerFault.message fault)))) ∧
    answers.length = s.queryCount ∧ left.body.queries.inner.cursor = s.queryCount ∧
    left.body.neighbors = s.neighbors ∧ ∀ d ∈ s.neighbors, d.calls = []
  /-- Recall that is not defined leaves both datasets where they were last read. -/
  degenerate : outcome = .error .degenerateRecall →
    answers.length = s.queryCount ∧ left.body.queries.inner.cursor = s.queryCount ∧
    ∃ d, left.body.neighbors = some d ∧
      d.inner.cursor = min s.queryCount (Dataset.size d.inner)
  failure : ∀ e, outcome = .error e → left.status = .failed

section

variable {ω : Type}

theorem execute_run (s : QueryStep (StateM (World ω)) (Watched Stored)) (w last : World ω)
    (outcome : Except StepError Measures) (body : QueryStep (StateM (World ω)) (Watched Stored))
    (h : s.action.run w = ((outcome, body), last)) :
    ((⟨s, .initialized⟩ : Step _).execute (m := StateM (World ω))).run w =
      ((StepKind.answer (StateM (World ω)) outcome body,
        ⟨body, Step.statusAfter (StepKind.answer (StateM (World ω)) outcome body)⟩), last) := by
  have hrun : (StepKind.action (m := StateM (World ω)) s).run w = ((outcome, body), last) := h
  rw [Step.execute_of_initialized, StateT.run_bind, hrun]
  rfl

theorem answer_ok_ne_degenerate (measures : Measures)
    (body : QueryStep (StateM (World ω)) (Watched Stored)) :
    StepKind.answer (StateM (World ω)) (.ok measures) body ≠ .error .degenerateRecall := by
  -- Measures that were made are never undefined recall, whichever of them are missing.
  unfold StepKind.answer checkMeasures
  simp only [Except.bind]
  split <;> simp [Except.map]

variable (s : QueryStep (StateM (World ω)) (Watched Stored)) (scored : Prop)

theorem effects_failed (replies : List SearchReply) (fault : SearchFault) (left : Watched Stored)
    (hplace : left.inner.cursor = replies.length + 1) (hcalls : ∀ d ∈ s.neighbors, d.calls = []) :
    Effects s scored (replies.map .ok ++ [.error fault]) (.error (.transport replies.length fault))
      ⟨{ s with queries := left }, .failed⟩ := by
  constructor
  · nofun
  · -- All answers but the last are replies, so the fault can only be the last one.
    intro t other hanswer
    have hlt : ¬t < replies.length := by
      intro hlt
      rw [List.getElem?_append_left (by simpa using hlt)] at hanswer
      simp at hanswer
    rw [List.getElem?_append_right (by simpa using hlt), List.getElem?_singleton,
      List.length_map] at hanswer
    split at hanswer
    · obtain rfl : fault = other := by simpa using hanswer
      obtain rfl : t = replies.length := by omega
      exact ⟨rfl, by simp, hplace, rfl, hcalls⟩
    · cases hanswer
  · intro _ answered
    exact absurd (by simp) (answered fault)
  · nofun
  · intro _ _
    rfl

theorem effects_unsearched (e : StepError) (other : e ≠ .degenerateRecall)
    (body : QueryStep (StateM (World ω)) (Watched Stored)) :
    Effects s scored [] (.error e) ⟨body, .failed⟩ := by
  constructor
  · nofun
  · nofun
  · rintro _ _ ⟨reply, hmem, -⟩
    cases hmem
  · intro h
    exact absurd (Except.error.inj h) other
  · intro _ _
    rfl

theorem effects_measured (trials : List Trial) (recalled : Measures) (left first : Watched Stored)
    (held : Option (Watched Stored)) (hrecalls : s.recalls trials = (.ok recalled, held))
    (hreset : Dataset.reset left = (.ok (), first)) (hfirst : first.inner.cursor = 0)
    (hheld : scored → ∃ d, held = some d ∧ d.inner.cursor = 0)
    (hnumeric : scored → ∀ t ∈ trials, t.reply.Numeric) :
    let settled := s.settle (.ok trials) left
    let answer := StepKind.answer (StateM (World ω)) settled.1 settled.2
    Effects s scored (answersOf trials) answer ⟨settled.2, Step.statusAfter answer⟩ := by
  rw [s.settle_of_ok trials left first recalled held hrecalls hreset]
  intro settled answer
  constructor
  · intro _ _
    exact ⟨hfirst, hheld⟩
  · intro t fault hanswer
    exact absurd hanswer (answersOf_ne_error trials t fault)
  · intro hscored _ hbad
    exact absurd hbad (numeric_of_answersOf trials (hnumeric hscored))
  · intro h
    exact absurd h (answer_ok_ne_degenerate _ _)
  · intro e h
    simp only [h]
    rfl

theorem effects_unmeasured {At : Nat → Stored → Prop} {rows : Rows} (tape : Tape At rows)
    (hcursor : ∀ c d, At c d → d.cursor = c) (trials : List Trial) (e : StepError)
    (count : trials.length = s.queryCount) (left d : Watched Stored) (hd : s.neighbors = some d)
    (hcalls : d.calls = []) (hleft : left.inner.cursor = s.queryCount)
    (held : Option (Watched Stored)) (hrecalls : s.recalls trials = (.error e, held))
    (hsettled : Settled At rows (trials.map (·.reply)) d (.error e, held)) :
    let settled := s.settle (.ok trials) left
    let answer := StepKind.answer (StateM (World ω)) settled.1 settled.2
    Effects s scored (answersOf trials) answer ⟨settled.2, Step.statusAfter answer⟩ := by
  rw [s.settle_of_error trials left e held hrecalls]
  intro settled answer
  have hlength : (answersOf trials).length = s.queryCount := by simp [answersOf, count]
  have hcalls' : ∀ other ∈ s.neighbors, other.calls = [] := by
    rw [hd]
    rintro other ⟨⟩
    exact hcalls
  have hunmeasured : ∀ numeric : (∀ reply ∈ trials.map (·.reply), reply.Numeric),
      ¬∃ reply, .ok reply ∈ answersOf trials ∧ ¬reply.Numeric := fun numeric =>
    numeric_of_answersOf trials fun t ht => numeric _ (List.mem_map_of_mem ht)
  constructor
  · nofun
  · intro t fault hanswer
    exact absurd hanswer (answersOf_ne_error trials t fault)
  · intro _ _ hbad
    -- Only the end at a bad hit leaves one among the answers.
    cases hsettled with
    | bad t id fault first =>
      exact ⟨⟨t, id, fault, rfl⟩, hlength, hleft, hd.symm, hcalls'⟩
    | degenerate last numeric => exact absurd hbad (hunmeasured numeric)
    | refused last numeric => exact absurd hbad (hunmeasured numeric)
  · intro h
    obtain rfl : e = .degenerateRecall := Except.error.inj h
    cases hsettled with
    | degenerate last numeric place =>
      refine ⟨hlength, hleft, last, rfl, ?_⟩
      rw [hcursor _ _ place, List.length_map, count, ← tape.size _ _ place]
  · intro _ _
    rfl

theorem effects_answered {At : Nat → Stored → Prop} {rows : Rows} (queries : Tape At rows)
    (hcursor : ∀ c d, At c d → d.cursor = c) (trials : List Trial)
    (count : trials.length = s.queryCount) (left : Watched Stored) (place : At s.queryCount left.inner)
    (hk : 0 < s.k) (hr : 0 < s.r) (hscored : scored → s.neighbors.isSome)
    (neighbors : ∀ d, s.neighbors = some d → d.inner.Opened ∧ d.calls = []) :
    let settled := s.settle (.ok trials) left
    let answer := StepKind.answer (StateM (World ω)) settled.1 settled.2
    Effects s scored (answersOf trials) answer ⟨settled.2, Step.statusAfter answer⟩ := by
  obtain ⟨first, hreset, hfirst⟩ := queries.watched.rewinds _ left place
  have hrewound : first.inner.cursor = 0 := hcursor 0 _ hfirst
  cases hd : s.neighbors with
  | none =>
    -- Without neighbours no recall was asked for.
    have hrecalls : s.recalls trials = (.ok [], none) := by rw [recalls, hd]
    have hunscored : ¬scored := fun h => by simpa [hd] using hscored h
    exact s.effects_measured scored trials [] left first none hrecalls hreset hrewound
      (fun h => absurd h hunscored) (fun h => absurd h hunscored)
  | some d =>
    obtain ⟨hopened, hcalls⟩ := neighbors d hd
    obtain ⟨NeighborsAt, neighborRows, tape, hplace, hcursor'⟩ := hopened.tape
    have hsettled := recalls_settled s tape hk hr d hd hplace trials
    rcases hrecalls : s.recalls trials with ⟨e | recalled, held⟩
    · rw [hrecalls] at hsettled
      exact s.effects_unmeasured scored tape hcursor' trials e count left d hd hcalls
        (hcursor _ _ place) held hrecalls hsettled
    · rw [hrecalls] at hsettled
      cases hsettled with
      | measured _ last numeric hlast =>
        exact s.effects_measured scored trials recalled left first (some last) hrecalls hreset hrewound
          (fun _ => ⟨last, rfl, hcursor' 0 _ hlast⟩)
          (fun _ t ht => numeric _ (List.mem_map_of_mem ht))

/-- Wherever the run of a step ends that was built over opened datasets, it leaves the datasets and
the service as that end says. -/
theorem execute_effects (services : Services (StateM ω) Stored)
    (opens : ∀ ref outside d left, services.openDataset ref outside = (.ok d, left) → d.Opened)
    (config : StepConfig) (s : QueryStep (StateM (World ω)) (Watched Stored)) (before after : World ω)
    (built : ofConfig services.watched.noted config before = (.ok s, after)) (outside : ω) :
    let ran := ((⟨s, .initialized⟩ : Step _).execute (m := StateM (World ω))).run ⟨outside, []⟩
    Effects s (config.bool "calculate_recall" (some false) = .ok true) ran.2.answers ran.1.1
      ran.1.2 := by
  obtain ⟨p, hbuilt⟩ := built_of_ofConfig services.watched.noted config s before after built
  obtain ⟨opened, behind, hqueries⟩ := hbuilt.queries
  obtain ⟨⟨_, _, hinner⟩, -⟩ := services.opened_watched p.queries s.queries opened behind hqueries
  obtain ⟨At, rows, tape, hplace, hcursor⟩ := (opens _ _ _ _ hinner).tape
  have hheld : ∀ d, s.neighbors = some d → d.inner.Opened ∧ d.calls = [] := by
    intro d hd
    obtain ⟨⟨_, _, _, hopened⟩, hcalls⟩ :=
      neighbors_watched services config s before after built d hd
    exact ⟨opens _ _ _ _ hopened, hcalls⟩
  have hcalls : ∀ d ∈ s.neighbors, d.calls = [] := fun d hd => (hheld d hd).2
  have hscored : config.bool "calculate_recall" (some false) = .ok true →
      s.neighbors.isSome := by
    intro hon
    rw [hbuilt.neighbors]
    exact Except.ok.inj (hbuilt.resolved.calculateRecall.symm.trans hon)
  have hk := ((StepConfig.positive_eq_ok _ _ _ _).mp hbuilt.resolved.k).1
  have hr := ((StepConfig.positive_eq_ok _ _ _ _).mp hbuilt.resolved.r).1
  have hbound : s.queryCount ≤ rows.length := by
    rw [← tape.size 0 _ hplace]
    exact QueryParameters.queryCount_le config _ _ hbuilt.queryCount
  by_cases crowded : roomFor trialBytes < s.queryCount
  · rw [execute_run s _ _ _ _ (s.action_without_room crowded ⟨outside, []⟩)]
    exact s.effects_unsearched _ (.noRoom s.queryCount) nofun s
  obtain ⟨outcome, left, last, htrials, hended⟩ :=
    trials_on_tape hbuilt.noted tape.watched s.queryCount s.queries hplace hbound outside
  rw [← s.allTrials_of_room (Nat.le_of_not_lt crowded)] at htrials
  have hran := action_run s ⟨outside, []⟩ last outcome left htrials
  rw [execute_run s _ last _ _ hran]
  rcases hended with hended | ⟨hnone, rfl⟩
  · change Effects s _ last.answers _ _
    generalize last.answers = answers at hended ⊢
    cases hended with
    | all trials left count place =>
      rw [Nat.zero_add] at place
      exact s.effects_answered _ tape hcursor trials count left place (by rwa [hbuilt.k])
        (by rwa [hbuilt.r]) hscored hheld
    | failed replies fault left place =>
      rw [Nat.zero_add] at place ⊢
      exact s.effects_failed _ replies fault left (hcursor _ _ place) hcalls
  · change Effects s _ last.answers _ _
    rw [hnone]
    exact s.effects_unsearched _ (.dataset (.rowKind .vector)) nofun _

end

/-- Three queries in memory, neighbours in a file, and a service whose second answer does not come. -/
def faltering : Services (StateM Nat) Stored where
  openDataset ref := pure (.ok (match ref.role with
    | .neighbors =>
      .inr { bytes := BigAnn.withDistances, element := .i32, rows := 2, dim := 1, offset := 8 }
    | _ => .inl ⟨.vectors [[.ofByte 1], [.ofByte 2], [.ofByte 3]], 0⟩))
  connect _ := pure (.ok fun _ => do
    let sent ← get
    set (sent + 1)
    pure (if sent = 1 then .error (.other "no answer") else .ok ⟨Float.ofNat sent, ["5"]⟩))
  clock := pure 0

/-- Two of three searches are sent, and nothing is asked of the neighbours. -/
theorem faltering_stops_at_second :
    ∃ s after, ofConfig faltering.watched.noted scoredQueries ⟨0, []⟩ = (.ok s, after) ∧
      s.queryCount = 3 ∧
      let ran := ((⟨s, .initialized⟩ : Step _).execute (m := StateM (World Nat))).run ⟨0, []⟩
      ran.2.answers = [.ok ⟨Float.ofNat 0, ["5"]⟩, .error (.other "no answer")] ∧
      ran.1.1 = .error (.transport 1 (.other "no answer")) ∧ ran.1.2.status = .failed ∧
      ran.1.2.body.queries.inner.cursor = 2 ∧ ran.1.2.body.neighbors = s.neighbors ∧
      ∀ d ∈ s.neighbors, d.calls = [] := by
  have opens : ∀ ref outside d left, faltering.openDataset ref outside = (.ok d, left) →
      d.Opened := by
    intro ref outside d left h
    obtain ⟨hd, -⟩ := Prod.mk.inj h
    have hd' := (Except.ok.inj hd).symm
    subst hd'
    cases ref.role with
    | neighbors => exact .file _ _ _ _ BigAnn.withDistances_accepted
    | index => exact .memory _ (by decide)
    | query => exact .memory _ (by decide)
  obtain ⟨s, after, built, hcount, hanswers⟩ : ∃ s after,
      ofConfig faltering.watched.noted scoredQueries ⟨0, []⟩ = (.ok s, after) ∧ s.queryCount = 3 ∧
      (((⟨s, .initialized⟩ : Step _).execute (m := StateM (World Nat))).run ⟨0, []⟩).2.answers =
        [.ok ⟨Float.ofNat 0, ["5"]⟩, .error (.other "no answer")] := ⟨_, _, rfl, rfl, rfl⟩
  have effects := execute_effects faltering opens scoredQueries s ⟨0, []⟩ after built 0
  obtain ⟨houtcome, -, hcursor, hneighbors, hcalls⟩ :=
    effects.failedSearch 1 (.other "no answer") (by rw [hanswers]; rfl)
  exact ⟨s, after, built, hcount, hanswers, houtcome, effects.failure _ houtcome, hcursor, hneighbors,
    hcalls⟩

end NeighborBench.QueryStep
