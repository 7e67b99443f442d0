import NeighborBench.Dataset.Source
import NeighborBench.Engine
import NeighborBench.Proofs.Success
import NeighborBench.Query.Step

/-! # What a running step can fail with

A step fails in its own ways, or because one of its datasets does. What a dataset can fail with is
kept from call to call, so it is also all that a step can fail with. The configuration is at fault
only before a step runs: an open file can be cut short or hold the wrong rows, but its format is
known.
-/

namespace NeighborBench

/-! ## Errors of a kind -/

def FailsOnly {ε α : Type} (allowed : ε → Prop) (answer : Except ε α) : Prop :=
  ∀ e, answer = .error e → allowed e

namespace FailsOnly

variable {ε α β : Type} {allowed : ε → Prop}

theorem ok (a : α) : FailsOnly allowed (.ok a) := by
  intro e h
  cases h

theorem error {e : ε} (h : allowed e) : FailsOnly allowed (.error e : Except ε α) := by
  intro other hother
  cases hother
  exact h

theorem mono {answer : Except ε α} (h : FailsOnly allowed answer) {wider : ε → Prop}
    (more : ∀ e, allowed e → wider e) : FailsOnly wider answer :=
  fun e he => more e (h e he)

theorem bind {answer : Except ε α} (h : FailsOnly allowed answer) {f : α → Except ε β}
    (next : ∀ a, FailsOnly allowed (f a)) : FailsOnly allowed (answer >>= f) := by
  cases answer with
  | error e => exact error (h e rfl)
  | ok a => exact next a

theorem map {answer : Except ε α} (h : FailsOnly allowed answer) (f : α → β) :
    FailsOnly allowed (answer.map f) := by
  cases answer with
  | error e => exact error (h e rfl)
  | ok a => exact ok (f a)

theorem mapM {f : α → Except ε β} (h : ∀ a, FailsOnly allowed (f a)) (entries : List α) :
    FailsOnly allowed (entries.mapM f) := by
  induction entries with
  | nil => exact ok []
  | cons entry rest ih =>
    rw [List.mapM_cons]
    exact (h entry).bind fun b => ih.bind fun more => ok (b :: more)

end FailsOnly

/-- An answer that fails only as allowed, and a state in which what held still does. -/
structure Contained {ε α σ : Type} (Held : σ → Prop) (allowed : ε → Prop)
    (ran : Except ε α × σ) : Prop where
  fails : FailsOnly allowed ran.1
  held : Held ran.2

theorem Contained.run_bind {ε α β σ : Type} {Held : σ → Prop} {allowed : ε → Prop}
    {x : ExceptT ε (StateM σ) α} {f : α → ExceptT ε (StateM σ) β}
    (first : ∀ s, Held s → Contained Held allowed (x.run.run s))
    (next : ∀ a s, Held s → Contained Held allowed ((f a).run.run s)) (s : σ) (held : Held s) :
    Contained Held allowed ((x >>= f).run.run s) := by
  change Contained Held allowed (ExceptT.bindCont f (x s).1 (x s).2)
  have hx : Contained Held allowed (x s) := first s held
  generalize x s = ran at hx
  rcases ran with ⟨e | a, between⟩
  · exact ⟨.error (hx.fails e rfl), hx.held⟩
  · exact next a between hx.held

/-- A dataset that is read one by one, whose rows are taken by `convert`: the calls and the taking
fail only as allowed. -/
structure Serves {δ α : Type} [Dataset δ] (convert : Rows → Except DatasetError α)
    (allowed : DatasetError → Prop) (Held : δ → Prop) : Prop where
  read : ∀ d, Held d → Contained Held allowed (Dataset.read 1 d)
  reset : ∀ d, Held d → Contained Held allowed (Dataset.reset d)
  take : ∀ d rows, Held d → (Dataset.read 1 d).1 = .ok (some rows) → FailsOnly allowed (convert rows)

/-- Errors of the work of a step whose datasets fail only as allowed. -/
inductive StepError.AtWork (allowed : DatasetError → Prop) : StepError → Prop where
  | transport (trial : Nat) (fault : SearchFault) : AtWork allowed (.transport trial fault)
  | degenerateRecall : AtWork allowed .degenerateRecall
  | noRoom (entries : Nat) : AtWork allowed (.noRoom entries)
  | ofDataset (e : DatasetError) (h : allowed e) : AtWork allowed (.ofDataset e)

/-- Errors of a step: its work fails, it cannot be moved to a status, or a measure is missing. -/
inductive StepError.Within (allowed : DatasetError → Prop) : StepError → Prop where
  | atWork (e : StepError) (h : e.AtWork allowed) : Within allowed e
  | status (current next : Status) : Within allowed (.status current next)
  | missingMeasure (label measure : String) : Within allowed (.missingMeasure label measure)

open StepError (AtWork Within)

/-! ## Steps -/

section

variable {δ : Type} [Dataset δ] {allowed : DatasetError → Prop} {Q N : δ → Prop}

theorem Recall.counts_contained (serves : Serves Rows.asIds allowed N) (r k n : Nat)
    (results : List (List Int)) (neighbors : δ) (held : N neighbors) :
    Contained N allowed (counts r k n results neighbors) := by
  induction n generalizing results neighbors with
  | zero => exact ⟨.ok _, held⟩
  | succ n ih =>
    unfold counts
    have hread := serves.read neighbors held
    have htake := serves.take neighbors
    generalize Dataset.read 1 neighbors = answer at hread htake ⊢
    obtain ⟨hfails, hheld⟩ := hread
    rcases answer with ⟨_ | _ | batch, after⟩
    · exact ⟨.error (hfails _ rfl), hheld⟩
    · exact ⟨.ok _, hheld⟩
    · have hids := htake batch held rfl
      simp only
      generalize batch.asIds = answer at hids ⊢
      rcases answer with _ | _ | ⟨row, others⟩
      · exact ⟨.error (hids _ rfl), hheld⟩
      · exact ⟨.ok _, hheld⟩
      · obtain ⟨hrest, hlast⟩ := ih results.tail after hheld
        exact ⟨hrest.map _, hlast⟩

theorem Recall.evaluate_contained (serves : Serves Rows.asIds allowed N) (r k n : Nat)
    (results : List (List Int)) (neighbors : δ) (held : N neighbors) :
    Contained N (AtWork allowed) (evaluate r k n results neighbors) := by
  unfold evaluate
  obtain ⟨hfails, hheld⟩ := counts_contained serves r k n results neighbors held
  -- The dataset can fail, and the counts can come to no quotient.
  generalize counts r k n results neighbors = answer at hfails hheld ⊢
  rcases answer with ⟨_ | c, after⟩
  · exact ⟨.error (.ofDataset _ (hfails _ rfl)), hheld⟩
  · refine ⟨?_, hheld⟩
    change FailsOnly _ c.ratio
    unfold Counts.ratio
    split
    · exact .error .degenerateRecall
    · exact .ok _

namespace QueryStep

theorem nextVector_contained (serves : Serves Rows.asVectors allowed Q) (queries : δ)
    (held : Q queries) : Contained Q (AtWork allowed) (nextVector queries) := by
  unfold nextVector
  have hread := serves.read queries held
  have htake := serves.take queries
  generalize Dataset.read 1 queries = answer at hread htake ⊢
  obtain ⟨hfails, hheld⟩ := hread
  rcases answer with ⟨_ | _ | batch, after⟩
  · exact ⟨.error (.ofDataset _ (hfails _ rfl)), hheld⟩
  · exact ⟨.ok none, hheld⟩
  · have hrows := htake batch held rfl
    simp only
    generalize batch.asVectors = answer at hrows ⊢
    rcases answer with _ | rows
    · exact ⟨.error (.ofDataset _ (hrows _ rfl)), hheld⟩
    · exact ⟨.ok _, hheld⟩

theorem numericHits_atWork (trial : Nat) (trials : List Trial) :
    FailsOnly (AtWork allowed) (numericHits trial trials) := by
  induction trials generalizing trial with
  | nil => exact .ok []
  | cons t rest ih =>
    have hhit : ∀ id, FailsOnly (AtWork allowed) (numericHit trial id) := by
      intro id
      unfold numericHit
      split
      · exact .ok _
      · exact .error (.transport trial _)
    exact (FailsOnly.mapM hhit t.hits).bind fun ids => (ih (trial + 1)).bind fun more => .ok _

theorem rewind_contained {α : Type} {convert : Rows → Except DatasetError α}
    (serves : Serves convert allowed N) (neighbors : δ) (held : N neighbors) :
    Contained N (AtWork allowed) ((rewind (δ := δ)).run.run neighbors) := by
  change Contained N _ ((Dataset.reset neighbors).1.mapError _, (Dataset.reset neighbors).2)
  obtain ⟨hfails, hheld⟩ := serves.reset neighbors held
  refine ⟨?_, hheld⟩
  generalize (Dataset.reset neighbors).1 = done at hfails ⊢
  cases done with
  | error e => exact .error (.ofDataset e (hfails e rfl))
  | ok done => exact .ok done

theorem scores_contained (serves : Serves Rows.asIds allowed N) (k r : Nat)
    (results : List (List Int)) (neighbors : δ) (held : N neighbors) :
    Contained N (AtWork allowed) ((scores k r results).run.run neighbors) := by
  have hrewind := rewind_contained serves
  unfold scores
  refine .run_bind hrewind (fun _ => ?_) neighbors held
  refine .run_bind (Recall.evaluate_contained serves k k _ results) fun atK => ?_
  refine .run_bind hrewind fun _ => ?_
  refine .run_bind (Recall.evaluate_contained serves r k _ results) fun atR => ?_
  exact .run_bind hrewind fun _ _ held => ⟨.ok _, held⟩

section

variable {ω : Type}

/-- Both datasets of a step hold what they should. -/
structure Holds (Q N : δ → Prop) (s : QueryStep (StateM ω) δ) : Prop where
  queries : Q s.queries
  neighbors : ∀ d ∈ s.neighbors, N d

theorem trials_contained (serves : Serves Rows.asVectors allowed Q) (s : QueryStep (StateM ω) δ)
    (left trial : Nat) (queries : δ) (held : Q queries) (w : ω) :
    Contained Q (AtWork allowed) (s.trials left trial queries w).1 := by
  induction left generalizing trial queries w with
  | zero => exact ⟨.ok [], held⟩
  | succ left ih =>
    unfold trials
    obtain ⟨hfails, hheld⟩ := nextVector_contained serves queries held
    generalize nextVector queries = answer at hfails hheld ⊢
    rcases answer with ⟨_ | _ | vector, after⟩
    · exact ⟨.error (hfails _ rfl), hheld⟩
    · exact ⟨.ok [], hheld⟩
    · simp only [state_bind]
      generalize s.client (s.request vector) (s.clock w).2 = answered
      rcases answered with ⟨fault | reply, between⟩
      · exact ⟨.error (.transport trial fault), hheld⟩
      · obtain ⟨hrest, hlast⟩ := ih (trial + 1) after hheld (s.clock between).2
        exact ⟨hrest.map _, hlast⟩

theorem allTrials_contained (serves : Serves Rows.asVectors allowed Q)
    (s : QueryStep (StateM ω) δ) (held : Q s.queries) (w : ω) :
    Contained Q (AtWork allowed) (s.allTrials w).1 := by
  unfold allTrials
  split
  · exact ⟨.error (.noRoom s.queryCount), held⟩
  · exact s.trials_contained serves s.queryCount 0 s.queries held w

theorem recalls_contained (serves : Serves Rows.asIds allowed N) (s : QueryStep (StateM ω) δ)
    (held : ∀ d ∈ s.neighbors, N d) (trials : List Trial) :
    Contained (fun neighbors => ∀ d ∈ neighbors, N d) (AtWork allowed) (s.recalls trials) := by
  unfold recalls
  split
  · exact ⟨.ok [], nofun⟩
  · next neighbors hneighbors =>
    have hn : N neighbors := held neighbors hneighbors
    have hhits : FailsOnly (AtWork allowed) (numericHits 0 trials) := numericHits_atWork 0 trials
    generalize numericHits 0 trials = hits at hhits ⊢
    cases hits with
    | error e =>
      -- The neighbours are not touched.
      exact ⟨.error (hhits e rfl), fun d hd => by cases hd; exact hn⟩
    | ok results =>
      obtain ⟨hfails, hheld⟩ := scores_contained serves s.k s.r results neighbors hn
      exact ⟨hfails, fun d hd => by cases hd; exact hheld⟩

theorem settle_contained (vectors : Serves Rows.asVectors allowed Q)
    (ids : Serves Rows.asIds allowed N) (s : QueryStep (StateM ω) δ)
    (held : ∀ d ∈ s.neighbors, N d) {outcome : Except StepError (List Trial)} {queries : δ}
    (h : Contained Q (AtWork allowed) (outcome, queries)) :
    Contained (Holds Q N) (AtWork allowed) (s.settle outcome queries) := by
  obtain ⟨hfails, hqueries⟩ := h
  unfold settle
  cases outcome with
  | error e => exact ⟨.error (hfails e rfl), hqueries, held⟩
  | ok trials =>
    have hrecalls := s.recalls_contained ids held trials
    simp only
    generalize s.recalls trials = recalled at hrecalls ⊢
    obtain ⟨hfails, hneighbors⟩ := hrecalls
    rcases recalled with ⟨e | recalled, neighbors⟩
    · exact ⟨.error (hfails e rfl), hqueries, hneighbors⟩
    · have hreset := vectors.reset queries hqueries
      simp only
      generalize Dataset.reset queries = answer at hreset ⊢
      obtain ⟨hfails, hqueries⟩ := hreset
      rcases answer with ⟨e | _, rewound⟩
      · exact ⟨.error (.ofDataset e (hfails e rfl)), hqueries, hneighbors⟩
      · exact ⟨.ok _, hqueries, hneighbors⟩

theorem action_contained (vectors : Serves Rows.asVectors allowed Q)
    (ids : Serves Rows.asIds allowed N) (s : QueryStep (StateM ω) δ) (holds : s.Holds Q N) (w : ω) :
    Contained (Holds Q N) (AtWork allowed) (s.action w).1 := by
  unfold action
  rw [state_bind]
  exact s.settle_contained vectors ids holds.neighbors
    (s.allTrials_contained vectors holds.queries w)

end

end QueryStep

/-! ## Lists of steps -/

theorem Status.advance_within (current next : Status) :
    FailsOnly (Within allowed) (current.advance next) := by
  unfold advance
  split
  · exact .ok next
  · exact .error (.status current next)

theorem checkMeasures_within (label : String) (declared : List String) (measures : Measures) :
    FailsOnly (Within allowed) (checkMeasures label declared measures) := by
  unfold checkMeasures
  split
  · exact .error (.missingMeasure label _)
  · exact .ok measures

variable {ω : Type}

theorem Step.execute_contained (vectors : Serves Rows.asVectors allowed Q)
    (ids : Serves Rows.asIds allowed N) (step : Step (QueryStep (StateM ω) δ))
    (holds : step.body.Holds Q N) (w : ω) :
    Contained (fun step => QueryStep.Holds Q N step.body) (Within allowed)
      (step.execute (m := StateM ω) w).1 := by
  rw [execute_eq]
  have hstatus : FailsOnly (Within allowed) (step.status.advance .running) :=
    step.status.advance_within .running
  generalize step.status.advance .running = advanced at hstatus ⊢
  cases advanced with
  | error e => exact ⟨.error (hstatus e rfl), holds⟩
  | ok status =>
    simp only [state_bind]
    obtain ⟨hfails, hheld⟩ : Contained (QueryStep.Holds Q N) (AtWork allowed)
        (StepKind.action (m := StateM ω) step.body w).1 :=
      step.body.action_contained vectors ids holds w
    have hwithin := hfails.mono Within.atWork
    generalize StepKind.action (m := StateM ω) step.body w = acted at hwithin hheld ⊢
    obtain ⟨⟨outcome, body⟩, between⟩ := acted
    have hchecked := hwithin.bind (checkMeasures_within (StepKind.label (StateM ω) body)
      (StepKind.declared (StateM ω) body))
    change FailsOnly _ (outcome.bind _) at hchecked
    simp only
    generalize outcome.bind (checkMeasures (StepKind.label (StateM ω) body)
      (StepKind.declared (StateM ω) body)) = checked at hchecked ⊢
    cases checked with
    | error e => exact ⟨.error (hchecked e rfl), hheld⟩
    | ok measures => exact ⟨.ok _, hheld⟩

theorem Registry.runSteps_within (vectors : Serves Rows.asVectors allowed Q)
    (ids : Serves Rows.asIds allowed N) (steps : List (Step (QueryStep (StateM ω) δ)))
    (holds : ∀ step ∈ steps, step.body.Holds Q N) (w : ω) :
    FailsOnly (Within allowed) (runSteps (m := StateM ω) steps w).1.1 := by
  induction steps generalizing w with
  | nil => exact .ok []
  | cons step rest ih =>
    unfold runSteps
    have hstep := (step.execute_contained vectors ids (holds step List.mem_cons_self) w).fails
    have hrest := ih fun other hother => holds other (List.mem_cons_of_mem _ hother)
    simp only [state_bind]
    generalize step.execute (m := StateM ω) w = executed at hstep ⊢
    rcases executed with ⟨⟨e | result, left⟩, between⟩
    · exact .error (hstep e rfl)
    · exact (hrest between).map _

end

/-! ## Open files -/

/-- Errors that stay with the data. -/
def DatasetError.OfData (e : DatasetError) : Prop := StepError.ofDataset e = .dataset e

def StepError.WhileRunning (e : StepError) : Prop := ∀ fault, e ≠ .configuration fault

theorem StepError.Within.whileRunning {e : StepError} (h : e.Within DatasetError.OfData) :
    e.WhileRunning := by
  intro fault hfault
  cases h with
  | atWork e h =>
    cases h with
    | ofDataset e h =>
      rw [h] at hfault
      cases hfault
    | _ => cases hfault
  | _ => cases hfault

/-- What the reading of an open file can fail with. -/
inductive DatasetError.OfReading : DatasetError → Prop where
  | io (fault : FileFault) : OfReading (.io fault)
  | countTooLarge (cursor count : Nat) : OfReading (.countTooLarge cursor count)

theorem DatasetError.OfReading.ofData {e : DatasetError} (h : e.OfReading) : e.OfData := by
  cases h <;> rfl

theorem BigAnn.read_ofReading (count : Nat) (b : BigAnn) :
    FailsOnly DatasetError.OfReading (b.read count).1 := by
  unfold read
  split
  · exact .ok none
  split
  · exact .error (.countTooLarge _ _)
  · simp only
    generalize b.chunks (min (b.cursor + count) b.rows - b.cursor) b.offset = answer
    rcases answer with ⟨fault | chunks, offset⟩
    · exact .error (.io fault)
    · exact .ok _

theorem BigAnn.serves_ofData {α : Type} {convert : Rows → Except DatasetError α}
    (h : ∀ rows, FailsOnly DatasetError.OfData (convert rows)) :
    Serves convert DatasetError.OfData fun _ : BigAnn => True where
  read d _ := ⟨(read_ofReading 1 d).mono fun _ h => h.ofData, trivial⟩
  reset _ _ := ⟨.ok (), trivial⟩
  take _ rows _ _ := h rows

theorem Rows.asVectors_ofData (rows : Rows) : FailsOnly DatasetError.OfData rows.asVectors := by
  cases rows with
  | vectors rows => exact .ok rows
  | ids rows => exact .error rfl

theorem Rows.asIds_ofData (rows : Rows) : FailsOnly DatasetError.OfData rows.asIds := by
  cases rows with
  | vectors rows => exact .error rfl
  | ids rows => exact .ok rows

theorem Registry.runSteps_whileRunning {ω : Type} (steps : List (Step (QueryStep (StateM ω) BigAnn)))
    (w : ω) : FailsOnly StepError.WhileRunning (runSteps (m := StateM ω) steps w).1.1 := by
  intro e h
  have hwithin := runSteps_within (BigAnn.serves_ofData Rows.asVectors_ofData)
    (BigAnn.serves_ofData Rows.asIds_ofData) steps (fun _ _ => ⟨trivial, fun _ _ => trivial⟩) w
  exact (hwithin e h).whileRunning

end NeighborBench
