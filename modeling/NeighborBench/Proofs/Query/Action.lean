import NeighborBench.Dataset.Memory
import NeighborBench.Proofs.Query.Trials
import NeighborBench.Proofs.Single

/-! # The run of a query step

What a whole run sends and measures, from the rows that the queries answer and the configuration that
the step was built from.
-/

namespace NeighborBench.QueryStep

/-! ## After the trials -/

section

variable {σ δ : Type} [Dataset δ]

theorem scores_ok (k r : Nat) (results : List (List Int)) (before after : δ) (measures : Measures)
    (h : (scores k r results).run.run before = (.ok measures, after)) :
    ∃ atK atR, measures = [("recall@K", .scalar atK), (recallAtR r, .scalar atR)] := by
  unfold scores at h
  simp only [run_bind_ok, run_pure_ok] at h
  obtain ⟨-, _, -, atK, _, -, -, _, -, atR, _, -, -, _, -, rfl, -⟩ := h
  exact ⟨atK, atR, rfl⟩

theorem recalls_with_neighbors (s : QueryStep (StateM σ) δ) (trials : List Trial)
    (held : s.neighbors.isSome = true) (recalled : Measures)
    (h : (s.recalls trials).1 = .ok recalled) :
    ∃ atK atR, recalled = [("recall@K", .scalar atK), (recallAtR s.r, .scalar atR)] := by
  obtain ⟨neighbors, hneighbors⟩ := Option.isSome_iff_exists.mp held
  cases hresults : numericHits 0 trials with
  | error e =>
    simp only [recalls, hneighbors, hresults] at h
    cases h
  | ok results =>
    simp only [recalls, hneighbors, hresults] at h
    exact scores_ok s.k s.r results neighbors _ recalled (Prod.ext h rfl)

theorem recalls_without_neighbors (s : QueryStep (StateM σ) δ) (trials : List Trial)
    (h : s.neighbors.isSome = false) : (s.recalls trials).1 = .ok [] := by
  have hneighbors : s.neighbors = none := by
    rwa [← Option.isNone_iff_eq_none, ← Option.isSome_eq_false_iff]
  rw [recalls, hneighbors]

theorem settle_eq_ok (s : QueryStep (StateM σ) δ) (trials : List Trial) (rest : δ)
    (measures : Measures) :
    (s.settle (.ok trials) rest).1 = .ok measures ↔
      ∃ recalled, (s.recalls trials).1 = .ok recalled ∧ (Dataset.reset rest).1 = .ok () ∧
        seriesOf trials ++ recalled = measures := by
  unfold settle
  rcases hrecalls : s.recalls trials with ⟨answer, neighbors⟩
  rcases Dataset.reset rest with ⟨done, start⟩
  cases answer with
  | error e => simp [hrecalls]
  | ok recalled =>
    cases done with
    | error e => simp [hrecalls]
    | ok done => simp [hrecalls]

theorem action_run (s : QueryStep (StateM σ) δ) (before after : σ)
    (outcome : Except StepError (List Trial)) (left : δ)
    (h : s.allTrials.run before = ((outcome, left), after)) :
    s.action.run before = (s.settle outcome left, after) := by
  unfold action
  rw [StateT.run_bind, h]
  rfl

theorem allTrials_of_room {m : Type → Type} [Monad m] (s : QueryStep m δ)
    (room : s.queryCount ≤ roomFor trialBytes) :
    s.allTrials = s.trials s.queryCount 0 s.queries := by
  unfold allTrials
  rw [if_neg (Nat.not_lt.mpr room)]

theorem action_without_room (s : QueryStep (StateM σ) δ) (crowded : roomFor trialBytes < s.queryCount)
    (before : σ) : s.action.run before = ((.error (.noRoom s.queryCount), s), before) := by
  have hall : s.allTrials.run before = ((.error (.noRoom s.queryCount), s.queries), before) := by
    unfold allTrials
    rw [if_pos crowded]
    rfl
  exact action_run s before before _ _ hall

end

/-! ## Whole runs -/

section

variable {ω δ : Type} [Dataset δ]

/-- A search of an index for the `k` documents whose field is nearest to some coordinates, without
that field. -/
def nearestTo (index field : String) (k : Nat) (coordinates : List Float) : SearchRequest where
  index := index
  body := .object [
    ("query", .object [("knn", .object [
      (field, .object [("k", .int k), ("vector", .array (coordinates.map .float))])])]),
    ("size", .int k)]
  excluded := [field]

/-- The three series of a run: what the service reports, what the clock shows, and no memory. -/
def seriesFrom (replies : List SearchReply) (times : List Float) : Measures :=
  [("took", .series (replies.map (·.took))), ("client_time", .series times),
    ("memory_kb", .series (List.replicate replies.length 0))]

theorem seriesOf_eq (trials : List Trial) :
    seriesOf trials = seriesFrom (trials.map (·.reply)) (trials.map (·.clientTime)) := by
  rw [seriesOf, seriesFrom, List.map_map, List.length_map, List.map_const']
  rfl

theorem action_answered {s : QueryStep (StateM (World ω)) δ} (noted : s.Noted)
    (room : s.queryCount ≤ roomFor trialBytes) {vectors : List (List Single)} {rest : δ}
    (yields : Yields s.queryCount s.queries vectors rest) (outside : ω)
    (answered : ∀ request fault,
      .searched request (.error fault) ∉ (s.action.run ⟨outside, []⟩).2.events) :
    ∃ (trials : List Trial) (last : ω), trials.length = vectors.length ∧
      s.action.run ⟨outside, []⟩ = (s.settle (.ok trials) rest, ⟨last,
        List.zipWith (fun vector t => .searched (s.request vector) (.ok t.reply))
          vectors trials⟩) := by
  obtain ⟨outcome, left, last, events, htrials, htrialled, hleft⟩ :=
    trials_trialled noted yields 0 ⟨outside, []⟩
  rw [← s.allTrials_of_room room] at htrials
  have hran := action_run s ⟨outside, []⟩ _ outcome left htrials
  rw [hran] at answered
  obtain ⟨trials, hlength, houtcome, hevents⟩ := htrialled.all_answered answered
  refine ⟨trials, last, hlength, ?_⟩
  rw [hran, houtcome, hleft trials houtcome, ← hevents]
  rfl

theorem request_eq {services : Services (StateM ω) δ} {config : StepConfig} {p : QueryParameters}
    {s : QueryStep (StateM ω) δ} (built : Built services config p s) :
    s.request = fun vector => nearestTo p.indexName p.fieldName p.k (vector.map Single.widen) := by
  funext vector
  rw [request, body, built.indexName, built.fieldName, built.k, nearestTo, List.map_map]
  rfl

/-- A step that was built sends one search for the first row of each batch, in their order, as long
as none fails; the coordinates are those of the row, as doubles. Without recall it measures three series, of one value for each search; with recall,
whenever the run succeeds, the two values of recall come after the same series. All of this takes
room for as many trials as the step counts: where there is none, the step ends the program before it
reads a row or sends a search. -/
theorem action_sends_a_search_for_each_row (services : Services (StateM ω) δ) (config : StepConfig)
    (s : QueryStep (StateM (World ω)) δ) (before after : World ω)
    (built : ofConfig services.noted config before = (.ok s, after)) (outside : ω) :
    let ran := s.action.run ⟨outside, []⟩
    (s.queryCount ≤ 0x7FFF_FFFF_FFFF_FFFF / 40 →
      ∀ (vectors : List (List Single)) (rest : δ), Yields s.queryCount s.queries vectors rest →
      (∀ request fault, .searched request (.error fault) ∉ ran.2.events) →
      ∃ (index field : String) (k r : Nat) (coordinates : List (List Float))
        (replies : List SearchReply) (times : List Float),
        config.string "index_name" none = .ok index ∧ config.string "field_name" none = .ok field ∧
        config.positive "k" 100 = .ok k ∧ config.positive "r" 1 = .ok r ∧
        List.Forall₂ (List.Forall₂ Single.Widened) vectors coordinates ∧
        replies.length = vectors.length ∧ times.length = vectors.length ∧
        vectors.length ≤ s.queryCount ∧ s.queryCount ≤ Dataset.size s.queries ∧
        ran.2.events = List.zipWith
          (fun xs reply => .searched (nearestTo index field k xs) (.ok reply))
          coordinates replies ∧
        (config.bool "calculate_recall" (some false) = .ok false →
          (Dataset.reset rest).1 = .ok () → ran.1.1 = .ok (seriesFrom replies times)) ∧
        (config.bool "calculate_recall" (some false) = .ok true →
          ∀ measures, ran.1.1 = .ok measures → ∃ atK atR, measures = seriesFrom replies times ++
            [("recall@K", .scalar atK), (s!"recall@{r}", .scalar atR)])) ∧
    (0x7FFF_FFFF_FFFF_FFFF / 40 < s.queryCount →
      ran = ((.error (.noRoom s.queryCount), s), ⟨outside, []⟩)) := by
  intro ran
  refine ⟨fun room vectors rest yields answered => ?_, fun crowded => ?_⟩
  case refine_2 => exact s.action_without_room crowded _
  obtain ⟨p, hbuilt⟩ := built_of_ofConfig services.noted config s before after built
  obtain ⟨trials, last, hlength, hran⟩ := action_answered hbuilt.noted room yields outside answered
  have hrecall : ∀ on, config.bool "calculate_recall" (some false) = .ok on →
      s.neighbors.isSome = on := by
    intro on hon
    rw [hbuilt.neighbors]
    exact Except.ok.inj (hbuilt.resolved.calculateRecall.symm.trans hon)
  refine ⟨p.indexName, p.fieldName, p.k, p.r, vectors.map (·.map Single.widen),
    trials.map (·.reply), trials.map (·.clientTime),
    hbuilt.resolved.indexName, hbuilt.resolved.fieldName, hbuilt.resolved.k, hbuilt.resolved.r,
    Single.forall_widened vectors, by rw [List.length_map, hlength], by rw [List.length_map, hlength], yields.length_le,
    QueryParameters.queryCount_le config _ _ hbuilt.queryCount, ?_, ?_, ?_⟩
  · change (s.action.run ⟨outside, []⟩).2.events = _
    rw [hran, request_eq hbuilt, List.zipWith_map]
  · intro hoff rewinds
    change (s.action.run ⟨outside, []⟩).1.1 = _
    rw [hran, settle_eq_ok]
    refine ⟨[], recalls_without_neighbors s trials (hrecall false hoff), rewinds, ?_⟩
    rw [seriesOf_eq, List.append_nil]
  · intro hon measures hmeasures
    change (s.action.run ⟨outside, []⟩).1.1 = _ at hmeasures
    rw [hran, settle_eq_ok] at hmeasures
    obtain ⟨recalled, hrecalled, -, rfl⟩ := hmeasures
    obtain ⟨atK, atR, rfl⟩ := recalls_with_neighbors s trials (hrecall true hon) recalled hrecalled
    refine ⟨atK, atR, ?_⟩
    rw [seriesOf_eq, hbuilt.r]
    rfl

end

/-- Two rows, a service that reports how many searches came before, and a clock that stands still. -/
def counting : Services (StateM Nat) Memory where
  openDataset _ := pure (.ok ⟨.vectors [[.ofByte 1], [.ofByte 2]], 0⟩)
  connect _ := pure (.ok fun _ => do
    let sent ← get
    set (sent + 1)
    pure (.ok ⟨Float.ofNat sent, []⟩))
  clock := pure 0

def threeQueries : StepConfig where
  stepName := "query"
  config := [("index_name", .string "docs"), ("field_name", .string "v"), ("k", .int 3),
    ("dataset_path", .string "queries.fbin"), ("query_count", .int 3)]

/-- Three queries are asked for and two are there. -/
theorem counting_is_sent_two :
    ∃ s after, ofConfig counting.noted threeQueries ⟨0, []⟩ = (.ok s, after) ∧
      let ran := s.action.run ⟨0, []⟩
      ran.2.events =
        [.searched ⟨"docs", .object [("query", .object [("knn", .object [("v",
            .object [("k", .int 3), ("vector", .array [.float 1])])])]), ("size", .int 3)], ["v"]⟩
          (.ok ⟨0, []⟩),
        .searched ⟨"docs", .object [("query", .object [("knn", .object [("v",
            .object [("k", .int 3), ("vector", .array [.float 2])])])]), ("size", .int 3)], ["v"]⟩
          (.ok ⟨1, []⟩)] ∧
      ∃ times : List Float, times.length = 2 ∧
        ran.1.1 = .ok [("took", .series [0, 1]), ("client_time", .series times),
          ("memory_kb", .series [0, 0])] := by
  obtain ⟨s, after, built, hcount, hqueries, hevents⟩ : ∃ s after,
      ofConfig counting.noted threeQueries ⟨0, []⟩ = (.ok s, after) ∧ s.queryCount = 2 ∧
      s.queries = ⟨.vectors [[.ofByte 1], [.ofByte 2]], 0⟩ ∧
      (s.action.run ⟨0, []⟩).2.events =
        [.searched (nearestTo "docs" "v" 3 [(Single.ofByte 1).widen]) (.ok ⟨Float.ofNat 0, []⟩),
          .searched (nearestTo "docs" "v" 3 [(Single.ofByte 2).widen]) (.ok ⟨Float.ofNat 1, []⟩)] :=
    ⟨_, _, rfl, rfl, rfl, rfl⟩
  have yields : Yields s.queryCount s.queries [[.ofByte 1], [.ofByte 2]]
      ⟨.vectors [[.ofByte 1], [.ofByte 2]], 2⟩ := by
    rw [hcount, hqueries]
    exact .row _ _ _ _ _ _ _ rfl (.row _ _ _ _ _ _ _ rfl (.spent _))
  have answered : ∀ request fault,
      .searched request (.error fault) ∉ (s.action.run ⟨0, []⟩).2.events := by
    intro request fault
    rw [hevents]
    simp
  obtain ⟨hroom, -⟩ :=
    action_sends_a_search_for_each_row counting threeQueries s ⟨0, []⟩ after built 0
  obtain ⟨index, field, k, r, coordinates, replies, times, -, -, -, -, hcoordinates, hreplies, htimes,
    -, -, hsent, hoff, -⟩ := hroom (by rw [hcount]; decide) _ _ yields answered
  have hone : (Single.ofByte 1).widen = 1 := by decide +kernel
  have htwo : (Single.ofByte 2).widen = 2 := by decide +kernel
  have hzeroth : Float.ofNat 0 = 0 := by decide +kernel
  have hfirst : Float.ofNat 1 = 1 := by decide +kernel
  rw [hone, htwo, hzeroth, hfirst] at hevents
  refine ⟨s, after, built, hevents, times, htimes, ?_⟩
  obtain ⟨first, second, rfl⟩ : ∃ first second, replies = [first, second] := by
    match replies, hreplies with
    | [first, second], _ => exact ⟨first, second, rfl⟩
  obtain ⟨former, latter, rfl⟩ : ∃ former latter, coordinates = [former, latter] := by
    match coordinates, hcoordinates.length_eq with
    | [former, latter], _ => exact ⟨former, latter, rfl⟩
  rw [hevents] at hsent
  simp only [List.zipWith_cons_cons, List.cons.injEq, Event.searched.injEq, Except.ok.injEq] at hsent
  obtain ⟨⟨-, rfl⟩, ⟨-, rfl⟩, -⟩ := hsent
  exact hoff rfl rfl

/-- Rows in memory that are said to be very many. -/
structure Boasted where
  rows : Memory

instance : Dataset Boasted where
  size _ := 1000000000000000000
  read n d := let (answer, rows) := Dataset.read n d.rows; (answer, ⟨rows⟩)
  reset d := let (answer, rows) := Dataset.reset d.rows; (answer, ⟨rows⟩)

/-- One row that is said to be very many. -/
def boasting : Services (StateM Nat) Boasted where
  openDataset _ := pure (.ok ⟨.vectors [[.ofByte 1]], 0⟩)
  connect _ := pure (.ok fun _ => pure (.ok ⟨0, []⟩))
  clock := pure 0

def allQueries : StepConfig where
  stepName := "query"
  config := [("index_name", .string "docs"), ("field_name", .string "v"), ("k", .int 3),
    ("dataset_path", .string "queries.fbin")]

/-- The one row can be read and the queries can be reset, and still nothing is searched. -/
theorem boasted_row_is_not_searched :
    ∃ s after rest, ofConfig boasting.noted allQueries ⟨0, []⟩ = (.ok s, after) ∧
      Yields s.queryCount s.queries [[.ofByte 1]] rest ∧ (Dataset.reset rest).1 = .ok () ∧
      let ran := s.action.run ⟨0, []⟩
      ran.2.events = [] ∧ ran.1.1 = .error (.noRoom 1000000000000000000) := by
  obtain ⟨s, after, built, hcount, hqueries⟩ : ∃ s after,
      ofConfig boasting.noted allQueries ⟨0, []⟩ = (.ok s, after) ∧
      s.queryCount = 999999999999999998 + 1 + 1 ∧
      s.queries = ⟨⟨.vectors [[.ofByte 1]], 0⟩⟩ := ⟨_, _, rfl, by decide, rfl⟩
  refine ⟨s, after, ⟨⟨.vectors [[.ofByte 1]], 1⟩⟩, built, ?_, rfl, ?_⟩
  · rw [hcount, hqueries]
    exact .row _ _ _ _ _ _ _ rfl (.finished _ _ _ rfl)
  · have crowded : roomFor trialBytes < s.queryCount := by
      rw [hcount]
      decide
    rw [s.action_without_room crowded, hcount]
    exact ⟨rfl, rfl⟩

end NeighborBench.QueryStep
