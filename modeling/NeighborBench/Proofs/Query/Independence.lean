import NeighborBench.Dataset.Memory
import NeighborBench.Proofs.Engine.Independence
import NeighborBench.Proofs.Plan.Whole
import NeighborBench.Proofs.Query.Trials

/-! # Query steps do not influence each other

The files do not change, and a service answers each search by what is asked. Whatever else happens
outside, only the times that are measured may then differ.
-/

namespace NeighborBench

/-! ## Results without their times -/

/-- Of the times on the client, only their number is left. -/
def Measure.timeless (name : String) (measure : Measure) : Measure :=
  if name = "client_time" then
    match measure with
    | .series values => .series (values.map fun _ => 0)
    | .scalar _ => .scalar 0
  else measure

def timeless (measures : Measures) : Measures :=
  measures.map fun (name, measure) => (name, measure.timeless name)

def StepResult.timeless (result : StepResult) : StepResult :=
  ⟨result.label, NeighborBench.timeless result.measures⟩

def SameButTimes (measures others : Measures) : Prop := timeless measures = timeless others

theorem SameButTimes.names {measures others : Measures} (h : SameButTimes measures others)
    (name : String) : (Keyed.get? name measures).isNone = (Keyed.get? name others).isNone := by
  have hget := congrArg (Keyed.get? name) h
  unfold timeless at hget
  rw [Keyed.get?_map Measure.timeless, Keyed.get?_map Measure.timeless] at hget
  rw [← Option.isNone_map, hget, Option.isNone_map]

theorem timeless_eq_of_same {result other : StepResult}
    (h : StepResult.Same SameButTimes result other) : result.timeless = other.timeless := by
  unfold StepResult.timeless
  rw [h.label, h.measures]

theorem all_timeless_eq_of_same {results others : List StepResult}
    (h : List.Forall₂ (StepResult.Same SameButTimes) results others) :
    results.map StepResult.timeless = others.map StepResult.timeless := by
  induction h with
  | nil => rfl
  | cons hsame _ ih => rw [List.map_cons, List.map_cons, timeless_eq_of_same hsame, ih]

namespace QueryStep

variable {ω δ : Type}

/-- Steps over the same rows whose clients answer every search alike, in any states. -/
structure Like (s t : QueryStep (StateM ω) δ) : Prop where
  k : s.k = t.k
  r : s.r = t.r
  indexName : s.indexName = t.indexName
  fieldName : s.fieldName = t.fieldName
  calculatesRecall : s.calculatesRecall = t.calculatesRecall
  queryCount : s.queryCount = t.queryCount
  queries : s.queries = t.queries
  neighbors : s.neighbors = t.neighbors
  client : ∀ request w v, (s.client request w).1 = (t.client request v).1

theorem Like.request {s t : QueryStep (StateM ω) δ} (like : s.Like t) (vector : List Single) :
    s.request vector = t.request vector := by
  unfold QueryStep.request body
  rw [like.k, like.indexName, like.fieldName]

/-- The same answers, each after its own time. -/
def SameReplies (trials others : List Trial) : Prop :=
  trials.map Trial.reply = others.map Trial.reply

theorem SameReplies.took {trials others : List Trial} (h : SameReplies trials others) :
    trials.map (·.took) = others.map (·.took) := by
  have htook := congrArg (List.map SearchReply.took) h
  rw [List.map_map, List.map_map] at htook
  exact htook

theorem SameReplies.length_eq {trials others : List Trial} (h : SameReplies trials others) :
    trials.length = others.length := by
  have hlength := congrArg List.length h
  simpa only [List.length_map] using hlength

theorem SameReplies.numericHits_eq {trials others : List Trial} (h : SameReplies trials others)
    (trial : Nat) : numericHits trial trials = numericHits trial others := by
  induction trials generalizing others trial with
  | nil =>
    cases others with
    | nil => rfl
    | cons other rest => cases h
  | cons t trials ih =>
    cases others with
    | nil => cases h
    | cons other rest =>
      unfold SameReplies at h
      rw [List.map_cons, List.map_cons, List.cons.injEq] at h
      obtain ⟨hreply, hrest⟩ := h
      have hhits : t.hits = other.hits := congrArg SearchReply.hits hreply
      rw [numericHits, numericHits, hhits, ih hrest]

theorem SameReplies.measures {trials others : List Trial} (h : SameReplies trials others)
    (recalled : Measures) :
    SameButTimes (seriesOf trials ++ recalled) (seriesOf others ++ recalled) := by
  unfold SameButTimes timeless seriesOf
  rw [List.map_append, List.map_append, h.took]
  simp [Measure.timeless, h.length_eq]

variable [Dataset δ] {s t : QueryStep (StateM ω) δ}

theorem Like.trials (like : s.Like t) (left trial : Nat) (queries : δ) :
    Alongside anyStates (fun x y => AlikeOutcome SameReplies x.1 y.1 ∧ x.2 = y.2)
      (s.trials left trial queries) (t.trials left trial queries) := by
  have hclock : Alongside anyStates (fun _ _ => True) s.clock t.clock :=
    fun _ _ _ => ⟨trivial, trivial⟩
  have hsearch : ∀ request, Alongside anyStates Eq (s.client request) (t.client request) :=
    fun request w v _ => ⟨like.client request w v, trivial⟩
  induction left generalizing trial queries with
  | zero => exact .pure ⟨.ok _ _ rfl, rfl⟩
  | succ left ih =>
    unfold QueryStep.trials
    rcases nextVector queries with ⟨_ | _ | vector, after⟩
    · exact .pure ⟨.error _, rfl⟩
    · exact .pure ⟨.ok _ _ rfl, rfl⟩
    · -- The clocks may show what they like; the answers are the same.
      simp only [like.request]
      refine hclock.bind fun start begun _ => (hsearch _).bind ?_
      rintro answer _ rfl
      refine hclock.bind fun stop ended _ => ?_
      cases answer with
      | error fault => exact .pure ⟨.error _, rfl⟩
      | ok reply =>
        refine (ih (trial + 1) after).bind ?_
        rintro ⟨x, rest⟩ ⟨y, _⟩ ⟨hxy, rfl⟩
        exact .pure ⟨hxy.map fun _ _ hrest => congrArg (reply :: ·) hrest, rfl⟩

theorem Like.allTrials (like : s.Like t) :
    Alongside anyStates (fun x y => AlikeOutcome SameReplies x.1 y.1 ∧ x.2 = y.2)
      s.allTrials t.allTrials := by
  unfold QueryStep.allTrials
  rw [like.queries, like.queryCount]
  split
  · exact .pure ⟨.error _, rfl⟩
  · exact like.trials _ 0 _

theorem Like.recalls (like : s.Like t) {trials others : List Trial}
    (same : SameReplies trials others) : s.recalls trials = t.recalls others := by
  unfold QueryStep.recalls
  rw [like.neighbors, like.k, like.r, same.numericHits_eq]

theorem Like.settle (like : s.Like t) {x y : Except StepError (List Trial)}
    (h : AlikeOutcome SameReplies x y) (queries : δ) :
    AlikeOutcome SameButTimes (s.settle x queries).1 (t.settle y queries).1 ∧
      (s.settle x queries).2.Like (t.settle y queries).2 := by
  unfold QueryStep.settle
  cases h with
  | error e => exact ⟨.error e, { like with queries := rfl }⟩
  | ok trials others same =>
    simp only [like.recalls same]
    rcases t.recalls others with ⟨_ | recalled, neighbors⟩
    · exact ⟨.error _, { like with queries := rfl, neighbors := rfl }⟩
    · simp only
      rcases Dataset.reset queries with ⟨_ | _, start⟩
      · exact ⟨.error _, { like with queries := rfl, neighbors := rfl }⟩
      · exact ⟨.ok _ _ (same.measures recalled), { like with queries := rfl, neighbors := rfl }⟩

theorem kinds_match :
    KindsMatch (ω := ω) (τ := ω) (σ := QueryStep (StateM ω) δ) (ρ := QueryStep (StateM ω) δ)
      anyStates Like SameButTimes := by
  constructor
  · intro s t like
    rfl
  · intro s t like
    change s.declared = t.declared
    unfold declared
    rw [like.calculatesRecall, like.r]
  · intro s t like
    change Alongside _ _ s.action t.action
    unfold action
    refine like.allTrials.bind ?_
    rintro ⟨x, rest⟩ ⟨y, _⟩ ⟨hxy, rfl⟩
    exact .pure (like.settle hxy rest)
  · intro measures others h name
    exact h.names name

/-! ## Building -/

/-- Each file holds the same whenever it is opened, and each search is answered by what is asked and
where. -/
structure Steady (services : Services (StateM ω) δ) (files : DatasetRef → Except DatasetError δ)
    (reply : Connection → SearchRequest → Except SearchFault SearchReply) : Prop where
  unchanging : ∀ ref w, (services.openDataset ref w).1 = files ref
  replies : ∀ connection w client, (services.connect connection w).1 = .ok client →
    ∀ request v, (client request v).1 = reply connection request

variable {services : Services (StateM ω) δ} {files : DatasetRef → Except DatasetError δ}
  {reply : Connection → SearchRequest → Except SearchFault SearchReply}

/-- What the neighbours of a step are, from the files alone. -/
def neighborsIn (files : DatasetRef → Except DatasetError δ) (step : String)
    (p : QueryParameters) : Except StepError (Option δ) :=
  if p.calculateRecall then
    match p.neighborsPath with
    | none => .error (.configuration (.noNeighbors step))
    | some path => ((files ⟨p.neighborsFormat, path, .neighbors⟩).mapError .ofDataset).map some
  else .ok none

omit [Dataset δ] in
theorem Steady.openNeighbors_eq (steady : Steady services files reply) (step : String)
    (p : QueryParameters) (w : ω) :
    ((openNeighbors services step p).run.run w).1 = neighborsIn files step p := by
  unfold openNeighbors neighborsIn
  split
  · cases p.neighborsPath with
    | none => rfl
    | some path =>
      have hopen : (openAs services ⟨p.neighborsFormat, path, .neighbors⟩).run.run w =
          ((files ⟨p.neighborsFormat, path, .neighbors⟩).mapError .ofDataset,
            (services.openDataset ⟨p.neighborsFormat, path, .neighbors⟩ w).2) :=
        Prod.ext (congrArg (Except.mapError _) (steady.unchanging _ w)) rfl
      simp only
      rw [map_eq_pure_bind, ExceptT.run_bind, StateT.run_bind, hopen]
      cases files ⟨p.neighborsFormat, path, .neighbors⟩ with
      | error e => rfl
      | ok data => rfl
  · rfl

omit [Dataset δ] in
theorem Steady.files_of_opened (steady : Steady services files reply) {ref : DatasetRef}
    {data : δ} {before after : ω} (h : services.openDataset ref before = (.ok data, after)) :
    files ref = .ok data := by
  rw [← steady.unchanging ref before, h]

theorem Steady.like_of_ofConfig (steady : Steady services files reply) {config : StepConfig}
    {s t : QueryStep (StateM ω) δ} {w w' v v' : ω} (hs : ofConfig services config w = (.ok s, w'))
    (ht : ofConfig services config v = (.ok t, v')) : s.Like t := by
  obtain ⟨p, hp⟩ := built_of_ofConfig services config s w w' hs
  obtain ⟨q, hq⟩ := built_of_ofConfig services config t v v' ht
  -- One configuration has one set of parameters, so all that is left are the services.
  have hresolved := (QueryParameters.ofConfig_eq_ok config p).mpr hp.resolved
  have hpq := (QueryParameters.ofConfig_eq_ok config q).mpr hq.resolved
  rw [hresolved] at hpq
  cases hpq
  obtain ⟨_, _, hopened⟩ := hp.queries
  obtain ⟨_, _, hagain⟩ := hq.queries
  have hqueries : s.queries = t.queries :=
    Except.ok.inj ((steady.files_of_opened hopened).symm.trans (steady.files_of_opened hagain))
  have hcount := hp.queryCount
  rw [hqueries, hq.queryCount] at hcount
  have hneighbors : ∀ {step : QueryStep (StateM ω) δ} {u u' : ω},
      ofConfig services config u = (.ok step, u') →
      neighborsIn files config.stepName p = .ok step.neighbors := by
    intro step u u' hstep
    obtain ⟨r, opened, _, hr, hheld⟩ := neighbors_of_ofConfig services config step u u' hstep
    rw [hresolved] at hr
    cases hr
    rw [← steady.openNeighbors_eq config.stepName p opened, hheld]
  obtain ⟨_, _, hconnected⟩ := hp.client
  obtain ⟨_, _, hreconnected⟩ := hq.client
  exact {
    k := hp.k.trans hq.k.symm
    r := hp.r.trans hq.r.symm
    indexName := hp.indexName.trans hq.indexName.symm
    fieldName := hp.fieldName.trans hq.fieldName.symm
    calculatesRecall := hp.calculatesRecall.trans hq.calculatesRecall.symm
    queryCount := (Except.ok.inj hcount).symm
    queries := hqueries
    neighbors := Except.ok.inj ((hneighbors hs).symm.trans (hneighbors ht))
    client := by
      intro request u u'
      rw [steady.replies _ _ _ (congrArg Prod.fst hconnected) request u,
        steady.replies _ _ _ (congrArg Prod.fst hreconnected) request u'] }

theorem Steady.settled (steady : Steady services files reply) {config : StepConfig}
    (builds : ∀ w, ∃ step, ((Registry.builtin services).create config w).1 = .ok step) :
    (Registry.builtin services).Settled Like config := by
  have hbuilt : ∀ w, ∃ s after, ofConfig services config w = (.ok s, after) ∧
      ((Registry.builtin services).create config w).1 = .ok ⟨s, .initialized⟩ := by
    intro w
    obtain ⟨step, hstep⟩ := builds w
    rw [Registry.builtin_create] at hstep ⊢
    by_cases hkind : kindLabel = config.stepName
    · unfold construct at hstep ⊢
      rw [if_pos hkind, state_bind] at hstep ⊢
      rcases hs : ofConfig services config w with ⟨_ | s, after⟩
      · rw [hs] at hstep
        cases hstep
      · exact ⟨s, after, rfl, rfl⟩
    · rw [if_neg hkind] at hstep
      cases hstep
  intro w v
  obtain ⟨s, after, hs, hstep⟩ := hbuilt w
  obtain ⟨t, between, ht, hother⟩ := hbuilt v
  exact ⟨_, _, hstep, hother, ⟨steady.like_of_ofConfig hs ht, rfl⟩⟩

end QueryStep

/-! ## Lists, their steps and their runs -/

section

variable {ω δ : Type} [Dataset δ]

/-- A list of query steps succeeds exactly when each of them does alone, and each gives in it what
it gives alone; a list that fails, fails as its first step that fails alone. All runs of a test
give the same. The times on the client may differ. -/
theorem steps_and_runs_are_independent (services : Services (StateM ω) δ)
    (files : DatasetRef → Except DatasetError δ)
    (reply : Connection → SearchRequest → Except SearchFault SearchReply)
    (steady : QueryStep.Steady services files reply) (configs : List StepConfig)
    (builds : ∀ config ∈ configs, ∀ w,
      ∃ step, ((Registry.builtin services).create config w).1 = .ok step) :
    let registry := Registry.builtin services
    let outcome := fun list w => (registry.run list w).1.1
    (∀ w v, (∃ results, outcome configs w = .ok results) ↔
      ∀ config ∈ configs, ∃ own, outcome [config] v = .ok own) ∧
    (∀ w results, outcome configs w = .ok results →
      List.Forall₂ (fun config result => ∀ v, ∃ own, outcome [config] v = .ok [own] ∧
        result.timeless = own.timeless) configs results) ∧
    (∀ w e, outcome configs w = .error e →
      ∃ earlier config later, configs = earlier ++ config :: later ∧
        (∀ other ∈ earlier, ∀ v, ∃ own, outcome [other] v = .ok own) ∧
        ∀ v, outcome [config] v = .error e) ∧
    (∀ w results, outcome configs w = .ok results →
      ∀ n v, ∃ runs, (registry.runTimes configs n v).1.1 = .ok runs ∧ runs.length = n ∧
        ∀ run ∈ runs, run.map StepResult.timeless = results.map StepResult.timeless) ∧
    (∀ (plan : TestPlan) (environment : ConnectionDefaults) (marks : Marks (StateM ω))
        (setup : List StepConfig) (w : ω) (report : Report),
      plan.configs environment = .ok (setup, configs) →
      (plan.run registry environment marks w).1.1 = .ok report →
      ∃ runs, runs.length = plan.runs ∧ report.steps = summarize configs runs ∧
        report.runs = (if plan.showsRuns then some runs else none) ∧
        ∀ run ∈ runs, ∀ v, ∃ results, outcome configs v = .ok results ∧
          run.map StepResult.timeless = results.map StepResult.timeless) := by
  intro registry outcome
  have settled : ∀ config ∈ configs, registry.Settled QueryStep.Like config :=
    fun config hmem => steady.settled (builds config hmem)
  have hapart : ∀ w, Registry.Apart SameButTimes registry configs (outcome configs w) :=
    Registry.run_apart QueryStep.kinds_match settled
  refine ⟨fun w => (hapart w).ok_iff, ?_, ?_, ?_, ?_⟩
  · intro w results hok
    have hresults := hapart w
    rw [hok] at hresults
    refine hresults.of_ok.imp fun config result alone v => ?_
    obtain ⟨own, hown, hsame⟩ := alone v
    exact ⟨own, hown, timeless_eq_of_same hsame⟩
  · intro w e hfailed
    have herror := hapart w
    rw [hfailed] at herror
    obtain ⟨earlier, config, later, hsplit, hearlier, hfailing⟩ := herror.of_error
    refine ⟨earlier, config, later, hsplit, fun other hmem v => ?_, hfailing⟩
    obtain ⟨own, hown⟩ := hearlier other hmem v
    exact ⟨[own], hown⟩
  · intro w results hok n v
    obtain ⟨runs, hruns, hlength, hall⟩ :=
      Registry.runTimes_of_ok QueryStep.kinds_match settled hok n v
    exact ⟨runs, hruns, hlength, fun run hmem => (all_timeless_eq_of_same (hall run hmem)).symm⟩
  · intro plan environment marks setup w report hconfigs hreport
    obtain ⟨runs, between, hruns, hsteps, hshown⟩ := TestPlan.runs_of_report hconfigs hreport
    obtain ⟨hlength, hall⟩ := Registry.run_of_runTimes QueryStep.kinds_match settled hruns
    refine ⟨runs, hlength, hsteps, hshown, fun run hmem v => ?_⟩
    obtain ⟨results, hresults, hsame⟩ := hall run hmem v
    exact ⟨results, hresults, all_timeless_eq_of_same hsame⟩

end

/-- Two files of one row each, a service that finds its neighbour, and a clock that moves on. -/
def ticking : Services (StateM Nat) Memory where
  openDataset ref := pure (.ok (match ref.role with
    | .neighbors => ⟨.ids [[5]], 0⟩
    | _ => ⟨.vectors [[.ofByte 7]], 0⟩))
  connect _ := pure (.ok fun _ => pure (.ok ⟨1, ["5"]⟩))
  clock := fun now => (now, now + 1)

def scored : StepConfig where
  stepName := "query"
  config := [("index_name", .string "docs"), ("field_name", .string "v"),
    ("dataset_path", .string "queries"), ("calculate_recall", .bool true),
    ("neighbors_path", .string "truth")]

/-- Both steps read the same files and start from their first rows. -/
theorem scored_twice_is_scored_alike :
    let registry := Registry.builtin ticking
    (∀ config ∈ [scored, scored], ∀ w, ∃ step, (registry.create config w).1 = .ok step) ∧
      ∃ first second own, (registry.run [scored, scored] 0).1.1 = .ok [first, second] ∧
        (registry.run [scored] 9).1.1 = .ok [own] ∧
        first.timeless = own.timeless ∧ second.timeless = own.timeless := by
  intro registry
  have steady : QueryStep.Steady ticking (fun ref => (ticking.openDataset ref 0).1)
      (fun _ _ => .ok ⟨1, ["5"]⟩) := by
    refine ⟨fun ref w => rfl, fun connection w client hconnected request v => ?_⟩
    cases hconnected
    rfl
  have builds : ∀ config ∈ [scored, scored], ∀ w,
      ∃ step, (registry.create config w).1 = .ok step := by
    intro config hmem w
    obtain rfl : config = scored := by simpa using hmem
    exact ⟨_, rfl⟩
  refine ⟨builds, ?_⟩
  obtain ⟨-, hresults, -⟩ :=
    steps_and_runs_are_independent ticking _ _ steady [scored, scored] builds
  obtain ⟨results, hran⟩ : ∃ results, (registry.run [scored, scored] 0).1.1 = .ok results :=
    ⟨_, rfl⟩
  cases hresults 0 results hran with
  | @cons _ first _ _ hfirst hrest =>
    cases hrest with
    | @cons _ second _ _ hsecond hnil =>
      cases hnil
      obtain ⟨own, hown, hfirst⟩ := hfirst 9
      obtain ⟨again, hagain, hsecond⟩ := hsecond 9
      have hsame : own = again := by
        have := hown.symm.trans hagain
        cases this
        rfl
      exact ⟨first, second, own, hran, hown, hfirst, hsame ▸ hsecond⟩

end NeighborBench
