import NeighborBench.Proofs.Config.Values
import NeighborBench.Proofs.World

/-! # What the building of a step does outside

It opens the queries, opens the neighbours if recall is calculated, and connects, in this order. Each
of the three is done only if nothing before it has failed.
-/

namespace NeighborBench

/-! ## A configuration that can be resolved -/

namespace QueryParameters

/-- Every key but the number of queries has a value that fits, or none if it may be left out. -/
structure Fit (c : StepConfig) : Prop where
  endpoint : c.AllowsText "endpoint"
  port : c.Allows "port" Json.asInt? fun port => 0 ≤ port ∧ port ≤ 65535
  timeout : c.Allows "timeout" Json.asInt? (0 < ·)
  k : c.Allows "k" Json.asInt? (0 < ·)
  r : c.Allows "r" Json.asInt? (0 < ·)
  indexName : c.RequiresText "index_name"
  fieldName : c.RequiresText "field_name"
  calculateRecall : c.Allows "calculate_recall" Json.asBool? fun _ => True
  datasetFormat : c.AllowsText "dataset_format"
  datasetPath : c.RequiresText "dataset_path"
  neighborsFormat : c.AllowsText "neighbors_format"
  neighborsPath : c.AllowsText "neighbors_path"

theorem port_default (endpoint : String) :
    0 ≤ Defaults.port endpoint ∧ Defaults.port endpoint ≤ 65535 := by
  unfold Defaults.port
  split <;> decide

theorem Resolved.fit {c : StepConfig} {p : QueryParameters} (h : p.Resolved c) : Fit c := by
  have hlimit := h.portInRange
  constructor
  · exact (c.string_iff _ _).mp ⟨_, h.endpoint⟩
  · exact (c.resolve_default_iff _ _ (fun port => 0 ≤ port ∧ port ≤ 65535) .integer _
      (port_default p.connection.endpoint)).mp ⟨_, h.port, by omega, by omega⟩
  · exact (c.positive_iff _ _ (by decide)).mp ⟨_, h.timeout⟩
  · exact (c.positive_iff _ _ (by decide)).mp ⟨_, h.k⟩
  · exact (c.positive_iff _ _ (by decide)).mp ⟨_, h.r⟩
  · exact (c.requiredString_iff _).mp ⟨_, h.indexName⟩
  · exact (c.requiredString_iff _).mp ⟨_, h.fieldName⟩
  · exact (c.resolve_default_iff _ _ _ .boolean _ trivial).mp ⟨_, h.calculateRecall, trivial⟩
  · exact (c.string_iff _ _).mp ⟨_, h.format⟩
  · exact (c.requiredString_iff _).mp ⟨_, h.path⟩
  · exact (c.string_iff _ _).mp ⟨_, h.neighborsFormat⟩
  · exact (c.optionalString_iff _).mp ⟨_, h.neighborsPath⟩

theorem Fit.resolved {c : StepConfig} (fit : Fit c) : ∃ p : QueryParameters, p.Resolved c := by
  obtain ⟨endpoint, hendpoint⟩ := (c.string_iff _ Defaults.endpoint).mpr fit.endpoint
  obtain ⟨port, hport, hlow, hhigh⟩ :=
    (c.resolve_default_iff _ _ (fun port => 0 ≤ port ∧ port ≤ 65535) .integer _
      (port_default endpoint)).mpr fit.port
  obtain ⟨timeout, htimeout⟩ := (c.positive_iff _ Defaults.timeout (by decide)).mpr fit.timeout
  obtain ⟨k, hk⟩ := (c.positive_iff _ Defaults.k (by decide)).mpr fit.k
  obtain ⟨r, hr⟩ := (c.positive_iff _ Defaults.r (by decide)).mpr fit.r
  obtain ⟨indexName, hindexName⟩ := (c.requiredString_iff _).mpr fit.indexName
  obtain ⟨fieldName, hfieldName⟩ := (c.requiredString_iff _).mpr fit.fieldName
  obtain ⟨wanted, hrecall, -⟩ :=
    (c.resolve_default_iff _ _ _ .boolean false trivial).mpr fit.calculateRecall
  obtain ⟨format, hformat⟩ := (c.string_iff _ Defaults.datasetFormat).mpr fit.datasetFormat
  obtain ⟨path, hpath⟩ := (c.requiredString_iff _).mpr fit.datasetPath
  obtain ⟨neighborsFormat, hneighborsFormat⟩ :=
    (c.string_iff _ Defaults.datasetFormat).mpr fit.neighborsFormat
  obtain ⟨neighborsPath, hneighborsPath⟩ := (c.optionalString_iff _).mpr fit.neighborsPath
  have hwhole : (port.toNat : Int) = port := Int.toNat_of_nonneg hlow
  have hlimit : port.toNat ≤ 65535 := by omega
  exact ⟨⟨⟨endpoint, port.toNat, timeout⟩, k, r, indexName, fieldName, wanted,
      ⟨format, path, .query⟩, neighborsFormat, neighborsPath⟩,
    { endpoint := hendpoint, port := by rw [hwhole]; exact hport, portInRange := hlimit
      timeout := htimeout, k := hk, r := hr, indexName := hindexName, fieldName := hfieldName
      calculateRecall := hrecall, format := hformat, path := hpath, role := rfl
      neighborsFormat := hneighborsFormat, neighborsPath := hneighborsPath }⟩

/-- Recall is asked for. -/
def WantsRecall (c : StepConfig) : Prop := c.Requires "calculate_recall" Json.asBool? (· = true)

/-- There is a path to take neighbours from. -/
def NamesNeighbors (c : StepConfig) : Prop := c.RequiresText "neighbors_path"

theorem Resolved.unique {c : StepConfig} {p q : QueryParameters} (hp : p.Resolved c)
    (hq : q.Resolved c) : q = p := by
  have hsame := (ofConfig_eq_ok c p).mpr hp
  rw [(ofConfig_eq_ok c q).mpr hq] at hsame
  exact Except.ok.inj hsame

theorem Resolved.wantsRecall_iff {c : StepConfig} {p : QueryParameters} (h : p.Resolved c) :
    p.calculateRecall = true ↔ WantsRecall c :=
  c.resolve_iff_requires _ _ (· = true) .boolean false _ (by decide) h.calculateRecall

theorem Resolved.namesNeighbors_iff {c : StepConfig} {p : QueryParameters} (h : p.Resolved c) :
    p.neighborsPath.isSome ↔ NamesNeighbors c :=
  c.optionalString_isSome_iff _ _ h.neighborsPath

/-- The number of queries may be left out, whatever the size of the dataset is. -/
def Countable (c : StepConfig) : Prop := c.Allows "query_count" Json.asInt? (0 ≤ ·)

theorem queryCount_iff (c : StepConfig) (size : Nat) :
    (∃ count, queryCount c size = .ok count) ↔ Countable c := by
  unfold Countable
  rw [← c.resolve_default_iff "query_count" Json.asInt? (0 ≤ ·) .integer
    (min (size : Int) 0x7FFF_FFFF_FFFF_FFFF) (by omega)]
  unfold queryCount
  simp only [except_bind_ok]
  constructor
  · rintro ⟨count, requested, hrequested, h⟩
    refine ⟨requested, hrequested, ?_⟩
    split at h
    · cases h
    · omega
  · rintro ⟨requested, hrequested, hnonneg⟩
    refine ⟨min requested.toNat size, requested, hrequested, ?_⟩
    rw [if_neg (by omega)]
    rfl

end QueryParameters

/-! ## What was done -/

/-- What kind of thing is done outside. -/
inductive Effect where
  | opens (role : Role)
  | connects
  | searches

namespace Event

@[simp]
def effect : Event → Effect
  | .opened ref _ => .opens ref.role
  | .connected .. => .connects
  | .searched .. => .searches

@[simp]
def succeeded : Event → Bool
  | .opened _ answer => answer.isOk
  | .connected _ answer => answer.isOk
  | .searched _ answer => answer.isOk

end Event

@[simp]
theorem isOk_ok {ε α : Type} (a : α) : (.ok a : Except ε α).isOk = true := rfl

@[simp]
theorem isOk_error {ε α : Type} (e : ε) : (.error e : Except ε α).isOk = false := rfl

/-- The effect was had, whatever the answer was. -/
def Happened (done : List Event) (effect : Effect) : Prop :=
  ∃ event ∈ done, event.effect = effect

def Succeeded (done : List Event) (effect : Effect) : Prop :=
  ∃ event ∈ done, event.effect = effect ∧ event.succeeded

section

variable (event : Event) (done : List Event) (effect : Effect)

@[simp]
theorem happened_nil : ¬Happened [] effect := by simp [Happened]

@[simp]
theorem happened_cons :
    Happened (event :: done) effect ↔ event.effect = effect ∨ Happened done effect := by
  simp [Happened]

@[simp]
theorem succeeded_nil : ¬Succeeded [] effect := by simp [Succeeded]

@[simp]
theorem succeeded_cons : Succeeded (event :: done) effect ↔
    (event.effect = effect ∧ event.succeeded) ∨ Succeeded done effect := by
  simp [Succeeded]

end

namespace QueryStep

open QueryParameters (Fit Countable WantsRecall NamesNeighbors)

section

variable {ω δ : Type} (services : Services (StateM ω) δ)

theorem openAs_noted (ref : DatasetRef) (w : World ω) : ∃ outside,
    (∃ d, (openAs services.noted ref).run.run w =
      (.ok d, ⟨outside, w.events ++ [.opened ref (.ok ())]⟩)) ∨
    ∃ e, (openAs services.noted ref).run.run w =
      (.error (.ofDataset e), ⟨outside, w.events ++ [.opened ref (.error e)]⟩) := by
  have hrun : (openAs services.noted ref).run.run w =
      ((services.openDataset ref w.outside).1.mapError .ofDataset,
        ⟨(services.openDataset ref w.outside).2, w.events ++
          [.opened ref ((services.openDataset ref w.outside).1.map fun _ => ())]⟩) := rfl
  rw [hrun]
  refine ⟨(services.openDataset ref w.outside).2, ?_⟩
  cases (services.openDataset ref w.outside).1 with
  | error e => exact .inr ⟨e, rfl⟩
  | ok d => exact .inl ⟨d, rfl⟩

theorem connectAs_last {α : Type} (step : String) (connection : Connection)
    (f : Client (StateM (World ω)) → α) (w : World ω) :
    let ran := (do
      let client ← connectAs services.noted step connection
      pure (f client) : ExceptT StepError (StateM (World ω)) α).run.run w
    ∃ answer : Except String Unit,
      ran.2.events = w.events ++ [.connected connection answer] ∧ ran.1.isOk = answer.isOk := by
  intro ran
  have hrun : (connectAs services.noted step connection).run.run w =
      (((services.connect connection w.outside).1.map Client.noted).mapError
          fun reason => .configuration (.noClient step reason),
        ⟨(services.connect connection w.outside).2, w.events ++
          [.connected connection ((services.connect connection w.outside).1.map fun _ => ())]⟩) := rfl
  refine ⟨(services.connect connection w.outside).1.map fun _ => (), ?_⟩
  cases hanswer : (services.connect connection w.outside).1 with
  | error reason =>
    rw [hanswer] at hrun
    simp only [ran]
    rw [run_bind_of_error hrun]
    exact ⟨rfl, rfl⟩
  | ok client =>
    rw [hanswer] at hrun
    simp only [ran]
    rw [run_bind_of_ok hrun]
    exact ⟨rfl, rfl⟩

end

/-! ## How far a configuration gets -/

/-- What is done after the queries are open and counted, and whether it ends with a step. -/
inductive Finish (p : QueryParameters) : List Event → Bool → Prop where
  | unnamed (wanted : p.calculateRecall = true) (unnamed : p.neighborsPath = none) : Finish p [] false
  | refused (wanted : p.calculateRecall = true) (path : String)
    (named : p.neighborsPath = some path) (e : DatasetError) :
    Finish p [.opened ⟨p.neighborsFormat, path, .neighbors⟩ (.error e)] false
  | unscored (unwanted : p.calculateRecall = false) (answer : Except String Unit) :
    Finish p [.connected p.connection answer] answer.isOk
  | scored (wanted : p.calculateRecall = true) (path : String)
    (named : p.neighborsPath = some path) (answer : Except String Unit) :
    Finish p [.opened ⟨p.neighborsFormat, path, .neighbors⟩ (.ok ()),
      .connected p.connection answer] answer.isOk

/-- All that is done for a configuration, and whether it ends with a step. -/
inductive Course (c : StepConfig) : List Event → Bool → Prop where
  | unfit (h : ¬Fit c) : Course c [] false
  | refused (p : QueryParameters) (resolved : p.Resolved c) (e : DatasetError) :
    Course c [.opened p.queries (.error e)] false
  | uncountable (p : QueryParameters) (resolved : p.Resolved c) (h : ¬Countable c) :
    Course c [.opened p.queries (.ok ())] false
  | counted (p : QueryParameters) (resolved : p.Resolved c) (h : Countable c) (later : List Event)
    (built : Bool) (finish : Finish p later built) :
    Course c (.opened p.queries (.ok ()) :: later) built

section

variable {ω δ : Type} (services : Services (StateM ω) δ)

theorem openNeighbors_finish {α : Type} (step : String) (p : QueryParameters)
    (f : Option δ → Client (StateM (World ω)) → α) (w : World ω) :
    let ran := (do
      let neighbors ← openNeighbors services.noted step p
      let client ← connectAs services.noted step p.connection
      pure (f neighbors client) : ExceptT StepError (StateM (World ω)) α).run.run w
    ∃ done, ran.2.events = w.events ++ done ∧ Finish p done ran.1.isOk := by
  intro ran
  cases hrecall : p.calculateRecall with
  | false =>
    -- No neighbours are opened, and the connection is all that is left.
    have hnone : (openNeighbors services.noted step p).run.run w = (.ok none, w) := by
      simp only [openNeighbors, hrecall]
      rfl
    obtain ⟨answer, hevents, hok⟩ := connectAs_last services step p.connection (f none) w
    simp only [ran, run_bind_of_ok hnone, hevents, hok]
    exact ⟨_, rfl, .unscored hrecall answer⟩
  | true =>
    cases hpath : p.neighborsPath with
    | none =>
      -- Nothing is opened, and nothing is connected to.
      have hfault : (openNeighbors services.noted step p).run.run w =
          (.error (.configuration (.noNeighbors step)), w) := by
        simp only [openNeighbors, hrecall, hpath]
        rfl
      simp only [ran, run_bind_of_error hfault]
      exact ⟨[], (List.append_nil _).symm, .unnamed hrecall hpath⟩
    | some path =>
      have hopens : openNeighbors services.noted step p =
          some <$> openAs services.noted ⟨p.neighborsFormat, path, .neighbors⟩ := by
        simp only [openNeighbors, hrecall, hpath]
        rfl
      simp only [ran, hopens, map_eq_pure_bind, bind_assoc]
      obtain ⟨outside, ⟨d, hopen⟩ | ⟨e, hopen⟩⟩ :=
        openAs_noted services ⟨p.neighborsFormat, path, .neighbors⟩ w
      · obtain ⟨answer, hevents, hok⟩ := connectAs_last services step p.connection (f (some d))
          ⟨outside, w.events ++ [.opened ⟨p.neighborsFormat, path, .neighbors⟩ (.ok ())]⟩
        simp only [run_bind_of_ok hopen, pure_bind, hevents, hok, List.append_assoc]
        exact ⟨_, rfl, .scored hrecall path hpath answer⟩
      · simp only [run_bind_of_error hopen]
        exact ⟨_, rfl, .refused hrecall path hpath e⟩

variable [Dataset δ]

theorem ofConfig_course (config : StepConfig) (w : World ω) :
    ∃ done, (ofConfig services.noted config w).2.events = w.events ++ done ∧
      Course config done (ofConfig services.noted config w).1.isOk := by
  have hrun : ofConfig services.noted config w = (build services.noted config).run.run w := rfl
  rw [hrun]
  unfold build
  cases hp : QueryParameters.ofConfig config with
  | error e =>
    -- A key that does not fit is found before anything is opened.
    have hunfit : ¬Fit config := by
      intro fit
      obtain ⟨p, resolved⟩ := fit.resolved
      rw [(QueryParameters.ofConfig_eq_ok config p).mpr resolved] at hp
      cases hp
    rw [run_bind_of_error (run_mk_pure _ w)]
    exact ⟨[], (List.append_nil _).symm, .unfit hunfit⟩
  | ok p =>
    have resolved := (QueryParameters.ofConfig_eq_ok config p).mp hp
    rw [run_bind_of_ok (run_mk_pure _ w)]
    obtain ⟨outside, ⟨queries, hopen⟩ | ⟨e, hopen⟩⟩ := openAs_noted services p.queries w
    · rw [run_bind_of_ok hopen]
      have hcount := QueryParameters.queryCount_iff config (Dataset.size queries)
      cases hcounted : QueryParameters.queryCount config (Dataset.size queries) with
      | error e =>
        rw [hcounted] at hcount
        rw [run_bind_of_error (run_mk_pure _ _)]
        exact ⟨_, rfl, .uncountable p resolved (by simpa using hcount)⟩
      | ok count =>
        rw [run_bind_of_ok (run_mk_pure _ _)]
        obtain ⟨later, hlater, finish⟩ := openNeighbors_finish services config.stepName p
          (fun neighbors client => QueryStep.mk p.connection client services.noted.clock p.k p.r
            p.indexName p.fieldName p.calculateRecall count queries neighbors)
          ⟨outside, w.events ++ [.opened p.queries (.ok ())]⟩
        refine ⟨.opened p.queries (.ok ()) :: later, hlater.trans ?_, ?_⟩
        · rw [List.append_assoc]
          rfl
        · exact .counted p resolved (hcount.mp ⟨count, hcounted⟩) later _ finish
    · rw [run_bind_of_error hopen]
      exact ⟨_, rfl, .refused p resolved e⟩

end

/-! ## What is done, and when -/

/-- What is asked from outside is what the parameters say. -/
def Asked (p : QueryParameters) : Event → Prop
  | .opened ref _ => ref = p.queries ∨
    ∃ path, p.neighborsPath = some path ∧ ref = ⟨p.neighborsFormat, path, .neighbors⟩
  | .connected connection _ => connection = p.connection
  | .searched .. => False

/-- What building a step from a configuration has to do outside, and when it gives a step. -/
structure Orderly (c : StepConfig) (done : List Event) (built : Bool) : Prop where
  queries : Happened done (.opens .query) ↔ Fit c
  neighbors : Happened done (.opens .neighbors) ↔
    Succeeded done (.opens .query) ∧ Countable c ∧ WantsRecall c ∧ NamesNeighbors c
  client : Happened done .connects ↔ Succeeded done (.opens .query) ∧ Countable c ∧
    (WantsRecall c → Succeeded done (.opens .neighbors))
  built : built = true ↔ Succeeded done .connects
  /-- Each at most once, and no search. -/
  order : (done.map Event.effect).Sublist [.opens .query, .opens .neighbors, .connects]
  /-- What has failed is followed by nothing. -/
  ended : done.Pairwise fun earlier _ => earlier.succeeded
  untouched : ¬WantsRecall c → ¬Happened done (.opens .neighbors)
  asked : ∀ p : QueryParameters, p.Resolved c → ∀ event ∈ done, Asked p event

theorem Course.asked {c : StepConfig} {done : List Event} {built : Bool}
    (course : Course c done built) (p : QueryParameters) (resolved : p.Resolved c) :
    ∀ event ∈ done, Asked p event := by
  cases course with
  | unfit h => nofun
  | refused q hq e => simp [Asked, resolved.unique hq]
  | uncountable q hq h => simp [Asked, resolved.unique hq]
  | counted q hq h later built finish =>
    obtain rfl := resolved.unique hq
    cases finish with
    | unnamed wanted unnamed => simp [Asked]
    | refused wanted path named e => simp [Asked, named]
    | unscored unwanted answer => simp [Asked]
    | scored wanted path named answer => simp [Asked, named]

theorem Course.orderly {c : StepConfig} {done : List Event} {built : Bool}
    (course : Course c done built) : Orderly c done built := by
  have hasked := course.asked
  cases course with
  | unfit h =>
    constructor
    case asked => exact hasked
    all_goals simp [h]
  | refused p resolved e =>
    constructor
    case asked => exact hasked
    all_goals simp [resolved.role, resolved.fit]
  | uncountable p resolved h =>
    constructor
    case asked => exact hasked
    all_goals simp [resolved.role, resolved.fit, h]
  | counted p resolved h later built finish =>
    have hwants := resolved.wantsRecall_iff
    have hnamed := resolved.namesNeighbors_iff
    constructor
    case asked => exact hasked
    -- Whether recall is asked for, and whether it has a path, are known in each case.
    all_goals
      cases finish with
      | unnamed wanted unnamed =>
        rw [wanted] at hwants
        rw [unnamed] at hnamed
        simp [resolved.role, resolved.fit, h, ← hwants, ← hnamed]
      | refused wanted path named e =>
        rw [wanted] at hwants
        rw [named] at hnamed
        simp [resolved.role, resolved.fit, h, ← hwants, ← hnamed]
      | unscored unwanted answer =>
        rw [unwanted] at hwants
        simp [resolved.role, resolved.fit, h, ← hwants]
      | scored wanted path named answer =>
        rw [wanted] at hwants
        rw [named] at hnamed
        simp [resolved.role, resolved.fit, h, ← hwants, ← hnamed]

section

variable {ω δ : Type} [Dataset δ] (services : Services (StateM ω) δ)

/-- From whatever configuration a step is built, and whatever is answered outside: the queries are
opened if every key that they need fits, the neighbours if recall needs them, and a connection is made
if nothing has failed by then. The step is there if the connection is. -/
theorem ofConfig_orderly (config : StepConfig) (w : World ω) :
    ∃ done, (ofConfig services.noted config w).2.events = w.events ++ done ∧
      Orderly config done (ofConfig services.noted config w).1.isOk := by
  obtain ⟨done, hevents, course⟩ := ofConfig_course services config w
  exact ⟨done, hevents, course.orderly⟩

end

end QueryStep

end NeighborBench
