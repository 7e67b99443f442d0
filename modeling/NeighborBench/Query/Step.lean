import NeighborBench.Query.Parameters
import NeighborBench.Recall
import NeighborBench.Registry
import NeighborBench.Text.Integer

/-! # The query step

One search for each query vector, each awaited before the next is sent, and after them the recall of
their answers.
-/

namespace NeighborBench

/-- What a query step takes from outside. -/
structure Services (m : Type → Type) (δ : Type) where
  openDataset : DatasetRef → m (Except DatasetError δ)
  connect : Connection → m (Except String (Client m))
  /-- A clock in nanoseconds. -/
  clock : m Nat

structure QueryStep (m : Type → Type) (δ : Type) where
  connection : Connection
  client : Client m
  clock : m Nat
  k : Nat
  r : Nat
  indexName : String
  fieldName : String
  calculatesRecall : Bool
  queryCount : Nat
  queries : δ
  /-- What recall is calculated from. -/
  neighbors : Option δ

/-- One search that was answered. -/
structure Trial where
  took : Float
  /-- Milliseconds from sending the search to its answer. -/
  clientTime : Float
  hits : List String

def Trial.toJson (t : Trial) : Json :=
  .object [("took", .float t.took), ("client_time", .float t.clientTime),
    ("hits", .array (t.hits.map .string))]

/-- A time in nanoseconds as milliseconds. -/
def milliseconds (elapsed : Nat) : Float :=
  (Float.ofNat (elapsed / 1000000000) + Float.ofNat (elapsed % 1000000000) / 1000000000) * 1000

namespace QueryStep

variable {m : Type → Type} {δ : Type}

/-! ## Building -/

section Building

variable [Monad m] [Dataset δ]

/-- Opens a dataset; a format that cannot be read is a fault of the configuration. -/
def openAs (services : Services m δ) (ref : DatasetRef) : ExceptT StepError m δ :=
  ExceptT.mk do
    let opened ← services.openDataset ref
    pure (opened.mapError .ofDataset)

def openNeighbors (services : Services m δ) (step : String) (p : QueryParameters) :
    ExceptT StepError m (Option δ) :=
  if p.calculateRecall then
    match p.neighborsPath with
    | none => throw (.configuration (.noNeighbors step))
    | some path => some <$> openAs services ⟨p.neighborsFormat, path, .neighbors⟩
  else pure none

def connectAs (services : Services m δ) (step : String) (c : Connection) :
    ExceptT StepError m (Client m) :=
  ExceptT.mk do
    let connected ← services.connect c
    pure (connected.mapError fun reason => .configuration (.noClient step reason))

/-- Nothing outside is touched before every parameter is resolved; then come the queries, the
neighbours and the client. -/
def build (services : Services m δ) (config : StepConfig) : ExceptT StepError m (QueryStep m δ) := do
  let p ← ExceptT.mk (pure (QueryParameters.ofConfig config))
  let queries ← openAs services p.queries
  let queryCount ← ExceptT.mk (pure (QueryParameters.queryCount config (Dataset.size queries)))
  let neighbors ← openNeighbors services config.stepName p
  let client ← connectAs services config.stepName p.connection
  pure {
    connection := p.connection
    client
    clock := services.clock
    k := p.k
    r := p.r
    indexName := p.indexName
    fieldName := p.fieldName
    calculatesRecall := p.calculateRecall
    queryCount, queries, neighbors }

def ofConfig (services : Services m δ) (config : StepConfig) :
    m (Except StepError (QueryStep m δ)) :=
  (build services config).run

end Building

/-! ## Searching -/

/-- Asks for the `k` documents whose field is nearest to the vector. -/
def body (s : QueryStep m δ) (vector : List Single) : Json :=
  let knn := Json.object [("k", .int s.k), ("vector", Json.ofVector vector)]
  .object [("query", .object [("knn", .object [(s.fieldName, knn)])]), ("size", .int s.k)]

def request (s : QueryStep m δ) (vector : List Single) : SearchRequest :=
  ⟨s.indexName, s.body vector, [s.fieldName]⟩

/-- The next vector, unless the rows or the batch are at an end. -/
def nextVector [Dataset δ] (queries : δ) : Except StepError (Option (List Single)) × δ :=
  match Dataset.read 1 queries with
  | (.error e, queries) => (.error (.ofDataset e), queries)
  | (.ok none, queries) => (.ok none, queries)
  | (.ok (some batch), queries) =>
    match batch.asVectors with
    | .error e => (.error (.ofDataset e), queries)
    | .ok rows => (.ok rows.head?, queries)

variable [Monad m] [Dataset δ]

/-- Sends up to so many searches, of which the first is trial `trial`. -/
def trials (s : QueryStep m δ) : Nat → Nat → δ → m (Except StepError (List Trial) × δ)
  | 0, _, queries => pure (.ok [], queries)
  | left + 1, trial, queries =>
    match nextVector queries with
    | (.error e, queries) => pure (.error e, queries)
    | (.ok none, queries) => pure (.ok [], queries)
    | (.ok (some vector), queries) => do
      let start ← s.clock
      let answer ← s.client (s.request vector)
      let stop ← s.clock
      match answer with
      | .error fault => pure (.error (.transport trial fault), queries)
      | .ok reply =>
        let (rest, queries) ← s.trials left (trial + 1) queries
        let this := ⟨reply.took, milliseconds (stop - start), reply.hits⟩
        pure (rest.map (this :: ·), queries)

/-- What a trial takes of the memory that is reserved for all of them. -/
def trialBytes : Nat := 40

/-- Sends the searches of the step, once there is room for as many trials as it counts. -/
def allTrials (s : QueryStep m δ) : m (Except StepError (List Trial) × δ) :=
  if roomFor trialBytes < s.queryCount then pure (.error (.noRoom s.queryCount), s.queries)
  else s.trials s.queryCount 0 s.queries

/-! ## Scoring -/

def numericHit (trial : Nat) (id : String) : Except StepError Int :=
  match Text.readInt64 id with
  | .ok n => .ok n
  | .error fault => .error (.transport trial (.badHit id fault.message))

/-- The ids of each trial as numbers; the first that is none fails its trial. -/
def numericHits : Nat → List Trial → Except StepError (List (List Int))
  | _, [] => .ok []
  | trial, t :: rest => do
    let ids ← t.hits.mapM (numericHit trial)
    let more ← numericHits (trial + 1) rest
    pure (ids :: more)

def recallAtK : String := "recall@K"

def recallAtR (r : Nat) : String := s!"recall@{r}"

/-- Moves the neighbours to their first row. -/
def rewind : ExceptT StepError (StateM δ) Unit :=
  ExceptT.mk fun neighbors =>
    let (done, neighbors) := Dataset.reset neighbors
    (done.mapError .ofDataset, neighbors)

def score (r k queries : Nat) (results : List (List Int)) : ExceptT StepError (StateM δ) Float :=
  ExceptT.mk fun neighbors => Recall.evaluate r k queries results neighbors

/-- Recall over `k` neighbours and over `r`, each from the first row on. -/
def scores (k r : Nat) (results : List (List Int)) : ExceptT StepError (StateM δ) Measures := do
  rewind
  let atK ← score k k results.length results
  rewind
  let atR ← score r k results.length results
  rewind
  pure [(recallAtK, .scalar atK), (recallAtR r, .scalar atR)]

/-- Without neighbours there is nothing to score. -/
def recalls (s : QueryStep m δ) (trials : List Trial) :
    Except StepError Measures × Option δ :=
  match s.neighbors with
  | none => (.ok [], none)
  | some neighbors =>
    match numericHits 0 trials with
    | .error e => (.error e, some neighbors)
    | .ok results =>
      let (outcome, neighbors) := (scores s.k s.r results).run neighbors
      (outcome, some neighbors)

/-! ## The step as a whole -/

/-- The service does not report its memory; each trial counts as zero. -/
def seriesOf (trials : List Trial) : Measures :=
  [("took", .series (trials.map (·.took))),
    ("client_time", .series (trials.map (·.clientTime))),
    ("memory_kb", .series (trials.map fun _ => 0))]

def declared (s : QueryStep m δ) : List String :=
  ["took", "memory_kb", "client_time"] ++
    if s.calculatesRecall then [recallAtK, recallAtR s.r] else []

/-- What the trials come to once all of them are sent: their recall, and the queries at their first
row again. -/
def settle (s : QueryStep m δ) (outcome : Except StepError (List Trial)) (queries : δ) :
    Except StepError Measures × QueryStep m δ :=
  match outcome with
  | .error e => (.error e, { s with queries })
  | .ok trials =>
    match s.recalls trials with
    | (.error e, neighbors) => (.error e, { s with queries, neighbors })
    | (.ok recalled, neighbors) =>
      match Dataset.reset queries with
      | (.error e, queries) => (.error (.ofDataset e), { s with queries, neighbors })
      | (.ok (), queries) => (.ok (seriesOf trials ++ recalled), { s with queries, neighbors })

def action (s : QueryStep m δ) : m (Except StepError Measures × QueryStep m δ) := do
  let (outcome, queries) ← s.allTrials
  pure (s.settle outcome queries)

def kindLabel : String := "query"

instance : StepKind m (QueryStep m δ) where
  label _ := kindLabel
  declared := declared
  action := action

/-- Builds a query step, as one kind among those of `σ`, that waits to be run. -/
def construct (services : Services m δ) {σ : Type} (wrap : QueryStep m δ → σ) : Constructor m σ :=
  fun config => do
    let built ← ofConfig services config
    pure (built.map fun step => ⟨wrap step, .initialized⟩)

end QueryStep

/-- Registers the query step, as one kind among those of `σ`. -/
def Registry.registerQuery {m : Type → Type} [Monad m] {δ σ : Type} [Dataset δ]
    (r : Registry m σ) (services : Services m δ) (wrap : QueryStep m δ → σ) :
    Except StepError (Registry m σ) :=
  r.register QueryStep.kindLabel (QueryStep.construct services wrap)

/-- The kinds that every test may use. -/
def Registry.builtin {m : Type → Type} [Monad m] {δ : Type} [Dataset δ] (services : Services m δ) :
    Registry m (QueryStep m δ) :=
  ⟨[(QueryStep.kindLabel, QueryStep.construct services id)]⟩

end NeighborBench
