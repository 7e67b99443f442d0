import NeighborBench.Proofs.Dataset.Kinds
import NeighborBench.Proofs.Dataset.Tape
import NeighborBench.Proofs.Plan.Configuration
import NeighborBench.Proofs.Step.Lifecycle

/-! # Queries are vectors and neighbours are ids

A dataset is opened for a role, and the role settles which rows it answers. So a step whose datasets
are files never finds rows of the wrong kind, and if nobody writes to the files, it never fails for
its datasets at all.
-/

namespace NeighborBench

open Dataset (Call history)

/-! ## Rows of the right kind -/

/-- Errors other than rows of the wrong kind. -/
def DatasetError.OtherThanKind (e : DatasetError) : Prop := ∀ expected, e ≠ .rowKind expected

theorem DatasetError.OfReading.otherThanKind {e : DatasetError} (h : e.OfReading) :
    e.OtherThanKind := by
  intro expected hexpected
  cases h <;> cases hexpected

/-- Rows of a kind are taken without an error. -/
def Takes {α : Type} (kind : RowKind) (convert : Rows → Except DatasetError α) : Prop :=
  ∀ rows, rows.kind = kind → ∃ a, convert rows = .ok a

theorem takes_asVectors : Takes .vector Rows.asVectors := by
  intro rows h
  cases rows with
  | vectors rows => exact ⟨rows, rfl⟩
  | ids rows => cases h

theorem takes_asIds : Takes .id Rows.asIds := by
  intro rows h
  cases rows with
  | vectors rows => cases h
  | ids rows => exact ⟨rows, rfl⟩

theorem Takes.failsOnly {α : Type} {kind : RowKind} {convert : Rows → Except DatasetError α}
    (takes : Takes kind convert) (allowed : DatasetError → Prop) (rows : Rows)
    (h : rows.kind = kind) : FailsOnly allowed (convert rows) := by
  obtain ⟨a, ha⟩ := takes rows h
  rw [ha]
  exact .ok a

/-! ## Files that are written to -/

namespace Unsettled

/-- A file of elements of a kind. -/
def Of (kind : RowKind) (d : Unsettled) : Prop := d.file.element.kind = kind

theorem perform_of {kind : RowKind} {d : Unsettled} (h : d.Of kind) (made : Call) :
    (Dataset.perform made d).2.Of kind := by
  rw [Of, (d.perform_sameForm made).element]
  exact h

theorem call_ofReading {α : Type} {act : BigAnn → Except DatasetError α × BigAnn}
    (h : ∀ b, FailsOnly DatasetError.OfReading (act b).1) (d : Unsettled) :
    FailsOnly DatasetError.OfReading (call act d).1 := by
  rcases call_eq act d with ⟨fault, hcall⟩ | ⟨file, -, hcall⟩
  · rw [hcall]
    exact .error (.io fault)
  · rw [hcall]
    exact h file

theorem serves {α : Type} {kind : RowKind} {convert : Rows → Except DatasetError α}
    (takes : Takes kind convert) : Serves convert DatasetError.OtherThanKind (Of kind) where
  read d h :=
    ⟨(call_ofReading (BigAnn.read_ofReading 1) d).mono fun _ h => h.otherThanKind,
      perform_of h (.read 1)⟩
  reset d h :=
    ⟨(call_ofReading (fun _ => .ok ()) d).mono fun _ h => h.otherThanKind, perform_of h .reset⟩
  take d rows h hread := takes.failsOnly _ rows ((d.read_fit 1 rows hread).kind.trans h)

end Unsettled

section

variable {ω : Type}

/-- Services whose datasets are files. -/
def fileServices (load : String → StateM ω (Except FileFault Entry))
    (connect : Connection → StateM ω (Except String (Client (StateM ω)))) (clock : StateM ω Nat) :
    Services (StateM ω) BigAnn where
  openDataset ref := ref.openWith load
  connect := connect
  clock := clock

/-- The same services, with every file written to as the outside says when it is opened. -/
def Services.unsettled (services : Services (StateM ω) BigAnn)
    (writes : DatasetRef → StateM ω (List (Except FileFault ByteArray))) :
    Services (StateM ω) Unsettled where
  openDataset ref := do
    let opened ← services.openDataset ref
    let later ← writes ref
    pure (opened.map fun b => ⟨b, later⟩)
  connect := services.connect
  clock := services.clock

theorem Services.opened_unsettled (services : Services (StateM ω) BigAnn)
    (writes : DatasetRef → StateM ω (List (Except FileFault ByteArray))) (ref : DatasetRef)
    (d : Unsettled) (before after : ω)
    (h : (services.unsettled writes).openDataset ref before = (.ok d, after)) :
    ∃ between, services.openDataset ref before = (.ok d.file, between) := by
  simp only [Services.unsettled, state_bind] at h
  generalize services.openDataset ref before = opened at h
  rcases opened with ⟨e | b, between⟩
  · cases h
  · cases h
    exact ⟨between, rfl⟩

end

/-! ## Files that nobody writes to -/

/-- A dataset that never fails, with rows of a kind. -/
def OnTape {δ : Type} [Dataset δ] (kind : RowKind) (d : δ) : Prop :=
  ∃ (At : Nat → δ → Prop) (rows : Rows) (c : Nat), Tape At rows ∧ rows.kind = kind ∧ At c d

theorem serves_onTape {δ α : Type} [Dataset δ] {kind : RowKind}
    {convert : Rows → Except DatasetError α} (takes : Takes kind convert) :
    Serves convert (fun _ => False) (OnTape (δ := δ) kind) where
  read d h := by
    obtain ⟨At, rows, c, tape, hkind, hat⟩ := h
    by_cases hlt : c < rows.length
    · obtain ⟨after, hread, hafter⟩ := tape.next c d hat hlt
      rw [hread]
      exact ⟨.ok _, At, rows, c + 1, tape, hkind, hafter⟩
    · obtain ⟨after, hread, hafter⟩ := tape.finished c d hat (by omega)
      rw [hread]
      exact ⟨.ok _, At, rows, c, tape, hkind, hafter⟩
  reset d h := by
    obtain ⟨At, rows, c, tape, hkind, hat⟩ := h
    obtain ⟨after, hreset, hafter⟩ := tape.rewinds c d hat
    rw [hreset]
    exact ⟨.ok _, At, rows, 0, tape, hkind, hafter⟩
  take d batch h hread := by
    obtain ⟨At, rows, c, tape, hkind, hat⟩ := h
    by_cases hlt : c < rows.length
    · obtain ⟨after, hnext, -⟩ := tape.next c d hat hlt
      rw [hnext] at hread
      cases hread
      refine takes.failsOnly _ _ ?_
      rw [← hkind]
      cases rows <;> rfl
    · obtain ⟨after, hend, -⟩ := tape.finished c d hat (by omega)
      rw [hend] at hread
      cases hread

theorem BigAnn.Accepted.onTape {element : Element} {bytes : ByteArray} {b : BigAnn}
    (accepted : Accepted element bytes b) : OnTape element.kind b := by
  have hlimit : b.rows < rowNumberLimit := Nat.lt_trans accepted.rows_lt (by decide)
  refine ⟨_, b.payload, 0, tape_file b accepted.whole hlimit, ?_, accepted.eq_atRow⟩
  rw [accepted.payload_eq]
  cases element <;> rfl

/-! ## Steps -/

section

variable {ω δ : Type} [Dataset δ]

theorem QueryStep.holds_of_ofConfig {H : RowKind → δ → Prop} (services : Services (StateM ω) δ)
    (opened : ∀ ref d before after,
      services.openDataset ref before = (.ok d, after) → H ref.role.kind d)
    (config : StepConfig) (s : QueryStep (StateM ω) δ) (before after : ω)
    (h : ofConfig services config before = (.ok s, after)) : s.Holds (H .vector) (H .id) := by
  constructor
  · obtain ⟨p, built⟩ := built_of_ofConfig services config s before after h
    obtain ⟨outside, behind, hopen⟩ := built.queries
    have hqueries := opened p.queries s.queries outside behind hopen
    rwa [built.resolved.role] at hqueries
  · intro d hd
    obtain ⟨p, outside, behind, -, hheld⟩ := neighbors_of_ofConfig services config s before after h
    rw [hd] at hheld
    obtain ⟨ref, outside, behind, hrole, hopen⟩ := openNeighbors_opened _ _ _ d _ _ hheld
    have hneighbors := opened ref d outside behind hopen
    rwa [hrole] at hneighbors

theorem Step.executeTimes_within {allowed : DatasetError → Prop} {Q N : δ → Prop}
    (vectors : Serves Rows.asVectors allowed Q) (ids : Serves Rows.asIds allowed N) (n : Nat)
    (step : Step (QueryStep (StateM ω) δ)) (holds : step.body.Holds Q N) (w : ω) :
    ∀ answer ∈ (executeTimes (m := StateM ω) n step w).1.1,
      FailsOnly (StepError.Within allowed) answer := by
  induction n generalizing step w with
  | zero => nofun
  | succ n ih =>
    intro answer h
    have hstep := step.execute_contained vectors ids holds w
    rcases List.mem_cons.mp h with rfl | h
    · exact hstep.fails
    · exact ih _ hstep.held _ answer h

/-- What a step answers when it is called so many times. -/
def QueryStep.answers (s : QueryStep (StateM ω) δ) (n : Nat) (w : ω) :
    List (Except StepError StepResult) :=
  (Step.executeTimes (m := StateM ω) n ⟨s, .initialized⟩ w).1.1

theorem StepError.Within.of_dataset {allowed : DatasetError → Prop} {e : DatasetError}
    (h : Within allowed (.dataset e)) : allowed e := by
  generalize hfound : StepError.dataset e = found at h
  cases h with
  | atWork found h =>
    cases h with
    | ofDataset other hallowed =>
      have hsame : e = other := by
        cases other <;> cases hfound <;> rfl
      rwa [hsame]
    | _ => cases hfound
  | _ => cases hfound

end

section

variable {ω : Type} (load : String → StateM ω (Except FileFault Entry))
  (connect : Connection → StateM ω (Except String (Client (StateM ω)))) (clock : StateM ω Nat)

theorem onTape_of_role (ref : DatasetRef) (b : BigAnn) (before after : ω)
    (h : (fileServices load connect clock).openDataset ref before = (.ok b, after)) :
    OnTape ref.role.kind b := by
  obtain ⟨element, bytes, hrole, accepted⟩ := ref.accepted_of_openWith load before after b h
  rw [← hrole]
  exact accepted.onTape

theorem unsettled_of_role (writes : DatasetRef → StateM ω (List (Except FileFault ByteArray)))
    (ref : DatasetRef) (d : Unsettled) (before after : ω)
    (h : ((fileServices load connect clock).unsettled writes).openDataset ref before =
      (.ok d, after)) : d.Of ref.role.kind := by
  obtain ⟨between, hfile⟩ := Services.opened_unsettled _ writes ref d before after h
  obtain ⟨element, bytes, hrole, accepted⟩ :=
    ref.accepted_of_openWith load before between d.file hfile
  rw [Unsettled.Of, ← hrole, accepted.file]

end

/-- A file that is opened for the index or for queries answers vectors, one that is opened for
neighbours answers ids, and each row has the width that the header says, whatever is written to the
file later. So no run of a step, however often it is called, finds rows of the wrong kind; and a step
whose files nobody writes to never fails for a dataset. -/
theorem opened_rows_are_of_their_role {ω : Type} (load : String → StateM ω (Except FileFault Entry)) :
    (∀ (ref : DatasetRef) (before after : ω) (b : BigAnn),
      ref.openWith load before = (.ok b, after) → ∀ (calls : List Call) (rows : Rows),
        (.batch (.ok (some rows)) ∈ (history calls b).1 → rows.Fit ref.role.kind b.dim) ∧
        ∀ later, .batch (.ok (some rows)) ∈ (history calls (⟨b, later⟩ : Unsettled)).1 →
          rows.Fit ref.role.kind b.dim) ∧
      ∀ (connect : Connection → StateM ω (Except String (Client (StateM ω)))) (clock : StateM ω Nat)
        (config : StepConfig) (before after : ω) (n : Nat) (w : ω),
        (∀ writes s,
          QueryStep.ofConfig ((fileServices load connect clock).unsettled writes) config before =
            (.ok s, after) →
          ∀ answer ∈ s.answers n w, ∀ expected, answer ≠ .error (.dataset (.rowKind expected))) ∧
        ∀ s, QueryStep.ofConfig (fileServices load connect clock) config before = (.ok s, after) →
          ∀ answer ∈ s.answers n w, ∀ e, answer ≠ .error (.dataset e) := by
  refine ⟨?_, ?_⟩
  · intro ref before after b h calls rows
    obtain ⟨element, bytes, hkind, accepted⟩ := ref.accepted_of_openWith load before after b h
    have helement : b.element.kind = ref.role.kind := by rw [← hkind, accepted.file]
    have hlater : ∀ later, .batch (.ok (some rows)) ∈ (history calls (⟨b, later⟩ : Unsettled)).1 →
        rows.Fit ref.role.kind b.dim := by
      intro later hmem
      rw [← helement]
      exact Unsettled.history_fit calls ⟨b, later⟩ rows hmem
    refine ⟨fun hmem => hlater [] ?_, hlater⟩
    rwa [Unsettled.history_settled]
  · intro connect clock config before after n w
    constructor
    · intro writes s built answer hanswer expected hkind
      have holds := QueryStep.holds_of_ofConfig ((fileServices load connect clock).unsettled writes)
        (unsettled_of_role load connect clock writes) config s before after built
      have hwithin := Step.executeTimes_within (Unsettled.serves takes_asVectors)
        (Unsettled.serves takes_asIds) n ⟨s, .initialized⟩ holds w answer hanswer _ hkind
      exact hwithin.of_dataset expected rfl
    · intro s built answer hanswer e herror
      have holds := QueryStep.holds_of_ofConfig (fileServices load connect clock)
        (onTape_of_role load connect clock) config s before after built
      have hwithin := Step.executeTimes_within (serves_onTape takes_asVectors)
        (serves_onTape takes_asIds) n ⟨s, .initialized⟩ holds w answer hanswer _ herror
      exact hwithin.of_dataset

/-! ## Two files -/

def idRowOpen : BigAnn where
  bytes := ⟨#[1, 0, 0, 0, 1, 0, 0, 0, 2, 0, 0, 0]⟩
  element := .i32
  rows := 1
  dim := 1
  offset := 8

/-- A file of one vector, and one of one id wherever else. -/
def loadTwo : String → StateM Unit (Except FileFault Entry) := fun path =>
  pure (.ok (.file (if path = "q.u8bin" then oneRowOpen.bytes else idRowOpen.bytes)))

/-- A service that finds the id in the file. -/
def twoFiles : Services (StateM Unit) BigAnn :=
  fileServices loadTwo (fun _ => pure (.ok fun _ => pure (.ok ⟨0, ["2"]⟩))) (pure 0)

def twoFilesSetup : StepConfig where
  stepName := "query"
  config := [("index_name", .string "docs"), ("field_name", .string "v"), ("k", .int 1),
    ("calculate_recall", .bool true), ("dataset_format", .string "bigann"),
    ("dataset_path", .string "q.u8bin"), ("neighbors_format", .string "bigann"),
    ("neighbors_path", .string "n.u8bin")]

def twoFilesStep : QueryStep (StateM Unit) BigAnn where
  connection := ⟨"localhost", 9200, 60⟩
  client := fun _ => pure (.ok ⟨0, ["2"]⟩)
  clock := pure 0
  k := 1
  r := 1
  indexName := "docs"
  fieldName := "v"
  calculatesRecall := true
  queryCount := 1
  queries := oneRowOpen
  neighbors := some idRowOpen

theorem vectorRow_opens :
    DatasetRef.openWith loadTwo ⟨"bigann", "q.u8bin", .query⟩ = pure (.ok oneRowOpen) :=
  openWith_file loadTwo rfl oneRow_element rfl oneRow_entry

theorem idRow_opens :
    DatasetRef.openWith loadTwo ⟨"bigann", "n.u8bin", .neighbors⟩ = pure (.ok idRowOpen) := by
  -- Neighbours are ids whatever the end of their path says.
  have hheader : BigAnn.header? idRowOpen.bytes = some (1, 1) := by
    rw [BigAnn.header?, toList_eq_data]
    rfl
  have hentry : BigAnn.openEntry "n.u8bin" .i32 (.file idRowOpen.bytes) = .ok idRowOpen := by
    simp only [BigAnn.openEntry, Entry.bytes, hheader]
    rfl
  have hload : loadTwo "n.u8bin" = pure (.ok (.file idRowOpen.bytes)) := by
    rw [loadTwo, if_neg (by decide)]
  exact openWith_file loadTwo rfl rfl hload hentry

theorem twoFiles_build :
    QueryStep.ofConfig twoFiles twoFilesSetup () = (.ok twoFilesStep, ()) := by
  have hqueries : DatasetRef.openWith loadTwo ⟨"bigann", "q.u8bin", .query⟩ () =
      (.ok oneRowOpen, ()) := by
    rw [vectorRow_opens]
    rfl
  have hneighbors : QueryStep.openNeighbors twoFiles "query"
      ⟨⟨"localhost", 9200, 60⟩, 1, 1, "docs", "v", true, ⟨"bigann", "q.u8bin", .query⟩, "bigann",
        some "n.u8bin"⟩ () = (.ok (some idRowOpen), ()) := by
    simp only [QueryStep.openNeighbors, QueryStep.openAs, if_true, twoFiles, fileServices, idRow_opens,
      pure_bind]
    rfl
  change (QueryStep.build twoFiles twoFilesSetup).run.run () = _
  unfold QueryStep.build
  simp only [run_bind_ok, run_mk_pure_ok, run_pure_ok, QueryStep.connectAs, run_mapError_ok]
  unfold QueryStep.openAs
  simp only [run_mapError_ok]
  exact ⟨_, (), ⟨rfl, trivial⟩, _, (), hqueries, _, (), ⟨rfl, trivial⟩, _, (), hneighbors, _, (), rfl,
    rfl, trivial⟩

/-- Vectors for the searches and ids to score them by, from files that are written to later; and a step
on both that never fails for them. -/
theorem twoFiles_are_of_their_roles :
    (∀ later rows,
      .batch (.ok (some rows)) ∈
        (history [.read 1, .reset, .read 5] (⟨oneRowOpen, later⟩ : Unsettled)).1 →
      rows.Fit .vector 1) ∧
    (∀ later rows,
      .batch (.ok (some rows)) ∈
        (history [.read 1, .reset, .read 5] (⟨idRowOpen, later⟩ : Unsettled)).1 →
      rows.Fit .id 1) ∧
    QueryStep.ofConfig twoFiles twoFilesSetup () = (.ok twoFilesStep, ()) ∧
      ∀ answer ∈ twoFilesStep.answers 2 (), ∀ e, answer ≠ .error (.dataset e) := by
  have hqueries : DatasetRef.openWith loadTwo ⟨"bigann", "q.u8bin", .query⟩ () =
      (.ok oneRowOpen, ()) := by
    rw [vectorRow_opens]
    rfl
  have hneighbors : DatasetRef.openWith loadTwo ⟨"bigann", "n.u8bin", .neighbors⟩ () =
      (.ok idRowOpen, ()) := by
    rw [idRow_opens]
    rfl
  obtain ⟨hrows, hsteps⟩ := opened_rows_are_of_their_role loadTwo
  have hbuilt := twoFiles_build
  refine ⟨fun later rows => (hrows _ () () oneRowOpen hqueries _ rows).2 later,
    fun later rows => (hrows _ () () idRowOpen hneighbors _ rows).2 later, hbuilt, ?_⟩
  exact (hsteps twoFiles.connect twoFiles.clock twoFilesSetup () () 2 ()).2 twoFilesStep hbuilt

end NeighborBench
