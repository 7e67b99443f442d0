import NeighborBench.Proofs.Dataset.Decoding
import NeighborBench.Proofs.Plan.Whole
import NeighborBench.Proofs.Query.Faults
import NeighborBench.Proofs.Query.Quiet

/-! # When a fault of the configuration is reported

A list of steps whose configuration is at fault sends nothing. The lists that ran before it have
sent their searches by then.
-/

namespace NeighborBench

/-- The marks of a report need no service. -/
def Marks.aside {ω : Type} (marks : Marks (StateM ω)) : Marks (StateM (World ω)) :=
  ⟨unnoted marks.freshId, unnoted marks.now⟩

section

variable {ω : Type} (services : Services (StateM ω) BigAnn)

namespace Registry

theorem run_of_fault {configs : List StepConfig} {w : World ω} {fault : ConfigFault}
    (h : ((builtin services.noted).run configs w).1.1 = .error (.configuration fault)) :
    ((builtin services.noted).build configs w).1 = .error (.configuration fault) ∧
      ((builtin services.noted).run configs w).2.searches = w.searches := by
  have hquiet := build_quiet services configs w
  unfold run at h ⊢
  simp only [state_bind] at h ⊢
  generalize (builtin services.noted).build configs w = built at h hquiet ⊢
  obtain ⟨answer, between⟩ := built
  cases answer with
  | error e =>
    refine ⟨?_, hquiet⟩
    cases h
    rfl
  | ok steps => exact absurd rfl (runSteps_whileRunning steps between _ h fault)

theorem runTimes_of_fault {configs : List StepConfig} {n : Nat} {w : World ω} {fault : ConfigFault}
    (h : ((builtin services.noted).runTimes configs n w).1.1 = .error (.configuration fault)) :
    ∃ k < n, ∃ runs left last,
      (builtin services.noted).runTimes configs k w = ((.ok runs, left), last) ∧
      ((builtin services.noted).build configs last).1 = .error (.configuration fault) ∧
      ((builtin services.noted).runTimes configs n w).2.searches = last.searches := by
  -- The runs before the faulty one are whole, and the searches sent are theirs.
  induction n generalizing w with
  | zero => cases h
  | succ n ih =>
    rw [runTimes_succ] at h ⊢
    rcases hfirst : (builtin services.noted).run configs w with ⟨⟨e | results, left⟩, between⟩
    · rw [hfirst] at h
      cases h
      obtain ⟨hbuild, hsearches⟩ := run_of_fault services (congrArg (·.1.1) hfirst)
      rw [hfirst] at hsearches
      exact ⟨0, Nat.succ_pos n, [], [], w, rfl, hbuild, hsearches⟩
    · rw [hfirst] at h
      simp only at h ⊢
      have hrest : ((builtin services.noted).runTimes configs n between).1.1 =
          .error (.configuration fault) := by
        generalize ((builtin services.noted).runTimes configs n between).1.1 = outcome at h ⊢
        cases outcome with
        | error e =>
          cases h
          rfl
        | ok runs => cases h
      obtain ⟨k, hk, runs, more, last, hruns, hbuild, hsearches⟩ := ih hrest
      refine ⟨k + 1, Nat.succ_lt_succ hk, results :: runs, left ++ more, last, ?_, hbuild,
        hsearches⟩
      rw [runTimes_succ, hfirst]
      simp only [hruns]
      rfl

theorem runPlan_of_fault {setup steps : List StepConfig} {n : Nat} {w : World ω}
    {fault : ConfigFault}
    (h : ((builtin services.noted).runPlan setup steps n w).1.1 = .error (.configuration fault)) :
    ((builtin services.noted).runPlan setup steps n w).2.searches = w.searches ∨
      ∃ k < n, ∃ runs left last,
        (builtin services.noted).runPlan setup steps k w = ((.ok runs, left), last) ∧
        ((builtin services.noted).build steps last).1 = .error (.configuration fault) ∧
        ((builtin services.noted).runPlan setup steps n w).2.searches = last.searches := by
  simp only [runPlan_eq] at h ⊢
  rcases hsetup : (builtin services.noted).run setup w with ⟨⟨e | results, left⟩, between⟩
  · rw [hsetup] at h
    cases h
    have hsearches := (run_of_fault services (congrArg (·.1.1) hsetup)).2
    rw [hsetup] at hsearches
    exact .inl hsearches
  · rw [hsetup] at h
    by_cases crowded : roomFor runBytes < n
    · simp only [if_pos crowded] at h
      cases h
    simp only [if_neg crowded] at h ⊢
    obtain ⟨k, hk, runs, more, last, hruns, hbuild, hsearches⟩ := runTimes_of_fault services h
    refine .inr ⟨k, hk, runs, left ++ more, last, ?_, hbuild, hsearches⟩
    rw [if_neg fun h => crowded (Nat.lt_trans h hk)]
    simp only [hruns]

end Registry

namespace TestPlan

theorem begin_quiet (plan : TestPlan) (marks : Marks (StateM ω)) :
    Quiet (plan.begin marks.aside) := by
  unfold begin
  cases plan.id with
  | some id => exact (Quiet.unnoted marks.now).bind fun _ => .pure _
  | none =>
    refine (Quiet.unnoted marks.freshId).bind fun _ => ?_
    exact (Quiet.unnoted marks.now).bind fun _ => .pure _

theorem setup_nil (plan : TestPlan) {environment : ConnectionDefaults}
    {setup steps : List StepConfig}
    (hempty : plan.setup = []) (hconfigs : plan.configs environment = .ok (setup, steps)) :
    setup = [] := by
  unfold configs stepConfigs entries at hconfigs
  rw [hempty] at hconfigs
  change (Except.mapError _ _ >>= fun steps => pure ([], steps)) = _ at hconfigs
  rw [except_bind_ok] at hconfigs
  obtain ⟨_, -, h⟩ := hconfigs
  cases h
  rfl

/-- When the configuration of a test is at fault, the searches that were sent are those of lists
that ran as a whole: the setup, and the runs of the steps before the faulty one. So nothing was
sent if there is no setup and only one run. -/
theorem fault_is_reported_before_its_list_runs (plan : TestPlan) (environment : ConnectionDefaults)
    (marks : Marks (StateM ω)) (outside : ω) (fault : ConfigFault)
    (failed : (plan.run (Registry.builtin services.noted) environment marks.aside
      ⟨outside, []⟩).1.1 = .error (.step (.configuration fault))) :
    let registry := Registry.builtin services.noted
    let ran := plan.run registry environment marks.aside ⟨outside, []⟩
    (ran.2.searches = [] ∨
      ∃ setup steps n runs left last, plan.configs environment = .ok (setup, steps) ∧
        n < plan.runs ∧
        registry.runPlan setup steps n (plan.begin marks.aside ⟨outside, []⟩).2 =
          ((.ok runs, left), last) ∧
        (registry.build steps last).1 = .error (.configuration fault) ∧
        ran.2.searches = last.searches) ∧
    (plan.setup = [] → plan.runs = 1 → ran.2.searches = []) := by
  intro registry ran
  rcases plan.refused_or_started registry environment marks.aside ⟨outside, []⟩ with
    ⟨e, hrefused⟩ | ⟨setup, steps, hconfigs, hkinds⟩
  · have hsearches : ran.2.searches = [] := congrArg (World.searches ·.2) hrefused
    exact ⟨.inl hsearches, fun _ _ => hsearches⟩
  have hbegun : (plan.begin marks.aside ⟨outside, []⟩).2.searches = [] :=
    plan.begin_quiet marks ⟨outside, []⟩
  have hran : ran = _ := run_of_known hconfigs hkinds ⟨outside, []⟩
  have hfailed : ran.1.1 = .error (.step (.configuration fault)) := failed
  simp only at hran
  generalize hbegin : (plan.begin marks.aside ⟨outside, []⟩).2 = begun at hbegun hran ⊢
  rcases hplan : registry.runPlan setup steps plan.runs begun with ⟨⟨e | runs, left⟩, last⟩
  · rw [hplan] at hran
    rw [hran] at hfailed ⊢
    cases hfailed
    have hfault := Registry.runPlan_of_fault services (congrArg (·.1.1) hplan)
    rw [hplan, hbegun] at hfault
    refine ⟨hfault.imp_right fun ⟨k, hk, runs, more, between, hruns, hbuild, hsearches⟩ =>
      ⟨setup, steps, k, runs, more, between, hconfigs, hk, hruns, hbuild, hsearches⟩, ?_⟩
    intro hempty hone
    rcases hfault with hsearches | ⟨k, hk, runs, more, between, hruns, -, hsearches⟩
    · exact hsearches
    · obtain rfl := plan.setup_nil hempty hconfigs
      obtain rfl : k = 0 := by omega
      cases hruns
      exact hsearches.trans hbegun
  · rw [hplan] at hran
    rw [hran] at hfailed
    cases hfailed

end TestPlan

end

/-! ## A setup before a fault -/

/-- A file of one row, which is one byte, and a service that finds nothing. -/
def oneRow : Services (StateM Unit) BigAnn where
  openDataset ref := ref.openWith fun _ =>
    pure (.ok (.file ⟨#[1, 0, 0, 0, 1, 0, 0, 0, 7]⟩))
  connect _ := pure (.ok fun _ => pure (.ok ⟨0, []⟩))
  clock := pure 0

def oneRowOpen : BigAnn where
  bytes := ⟨#[1, 0, 0, 0, 1, 0, 0, 0, 7]⟩
  element := .u8
  rows := 1
  dim := 1
  offset := 8

def lateFault : TestPlan where
  connection := {}
  name := "late"
  id := some "late"
  runs := 1
  showsRuns := false
  setup := [[("name", .string "query"), ("index_name", .string "docs"),
    ("field_name", .string "v"), ("dataset_format", .string "bigann"),
    ("dataset_path", .string "q.u8bin")]]
  steps := [[("name", .string "query")]]

def wholeSetup : StepConfig where
  stepName := "query"
  config := [("index_name", .string "docs"), ("field_name", .string "v"),
    ("dataset_format", .string "bigann"), ("dataset_path", .string "q.u8bin")]

/-- The step that the setup is built to. -/
def wholeStep : QueryStep (StateM (World Unit)) BigAnn where
  connection := ⟨"localhost", 9200, 60⟩
  client := Client.noted fun _ => pure (.ok ⟨0, []⟩)
  clock := unnoted (pure 0)
  k := 100
  r := 1
  indexName := "docs"
  fieldName := "v"
  calculatesRecall := false
  queryCount := 1
  queries := oneRowOpen
  neighbors := none

def noMarks : Marks (StateM Unit) := ⟨pure "", pure ""⟩

theorem ofPath_u8bin : Element.ofPath "q.u8bin" = .ok .u8 := by
  have hplace : "q.u8bin".splitOn "/" = ["q.u8bin"] := by
    simp +decide [String.splitOn, String.splitOnAux]
  have hparts : "q.u8bin".splitOn "." = ["q", "u8bin"] := by
    simp +decide [String.splitOn, String.splitOnAux]
  have hname : Path.fileName? "q.u8bin" = some "q.u8bin" := by
    unfold Path.fileName?
    rw [hplace]
    rfl
  unfold Element.ofPath Path.extension?
  rw [hname]
  simp only [hparts]
  rfl

theorem openWith_file (load : String → StateM Unit (Except FileFault Entry)) {ref : DatasetRef}
    {element : Element} {bytes : ByteArray} {b : BigAnn} (format : ref.format = bigAnnFormat)
    (helement : ref.element = .ok element) (hload : load ref.path = pure (.ok (.file bytes)))
    (hopen : BigAnn.openEntry ref.path element (.file bytes) = .ok b) :
    ref.openWith load = pure (.ok b) := by
  have hne : bigAnnFormat ≠ hdf5Format := by decide
  simp only [DatasetRef.openWith, format, hne, helement, hload, if_false, if_true, pure_bind, hopen]

theorem oneRow_element : DatasetRef.element ⟨"bigann", "q.u8bin", .query⟩ = .ok .u8 := by
  unfold DatasetRef.element
  simp only [ofPath_u8bin]

theorem oneRow_entry :
    BigAnn.openEntry "q.u8bin" .u8 (.file oneRowOpen.bytes) = .ok oneRowOpen := by
  have hheader : BigAnn.header? oneRowOpen.bytes = some (1, 1) := by
    rw [BigAnn.header?, toList_eq_data]
    rfl
  simp only [BigAnn.openEntry, Entry.bytes, hheader]
  rfl

theorem oneRow_opens :
    oneRow.openDataset ⟨"bigann", "q.u8bin", .query⟩ = pure (.ok oneRowOpen) :=
  openWith_file (fun _ => pure (.ok (.file oneRowOpen.bytes))) rfl oneRow_element rfl
    oneRow_entry

theorem wholeSetup_builds (w : World Unit) : ∃ after,
    QueryStep.ofConfig oneRow.noted wholeSetup w = (.ok wholeStep, after) := by
  have hopen : oneRow.noted.openDataset ⟨"bigann", "q.u8bin", .query⟩ w =
      (.ok oneRowOpen, ⟨(), w.events ++ [.opened ⟨"bigann", "q.u8bin", .query⟩ (.ok ())]⟩) := by
    simp only [Services.noted, noting, oneRow_opens]
    rfl
  refine ⟨⟨(), w.events ++ [.opened ⟨"bigann", "q.u8bin", .query⟩ (.ok ())] ++
    [.connected ⟨"localhost", 9200, 60⟩ (.ok ())]⟩, ?_⟩
  change (QueryStep.build oneRow.noted wholeSetup).run.run w = _
  unfold QueryStep.build
  simp only [run_bind_ok, run_mk_pure_ok, run_pure_ok, QueryStep.openAs, QueryStep.connectAs,
    run_mapError_ok]
  exact ⟨_, _, ⟨rfl, rfl⟩, _, _, hopen, _, _, ⟨rfl, rfl⟩, none, _, rfl, _, _, rfl, rfl, rfl⟩

theorem wholeSetup_runs (w : World Unit) : ∃ results left last,
    (Registry.builtin oneRow.noted).run [wholeSetup] w = ((.ok results, left), last) ∧
      last.searches = w.searches ++ [wholeStep.request [.ofByte 7]] := by
  obtain ⟨after, hbuilt⟩ := wholeSetup_builds w
  have hquiet := QueryStep.ofConfig_quiet oneRow wholeSetup w
  rw [hbuilt] at hquiet
  have hrun : (Registry.builtin oneRow.noted).run [wholeSetup] w =
      Registry.runSteps (m := StateM (World Unit)) [⟨wholeStep, .initialized⟩] after := by
    unfold Registry.run Registry.build
    rw [Registry.builtin_create, if_pos (show QueryStep.kindLabel = wholeSetup.stepName from rfl)]
    unfold QueryStep.construct
    simp only [state_bind, hbuilt]
    rfl
  have hrow : (oneRowOpen.bytes.extract 8 9).toList = [7] := by
    rw [toList_eq_data]
    rfl
  rw [hrun, ← hquiet]
  refine ⟨_, _, ⟨(), after.events ++ [.searched (wholeStep.request
    ((oneRowOpen.bytes.extract 8 9).toList.map Single.ofByte)) (.ok ⟨0, []⟩)]⟩, rfl, ?_⟩
  rw [hrow, World.searches, List.filterMap_append]
  rfl

theorem lateFault_run : ∃ left last,
    lateFault.run (Registry.builtin oneRow.noted) {} noMarks.aside ⟨(), []⟩ =
      ((.error (.step (.configuration (.missing "index_name" "query"))), left), last) ∧
    last.searches = [wholeStep.request [.ofByte 7]] := by
  obtain ⟨results, left, last, hsetup, hsearches⟩ := wholeSetup_runs ⟨(), []⟩
  have hsteps : (Registry.builtin oneRow.noted).run [⟨"query", [], []⟩] last =
      ((.error (.configuration (.missing "index_name" "query")), []), last) := rfl
  refine ⟨left ++ [], last, ?_, hsearches⟩
  have hconfigs : lateFault.configs {} = .ok ([wholeSetup], [⟨"query", [], []⟩]) := rfl
  rw [TestPlan.run_of_known hconfigs rfl]
  have hbegin : (lateFault.begin noMarks.aside ⟨(), []⟩).2 = (⟨(), []⟩ : World Unit) := rfl
  simp only [hbegin, Registry.runPlan_eq, hsetup]
  have hruns : (Registry.builtin oneRow.noted).runTimes [⟨"query", [], []⟩] lateFault.runs last =
      ((.error (.configuration (.missing "index_name" "query")), []), last) := by
    rw [show lateFault.runs = 0 + 1 from rfl, Registry.runTimes_succ, hsteps]
  have hroom : ¬roomFor Registry.runBytes < lateFault.runs := by decide
  rw [if_neg hroom, hruns]

theorem search_before_fault_is_reported :
    ¬∀ (plan : TestPlan) (fault : ConfigFault),
      (plan.run (Registry.builtin oneRow.noted) {} noMarks.aside ⟨(), []⟩).1.1 =
        .error (.step (.configuration fault)) →
      (plan.run (Registry.builtin oneRow.noted) {} noMarks.aside ⟨(), []⟩).2.searches = [] := by
  intro claim
  obtain ⟨left, last, hrun, hsearches⟩ := lateFault_run
  have hnone := claim lateFault (.missing "index_name" "query")
  rw [hrun, hsearches] at hnone
  cases hnone rfl

theorem lateFault_is_reported_after_setup :
    let registry := Registry.builtin oneRow.noted
    let ran := lateFault.run registry {} noMarks.aside ⟨(), []⟩
    ran.1.1 = .error (.step (.configuration (.missing "index_name" "query"))) ∧
      ∃ setup steps runs left last, lateFault.configs {} = .ok (setup, steps) ∧
        registry.runPlan setup steps 0 (lateFault.begin noMarks.aside ⟨(), []⟩).2 =
          ((.ok runs, left), last) ∧
        ran.2.searches = last.searches ∧ last.searches = [wholeStep.request [.ofByte 7]] := by
  intro registry ran
  obtain ⟨left, last, hrun, hsearches⟩ := lateFault_run
  have failed : ran.1.1 = .error (.step (.configuration (.missing "index_name" "query"))) :=
    congrArg (·.1.1) hrun
  have hsent : ran.2.searches = [wholeStep.request [.ofByte 7]] :=
    (congrArg (World.searches ·.2) hrun).trans hsearches
  refine ⟨failed, ?_⟩
  obtain ⟨hnone | ⟨setup, steps, n, runs, more, between, hconfigs, hn, hplan, -, hbetween⟩, -⟩ :=
    TestPlan.fault_is_reported_before_its_list_runs oneRow lateFault {} noMarks () _ failed
  · rw [hsent] at hnone
    cases hnone
  · obtain rfl : n = 0 := Nat.lt_one_iff.mp hn
    exact ⟨setup, steps, runs, more, between, hconfigs, hplan, hbetween, hbetween.symm.trans hsent⟩

end NeighborBench
