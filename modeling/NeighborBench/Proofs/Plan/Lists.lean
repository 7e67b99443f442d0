import NeighborBench.Proofs.Engine.Stopping
import NeighborBench.Proofs.Success

/-! # Which lists of steps a test runs -/

namespace NeighborBench

/-! ## Names and kinds -/

namespace TestPlan

/-- The kind of step that an entry names. -/
def kind? (entry : Fields) : Option String :=
  match Keyed.get? nameKey entry with
  | some (.string name) => some name
  | _ => none

/-- The place of the first entry that names no kind. -/
def FirstUnnamed (entries : List Fields) (i : Nat) : Prop :=
  ∃ earlier entry later, entries = earlier ++ entry :: later ∧ earlier.length = i ∧
    (∀ other ∈ earlier, (kind? other).isSome) ∧ kind? entry = none

/-- The steps are only looked at if all of the setup is named. -/
inductive MissingName (plan : TestPlan) : Part → Nat → Prop where
  | setup (i : Nat) (h : FirstUnnamed plan.setup i) : MissingName plan .setup i
  | steps (i : Nat) (setup : ∀ entry ∈ plan.setup, (kind? entry).isSome)
    (h : FirstUnnamed plan.steps i) : MissingName plan .steps i

/-- The kinds of all steps, the setup first, if each entry names one. -/
def kinds? (plan : TestPlan) : Option (List String) := (plan.setup ++ plan.steps).mapM kind?

theorem stepConfig_eq (implicit entry : Fields) :
    stepConfig implicit entry =
      (kind? entry).map (⟨·, Keyed.erase nameKey entry, implicit⟩) := by
  unfold stepConfig kind?
  cases Keyed.get? nameKey entry with
  | none => rfl
  | some value => cases value <;> rfl

theorem exists_mapM {α β : Type} {f : α → Option β} {entries : List α}
    (h : ∀ entry ∈ entries, (f entry).isSome) : ∃ found, entries.mapM f = some found := by
  induction entries with
  | nil => exact ⟨[], rfl⟩
  | cons entry rest ih =>
    obtain ⟨b, hb⟩ := Option.isSome_iff_exists.mp (h entry (List.mem_cons_self ..))
    obtain ⟨more, hmore⟩ := ih fun other hmem => h other (List.mem_cons_of_mem _ hmem)
    exact ⟨b :: more, mapM_cons_eq_some.mpr ⟨b, more, hb, hmore, rfl⟩⟩

theorem namedFrom_of_mapM (part : Part) {implicit : Fields} {entries : List Fields}
    {configs : List StepConfig} (named : entries.mapM (stepConfig implicit) = some configs)
    (i : Nat) : namedFrom part implicit i entries = .ok configs := by
  induction entries generalizing configs i with
  | nil =>
    cases named
    rfl
  | cons entry rest ih =>
    obtain ⟨config, more, hconfig, hmore, rfl⟩ := mapM_cons_eq_some.mp named
    rw [namedFrom, hconfig, ih hmore]
    rfl

theorem namedFrom_of_unnamed (part : Part) (implicit : Fields) {entries : List Fields} {k : Nat}
    (unnamed : FirstUnnamed entries k) (i : Nat) :
    namedFrom part implicit i entries = .error (.unnamed part (i + k)) := by
  obtain ⟨earlier, entry, later, rfl, rfl, hearlier, hentry⟩ := unnamed
  induction earlier generalizing i with
  | nil =>
    rw [List.nil_append, namedFrom, stepConfig_eq, hentry]
    rfl
  | cons first rest ih =>
    obtain ⟨kind, hkind⟩ := Option.isSome_iff_exists.mp (hearlier first (List.mem_cons_self ..))
    have hrest := ih (i + 1) fun other hmem => hearlier other (List.mem_cons_of_mem _ hmem)
    rw [List.cons_append, namedFrom, stepConfig_eq, hkind, hrest, List.length_cons,
      Nat.add_right_comm i 1, ← Nat.add_assoc]
    rfl

theorem configs_of_kinds (implicit : Fields) {entries : List Fields} {kinds : List String}
    (named : entries.mapM kind? = some kinds) :
    ∃ configs, entries.mapM (stepConfig implicit) = some configs ∧
      configs.map (·.stepName) = kinds := by
  induction entries generalizing kinds with
  | nil =>
    cases named
    exact ⟨[], rfl, rfl⟩
  | cons entry rest ih =>
    obtain ⟨kind, more, hkind, hmore, rfl⟩ := mapM_cons_eq_some.mp named
    obtain ⟨configs, hconfigs, rfl⟩ := ih hmore
    have hconfig := stepConfig_eq implicit entry
    rw [hkind] at hconfig
    exact ⟨_, mapM_cons_eq_some.mpr ⟨_, configs, hconfig, hconfigs, rfl⟩, rfl⟩

theorem unnamed_or_named (entries : List Fields) :
    (∃ i, FirstUnnamed entries i) ∨ ∀ entry ∈ entries, (kind? entry).isSome := by
  induction entries with
  | nil => exact .inr fun entry hmem => by cases hmem
  | cons entry rest ih =>
    rcases hkind : kind? entry with _ | kind
    · refine .inl ⟨0, [], entry, rest, rfl, rfl, fun other hmem => ?_, hkind⟩
      cases hmem
    have hsome : (kind? entry).isSome := by rw [hkind]; rfl
    rcases ih with ⟨_, earlier, other, later, rfl, rfl, hearlier, hother⟩ | hrest
    · refine .inl ⟨_, entry :: earlier, other, later, rfl, rfl, ?_, hother⟩
      simpa [hsome] using hearlier
    · right
      simpa [hsome] using hrest

theorem missing_or_named (plan : TestPlan) :
    (∃ part i, plan.MissingName part i) ∨ ∃ kinds, plan.kinds? = some kinds := by
  rcases unnamed_or_named plan.setup with ⟨i, h⟩ | hsetup
  · exact .inl ⟨.setup, i, .setup i h⟩
  rcases unnamed_or_named plan.steps with ⟨i, h⟩ | hsteps
  · exact .inl ⟨.steps, i, .steps i hsetup h⟩
  · refine .inr (exists_mapM fun entry hmem => ?_)
    rcases List.mem_append.mp hmem with hmem | hmem
    · exact hsetup entry hmem
    · exact hsteps entry hmem

theorem configs_of_named (plan : TestPlan) (environment : ConnectionDefaults)
    {kinds : List String} (named : plan.kinds? = some kinds) :
    ∃ setup steps, plan.setup.mapM (stepConfig (plan.implicit environment)) = some setup ∧
      plan.steps.mapM (stepConfig (plan.implicit environment)) = some steps ∧
      plan.configs environment = .ok (setup, steps) ∧
      (setup ++ steps).map (·.stepName) = kinds := by
  obtain ⟨configs, hconfigs, rfl⟩ := configs_of_kinds (plan.implicit environment) named
  rw [List.mapM_append] at hconfigs
  rcases hsetup : plan.setup.mapM (stepConfig (plan.implicit environment)) with _ | setup
  · rw [hsetup] at hconfigs
    cases hconfigs
  rcases hsteps : plan.steps.mapM (stepConfig (plan.implicit environment)) with _ | steps
  · rw [hsetup, hsteps] at hconfigs
    cases hconfigs
  rw [hsetup, hsteps] at hconfigs
  cases hconfigs
  refine ⟨setup, steps, rfl, rfl, ?_, rfl⟩
  unfold configs stepConfigs entries
  rw [namedFrom_of_mapM _ hsetup, namedFrom_of_mapM _ hsteps]
  rfl

theorem configs_of_missing (plan : TestPlan) (environment : ConnectionDefaults) {part : Part}
    {i : Nat} (missing : plan.MissingName part i) :
    plan.configs environment = .error (.plan (.unnamed part i)) := by
  unfold configs stepConfigs entries
  cases missing with
  | setup i h =>
    rw [namedFrom_of_unnamed _ _ h, Nat.zero_add]
    rfl
  | steps i setup h =>
    -- The setup has a name everywhere, so it is passed.
    obtain ⟨kinds, hkinds⟩ := exists_mapM setup
    obtain ⟨configs, hconfigs, -⟩ := configs_of_kinds (plan.implicit environment) hkinds
    rw [namedFrom_of_mapM _ hconfigs, namedFrom_of_unnamed _ _ h, Nat.zero_add]
    rfl

end TestPlan

/-- The first kind of a list that is not known. -/
def FirstUnknown (known : String → Bool) (kinds : List String) (kind : String) : Prop :=
  ∃ earlier later, kinds = earlier ++ kind :: later ∧ (∀ other ∈ earlier, known other = true) ∧
    known kind = false

theorem firstUnknown_iff {known : String → Bool} {kinds : List String} {kind : String} :
    FirstUnknown known kinds kind ↔ kinds.find? (!known ·) = some kind := by
  rw [List.find?_eq_some_iff_append]
  constructor
  · rintro ⟨earlier, later, hsplit, hearlier, hkind⟩
    exact ⟨by simp [hkind], earlier, later, hsplit, fun other hmem => by simp [hearlier other hmem]⟩
  · rintro ⟨hkind, earlier, later, hsplit, hearlier⟩
    exact ⟨earlier, later, hsplit, fun other hmem => by simpa using hearlier other hmem,
      by simpa using hkind⟩

theorem unknown_or_known (known : String → Bool) (kinds : List String) :
    (∃ kind, FirstUnknown known kinds kind) ∨ ∀ kind ∈ kinds, known kind = true := by
  rcases hfind : kinds.find? (!known ·) with _ | kind
  · right
    simpa [List.find?_eq_none] using hfind
  · exact .inl ⟨kind, firstUnknown_iff.mpr hfind⟩

namespace Registry

section

variable {m : Type → Type} {σ : Type}

theorem checkKinds_of_unknown (r : Registry m σ) {configs : List StepConfig} {kind : String}
    (unknown : FirstUnknown r.contains (configs.map (·.stepName)) kind) :
    r.checkKinds configs = .error (.configuration (.unknownKind kind)) := by
  rw [firstUnknown_iff, List.find?_map, Option.map_eq_some_iff] at unknown
  obtain ⟨config, hconfig, rfl⟩ := unknown
  change configs.find? (fun c => !r.contains c.stepName) = some config at hconfig
  unfold checkKinds
  rw [hconfig]

theorem checkKinds_of_known (r : Registry m σ) {configs : List StepConfig}
    (known : ∀ kind ∈ configs.map (·.stepName), r.contains kind = true) :
    r.checkKinds configs = .ok () := by
  have hfind : configs.find? (fun c => !r.contains c.stepName) = none := by
    rw [List.find?_eq_none]
    intro config hmem
    rw [known _ (List.mem_map_of_mem hmem)]
    decide
  unfold checkKinds
  rw [hfind]

end

end Registry

/-! ## Lists one after another -/

/-- Lists are run in order until one fails. The constructors of each list are called anew. -/
inductive ListsRun (known : String → Bool) : Nat → List (List StepConfig) → List StepEvent →
    Except StepError (List (List StepResult)) → Prop where
  | finished (first : Nat) : ListsRun known first [] [] (.ok [])
  | stopped (first : Nat) (configs : List StepConfig) (rest : List (List StepConfig))
    (events : List StepEvent) (e : StepError) (h : ListRun known first configs events (.error e)) :
    ListsRun known first (configs :: rest) events (.error e)
  | next (first : Nat) (configs : List StepConfig) (rest : List (List StepConfig))
    (events more : List StepEvent) (results : List StepResult)
    (outcome : Except StepError (List (List StepResult)))
    (h : ListRun known first configs events (.ok results))
    (hrest : ListsRun known (first + configs.length) rest more outcome) :
    ListsRun known first (configs :: rest) (events ++ more) (outcome.map (results :: ·))

theorem ListsRun.lengths {known : String → Bool} {first : Nat} {lists : List (List StepConfig)}
    {events : List StepEvent} {runs : List (List StepResult)}
    (h : ListsRun known first lists events (.ok runs)) :
    runs.map List.length = lists.map List.length := by
  generalize houtcome : Except.ok runs = outcome at h
  induction h generalizing runs with
  | finished first =>
    cases houtcome
    rfl
  | stopped first configs rest events e h => cases houtcome
  | next first configs rest events more results outcome h hrest ih =>
    cases outcome with
    | error e => cases houtcome
    | ok tail =>
      cases houtcome
      rw [List.map_cons, List.map_cons, (h.results_ran rfl).1, ih rfl]

namespace Registry

variable {ω σ : Type} [StepKind (StateM ω) σ]

theorem runTimes_noted (r : Registry (StateM ω) σ) (configs : List StepConfig) (n : Nat)
    (j : Journal ω) :
    ∃ outcome left outside calls events, r.noted.runTimes configs n j =
      ((outcome, left), ⟨outside, calls, j.events ++ events⟩) ∧
      ListsRun r.contains j.calls (List.replicate n configs) events outcome := by
  induction n generalizing j with
  | zero =>
    refine ⟨.ok [], [], j.outside, j.calls, [], ?_, .finished _⟩
    rw [List.append_nil]
    rfl
  | succ n ih =>
    obtain ⟨answer, left, outside, calls, events, hrun, h, hcalls⟩ := r.run_noted configs j
    rw [runTimes_succ, hrun]
    cases answer with
    | error e => exact ⟨_, _, _, _, _, rfl, .stopped _ _ _ _ e h⟩
    | ok results =>
      -- The other runs go on with the numbers that this one leaves.
      obtain ⟨outcome, more, last, after, later, hruns, hrest⟩ :=
        ih ⟨outside, calls, j.events ++ events⟩
      rw [hcalls results rfl] at hrest
      refine ⟨outcome.map (results :: ·), left ++ more, last, after, events ++ later, ?_,
        .next _ _ _ _ _ _ _ h hrest⟩
      simp only [hruns]
      rw [← List.append_assoc]

/-- An empty setup does nothing. -/
def before (setup : List StepConfig) : List (List StepConfig) :=
  if setup = [] then [] else [setup]

theorem setup_noted (r : Registry (StateM ω) σ) (setup : List StepConfig) (j : Journal ω) :
    ∃ answer left outside calls events,
      r.noted.run setup j = ((answer, left), ⟨outside, calls, j.events ++ events⟩) ∧
      (∀ e, answer = .error e →
        ∀ rest, ListsRun r.contains j.calls (before setup ++ rest) events (.error e)) ∧
      ∀ results, answer = .ok results →
        ∀ rest more outcome, ListsRun r.contains calls rest more outcome →
          ∃ all, ListsRun r.contains j.calls (before setup ++ rest) (events ++ more) all ∧
            outcome = all.map (·.drop (before setup).length) := by
  by_cases hempty : setup = []
  · -- No list stands for it, and its run does nothing.
    subst hempty
    refine ⟨.ok [], [], j.outside, j.calls, [], ?_, nofun, fun _ _ rest more outcome h => ?_⟩
    · rw [List.append_nil]
      rfl
    · refine ⟨outcome, h, ?_⟩
      cases outcome <;> rfl
  · have hbefore : before setup = [setup] := if_neg hempty
    obtain ⟨answer, left, outside, calls, events, hrun, h, hcalls⟩ := r.run_noted setup j
    refine ⟨answer, left, outside, calls, events, hrun, ?_, ?_⟩
    · rintro e rfl rest
      rw [hbefore]
      exact .stopped _ _ _ _ e h
    · rintro results rfl rest more outcome hrest
      rw [hcalls results rfl] at hrest
      rw [hbefore]
      refine ⟨_, .next _ _ _ _ _ _ _ h hrest, ?_⟩
      cases outcome <;> rfl

theorem runPlan_noted (r : Registry (StateM ω) σ) (setup steps : List StepConfig) (n : Nat)
    (j : Journal ω) :
    ∃ answer left outside calls events,
      r.noted.runPlan setup steps n j = ((answer, left), ⟨outside, calls, j.events ++ events⟩) ∧
      (n ≤ roomFor runBytes → ∃ all,
        ListsRun r.contains j.calls (before setup ++ List.replicate n steps) events all ∧
        answer = all.map (·.drop (before setup).length)) ∧
      (roomFor runBytes < n → ∃ all, ListsRun r.contains j.calls (before setup) events all ∧
        answer = all.bind fun _ => .error (.noRoom n)) := by
  obtain ⟨answer, left, outside, calls, events, hrun, hfailed, hok⟩ := r.setup_noted setup j
  rw [runPlan_eq, hrun]
  cases answer with
  | error e =>
    refine ⟨.error e, left, outside, calls, events, rfl, fun _ => ?_, fun _ => ?_⟩
    · exact ⟨.error e, hfailed e rfl _, rfl⟩
    · have hnone := hfailed e rfl []
      rw [List.append_nil] at hnone
      exact ⟨.error e, hnone, rfl⟩
  | ok results =>
    by_cases hroom : roomFor runBytes < n
    · -- The setup is all that runs.
      simp only [if_pos hroom]
      obtain ⟨all, hall, hdropped⟩ := hok results rfl [] [] _ (.finished calls)
      rw [List.append_nil, List.append_nil] at hall
      refine ⟨_, left, outside, calls, events, rfl, fun h => absurd h (Nat.not_le.mpr hroom),
        fun _ => ⟨all, hall, ?_⟩⟩
      cases all with
      | error e => cases hdropped
      | ok runs => rfl
    · obtain ⟨outcome, more, last, after, later, hruns, hrest⟩ :=
        r.runTimes_noted steps n ⟨outside, calls, j.events ++ events⟩
      simp only [if_neg hroom, hruns]
      obtain ⟨all, hall, rfl⟩ := hok results rfl _ _ _ hrest
      refine ⟨_, left ++ more, last, after, events ++ later, ?_, fun _ => ⟨all, hall, rfl⟩,
        fun h => absurd h hroom⟩
      rw [List.append_assoc]

end Registry

end NeighborBench
