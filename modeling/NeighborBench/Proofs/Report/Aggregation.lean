import Mathlib.Algebra.Ring.Nat
import NeighborBench.Proofs.Keyed
import NeighborBench.Report.Summary

/-! # What a summary is made of

The summary of a step speaks for the results at its place in the list, and for nothing else. Under
each name it has all values of that name, in the order of the runs.
-/

namespace NeighborBench

/-! ## Values collected under their keys -/

namespace Keyed

variable {α : Type _}

/-- The values that entries have under a key. -/
def valuesAt (key : String) (entries : List (String × α)) : List α :=
  entries.filterMap fun (k, v) => if k = key then some v else none

theorem valuesAt_cons (key k : String) (v : α) (entries : List (String × α)) :
    valuesAt key ((k, v) :: entries) =
      if k = key then v :: valuesAt key entries else valuesAt key entries := by
  by_cases hk : k = key <;> simp [valuesAt, hk]

theorem valuesAt_ne_nil_iff (key : String) (entries : List (String × α)) :
    valuesAt key entries ≠ [] ↔ key ∈ keys entries := by
  induction entries with
  | nil => simp [valuesAt, keys]
  | cons entry rest ih =>
    obtain ⟨k, v⟩ := entry
    rw [valuesAt_cons]
    by_cases hk : k = key
    · simp [hk, keys]
    · rw [if_neg hk, ih]
      simp [keys, Ne.symm hk]

theorem keys_collect (key : String) (value : α) (entries : List (String × List α)) :
    keys (collect key value entries) =
      if key ∈ keys entries then keys entries else keys entries ++ [key] := by
  induction entries with
  | nil => rfl
  | cons entry rest ih =>
    obtain ⟨k, vs⟩ := entry
    by_cases hk : k = key
    · simp [collect, keys, hk]
    · have hmem : key ∈ keys ((k, vs) :: rest) ↔ key ∈ keys rest := by simp [keys, Ne.symm hk]
      simp only [collect, if_neg hk, hmem]
      change k :: keys (collect key value rest) = _
      rw [ih]
      split <;> rfl

theorem get?_collect (key other : String) (value : α) (entries : List (String × List α)) :
    get? other (collect key value entries) =
      if key = other then some ((get? key entries).getD [] ++ [value])
      else get? other entries := by
  induction entries with
  | nil => simp [collect, get?]
  | cons entry rest ih =>
    obtain ⟨k, vs⟩ := entry
    by_cases hk : k = key
    · subst hk
      by_cases ho : k = other <;> simp [collect, get?, ho]
    · grind [collect, get?]

/-- All values under their keys. -/
def collected (entries : List (String × α)) (before : List (String × List α)) :
    List (String × List α) :=
  entries.foldl (fun all (key, value) => collect key value all) before

theorem collected_cons (k : String) (v : α) (entries : List (String × α))
    (before : List (String × List α)) :
    collected ((k, v) :: entries) before = collected entries (collect k v before) := rfl

theorem keys_collected (entries : List (String × α)) (before : List (String × List α)) :
    keys (collected entries before) =
      keys before ++ ((keys entries).filter (· ∉ keys before)).eraseDups := by
  induction entries generalizing before with
  | nil => simp [collected, keys]
  | cons entry rest ih =>
    obtain ⟨k, v⟩ := entry
    rw [collected_cons, ih, keys_collect]
    change _ = keys before ++ ((k :: keys rest).filter _).eraseDups
    by_cases hk : k ∈ keys before
    · simp [hk]
    · -- The first of its kind: all later ones are repeats of it.
      have hfilter : (keys rest).filter (· ∉ keys before ++ [k]) =
          ((keys rest).filter (· ∉ keys before)).filter fun other => !other == k := by
        rw [List.filter_filter]
        apply List.filter_congr
        intro other _
        by_cases ho : other = k <;> simp [ho]
      rw [if_neg hk, hfilter, List.filter_cons_of_pos (by simpa using hk), List.eraseDups_cons,
        List.append_assoc, List.singleton_append]

theorem keys_collected_nil (entries : List (String × α)) :
    keys (collected entries []) = (keys entries).eraseDups := by
  have hall : (keys entries).filter (· ∉ keys ([] : List (String × List α))) = keys entries :=
    List.filter_eq_self.mpr fun key _ => by simp [keys]
  rw [keys_collected, hall]
  rfl

theorem nodup_keys_collected (entries : List (String × α)) (before : List (String × List α))
    (distinct : (keys before).Nodup) : (keys (collected entries before)).Nodup := by
  induction entries generalizing before with
  | nil => exact distinct
  | cons entry rest ih =>
    obtain ⟨k, v⟩ := entry
    rw [collected_cons]
    apply ih
    rw [keys_collect]
    split
    · exact distinct
    · next hk => exact List.nodup_append.mpr ⟨distinct, by simp, by grind⟩

theorem get?_collected (key : String) (entries : List (String × α))
    (before : List (String × List α)) :
    (get? key (collected entries before)).getD [] =
      (get? key before).getD [] ++ valuesAt key entries := by
  induction entries generalizing before with
  | nil => simp [collected, valuesAt]
  | cons entry rest ih =>
    obtain ⟨k, v⟩ := entry
    rw [collected_cons, ih, get?_collect, valuesAt_cons]
    by_cases hk : k = key
    · subst hk
      simp
    · rw [if_neg hk, if_neg hk]

end Keyed

/-! ## Measures under one name -/

section

variable {α : Type}

namespace Measure

def series? : Measure α → Option (List α)
  | series values => some values
  | scalar _ => none

def scalar? : Measure α → Option α
  | series _ => none
  | scalar value => some value

end Measure

namespace MeasureSummary

theorem seriesOf_eq (measures : List (Measure α)) :
    seriesOf measures = measures.filterMap Measure.series? := by
  induction measures with
  | nil => rfl
  | cons measure rest ih =>
    cases measure with
    | series values => rw [seriesOf, ih, List.filterMap_cons_some (by rfl)]
    | scalar value => rw [seriesOf, ih, List.filterMap_cons_none (by rfl)]

theorem scalarsOf_eq (measures : List (Measure α)) :
    scalarsOf measures = measures.filterMap Measure.scalar? := by
  induction measures with
  | nil => rfl
  | cons measure rest ih =>
    cases measure with
    | series values => rw [scalarsOf, ih, List.filterMap_cons_none (by rfl)]
    | scalar value => rw [scalarsOf, ih, List.filterMap_cons_some (by rfl)]

theorem length_scalars (measures : List (Measure α)) (h : measures.filterMap Measure.series? = []) :
    (measures.filterMap Measure.scalar?).length = measures.length := by
  induction measures with
  | nil => rfl
  | cons measure rest ih =>
    cases measure with
    | series values => simp [Measure.series?] at h
    | scalar value => simpa [Measure.scalar?] using ih (by simpa [Measure.series?] using h)

theorem ofMeasures_of_series [Double α] (measures : List (Measure α))
    (h : measures.filterMap Measure.series? ≠ []) :
    ofMeasures measures =
      .series (SeriesStats.ofValues (measures.filterMap Measure.series?).flatten) := by
  rw [ofMeasures, seriesOf_eq]
  split
  · next hnone => exact absurd hnone h
  · rfl

theorem ofMeasures_of_scalars [Double α] (measures : List (Measure α)) (hne : measures ≠ [])
    (h : measures.filterMap Measure.series? = []) :
    ofMeasures measures =
      .scalar (Statistics.sum (measures.filterMap Measure.scalar?) /
        Double.ofNat (measures.filterMap Measure.scalar?).length) := by
  -- Scalars are divided by their own number: there is at least one of them.
  have hpos : 1 ≤ (measures.filterMap Measure.scalar?).length := by
    rw [length_scalars measures h]
    exact List.length_pos_iff.mpr hne
  rw [ofMeasures, seriesOf_eq, h, scalarsOf_eq]
  simp only [Nat.max_eq_right hpos]

end MeasureSummary

theorem SeriesStats.ofValues_count [Double α] (values : List α) :
    (SeriesStats.ofValues values).count = values.length :=
  List.length_mergeSort values

/-! ## Results at one place -/

/-- The measures that results have under a name, in the order of the results. -/
def measuresNamed (name : String) (results : List (StepResult α)) : List (Measure α) :=
  results.flatMap fun result => Keyed.valuesAt name result.measures

theorem mem_measuresNamed (name : String) (results : List (StepResult α)) (measure : Measure α) :
    measure ∈ measuresNamed name results ↔ ∃ result ∈ results, (name, measure) ∈ result.measures := by
  simp [measuresNamed, Keyed.valuesAt]

theorem series_named_iff (name : String) (results : List (StepResult α)) :
    (measuresNamed name results).filterMap Measure.series? ≠ [] ↔
      ∃ result ∈ results, ∃ values, (name, .series values) ∈ result.measures := by
  constructor
  · intro hne
    obtain ⟨values, h⟩ := List.exists_mem_of_ne_nil _ hne
    obtain ⟨measure, hmem, hseries⟩ := List.mem_filterMap.mp h
    cases measure with
    | scalar value => cases hseries
    | series values =>
      obtain ⟨result, hresult, h⟩ := (mem_measuresNamed name results _).mp hmem
      exact ⟨result, hresult, values, h⟩
  · rintro ⟨result, hresult, values, h⟩
    have hmem := (mem_measuresNamed name results _).mpr ⟨result, hresult, h⟩
    exact List.ne_nil_of_mem (List.mem_filterMap.mpr ⟨_, hmem, rfl⟩)

theorem measuresNamed_eq (name : String) (results : List (StepResult α)) :
    measuresNamed name results = Keyed.valuesAt name (results.flatMap (·.measures)) := by
  rw [measuresNamed, Keyed.valuesAt, List.filterMap_flatMap]
  rfl

namespace StepSummary

theorem collect_eq (results : List (StepResult α)) :
    collect results = Keyed.collected (results.flatMap (·.measures)) [] := rfl

theorem keys_collect (results : List (StepResult α)) :
    Keyed.keys (collect results) =
      (results.flatMap fun result => Keyed.keys result.measures).eraseDups := by
  rw [collect_eq, Keyed.keys_collected_nil, Keyed.keys, List.map_flatMap]
  rfl

theorem nodup_keys_collect (results : List (StepResult α)) : (Keyed.keys (collect results)).Nodup :=
  Keyed.nodup_keys_collected _ [] List.nodup_nil

theorem mem_keys_collect (name : String) (results : List (StepResult α)) :
    name ∈ Keyed.keys (collect results) ↔ measuresNamed name results ≠ [] := by
  rw [collect_eq, Keyed.keys_collected_nil, List.mem_eraseDups, measuresNamed_eq,
    Keyed.valuesAt_ne_nil_iff]

theorem get?_collect (name : String) (results : List (StepResult α)) :
    Keyed.get? name (collect results) =
      if measuresNamed name results = [] then none else some (measuresNamed name results) := by
  cases hget : Keyed.get? name (collect results) with
  | none =>
    rw [Keyed.get?_eq_none_iff, mem_keys_collect, not_not] at hget
    rw [if_pos hget]
  | some found =>
    have hmem : name ∈ Keyed.keys (collect results) := by
      by_contra habsent
      rw [(Keyed.get?_eq_none_iff name _).mpr habsent] at hget
      cases hget
    have hvalues := Keyed.get?_collected name (results.flatMap (·.measures)) []
    rw [← collect_eq, hget, ← measuresNamed_eq] at hvalues
    rw [if_neg ((mem_keys_collect name results).mp hmem)]
    exact congrArg some hvalues

theorem collect_found (name : String) (found : List (Measure α)) (results : List (StepResult α))
    (h : (name, found) ∈ collect results) : found = measuresNamed name results := by
  have hget := Keyed.get?_of_mem name found _ (nodup_keys_collect results) h
  rw [get?_collect] at hget
  split at hget
  · cases hget
  · exact (Option.some.inj hget).symm

theorem mem_measures_iff [Double α] (config : StepConfig) (results : List (StepResult α))
    (name : String) (summary : MeasureSummary α) :
    (name, summary) ∈ (ofResults config results).measures ↔
      measuresNamed name results ≠ [] ∧
        summary = MeasureSummary.ofMeasures (measuresNamed name results) := by
  constructor
  · intro h
    obtain ⟨⟨_, found⟩, hmem, heq⟩ := List.mem_map.mp h
    cases heq
    have hfound := collect_found name found results hmem
    refine ⟨?_, by rw [hfound]⟩
    rw [← mem_keys_collect]
    exact List.mem_map_of_mem (f := (·.1)) hmem
  · rintro ⟨hne, rfl⟩
    obtain ⟨⟨_, found⟩, hmem, rfl⟩ := List.mem_map.mp ((mem_keys_collect name results).mpr hne)
    rw [← collect_found _ found results hmem]
    exact List.mem_map_of_mem hmem

theorem keys_measures [Double α] (config : StepConfig) (results : List (StepResult α)) :
    Keyed.keys (ofResults config results).measures = Keyed.keys (collect results) := by
  simp [ofResults, Keyed.keys]

end StepSummary

end

/-- What a summary says of results: their last label, and each of their names once, in the order in
which the names first come. -/
structure SumsUp (config : StepConfig) (results : List StepResult) (summary : StepSummary) :
    Prop where
  unlabelled : results = [] → summary.label = config.stepName
  label : ∀ earlier last, results = earlier ++ [last] → summary.label = last.label
  configHash : summary.configHash = config.effective.fingerprint
  names : Keyed.keys summary.measures =
    (results.flatMap fun result => Keyed.keys result.measures).eraseDups
  distinct : (Keyed.keys summary.measures).Nodup
  /-- One series makes a series of the measure. -/
  series_iff : ∀ name, (∃ stats, (name, .series stats) ∈ summary.measures) ↔
    ∃ result ∈ results, ∃ values, (name, .series values) ∈ result.measures
  /-- All its series are one series, in the order of the results. -/
  series : ∀ name stats, (name, .series stats) ∈ summary.measures →
    let found := (measuresNamed name results).filterMap Measure.series?
    stats = SeriesStats.ofValues found.flatten ∧ stats.count = (found.map List.length).sum
  /-- The scalars are added up in the order of the results, from negative zero on, and divided by
  their number. There are some. -/
  scalar : ∀ name mean, (name, .scalar mean) ∈ summary.measures →
    let found := (measuresNamed name results).filterMap Measure.scalar?
    mean = found.foldl (fun total value => total + value) (-0.0) / Float.ofNat found.length ∧
      1 ≤ found.length

theorem sumsUp_ofResults (config : StepConfig) (results : List StepResult) :
    SumsUp config results (.ofResults config results) := by
  have hmem := StepSummary.mem_measures_iff config results
  constructor
  case unlabelled =>
    rintro rfl
    rfl
  case label =>
    rintro earlier last rfl
    simp [StepSummary.ofResults]
  case configHash => rfl
  case names => rw [StepSummary.keys_measures, StepSummary.keys_collect]
  case distinct =>
    rw [StepSummary.keys_measures]
    exact StepSummary.nodup_keys_collect results
  case series_iff =>
    intro name
    rw [← series_named_iff]
    constructor
    · rintro ⟨stats, h⟩ hnone
      obtain ⟨hne, hstats⟩ := (hmem _ _).mp h
      rw [MeasureSummary.ofMeasures_of_scalars _ hne hnone] at hstats
      cases hstats
    · intro hsome
      refine ⟨_, (hmem _ _).mpr ⟨?_, (MeasureSummary.ofMeasures_of_series _ hsome).symm⟩⟩
      intro hnil
      rw [hnil] at hsome
      exact hsome rfl
  case series =>
    intro name stats h found
    obtain ⟨hne, hstats⟩ := (hmem _ _).mp h
    by_cases hfound : found = []
    · rw [MeasureSummary.ofMeasures_of_scalars _ hne hfound] at hstats
      cases hstats
    · rw [MeasureSummary.ofMeasures_of_series _ hfound] at hstats
      cases hstats
      exact ⟨rfl, by rw [SeriesStats.ofValues_count, List.length_flatten]⟩
  case scalar =>
    intro name mean h found
    obtain ⟨hne, hmean⟩ := (hmem _ _).mp h
    by_cases hfound : (measuresNamed name results).filterMap Measure.series? = []
    · rw [MeasureSummary.ofMeasures_of_scalars _ hne hfound] at hmean
      cases hmean
      refine ⟨rfl, ?_⟩
      rw [MeasureSummary.length_scalars _ hfound]
      exact List.length_pos_iff.mpr hne
    · rw [MeasureSummary.ofMeasures_of_series _ hfound] at hmean
      cases hmean

theorem SumsUp.scalar_of_name {config : StepConfig} {results : List StepResult}
    {summary : StepSummary} (sums : SumsUp config results summary) (name : String)
    (hname : name ∈ Keyed.keys summary.measures)
    (hnone : ∀ result ∈ results, ∀ values, (name, .series values) ∉ result.measures) :
    ∃ mean, (name, .scalar mean) ∈ summary.measures := by
  obtain ⟨⟨_, measure⟩, hmem, rfl⟩ := List.mem_map.mp hname
  cases measure with
  | scalar mean => exact ⟨mean, hmem⟩
  | series stats =>
    obtain ⟨result, hresult, values, hvalues⟩ := (sums.series_iff _).mp ⟨stats, hmem⟩
    exact absurd hvalues (hnone result hresult values)

/-- A list of steps has one summary for each, in order. It sums up the results that the runs have at
the place of the step, whatever else the runs hold and however long they are. -/
theorem summarize_sums_up_each_place (configs : List StepConfig) (runs : List (List StepResult)) :
    (summarize configs runs).length = configs.length ∧
      ∀ (i : Nat) (config : StepConfig), configs[i]? = some config →
        ∃ summary, (summarize configs runs)[i]? = some summary ∧
          SumsUp config (runs.filterMap fun run => run[i]?) summary ∧
          ∀ others : List (List StepResult),
            (others.filterMap fun run => run[i]?) = (runs.filterMap fun run => run[i]?) →
            (summarize configs others)[i]? = some summary := by
  have hplace : ∀ (runs : List (List StepResult)) (i : Nat) (config : StepConfig),
      configs[i]? = some config →
      (summarize configs runs)[i]? = some (.ofResults config (runs.filterMap fun run => run[i]?)) := by
    intro runs i config h
    rw [summarize, List.getElem?_mapIdx, h]
    rfl
  refine ⟨List.length_mapIdx, fun i config h => ⟨_, hplace runs i config h, ?_, ?_⟩⟩
  · exact sumsUp_ofResults config _
  · intro others same
    rw [hplace others i config h, same]

/-- Three runs of two steps: the second is cut short, and the third is too long. The names come in
another order in it, and a scalar comes among the series. -/
def raggedRuns : List (List StepResult) :=
  [[⟨"a", [("took", .series [4, 2]), ("recall@K", .scalar 1)]⟩, ⟨"b", []⟩],
    [⟨"c", [("took", .scalar 7)]⟩],
    [⟨"d", [("recall@K", .scalar 0.5), ("took", .series [3]), ("extra", .scalar 2)]⟩, ⟨"e", []⟩,
      ⟨"f", []⟩]]

theorem raggedRuns_took :
    SeriesStats.ofValues [(4 : Float), 2, 3] = ⟨3, some 3, some 3, some 4, some 4⟩ := by
  have htwo : Statistics.place (2 : Float) ≤ Statistics.place (3 : Float) := by decide +kernel
  have hfour : ¬Statistics.place (4 : Float) ≤ Statistics.place (2 : Float) := by decide +kernel
  have hfour' : ¬Statistics.place (4 : Float) ≤ Statistics.place (3 : Float) := by decide +kernel
  have hsorted : Statistics.sorted [(4 : Float), 2, 3] = [2, 3, 4] := by
    simp [Statistics.sorted, List.mergeSort, List.MergeSort.Internal.splitInTwo, List.splitAt,
      List.splitAt.go, htwo, hfour, hfour']
  simp only [SeriesStats.ofValues, hsorted, SeriesStats.mk.injEq]
  decide +kernel

/-- The scalar that is called as the series are does not count. -/
theorem raggedRuns_summed_up :
    let steps : List StepConfig := [⟨"query", [], []⟩, ⟨"query", [], []⟩]
    steps[0]? = some ⟨"query", [], []⟩ ∧
      ∃ summary, (summarize steps raggedRuns)[0]? = some summary ∧
        summary.label = "d" ∧ Keyed.keys summary.measures = ["took", "recall@K", "extra"] ∧
        ("took", .series ⟨3, some 3, some 3, some 4, some 4⟩) ∈ summary.measures ∧
        ("recall@K", .scalar 0.75) ∈ summary.measures ∧
        ("extra", .scalar 2) ∈ summary.measures := by
  intro steps
  obtain ⟨-, hplaces⟩ := summarize_sums_up_each_place steps raggedRuns
  obtain ⟨summary, hsummary, sums, -⟩ := hplaces 0 ⟨"query", [], []⟩ rfl
  have hnames : Keyed.keys summary.measures = ["took", "recall@K", "extra"] := by
    rw [sums.names]
    decide
  refine ⟨rfl, summary, hsummary, sums.label [_, _] _ rfl, hnames, ?_, ?_, ?_⟩
  · obtain ⟨stats, hstats⟩ := (sums.series_iff "took").mpr
      ⟨_, List.Mem.head _, [4, 2], List.Mem.head _⟩
    have hvalue : stats = SeriesStats.ofValues [4, 2, 3] := (sums.series "took" stats hstats).1
    rwa [hvalue, raggedRuns_took] at hstats
  · obtain ⟨mean, hmean⟩ := sums.scalar_of_name "recall@K" (by rw [hnames]; decide)
      (by simp [raggedRuns])
    have hvalue : mean = (-0.0 + 1 + 0.5) / Float.ofNat 2 := (sums.scalar "recall@K" mean hmean).1
    rw [show (-0.0 + 1 + 0.5) / Float.ofNat 2 = (0.75 : Float) by decide +kernel] at hvalue
    rwa [hvalue] at hmean
  · obtain ⟨mean, hmean⟩ := sums.scalar_of_name "extra" (by rw [hnames]; decide)
      (by simp [raggedRuns])
    have hvalue : mean = (-0.0 + 2) / Float.ofNat 1 := (sums.scalar "extra" mean hmean).1
    rw [show (-0.0 + 2) / Float.ofNat 1 = (2 : Float) by decide +kernel] at hvalue
    rwa [hvalue] at hmean

end NeighborBench
