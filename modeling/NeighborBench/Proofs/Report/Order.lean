import Mathlib.Data.List.Perm.Basic
import NeighborBench.Proofs.Report.Aggregation

/-! # Statistics in any order

The statistics of a series are those of its sorted values, and there is one way to sort values: the
order of doubles tells apart whatever bits tell apart. So the trials, and the runs that they are
pooled from, may come in any order.
-/

namespace NeighborBench

/-! ## The order of doubles -/

namespace Statistics

section

variable {α : Type} [Double α]

/-- The highest bit of a double is its sign. -/
def IsNegative (x : α) : Prop := 2 ^ 63 ≤ (Double.bits x).toNat

/-- The bits below the sign: an exponent and a fraction. -/
def magnitude (x : α) : Nat := (Double.bits x).toNat % 2 ^ 63

/-- The total order of doubles. Of two that are negative the greater magnitude comes first. -/
inductive Before (x y : α) : Prop where
  | negatives (hx : IsNegative x) (hy : IsNegative y) (lt : magnitude y < magnitude x)
  | signs (hx : IsNegative x) (hy : ¬IsNegative y)
  | positives (hx : ¬IsNegative x) (hy : ¬IsNegative y) (lt : magnitude x < magnitude y)

theorem place_of_negative {x : α} (h : IsNegative x) : place x = -1 - (magnitude x : Int) := by
  have hlt := (Double.bits x).toNat_lt
  unfold IsNegative at h
  simp only [place, magnitude]
  split <;> omega

theorem place_of_positive {x : α} (h : ¬IsNegative x) : place x = magnitude x := by
  unfold IsNegative at h
  simp only [place, magnitude]
  split <;> omega

theorem place_lt_iff (x y : α) : place x < place y ↔ Before x y := by
  by_cases hx : IsNegative x
  · rw [place_of_negative hx]
    by_cases hy : IsNegative y
    · rw [place_of_negative hy]
      constructor
      · exact fun h => .negatives hx hy (by omega)
      · rintro (⟨-, -, lt⟩ | ⟨-, hy'⟩ | ⟨hx', -, -⟩)
        · omega
        · exact absurd hy hy'
        · exact absurd hx hx'
    · rw [place_of_positive hy]
      exact iff_of_true (by omega) (.signs hx hy)
  · rw [place_of_positive hx]
    by_cases hy : IsNegative y
    · rw [place_of_negative hy]
      refine iff_of_false (by omega) ?_
      rintro (⟨hx', -, -⟩ | ⟨hx', -⟩ | ⟨-, hy', -⟩)
      · exact hx hx'
      · exact hx hx'
      · exact hy' hy
    · rw [place_of_positive hy]
      constructor
      · exact fun h => .positives hx hy (by omega)
      · rintro (⟨hx', -, -⟩ | ⟨hx', -⟩ | ⟨-, -, lt⟩)
        · exact absurd hx' hx
        · exact absurd hx' hx
        · omega

/-- The negative zero comes right before zero. -/
theorem zeros_adjacent {x y : α} (hx : Double.bits x = 0x8000_0000_0000_0000)
    (hy : Double.bits y = 0) : Before x y ∧ ∀ z, ¬(Before x z ∧ Before z y) := by
  have hplaceX : place x = -1 := by simp [place, hx]
  have hplaceY : place y = 0 := by simp [place, hy]
  simp only [← place_lt_iff, hplaceX, hplaceY]
  exact ⟨by decide, fun z => by omega⟩

/-- What is no number and not negative comes after all numbers and infinities. -/
theorem nan_last {x y : α} (hx : ¬IsNegative x) (nan : 0x7FF0_0000_0000_0000 < magnitude x)
    (hy : magnitude y ≤ 0x7FF0_0000_0000_0000) : Before y x := by
  by_cases hneg : IsNegative y
  · exact .signs hneg hx
  · exact .positives hneg hx (by omega)

theorem place_injective {x y : α} (h : place x = place y) : x = y := by
  apply Double.bits_injective
  apply UInt64.toNat_inj.mp
  have hx := (Double.bits x).toNat_lt
  have hy := (Double.bits y).toNat_lt
  simp only [place] at h
  split at h <;> split at h <;> omega

theorem sorted_perm (values : List α) : (sorted values).Perm values := List.mergeSort_perm _ _

theorem sorted_eq_nil_iff (values : List α) : sorted values = [] ↔ values = [] := by
  have hperm := sorted_perm values
  constructor
  · intro h
    rw [h] at hperm
    exact hperm.nil_eq.symm
  · rintro rfl
    exact hperm.eq_nil

def Ordered (values : List α) : Prop := values.Pairwise fun x y => place x ≤ place y

instance (values : List α) : Decidable (Ordered values) :=
  inferInstanceAs (Decidable (values.Pairwise _))

theorem Ordered.eq_of_perm {values others : List α} (h : Ordered values) (h' : Ordered others)
    (hperm : values.Perm others) : values = others := by
  refine hperm.eq_of_pairwise ?_ h h'
  intro x y _ _ hxy hyx
  exact place_injective (Int.le_antisymm hxy hyx)

theorem ordered_sorted (values : List α) : Ordered (sorted values) := by
  have hsorted : (sorted values).Pairwise fun x y => decide (place x ≤ place y) = true := by
    apply List.pairwise_mergeSort
    · simp only [decide_eq_true_eq]
      omega
    · simp only [Bool.or_eq_true, decide_eq_true_eq]
      omega
  exact hsorted.imp fun h => of_decide_eq_true h

theorem sorted_eq_of_perm {values others : List α} (h : values.Perm others) :
    sorted values = sorted others := by
  have hperm := ((sorted_perm values).trans h).trans (sorted_perm others).symm
  exact (ordered_sorted values).eq_of_perm (ordered_sorted others) hperm

end

/-! ## Percentiles -/

theorem rank_bounds (p : Float) (n : Nat) (h : 0 < n) : 1 ≤ rank p n ∧ rank p n ≤ n := by
  unfold rank
  omega

section

variable {α : Type}

theorem percentile_of_ne_nil {sorted : List α} (h : sorted ≠ []) (p : Float) :
    ∃ x ∈ sorted, percentile sorted p = some x := by
  have hbounds := rank_bounds p sorted.length (List.length_pos_iff.mpr h)
  have hlt : rank p sorted.length - 1 < sorted.length := by omega
  exact ⟨_, List.getElem_mem hlt, List.getElem?_eq_getElem hlt⟩

theorem percentile_eq_none_iff (sorted : List α) (p : Float) :
    percentile sorted p = none ↔ sorted = [] := by
  constructor
  · intro hnone
    by_contra h
    obtain ⟨x, -, hx⟩ := percentile_of_ne_nil h p
    rw [hnone] at hx
    cases hx
  · rintro rfl
    rfl

theorem mem_of_percentile {sorted : List α} {p : Float} {x : α} (h : percentile sorted p = some x) :
    x ∈ sorted :=
  List.mem_of_getElem? h

end

end Statistics

section

variable {α : Type} [Double α]

namespace SeriesStats

theorem ofValues_eq_of_perm {values others : List α} (h : values.Perm others) :
    ofValues values = ofValues others := by
  unfold ofValues
  rw [Statistics.sorted_eq_of_perm h]

theorem mean_eq_none_iff (values : List α) : (ofValues values).mean = none ↔ values = [] := by
  simp [ofValues, Statistics.sorted_eq_nil_iff]

/-- A percentile of values is one of them, unless there are none. -/
structure PercentileOf (values : List α) (x : Option α) : Prop where
  none_iff : x = none ↔ values = []
  mem : ∀ y, x = some y → y ∈ values

theorem percentileOf_sorted (values : List α) (p : Float) :
    PercentileOf values (Statistics.percentile (Statistics.sorted values) p) where
  none_iff := by rw [Statistics.percentile_eq_none_iff, Statistics.sorted_eq_nil_iff]
  mem _ h := (Statistics.sorted_perm values).mem_iff.mp (Statistics.mem_of_percentile h)

end SeriesStats

end

/-! ## Runs in another order -/

section

variable {α : Type}

inductive Measure.Reordered : Measure α → Measure α → Prop where
  | series {values others : List α} (h : values.Perm others) :
      Reordered (.series values) (.series others)
  | scalar (value : α) : Reordered (.scalar value) (.scalar value)

/-- The same measures, with the values of any series in another order. -/
structure StepResult.Reordered (result other : StepResult α) : Prop where
  label : result.label = other.label
  measures : List.Forall₂ (fun entry other => entry.1 = other.1 ∧ entry.2.Reordered other.2)
    result.measures other.measures

/-- The same runs in another order, with the values of any series in another order. -/
def Reordered (runs others : List (List (StepResult α))) : Prop :=
  ∃ moved, runs.Perm moved ∧ List.Forall₂ (List.Forall₂ StepResult.Reordered) moved others

def seriesNamed (name : String) (results : List (StepResult α)) : List (List α) :=
  (measuresNamed name results).filterMap Measure.series?

theorem rel_getElem? {R : α → α → Prop} {xs ys : List α} (h : List.Forall₂ R xs ys) (i : Nat) :
    Option.Rel R xs[i]? ys[i]? := by
  induction h generalizing i with
  | nil => exact .none
  | cons hhead htail ih =>
    cases i with
    | zero => exact .some hhead
    | succ i => exact ih i

theorem seriesNamed_of_forall₂ (name : String) {results others : List (StepResult α)}
    (h : List.Forall₂ StepResult.Reordered results others) :
    List.Forall₂ List.Perm (seriesNamed name results) (seriesNamed name others) := by
  refine List.rel_filterMap ?_ (List.rel_flatMap h ?_ :
    List.Forall₂ Measure.Reordered (measuresNamed name results) (measuresNamed name others))
  · intro measure other hmeasure
    cases hmeasure with
    | series hperm => exact .some hperm
    | scalar value => exact .none
  · intro result other hresult
    refine List.rel_filterMap ?_ hresult.measures
    rintro ⟨k, measure⟩ ⟨_, other⟩ ⟨rfl, hmeasure⟩
    by_cases hk : k = name
    · simpa [hk] using Option.Rel.some hmeasure
    · simp [hk]

theorem seriesNamed_perm (name : String) {results others : List (StepResult α)}
    (h : results.Perm others) : (seriesNamed name results).Perm (seriesNamed name others) :=
  (h.flatMap_right _).filterMap _

namespace StepSummary

def series? (s : StepSummary α) (name : String) : Option (SeriesStats α) :=
  match Keyed.get? name s.measures with
  | some (.series stats) => some stats
  | _ => none

theorem series?_ofResults [Double α] (config : StepConfig) (results : List (StepResult α))
    (name : String) :
    (ofResults config results).series? name =
      if seriesNamed name results = [] then none
      else some (SeriesStats.ofValues (seriesNamed name results).flatten) := by
  have hget : Keyed.get? name (ofResults config results).measures =
      (Keyed.get? name (collect results)).map MeasureSummary.ofMeasures :=
    Keyed.get?_map (fun _ => MeasureSummary.ofMeasures) name (collect results)
  rw [series?, hget, get?_collect]
  by_cases hnone : measuresNamed name results = []
  · simp [hnone, seriesNamed]
  by_cases hscalars : seriesNamed name results = []
  · rw [if_neg hnone, if_pos hscalars, Option.map_some,
      MeasureSummary.ofMeasures_of_scalars _ hnone hscalars]
  · rw [if_neg hnone, if_neg hscalars, Option.map_some,
      MeasureSummary.ofMeasures_of_series _ hscalars]
    rfl

theorem series?_eq_of_reordered [Double α] (config : StepConfig)
    {results moved others : List (StepResult α)} (hmoved : results.Perm moved)
    (h : List.Forall₂ StepResult.Reordered moved others) (name : String) :
    (ofResults config results).series? name = (ofResults config others).series? name := by
  have hruns := seriesNamed_perm name hmoved
  have htrials := seriesNamed_of_forall₂ name h
  have hnil : seriesNamed name results = [] ↔ seriesNamed name others = [] := by
    rw [← List.length_eq_zero_iff, ← List.length_eq_zero_iff, hruns.length_eq, htrials.length_eq]
  have hpooled : (seriesNamed name results).flatten.Perm (seriesNamed name others).flatten :=
    hruns.flatten.trans (List.Perm.flatten_congr htrials)
  rw [series?_ofResults, series?_ofResults, SeriesStats.ofValues_eq_of_perm hpooled]
  simp only [hnil]

end StepSummary

theorem results_of_reordered {runs others : List (List (StepResult α))}
    (h : Reordered runs others) (i : Nat) :
    ∃ moved, (runs.filterMap fun run => run[i]?).Perm moved ∧
      List.Forall₂ StepResult.Reordered moved (others.filterMap fun run => run[i]?) := by
  obtain ⟨moved, hperm, hruns⟩ := h
  exact ⟨_, hperm.filterMap _, List.rel_filterMap (fun _ _ hrun => rel_getElem? hrun i) hruns⟩

/-! ## Main statement -/

/-- Values in any order have the same statistics, to the bit. There are none of no values; otherwise
every percentile is one of the values, whatever percentile is asked for. Runs in any order, with the
values of any series in any order, have the same statistics of every series. -/
theorem series_statistics_ignore_order [Double α] :
    (∀ values others : List α, values.Perm others →
      SeriesStats.ofValues values = SeriesStats.ofValues others) ∧
    (∀ values : List α,
      let stats := SeriesStats.ofValues values
      stats.count = values.length ∧ (stats.mean = none ↔ values = []) ∧
        ∀ x ∈ [stats.p50, stats.p90, stats.p99], SeriesStats.PercentileOf values x) ∧
    (∀ (sorted : List α) (p : Float),
      SeriesStats.PercentileOf sorted (Statistics.percentile sorted p)) ∧
    ∀ (configs : List StepConfig) (runs others : List (List (StepResult α))),
      Reordered runs others → ∀ (i : Nat) (name : String),
        (summarize configs runs)[i]?.bind (·.series? name) =
          (summarize configs others)[i]?.bind (·.series? name) := by
  refine ⟨fun _ _ => SeriesStats.ofValues_eq_of_perm, fun values => ?_, fun sorted p => ?_, ?_⟩
  · refine ⟨SeriesStats.ofValues_count values, SeriesStats.mean_eq_none_iff values, ?_⟩
    simp only [List.forall_mem_cons]
    exact ⟨SeriesStats.percentileOf_sorted values 50, SeriesStats.percentileOf_sorted values 90,
      SeriesStats.percentileOf_sorted values 99, List.forall_mem_nil _⟩
  · exact ⟨Statistics.percentile_eq_none_iff sorted p, fun _ => Statistics.mem_of_percentile⟩
  · intro configs runs others h i name
    obtain ⟨moved, hperm, hresults⟩ := results_of_reordered h i
    simp only [summarize, List.getElem?_mapIdx]
    cases configs[i]? with
    | none => rfl
    | some config => exact StepSummary.series?_eq_of_reordered config hperm hresults name

end

/-- Doubles that are kept as their bits, so that there are many that are no number. -/
structure RawDouble where
  bits : UInt64
  deriving DecidableEq

instance : Double RawDouble where
  add x y := ⟨(Float.ofBits x.bits + Float.ofBits y.bits).toBits⟩
  div x y := ⟨(Float.ofBits x.bits / Float.ofBits y.bits).toBits⟩
  bits := RawDouble.bits
  bits_injective
    | ⟨_⟩, ⟨_⟩, rfl => rfl
  ofNat n := ⟨(Float.ofNat n).toBits⟩
  negativeZero := ⟨0x8000_0000_0000_0000⟩

/-- Two runs, with three different numbers that are none, both zeros and an infinity. -/
def strangeRuns : List (List (StepResult RawDouble)) :=
  [[⟨"query", [("took", .series [⟨0x7FF8_0000_0000_0001⟩, ⟨0x8000_0000_0000_0000⟩, ⟨0⟩])]⟩],
    [⟨"query", [("took", .series [⟨0xFFF8_0000_0000_0000⟩, ⟨0x7FF8_0000_0000_0000⟩,
      ⟨0x7FF0_0000_0000_0000⟩])]⟩]]

def strangeRunsMoved : List (List (StepResult RawDouble)) :=
  [[⟨"query", [("took", .series [⟨0x7FF0_0000_0000_0000⟩, ⟨0x7FF8_0000_0000_0000⟩,
      ⟨0xFFF8_0000_0000_0000⟩])]⟩],
    [⟨"query", [("took", .series [⟨0⟩, ⟨0x7FF8_0000_0000_0001⟩, ⟨0x8000_0000_0000_0000⟩])]⟩]]

/-- In both orders zero is the median: before it come a number that is none and the negative zero,
after it an infinity and two more that are none. -/
theorem strangeRuns_moved_alike :
    let steps : List StepConfig := [⟨"query", [], []⟩]
    Reordered strangeRuns strangeRunsMoved ∧
      (summarize steps strangeRuns)[0]?.bind (·.series? "took") =
        (summarize steps strangeRunsMoved)[0]?.bind (·.series? "took") ∧
      ((summarize steps strangeRuns)[0]?.bind (·.series? "took")).bind (·.p50) = some ⟨0⟩ := by
  intro steps
  obtain ⟨hvalues, -, -, hruns⟩ := series_statistics_ignore_order (α := RawDouble)
  have hreordered : Reordered strangeRuns strangeRunsMoved := by
    refine ⟨_, List.Perm.swap _ _ [], ?_⟩
    have hstep : ∀ values others : List RawDouble, values.Perm others →
        List.Forall₂ StepResult.Reordered [⟨"query", [("took", .series values)]⟩]
          [⟨"query", [("took", .series others)]⟩] :=
      fun values others h => .cons ⟨rfl, .cons ⟨rfl, .series h⟩ .nil⟩ .nil
    exact .cons (hstep _ _ (by decide)) (.cons (hstep _ _ (by decide)) .nil)
  refine ⟨hreordered, hruns steps _ _ hreordered 0 "took", ?_⟩
  let ordered : List RawDouble := [⟨0xFFF8_0000_0000_0000⟩, ⟨0x8000_0000_0000_0000⟩, ⟨0⟩,
    ⟨0x7FF0_0000_0000_0000⟩, ⟨0x7FF8_0000_0000_0000⟩, ⟨0x7FF8_0000_0000_0001⟩]
  have hsorted : Statistics.sorted ordered = ordered := List.mergeSort_of_pairwise (by decide)
  have hpooled := hvalues (seriesNamed "took" (strangeRuns.filterMap (·[0]?))).flatten ordered
    (by decide)
  change (SeriesStats.ofValues (seriesNamed "took" (strangeRuns.filterMap (·[0]?))).flatten).p50 = _
  rw [hpooled]
  unfold SeriesStats.ofValues
  rw [hsorted]
  change Statistics.percentile ordered 50 = some ⟨0⟩
  decide +kernel

end NeighborBench
