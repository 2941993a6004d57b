import TaskCoordinator.Library.OrderStatistics

/-!
# Statistics of the client

`compute_stats`: the client threads leave one list of latencies each, and one pass over all
of them counts the samples, keeps their extrema and collects them for sorting.  The median
and the 95th percentile are read from the sorted samples.

Indices and counts are unsigned 64-bit numbers.  The average, the throughput and the sum
they need are left out: they are floating-point numbers for the terminal.
-/

namespace TaskCoordinator

open OrderStatistics

/-- The integer fields of `Stats`. -/
structure Stats where
  completed : UInt64 := 0
  maxLatencyUs : UInt64 := 0
  minLatencyUs : UInt64 := 0
  p50LatencyUs : UInt64 := 0
  p95LatencyUs : UInt64 := 0
  deriving DecidableEq, Repr

/-- The variables of the loop of `compute_stats`. -/
structure LatencySummary where
  completed : UInt64 := 0
  maxLatency : UInt64 := 0
  minLatency : UInt64 := UInt64.ofNat (2 ^ 64 - 1)
  cleanedLatencies : List UInt64 := []
  deriving DecidableEq, Repr

/-- One round of the inner loop. -/
def LatencySummary.add (summary : LatencySummary) (latency : UInt64) : LatencySummary where
  completed := summary.completed + 1
  maxLatency := max summary.maxLatency latency
  minLatency := min summary.minLatency latency
  cleanedLatencies := summary.cleanedLatencies ++ [latency]

/-- `compute_stats`.  There is no result when an index is out of range. -/
def computeStats (latencies : List (List UInt64)) : Option Stats :=
  let summary := latencies.foldl (fun summary row => row.foldl .add summary) ({} : LatencySummary)
  let sorted := summary.cleanedLatencies.mergeSort (· ≤ ·)
  let p50Index := summary.completed / 2
  let p95Index := summary.completed * 95 / 100
  if summary.completed > 0 then do
    let p50 ← sorted[p50Index.toNat]?
    let p95 ← sorted[p95Index.toNat]?
    some
      { completed := summary.completed
        minLatencyUs := summary.minLatency
        maxLatencyUs := summary.maxLatency
        p50LatencyUs := p50
        p95LatencyUs := p95 }
  else
    some { completed := summary.completed }

/-! ## What the statistics say about the samples -/

/-- The fields are the number of samples, their extrema, and the samples whose ranks are the
half and 95 hundredths of their number.  All of them are 0 when there is no sample. -/
structure Stats.Describes (stats : Stats) (samples : List UInt64) : Prop where
  completed : stats.completed.toNat = samples.length
  zero : samples = [] → stats = {}
  least : samples ≠ [] → IsLeast {x | x ∈ samples} stats.minLatencyUs
  greatest : samples ≠ [] → IsGreatest {x | x ∈ samples} stats.maxLatencyUs
  median : samples ≠ [] → ∀ sorted, Arranges sorted samples →
    sorted[samples.length / 2]? = some stats.p50LatencyUs
  percentile : samples ≠ [] → ∀ sorted, Arranges sorted samples →
    sorted[95 * samples.length / 100]? = some stats.p95LatencyUs

namespace Stats.Describes

variable {stats : Stats} {samples : List UInt64}

/-- The fields do not depend on the order of the samples. -/
theorem of_perm {other : List UInt64} (describes : stats.Describes samples)
    (perm : samples.Perm other) : stats.Describes other := by
  have members : {x | x ∈ other} = {x | x ∈ samples} := by
    ext x
    exact perm.mem_iff.symm
  have nonempty : other ≠ [] → samples ≠ [] := by
    intro present none
    exact present (List.perm_nil.mp (none ▸ perm.symm))
  constructor
  · rw [describes.completed, perm.length_eq]
  · intro none
    exact describes.zero (List.perm_nil.mp (none ▸ perm))
  · intro present
    rw [members]
    exact describes.least (nonempty present)
  · intro present
    rw [members]
    exact describes.greatest (nonempty present)
  · intro present sorted arranges
    rw [← perm.length_eq]
    exact describes.median (nonempty present) sorted (arranges.of_perm perm.symm)
  · intro present sorted arranges
    rw [← perm.length_eq]
    exact describes.percentile (nonempty present) sorted (arranges.of_perm perm.symm)

/-- The samples determine the fields. -/
theorem unique {other : Stats} (first : stats.Describes samples)
    (second : other.Describes samples) : stats = other := by
  by_cases none : samples = []
  · rw [first.zero none, second.zero none]
  · have arranges := arranges_mergeSort samples
    have count : stats.completed = other.completed :=
      UInt64.toNat_inj.mp (first.completed.trans second.completed.symm)
    have least := (first.least none).unique (second.least none)
    have greatest := (first.greatest none).unique (second.greatest none)
    have median := (first.median none _ arranges).symm.trans (second.median none _ arranges)
    have percentile :=
      (first.percentile none _ arranges).symm.trans (second.percentile none _ arranges)
    cases stats
    cases other
    simp_all

/-- The median lies between the extrema and below the 95th percentile. -/
theorem ordered (describes : stats.Describes samples) :
    stats.minLatencyUs ≤ stats.p50LatencyUs ∧ stats.p50LatencyUs ≤ stats.p95LatencyUs ∧
      stats.p95LatencyUs ≤ stats.maxLatencyUs := by
  by_cases none : samples = []
  · rw [describes.zero none]
    exact ⟨le_rfl, le_rfl, le_rfl⟩
  · have arranges := arranges_mergeSort samples
    have median := describes.median none _ arranges
    have percentile := describes.percentile none _ arranges
    have member : ∀ {rank : Nat} {x : UInt64},
        (samples.mergeSort (· ≤ ·))[rank]? = some x → x ∈ samples :=
      fun atRank => arranges.1.mem_iff.mp (List.mem_of_getElem? atRank)
    refine ⟨(describes.least none).2 (member median), ?_,
      (describes.greatest none).2 (member percentile)⟩
    exact arranges.le_of_rank_le (by omega) median percentile

/-- At least 95 hundredths of the samples are at most the 95th percentile. -/
theorem share (describes : stats.Describes samples) :
    95 * samples.length ≤ 100 * samples.countP (· ≤ stats.p95LatencyUs) := by
  by_cases none : samples = []
  · simp [none]
  · have arranges := arranges_mergeSort samples
    have counted := arranges.lt_countP (describes.percentile none _ arranges)
    omega

end Stats.Describes

/-! ## The pass over the samples -/

theorem LatencySummary.foldl_add (samples : List UInt64) (summary : LatencySummary) :
    samples.foldl .add summary =
      { completed := summary.completed + UInt64.ofNat samples.length
        maxLatency := samples.foldl max summary.maxLatency
        minLatency := samples.foldl min summary.minLatency
        cleanedLatencies := summary.cleanedLatencies ++ samples } := by
  induction samples generalizing summary with
  | nil => simp
  | cons latency rest ih =>
      rw [List.foldl_cons, ih]
      simp only [LatencySummary.add, List.length_cons, List.foldl_cons, List.append_assoc,
        List.singleton_append, UInt64.ofNat_add]
      congr 1
      rw [UInt64.add_assoc, UInt64.add_comm 1]
      rfl

/-- The pass over all rows, as one pass over all samples. -/
theorem LatencySummary.foldl_rows (latencies : List (List UInt64)) :
    latencies.foldl (fun summary row => row.foldl .add summary) ({} : LatencySummary) =
      { completed := UInt64.ofNat latencies.flatten.length
        maxLatency := latencies.flatten.foldl max 0
        minLatency := latencies.flatten.foldl min (UInt64.ofNat (2 ^ 64 - 1))
        cleanedLatencies := latencies.flatten } := by
  rw [← List.foldl_flatten, LatencySummary.foldl_add]
  simp

theorem UInt64.le_greatest (x : UInt64) : x ≤ UInt64.ofNat (2 ^ 64 - 1) := by
  rw [UInt64.le_iff_toNat_le, UInt64.toNat_ofNat_of_lt' (by decide)]
  exact Nat.le_sub_one_of_lt x.toNat_lt

/-- With fewer than 2 ^ 57 samples no count and no index wraps. -/
theorem index_toNat {count : Nat} (few : count < 2 ^ 57) :
    (UInt64.ofNat count).toNat = count ∧ (UInt64.ofNat count / 2).toNat = count / 2 ∧
      (UInt64.ofNat count * 95 / 100).toNat = 95 * count / 100 := by
  have exact : (UInt64.ofNat count).toNat = count := UInt64.toNat_ofNat_of_lt' (few.trans (by decide))
  have product : (UInt64.ofNat count * 95).toNat = 95 * count := by
    have numeral : UInt64.toNat 95 = 95 := rfl
    rw [UInt64.toNat_mul, exact, numeral, Nat.mul_comm]
    exact Nat.mod_eq_of_lt (by omega)
  refine ⟨exact, ?_, ?_⟩
  · rw [UInt64.toNat_div, exact]
    rfl
  · rw [UInt64.toNat_div, product]
    rfl

theorem computeStats_describes {latencies : List (List UInt64)}
    (few : latencies.flatten.length < 2 ^ 57) :
    ∃ stats, computeStats latencies = some stats ∧ stats.Describes latencies.flatten := by
  obtain ⟨count, half, share⟩ := index_toNat few
  unfold computeStats
  rw [LatencySummary.foldl_rows]
  generalize latencies.flatten = samples at few count half share ⊢
  by_cases none : samples = []
  · subst none
    exact ⟨{}, rfl, rfl, fun _ => rfl, absurd rfl, absurd rfl, absurd rfl, absurd rfl⟩
  · have positive : 0 < samples.length := List.length_pos_iff.mpr none
    have some : UInt64.ofNat samples.length > 0 := by
      rw [gt_iff_lt, UInt64.lt_iff_toNat_lt, count]
      exact positive
    have arranges := arranges_mergeSort samples
    have length := arranges.1.length_eq
    obtain ⟨p50, atP50⟩ : ∃ x, (samples.mergeSort (· ≤ ·))[samples.length / 2]? = .some x :=
      ⟨_, List.getElem?_eq_getElem (by omega)⟩
    obtain ⟨p95, atP95⟩ : ∃ x, (samples.mergeSort (· ≤ ·))[95 * samples.length / 100]? = .some x :=
      ⟨_, List.getElem?_eq_getElem (by omega)⟩
    simp only [if_pos some, half, share, atP50, atP95]
    refine ⟨_, rfl, count, fun empty => absurd empty none, fun _ => ?_, fun _ => ?_,
      fun _ sorted other => ?_, fun _ sorted other => ?_⟩
    · exact isLeast_foldl_min none fun x _ => UInt64.le_greatest x
    · exact isGreatest_foldl_max none fun x _ => UInt64.zero_le
    · rw [other.unique arranges]
      exact atP50
    · rw [other.unique arranges]
      exact atP95

/-- `compute_stats` reads valid indices and returns the order statistics of all samples, which
are ordered, bound the share of 95 hundredths, and do not change when samples are permuted or
move between clients. -/
theorem computeStats_orderStatistics (latencies : List (List UInt64))
    (few : latencies.flatten.length < 2 ^ 57) :
    ∃ stats, computeStats latencies = some stats ∧
      stats.Describes latencies.flatten ∧
      (stats.minLatencyUs ≤ stats.p50LatencyUs ∧ stats.p50LatencyUs ≤ stats.p95LatencyUs ∧
        stats.p95LatencyUs ≤ stats.maxLatencyUs) ∧
      95 * latencies.flatten.length ≤
        100 * latencies.flatten.countP (· ≤ stats.p95LatencyUs) ∧
      ∀ others : List (List UInt64), others.flatten.Perm latencies.flatten →
        computeStats others = some stats := by
  obtain ⟨stats, computed, describes⟩ := computeStats_describes few
  refine ⟨stats, computed, describes, describes.ordered, describes.share, ?_⟩
  intro others perm
  obtain ⟨otherStats, otherComputed, otherDescribes⟩ :=
    computeStats_describes (perm.length_eq.trans_lt few)
  rw [otherComputed, otherDescribes.unique (describes.of_perm perm.symm)]

/-- Three samples of two clients, and the same samples distributed otherwise. -/
theorem computeStats_of_three_samples :
    ∃ stats, computeStats [[2, 1], [3]] = some stats ∧ stats.completed.toNat = 3 ∧
      stats.p50LatencyUs = 2 ∧ stats.p95LatencyUs = 3 ∧
      computeStats [[], [3, 1, 2]] = some stats := by
  obtain ⟨stats, computed, describes, -, -, moved⟩ :=
    computeStats_orderStatistics [[2, 1], [3]] (by decide)
  have arranges : Arranges ([1, 2, 3] : List UInt64) [[2, 1], [3]].flatten :=
    ⟨by decide, by decide⟩
  have median := describes.median (by decide) _ arranges
  have percentile := describes.percentile (by decide) _ arranges
  exact ⟨stats, computed, describes.completed, (Option.some.inj median).symm,
    (Option.some.inj percentile).symm, moved _ (by decide)⟩

end TaskCoordinator
