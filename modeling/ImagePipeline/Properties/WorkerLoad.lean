/-
The processor load of the workers of one kind: what a sweep finds for all their
containers together, beside what the analysis of the run finds for each.
-/

import ImagePipeline.Benchmark.DockerStats

namespace ImagePipeline.Properties.WorkerLoad

open Common Benchmark
open Library

def isOfKind (workerType container : Str) : Bool :=
  decide (str "worker-" ++ workerType <:+: container)

def markedRows (rows : List CsvRow) (workerType : Str) : List CsvRow :=
  rows.filter (fun row => isOfKind workerType (containerOf [] row))

/-- What the analysis finds for the containers of this kind. -/
def workerSummaries (workerType : Str) (summary : List (Str × ContainerSummary)) :
    List ContainerSummary :=
  (summary.filter (fun entry => isOfKind workerType entry.1)).map Prod.snd

/-- A value for the load that is there and no number, such as `--`. -/
def Refused (floats : FloatText) (row : CsvRow) : Prop :=
  ∃ text, row.lookup (str "cpu_percent") = some text ∧ text ≠ [] ∧ floats.floatOfStr text = none

section Load

variable {floats : FloatText}

def loaded (row : CsvRow) : Bool := (row.lookup (str "cpu_percent")).getD [] ≠ []

/-- `float(row["cpu_percent"])`. -/
def readLoad (floats : FloatText) (row : CsvRow) : Except Exn PyFloat := do
  floats.float (← row.item (str "cpu_percent"))

def loadOf (floats : FloatText) (row : CsvRow) : Option PyFloat :=
  match row.lookup (str "cpu_percent") with
  | none | some [] => none
  | some text => floats.floatOfStr text

theorem columnValues_loads (rows : List CsvRow) :
    columnValues floats rows (str "cpu_percent") = .ok (rows.filterMap (loadOf floats)) := by
  have each : ∀ row ∈ rows,
      toFloat floats (row.lookup (str "cpu_percent")) = .ok (loadOf floats row) := by
    intro row _
    unfold loadOf
    generalize row.lookup (str "cpu_percent") = value
    match value with
    | none => rfl
    | some [] => rfl
    | some (letter :: text) =>
        unfold toFloat FloatText.float
        dsimp only
        cases floats.floatOfStr (letter :: text) <;> rfl
  rw [columnValues, mapM_eq_map each]
  change Except.ok ((rows.map (loadOf floats)).filterMap id) = _
  rw [List.filterMap_map]
  rfl

theorem loadOf_unloaded {row : CsvRow} (absent : loaded row = false) :
    loadOf floats row = none := by
  have absent := not_not.mp (of_decide_eq_false absent)
  unfold loadOf
  cases found : row.lookup (str "cpu_percent") with
  | none => rfl
  | some text =>
      rw [found] at absent
      obtain rfl : text = [] := absent
      rfl

theorem float_loaded (floats : FloatText) {row : CsvRow} (there : loaded row = true) :
    (Refused floats row ∧ readLoad floats row = .error .valueError) ∨
    (¬ Refused floats row ∧ ∃ value, loadOf floats row = some value ∧
      readLoad floats row = .ok value) := by
  have there := of_decide_eq_true there
  unfold Refused loadOf readLoad CsvRow.item
  cases found : row.lookup (str "cpu_percent") with
  | none =>
      rw [found] at there
      exact absurd rfl there
  | some text =>
      rw [found] at there
      change text ≠ [] at there
      cases text with
      | nil => exact absurd rfl there
      | cons letter text =>
          cases read : floats.floatOfStr (letter :: text) with
          | none =>
              refine .inl ⟨⟨_, rfl, there, read⟩, ?_⟩
              change floats.float _ = _
              rw [FloatText.float, read]
          | some value =>
              refine .inr ⟨?_, value, read, ?_⟩
              · intro refusing
                obtain ⟨other, same, _, refused⟩ := refusing
                cases same
                rw [read] at refused
                cases refused
              · change floats.float _ = _
                rw [FloatText.float, read]

theorem not_refused_of_unloaded {row : CsvRow} (absent : loaded row = false) :
    ¬ Refused floats row := by
  intro ⟨text, found, nonblank, _⟩
  have absent := not_not.mp (of_decide_eq_false absent)
  rw [found] at absent
  exact nonblank absent

/-- While nothing is refused, passing over the blanks first changes nothing. -/
theorem cpuValues_read {rows : List CsvRow} (read : ∀ row ∈ rows, ¬ Refused floats row) :
    (rows.filter loaded).mapM (readLoad floats) =
      .ok (rows.filterMap (loadOf floats)) := by
  induction rows with
  | nil => rfl
  | cons row rest ih =>
      have later := ih fun other member => read other (List.mem_cons_of_mem _ member)
      cases there : loaded row with
      | false =>
          rw [List.filter_cons_of_neg (by simp [there]), later,
            List.filterMap_cons_none (loadOf_unloaded there)]
      | true =>
          rcases float_loaded floats there with ⟨refused, _⟩ | ⟨_, value, has, returned⟩
          · exact absurd refused (read row List.mem_cons_self)
          · rw [List.filter_cons_of_pos there, mapM_cons_ok returned, later,
              List.filterMap_cons_some has]
            rfl

theorem cpuValues_refused {rows : List CsvRow} (refused : ∃ row ∈ rows, Refused floats row) :
    (rows.filter loaded).mapM (readLoad floats) =
      .error .valueError := by
  induction rows with
  | nil =>
      obtain ⟨_, member, _⟩ := refused
      cases member
  | cons row rest ih =>
      have later (fine : ¬ Refused floats row) : ∃ other ∈ rest, Refused floats other := by
        obtain ⟨other, member, bad⟩ := refused
        rcases List.mem_cons.mp member with rfl | inRest
        · exact absurd bad fine
        · exact ⟨other, inRest, bad⟩
      cases there : loaded row with
      | false =>
          rw [List.filter_cons_of_neg (by simp [there])]
          exact ih (later (not_refused_of_unloaded there))
      | true =>
          rw [List.filter_cons_of_pos there]
          rcases float_loaded floats there with ⟨_, raised⟩ | ⟨fine, value, _, returned⟩
          · exact mapM_cons_error raised
          · rw [mapM_cons_ok returned, ih (later fine)]
            rfl

end Load

/-- A load as it is measured: finite and not negative. -/
def Measured (load : PyFloat) : Prop := ∃ exact : Rat, 0 ≤ exact ∧ load = .finite exact

/-- The load of a sweep is one of these containers: there is none if they have
none, and the one of a single container is its own. -/
structure Pooled (containers : List ContainerSummary) (cpu : WorkerCpu) : Prop where
  noAverage : cpu.average = none ↔ ∀ container ∈ containers, container.avgCpuPercent = none
  noMaximum : cpu.maximum = none ↔ ∀ container ∈ containers, container.maxCpuPercent = none
  single : ∀ container, containers = [container] →
    cpu = ⟨container.avgCpuPercent, container.maxCpuPercent⟩

/-- The maximum is the largest of the containers, the average between two of theirs. -/
structure Between (containers : List ContainerSummary) (cpu : WorkerCpu) : Prop where
  attained : ∀ maximum, cpu.maximum = some maximum →
    ∃ container ∈ containers, container.maxCpuPercent = some maximum
  largest : ∀ maximum, cpu.maximum = some maximum → ∀ container ∈ containers,
    ∀ other, container.maxCpuPercent = some other → other.le maximum = true
  lower : ∀ average, cpu.average = some average →
    ∃ container ∈ containers, ∃ other, container.avgCpuPercent = some other ∧
      other.le average = true
  upper : ∀ average, cpu.average = some average →
    ∃ container ∈ containers, ∃ other, container.avgCpuPercent = some other ∧
      average.le other = true

/-! ### The statistics of some loads -/

structure Statistics (loads : List PyFloat) (cpu : WorkerCpu) : Prop where
  average : statistic mean loads = .ok cpu.average
  maximum : statistic maxFloat loads = .ok cpu.maximum

def cpuOf (container : ContainerSummary) : WorkerCpu :=
  ⟨container.avgCpuPercent, container.maxCpuPercent⟩

theorem Measured.antisymm {left right : PyFloat} (measuredLeft : Measured left)
    (measuredRight : Measured right) (below : left.le right = true)
    (above : right.le left = true) : left = right := by
  obtain ⟨small, _, rfl⟩ := measuredLeft
  obtain ⟨large, _, rfl⟩ := measuredRight
  rw [PyFloat.le_finite, decide_eq_true_iff] at below above
  rw [le_antisymm below above]

theorem Measured.round_le {left right : PyFloat} (measuredLeft : Measured left)
    (measuredRight : Measured right) (ordered : left.le right = true) :
    (left.round 2).le (right.round 2) = true := by
  obtain ⟨small, above, rfl⟩ := measuredLeft
  obtain ⟨large, _, rfl⟩ := measuredRight
  rw [PyFloat.le_finite, decide_eq_true_iff] at ordered
  exact PyFloat.round_le above ordered 2

namespace Statistics

variable {loads : List PyFloat} {cpu : WorkerCpu}

theorem eq_none {compute : List PyFloat → Except Exn PyFloat} {value : Option PyFloat}
    (found : statistic compute loads = .ok value) : value = none ↔ loads = [] := by
  unfold statistic at found
  by_cases empty : loads = []
  · rw [if_pos empty] at found
    cases found
    simp [empty]
  · rw [if_neg empty] at found
    cases computed : compute loads with
    | error raised =>
        rw [computed] at found
        cases found
    | ok result =>
        rw [computed] at found
        cases found
        simp [empty]

theorem unique (statistics : Statistics loads cpu) {other : WorkerCpu}
    (others : Statistics loads other) : cpu = other := by
  obtain ⟨average, maximum⟩ := cpu
  obtain ⟨otherAverage, otherMaximum⟩ := other
  have sameAverage := Except.ok.inj (statistics.average.symm.trans others.average)
  have sameMaximum := Except.ok.inj (statistics.maximum.symm.trans others.maximum)
  rw [WorkerCpu.mk.injEq]
  exact ⟨sameAverage, sameMaximum⟩

theorem nan_not_mem (measured : ∀ load ∈ loads, Measured load) {load : PyFloat}
    (member : load ∈ loads) : load ≠ .nan := by
  rintro rfl
  obtain ⟨exact, _, same⟩ := measured _ member
  cases same

theorem average_eq (statistics : Statistics loads cpu)
    (measured : ∀ load ∈ loads, Measured load) {average : PyFloat}
    (found : cpu.average = some average) :
    average = (PyFloat.ofRat (Library.average (loads.map PyFloat.toRat))).round 2 := by
  have has : loads ≠ [] := fun empty => by
    rw [(eq_none statistics.average).mpr empty] at found
    cases found
  have finite (negative : Bool) : PyFloat.infinity negative ∉ loads := fun member => by
    obtain ⟨exact, _, same⟩ := measured _ member
    cases same
  have number : PyFloat.nan ∉ loads := fun member => nan_not_mem measured member rfl
  have computed := statistics.average
  unfold statistic mean at computed
  rw [if_neg has, if_neg has, if_neg (by simp [number, finite]), if_neg (finite true),
    if_neg (finite false), found] at computed
  cases computed
  rw [Library.average, List.length_map]

theorem maximum_eq (statistics : Statistics loads cpu)
    (measured : ∀ load ∈ loads, Measured load) {maximum : PyFloat}
    (found : cpu.maximum = some maximum) :
    ∃ load ∈ loads, maximum = load.round 2 ∧ ∀ other ∈ loads, other.le load = true := by
  cases loads with
  | nil =>
      rw [(eq_none statistics.maximum).mpr rfl] at found
      cases found
  | cons first rest =>
      have computed := statistics.maximum
      rw [found] at computed
      cases computed
      obtain ⟨member, above⟩ := PyFloat.maximum_spec fun value => nan_not_mem measured
      exact ⟨_, member, rfl, above⟩

theorem average_nonneg (measured : ∀ load ∈ loads, Measured load) :
    0 ≤ Library.average (loads.map PyFloat.toRat) := by
  apply div_nonneg _ (Nat.cast_nonneg _)
  apply List.sum_nonneg
  intro exact member
  obtain ⟨load, inside, rfl⟩ := List.mem_map.mp member
  obtain ⟨exact, above, rfl⟩ := measured load inside
  exact above

end Statistics

/-! ### All containers together -/

section Together

variable {containers : List (List PyFloat × ContainerSummary)} {loads : List PyFloat}
  {cpu : WorkerCpu}

/-- The loads are those of the containers, each with what is found for it. -/
structure Divided (containers : List (List PyFloat × ContainerSummary)) (loads : List PyFloat)
    (cpu : WorkerCpu) : Prop where
  together : (containers.flatMap Prod.fst).Perm loads
  each : ∀ container ∈ containers, Statistics container.1 (cpuOf container.2)
  all : Statistics loads cpu

namespace Divided

theorem empty_iff (divided : Divided containers loads cpu) :
    loads = [] ↔ ∀ container ∈ containers, container.1 = [] := by
  rw [← List.flatMap_eq_nil_iff]
  constructor
  · rintro rfl
    exact divided.together.eq_nil
  · intro empty
    exact (empty ▸ divided.together).symm.eq_nil

theorem load_mem (divided : Divided containers loads cpu)
    {container : List PyFloat × ContainerSummary} (inside : container ∈ containers)
    {load : PyFloat} (own : load ∈ container.1) : load ∈ loads :=
  divided.together.mem_iff.mp (List.mem_flatMap.mpr ⟨container, inside, own⟩)

theorem measured_of_mem (divided : Divided containers loads cpu)
    (measured : ∀ load ∈ loads, Measured load) {container : List PyFloat × ContainerSummary}
    (member : container ∈ containers) : ∀ load ∈ container.1, Measured load := fun load inside =>
  measured load (divided.load_mem member inside)

theorem attained (divided : Divided containers loads cpu)
    (measured : ∀ load ∈ loads, Measured load) {maximum : PyFloat}
    (found : cpu.maximum = some maximum) :
    ∃ container ∈ containers, container.2.maxCpuPercent = some maximum := by
  obtain ⟨load, member, rfl, above⟩ := divided.all.maximum_eq measured found
  obtain ⟨container, inside, own⟩ :=
    List.mem_flatMap.mp (divided.together.mem_iff.mpr member)
  have measuredOwn := divided.measured_of_mem measured inside
  obtain ⟨largest, some⟩ := Option.ne_none_iff_exists'.mp fun none =>
    List.ne_nil_of_mem own ((Statistics.eq_none (divided.each container inside).maximum).mp none)
  obtain ⟨other, among, same, below⟩ :=
    (divided.each container inside).maximum_eq measuredOwn some
  have equal : other = load := Measured.antisymm (measuredOwn other among)
    (measured load member)
    (above other (divided.load_mem inside among)) (below load own)
  refine ⟨container, inside, ?_⟩
  rw [← equal, ← same]
  exact some

theorem largest (divided : Divided containers loads cpu)
    (measured : ∀ load ∈ loads, Measured load) {maximum : PyFloat}
    (found : cpu.maximum = some maximum) {container : List PyFloat × ContainerSummary}
    (inside : container ∈ containers) {other : PyFloat}
    (has : container.2.maxCpuPercent = some other) : other.le maximum = true := by
  obtain ⟨load, member, rfl, above⟩ := divided.all.maximum_eq measured found
  have measuredOwn := divided.measured_of_mem measured inside
  obtain ⟨own, among, same, _⟩ := (divided.each container inside).maximum_eq measuredOwn has
  rw [same]
  exact Measured.round_le (measuredOwn own among) (measured load member)
    (above own (divided.load_mem inside among))

/-- The averages of two containers lie around the one of all. -/
theorem between (divided : Divided containers loads cpu)
    (measured : ∀ load ∈ loads, Measured load) {average : PyFloat}
    (found : cpu.average = some average) :
    (∃ container ∈ containers, ∃ other, container.2.avgCpuPercent = some other ∧
      other.le average = true) ∧
    ∃ container ∈ containers, ∃ other, container.2.avgCpuPercent = some other ∧
      average.le other = true := by
  let blocks := containers.map (fun container => container.1.map PyFloat.toRat)
  have joined : blocks.flatten = (containers.flatMap Prod.fst).map PyFloat.toRat := by
    rw [List.map_flatMap, List.flatMap_def]
  have together : blocks.flatten.Perm (loads.map PyFloat.toRat) :=
    joined ▸ divided.together.map PyFloat.toRat
  have has : blocks.flatten ≠ [] := by
    intro empty
    have none : loads = [] := List.map_eq_nil_iff.mp (empty ▸ together).nil_eq.symm
    rw [(Statistics.eq_none divided.all.average).mpr none] at found
    cases found
  have own {block : List Rat} (member : block ∈ blocks) (full : block ≠ []) :
      ∃ container ∈ containers, container.2.avgCpuPercent =
          some ((PyFloat.ofRat (Library.average block)).round 2) ∧
        0 ≤ Library.average block := by
    obtain ⟨container, inside, rfl⟩ := List.mem_map.mp member
    have measuredOwn := divided.measured_of_mem measured inside
    obtain ⟨other, some⟩ := Option.ne_none_iff_exists'.mp fun none =>
      full (List.map_eq_nil_iff.mpr
        ((Statistics.eq_none (divided.each container inside).average).mp none))
    refine ⟨container, inside, ?_, Statistics.average_nonneg measuredOwn⟩
    rw [← (divided.each container inside).average_eq measuredOwn some]
    exact some
  rw [divided.all.average_eq measured found, ← average_perm together]
  obtain ⟨⟨lower, inLower, fullLower, below⟩, upper, inUpper, fullUpper, above⟩ :=
    average_between has
  obtain ⟨first, inFirst, hasLower, nonneg⟩ := own inLower fullLower
  obtain ⟨second, inSecond, hasUpper, _⟩ := own inUpper fullUpper
  exact ⟨⟨first, inFirst, _, hasLower, PyFloat.round_ofRat_le nonneg below 2⟩,
    second, inSecond, _, hasUpper, PyFloat.round_ofRat_le (nonneg.trans below) above 2⟩

theorem pooled (divided : Divided containers loads cpu)
    (single : ∀ container, containers = [container] → container.1 = loads) :
    Pooled (containers.map Prod.snd) cpu := by
  constructor
  · rw [Statistics.eq_none divided.all.average, divided.empty_iff, List.forall_mem_map]
    exact forall₂_congr fun container inside =>
      (Statistics.eq_none (divided.each container inside).average).symm
  · rw [Statistics.eq_none divided.all.maximum, divided.empty_iff, List.forall_mem_map]
    exact forall₂_congr fun container inside =>
      (Statistics.eq_none (divided.each container inside).maximum).symm
  · intro summary only
    obtain ⟨container, alone, rfl⟩ := List.map_eq_singleton_iff.mp only
    have own := divided.each container (alone ▸ List.mem_cons_self)
    rw [single container alone] at own
    exact divided.all.unique own

theorem between_all (divided : Divided containers loads cpu)
    (measured : ∀ load ∈ loads, Measured load) : Between (containers.map Prod.snd) cpu where
  attained _ found := by
    obtain ⟨container, inside, same⟩ := divided.attained measured found
    exact ⟨_, List.mem_map_of_mem inside, same⟩
  largest _ found := List.forall_mem_map.mpr fun _ inside _ =>
    divided.largest measured found inside
  lower _ found := by
    obtain ⟨container, inside, same⟩ := (divided.between measured found).1
    exact ⟨_, List.mem_map_of_mem inside, same⟩
  upper _ found := by
    obtain ⟨container, inside, same⟩ := (divided.between measured found).2
    exact ⟨_, List.mem_map_of_mem inside, same⟩

end Divided

end Together

/-! ### The analysis and the sweep -/

section Analyses

variable {floats : FloatText}

theorem summarizeContainer_statistics (floats : FloatText) (rows : List CsvRow) :
    ∃ summary, summarizeContainer floats rows = .ok summary ∧
      Statistics (rows.filterMap (loadOf floats)) (cpuOf summary) := by
  obtain ⟨memoryValues, memory⟩ := columnValues_returns floats rows (str "memory_percent")
  have averages (values : List PyFloat) := statistic_returns (fun _ => mean_returns) values
  have maxima (values : List PyFloat) := statistic_returns (fun _ => maxFloat_returns) values
  obtain ⟨avgCpu, avgRead⟩ := averages (rows.filterMap (loadOf floats))
  obtain ⟨maxCpu, maxRead⟩ := maxima (rows.filterMap (loadOf floats))
  obtain ⟨avgMemory, avgMemoryRead⟩ := averages memoryValues
  obtain ⟨maxMemory, maxMemoryRead⟩ := maxima memoryValues
  refine ⟨⟨avgCpu, maxCpu, avgMemory, maxMemory,
    max (rows.filterMap (loadOf floats)).length memoryValues.length⟩, ?_, avgRead, maxRead⟩
  unfold summarizeContainer
  rw [columnValues_loads, memory]
  simp only [bind, Except.bind, avgRead, maxRead, avgMemoryRead, maxMemoryRead]
  rfl

theorem workerCpuMetrics_eq (floats : FloatText) (rows : List CsvRow) (workerType : Str) :
    workerCpuMetrics floats rows workerType = (do
      let values ← ((markedRows rows workerType).filter loaded).mapM (readLoad floats)
      let average ← statistic mean values
      let maximum ← statistic maxFloat values
      pure ⟨average, maximum⟩) := by
  unfold markedRows
  rw [List.filter_filter]
  refine congrArg (fun kept : List CsvRow => (do
    let values ← kept.mapM (readLoad floats)
    let average ← statistic mean values
    let maximum ← statistic maxFloat values
    pure (⟨average, maximum⟩ : WorkerCpu))) (List.filter_congr fun row _ => Bool.and_comm ..)

theorem workerCpuMetrics_statistics {rows : List CsvRow} {workerType : Str}
    (read : ∀ row ∈ markedRows rows workerType, ¬ Refused floats row) :
    ∃ cpu, workerCpuMetrics floats rows workerType = .ok cpu ∧
      Statistics ((markedRows rows workerType).filterMap (loadOf floats)) cpu := by
  obtain ⟨average, averageRead⟩ := statistic_returns (fun _ => mean_returns)
    ((markedRows rows workerType).filterMap (loadOf floats))
  obtain ⟨maximum, maximumRead⟩ := statistic_returns (fun _ => maxFloat_returns)
    ((markedRows rows workerType).filterMap (loadOf floats))
  refine ⟨⟨average, maximum⟩, ?_, averageRead, maximumRead⟩
  rw [workerCpuMetrics_eq, cpuValues_read read]
  simp only [bind, Except.bind, averageRead, maximumRead]
  rfl

theorem workerCpuMetrics_refused (floats : FloatText) (rows : List CsvRow) (workerType : Str) :
    workerCpuMetrics floats rows workerType = .error .valueError ↔
      ∃ row ∈ markedRows rows workerType, Refused floats row := by
  constructor
  · intro raised
    by_contra read
    obtain ⟨cpu, returned, _⟩ := @workerCpuMetrics_statistics floats rows workerType
      fun row member refused => read ⟨row, member, refused⟩
    rw [returned] at raised
    cases raised
  · intro refused
    rw [workerCpuMetrics_eq, cpuValues_refused refused]
    rfl

/-- A row without a name is of no kind, whatever stands for its name. -/
theorem isOfKind_default (workerType : Str) (row : CsvRow) :
    isOfKind workerType (containerOf (str "unknown") row) =
      isOfKind workerType (containerOf [] row) := by
  unfold containerOf
  cases row.lookup (str "container") with
  | some name => rfl
  | none =>
      have absent (name : Str) (dashless : codePoint '-' ∉ name) :
          isOfKind workerType name = false := by
        apply decide_eq_false
        intro found
        exact dashless (found.subset (List.mem_append_left _ (by decide)))
      rw [Option.getD_none, Option.getD_none, absent _ (by decide), absent _ (by decide)]

/-- What is found for each container of the kind divides what is found for all. -/
theorem summaries_divided (floats : FloatText) (rows : List CsvRow) (workerType : Str) :
    ∃ summary, summarizeDockerStats floats rows = .ok summary ∧
      ∃ containers : List (List PyFloat × ContainerSummary),
        workerSummaries workerType summary = containers.map Prod.snd ∧
        (containers.flatMap Prod.fst).Perm
          ((markedRows rows workerType).filterMap (loadOf floats)) ∧
        (∀ container ∈ containers, Statistics container.1 (cpuOf container.2)) ∧
        (∀ container, containers = [container] →
          container.1 = (markedRows rows workerType).filterMap (loadOf floats)) := by
  choose found summarized statistics using summarizeContainer_statistics floats
  let groups := groupBy (containerOf (str "unknown")) (markedRows rows workerType)
  have named : markedRows rows workerType =
      rows.filter (fun row => isOfKind workerType (containerOf (str "unknown") row)) :=
    List.filter_congr fun row _ => (isOfKind_default workerType row).symm
  have parts : (groups.flatMap Prod.snd).Perm (markedRows rows workerType) := groupBy_perm _ _
  refine ⟨_, mapM_eq_map (h := fun group => (group.1, found group.2)) fun group _ => ?_,
    groups.map (fun group => (group.2.filterMap (loadOf floats), found group.2)), ?_, ?_, ?_, ?_⟩
  · rw [summarized]
    rfl
  · change (((groupBy _ rows).map _).filter _).map Prod.snd = (groups.map _).map Prod.snd
    rw [List.filter_map, List.map_map, List.map_map]
    have kept := filter_groupBy (isOfKind workerType) (containerOf (str "unknown")) rows
    rw [← named] at kept
    exact congrArg (List.map (fun group => found group.2)) kept
  · have joined : (groups.map (fun group =>
        (group.2.filterMap (loadOf floats), found group.2))).flatMap Prod.fst =
          (groups.flatMap Prod.snd).filterMap (loadOf floats) := by
      rw [List.flatMap_map, List.filterMap_flatMap]
    rw [joined]
    exact parts.filterMap _
  · intro container member
    obtain ⟨group, _, rfl⟩ := List.mem_map.mp member
    exact statistics group.2
  · intro container only
    obtain ⟨group, single, rfl⟩ := List.map_eq_singleton_iff.mp only
    rw [single, List.flatMap_singleton] at parts
    have isFilter : group.2 = (markedRows rows workerType).filter
        (fun row => containerOf (str "unknown") row = group.1) :=
      (mem_groupBy.mp (single ▸ List.mem_cons_self : group ∈ groups)).1
    have whole : group.2 = markedRows rows workerType :=
      (isFilter ▸ List.filter_sublist).eq_of_length parts.length_eq
    rw [whole]

/-- The sweep fails on a load that is no number, which the analysis passes over. Else
it has one load for all containers of the kind: their own if there is one, and between
theirs if there are several. -/
theorem worker_cpu_metrics_exact (floats : FloatText) (rows : List CsvRow) (workerType : Str) :
    ∃ summary, summarizeDockerStats floats rows = .ok summary ∧
      (workerCpuMetrics floats rows workerType = .error .valueError ↔
        ∃ row ∈ markedRows rows workerType, Refused floats row) ∧
      ((∀ row ∈ markedRows rows workerType, ¬ Refused floats row) →
        ∃ cpu, workerCpuMetrics floats rows workerType = .ok cpu ∧
          Pooled (workerSummaries workerType summary) cpu ∧
          ((∀ row ∈ markedRows rows workerType, ∀ load, loadOf floats row = some load →
              Measured load) →
            Between (workerSummaries workerType summary) cpu)) := by
  obtain ⟨summary, summarized, containers, same, together, each, single⟩ :=
    summaries_divided floats rows workerType
  refine ⟨summary, summarized, workerCpuMetrics_refused floats rows workerType, fun read => ?_⟩
  obtain ⟨cpu, returned, all⟩ := workerCpuMetrics_statistics read
  have divided : Divided containers _ cpu := ⟨together, each, all⟩
  rw [same]
  refine ⟨cpu, returned, divided.pooled single, fun measured => divided.between_all ?_⟩
  intro load member
  obtain ⟨row, inside, read⟩ := List.mem_filterMap.mp member
  exact measured row inside load read

end Analyses

def tensFloats : FloatText :=
  { floatOfStr := fun text => if text = str "10.00" then some (.finite 10) else some (.finite 30)
    fixed := fun _ _ => [] }

/-- Two containers of the kind and one of none. -/
def tensRows : List CsvRow :=
  [[(str "container", str "docker-worker-heavy-1"), (str "cpu_percent", str "10.00")],
    [(str "container", str "docker-api-1"), (str "cpu_percent", str "30.00")],
    [(str "container", str "docker-worker-heavy-2"), (str "cpu_percent", str "30.00")]]

theorem two_containers_pooled :
    ∃ summary, summarizeDockerStats tensFloats tensRows = .ok summary ∧
      (workerSummaries (str "heavy") summary).map ContainerSummary.avgCpuPercent =
        [some (.finite 10), some (.finite 30)] ∧
      ∃ cpu, workerCpuMetrics tensFloats tensRows (str "heavy") = .ok cpu ∧
        cpu = ⟨some (.finite 20), some (.finite 30)⟩ ∧
        Between (workerSummaries (str "heavy") summary) cpu := by
  obtain ⟨summary, summarized, _, pooled⟩ :=
    worker_cpu_metrics_exact tensFloats tensRows (str "heavy")
  have numbers (text : Str) : ∃ load, tensFloats.floatOfStr text = some load ∧ Measured load := by
    by_cases ten : text = str "10.00"
    · exact ⟨.finite 10, if_pos ten, 10, by norm_num, rfl⟩
    · exact ⟨.finite 30, if_neg ten, 30, by norm_num, rfl⟩
  have fine (row : CsvRow) : ¬ Refused tensFloats row := by
    intro ⟨text, _, _, refused⟩
    obtain ⟨load, read, _⟩ := numbers text
    rw [read] at refused
    cases refused
  have measured (row : CsvRow) (load : PyFloat) (read : loadOf tensFloats row = some load) :
      Measured load := by
    unfold loadOf at read
    split at read
    · cases read
    · cases read
    · rename_i text _ _
      obtain ⟨other, same, finite⟩ := numbers text
      rw [same] at read
      cases read
      exact finite
  obtain ⟨cpu, returned, _, between⟩ := pooled fun row _ => fine row
  have computed : (workerCpuMetrics tensFloats tensRows (str "heavy")).toOption.map
      (fun cpu => (cpu.average, cpu.maximum)) = some (some (.finite 20), some (.finite 30)) := by
    decide +kernel
  have averages : (summarizeDockerStats tensFloats tensRows).toOption.map (fun summary =>
      (workerSummaries (str "heavy") summary).map ContainerSummary.avgCpuPercent) =
        some [some (.finite 10), some (.finite 30)] := by
    decide +kernel
  rw [returned] at computed
  rw [summarized] at averages
  obtain ⟨average, maximum⟩ := cpu
  cases Option.some.inj computed
  exact ⟨summary, summarized, Option.some.inj averages, _, returned, rfl,
    between fun row _ => measured row⟩

end ImagePipeline.Properties.WorkerLoad
