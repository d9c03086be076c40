/-
The summaries of the host samples against what the monitors write: blanks are
left out of the loads, but not out of the counters.
-/

import ImagePipeline.Benchmark.HostStats
import ImagePipeline.Library.Itemwise

namespace ImagePipeline.Properties.HostAnalysis

open Common Benchmark
open Library (groupBy mem_groupBy groupBy_distinct lookup_of_mem mapM_ok_iff mapM_map_ok
  bind_ok_iff exists_mem_of_mem_left exists_mapM_ok)

/-- Both counters are there. -/
def Counted (sample : HostSample) : Prop := sample.disk ≠ none ∧ sample.network ≠ none

def IsFirst (samples : List HostSample) (sample : HostSample) : Prop :=
  sample ∈ samples ∧ ∀ other ∈ samples, other.node = sample.node → sample.time ≤ other.time

def IsLast (samples : List HostSample) (sample : HostSample) : Prop :=
  sample ∈ samples ∧ ∀ other ∈ samples, other.node = sample.node → other.time ≤ sample.time

/-- The difference of two counters in doubles, which is exact up to 2^53. -/
def IsDelta (value : PyFloat) (first last : Nat) : Prop :=
  value = (PyFloat.ofRat last).sub (.ofRat first) ∧
    (first ≤ 2 ^ 53 → last ≤ 2 ^ 53 → value = .finite ((last : Rat) - first))

/-- The four deltas of a node are the counters of its last sample minus those of
its first one. -/
structure IsIoDelta (io : HostIo) (firstDisk lastDisk firstNetwork lastNetwork : Nat × Nat) :
    Prop where
  diskRead : IsDelta io.diskReadBytesDelta firstDisk.1 lastDisk.1
  diskWrite : IsDelta io.diskWriteBytesDelta firstDisk.2 lastDisk.2
  networkSent : IsDelta io.networkBytesSentDelta firstNetwork.1 lastNetwork.1
  networkRecv : IsDelta io.networkBytesRecvDelta firstNetwork.2 lastNetwork.2

/-- Nothing is raised, and the deltas of every node whose first and last samples
have the counters are right. -/
structure ReadsAll (floats : FloatText) (samples : List HostSample) (rows : List CsvRow) :
    Prop where
  stats : ∃ summary, summarizeHostStats floats rows = .ok summary
  byNode : ∃ summary, summarizeHostStatsByNode floats rows = .ok summary
  io : ∃ summary, summarizeHostIoByNode floats rows = .ok summary ∧
    ∀ first last firstDisk lastDisk firstNetwork lastNetwork,
      IsFirst samples first → IsLast samples last → first.node = last.node →
      first.disk = some firstDisk → last.disk = some lastDisk →
      first.network = some firstNetwork → last.network = some lastNetwork →
      ∃ io, summary.lookup first.node = some io ∧
        IsIoDelta io firstDisk lastDisk firstNetwork lastNetwork

/-- What Python does with the texts of the samples: a blank is no number, an
integer is read back as the nearest double, and the timestamps sort as texts in
the order of time. -/
structure Legible (clock : Clock) (floats : FloatText) (samples : List HostSample) : Prop where
  blank : floats.floatOfStr [] = none
  counters : ∀ sample ∈ samples, ∀ pair ∈ sample.disk.toList ++ sample.network.toList,
    floats.floatOfStr (natDigits pair.1) = some (.ofRat pair.1) ∧
    floats.floatOfStr (natDigits pair.2) = some (.ofRat pair.2)
  chronological : ∀ left ∈ samples, ∀ right ∈ samples,
    Str.le (clock.isoFormat left.time) (clock.isoFormat right.time) = true →
      left.time ≤ right.time

section Rows

variable {runtime : Runtime} {clock : Clock} {floats : FloatText} {samples : List HostSample}

theorem sortByTimestamp_cells (chosen : List HostSample) :
    ∃ sorted : List HostSample, sortByTimestamp (chosen.map (HostSample.cells runtime clock)) =
        .ok (sorted.map (HostSample.cells runtime clock)) ∧ sorted.Perm chosen ∧
      sorted.Pairwise (fun left right =>
        Str.le (clock.isoFormat left.time) (clock.isoFormat right.time) = true) := by
  let stamped (sample : HostSample) : Str × HostSample := (clock.isoFormat sample.time, sample)
  have arranged := sortFields_perm (chosen.map stamped)
  refine ⟨(sortFields (chosen.map stamped)).map Prod.snd, ?_, ?_, ?_⟩
  · have keyed : (chosen.map (HostSample.cells runtime clock)).mapM (fun row => do
        let timestamp ← row.item (str "timestamp")
        pure (timestamp, row)) =
        .ok (chosen.map (fun sample => (clock.isoFormat sample.time, sample.cells runtime clock))) :=
      mapM_map_ok fun sample _ => rfl
    have printed := sortFields_map (HostSample.cells runtime clock) (chosen.map stamped)
    rw [List.map_map] at printed
    unfold sortByTimestamp
    rw [keyed]
    change Except.ok ((sortFields (chosen.map _)).map Prod.snd) = _
    rw [show (chosen.map fun sample => (clock.isoFormat sample.time, sample.cells runtime clock)) =
      chosen.map ((fun field => (field.1, HostSample.cells runtime clock field.2)) ∘ stamped)
      from rfl, printed, List.map_map, List.map_map]
    rfl
  · have again := arranged.map Prod.snd
    rw [List.map_map] at again
    exact again.trans (.of_eq (List.map_id chosen))
  · rw [List.pairwise_map]
    have stamps : ∀ field ∈ sortFields (chosen.map stamped),
        field.1 = clock.isoFormat field.2.time := by
      intro field member
      obtain ⟨sample, _, same⟩ := List.mem_map.mp (arranged.mem_iff.mp member)
      rw [← same]
    refine (sortFields_sorted (chosen.map stamped)).imp_of_mem ?_
    intro left right atLeft atRight ordered
    rw [← stamps left atLeft, ← stamps right atRight]
    exact ordered

theorem hostIoOfNode_cells (runtime : Runtime) (clock : Clock) (floats : FloatText)
    {chosen : List HostSample} (some : chosen ≠ []) :
    ∃ first ∈ chosen, ∃ last ∈ chosen,
      (∀ other ∈ chosen, other ≠ first →
        Str.le (clock.isoFormat first.time) (clock.isoFormat other.time) = true) ∧
      (∀ other ∈ chosen, other ≠ last →
        Str.le (clock.isoFormat other.time) (clock.isoFormat last.time) = true) ∧
      hostIoOfNode floats (chosen.map (HostSample.cells runtime clock)) =
        hostIoBetween floats (first.cells runtime clock) (last.cells runtime clock) := by
  obtain ⟨sorted, sorts, arranged, ordered⟩ := sortByTimestamp_cells chosen
  cases sorted with
  | nil => exact absurd (List.nil_perm.mp arranged) some
  | cons first rest =>
      have nonempty : first :: rest ≠ [] := List.cons_ne_nil _ _
      refine ⟨first, arranged.mem_iff.mp List.mem_cons_self, (first :: rest).getLast nonempty,
        arranged.mem_iff.mp (List.getLast_mem _), ?_, ?_, ?_⟩
      · intro other member different
        have later := (List.mem_cons.mp (arranged.mem_iff.mpr member)).resolve_left different
        exact (List.pairwise_cons.mp ordered).1 other later
      · intro other member different
        have among := arranged.mem_iff.mpr member
        rw [← List.dropLast_append_getLast nonempty] at among ordered
        rcases List.mem_append.mp among with earlier | last
        · exact (List.pairwise_append.mp ordered).2.2 other earlier _ (List.mem_singleton_self _)
        · exact absurd (List.mem_singleton.mp last) different
      · unfold hostIoOfNode
        rw [sorts]
        change hostIoBetween floats (first.cells runtime clock)
          (((first :: rest).map (HostSample.cells runtime clock)).getLast _) = _
        rw [List.getLast_map]

theorem float_counter (blank : floats.floatOfStr [] = none) {pair : Option (Nat × Nat)}
    {part : Nat × Nat → Nat}
    (reads : ∀ counters ∈ pair.toList,
      floats.floatOfStr (natDigits (part counters)) = some (.ofRat (part counters)))
    {value : PyFloat} :
    floats.float (csvCell runtime (orBlank (fun counters => .int (part counters)) pair)) =
        .ok value ↔
      ∃ counters, pair = some counters ∧ value = .ofRat (part counters) := by
  cases pair with
  | none =>
      change floats.float [] = .ok value ↔ _
      unfold FloatText.float
      rw [blank]
      constructor
      · intro impossible
        cases impossible
      · intro ⟨_, impossible, _⟩
        cases impossible
  | some counters =>
      change floats.float (natDigits (part counters)) = .ok value ↔ _
      unfold FloatText.float
      rw [reads counters (by simp)]
      constructor
      · intro same
        cases same
        exact ⟨counters, rfl, rfl⟩
      · intro ⟨_, same, isValue⟩
        cases same
        rw [isValue]

def Delta (pair : HostSample → Option (Nat × Nat)) (part : Nat × Nat → Nat)
    (first last : HostSample) (value : PyFloat) : Prop :=
  ∃ atFirst atLast, pair first = some atFirst ∧ pair last = some atLast ∧
    value = (PyFloat.ofRat (part atLast)).sub (.ofRat (part atFirst))

theorem counterDelta_cells (blank : floats.floatOfStr [] = none)
    {pair : HostSample → Option (Nat × Nat)} {part : Nat × Nat → Nat} {key : Str}
    (cell : ∀ sample : HostSample, (sample.cells runtime clock).item key =
      .ok (csvCell runtime (orBlank (fun counters => .int (part counters)) (pair sample))))
    (reads : ∀ sample ∈ samples, ∀ counters ∈ (pair sample).toList,
      floats.floatOfStr (natDigits (part counters)) = some (.ofRat (part counters)))
    {first last : HostSample} (firstIn : first ∈ samples) (lastIn : last ∈ samples)
    {value : PyFloat} :
    counterDelta floats (first.cells runtime clock) (last.cells runtime clock) key = .ok value ↔
      Delta pair part first last value := by
  unfold counterDelta Delta
  simp only [bind_ok_iff, cell, Except.ok.injEq, exists_eq_left', pure, Except.pure,
    float_counter blank (reads first firstIn), float_counter blank (reads last lastIn)]
  constructor
  · rintro ⟨_, ⟨atLast, isLast, rfl⟩, _, ⟨atFirst, isFirst, rfl⟩, rfl⟩
    exact ⟨atFirst, atLast, isFirst, isLast, rfl⟩
  · intro ⟨atFirst, atLast, isFirst, isLast, same⟩
    exact ⟨_, ⟨atLast, isLast, rfl⟩, _, ⟨atFirst, isFirst, rfl⟩, same.symm⟩

theorem hostIoBetween_ok (legible : Legible clock floats samples) {first last : HostSample}
    (firstIn : first ∈ samples) (lastIn : last ∈ samples) {io : HostIo} :
    hostIoBetween floats (first.cells runtime clock) (last.cells runtime clock) = .ok io ↔
      Delta HostSample.disk Prod.fst first last io.diskReadBytesDelta ∧
      Delta HostSample.disk Prod.snd first last io.diskWriteBytesDelta ∧
      Delta HostSample.network Prod.fst first last io.networkBytesSentDelta ∧
      Delta HostSample.network Prod.snd first last io.networkBytesRecvDelta := by
  have onDisk (sample : HostSample) (member : sample ∈ samples) : ∀ pair ∈ sample.disk.toList,
      floats.floatOfStr (natDigits pair.1) = some (.ofRat pair.1) ∧
      floats.floatOfStr (natDigits pair.2) = some (.ofRat pair.2) :=
    fun pair there => legible.counters sample member pair (List.mem_append_left _ there)
  have onNetwork (sample : HostSample) (member : sample ∈ samples) :
      ∀ pair ∈ sample.network.toList,
        floats.floatOfStr (natDigits pair.1) = some (.ofRat pair.1) ∧
        floats.floatOfStr (natDigits pair.2) = some (.ofRat pair.2) :=
    fun pair there => legible.counters sample member pair (List.mem_append_right _ there)
  have diskRead (value : PyFloat) : counterDelta floats (first.cells runtime clock)
      (last.cells runtime clock) (str "disk_read_bytes") = .ok value ↔
        Delta HostSample.disk Prod.fst first last value :=
    counterDelta_cells legible.blank (fun _ => rfl)
      (fun sample member pair there => (onDisk sample member pair there).1) firstIn lastIn
  have diskWrite (value : PyFloat) : counterDelta floats (first.cells runtime clock)
      (last.cells runtime clock) (str "disk_write_bytes") = .ok value ↔
        Delta HostSample.disk Prod.snd first last value :=
    counterDelta_cells legible.blank (fun _ => rfl)
      (fun sample member pair there => (onDisk sample member pair there).2) firstIn lastIn
  have networkSent (value : PyFloat) : counterDelta floats (first.cells runtime clock)
      (last.cells runtime clock) (str "network_bytes_sent") = .ok value ↔
        Delta HostSample.network Prod.fst first last value :=
    counterDelta_cells legible.blank (fun _ => rfl)
      (fun sample member pair there => (onNetwork sample member pair there).1) firstIn lastIn
  have networkRecv (value : PyFloat) : counterDelta floats (first.cells runtime clock)
      (last.cells runtime clock) (str "network_bytes_recv") = .ok value ↔
        Delta HostSample.network Prod.snd first last value :=
    counterDelta_cells legible.blank (fun _ => rfl)
      (fun sample member pair there => (onNetwork sample member pair there).2) firstIn lastIn
  unfold hostIoBetween
  simp only [bind_ok_iff, diskRead, diskWrite, networkSent, networkRecv]
  constructor
  · intro ⟨read, isRead, write, isWrite, sent, isSent, recv, isRecv, same⟩
    cases same
    exact ⟨isRead, isWrite, isSent, isRecv⟩
  · intro ⟨isRead, isWrite, isSent, isRecv⟩
    exact ⟨_, isRead, _, isWrite, _, isSent, _, isRecv, rfl⟩

theorem hostIoBetween_returns_iff (legible : Legible clock floats samples)
    {first last : HostSample} (firstIn : first ∈ samples) (lastIn : last ∈ samples) :
    (∃ io, hostIoBetween floats (first.cells runtime clock) (last.cells runtime clock) = .ok io) ↔
      Counted first ∧ Counted last := by
  simp only [hostIoBetween_ok legible firstIn lastIn]
  unfold Counted
  simp only [Option.ne_none_iff_exists']
  constructor
  · intro ⟨io, ⟨firstDisk, lastDisk, atFirst, atLast, _⟩, _,
      ⟨firstNetwork, lastNetwork, onFirst, onLast, _⟩, _⟩
    exact ⟨⟨⟨firstDisk, atFirst⟩, firstNetwork, onFirst⟩, ⟨lastDisk, atLast⟩, lastNetwork, onLast⟩
  · intro ⟨⟨⟨firstDisk, atFirst⟩, firstNetwork, onFirst⟩, ⟨lastDisk, atLast⟩, lastNetwork, onLast⟩
    exact ⟨⟨_, _, _, _⟩, ⟨firstDisk, lastDisk, atFirst, atLast, rfl⟩,
      ⟨firstDisk, lastDisk, atFirst, atLast, rfl⟩,
      ⟨firstNetwork, lastNetwork, onFirst, onLast, rfl⟩,
      firstNetwork, lastNetwork, onFirst, onLast, rfl⟩

theorem Delta.isDelta {pair : HostSample → Option (Nat × Nat)} {part : Nat × Nat → Nat}
    {first last : HostSample} {value : PyFloat} (delta : Delta pair part first last value)
    {atFirst atLast : Nat × Nat} (isFirst : pair first = some atFirst)
    (isLast : pair last = some atLast) : IsDelta value (part atFirst) (part atLast) := by
  obtain ⟨other, another, sameFirst, sameLast, rfl⟩ := delta
  obtain rfl := Option.some.inj (isFirst.symm.trans sameFirst)
  obtain rfl := Option.some.inj (isLast.symm.trans sameLast)
  exact ⟨rfl, fun boundedFirst boundedLast => PyFloat.sub_natCast boundedLast boundedFirst⟩

/-- The samples of a node are known apart by their instants. -/
theorem eq_of_node_of_time
    (distinct : samples.Pairwise (fun left right => left.node = right.node → left.time ≠ right.time))
    {left right : HostSample} (leftIn : left ∈ samples) (rightIn : right ∈ samples)
    (sameNode : left.node = right.node) (sameTime : left.time = right.time) : left = right := by
  have symmetric : Std.Symm (fun left right : HostSample =>
      left.node = right.node → left.time ≠ right.time) :=
    ⟨fun _ _ apart same => (apart same.symm).symm⟩
  by_contra different
  exact distinct.forall leftIn rightIn different sameNode sameTime

theorem IsFirst.eq
    (distinct : samples.Pairwise (fun left right => left.node = right.node → left.time ≠ right.time))
    {first other : HostSample} (isFirst : IsFirst samples first) (otherFirst : IsFirst samples other)
    (same : first.node = other.node) : first = other :=
  eq_of_node_of_time distinct isFirst.1 otherFirst.1 same
    (le_antisymm (isFirst.2 other otherFirst.1 same.symm) (otherFirst.2 first isFirst.1 same))

theorem IsLast.eq
    (distinct : samples.Pairwise (fun left right => left.node = right.node → left.time ≠ right.time))
    {last other : HostSample} (isLast : IsLast samples last) (otherLast : IsLast samples other)
    (same : last.node = other.node) : last = other :=
  eq_of_node_of_time distinct isLast.1 otherLast.1 same
    (le_antisymm (otherLast.2 last isLast.1 same) (isLast.2 other otherLast.1 same.symm))

theorem mem_groupBy_cells {merged : List HostSample} {group : Str × List CsvRow} :
    group ∈ groupBy (fun row => (row.lookup (str "node")).getD (str "unknown"))
        (merged.map (HostSample.cells runtime clock)) ↔
      group.2 = (merged.filter (fun sample => sample.node = group.1)).map
        (HostSample.cells runtime clock) ∧
      merged.filter (fun sample => sample.node = group.1) ≠ [] := by
  rw [mem_groupBy, List.filter_map]
  constructor
  · intro ⟨rows, present⟩
    rw [rows] at present
    exact ⟨rows, fun empty => present (List.map_eq_nil_iff.mpr empty)⟩
  · intro ⟨rows, present⟩
    refine ⟨rows, ?_⟩
    rw [rows]
    exact fun empty => present (List.map_eq_nil_iff.mp empty)

theorem hostIoOfNode_first_last (runtime : Runtime) (legible : Legible clock floats samples)
    {merged : List HostSample} (permuted : merged.Perm samples) {node : Str}
    (some : merged.filter (fun sample => sample.node = node) ≠ []) :
    ∃ first last, IsFirst samples first ∧ IsLast samples last ∧ first.node = node ∧
      last.node = node ∧
      hostIoOfNode floats ((merged.filter (fun sample => sample.node = node)).map
          (HostSample.cells runtime clock)) =
        hostIoBetween floats (first.cells runtime clock) (last.cells runtime clock) := by
  have chosen (sample : HostSample) :
      sample ∈ merged.filter (fun sample => sample.node = node) ↔
        sample ∈ samples ∧ sample.node = node := by
    rw [List.mem_filter, permuted.mem_iff, decide_eq_true_iff]
  obtain ⟨first, atFirst, last, atLast, earliest, latest, between⟩ :=
    hostIoOfNode_cells runtime clock floats some
  obtain ⟨firstIn, firstNode⟩ := (chosen first).mp atFirst
  obtain ⟨lastIn, lastNode⟩ := (chosen last).mp atLast
  refine ⟨first, last, ⟨firstIn, ?_⟩, ⟨lastIn, ?_⟩, firstNode, lastNode, between⟩
  · intro other otherIn same
    by_cases equal : other = first
    · rw [equal]
    · exact legible.chronological first firstIn other otherIn
        (earliest other ((chosen other).mpr ⟨otherIn, same.trans firstNode⟩) equal)
  · intro other otherIn same
    by_cases equal : other = last
    · rw [equal]
    · exact legible.chronological other otherIn last lastIn
        (latest other ((chosen other).mpr ⟨otherIn, same.trans lastNode⟩) equal)

/-- The entry of a node, in whatever order the rows were merged. -/
theorem summarizeHostIoByNode_entry (legible : Legible clock floats samples)
    (distinct : samples.Pairwise (fun left right => left.node = right.node → left.time ≠ right.time))
    {merged : List HostSample} (permuted : merged.Perm samples) {summary : List (Str × HostIo)}
    (summarized : summarizeHostIoByNode floats
      (merged.map (HostSample.cells runtime clock)) = .ok summary)
    {first last : HostSample} (isFirst : IsFirst samples first) (isLast : IsLast samples last)
    (same : first.node = last.node) :
    ∃ io, summary.lookup first.node = some io ∧
      hostIoBetween floats (first.cells runtime clock) (last.cells runtime clock) = .ok io := by
  have itemwise := mapM_ok_iff.mp summarized
  have keys : (groupBy (fun row => (row.lookup (str "node")).getD (str "unknown"))
      (merged.map (HostSample.cells runtime clock))).map Prod.fst = summary.map Prod.fst := by
    apply Library.map_eq_of_forall₂ itemwise
    intro group _ entry _ computed
    obtain ⟨io, _, entered⟩ := bind_ok_iff.mp computed
    cases entered
    rfl
  have present : merged.filter (fun sample => sample.node = first.node) ≠ [] :=
    List.ne_nil_of_mem (List.mem_filter.mpr
      ⟨permuted.mem_iff.mpr isFirst.1, decide_eq_true rfl⟩)
  have grouped : (first.node, (merged.filter (fun sample => sample.node = first.node)).map
      (HostSample.cells runtime clock)) ∈ groupBy _ _ := mem_groupBy_cells.mpr ⟨rfl, present⟩
  obtain ⟨entry, entered, computed⟩ := exists_mem_of_mem_left itemwise grouped
  obtain ⟨io, ofNode, named⟩ := bind_ok_iff.mp computed
  cases named
  refine ⟨io, lookup_of_mem (keys ▸ groupBy_distinct _ _) entered, ?_⟩
  obtain ⟨earliest, latest, isEarliest, isLatest, firstNode, lastNode, between⟩ :=
    hostIoOfNode_first_last runtime legible permuted present
  rw [isFirst.eq distinct isEarliest firstNode.symm,
    isLast.eq distinct isLatest (same.symm.trans lastNode.symm), ← between]
  exact ofNode

theorem summarizeHostIoByNode_returns_iff (runtime : Runtime)
    (legible : Legible clock floats samples)
    (distinct : samples.Pairwise (fun left right => left.node = right.node → left.time ≠ right.time))
    {merged : List HostSample} (permuted : merged.Perm samples) :
    (∃ summary, summarizeHostIoByNode floats (merged.map (HostSample.cells runtime clock)) =
        .ok summary) ↔
      ∀ sample ∈ samples, IsFirst samples sample ∨ IsLast samples sample → Counted sample := by
  constructor
  · intro ⟨summary, summarized⟩ sample member extreme
    have present : merged.filter (fun other => other.node = sample.node) ≠ [] :=
      List.ne_nil_of_mem (List.mem_filter.mpr ⟨permuted.mem_iff.mpr member, decide_eq_true rfl⟩)
    obtain ⟨first, last, isFirst, isLast, firstNode, lastNode, _⟩ :=
      hostIoOfNode_first_last runtime legible permuted present
    obtain ⟨io, _, between⟩ := summarizeHostIoByNode_entry legible distinct permuted summarized
      isFirst isLast (firstNode.trans lastNode.symm)
    obtain ⟨firstCounted, lastCounted⟩ :=
      (hostIoBetween_returns_iff legible isFirst.1 isLast.1).mp ⟨io, between⟩
    rcases extreme with atFirst | atLast
    · rw [atFirst.eq distinct isFirst firstNode.symm]
      exact firstCounted
    · rw [atLast.eq distinct isLast lastNode.symm]
      exact lastCounted
  · intro counted
    apply exists_mapM_ok
    intro group member
    obtain ⟨rows, present⟩ := mem_groupBy_cells.mp member
    obtain ⟨first, last, isFirst, isLast, _, _, between⟩ :=
      hostIoOfNode_first_last runtime legible permuted present
    obtain ⟨io, computed⟩ := (hostIoBetween_returns_iff legible isFirst.1 isLast.1).mpr
      ⟨counted first isFirst.1 (.inl isFirst), counted last isLast.1 (.inr isLast)⟩
    rw [rows, between, computed]
    exact ⟨_, rfl⟩

end Rows

/-- Whatever the order of the rows, the analysis reads the samples if and only if
no counter is missing at the ends of a node. -/
theorem reads_all_iff {runtime : Runtime} {clock : Clock} {floats : FloatText}
    {samples : List HostSample} (legible : Legible clock floats samples)
    (distinct : samples.Pairwise
      (fun left right => left.node = right.node → left.time ≠ right.time)) :
    (∀ merged : List HostSample, merged.Perm samples →
      ReadsAll floats samples (merged.map (HostSample.cells runtime clock))) ↔
      ∀ sample ∈ samples, IsFirst samples sample ∨ IsLast samples sample → Counted sample := by
  constructor
  · intro reads
    obtain ⟨summary, summarized, _⟩ := (reads samples (.refl samples)).io
    exact (summarizeHostIoByNode_returns_iff runtime legible distinct (.refl samples)).mp
      ⟨summary, summarized⟩
  · intro counted merged permuted
    obtain ⟨summary, summarized⟩ :=
      (summarizeHostIoByNode_returns_iff runtime legible distinct permuted).mpr counted
    refine ⟨summarizeHostStats_returns floats _, summarizeHostStatsByNode_returns floats _,
      summary, summarized, ?_⟩
    intro first last firstDisk lastDisk firstNetwork lastNetwork isFirst isLast same
      atFirstDisk atLastDisk atFirstNetwork atLastNetwork
    obtain ⟨io, found, between⟩ := summarizeHostIoByNode_entry legible distinct permuted summarized
      isFirst isLast same
    obtain ⟨read, write, sent, recv⟩ :=
      (hostIoBetween_ok legible isFirst.1 isLast.1).mp between
    exact ⟨io, found, read.isDelta atFirstDisk atLastDisk, write.isDelta atFirstDisk atLastDisk,
      sent.isDelta atFirstNetwork atLastNetwork, recv.isDelta atFirstNetwork atLastNetwork⟩

/-! ### A monitor without disk counters -/

/-- Python's numbers on the counters below. -/
def counterFloats : FloatText :=
  { floatOfStr := fun text =>
      ((List.range 100).find? (fun count => natDigits count = text)).map (fun count => .ofRat count)
    fixed := fun _ _ => [] }

/-- Python's clock in the first ten seconds. -/
def secondsClock : Clock :=
  { fromIsoFormat := fun _ => none
    isoFormat := fun instant =>
      str "1970-01-01T00:00:0" ++ natDigits (instant / 1000000).toNat ++ str "+00:00"
    localOffset := fun _ => 0
    lower := fun text => text
    floatOfStr := fun _ => none }

def counterRuntime : Runtime :=
  { intOfStr := fun _ => none
    floatRepr := fun _ => str "0.0"
    sha256 := fun _ => [] }

def hostSample (time : Int) (node : String) (disk network : Option (Nat × Nat)) : HostSample :=
  { time := time
    node := str node
    cpuPercent := .finite 0
    memoryPercent := .finite 0
    memoryUsed := 0
    memoryTotal := 8
    load := none
    disk := disk
    network := network }

/-- On this machine `psutil.disk_io_counters()` is `None`. -/
def diskless : List HostSample := [hostSample 0 "main" none (some (10, 20))]

/-- The samples are blank for the disk, and the summary of the bytes raises a
`ValueError` on the blank. -/
theorem diskless_not_read :
    summarizeHostIoByNode counterFloats
      (diskless.map (HostSample.cells counterRuntime secondsClock)) = .error .valueError ∧
    ¬ ∀ merged : List HostSample, merged.Perm diskless → ReadsAll counterFloats diskless
      (merged.map (HostSample.cells counterRuntime secondsClock)) := by
  have raised : summarizeHostIoByNode counterFloats
      (diskless.map (HostSample.cells counterRuntime secondsClock)) = .error .valueError := rfl
  refine ⟨raised, ?_⟩
  intro reads
  obtain ⟨summary, summarized, _⟩ := (reads diskless (.refl diskless)).io
  rw [raised] at summarized
  cases summarized

/-- Two nodes, one of them without counters between its first and last sample. -/
def twoNodes : List HostSample :=
  [hostSample 0 "main" (some (1, 2)) (some (3, 4)),
    hostSample 0 "second" (some (5, 6)) (some (7, 8)),
    hostSample 2000000 "main" none none,
    hostSample 4000000 "main" (some (11, 22)) (some (33, 44))]

theorem twoNodes_legible : Legible secondsClock counterFloats twoNodes := by
  constructor <;> decide +kernel

theorem reads_all_iff_twoNodes : Legible secondsClock counterFloats twoNodes ∧
    ∀ merged : List HostSample, merged.Perm twoNodes → ReadsAll counterFloats twoNodes
      (merged.map (HostSample.cells counterRuntime secondsClock)) := by
  refine ⟨twoNodes_legible, (reads_all_iff twoNodes_legible (by decide +kernel)).mpr ?_⟩
  intro sample member extreme
  unfold Counted
  simp only [twoNodes, List.mem_cons, List.not_mem_nil, or_false] at member
  rcases member with rfl | rfl | rfl | rfl
  · decide +kernel
  · decide +kernel
  · -- the sample in the middle is neither the first nor the last of its node
    exfalso
    rcases extreme with isFirst | isLast
    · exact absurd (isFirst.2 (hostSample 0 "main" (some (1, 2)) (some (3, 4)))
        List.mem_cons_self rfl) (by decide)
    · exact absurd (isLast.2 (hostSample 4000000 "main" (some (11, 22)) (some (33, 44)))
        (by simp [twoNodes]) rfl) (by decide)
  · decide +kernel

end ImagePipeline.Properties.HostAnalysis
