import CsiProvisioner.Capacity.Controller
import CsiProvisioner.Controller.Topology

/-!
Refreshing the work items of a topology (`refreshTopology` and `termToSegment` in
`pkg/capacity/capacity.go`, and the fixed segment of `main` in node-deployment mode).

After a volume is provisioned or deleted, the capacity controller queues the work items whose
segment is where the volume is accessible. It reads that from the volume's node affinity,
which `GenerateVolumeNodeAffinity` built from the driver's topology: each term becomes a
segment again, sorted, and is compared with the segment of every work item. The comparison is
entry by entry, so it finds the items whose segments are sorted the same way.
-/

namespace CsiProvisioner.Capacity

open Go Api CsiProvisioner.Capacity.Topology WorkQueue Controller.Topology

/-- `%v` of a slice of strings. -/
def formatValues (values : List String) : String := "[" ++ " ".intercalate values ++ "]"

/-- `%+v` of a node selector requirement. -/
def formatRequirement (r : NodeSelectorRequirement) : String :=
  "\x7bKey:" ++ r.key ++ " Operator:" ++ r.operator.format ++ " Values:" ++ formatValues r.values ++
    "\x7d"

/-- The loop of `termToSegment` over the match expressions, appending to `segment`. -/
def segmentOfExpressions : List NodeSelectorRequirement → Segment → Except String Segment
  | [], segment => .ok segment
  | match_ :: rest, segment =>
    if match_.operator ≠ .opIn then
      .error ("unexpected operator: " ++ match_.operator.format)
    else
      match match_.values with
      | [value] => segmentOfExpressions rest (segment.append ⟨match_.key, value⟩)
      | values => .error ("need exactly one label value, got: " ++ formatValues values)

/-- `termToSegment`: the sorted segment of a node selector term. -/
def termToSegment (term : NodeSelectorTerm) : Except String Segment :=
  if term.matchFields.toList.length > 0 then
    .error ("MatchFields not empty: " ++
      formatValues (term.matchFields.toList.map formatRequirement))
  else (segmentOfExpressions term.matchExpressions.toList none).map Segment.sort

/-- The work items `refreshTopology` queues, for the map's keys visited in the order `order`:
for each term of the required node selector, those whose segment compares equal to it. -/
def topologyMatches (nodeAffinity : VolumeNodeAffinity) (order : List WorkItem) :
    List WorkItem :=
  match nodeAffinity.required with
  | some ⟨some terms⟩ =>
    terms.flatMap fun term =>
      match termToSegment term with
      | .ok segment => order.filter fun item => item.segment.segment.Compare segment == .eq
      | .error _ => []
  -- a node affinity without terms is skipped
  | _ => []

def refreshTopology (c : Controller) (nodeAffinity : VolumeNodeAffinity) (order : List WorkItem) :
    Controller :=
  { c with
    queue := (topologyMatches nodeAffinity order).foldl
      (fun q item => q.add (.item item)) c.queue }

/-- The segment `main` builds in node-deployment mode from the topology that `NodeGetInfo`
reported, its pairs in the order the map loop visits them: nil without pairs. -/
def fixedSegment (accessibleTopology : Option (List (String × String))) : Segment :=
  match accessibleTopology with
  | some segments => segments.foldl (fun segment (k, v) => segment.append ⟨k, v⟩) none
  | none => none

def toEntries (segments : List (String × String)) : List SegmentEntry :=
  segments.map fun (k, v) => ⟨k, v⟩

/-! ### From a topology to a segment and back -/

lemma foldl_append_entries (segments : List (String × String)) (segment : Segment) :
    segments.foldl (fun segment (k, v) => segment.append ⟨k, v⟩) segment =
      if segments = [] then segment else some (segment.toList ++ toEntries segments) := by
  induction segments generalizing segment with
  | nil => simp
  | cons kv rest ih =>
    rw [List.foldl_cons, ih, if_neg (List.cons_ne_nil kv rest)]
    by_cases hrest : rest = []
    · simp [hrest, toEntries, Slice.append]
    · simp [hrest, toEntries, Slice.append]

lemma fixedSegment_some {segments : List (String × String)} (h : segments ≠ []) :
    fixedSegment (some segments) = some (toEntries segments) := by
  simp [fixedSegment, foldl_append_entries, h]

lemma segmentOfExpressions_topologyTerm (segments : List (String × String)) (segment : Segment) :
    segmentOfExpressions (segments.map fun (k, v) => ⟨k, .opIn, [v]⟩) segment =
      .ok (if segments = [] then segment else some (segment.toList ++ toEntries segments)) := by
  induction segments generalizing segment with
  | nil => simp [segmentOfExpressions]
  | cons kv rest ih =>
    simp only [List.map_cons, segmentOfExpressions, ne_eq, not_true_eq_false, if_false, ih,
      if_neg (List.cons_ne_nil kv rest)]
    by_cases hrest : rest = []
    · simp [hrest, toEntries, Slice.append]
    · simp [hrest, toEntries, Slice.append]

/-- **The segment of a topology's term is its pairs, sorted.** -/
theorem termToSegment_topologyTerm {segments : List (String × String)} (h : segments ≠ []) :
    termToSegment (topologyTerm segments) =
      .ok (some (List.insertionSort SegmentEntry.le (toEntries segments))) := by
  simp [termToSegment, topologyTerm, segmentOfExpressions_topologyTerm, h, Except.map,
    Segment.sort]

lemma Compare_sorted_eq_iff {s : Segment} (hsorted : s.toList.Pairwise SegmentEntry.le)
    (entries : List SegmentEntry) :
    s.Compare (some (List.insertionSort SegmentEntry.le entries)) = .eq ↔ s.toList.Perm entries := by
  rw [Segment.Compare_eq_iff, Slice.toList_some]
  constructor
  · intro h
    exact h ▸ List.perm_insertionSort _ _
  · intro hperm
    exact eq_of_perm_of_sorted (hperm.trans (List.perm_insertionSort _ _).symm) hsorted
      (pairwise_sort _)

lemma topologyMatches_topologyTerm {segments : List (String × String)} (hne : segments ≠ [])
    {order : List WorkItem}
    (hsorted : ∀ item ∈ order, item.segment.segment.toList.Pairwise SegmentEntry.le) :
    topologyMatches ⟨some ⟨some [topologyTerm segments]⟩⟩ order =
      order.filter fun item => decide (item.segment.segment.toList.Perm (toEntries segments)) := by
  simp only [topologyMatches, List.flatMap_cons, List.flatMap_nil, List.append_nil,
    termToSegment_topologyTerm hne]
  apply List.filter_congr
  intro item hmem
  rw [Bool.eq_iff_iff, beq_iff_eq, decide_eq_true_iff]
  exact Compare_sorted_eq_iff (hsorted item hmem) _

/-- **The refresh of a non-empty topology queues exactly the work items with its pairs**, in
the order of the map loop, when the segments of the work items are sorted as the node
topology sorts them; the order in which the driver's map gave the pairs does not matter. -/
theorem refreshTopology_queues_topology (c : Controller) {segments : List (String × String)}
    (hne : segments ≠ []) {order : List WorkItem}
    (hsorted : ∀ item ∈ order, item.segment.segment.toList.Pairwise SegmentEntry.le) :
    (GenerateVolumeNodeAffinity [segments]).map (refreshTopology c · order) =
      some { c with
        queue := (order.filter fun item =>
            decide (item.segment.segment.toList.Perm (toEntries segments))).foldl
          (fun q item => q.add (.item item)) c.queue } := by
  rw [GenerateVolumeNodeAffinity_single hne, Option.map_some, refreshTopology,
    topologyMatches_topologyTerm hne hsorted]

def zoneAndRegion : List (String × String) :=
  [("topology.kubernetes.io/zone", "zone-1"), ("topology.kubernetes.io/region", "region-1")]

theorem refreshTopology_queues_topology_zoneAndRegion :
    zoneAndRegion ≠ [] ∧
      (∀ item ∈ [(⟨⟨0, some (List.insertionSort SegmentEntry.le (toEntries zoneAndRegion))⟩,
          "fast"⟩ : WorkItem)], item.segment.segment.toList.Pairwise SegmentEntry.le) ∧
      (GenerateVolumeNodeAffinity [zoneAndRegion]).map (refreshTopology ⟨∅, Queue.empty⟩ ·
          [⟨⟨0, some (List.insertionSort SegmentEntry.le (toEntries zoneAndRegion))⟩, "fast"⟩]) =
        some { (⟨∅, Queue.empty⟩ : Controller) with
          queue := ([(⟨⟨0, some (List.insertionSort SegmentEntry.le (toEntries zoneAndRegion))⟩,
              "fast"⟩ : WorkItem)].filter fun item =>
              decide (item.segment.segment.toList.Perm (toEntries zoneAndRegion))).foldl
            (fun q item => q.add (.item item)) Queue.empty } :=
  have hne : zoneAndRegion ≠ [] := by simp [zoneAndRegion]
  have hsorted : ∀ item ∈ [(⟨⟨0, some (List.insertionSort SegmentEntry.le
      (toEntries zoneAndRegion))⟩, "fast"⟩ : WorkItem)],
      item.segment.segment.toList.Pairwise SegmentEntry.le := by
    simpa using pairwise_sort _
  ⟨hne, hsorted, refreshTopology_queues_topology ⟨∅, Queue.empty⟩ hne hsorted⟩

def regionAndZone : List (String × String) :=
  [("topology.kubernetes.io/region", "region-1"), ("topology.kubernetes.io/zone", "zone-1")]

/-- Refreshes that miss a work item with the pairs of the topology. An empty topology gives a
node affinity without terms, which `refreshTopology` skips, so that the item of the empty
segment is not queued; and the fixed segment that `main` builds in node-deployment mode, in
the order of its map loop, need not be sorted, so that the sorted term does not compare equal
to it. -/
theorem refreshTopology_misses_items :
    ((toEntries []).Perm (Slice.toList (some [] : Segment)) ∧
      (GenerateVolumeNodeAffinity [[]]).map
        (topologyMatches · [⟨⟨0, some []⟩, "fast"⟩]) = some []) ∧
    ((toEntries regionAndZone).Perm (fixedSegment (some zoneAndRegion)).toList ∧
      (GenerateVolumeNodeAffinity [regionAndZone]).map
        (topologyMatches · [⟨⟨0, fixedSegment (some zoneAndRegion)⟩, "fast"⟩]) = some []) := by
  refine ⟨⟨List.Perm.refl _, rfl⟩, ⟨?_, by decide⟩⟩
  simp only [fixedSegment_some (by simp [zoneAndRegion] : zoneAndRegion ≠ []), Slice.toList_some]
  exact List.Perm.swap _ _ []

end CsiProvisioner.Capacity
