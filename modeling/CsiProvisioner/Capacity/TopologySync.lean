import CsiProvisioner.Capacity.NodeTopology
import Mathlib.Data.List.Dedup

/-!
What one `sync` of the node topology computes, and what two syncs in a row list.

Run alone, from segments with distinct entries, `sync` lists exactly the segments that the
CSINode objects and their nodes ask for: it keeps every listed segment that is still asked
for, so that pointers stay stable, and reports as added one new pointer for each new segment
and as removed the listed pointers that are no longer asked for. The proof is an invariant of
its loop over the CSINode objects, kept by each of the three branches of one iteration.

The loop appends a listed segment once for each node that asks for it, and a new segment only
once: the second of two syncs over two nodes that share a segment lists that segment twice.
-/

namespace CsiProvisioner.Capacity.NodeTopology

open Go Api CsiProvisioner.Capacity.Topology

/-! ### What the informer should list -/

/-- **The segments the informer should list**: for each CSINode object on which the driver
runs and whose Node object exists with a label for each of the driver's topology keys, these
labels as entries sorted by key. -/
def Desired (driverName : String) (nodes : List Node) (csiNodes : List CSINode)
    (entries : List SegmentEntry) : Prop :=
  ∃ csiNode ∈ csiNodes, ∃ topologyKeys,
    driverTopologyKeys driverName csiNode = some topologyKeys ∧
    ∃ node, nodes.find? (·.name == csiNode.name) = some node ∧
      entries.map (·.key) = sortStrings topologyKeys ∧
      ∀ entry ∈ entries, node.labels.lookup entry.key = some entry.value

lemma desired_iff {driverName : String} {nodes : List Node} {csiNodes : List CSINode}
    {entries : List SegmentEntry} :
    Desired driverName nodes csiNodes entries ↔
      ∃ csiNode ∈ csiNodes, nodeSegment driverName nodes csiNode = some entries := by
  simp only [Desired, nodeSegment, Option.bind_eq_some_iff, segmentEntries_eq_some_iff]

def Distinct (segments : List SegmentRef) : Prop :=
  segments.Pairwise fun s s' => s.segment.toList ≠ s'.segment.toList

instance : DecidablePred Distinct := fun segments =>
  inferInstanceAs (Decidable (segments.Pairwise _))

lemma Distinct.eq_of_toList_eq {segments : List SegmentRef} (h : Distinct segments)
    {s s' : SegmentRef} (hs : s ∈ segments) (hs' : s' ∈ segments)
    (heq : s.segment.toList = s'.segment.toList) : s = s' := by
  have : Std.Symm fun s s' : SegmentRef => s.segment.toList ≠ s'.segment.toList :=
    ⟨fun _ _ hne heq => hne heq.symm⟩
  by_contra hne
  exact h.forall hs hs' hne heq

lemma exists_mem_append_singleton {l : List SegmentRef} {s : SegmentRef}
    {entries : List SegmentEntry} :
    (∃ s' ∈ l ++ [s], s'.segment.toList = entries) ↔
      (∃ s' ∈ l, s'.segment.toList = entries) ∨ s.segment.toList = entries := by
  simp [or_and_right, exists_or]

/-- What the loop of `sync` keeps true, where `segments` is what `sync` listed at its start,
`nextAddr` the heap's next address then, and `desired` holds the segments that the CSINode
objects seen so far ask for. -/
structure ScanInv (segments : List SegmentRef) (nextAddr : Nat)
    (desired : List SegmentEntry → Prop) (scan : Scan) : Prop where
  /-- It keeps a segment for each desired one, and no other. -/
  existing_iff : ∀ entries, (∃ s ∈ scan.existing, s.segment.toList = entries) ↔ desired entries
  /-- A listed segment that is still desired is kept: pointers stay stable. -/
  kept : ∀ s ∈ segments, desired s.segment.toList → s ∈ scan.existing
  listed_or_added : ∀ s ∈ scan.existing, s ∈ segments ∨ s ∈ scan.added
  added_existing : ∀ s ∈ scan.added, s ∈ scan.existing
  /-- An added segment has entries that no listed one has, ... -/
  added_new : ∀ s ∈ scan.added, ∀ s' ∈ segments, s'.segment.toList ≠ s.segment.toList
  added_distinct : Distinct scan.added
  /-- ... and an address that the heap gave out during the loop. -/
  added_addr : ∀ s ∈ scan.added, nextAddr ≤ s.addr ∧ s.addr < scan.nextAddr
  nextAddr_le : nextAddr ≤ scan.nextAddr

section Loop

variable {segments : List SegmentRef} {nextAddr : Nat}

lemma scanInv_start : ScanInv segments nextAddr (fun _ => False) ⟨[], [], nextAddr⟩ :=
  ⟨by simp, by simp, by simp, by simp, by simp, List.Pairwise.nil, by simp, le_rfl⟩

lemma ScanInv.congr {desired desired' : List SegmentEntry → Prop} {scan : Scan}
    (h : ScanInv segments nextAddr desired scan) (hiff : ∀ entries, desired entries ↔ desired' entries) :
    ScanInv segments nextAddr desired' scan := by
  have heq : desired = desired' := funext fun entries => propext (hiff entries)
  exact heq ▸ h

lemma ScanInv.keep_listed (hsegments : Distinct segments) {desired : List SegmentEntry → Prop}
    {scan : Scan} (h : ScanInv segments nextAddr desired scan) {entries : List SegmentEntry}
    {listed : SegmentRef} (hlisted : listed ∈ segments) (hentries : listed.segment.toList = entries) :
    ScanInv segments nextAddr (fun e => desired e ∨ e = entries)
      { scan with existing := scan.existing ++ [listed] } := by
  refine ⟨fun e => ?_, fun s hs hdesired => ?_,
    List.forall_mem_append.mpr ⟨h.listed_or_added, List.forall_mem_singleton.mpr (.inl hlisted)⟩,
    fun s hs => List.mem_append_left _ (h.added_existing s hs),
    h.added_new, h.added_distinct, h.added_addr, h.nextAddr_le⟩
  · rw [exists_mem_append_singleton, h.existing_iff, hentries, eq_comm]
  · rcases hdesired with hdesired | hdesired
    · exact List.mem_append_left _ (h.kept s hs hdesired)
    · -- the listed segments are distinct, so it is the one kept
      rw [← hentries] at hdesired
      rw [hsegments.eq_of_toList_eq hs hlisted hdesired]
      exact List.mem_concat_self

lemma ScanInv.skip_added {desired : List SegmentEntry → Prop} {scan : Scan}
    (h : ScanInv segments nextAddr desired scan) {entries : List SegmentEntry} {added : SegmentRef}
    (hadded : added ∈ scan.added) (hentries : added.segment.toList = entries)
    (hnew : ∀ s ∈ segments, s.segment.toList ≠ entries) :
    ScanInv segments nextAddr (fun e => desired e ∨ e = entries) scan := by
  refine ⟨fun e => ?_, fun s hs hdesired => ?_, h.listed_or_added, h.added_existing,
    h.added_new, h.added_distinct, h.added_addr, h.nextAddr_le⟩
  · rw [← h.existing_iff e]
    constructor
    · exact .inl
    · rintro (he | rfl)
      · exact he
      · exact ⟨added, h.added_existing added hadded, hentries⟩
  · rcases hdesired with hdesired | hdesired
    · exact h.kept s hs hdesired
    · exact absurd hdesired (hnew s hs)

lemma ScanInv.add_new {desired : List SegmentEntry → Prop} {scan : Scan}
    (h : ScanInv segments nextAddr desired scan) {entries : List SegmentEntry}
    (hnew : ∀ s ∈ segments, s.segment.toList ≠ entries)
    (hfresh : ∀ s ∈ scan.added, s.segment.toList ≠ entries) :
    ScanInv segments nextAddr (fun e => desired e ∨ e = entries)
      ⟨scan.existing ++ [⟨scan.nextAddr, some entries⟩],
        scan.added ++ [⟨scan.nextAddr, some entries⟩], scan.nextAddr + 1⟩ := by
  refine ⟨fun e => ?_, fun s hs hdesired => ?_, ?_, ?_, ?_, ?_, ?_, Nat.le_succ_of_le h.nextAddr_le⟩
  · rw [exists_mem_append_singleton, h.existing_iff, Slice.toList_some, eq_comm]
  · rcases hdesired with hdesired | hdesired
    · exact List.mem_append_left _ (h.kept s hs hdesired)
    · exact absurd hdesired (hnew s hs)
  · refine List.forall_mem_append.mpr ⟨fun s hs => ?_, List.forall_mem_singleton.mpr
      (.inr List.mem_concat_self)⟩
    exact (h.listed_or_added s hs).imp_right (List.mem_append_left _)
  · exact List.forall_mem_append.mpr ⟨fun s hs => List.mem_append_left _ (h.added_existing s hs),
      List.forall_mem_singleton.mpr List.mem_concat_self⟩
  · exact List.forall_mem_append.mpr ⟨h.added_new, List.forall_mem_singleton.mpr hnew⟩
  · refine List.pairwise_append.mpr ⟨h.added_distinct, List.pairwise_singleton _ _, ?_⟩
    intro s hs s' hs'
    rw [List.mem_singleton.mp hs', Slice.toList_some]
    exact hfresh s hs
  · refine List.forall_mem_append.mpr ⟨fun s hs => ?_, List.forall_mem_singleton.mpr
      ⟨h.nextAddr_le, Nat.lt_succ_self _⟩⟩
    have haddr := h.added_addr s hs
    exact ⟨haddr.1, Nat.lt_succ_of_lt haddr.2⟩

/-- **Step lemma**: adding the segment of one node keeps the invariant, with that segment now
desired, in each of the three branches of the loop. -/
lemma scanInv_addSegment (hsegments : Distinct segments) {desired : List SegmentEntry → Prop}
    {scan : Scan} (h : ScanInv segments nextAddr desired scan) (entries : List SegmentEntry) :
    ScanInv segments nextAddr (fun e => desired e ∨ e = entries)
      (addSegment segments scan entries) := by
  rcases addSegment_cases segments scan entries with
    ⟨listed, hfind, heq⟩ | ⟨hnew, ⟨added, hadded, hentries⟩, heq⟩ | ⟨hnew, hfresh, heq⟩ <;>
    rw [heq]
  · obtain ⟨hlisted, hentries⟩ := find?_Compare_eq_some hfind
    exact h.keep_listed hsegments hlisted hentries
  · exact h.skip_added hadded hentries hnew
  · exact h.add_new hnew hfresh

lemma scanInv_scanNode (hsegments : Distinct segments) {driverName : String}
    {nodes : List Node} {desired : List SegmentEntry → Prop} {scan : Scan}
    (h : ScanInv segments nextAddr desired scan) (csiNode : CSINode) :
    ScanInv segments nextAddr (fun e => desired e ∨ nodeSegment driverName nodes csiNode = some e)
      (scanNode driverName nodes segments scan csiNode) := by
  rw [scanNode_eq]
  cases hsegment : nodeSegment driverName nodes csiNode with
  | none => exact h.congr fun e => by simp
  | some entries =>
    exact (scanInv_addSegment hsegments h entries).congr fun e => by simp [eq_comm]

/-- **Run lemma**: the whole loop keeps the invariant, with the segments of all its CSINode
objects desired. -/
lemma scanInv_foldl (hsegments : Distinct segments) (driverName : String) (nodes : List Node)
    (csiNodes : List CSINode) {desired : List SegmentEntry → Prop} {scan : Scan}
    (h : ScanInv segments nextAddr desired scan) :
    ScanInv segments nextAddr
      (fun e => desired e ∨ ∃ csiNode ∈ csiNodes, nodeSegment driverName nodes csiNode = some e)
      (csiNodes.foldl (scanNode driverName nodes segments) scan) := by
  induction csiNodes generalizing desired scan with
  | nil => exact h.congr fun e => by simp
  | cons csiNode rest ih =>
    rw [List.foldl_cons]
    exact (ih (scanInv_scanNode hsegments h csiNode)).congr fun e => by simp [or_assoc]

lemma scanInv_scan (hsegments : Distinct segments) (driverName : String) (nodes : List Node)
    (csiNodes : List CSINode) :
    ScanInv segments nextAddr (Desired driverName nodes csiNodes)
      (scan driverName nodes csiNodes segments nextAddr) :=
  (scanInv_foldl hsegments driverName nodes csiNodes scanInv_start).congr fun e => by
    simp [desired_iff]

end Loop

/-- What one `sync` leaves: the new `nt.segments`, the heap's next address, and the
arguments of the callbacks when it calls them. -/
structure SyncResult where
  segments : List SegmentRef
  nextAddr : Nat
  callback : Option (List SegmentRef × List SegmentRef)
  deriving DecidableEq, Repr

/-- `sync` run alone: its loop, the new list it stores, and the callbacks, which it calls only
when a segment was added or removed. -/
def sync (driverName : String) (nodes : List Node) (csiNodes : List CSINode)
    (segments : List SegmentRef) (nextAddr : Nat) : SyncResult :=
  let result := scan driverName nodes csiNodes segments nextAddr
  let removed := removedSegments segments result
  { segments := result.existing
    nextAddr := result.nextAddr
    callback :=
      if result.added.length > 0 ∨ removed.length > 0 then some (result.added, removed)
      else none }

section Result

variable {segments : List SegmentRef} {nextAddr : Nat} {scan : Scan}
  {desired : List SegmentEntry → Prop}

lemma ScanInv.mem_added_iff (h : ScanInv segments nextAddr desired scan) (s : SegmentRef) :
    s ∈ scan.added ↔ s ∈ scan.existing ∧ s ∉ segments := by
  constructor
  · intro hs
    exact ⟨h.added_existing s hs, fun hlisted => h.added_new s hs s hlisted rfl⟩
  · rintro ⟨hs, hlisted⟩
    exact (h.listed_or_added s hs).resolve_left hlisted

lemma ScanInv.added_entries_iff (h : ScanInv segments nextAddr desired scan)
    (entries : List SegmentEntry) :
    (∃ s ∈ scan.added, s.segment.toList = entries) ↔
      desired entries ∧ ∀ s ∈ segments, s.segment.toList ≠ entries := by
  constructor
  · rintro ⟨s, hs, rfl⟩
    exact ⟨(h.existing_iff _).mp ⟨s, h.added_existing s hs, rfl⟩, h.added_new s hs⟩
  · rintro ⟨hdesired, hnew⟩
    obtain ⟨s, hs, rfl⟩ := (h.existing_iff entries).mpr hdesired
    rcases h.listed_or_added s hs with hlisted | hadded
    · exact absurd rfl (hnew s hlisted)
    · exact ⟨s, hadded, rfl⟩

lemma ScanInv.mem_removedSegments_iff (h : ScanInv segments nextAddr desired scan)
    (s : SegmentRef) :
    s ∈ removedSegments segments scan ↔ s ∈ segments ∧ ¬ desired s.segment.toList := by
  rw [removedSegments, List.mem_dedup, List.mem_filter, decide_eq_true_iff]
  constructor
  · rintro ⟨hlisted, hgone⟩
    exact ⟨hlisted, fun hdesired => hgone (h.kept s hlisted hdesired)⟩
  · rintro ⟨hlisted, hgone⟩
    exact ⟨hlisted, fun hs => hgone ((h.existing_iff _).mp ⟨s, hs, rfl⟩)⟩

end Result

/-- **What one sync should do**, from the segments `segments` listed at its start and the
heap's next address `nextAddr` then, to its result `r`. -/
structure SyncSpec (driverName : String) (nodes : List Node) (csiNodes : List CSINode)
    (segments : List SegmentRef) (nextAddr : Nat) (r : SyncResult) : Prop where
  /-- The new list holds exactly the desired segments. -/
  segments_iff : ∀ entries, (∃ s ∈ r.segments, s.segment.toList = entries) ↔
    Desired driverName nodes csiNodes entries
  /-- A listed segment that is still desired is kept: pointers stay stable. -/
  kept : ∀ s ∈ segments, Desired driverName nodes csiNodes s.segment.toList → s ∈ r.segments
  /-- The callbacks, made when something changed, get as added the new pointers, one for each
  new segment and each with an address from the heap, and as removed the listed pointers
  whose segment is no longer desired. -/
  callback : ∃ added removed,
    r.callback = (if added ≠ [] ∨ removed ≠ [] then some (added, removed) else none) ∧
    (∀ s, s ∈ added ↔ s ∈ r.segments ∧ s ∉ segments) ∧
    (∀ entries, (∃ s ∈ added, s.segment.toList = entries) ↔
      Desired driverName nodes csiNodes entries ∧ ∀ s ∈ segments, s.segment.toList ≠ entries) ∧
    Distinct added ∧ (∀ s ∈ added, nextAddr ≤ s.addr ∧ s.addr < r.nextAddr) ∧
    (∀ s, s ∈ removed ↔ s ∈ segments ∧ ¬ Desired driverName nodes csiNodes s.segment.toList) ∧
    removed.Nodup

/-- **One run of `sync` computes exactly the desired topology**, when the segments it lists
are distinct. -/
theorem sync_computes_desired_topology (driverName : String) (nodes : List Node)
    (csiNodes : List CSINode) (segments : List SegmentRef) (nextAddr : Nat)
    (hsegments : Distinct segments) :
    SyncSpec driverName nodes csiNodes segments nextAddr
      (sync driverName nodes csiNodes segments nextAddr) := by
  have h : ScanInv segments nextAddr (Desired driverName nodes csiNodes)
      (scan driverName nodes csiNodes segments nextAddr) :=
    scanInv_scan hsegments driverName nodes csiNodes
  refine ⟨h.existing_iff, h.kept, _, removedSegments segments
    (scan driverName nodes csiNodes segments nextAddr), ?_, h.mem_added_iff, h.added_entries_iff,
    h.added_distinct, h.added_addr, h.mem_removedSegments_iff, List.nodup_dedup _⟩
  simp only [sync, gt_iff_lt, List.length_pos_iff, ne_eq]

def zoneSegments : List SegmentRef :=
  [⟨0, some [⟨"topology.kubernetes.io/zone", "zone-a"⟩]⟩,
    ⟨1, some [⟨"topology.kubernetes.io/zone", "zone-b"⟩]⟩]

def zoneNodes : List Node :=
  [⟨"node-1", (∅ : StrMap).insert "topology.kubernetes.io/zone" "zone-a"⟩,
    ⟨"node-2", (∅ : StrMap).insert "topology.kubernetes.io/zone" "zone-a"⟩]

def movedZoneNodes : List Node :=
  [⟨"node-1", (∅ : StrMap).insert "topology.kubernetes.io/zone" "zone-a"⟩,
    ⟨"node-2", (∅ : StrMap).insert "topology.kubernetes.io/zone" "zone-c"⟩]

def zoneCSINodes : List CSINode :=
  [⟨"node-1", [⟨"hostpath.csi.k8s.io", some ["topology.kubernetes.io/zone"]⟩]⟩,
    ⟨"node-2", [⟨"hostpath.csi.k8s.io", some ["topology.kubernetes.io/zone"]⟩]⟩]

theorem sync_computes_desired_topology_zone :
    Distinct zoneSegments ∧
      SyncSpec "hostpath.csi.k8s.io" movedZoneNodes zoneCSINodes zoneSegments 2
        (sync "hostpath.csi.k8s.io" movedZoneNodes zoneCSINodes zoneSegments 2) :=
  have hdistinct : Distinct zoneSegments := by decide
  ⟨hdistinct, sync_computes_desired_topology "hostpath.csi.k8s.io" movedZoneNodes zoneCSINodes
    zoneSegments 2 hdistinct⟩

/-- The sync keeps the pointer of `zone-a` and adds one for `zone-c` at the address `2`; the
callback gets it as added and the pointer of `zone-b` as removed. -/
example : sync "hostpath.csi.k8s.io" movedZoneNodes zoneCSINodes zoneSegments 2 =
    ⟨[⟨0, some [⟨"topology.kubernetes.io/zone", "zone-a"⟩]⟩,
        ⟨2, some [⟨"topology.kubernetes.io/zone", "zone-c"⟩]⟩], 3,
      some ([⟨2, some [⟨"topology.kubernetes.io/zone", "zone-c"⟩]⟩],
        [⟨1, some [⟨"topology.kubernetes.io/zone", "zone-b"⟩]⟩])⟩ := by
  decide

/-! ### A listed segment, once for each node -/

section Count

variable {segments : List SegmentRef} {s₀ : SegmentRef} {e₀ : List SegmentEntry}

lemma count_addSegment
    (hfind : segments.find? (fun segment => Segment.Compare (some e₀) segment.segment == .eq) =
      some s₀)
    (scan : Scan) (entries : List SegmentEntry) :
    (addSegment segments scan entries).existing.count s₀ =
      scan.existing.count s₀ + if entries = e₀ then 1 else 0 := by
  obtain ⟨hmem, hs₀⟩ := find?_Compare_eq_some hfind
  rcases addSegment_cases segments scan entries with
    ⟨listed, hlisted, heq⟩ | ⟨hnew, -, heq⟩ | ⟨hnew, -, heq⟩ <;> rw [heq]
  · rw [List.count_append, List.count_singleton]
    by_cases he : entries = e₀
    · -- the same search picks the same segment
      subst he
      rw [hfind, Option.some.injEq] at hlisted
      simp [hlisted]
    · have hne : listed ≠ s₀ := fun heq =>
        he ((find?_Compare_eq_some hlisted).2 ▸ heq ▸ hs₀)
      simp [hne, he]
  · have he : entries ≠ e₀ := fun he => hnew s₀ hmem (hs₀.trans he.symm)
    simp [he]
  · -- the new segment has other entries than the listed one
    have he : entries ≠ e₀ := fun he => hnew s₀ hmem (hs₀.trans he.symm)
    have hne : (⟨scan.nextAddr, some entries⟩ : SegmentRef) ≠ s₀ := fun heq => by
      rw [← heq] at hs₀
      exact he hs₀
    rw [List.count_append, List.count_singleton]
    simp [hne, he]

/-- **A listed segment is kept once for each node that asks for it.** -/
lemma count_scan
    (hfind : segments.find? (fun segment => Segment.Compare (some e₀) segment.segment == .eq) =
      some s₀)
    (driverName : String) (nodes : List Node) (csiNodes : List CSINode) (nextAddr : Nat) :
    (scan driverName nodes csiNodes segments nextAddr).existing.count s₀ =
      csiNodes.countP fun csiNode => nodeSegment driverName nodes csiNode = some e₀ := by
  -- the loop's count from any start: what it held, and one for each node asking for `e₀`
  suffices h : ∀ scan : Scan, (csiNodes.foldl (scanNode driverName nodes segments) scan).existing.count s₀ =
      scan.existing.count s₀ + csiNodes.countP fun csiNode => nodeSegment driverName nodes csiNode = some e₀ by
    simpa [NodeTopology.scan] using h ⟨[], [], nextAddr⟩
  induction csiNodes with
  | nil => simp
  | cons csiNode rest ih =>
    intro scan
    rw [List.foldl_cons, ih, List.countP_cons, scanNode_eq]
    cases hsegment : nodeSegment driverName nodes csiNode with
    | none => simp
    | some entries =>
      rw [Option.elim, count_addSegment hfind]
      simp only [Option.some.injEq, decide_eq_true_eq]
      omega

end Count

/-! ### A sync that runs alone -/

@[simp] lemma applyChanges_nil (held : List SegmentRef) : applyChanges held [] [] = held := by
  simp [applyChanges]

/-- **A sync that runs alone is `sync`**: its four steps leave the informer with the
segments of `sync`, and the subscriber with what its callback reports. -/
theorem run_sync (driverName : String) {w : World} (hw : w.syncs = []) :
    Transition.run (exec driverName) w [.syncStart, .syncScan 0, .syncStore 0, .syncCallbacks 0] =
      let r := sync driverName w.nodes w.csiNodes w.segments w.nextAddr
      some { w with
        segments := r.segments
        nextAddr := r.nextAddr
        subscriber := r.callback.elim w.subscriber fun changes =>
          applyChanges w.subscriber changes.1 changes.2 } := by
  simp only [Transition.run_cons, Transition.run_nil, exec, hw, sync, List.nil_append,
    List.getElem?_cons_zero, List.set_cons_zero, List.eraseIdx_cons_zero, Option.bind_some]
  split_ifs with hchanged
  · rfl
  · -- nothing changed: the callbacks are not made, and would not change the subscriber
    simp only [not_or, Nat.not_lt, Nat.le_zero, List.length_eq_zero_iff] at hchanged
    rw [hchanged.1, hchanged.2, applyChanges_nil]
    rfl

lemma exists_run_sync (driverName : String) {w : World} (hw : w.syncs = []) :
    ∃ w', Transition.run (exec driverName) w
        [.syncStart, .syncScan 0, .syncStore 0, .syncCallbacks 0] = some w' ∧
      w'.syncs = [] ∧ w'.nodes = w.nodes ∧ w'.csiNodes = w.csiNodes ∧
      w'.segments = (sync driverName w.nodes w.csiNodes w.segments w.nextAddr).segments ∧
      w'.nextAddr = (sync driverName w.nodes w.csiNodes w.segments w.nextAddr).nextAddr :=
  ⟨_, run_sync driverName hw, hw, rfl, rfl, rfl, rfl⟩

/-! ### A segment listed twice -/

/-- **A second sync lists a segment twice when two nodes share it.** The first sync lists a
segment for the entries that two CSINode objects ask for; the second finds it for each of
them and keeps it once for each, where a segment new to the first sync was kept once. -/
theorem second_sync_repeats_segment (driverName : String) (nodes : List Node)
    (csiNodes : List CSINode) (segments : List SegmentRef) (nextAddr : Nat)
    (hsegments : Distinct segments) {entries : List SegmentEntry}
    (hshared : 2 ≤ csiNodes.countP fun csiNode =>
      nodeSegment driverName nodes csiNode = some entries) :
    let first := sync driverName nodes csiNodes segments nextAddr
    ¬ (sync driverName nodes csiNodes first.segments first.nextAddr).segments.Nodup := by
  intro first
  -- the first sync lists a segment with these entries
  have hdesired : Desired driverName nodes csiNodes entries := by
    obtain ⟨csiNode, hmem, hsegment⟩ := List.countP_pos_iff.mp (Nat.lt_of_lt_of_le (by decide) hshared)
    exact desired_iff.mpr ⟨csiNode, hmem, of_decide_eq_true hsegment⟩
  have hfirst : ScanInv segments nextAddr (Desired driverName nodes csiNodes)
      (scan driverName nodes csiNodes segments nextAddr) :=
    scanInv_scan hsegments driverName nodes csiNodes
  obtain ⟨s, hs, hentries⟩ := (hfirst.existing_iff entries).mpr hdesired
  -- which the second sync finds, for each of the two nodes
  have hfound : (first.segments.find? fun segment =>
      Segment.Compare (some entries) segment.segment == .eq).isSome := by
    refine List.find?_isSome.mpr ⟨s, hs, ?_⟩
    rw [beq_iff_eq, Segment.Compare_eq_iff, Slice.toList_some, hentries]
  obtain ⟨s₀, hfind⟩ := Option.isSome_iff_exists.mp hfound
  have hcount := count_scan hfind driverName nodes csiNodes first.nextAddr
  rw [List.nodup_iff_count_le_one]
  intro hle
  have hle₀ := hle s₀
  simp only [sync] at hle₀ hcount
  omega

/-- **The informer lists a segment twice**, in a reachable state with no sync in flight:
after two syncs over two nodes in one zone, `nt.segments`, of which `List` returns a copy,
holds the zone's segment twice. -/
theorem segment_listed_twice :
    ∃ w, Transition.Reachable (exec "hostpath.csi.k8s.io") Initial w ∧ w.syncs = [] ∧
      ¬ w.segments.Nodup := by
  let w₀ : World := { initial with nodes := zoneNodes, csiNodes := zoneCSINodes }
  have h₀ : Transition.Reachable (exec "hostpath.csi.k8s.io") Initial w₀ :=
    (Transition.Reachable.of_init (show Initial initial from rfl)).of_run
      (show Transition.run (exec "hostpath.csi.k8s.io") initial [Event.setNodes zoneNodes, .setCSINodes zoneCSINodes] =
        some w₀
        from rfl)
  obtain ⟨w₁, hrun₁, hsyncs₁, hnodes₁, hcsiNodes₁, hsegments₁, hnext₁⟩ :=
    exists_run_sync "hostpath.csi.k8s.io" (show w₀.syncs = [] from rfl)
  obtain ⟨w₂, hrun₂, hsyncs₂, -, -, hsegments₂, -⟩ :=
    exists_run_sync "hostpath.csi.k8s.io" hsyncs₁
  refine ⟨w₂, (h₀.of_run hrun₁).of_run hrun₂, hsyncs₂, ?_⟩
  rw [hsegments₂, hnodes₁, hcsiNodes₁, hsegments₁, hnext₁]
  -- both CSINode objects ask for the zone's segment
  have hshared : 2 ≤ zoneCSINodes.countP fun csiNode =>
      nodeSegment "hostpath.csi.k8s.io" zoneNodes csiNode =
        some [⟨"topology.kubernetes.io/zone", "zone-a"⟩] := by
    decide
  exact second_sync_repeats_segment "hostpath.csi.k8s.io" zoneNodes zoneCSINodes [] 0
    List.Pairwise.nil hshared

end CsiProvisioner.Capacity.NodeTopology
