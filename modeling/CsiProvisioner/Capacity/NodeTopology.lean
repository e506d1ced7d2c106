import CsiProvisioner.Capacity.Topology
import CsiProvisioner.Lib.GoStrings
import CsiProvisioner.Lib.Transition

/-!
The topology informer of the central capacity controller (`nodeTopology` in
`pkg/capacity/topology/nodes.go`).

`sync` builds one segment for each node on which the driver runs: the node's labels for the
topology keys that the driver registered in the node's CSINode object, sorted by key. It
reuses a segment it listed before when the new one compares equal to it, so that pointers
stay stable, and otherwise allocates a new one. It holds the mutex only to list the segments
at the start and to store the new list at the end; the callbacks run after that, without
the mutex. A sync runs from the informer's worker and from each call of `HasSynced`, so
that two syncs can overlap.

A driver registered without topology keys gets the empty segment: `Segment{}`, not nil.
-/

namespace CsiProvisioner.Capacity.NodeTopology

open Go Api CsiProvisioner.Capacity.Topology

/-- `driverTopologyKeys`: nil when the driver does not run on the node, otherwise its
topology keys, an empty slice when it registered none. -/
def driverTopologyKeys (driverName : String) (csiNode : CSINode) : Slice String :=
  match csiNode.drivers.find? (·.name == driverName) with
  | some csiNodeDriver =>
    match csiNodeDriver.topologyKeys with
    | none => some []
    | some keys => some keys
  | none => none

/-- The entries of a node's segment: its label for each key, in the order of the keys;
nothing when a label is missing (`continue node`). -/
def segmentEntries (labels : StrMap) : List String → Option (List SegmentEntry)
  | [] => some []
  | key :: rest =>
    match labels.lookup key with
    | some value => (segmentEntries labels rest).map (⟨key, value⟩ :: ·)
    | none => none

/-- What the loop of `sync` over the CSINode objects has found so far. -/
structure Scan where
  /-- `existingSegments`: a segment for each node it kept, repeated for nodes that share
  one. -/
  existing : List SegmentRef
  /-- `addedSegments`. -/
  added : List SegmentRef
  /-- The next address the heap gives out. -/
  nextAddr : Nat
  deriving DecidableEq, Repr

/-- One iteration of the loop of `sync`, for one CSINode object, with `segments` what `sync`
listed at its start. -/
def scanNode (driverName : String) (nodes : List Node) (segments : List SegmentRef)
    (scan : Scan) (csiNode : CSINode) : Scan :=
  match driverTopologyKeys driverName csiNode with
  -- the driver does not run on the node
  | none => scan
  | some topologyKeys =>
    match nodes.find? (·.name == csiNode.name) with
    -- an obsolete CSINode object
    | none => scan
    | some node =>
      match segmentEntries node.labels (sortStrings topologyKeys) with
      -- the node does not have all labels yet
      | none => scan
      | some entries =>
        let newSegment : Segment := some entries
        match segments.find? (fun segment => newSegment.Compare segment.segment == .eq) with
        | some segment => { scan with existing := scan.existing ++ [segment] }
        | none =>
          if scan.added.any (fun segment => newSegment.Compare segment.segment == .eq) then
            scan
          else
            let segment : SegmentRef := ⟨scan.nextAddr, newSegment⟩
            { existing := scan.existing ++ [segment]
              added := scan.added ++ [segment]
              nextAddr := scan.nextAddr + 1 }

/-- The loop of `sync` over the CSINode objects, in the order of the lister. -/
def scan (driverName : String) (nodes : List Node) (csiNodes : List CSINode)
    (segments : List SegmentRef) (nextAddr : Nat) : Scan :=
  csiNodes.foldl (scanNode driverName nodes segments) ⟨[], [], nextAddr⟩

/-- The listed segments that no node kept, each once (`removalCandidates` is a map). -/
def removedSegments (segments : List SegmentRef) (scan : Scan) : List SegmentRef :=
  (segments.filter (· ∉ scan.existing)).dedup

/-! ### The segments of one node -/

lemma segmentEntries_eq_some {labels : StrMap} {keys : List String}
    {entries : List SegmentEntry} (h : segmentEntries labels keys = some entries) :
    entries.map (·.key) = keys ∧ ∀ entry ∈ entries, labels.lookup entry.key = some entry.value := by
  induction keys generalizing entries with
  | nil =>
    simp only [segmentEntries, Option.some.injEq] at h
    subst h
    simp
  | cons key rest ih =>
    simp only [segmentEntries] at h
    cases hvalue : labels.lookup key with
    | none => simp [hvalue] at h
    | some value =>
      simp only [hvalue, Option.map_eq_some_iff] at h
      obtain ⟨tail, htail, rfl⟩ := h
      obtain ⟨hkeys, hvalues⟩ := ih htail
      refine ⟨by simp [hkeys], ?_⟩
      intro entry hentry
      rcases List.mem_cons.mp hentry with rfl | hmem
      · exact hvalue
      · exact hvalues entry hmem

lemma segmentEntries_eq_some_iff {labels : StrMap} {keys : List String}
    {entries : List SegmentEntry} :
    segmentEntries labels keys = some entries ↔
      entries.map (·.key) = keys ∧ ∀ entry ∈ entries, labels.lookup entry.key = some entry.value := by
  refine ⟨segmentEntries_eq_some, ?_⟩
  rintro ⟨hkeys, hvalues⟩
  induction entries generalizing keys with
  | nil =>
    subst hkeys
    rfl
  | cons entry rest ih =>
    subst hkeys
    have hvalue : labels.lookup entry.key = some entry.value := hvalues entry List.mem_cons_self
    have hrest : segmentEntries labels (rest.map (·.key)) = some rest :=
      ih rfl fun e he => hvalues e (List.mem_cons_of_mem _ he)
    simp [segmentEntries, hvalue, hrest]

lemma segmentEntries_sorted {labels : StrMap} {keys : List String}
    {entries : List SegmentEntry} (hkeys : keys.Pairwise (· ≤ ·))
    (h : segmentEntries labels keys = some entries) : entries.Pairwise SegmentEntry.le := by
  obtain ⟨hmap, hvalues⟩ := segmentEntries_eq_some h
  have hsorted : entries.Pairwise fun a b => a.key ≤ b.key := by
    rw [← hmap, List.pairwise_map] at hkeys
    exact hkeys
  refine hsorted.imp_of_mem fun {a b} ha hb hab => ?_
  rw [SegmentEntry.le_iff]
  rcases hab.lt_or_eq with hlt | heq
  · exact .inl hlt
  · have hvalue : a.value = b.value := by
      have hb' := hvalues b hb
      rw [← heq, hvalues a ha] at hb'
      exact Option.some.inj hb'
    exact .inr ⟨heq, hvalue.le⟩

/-- **A driver registered without topology keys gets the empty segment, not nil.** The first
sync, which lists no segments, adds it at the next address. -/
theorem scanNode_keyless {driverName : String} {nodes : List Node} {csiNode : CSINode}
    {node : Node} (hkeys : driverTopologyKeys driverName csiNode = some [])
    (hnode : nodes.find? (·.name == csiNode.name) = some node) (addr : Nat) :
    scanNode driverName nodes [] ⟨[], [], addr⟩ csiNode =
      ⟨[⟨addr, some []⟩], [⟨addr, some []⟩], addr + 1⟩ := by
  have hentries : segmentEntries node.labels (sortStrings []) = some [] := rfl
  simp [scanNode, hkeys, hnode, hentries]

/-! ### One iteration of the loop -/

/-- The segment that the loop of `sync` builds for one CSINode object; nothing when the driver
does not run on the node, or its Node object is missing or lacks one of the labels. -/
def nodeSegment (driverName : String) (nodes : List Node) (csiNode : CSINode) :
    Option (List SegmentEntry) :=
  (driverTopologyKeys driverName csiNode).bind fun topologyKeys =>
    (nodes.find? (·.name == csiNode.name)).bind fun node =>
      segmentEntries node.labels (sortStrings topologyKeys)

/-- The rest of one iteration, once the node's segment is built: reuse a listed segment,
skip one added before, or add a new one. -/
def addSegment (segments : List SegmentRef) (scan : Scan) (entries : List SegmentEntry) :
    Scan :=
  let newSegment : Segment := some entries
  match segments.find? (fun segment => newSegment.Compare segment.segment == .eq) with
  | some segment => { scan with existing := scan.existing ++ [segment] }
  | none =>
    if scan.added.any (fun segment => newSegment.Compare segment.segment == .eq) then scan
    else
      let segment : SegmentRef := ⟨scan.nextAddr, newSegment⟩
      { existing := scan.existing ++ [segment]
        added := scan.added ++ [segment]
        nextAddr := scan.nextAddr + 1 }

lemma scanNode_eq (driverName : String) (nodes : List Node) (segments : List SegmentRef)
    (scan : Scan) (csiNode : CSINode) :
    scanNode driverName nodes segments scan csiNode =
      (nodeSegment driverName nodes csiNode).elim scan (addSegment segments scan) := by
  unfold scanNode nodeSegment addSegment
  cases driverTopologyKeys driverName csiNode with
  | none => rfl
  | some topologyKeys =>
    dsimp only [Option.bind_some]
    cases nodes.find? (·.name == csiNode.name) with
    | none => rfl
    | some node =>
      dsimp only [Option.bind_some]
      cases segmentEntries node.labels (sortStrings topologyKeys) <;> rfl

lemma find?_Compare_eq_some {segments : List SegmentRef} {entries : List SegmentEntry}
    {s : SegmentRef}
    (h : segments.find? (fun segment => Segment.Compare (some entries) segment.segment == .eq) =
      some s) :
    s ∈ segments ∧ s.segment.toList = entries := by
  have hs := List.find?_some h
  rw [beq_iff_eq, Segment.Compare_eq_iff, Slice.toList_some] at hs
  exact ⟨List.mem_of_find?_eq_some h, hs.symm⟩

lemma find?_Compare_eq_none {segments : List SegmentRef} {entries : List SegmentEntry}
    (h : segments.find? (fun segment => Segment.Compare (some entries) segment.segment == .eq) =
      none) :
    ∀ s ∈ segments, s.segment.toList ≠ entries := by
  intro s hs heq
  have hne := List.find?_eq_none.mp h s hs
  rw [beq_iff_eq, Segment.Compare_eq_iff, Slice.toList_some] at hne
  exact hne heq.symm

lemma any_Compare_eq_iff {added : List SegmentRef} {entries : List SegmentEntry} :
    added.any (fun segment => Segment.Compare (some entries) segment.segment == .eq) = true ↔
      ∃ s ∈ added, s.segment.toList = entries := by
  simp only [List.any_eq_true, beq_iff_eq, Segment.Compare_eq_iff, Slice.toList_some]
  exact ⟨fun ⟨s, hs, h⟩ => ⟨s, hs, h.symm⟩, fun ⟨s, hs, h⟩ => ⟨s, hs, h.symm⟩⟩

/-- **What adding a node's segment does**: it keeps once more the listed segment that
`find?` picks for the entries; or, when no listed segment has them, it skips them if a
segment added before has them, and otherwise adds a new segment with them at the next
address. -/
lemma addSegment_cases (segments : List SegmentRef) (scan : Scan) (entries : List SegmentEntry) :
    (∃ listed, segments.find? (fun segment =>
        Segment.Compare (some entries) segment.segment == .eq) = some listed ∧
      addSegment segments scan entries = { scan with existing := scan.existing ++ [listed] }) ∨
    ((∀ s ∈ segments, s.segment.toList ≠ entries) ∧ (∃ s ∈ scan.added, s.segment.toList = entries) ∧
      addSegment segments scan entries = scan) ∨
    ((∀ s ∈ segments, s.segment.toList ≠ entries) ∧ (∀ s ∈ scan.added, s.segment.toList ≠ entries) ∧
      addSegment segments scan entries =
        ⟨scan.existing ++ [⟨scan.nextAddr, some entries⟩],
          scan.added ++ [⟨scan.nextAddr, some entries⟩], scan.nextAddr + 1⟩) := by
  unfold addSegment
  dsimp only
  split
  · rename_i listed hfind
    exact .inl ⟨listed, hfind, rfl⟩
  · rename_i hfind
    have hnew := find?_Compare_eq_none hfind
    split_ifs with hadded
    · exact .inr (.inl ⟨hnew, any_Compare_eq_iff.mp hadded, rfl⟩)
    · exact .inr (.inr ⟨hnew, fun s hs heq => hadded (any_Compare_eq_iff.mpr ⟨s, hs, heq⟩), rfl⟩)

/-! ### Every segment is sorted -/

def Sorted (segment : SegmentRef) : Prop := segment.segment.toList.Pairwise SegmentEntry.le

def Scan.Sorted (scan : Scan) : Prop :=
  (∀ s ∈ scan.existing, NodeTopology.Sorted s) ∧ ∀ s ∈ scan.added, NodeTopology.Sorted s

lemma nodeSegment_sorted {driverName : String} {nodes : List Node} {csiNode : CSINode}
    {entries : List SegmentEntry} (h : nodeSegment driverName nodes csiNode = some entries) :
    entries.Pairwise SegmentEntry.le := by
  simp only [nodeSegment, Option.bind_eq_some_iff] at h
  obtain ⟨topologyKeys, -, node, -, hentries⟩ := h
  exact segmentEntries_sorted (sortStrings_sorted _) hentries

lemma scanNode_sorted {driverName : String} {nodes : List Node} {segments : List SegmentRef}
    (hsegments : ∀ s ∈ segments, Sorted s) {scan : Scan} (hscan : scan.Sorted)
    (csiNode : CSINode) : (scanNode driverName nodes segments scan csiNode).Sorted := by
  rw [scanNode_eq]
  cases hsegment : nodeSegment driverName nodes csiNode with
  | none => exact hscan
  | some entries =>
    have hnew : Sorted ⟨scan.nextAddr, some entries⟩ := nodeSegment_sorted hsegment
    rcases addSegment_cases segments scan entries with
      ⟨listed, hfind, heq⟩ | ⟨-, -, heq⟩ | ⟨-, -, heq⟩ <;> rw [Option.elim, heq]
    · -- a listed segment is kept
      have hlisted : Sorted listed := hsegments listed (List.mem_of_find?_eq_some hfind)
      exact ⟨List.forall_mem_append.mpr ⟨hscan.1, List.forall_mem_singleton.mpr hlisted⟩,
        hscan.2⟩
    · exact hscan
    · exact ⟨List.forall_mem_append.mpr ⟨hscan.1, List.forall_mem_singleton.mpr hnew⟩,
        List.forall_mem_append.mpr ⟨hscan.2, List.forall_mem_singleton.mpr hnew⟩⟩

/-- **A sync keeps and adds sorted segments only**, when the segments it listed are sorted. -/
theorem scan_sorted (driverName : String) (nodes : List Node) (csiNodes : List CSINode)
    {segments : List SegmentRef} (hsegments : ∀ s ∈ segments, Sorted s) (nextAddr : Nat) :
    (scan driverName nodes csiNodes segments nextAddr).Sorted :=
  List.foldlRecOn csiNodes _ (⟨by simp, by simp⟩ : Scan.Sorted ⟨[], [], nextAddr⟩)
    fun scan hscan csiNode _ => scanNode_sorted hsegments hscan csiNode

/-! ### Syncs that overlap -/

inductive Sync
  /-- It listed the segments. -/
  | listed (segments : List SegmentRef)
  /-- It ran its loop over the CSINode objects. -/
  | scanned (segments : List SegmentRef) (scan : Scan)
  /-- It stored the new list; its callbacks are due. -/
  | stored (added removed : List SegmentRef)
  deriving DecidableEq

structure World where
  /-- The caches of the node and CSINode informers. -/
  nodes : List Node
  csiNodes : List CSINode
  /-- `nt.segments`. -/
  segments : List SegmentRef
  nextAddr : Nat
  syncs : List Sync
  /-- What the callbacks have told the subscriber. -/
  subscriber : List SegmentRef

/-- The informer before it has seen a node; the subscriber starts from its empty list. -/
def initial : World := ⟨[], [], [], 0, [], []⟩

def Initial (w : World) : Prop := w = initial

/-- What a subscriber holds after a callback: the added segments join, the removed ones
leave. A callback that neither adds nor removes anything is not made, and would change
nothing. -/
def applyChanges (held added removed : List SegmentRef) : List SegmentRef :=
  (held ++ added).filter (· ∉ removed)

inductive Event
  /-- The node informer's cache changes. -/
  | setNodes (nodes : List Node)
  /-- The CSINode informer's cache changes. -/
  | setCSINodes (csiNodes : List CSINode)
  /-- A sync starts, from the worker or from `HasSynced`, and lists the segments. -/
  | syncStart
  | syncScan (i : Nat)
  | syncStore (i : Nat)
  | syncCallbacks (i : Nat)

def exec (driverName : String) (w : World) : Event → Option World
  | .setNodes nodes => some { w with nodes := nodes }
  | .setCSINodes csiNodes => some { w with csiNodes := csiNodes }
  | .syncStart => some { w with syncs := w.syncs ++ [.listed w.segments] }
  | .syncScan i =>
    match w.syncs[i]? with
    | some (.listed segments) =>
      let result := scan driverName w.nodes w.csiNodes segments w.nextAddr
      some { w with
        syncs := w.syncs.set i (.scanned segments result)
        nextAddr := result.nextAddr }
    | _ => none
  | .syncStore i =>
    match w.syncs[i]? with
    | some (.scanned segments result) =>
      some { w with
        segments := result.existing
        syncs := w.syncs.set i (.stored result.added (removedSegments segments result)) }
    | _ => none
  | .syncCallbacks i =>
    match w.syncs[i]? with
    | some (.stored added removed) =>
      some { w with
        syncs := w.syncs.eraseIdx i
        subscriber := applyChanges w.subscriber added removed }
    | _ => none

/-! ### The informer lists sorted segments only -/

def Sync.Sorted : Sync → Prop
  | .listed segments => ∀ s ∈ segments, NodeTopology.Sorted s
  | .scanned segments scan => (∀ s ∈ segments, NodeTopology.Sorted s) ∧ scan.Sorted
  | .stored added _ => ∀ s ∈ added, NodeTopology.Sorted s

/-- Every segment that the informer lists, that a sync holds or that the subscriber was told
of is sorted. -/
structure World.Sorted (w : World) : Prop where
  segments : ∀ s ∈ w.segments, NodeTopology.Sorted s
  syncs : ∀ sync ∈ w.syncs, sync.Sorted
  subscriber : ∀ s ∈ w.subscriber, NodeTopology.Sorted s

lemma sorted_initial : initial.Sorted := ⟨by simp [initial], by simp [initial], by simp [initial]⟩

lemma sorted_step {driverName : String} {w w' : World} {e : Event} (hw : w.Sorted)
    (h : exec driverName w e = some w') : w'.Sorted := by
  cases e with
  | setNodes nodes =>
    simp only [exec, Option.some.injEq] at h
    subst h
    exact ⟨hw.segments, hw.syncs, hw.subscriber⟩
  | setCSINodes csiNodes =>
    simp only [exec, Option.some.injEq] at h
    subst h
    exact ⟨hw.segments, hw.syncs, hw.subscriber⟩
  | syncStart =>
    simp only [exec, Option.some.injEq] at h
    subst h
    refine ⟨hw.segments, fun sync hsync => ?_, hw.subscriber⟩
    rcases List.mem_append.mp hsync with hsync | hsync
    · exact hw.syncs sync hsync
    · rw [List.mem_singleton.mp hsync]
      exact hw.segments
  | syncScan i =>
    simp only [exec] at h
    split at h
    · rename_i segments hget
      simp only [Option.some.injEq] at h
      subst h
      have hsegments : ∀ s ∈ segments, Sorted s := hw.syncs _ (List.mem_of_getElem? hget)
      refine ⟨hw.segments, fun sync hsync => ?_, hw.subscriber⟩
      rcases List.mem_or_eq_of_mem_set hsync with hsync | rfl
      · exact hw.syncs sync hsync
      · exact ⟨hsegments, scan_sorted _ _ _ hsegments _⟩
    · cases h
  | syncStore i =>
    simp only [exec] at h
    split at h
    · rename_i segments result hget
      simp only [Option.some.injEq] at h
      subst h
      have hresult : result.Sorted := (hw.syncs _ (List.mem_of_getElem? hget)).2
      refine ⟨hresult.1, fun sync hsync => ?_, hw.subscriber⟩
      rcases List.mem_or_eq_of_mem_set hsync with hsync | rfl
      · exact hw.syncs sync hsync
      · exact hresult.2
    · cases h
  | syncCallbacks i =>
    simp only [exec] at h
    split at h
    · rename_i added removed hget
      simp only [Option.some.injEq] at h
      subst h
      have hadded : ∀ s ∈ added, Sorted s := hw.syncs _ (List.mem_of_getElem? hget)
      refine ⟨hw.segments, fun sync hsync => hw.syncs sync (List.mem_of_mem_eraseIdx hsync),
        fun s hs => ?_⟩
      rcases List.mem_append.mp (List.mem_of_mem_filter hs) with hs | hs
      · exact hw.subscriber s hs
      · exact hadded s hs
    · cases h

/-- **Every segment of the node topology is sorted by key**, in every reachable state, also
with syncs that overlap. -/
theorem sorted_of_reachable (driverName : String) {w : World}
    (h : Transition.Reachable (exec driverName) Initial w) : w.Sorted :=
  h.invariant (fun _ hw => hw ▸ sorted_initial) fun _ _ _ hw he => sorted_step hw he

def zoneNode : Node := ⟨"node-1", (∅ : StrMap).insert "topology.hostpath.csi/node" "node-1"⟩

def zoneCSINode : CSINode :=
  ⟨"node-1", [⟨"hostpath.csi.k8s.io", some ["topology.hostpath.csi/node"]⟩]⟩

/-- The worker and `HasSynced` both sync before either stores its result. -/
def overlapTrace : List Event :=
  [.setNodes [zoneNode], .setCSINodes [zoneCSINode], .syncStart, .syncStart,
    .syncScan 0, .syncScan 1, .syncStore 0, .syncCallbacks 0, .syncStore 0, .syncCallbacks 0]

/-- **Two overlapping syncs leave the subscriber with a segment the informer no longer
lists, and with two segments that have the same entries.** Both syncs allocate a segment
for the node; the second store drops the first one without reporting its removal. -/
theorem overlapping_syncs_disagree :
    ∃ w, Transition.Reachable (exec "hostpath.csi.k8s.io") Initial w ∧ w.syncs = [] ∧
      (∃ s ∈ w.subscriber, s ∉ w.segments) ∧
      ∃ s ∈ w.subscriber, ∃ s' ∈ w.subscriber, s ≠ s' ∧ s.segment = s'.segment := by
  have hrun : (Transition.run (exec "hostpath.csi.k8s.io") initial overlapTrace).map
      (fun w => decide (w.syncs = [] ∧ (∃ s ∈ w.subscriber, s ∉ w.segments) ∧
        ∃ s ∈ w.subscriber, ∃ s' ∈ w.subscriber, s ≠ s' ∧ s.segment = s'.segment)) =
      some true := by
    decide
  obtain ⟨w, hreach, hw⟩ :=
    Transition.exists_reachable_of_run (show Initial initial from rfl) hrun
  exact ⟨w, hreach, of_decide_eq_true hw⟩

theorem sorted_of_reachable_overlap :
    ∃ w, Transition.Reachable (exec "hostpath.csi.k8s.io") Initial w ∧
      w.subscriber.length = 2 ∧ w.Sorted := by
  have hrun : (Transition.run (exec "hostpath.csi.k8s.io") initial overlapTrace).map
      (fun w => decide (w.subscriber.length = 2)) = some true := by
    decide
  obtain ⟨w, hreach, hw⟩ :=
    Transition.exists_reachable_of_run (show Initial initial from rfl) hrun
  exact ⟨w, hreach, of_decide_eq_true hw, sorted_of_reachable "hostpath.csi.k8s.io" hreach⟩

end CsiProvisioner.Capacity.NodeTopology
