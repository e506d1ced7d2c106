import CsiProvisioner.Controller.TopologyTerm
import CsiProvisioner.Controller.Spreading
import CsiProvisioner.Lib.GoErrors
import CsiProvisioner.Controller.Topology

/-!
The topology requirement of a new volume (`GenerateAccessibilityRequirements` and
`aggregateTopologies` in `pkg/controller/topology.go`).

The requisite terms are where the volume may be: with strict topology and a selected node that
node's topology, else the flattened allowed topologies of the class, else the topologies of
all nodes that have the driver's topology keys. They are deduplicated, and the preferred terms
are the same terms sorted and rotated: by the hash of a StatefulSet's name and the replica's
number in immediate binding, to the selected node's topology in delayed binding.

Where no CSINode lists the driver with an empty list of keys, and node labels are what the API
server admits, the aggregated requisite terms are the topologies of the nodes with a label for
every key, each map once, and in delayed binding the preferred terms start with the selected
node's. In delayed binding the first preferred term is never empty, so that a volume made
accessible there gets a node affinity that the selected node satisfies. A CSINode with an
empty, non-nil list ends the search for keys of immediate binding with no terms, and an error;
two terms of allowed topologies whose hashes collide, possible only with commas in keys or
values, make non-strict topology refuse a node that strict topology admits.

The listers are lists: the CSINodes and the nodes of the informers' caches. `rand.Shuffle` of
the CSINodes, the loop over the map of `deduplicate` and `rand.Uint32` for an empty claim name
are arguments. The node lister honours the label selector `buildTopologyKeySelector` builds,
which requires a label for each topology key: it lists the nodes that have them all. The
selector is built from the keys of a CSINode, which the API server validates as label keys,
so that its parse error is left out.
-/

namespace CsiProvisioner.Controller.Topology

open Go Api

/-- `getTopologyKeys`: the topology keys of the driver on a node, nil when it does not run
there or registered none. -/
def getTopologyKeys (csiNode : CSINode) (driverName : String) : Slice String :=
  match csiNode.drivers.find? (·.name == driverName) with
  | some driver => driver.topologyKeys
  | none => none

/-- `getTopologyFromNode`: the node's label for each key; `none` when one is missing. -/
def getTopologyFromNode (node : Node) (topologyKeys : List String) : Option TopologyTerm :=
  topologyKeys.foldlM (fun term key => (node.labels.lookup key).map (term.insert key)) ∅

/-- `nodeLister.List` with the selector of `buildTopologyKeySelector`: the nodes with a label
for every key. -/
def listNodes (nodes : List Node) (topologyKeys : List String) : List Node :=
  nodes.filter fun node => topologyKeys.all fun key => (node.labels.lookup key).isSome

/-- `getSelectedCSINode`, with the error of the CSINode lister for a missing object. -/
def getSelectedCSINode (csiNodes : List CSINode) (selectedNode : Node) : Except String CSINode :=
  match csiNodes.find? (·.name == selectedNode.name) with
  | some csiNode => .ok csiNode
  | none => .error ("error getting CSINode for selected node " ++ quote selectedNode.name ++
      ": csinode.storage.k8s.io " ++ quote selectedNode.name ++ " not found")

/-- The loop of `aggregateTopologies` over the shuffled CSINodes: the keys of the first that
returns non-nil keys, nil when none does. -/
def firstTopologyKeys (driverName : String) : List CSINode → Slice String
  | [] => none
  | csiNode :: csiNodes =>
    match getTopologyKeys csiNode driverName with
    | some topologyKeys => some topologyKeys
    | none => firstTopologyKeys driverName csiNodes

def formatTerms (terms : List TopologyTerm) : String := formatStrings (terms.map formatStrMap)

/-- Step 2 of `aggregateTopologies`: the topology of each node with a label for every key. -/
def nodeTopologies (topologyKeys : List String) (nodes : List Node) :
    Except String (List TopologyTerm) :=
  -- a missing label gives a nil term, which is taken as it is
  let terms := (listNodes nodes topologyKeys).map fun node =>
    (getTopologyFromNode node topologyKeys).getD ∅
  if terms.length = 0 then
    .error ("topologyKeys " ++ formatStrings topologyKeys ++ " were not found on any nodes")
  else .ok terms

/-- `aggregateTopologies`: the topologies of the nodes, for the keys of the selected node's
CSINode, or in immediate binding of the first shuffled CSINode with non-nil keys. -/
def aggregateTopologies (driverName : String) (selectedCSINode : Option CSINode)
    (csiNodes : List CSINode) (nodes : List Node) (shuffle : Arrangement CSINode) :
    Except String (List TopologyTerm) :=
  match selectedCSINode with
  | none =>
    let topologyKeys := (firstTopologyKeys driverName (shuffle.arrange csiNodes)).toList
    -- no topology keys on any node: no terms and no error
    if topologyKeys.length = 0 then .ok []
    else nodeTopologies topologyKeys nodes
  | some selectedCSINode =>
    let topologyKeys := (getTopologyKeys selectedCSINode driverName).toList
    if topologyKeys.length = 0 then
      .error ("no topology key found on CSINode " ++ selectedCSINode.name)
    else nodeTopologies topologyKeys nodes

/-- What step 1 of `GenerateAccessibilityRequirements` finds for a selected node. -/
structure SelectedTopology where
  node : Node
  csiNode : CSINode
  topology : TopologyTerm

/-- Step 1 of `GenerateAccessibilityRequirements`: the CSINode and the topology of the
selected node, and with strict topology the requisite terms. -/
def selectNode (driverName : String) (allowedTopologies : List TopologySelectorTerm)
    (strictTopology : Bool) (csiNodes : List CSINode) (selectedNode : Node) :
    Except String (SelectedTopology × List TopologyTerm) := do
  let selectedCSINode ← getSelectedCSINode csiNodes selectedNode
  let topologyKeys := (getTopologyKeys selectedCSINode driverName).toList
  if topologyKeys.length = 0 then
    throw ("no topology key found on CSINode " ++ selectedCSINode.name)
  else
    match getTopologyFromNode selectedNode topologyKeys with
    | none => throw ("topology labels from selected node " ++ formatStrMap selectedNode.labels ++
        " does not match topology keys from CSINode " ++ formatStrings topologyKeys)
    | some selectedTopology =>
      let selected : SelectedTopology := ⟨selectedNode, selectedCSINode, selectedTopology⟩
      if strictTopology then
        let allowedTopologiesFlatten := flatten allowedTopologies
        if allowedTopologies.length ≠ 0 ∧
            !allowedTopologiesFlatten.any (·.subset selectedTopology) then
          throw ("selected node '" ++ quote selectedNode.name ++ "' topology '" ++
            formatStrMap selectedTopology ++ "' is not in allowed topologies: " ++
            formatTerms allowedTopologiesFlatten)
        else pure (selected, [selectedTopology])
      else pure (selected, [])

/-- Step 2 of `GenerateAccessibilityRequirements`: the requisite terms, `none` where the
function returns no requirement. -/
def requisiteTermsOf (driverName : String) (allowedTopologies : List TopologySelectorTerm)
    (selected : Option SelectedTopology) (requisiteTerms : List TopologyTerm)
    (immediateTopology : Bool) (csiNodes : List CSINode) (nodes : List Node)
    (shuffle : Arrangement CSINode) : Except String (Option (List TopologyTerm)) :=
  if requisiteTerms.length = 0 then
    if allowedTopologies.length ≠ 0 then .ok (some (flatten allowedTopologies))
    -- neither the claim nor the class limits the topology
    else if selected.isNone ∧ !immediateTopology then .ok none
    else
      match aggregateTopologies driverName (selected.map (·.csiNode)) csiNodes nodes shuffle with
      | .error e => .error e
      | .ok terms =>
        if terms.length = 0 then .error "no available topology found" else .ok (some terms)
  else .ok (some requisiteTerms)

/-- Step 3 of `GenerateAccessibilityRequirements`: the preferred terms. -/
def preferredTermsOf (pvcName : String) (selected : Option SelectedTopology)
    (strictTopology : Bool) (requisiteTerms : List TopologyTerm) (randUint32 : UInt32) :
    Except String (List TopologyTerm) :=
  match selected with
  | none =>
    let i := spreadingIndex pvcName randUint32 requisiteTerms.length
    .ok ((sortAndShift requisiteTerms none i.toNat).getD [])
  | some selected =>
    if strictTopology then .ok requisiteTerms
    else
      match sortAndShift requisiteTerms (some selected.topology) 0 with
      | some preferredTerms => .ok preferredTerms
      -- `sortAndShift` has sorted the terms in place by then
      | none => .error ("topology " ++ formatStrMap selected.topology ++ " from selected node " ++
          quote selected.node.name ++ " is not in requisite: " ++
          formatTerms (sortTerms requisiteTerms))

def selectStep (driverName : String) (allowedTopologies : List TopologySelectorTerm)
    (strictTopology : Bool) (csiNodes : List CSINode) :
    Option Node → Except String (Option SelectedTopology × List TopologyTerm)
  | none => .ok (none, [])
  | some node =>
    (fun (selected, requisiteTerms) => (some selected, requisiteTerms)) <$>
      selectNode driverName allowedTopologies strictTopology csiNodes node

/-- `GenerateAccessibilityRequirements`; `none` for a nil requirement. -/
def GenerateAccessibilityRequirements (driverName pvcName : String)
    (allowedTopologies : List TopologySelectorTerm) (selectedNode : Option Node)
    (strictTopology immediateTopology : Bool) (csiNodes : List CSINode) (nodes : List Node)
    (shuffle : Arrangement CSINode) (mapOrder : Arrangement TopologyTerm) (randUint32 : UInt32) :
    Except String (Option TopologyRequirement) := do
  let (selected, requisiteTerms) ←
    selectStep driverName allowedTopologies strictTopology csiNodes selectedNode
  match ← requisiteTermsOf driverName allowedTopologies selected requisiteTerms immediateTopology
      csiNodes nodes shuffle with
  | none => pure none
  | some requisiteTerms =>
    -- allowed topologies with empty terms leave no term: as without topology
    if requisiteTerms.length = 0 then pure none
    else
      let requisiteTerms := deduplicate mapOrder requisiteTerms
      let preferredTerms ← preferredTermsOf pvcName selected strictTopology requisiteTerms randUint32
      pure (some ⟨toCSITopology requisiteTerms, toCSITopology preferredTerms⟩)

/-! ### A node's topology -/

lemma lookup_foldlM_getTopologyFromNode {node : Node} {topologyKeys : List String}
    {acc t : TopologyTerm}
    (h : topologyKeys.foldlM (fun term key => (node.labels.lookup key).map (term.insert key)) acc =
      some t) (k : String) :
    t.lookup k = if k ∈ topologyKeys then node.labels.lookup k else acc.lookup k := by
  induction topologyKeys generalizing acc with
  | nil =>
    cases h
    simp
  | cons key rest ih =>
    obtain ⟨acc', hacc', hrest⟩ := Option.bind_eq_some_iff.mp h
    obtain ⟨v, hv, rfl⟩ := Option.map_eq_some_iff.mp hacc'
    rw [ih hrest]
    by_cases hk : k = key
    · subst hk
      simp [hv, AList.lookup_insert]
    · simp [hk, AList.lookup_insert_ne hk]

lemma getTopologyFromNode_lookup {node : Node} {topologyKeys : List String} {t : TopologyTerm}
    (h : getTopologyFromNode node topologyKeys = some t) (k : String) :
    t.lookup k = if k ∈ topologyKeys then node.labels.lookup k else none := by
  rw [lookup_foldlM_getTopologyFromNode h k]
  rfl

lemma getTopologyFromNode_subset {node : Node} {topologyKeys : List String} {t : TopologyTerm}
    (h : getTopologyFromNode node topologyKeys = some t) : t.subset node.labels = true := by
  rw [TopologyTerm.subset_iff]
  intro k v hkv
  rw [getTopologyFromNode_lookup h] at hkv
  split_ifs at hkv
  exact hkv

lemma foldlM_getTopologyFromNode_isSome {node : Node} {topologyKeys : List String}
    (acc : TopologyTerm) :
    (topologyKeys.foldlM (fun term key => (node.labels.lookup key).map (term.insert key))
      acc).isSome ↔ ∀ k ∈ topologyKeys, (node.labels.lookup k).isSome := by
  induction topologyKeys generalizing acc with
  | nil => simp
  | cons key rest ih =>
    rw [List.foldlM_cons]
    cases hlabel : node.labels.lookup key with
    | none => simp [hlabel]
    | some v => simp [hlabel, ih]

lemma mem_listNodes_iff {node : Node} {nodes : List Node} {topologyKeys : List String} :
    node ∈ listNodes nodes topologyKeys ↔
      node ∈ nodes ∧ ∃ t, getTopologyFromNode node topologyKeys = some t := by
  rw [listNodes, List.mem_filter, List.all_eq_true, ← Option.isSome_iff_exists,
    getTopologyFromNode, foldlM_getTopologyFromNode_isSome]

lemma lookup_isSome_of_getTopologyFromNode {node : Node} {topologyKeys : List String}
    {t : TopologyTerm} (h : getTopologyFromNode node topologyKeys = some t) (k : String) :
    (t.lookup k).isSome ↔ k ∈ topologyKeys := by
  have hall : ∀ k ∈ topologyKeys, (node.labels.lookup k).isSome :=
    (foldlM_getTopologyFromNode_isSome ∅).mp (by rw [← getTopologyFromNode, h]; rfl)
  rw [getTopologyFromNode_lookup h]
  split_ifs with hk
  · exact iff_of_true (hall k hk) hk
  · exact iff_of_false (by simp) hk

lemma entries_ne_nil_of_getTopologyFromNode {node : Node} {topologyKeys : List String}
    {t : TopologyTerm} (h : getTopologyFromNode node topologyKeys = some t)
    (hkeys : topologyKeys ≠ []) : t.entries ≠ [] := by
  obtain ⟨k, hk⟩ := List.exists_mem_of_ne_nil _ hkeys
  intro hnil
  have hsome := (lookup_isSome_of_getTopologyFromNode h k).mpr hk
  simp [AList.lookup, hnil] at hsome

/-! ### The topologies of the nodes -/

lemma mem_listedTopologies {nodes : List Node} {topologyKeys : List String} {t : TopologyTerm} :
    t ∈ (listNodes nodes topologyKeys).map (fun node =>
        (getTopologyFromNode node topologyKeys).getD ∅) ↔
      ∃ node ∈ listNodes nodes topologyKeys, getTopologyFromNode node topologyKeys = some t := by
  constructor
  · intro ht
    obtain ⟨node, hnode, rfl⟩ := List.mem_map.mp ht
    obtain ⟨t', ht'⟩ := (mem_listNodes_iff.mp hnode).2
    exact ⟨node, hnode, by rw [ht']; rfl⟩
  · rintro ⟨node, hnode, ht⟩
    exact List.mem_map.mpr ⟨node, hnode, by rw [ht]; rfl⟩

lemma nodeTopologies_of_ne_nil {nodes : List Node} {topologyKeys : List String}
    (h : listNodes nodes topologyKeys ≠ []) :
    nodeTopologies topologyKeys nodes = .ok ((listNodes nodes topologyKeys).map fun node =>
      (getTopologyFromNode node topologyKeys).getD ∅) := by
  have hlen : ((listNodes nodes topologyKeys).map fun node =>
      (getTopologyFromNode node topologyKeys).getD ∅).length ≠ 0 := by
    rw [List.length_map]
    exact fun hlen => h (List.length_eq_zero_iff.mp hlen)
  exact if_neg hlen

lemma nodeTopologies_of_nil {nodes : List Node} {topologyKeys : List String}
    (h : listNodes nodes topologyKeys = []) :
    nodeTopologies topologyKeys nodes =
      .error ("topologyKeys " ++ formatStrings topologyKeys ++ " were not found on any nodes") := by
  simp [nodeTopologies, h]

lemma nodeTopologies_eq_ok {nodes : List Node} {topologyKeys : List String}
    {terms : List TopologyTerm} (h : nodeTopologies topologyKeys nodes = .ok terms) :
    terms = (listNodes nodes topologyKeys).map fun node =>
      (getTopologyFromNode node topologyKeys).getD ∅ := by
  dsimp only [nodeTopologies] at h
  split_ifs at h
  cases h
  rfl

lemma firstTopologyKeys_spec {driverName : String} {topologyKeys : List String} :
    ∀ {csiNodes : List CSINode}, firstTopologyKeys driverName csiNodes = some topologyKeys →
      ∃ csiNode ∈ csiNodes, getTopologyKeys csiNode driverName = some topologyKeys
  | [], h => by cases h
  | csiNode :: csiNodes, h => by
    unfold firstTopologyKeys at h
    cases hkeys : getTopologyKeys csiNode driverName with
    | none =>
      rw [hkeys] at h
      obtain ⟨found, hfound, hfoundKeys⟩ := firstTopologyKeys_spec h
      exact ⟨found, List.mem_cons_of_mem _ hfound, hfoundKeys⟩
    | some keys =>
      rw [hkeys] at h
      exact ⟨csiNode, List.mem_cons_self, hkeys.trans h⟩

lemma firstTopologyKeys_isSome {driverName : String} {csiNode : CSINode}
    (hkeys : (getTopologyKeys csiNode driverName).isSome) :
    ∀ {csiNodes : List CSINode}, csiNode ∈ csiNodes →
      (firstTopologyKeys driverName csiNodes).isSome
  | [], hmem => by cases hmem
  | first :: csiNodes, hmem => by
    unfold firstTopologyKeys
    cases hfirst : getTopologyKeys first driverName with
    | none =>
      -- the CSINode with keys comes later
      have hlater : csiNode ∈ csiNodes := by
        rcases List.mem_cons.mp hmem with rfl | hlater
        · rw [hfirst] at hkeys
          cases hkeys
        · exact hlater
      exact firstTopologyKeys_isSome hkeys hlater
    | some keys => rfl

lemma aggregateTopologies_some {driverName : String} {csiNodes : List CSINode}
    {nodes : List Node} {shuffle : Arrangement CSINode} {csiNode : CSINode}
    (hkeys : (getTopologyKeys csiNode driverName).toList ≠ []) :
    aggregateTopologies driverName (some csiNode) csiNodes nodes shuffle =
      nodeTopologies (getTopologyKeys csiNode driverName).toList nodes :=
  if_neg fun hlen => hkeys (List.length_eq_zero_iff.mp hlen)

lemma aggregateTopologies_none {driverName : String} {csiNodes : List CSINode}
    {nodes : List Node} {shuffle : Arrangement CSINode} {topologyKeys : List String}
    (hfirst : firstTopologyKeys driverName (shuffle.arrange csiNodes) = some topologyKeys)
    (hkeys : topologyKeys ≠ []) :
    aggregateTopologies driverName none csiNodes nodes shuffle =
      nodeTopologies topologyKeys nodes := by
  have hlen : topologyKeys.length ≠ 0 := fun hlen => hkeys (List.length_eq_zero_iff.mp hlen)
  simp only [aggregateTopologies, hfirst, Slice.toList_some]
  exact if_neg hlen

/-! ### The steps -/

section

variable {driverName pvcName : String} {allowedTopologies : List TopologySelectorTerm}
  {strictTopology immediateTopology : Bool} {csiNodes : List CSINode} {nodes : List Node}
  {shuffle : Arrangement CSINode} {mapOrder : Arrangement TopologyTerm} {randUint32 : UInt32}

lemma selectNode_spec {node : Node} {selected : SelectedTopology}
    {requisiteTerms : List TopologyTerm}
    (h : selectNode driverName allowedTopologies strictTopology csiNodes node =
      .ok (selected, requisiteTerms)) :
    selected.node = node ∧ getSelectedCSINode csiNodes node = .ok selected.csiNode ∧
      getTopologyFromNode node (getTopologyKeys selected.csiNode driverName).toList =
        some selected.topology ∧
      requisiteTerms = (if strictTopology then [selected.topology] else []) ∧
      (getTopologyKeys selected.csiNode driverName).toList ≠ [] := by
  obtain ⟨csiNode, hcsi, h⟩ := bind_eq_ok.mp h
  dsimp only at h
  have hkeys : (getTopologyKeys csiNode driverName).toList.length ≠ 0 := by
    intro hlen
    rw [if_pos hlen] at h
    exact throw_ne_ok h
  rw [if_neg hkeys] at h
  have hne : (getTopologyKeys csiNode driverName).toList ≠ [] :=
    fun hnil => hkeys (by rw [hnil]; rfl)
  cases htopology : getTopologyFromNode node (getTopologyKeys csiNode driverName).toList with
  | none =>
    rw [htopology] at h
    dsimp only at h
    exact absurd h throw_ne_ok
  | some topology =>
    rw [htopology] at h
    dsimp only at h
    by_cases hstrict : strictTopology = true
    · rw [if_pos hstrict] at h
      -- the check against the allowed topologies passed
      split_ifs at h
      cases pure_eq_ok.mp h
      simp [hcsi, htopology, hstrict, hne]
    · rw [if_neg hstrict] at h
      cases pure_eq_ok.mp h
      simp [hcsi, htopology, hstrict, hne]

lemma selectNode_eq {node : Node} {csiNode : CSINode} {topology : TopologyTerm}
    (hcsi : getSelectedCSINode csiNodes node = .ok csiNode)
    (hkeys : (getTopologyKeys csiNode driverName).toList ≠ [])
    (htopology : getTopologyFromNode node (getTopologyKeys csiNode driverName).toList =
      some topology) :
    selectNode driverName allowedTopologies strictTopology csiNodes node =
      if strictTopology = true ∧ allowedTopologies.length ≠ 0 ∧
          (flatten allowedTopologies).any (·.subset topology) = false then
        .error ("selected node '" ++ quote node.name ++ "' topology '" ++ formatStrMap topology ++
          "' is not in allowed topologies: " ++ formatTerms (flatten allowedTopologies))
      else .ok (⟨node, csiNode, topology⟩, if strictTopology then [topology] else []) := by
  have hlen : (getTopologyKeys csiNode driverName).toList.length ≠ 0 :=
    fun h => hkeys (List.length_eq_zero_iff.mp h)
  simp only [selectNode, hcsi, bind, Except.bind, if_neg hlen, htopology]
  cases strictTopology <;> simp [throw, throwThe, MonadExceptOf.throw, pure, Except.pure]

lemma requisiteTermsOf_of_ne_nil {selected : Option SelectedTopology}
    {requisiteTerms : List TopologyTerm} (h : requisiteTerms ≠ []) :
    requisiteTermsOf driverName allowedTopologies selected requisiteTerms immediateTopology
      csiNodes nodes shuffle = .ok (some requisiteTerms) := by
  have hlen : requisiteTerms.length ≠ 0 := fun hlen => h (List.length_eq_zero_iff.mp hlen)
  simp [requisiteTermsOf, hlen]

lemma requisiteTermsOf_allowed {selected : Option SelectedTopology}
    (h : allowedTopologies ≠ []) :
    requisiteTermsOf driverName allowedTopologies selected [] immediateTopology csiNodes nodes
      shuffle = .ok (some (flatten allowedTopologies)) := by
  have hlen : allowedTopologies.length ≠ 0 := fun hlen => h (List.length_eq_zero_iff.mp hlen)
  simp [requisiteTermsOf, hlen]

lemma requisiteTermsOf_aggregate_ok {selected : Option SelectedTopology}
    (hbinding : selected.isSome ∨ immediateTopology = true) {terms : List TopologyTerm}
    (h : aggregateTopologies driverName (selected.map (·.csiNode)) csiNodes nodes shuffle =
      .ok terms) (hne : terms ≠ []) :
    requisiteTermsOf driverName [] selected [] immediateTopology csiNodes nodes shuffle =
      .ok (some terms) := by
  have hlen : terms.length ≠ 0 := fun hlen => hne (List.length_eq_zero_iff.mp hlen)
  -- the topology is unlimited only in delayed binding before a node is selected
  have haggregate : ¬ (selected.isNone = true ∧ (!immediateTopology) = true) := by
    rintro ⟨hnone, hdelayed⟩
    rcases hbinding with hsome | himmediate
    · rw [Option.isNone_iff_eq_none.mp hnone] at hsome
      cases hsome
    · rw [himmediate] at hdelayed
      cases hdelayed
  rw [requisiteTermsOf, if_pos List.length_nil, if_neg (fun h => h List.length_nil),
    if_neg haggregate, h]
  exact if_neg hlen

lemma requisiteTermsOf_aggregate_error {selected : Option SelectedTopology}
    (hbinding : selected.isSome ∨ immediateTopology = true) {e : String}
    (h : aggregateTopologies driverName (selected.map (·.csiNode)) csiNodes nodes shuffle =
      .error e) :
    requisiteTermsOf driverName [] selected [] immediateTopology csiNodes nodes shuffle =
      .error e := by
  -- the topology is unlimited only in delayed binding before a node is selected
  have haggregate : ¬ (selected.isNone = true ∧ (!immediateTopology) = true) := by
    rintro ⟨hnone, hdelayed⟩
    rcases hbinding with hsome | himmediate
    · rw [Option.isNone_iff_eq_none.mp hnone] at hsome
      cases hsome
    · rw [himmediate] at hdelayed
      cases hdelayed
  rw [requisiteTermsOf, if_pos List.length_nil, if_neg (fun h => h List.length_nil),
    if_neg haggregate, h]

lemma entries_ne_nil_of_requisiteTermsOf {s : SelectedTopology} {terms : List TopologyTerm}
    (hkeys : (getTopologyKeys s.csiNode driverName).toList ≠ [])
    (h : requisiteTermsOf driverName allowedTopologies (some s) [] immediateTopology csiNodes nodes
      shuffle = .ok (some terms)) :
    ∀ t ∈ terms, t.entries ≠ [] := by
  unfold requisiteTermsOf at h
  rw [if_pos List.length_nil] at h
  split_ifs at h with hallowed hunlimited
  · cases h
    exact entries_ne_nil_of_mem_flatten
  · cases h
  · rw [Option.map_some, aggregateTopologies_some hkeys] at h
    cases hnodes : nodeTopologies (getTopologyKeys s.csiNode driverName).toList nodes with
    | error e =>
      rw [hnodes] at h
      cases h
    | ok found =>
      rw [hnodes] at h
      dsimp only at h
      split_ifs at h
      cases h
      intro t ht
      rw [nodeTopologies_eq_ok hnodes] at ht
      obtain ⟨node, -, htopology⟩ := mem_listedTopologies.mp ht
      exact entries_ne_nil_of_getTopologyFromNode htopology hkeys

/-- **The structure of `GenerateAccessibilityRequirements`.** A requirement is made of the
deduplicated requisite terms of steps 1 and 2, and the preferred terms of step 3. -/
lemma GenerateAccessibilityRequirements_eq_some {selectedNode : Option Node}
    {requirement : TopologyRequirement}
    (h : GenerateAccessibilityRequirements driverName pvcName allowedTopologies selectedNode
      strictTopology immediateTopology csiNodes nodes shuffle mapOrder randUint32 =
        .ok (some requirement)) :
    ∃ selected requisiteTerms₀ requisiteTerms preferredTerms,
      selectStep driverName allowedTopologies strictTopology csiNodes selectedNode =
        .ok (selected, requisiteTerms₀) ∧
      requisiteTermsOf driverName allowedTopologies selected requisiteTerms₀ immediateTopology
        csiNodes nodes shuffle = .ok (some requisiteTerms) ∧
      requisiteTerms ≠ [] ∧
      preferredTermsOf pvcName selected strictTopology (deduplicate mapOrder requisiteTerms)
        randUint32 = .ok preferredTerms ∧
      requirement = ⟨toCSITopology (deduplicate mapOrder requisiteTerms),
        toCSITopology preferredTerms⟩ := by
  obtain ⟨⟨selected, requisiteTerms₀⟩, hstep, h⟩ := bind_eq_ok.mp h
  dsimp only at h
  obtain ⟨found, hfound, h⟩ := bind_eq_ok.mp h
  cases found with
  | none => cases pure_eq_ok.mp h
  | some requisiteTerms =>
    dsimp only at h
    split_ifs at h with hlen
    · cases pure_eq_ok.mp h
    · obtain ⟨preferredTerms, hpreferred, h⟩ := bind_eq_ok.mp h
      cases pure_eq_ok.mp h
      exact ⟨selected, requisiteTerms₀, requisiteTerms, preferredTerms, hstep, hfound,
        fun hnil => hlen (by rw [hnil]; rfl), hpreferred, rfl⟩

lemma GenerateAccessibilityRequirements_eq {selectedNode : Option Node}
    {selected : Option SelectedTopology} {requisiteTerms₀ requisiteTerms : List TopologyTerm}
    (hstep : selectStep driverName allowedTopologies strictTopology csiNodes selectedNode =
      .ok (selected, requisiteTerms₀))
    (hrequisite : requisiteTermsOf driverName allowedTopologies selected requisiteTerms₀
      immediateTopology csiNodes nodes shuffle = .ok (some requisiteTerms))
    (hne : requisiteTerms ≠ []) :
    GenerateAccessibilityRequirements driverName pvcName allowedTopologies selectedNode
        strictTopology immediateTopology csiNodes nodes shuffle mapOrder randUint32 =
      (fun preferredTerms => some ⟨toCSITopology (deduplicate mapOrder requisiteTerms),
        toCSITopology preferredTerms⟩) <$>
        preferredTermsOf pvcName selected strictTopology (deduplicate mapOrder requisiteTerms)
          randUint32 := by
  have hlen : requisiteTerms.length ≠ 0 := fun hlen => hne (List.length_eq_zero_iff.mp hlen)
  simp only [GenerateAccessibilityRequirements, hstep, hrequisite, bind, Except.bind, if_neg hlen]
  cases preferredTermsOf pvcName selected strictTopology (deduplicate mapOrder requisiteTerms)
    randUint32 <;> rfl

end

/-! ### The shape of a requirement -/

/-- **The shape of a topology requirement** with the requisite terms `requisite` and the
preferred terms `preferred`: distinct requisite terms, and the same terms sorted by `less` and
rotated, by the index of the claim's StatefulSet replica without a selected node, and to a
subset of the selected node's topology with one; with strict topology, that topology alone. -/
def Shaped (driverName pvcName : String) (selectedNode : Option Node) (strictTopology : Bool)
    (csiNodes : List CSINode) (randUint32 : UInt32) (requisite preferred : List TopologyTerm) :
    Prop :=
  requisite ≠ [] ∧ requisite.Pairwise (fun t t' => ¬ t.entries.Perm t'.entries) ∧
    preferred.Perm requisite ∧ (sortTerms requisite).Pairwise (fun t t' => t.less t' = true) ∧
    (selectedNode = none → preferred =
      (sortTerms requisite).rotate (spreadingIndex pvcName randUint32 requisite.length).toNat) ∧
    ∀ node, selectedNode = some node → ∃ csiNode topology,
      getSelectedCSINode csiNodes node = .ok csiNode ∧
      getTopologyFromNode node (getTopologyKeys csiNode driverName).toList = some topology ∧
      (strictTopology = true → requisite = [topology] ∧ preferred = [topology]) ∧
      (strictTopology = false → ∃ i < requisite.length, preferred = (sortTerms requisite).rotate i ∧
        ∃ t, preferred.head? = some t ∧ t.subset topology = true)

section

variable {driverName pvcName : String} {allowedTopologies : List TopologySelectorTerm}
  {strictTopology immediateTopology : Bool} {csiNodes : List CSINode} {nodes : List Node}
  {shuffle : Arrangement CSINode} {mapOrder : Arrangement TopologyTerm} {randUint32 : UInt32}

lemma selectStep_none {selected : Option SelectedTopology} {requisiteTerms : List TopologyTerm}
    (h : selectStep driverName allowedTopologies strictTopology csiNodes none =
      .ok (selected, requisiteTerms)) : selected = none ∧ requisiteTerms = [] := by
  cases h
  exact ⟨rfl, rfl⟩

lemma selectStep_some {node : Node} {selected : Option SelectedTopology}
    {requisiteTerms : List TopologyTerm}
    (h : selectStep driverName allowedTopologies strictTopology csiNodes (some node) =
      .ok (selected, requisiteTerms)) :
    ∃ s, selected = some s ∧
      selectNode driverName allowedTopologies strictTopology csiNodes node = .ok (s, requisiteTerms) := by
  obtain ⟨⟨s, terms⟩, hselect, hpair⟩ := map_eq_ok.mp h
  cases hpair
  exact ⟨s, rfl, hselect⟩

lemma selectStep_some_of_ok {node : Node} {s : SelectedTopology}
    {requisiteTerms : List TopologyTerm}
    (h : selectNode driverName allowedTopologies strictTopology csiNodes node =
      .ok (s, requisiteTerms)) :
    selectStep driverName allowedTopologies strictTopology csiNodes (some node) =
      .ok (some s, requisiteTerms) := by
  simp [selectStep, h, Functor.map, Except.map]

lemma selectStep_some_of_error {node : Node} {e : String}
    (h : selectNode driverName allowedTopologies strictTopology csiNodes node = .error e) :
    selectStep driverName allowedTopologies strictTopology csiNodes (some node) = .error e := by
  simp [selectStep, h, Functor.map, Except.map]

lemma preferredTermsOf_none {terms : List TopologyTerm} (h : terms ≠ []) :
    preferredTermsOf pvcName none strictTopology terms randUint32 =
      .ok ((sortTerms terms).rotate (spreadingIndex pvcName randUint32 terms.length).toNat) := by
  have hlt := spreadingIndex_lt pvcName randUint32 (List.length_pos_of_ne_nil h)
  simp [preferredTermsOf, sortAndShift_none hlt.le]

lemma preferredTermsOf_strict (selected : SelectedTopology) (terms : List TopologyTerm) :
    preferredTermsOf pvcName (some selected) true terms randUint32 = .ok terms := rfl

lemma preferredTermsOf_eq_ok_iff {selected : SelectedTopology}
    {terms preferred : List TopologyTerm} :
    preferredTermsOf pvcName (some selected) false terms randUint32 = .ok preferred ↔
      sortAndShift terms (some selected.topology) 0 = some preferred := by
  cases hsort : sortAndShift terms (some selected.topology) 0 <;> simp [preferredTermsOf, hsort]

lemma preferredTermsOf_perm {selected : Option SelectedTopology}
    {terms preferred : List TopologyTerm} (hne : terms ≠ [])
    (h : preferredTermsOf pvcName selected strictTopology terms randUint32 = .ok preferred) :
    preferred.Perm terms := by
  cases selected with
  | none =>
    rw [preferredTermsOf_none hne] at h
    cases h
    exact rotate_sortTerms_perm _ _
  | some selected =>
    cases strictTopology with
    | true =>
      rw [preferredTermsOf_strict] at h
      cases h
      exact List.Perm.refl _
    | false =>
      obtain ⟨i, -, rfl, -⟩ := sortAndShift_eq_some (preferredTermsOf_eq_ok_iff.mp h)
      exact rotate_sortTerms_perm _ i

lemma pairwise_not_perm {terms : List TopologyTerm} (h : (terms.map (·.hash)).Nodup) :
    terms.Pairwise fun t t' => ¬ t.entries.Perm t'.entries :=
  (List.pairwise_map.mp h).imp TopologyTerm.not_perm_of_hash_ne

end

/-- **The shape of the requirement `GenerateAccessibilityRequirements` returns.** For every
input on which it returns a requirement, the requisite terms are distinct and not empty, and
the preferred terms are a rotation of them sorted by `less`: by the index of the claim's
StatefulSet replica in immediate binding, which depends on the claim's name only through the
part after its claim's name, and to a subset of the selected node's topology with a selected
node; with strict topology both are that topology alone. -/
theorem GenerateAccessibilityRequirements_shape (driverName pvcName : String)
    (allowedTopologies : List TopologySelectorTerm) (selectedNode : Option Node)
    (strictTopology immediateTopology : Bool) (csiNodes : List CSINode) (nodes : List Node)
    (shuffle : Arrangement CSINode) (mapOrder : Arrangement TopologyTerm) (randUint32 : UInt32)
    {requirement : TopologyRequirement}
    (h : GenerateAccessibilityRequirements driverName pvcName allowedTopologies selectedNode
      strictTopology immediateTopology csiNodes nodes shuffle mapOrder randUint32 =
        .ok (some requirement)) :
    (∃ requisite preferred, requirement = ⟨toCSITopology requisite, toCSITopology preferred⟩ ∧
      Shaped driverName pvcName selectedNode strictTopology csiNodes randUint32 requisite
        preferred) ∧
    ∀ claimName₁ claimName₂ setName : List Char, ∀ id < 2 ^ 32,
      getPVCNameHashAndIndexOffset (replicaName (claimName₁ ++ '-' :: setName) id) randUint32 =
        getPVCNameHashAndIndexOffset (replicaName (claimName₂ ++ '-' :: setName) id) randUint32 := by
  refine ⟨?_, fun claimName₁ claimName₂ setName id hid =>
    getPVCNameHashAndIndexOffset_claimName claimName₁ claimName₂ setName hid randUint32⟩
  obtain ⟨selected, requisiteTerms₀, requisiteTerms, preferred, hstep, hrequisite, hne,
    hpreferred, rfl⟩ := GenerateAccessibilityRequirements_eq_some h
  have hnodup := nodup_hash_deduplicate mapOrder requisiteTerms
  have hdedup := deduplicate_ne_nil mapOrder requisiteTerms hne
  refine ⟨deduplicate mapOrder requisiteTerms, preferred, rfl, hdedup, pairwise_not_perm hnodup,
    preferredTermsOf_perm hdedup hpreferred, sortTerms_pairwise_less hnodup, ?_, ?_⟩
  · -- immediate binding
    rintro rfl
    obtain ⟨rfl, -⟩ := selectStep_none hstep
    rw [preferredTermsOf_none hdedup] at hpreferred
    cases hpreferred
    rfl
  · -- delayed binding
    rintro node rfl
    obtain ⟨s, rfl, hselect⟩ := selectStep_some hstep
    obtain ⟨-, hcsi, htopology, hterms, -⟩ := selectNode_spec hselect
    refine ⟨s.csiNode, s.topology, hcsi, htopology, fun hstrict => ?_, fun hstrict => ?_⟩
    · -- the selected node's topology is the one requisite term
      rw [hstrict, if_pos rfl] at hterms
      subst hterms
      rw [requisiteTermsOf_of_ne_nil (List.cons_ne_nil _ _)] at hrequisite
      cases hrequisite
      rw [hstrict, preferredTermsOf_strict, deduplicate_singleton] at hpreferred
      cases hpreferred
      exact ⟨deduplicate_singleton _ _, rfl⟩
    · subst hstrict
      obtain ⟨i, hi, hrot, t, hhead, hsub⟩ :=
        sortAndShift_eq_some (preferredTermsOf_eq_ok_iff.mp hpreferred)
      exact ⟨i, hi, hrot, t, hhead, hsub⟩

theorem GenerateAccessibilityRequirements_shape_zoneRack :
    ∃ requirement, GenerateAccessibilityRequirements "hostpath.csi.k8s.io" "www-web-1"
        zoneRackTopologies none false false [] [] (Arrangement.id _) (Arrangement.id _) 0 =
        .ok (some requirement) ∧
      (∃ requisite preferred, requirement = ⟨toCSITopology requisite, toCSITopology preferred⟩ ∧
        Shaped "hostpath.csi.k8s.io" "www-web-1" none false [] 0 requisite preferred) ∧
      ∀ claimName₁ claimName₂ setName : List Char, ∀ id < 2 ^ 32,
        getPVCNameHashAndIndexOffset (replicaName (claimName₁ ++ '-' :: setName) id) 0 =
          getPVCNameHashAndIndexOffset (replicaName (claimName₂ ++ '-' :: setName) id) 0 := by
  obtain ⟨requirement, h⟩ : ∃ requirement, GenerateAccessibilityRequirements
      "hostpath.csi.k8s.io" "www-web-1" zoneRackTopologies none false false [] []
      (Arrangement.id _) (Arrangement.id _) 0 = .ok (some requirement) := ⟨_, rfl⟩
  exact ⟨requirement, h, GenerateAccessibilityRequirements_shape _ _ _ _ _ _ _ _ _ _ _ h⟩

/-! ### The topology keys of immediate binding -/

/-- **A CSINode with an empty, non-nil list of keys ends the search for keys.** In immediate
binding without allowed topologies, whenever one of the CSINodes lists the driver with no
topology keys, some order of `rand.Shuffle` makes the call fail, whatever the other CSINodes
list. -/
theorem GenerateAccessibilityRequirements_stops_at_empty_keys {driverName : String}
    {csiNodes : List CSINode} {csiNode : CSINode} (hmem : csiNode ∈ csiNodes)
    (hempty : getTopologyKeys csiNode driverName = some []) (pvcName : String)
    (strictTopology : Bool) (nodes : List Node) (mapOrder : Arrangement TopologyTerm)
    (randUint32 : UInt32) :
    ∃ shuffle : Arrangement CSINode,
      GenerateAccessibilityRequirements driverName pvcName [] none strictTopology true csiNodes
        nodes shuffle mapOrder randUint32 = .error "no available topology found" := by
  refine ⟨Arrangement.front csiNodes csiNode hmem, ?_⟩
  -- the shuffle puts that CSINode first, and the loop stops there
  have hkeys : firstTopologyKeys driverName
      ((Arrangement.front csiNodes csiNode hmem).arrange csiNodes) = some [] := by
    rw [Arrangement.front_arrange hmem]
    simp [firstTopologyKeys, hempty]
  have haggregate : aggregateTopologies driverName none csiNodes nodes
      (Arrangement.front csiNodes csiNode hmem) = .ok [] := by
    simp [aggregateTopologies, hkeys]
  simp [GenerateAccessibilityRequirements, selectStep, requisiteTermsOf, haggregate, bind,
    Except.bind]

def keylessCSINode : CSINode := ⟨"node-a", [⟨"hostpath.csi.k8s.io", some []⟩]⟩

def hostCSINode : CSINode :=
  ⟨"node-b", [⟨"hostpath.csi.k8s.io", some ["topology.hostpath.csi/node"]⟩]⟩

def hostNode : Node := ⟨"node-b", (∅ : StrMap).insert "topology.hostpath.csi/node" "node-b"⟩

theorem GenerateAccessibilityRequirements_stops_at_keyless_node :
    keylessCSINode ∈ [keylessCSINode, hostCSINode] ∧
      getTopologyKeys keylessCSINode "hostpath.csi.k8s.io" = some [] ∧
      getTopologyKeys hostCSINode "hostpath.csi.k8s.io" = some ["topology.hostpath.csi/node"] ∧
      (∃ shuffle : Arrangement CSINode,
        GenerateAccessibilityRequirements "hostpath.csi.k8s.io" "pvc-1" [] none false true
          [keylessCSINode, hostCSINode] [hostNode] shuffle (Arrangement.id _) 0 =
          .error "no available topology found") ∧
      ∃ requirement, GenerateAccessibilityRequirements "hostpath.csi.k8s.io" "pvc-1" [] none
        false true [keylessCSINode, hostCSINode] [hostNode]
        (Arrangement.front [keylessCSINode, hostCSINode] hostCSINode
          (List.mem_cons_of_mem _ (List.mem_singleton_self _)))
        (Arrangement.id _) 0 = .ok (some requirement) := by
  have hmem : keylessCSINode ∈ [keylessCSINode, hostCSINode] := List.mem_cons_self
  have hempty : getTopologyKeys keylessCSINode "hostpath.csi.k8s.io" = some [] := rfl
  exact ⟨hmem, hempty, rfl,
    GenerateAccessibilityRequirements_stops_at_empty_keys hmem hempty "pvc-1" false [hostNode]
      (Arrangement.id _) 0, _, rfl⟩

/-! ### Strict and non-strict topology on allowed topologies -/

section

variable {driverName pvcName : String} {allowedTopologies : List TopologySelectorTerm}
  {strictTopology immediateTopology : Bool} {csiNodes : List CSINode} {nodes : List Node}
  {shuffle : Arrangement CSINode} {mapOrder : Arrangement TopologyTerm} {randUint32 : UInt32}

lemma any_subset_eq_false_iff {terms : List TopologyTerm} {topology : TopologyTerm} :
    terms.any (·.subset topology) = false ↔ ¬ ∃ t ∈ terms, t.subset topology = true := by
  simp [List.any_eq_false]

lemma GenerateAccessibilityRequirements_of_selectStep_error {selectedNode : Option Node}
    {e : String}
    (h : selectStep driverName allowedTopologies strictTopology csiNodes selectedNode = .error e) :
    GenerateAccessibilityRequirements driverName pvcName allowedTopologies selectedNode
      strictTopology immediateTopology csiNodes nodes shuffle mapOrder randUint32 = .error e := by
  simp [GenerateAccessibilityRequirements, h, bind, Except.bind]

lemma exists_map_eq_ok_iff {α β : Type} {f : α → β} {x : Except String α} :
    (∃ b, f <$> x = .ok b) ↔ ∃ a, x = .ok a := by
  cases x <;> simp [Functor.map, Except.map]

lemma GenerateAccessibilityRequirements_strict_iff {node : Node} {csiNode : CSINode}
    {topology : TopologyTerm} (hcsi : getSelectedCSINode csiNodes node = .ok csiNode)
    (hkeys : (getTopologyKeys csiNode driverName).toList ≠ [])
    (htopology : getTopologyFromNode node (getTopologyKeys csiNode driverName).toList =
      some topology)
    (hallowed : allowedTopologies ≠ []) :
    (∃ r, GenerateAccessibilityRequirements driverName pvcName allowedTopologies (some node) true
        immediateTopology csiNodes nodes shuffle mapOrder randUint32 = .ok r) ↔
      ∃ t ∈ flatten allowedTopologies, t.subset topology = true := by
  have hlen : allowedTopologies.length ≠ 0 := fun h => hallowed (List.length_eq_zero_iff.mp h)
  -- strict topology checks the flattened terms before anything else
  by_cases hadmit : ∃ t ∈ flatten allowedTopologies, t.subset topology = true
  · have hchecked : ¬ (true = true ∧ allowedTopologies.length ≠ 0 ∧
        (flatten allowedTopologies).any (·.subset topology) = false) := by
      rintro ⟨-, -, hany⟩
      exact any_subset_eq_false_iff.mp hany hadmit
    have hselect : selectNode driverName allowedTopologies true csiNodes node =
        .ok (⟨node, csiNode, topology⟩, [topology]) := by
      rw [selectNode_eq hcsi hkeys htopology, if_neg hchecked]
      rfl
    rw [GenerateAccessibilityRequirements_eq (selectStep_some_of_ok hselect)
      (requisiteTermsOf_of_ne_nil (List.cons_ne_nil _ _)) (List.cons_ne_nil _ _)]
    exact iff_of_true ⟨_, rfl⟩ hadmit
  · have hselect : selectNode driverName allowedTopologies true csiNodes node =
        .error ("selected node '" ++ quote node.name ++ "' topology '" ++
          formatStrMap topology ++ "' is not in allowed topologies: " ++
          formatTerms (flatten allowedTopologies)) := by
      rw [selectNode_eq hcsi hkeys htopology,
        if_pos ⟨rfl, hlen, any_subset_eq_false_iff.mpr hadmit⟩]
    rw [GenerateAccessibilityRequirements_of_selectStep_error (selectStep_some_of_error hselect)]
    exact iff_of_false (fun ⟨_, h⟩ => by cases h) hadmit

lemma GenerateAccessibilityRequirements_nonstrict_iff {node : Node} {csiNode : CSINode}
    {topology : TopologyTerm} (hcsi : getSelectedCSINode csiNodes node = .ok csiNode)
    (hkeys : (getTopologyKeys csiNode driverName).toList ≠ [])
    (htopology : getTopologyFromNode node (getTopologyKeys csiNode driverName).toList =
      some topology)
    (hflat : flatten allowedTopologies ≠ []) :
    (∃ r, GenerateAccessibilityRequirements driverName pvcName allowedTopologies (some node)
        false immediateTopology csiNodes nodes shuffle mapOrder randUint32 = .ok r) ↔
      ∃ t ∈ deduplicate mapOrder (flatten allowedTopologies), t.subset topology = true := by
  have hallowed : allowedTopologies ≠ [] := by
    rintro rfl
    exact hflat rfl
  let selected : SelectedTopology := ⟨node, csiNode, topology⟩
  have hselect : selectNode driverName allowedTopologies false csiNodes node =
      .ok (selected, []) := by
    rw [selectNode_eq hcsi hkeys htopology, if_neg (fun h => Bool.false_ne_true h.1)]
    rfl
  rw [GenerateAccessibilityRequirements_eq (selectStep_some_of_ok hselect)
    (requisiteTermsOf_allowed hallowed) hflat, exists_map_eq_ok_iff]
  simp only [preferredTermsOf_eq_ok_iff]
  -- step 3 looks for the node's topology among the deduplicated terms
  rw [← Option.isSome_iff_exists, ← not_iff_not, Option.not_isSome_iff_eq_none,
    sortAndShift_eq_none_iff]
  simp [selected]

end

/-- **Strict and non-strict topology on the allowed topologies of a class.** For a selected
node whose CSINode lists topology keys that it has labels for, and allowed topologies that
flatten to at least one term, strict topology succeeds exactly when a flattened term is a
subset of the node's topology, and non-strict topology exactly when a deduplicated one is. -/
theorem GenerateAccessibilityRequirements_strict_nonstrict {driverName : String}
    {allowedTopologies : List TopologySelectorTerm} {csiNodes : List CSINode} {node : Node}
    {csiNode : CSINode} {topology : TopologyTerm}
    (hcsi : getSelectedCSINode csiNodes node = .ok csiNode)
    (hkeys : (getTopologyKeys csiNode driverName).toList ≠ [])
    (htopology : getTopologyFromNode node (getTopologyKeys csiNode driverName).toList =
      some topology)
    (hflat : flatten allowedTopologies ≠ []) (pvcName : String) (immediateTopology : Bool)
    (nodes : List Node) (shuffle : Arrangement CSINode) (mapOrder : Arrangement TopologyTerm)
    (randUint32 : UInt32) :
    ((∃ r, GenerateAccessibilityRequirements driverName pvcName allowedTopologies (some node) true
        immediateTopology csiNodes nodes shuffle mapOrder randUint32 = .ok r) ↔
      ∃ t ∈ flatten allowedTopologies, t.subset topology = true) ∧
    ((∃ r, GenerateAccessibilityRequirements driverName pvcName allowedTopologies (some node)
        false immediateTopology csiNodes nodes shuffle mapOrder randUint32 = .ok r) ↔
      ∃ t ∈ deduplicate mapOrder (flatten allowedTopologies), t.subset topology = true) := by
  have hallowed : allowedTopologies ≠ [] := by
    rintro rfl
    exact hflat rfl
  exact ⟨GenerateAccessibilityRequirements_strict_iff hcsi hkeys htopology hallowed,
    GenerateAccessibilityRequirements_nonstrict_iff hcsi hkeys htopology hflat⟩

def rackNode : Node := ⟨"node-1", ((∅ : StrMap).insert "zone" "zone1").insert "rack" "rackA"⟩

def rackCSINode : CSINode := ⟨"node-1", [⟨"hostpath.csi.k8s.io", some ["zone", "rack"]⟩]⟩

/-- Allowed topologies whose two terms flatten to two terms of one hash: the zone and the rack
of the node, and a rack whose value holds the rest of that hash. -/
def collidingTopologies : List TopologySelectorTerm :=
  [⟨[⟨"zone", ["zone1"]⟩, ⟨"rack", ["rackA"]⟩]⟩, ⟨[⟨"rack", ["rackA,zone#zone1"]⟩]⟩]

theorem GenerateAccessibilityRequirements_strict_nonstrict_colliding :
    (∀ term ∈ collidingTopologies, Validated term ∧ term.matchLabelExpressions ≠ []) ∧
      getSelectedCSINode [rackCSINode] rackNode = .ok rackCSINode ∧
      (getTopologyKeys rackCSINode "hostpath.csi.k8s.io").toList ≠ [] ∧
      getTopologyFromNode rackNode (getTopologyKeys rackCSINode "hostpath.csi.k8s.io").toList =
        some rackNode.labels ∧
      flatten collidingTopologies ≠ [] ∧
      (∃ r, GenerateAccessibilityRequirements "hostpath.csi.k8s.io" "pvc-1" collidingTopologies
        (some rackNode) true false [rackCSINode] [rackNode] (Arrangement.id _) (Arrangement.id _)
        0 = .ok r) ∧
      ¬ ∃ r, GenerateAccessibilityRequirements "hostpath.csi.k8s.io" "pvc-1" collidingTopologies
        (some rackNode) false false [rackCSINode] [rackNode] (Arrangement.id _)
        (Arrangement.id _) 0 = .ok r := by
  have hvalid : ∀ term ∈ collidingTopologies, Validated term ∧ term.matchLabelExpressions ≠ [] := by
    intro term hterm
    simp only [collidingTopologies, List.mem_cons, List.not_mem_nil, or_false] at hterm
    rcases hterm with rfl | rfl
    · exact ⟨⟨by decide, by decide⟩, List.cons_ne_nil _ _⟩
    · exact ⟨⟨by decide, by decide⟩, List.cons_ne_nil _ _⟩
  have hcsi : getSelectedCSINode [rackCSINode] rackNode = .ok rackCSINode := rfl
  have hkeys : (getTopologyKeys rackCSINode "hostpath.csi.k8s.io").toList ≠ [] := by decide
  have htopology : getTopologyFromNode rackNode
      (getTopologyKeys rackCSINode "hostpath.csi.k8s.io").toList = some rackNode.labels := rfl
  have hflat : flatten collidingTopologies ≠ [] := by decide
  have hadmit : ∃ t ∈ flatten collidingTopologies, t.subset rackNode.labels = true := by decide
  have hrefuse : ¬ ∃ t ∈ deduplicate (Arrangement.id _) (flatten collidingTopologies),
      t.subset rackNode.labels = true := by decide
  obtain ⟨hstrict, hnonstrict⟩ := GenerateAccessibilityRequirements_strict_nonstrict hcsi hkeys
    htopology hflat "pvc-1" false [rackNode] (Arrangement.id _) (Arrangement.id _) 0
  exact ⟨hvalid, hcsi, hkeys, htopology, hflat, hstrict.mpr hadmit,
    fun h => hrefuse (hnonstrict.mp h)⟩

/-- **Strict and non-strict topology agree on allowed topologies of plain pairs**, as label
keys and values are: `deduplicate` then drops no map, and non-strict topology admits the
selected nodes that strict topology admits. -/
theorem GenerateAccessibilityRequirements_strict_iff_nonstrict {driverName : String}
    {allowedTopologies : List TopologySelectorTerm} {csiNodes : List CSINode} {node : Node}
    {csiNode : CSINode} {topology : TopologyTerm}
    (hcsi : getSelectedCSINode csiNodes node = .ok csiNode)
    (hkeys : (getTopologyKeys csiNode driverName).toList ≠ [])
    (htopology : getTopologyFromNode node (getTopologyKeys csiNode driverName).toList =
      some topology)
    (hflat : flatten allowedTopologies ≠ [])
    (hplain : ∀ term ∈ allowedTopologies, PlainRequirements term) (pvcName : String)
    (immediateTopology : Bool) (nodes : List Node) (shuffle : Arrangement CSINode)
    (mapOrder : Arrangement TopologyTerm) (randUint32 : UInt32) :
    (∃ r, GenerateAccessibilityRequirements driverName pvcName allowedTopologies (some node) true
        immediateTopology csiNodes nodes shuffle mapOrder randUint32 = .ok r) ↔
      ∃ r, GenerateAccessibilityRequirements driverName pvcName allowedTopologies (some node)
        false immediateTopology csiNodes nodes shuffle mapOrder randUint32 = .ok r := by
  have hallowed : allowedTopologies ≠ [] := by
    rintro rfl
    exact hflat rfl
  rw [GenerateAccessibilityRequirements_strict_iff hcsi hkeys htopology hallowed,
    GenerateAccessibilityRequirements_nonstrict_iff hcsi hkeys htopology hflat,
    exists_subset_deduplicate_iff mapOrder (plain_flatten hplain)]

theorem GenerateAccessibilityRequirements_strict_iff_nonstrict_zoneRack :
    getSelectedCSINode [rackCSINode] rackNode = .ok rackCSINode ∧
      (getTopologyKeys rackCSINode "hostpath.csi.k8s.io").toList ≠ [] ∧
      getTopologyFromNode rackNode (getTopologyKeys rackCSINode "hostpath.csi.k8s.io").toList =
        some rackNode.labels ∧
      flatten zoneRackTopologies ≠ [] ∧
      (∀ term ∈ zoneRackTopologies, PlainRequirements term) ∧
      ((∃ r, GenerateAccessibilityRequirements "hostpath.csi.k8s.io" "pvc-1" zoneRackTopologies
        (some rackNode) true false [rackCSINode] [rackNode] (Arrangement.id _) (Arrangement.id _)
        0 = .ok r) ↔
      ∃ r, GenerateAccessibilityRequirements "hostpath.csi.k8s.io" "pvc-1" zoneRackTopologies
        (some rackNode) false false [rackCSINode] [rackNode] (Arrangement.id _)
        (Arrangement.id _) 0 = .ok r) := by
  have hcsi : getSelectedCSINode [rackCSINode] rackNode = .ok rackCSINode := rfl
  have hkeys : (getTopologyKeys rackCSINode "hostpath.csi.k8s.io").toList ≠ [] := by decide
  have htopology : getTopologyFromNode rackNode
      (getTopologyKeys rackCSINode "hostpath.csi.k8s.io").toList = some rackNode.labels := rfl
  have hflat : flatten zoneRackTopologies ≠ [] := by decide
  have hplain : ∀ term ∈ zoneRackTopologies, PlainRequirements term := by decide
  exact ⟨hcsi, hkeys, htopology, hflat, hplain,
    GenerateAccessibilityRequirements_strict_iff_nonstrict hcsi hkeys htopology hflat hplain
      "pvc-1" false [rackNode] (Arrangement.id _) (Arrangement.id _) 0⟩

/-! ### Aggregation -/

/-- **What aggregation should give** for the topology keys `topologyKeys`: the requisite terms
are the topologies of the nodes the lister lists for the keys, each map once. -/
def Aggregated (nodes : List Node) (topologyKeys : List String) (requisite : List TopologyTerm) :
    Prop :=
  requisite.Pairwise (fun t t' => ¬ t.entries.Perm t'.entries) ∧
    (∀ t ∈ requisite, ∃ node ∈ listNodes nodes topologyKeys,
      getTopologyFromNode node topologyKeys = some t) ∧
    ∀ node ∈ listNodes nodes topologyKeys, ∃ t ∈ requisite, ∃ t',
      getTopologyFromNode node topologyKeys = some t' ∧ t.entries.Perm t'.entries

/-- **Deduplicating the topologies of the listed nodes keeps each map once**, where the labels
of the nodes are plain. -/
lemma aggregated_deduplicate {nodes : List Node}
    (hplain : ∀ node ∈ nodes, TopologyTerm.Plain node.labels) (topologyKeys : List String)
    (mapOrder : Arrangement TopologyTerm) :
    Aggregated nodes topologyKeys (deduplicate mapOrder ((listNodes nodes topologyKeys).map
      fun node => (getTopologyFromNode node topologyKeys).getD ∅)) := by
  have hplainTerms : ∀ t ∈ (listNodes nodes topologyKeys).map
      (fun node => (getTopologyFromNode node topologyKeys).getD ∅), TopologyTerm.Plain t := by
    intro t ht
    obtain ⟨node, hnode, ht⟩ := mem_listedTopologies.mp ht
    exact (hplain node (mem_listNodes_iff.mp hnode).1).of_subset (getTopologyFromNode_subset ht)
  refine ⟨pairwise_not_perm (nodup_hash_deduplicate _ _),
    fun t ht => mem_listedTopologies.mp (mem_of_mem_deduplicate _ _ ht), fun node hnode => ?_⟩
  obtain ⟨t', ht'⟩ := (mem_listNodes_iff.mp hnode).2
  have hmem := mem_listedTopologies.mpr ⟨node, hnode, ht'⟩
  obtain ⟨t, ht, hperm⟩ := exists_perm_mem_deduplicate mapOrder hplainTerms hmem
  exact ⟨t, ht, t', ht', hperm⟩

/-- **Aggregation in delayed binding is exact.** Without allowed topologies and without strict
topology, for a selected node whose CSINode lists topology keys that it has labels for, and
which the node lister lists, the requisite terms are the topologies of the listed nodes, each
map once, and the preferred terms start with the selected node's topology. Node labels are
plain, as the API server admits them. -/
theorem GenerateAccessibilityRequirements_aggregates {driverName : String}
    {csiNodes : List CSINode} {nodes : List Node} {node : Node} {csiNode : CSINode}
    {topology : TopologyTerm} (hcsi : getSelectedCSINode csiNodes node = .ok csiNode)
    (hkeys : (getTopologyKeys csiNode driverName).toList ≠ [])
    (htopology : getTopologyFromNode node (getTopologyKeys csiNode driverName).toList =
      some topology)
    (hlisted : node ∈ nodes) (hplain : ∀ n ∈ nodes, TopologyTerm.Plain n.labels)
    (pvcName : String) (immediateTopology : Bool) (shuffle : Arrangement CSINode)
    (mapOrder : Arrangement TopologyTerm) (randUint32 : UInt32) :
    ∃ requisite preferred,
      GenerateAccessibilityRequirements driverName pvcName [] (some node) false immediateTopology
        csiNodes nodes shuffle mapOrder randUint32 =
          .ok (some ⟨toCSITopology requisite, toCSITopology preferred⟩) ∧
      Aggregated nodes (getTopologyKeys csiNode driverName).toList requisite ∧
      ∃ t rest, preferred = t :: rest ∧ t.entries.Perm topology.entries := by
  set keys := (getTopologyKeys csiNode driverName).toList
  set terms := (listNodes nodes keys).map fun n => (getTopologyFromNode n keys).getD ∅
  have hselect : selectNode driverName [] false csiNodes node =
      .ok (⟨node, csiNode, topology⟩, []) := by
    rw [selectNode_eq hcsi hkeys htopology, if_neg (fun h => Bool.false_ne_true h.1)]
    rfl
  have hnode : node ∈ listNodes nodes keys :=
    mem_listNodes_iff.mpr ⟨hlisted, topology, htopology⟩
  have htopologyTerm : topology ∈ terms := mem_listedTopologies.mpr ⟨node, hnode, htopology⟩
  have hrequisite : requisiteTermsOf driverName [] (some ⟨node, csiNode, topology⟩) []
      immediateTopology csiNodes nodes shuffle = .ok (some terms) := by
    refine requisiteTermsOf_aggregate_ok (.inl rfl) ?_ (List.ne_nil_of_mem htopologyTerm)
    rw [Option.map_some, aggregateTopologies_some hkeys]
    exact nodeTopologies_of_ne_nil (List.ne_nil_of_mem hnode)
  have haggregated := aggregated_deduplicate hplain keys mapOrder
  rw [GenerateAccessibilityRequirements_eq (selectStep_some_of_ok hselect) hrequisite
    (List.ne_nil_of_mem htopologyTerm)]
  -- step 3 finds a subset of the node's topology: the term of its map
  obtain ⟨t₀, ht₀, t', ht', hperm₀⟩ := haggregated.2.2 node hnode
  rw [htopology, Option.some.injEq] at ht'
  subst ht'
  obtain ⟨preferred, hpreferred⟩ :
      ∃ preferred,
        sortAndShift (deduplicate mapOrder terms) (some topology) 0 = some preferred := by
    rw [← Option.isSome_iff_exists, Option.isSome_iff_ne_none, ne_eq, sortAndShift_eq_none_iff]
    intro hnone
    have hsub := hnone t₀ ht₀
    rw [TopologyTerm.subset_congr hperm₀, TopologyTerm.subset_self] at hsub
    cases hsub
  have hstep : preferredTermsOf pvcName (some ⟨node, csiNode, topology⟩) false
      (deduplicate mapOrder terms) randUint32 = .ok preferred :=
    preferredTermsOf_eq_ok_iff.mpr hpreferred
  refine ⟨deduplicate mapOrder terms, preferred, by rw [hstep]; rfl, haggregated, ?_⟩
  -- the first preferred term is the topology of a listed node, with the same keys
  obtain ⟨i, -, hrotate, t, hhead, hsub⟩ := sortAndShift_eq_some hpreferred
  obtain ⟨rest, rfl⟩ := List.head?_eq_some_iff.mp hhead
  have ht : t ∈ deduplicate mapOrder terms :=
    (rotate_sortTerms_perm _ i).mem_iff.mp (hrotate ▸ List.mem_cons_self)
  obtain ⟨n, -, htn⟩ := haggregated.2.1 t ht
  refine ⟨t, rest, rfl, TopologyTerm.perm_of_subset hsub fun k => ?_⟩
  rw [lookup_isSome_of_getTopologyFromNode htn, lookup_isSome_of_getTopologyFromNode htopology]

theorem GenerateAccessibilityRequirements_aggregates_rackNode :
    getSelectedCSINode [rackCSINode] rackNode = .ok rackCSINode ∧
      (getTopologyKeys rackCSINode "hostpath.csi.k8s.io").toList ≠ [] ∧
      getTopologyFromNode rackNode (getTopologyKeys rackCSINode "hostpath.csi.k8s.io").toList =
        some rackNode.labels ∧
      rackNode ∈ [rackNode] ∧ (∀ n ∈ [rackNode], TopologyTerm.Plain n.labels) ∧
      ∃ requisite preferred,
        GenerateAccessibilityRequirements "hostpath.csi.k8s.io" "pvc-1" [] (some rackNode) false
          false [rackCSINode] [rackNode] (Arrangement.id _) (Arrangement.id _) 0 =
            .ok (some ⟨toCSITopology requisite, toCSITopology preferred⟩) ∧
        Aggregated [rackNode] (getTopologyKeys rackCSINode "hostpath.csi.k8s.io").toList
          requisite ∧
        ∃ t rest, preferred = t :: rest ∧ t.entries.Perm rackNode.labels.entries := by
  have hcsi : getSelectedCSINode [rackCSINode] rackNode = .ok rackCSINode := rfl
  have hkeys : (getTopologyKeys rackCSINode "hostpath.csi.k8s.io").toList ≠ [] := by decide
  have htopology : getTopologyFromNode rackNode
      (getTopologyKeys rackCSINode "hostpath.csi.k8s.io").toList = some rackNode.labels := rfl
  have hlisted : rackNode ∈ [rackNode] := List.mem_singleton_self _
  have hplain : ∀ n ∈ [rackNode], TopologyTerm.Plain n.labels := by decide
  exact ⟨hcsi, hkeys, htopology, hlisted, hplain,
    GenerateAccessibilityRequirements_aggregates hcsi hkeys htopology hlisted hplain "pvc-1" false
      (Arrangement.id _) (Arrangement.id _) 0⟩

/-- **Aggregation in immediate binding is exact when no CSINode lists the driver without
keys.** Without allowed topologies and without a selected node, where some CSINode lists the
driver with topology keys and none with an empty list, whatever order `rand.Shuffle` gives,
the keys are the non-empty keys of one CSINode, and the requisite terms are the topologies of
the nodes listed for them, each map once; when no node has labels for them all, the call fails
saying so. Node labels are plain. -/
theorem GenerateAccessibilityRequirements_aggregates_immediate {driverName : String}
    {csiNodes : List CSINode} {nodes : List Node}
    (hregistered : ∃ csiNode ∈ csiNodes, ∃ topologyKeys,
      getTopologyKeys csiNode driverName = some topologyKeys ∧ topologyKeys ≠ [])
    (hkeyless : ∀ csiNode ∈ csiNodes, getTopologyKeys csiNode driverName ≠ some [])
    (hplain : ∀ n ∈ nodes, TopologyTerm.Plain n.labels) (pvcName : String)
    (strictTopology : Bool) (shuffle : Arrangement CSINode) (mapOrder : Arrangement TopologyTerm)
    (randUint32 : UInt32) :
    ∃ csiNode ∈ csiNodes, ∃ topologyKeys,
      getTopologyKeys csiNode driverName = some topologyKeys ∧ topologyKeys ≠ [] ∧
      (listNodes nodes topologyKeys = [] →
        GenerateAccessibilityRequirements driverName pvcName [] none strictTopology true csiNodes
          nodes shuffle mapOrder randUint32 = .error ("topologyKeys " ++
            formatStrings topologyKeys ++ " were not found on any nodes")) ∧
      (listNodes nodes topologyKeys ≠ [] → ∃ requisite preferred,
        GenerateAccessibilityRequirements driverName pvcName [] none strictTopology true csiNodes
          nodes shuffle mapOrder randUint32 =
            .ok (some ⟨toCSITopology requisite, toCSITopology preferred⟩) ∧
        Aggregated nodes topologyKeys requisite) := by
  obtain ⟨registered, hmem, registeredKeys, hregisteredKeys, -⟩ := hregistered
  -- the search over the shuffled CSINodes meets a CSINode with keys
  have hsearch : (firstTopologyKeys driverName (shuffle.arrange csiNodes)).isSome :=
    firstTopologyKeys_isSome (by rw [hregisteredKeys]; rfl) ((shuffle.perm _).mem_iff.mpr hmem)
  obtain ⟨topologyKeys, hfirst⟩ := Option.isSome_iff_exists.mp hsearch
  obtain ⟨csiNode, hcsiNode, hkeys⟩ := firstTopologyKeys_spec hfirst
  have hcsiNode' : csiNode ∈ csiNodes := (shuffle.perm _).mem_iff.mp hcsiNode
  have hne : topologyKeys ≠ [] := by
    rintro rfl
    exact hkeyless csiNode hcsiNode' hkeys
  have hstep : selectStep driverName [] strictTopology csiNodes none = .ok (none, []) := rfl
  refine ⟨csiNode, hcsiNode', topologyKeys, hkeys, hne, fun hunlisted => ?_, fun hlisted => ?_⟩
  · have hrequisite : requisiteTermsOf driverName [] none [] true csiNodes nodes shuffle =
        .error ("topologyKeys " ++ formatStrings topologyKeys ++ " were not found on any nodes") :=
      requisiteTermsOf_aggregate_error (.inr rfl)
        ((aggregateTopologies_none hfirst hne).trans (nodeTopologies_of_nil hunlisted))
    simp [GenerateAccessibilityRequirements, hstep, hrequisite, bind, Except.bind]
  · set terms := (listNodes nodes topologyKeys).map fun n =>
      (getTopologyFromNode n topologyKeys).getD ∅
    have hterms : terms ≠ [] := by
      simpa [terms] using hlisted
    have hrequisite : requisiteTermsOf driverName [] none [] true csiNodes nodes shuffle =
        .ok (some terms) :=
      requisiteTermsOf_aggregate_ok (.inr rfl)
        ((aggregateTopologies_none hfirst hne).trans (nodeTopologies_of_ne_nil hlisted)) hterms
    have hdedup := deduplicate_ne_nil mapOrder terms hterms
    refine ⟨deduplicate mapOrder terms, (sortTerms (deduplicate mapOrder terms)).rotate
      (spreadingIndex pvcName randUint32 (deduplicate mapOrder terms).length).toNat, ?_,
      aggregated_deduplicate hplain topologyKeys mapOrder⟩
    rw [GenerateAccessibilityRequirements_eq hstep hrequisite hterms, preferredTermsOf_none hdedup]
    rfl

theorem GenerateAccessibilityRequirements_aggregates_hostNode :
    (∃ csiNode ∈ [hostCSINode], ∃ topologyKeys,
      getTopologyKeys csiNode "hostpath.csi.k8s.io" = some topologyKeys ∧ topologyKeys ≠ []) ∧
      (∀ csiNode ∈ [hostCSINode], getTopologyKeys csiNode "hostpath.csi.k8s.io" ≠ some []) ∧
      (∀ n ∈ [hostNode], TopologyTerm.Plain n.labels) ∧
      ∃ csiNode ∈ [hostCSINode], ∃ topologyKeys,
        getTopologyKeys csiNode "hostpath.csi.k8s.io" = some topologyKeys ∧ topologyKeys ≠ [] ∧
        (listNodes [hostNode] topologyKeys = [] →
          GenerateAccessibilityRequirements "hostpath.csi.k8s.io" "pvc-1" [] none false true
            [hostCSINode] [hostNode] (Arrangement.id _) (Arrangement.id _) 0 =
              .error ("topologyKeys " ++ formatStrings topologyKeys ++
                " were not found on any nodes")) ∧
        (listNodes [hostNode] topologyKeys ≠ [] → ∃ requisite preferred,
          GenerateAccessibilityRequirements "hostpath.csi.k8s.io" "pvc-1" [] none false true
            [hostCSINode] [hostNode] (Arrangement.id _) (Arrangement.id _) 0 =
              .ok (some ⟨toCSITopology requisite, toCSITopology preferred⟩) ∧
          Aggregated [hostNode] topologyKeys requisite) := by
  have hregistered : ∃ csiNode ∈ [hostCSINode], ∃ topologyKeys,
      getTopologyKeys csiNode "hostpath.csi.k8s.io" = some topologyKeys ∧ topologyKeys ≠ [] :=
    ⟨hostCSINode, List.mem_singleton_self _, _, rfl, List.cons_ne_nil _ _⟩
  have hkeyless : ∀ csiNode ∈ [hostCSINode],
      getTopologyKeys csiNode "hostpath.csi.k8s.io" ≠ some [] := by decide
  have hplain : ∀ n ∈ [hostNode], TopologyTerm.Plain n.labels := by decide
  exact ⟨hregistered, hkeyless, hplain,
    GenerateAccessibilityRequirements_aggregates_immediate hregistered hkeyless hplain "pvc-1" false
      (Arrangement.id _) (Arrangement.id _) 0⟩

/-! ### The node affinity of the volume -/

/-- The pairs of a term in the order of its entries, an order the loop of
`GenerateVolumeNodeAffinity` over the segments may visit them in. -/
def termPairs (t : TopologyTerm) : List (String × String) := t.entries.map fun e => (e.1, e.2)

lemma termPairs_ne_nil {t : TopologyTerm} (h : t.entries ≠ []) : termPairs t ≠ [] := by
  simpa [termPairs] using h

lemma contained_termPairs {t other : TopologyTerm} (h : t.subset other = true) :
    Contained (termPairs t) other := by
  intro p hp
  obtain ⟨e, he, rfl⟩ := List.mem_map.mp hp
  exact TopologyTerm.subset_iff.mp h e.1 e.2 (AList.mem_lookup_iff.mpr he)

/-- **A volume in the first preferred topology is accessible from the selected node.** In
delayed binding without strict topology, the first preferred term is a non-empty subset of the
selected node's topology: a volume that the driver makes accessible there, as the CSI spec
asks of it, gets a node affinity that the node satisfies, so that the provisioner of that node
in a node deployment deletes it instead of ignoring it. -/
theorem GenerateAccessibilityRequirements_first_preferred_accessible {driverName pvcName : String}
    {allowedTopologies : List TopologySelectorTerm} {node : Node} {immediateTopology : Bool}
    {csiNodes : List CSINode} {nodes : List Node} {shuffle : Arrangement CSINode}
    {mapOrder : Arrangement TopologyTerm} {randUint32 : UInt32} {requirement : TopologyRequirement}
    (h : GenerateAccessibilityRequirements driverName pvcName allowedTopologies (some node) false
      immediateTopology csiNodes nodes shuffle mapOrder randUint32 = .ok (some requirement)) :
    ∃ csiNode topology t rest, getSelectedCSINode csiNodes node = .ok csiNode ∧
      getTopologyFromNode node (getTopologyKeys csiNode driverName).toList = some topology ∧
      requirement.preferred = toCSITopology (t :: rest) ∧
      VolumeIsAccessible (GenerateVolumeNodeAffinity [termPairs t]) (some ⟨some topology⟩) =
        true := by
  obtain ⟨selected, requisiteTerms₀, requisiteTerms, preferred, hstep, hrequisite, -,
    hpreferred, rfl⟩ := GenerateAccessibilityRequirements_eq_some h
  obtain ⟨s, rfl, hselect⟩ := selectStep_some hstep
  obtain ⟨-, hcsi, htopology, hterms₀, hkeys⟩ := selectNode_spec hselect
  rw [if_neg Bool.false_ne_true] at hterms₀
  subst hterms₀
  -- step 3 puts first a term of the requisite terms that is a subset of the node's topology
  obtain ⟨i, -, hrotate, t, hhead, hsub⟩ :=
    sortAndShift_eq_some (preferredTermsOf_eq_ok_iff.mp hpreferred)
  obtain ⟨rest, rfl⟩ := List.head?_eq_some_iff.mp hhead
  have ht : t ∈ requisiteTerms := mem_of_mem_deduplicate mapOrder requisiteTerms
    ((rotate_sortTerms_perm _ i).mem_iff.mp (hrotate ▸ List.mem_cons_self))
  have hnonempty := entries_ne_nil_of_requisiteTermsOf hkeys hrequisite t ht
  refine ⟨s.csiNode, s.topology, t, rest, hcsi, htopology, rfl, ?_⟩
  rw [VolumeIsAccessible_GenerateVolumeNodeAffinity]
  exact .inr (.inr ⟨_, rfl, termPairs t, List.mem_singleton_self _, termPairs_ne_nil hnonempty,
    contained_termPairs hsub⟩)

theorem GenerateAccessibilityRequirements_first_preferred_accessible_rackNode :
    ∃ requirement, GenerateAccessibilityRequirements "hostpath.csi.k8s.io" "pvc-1"
        zoneRackTopologies (some rackNode) false false [rackCSINode] [rackNode] (Arrangement.id _)
        (Arrangement.id _) 0 = .ok (some requirement) ∧
      ∃ csiNode topology t rest, getSelectedCSINode [rackCSINode] rackNode = .ok csiNode ∧
        getTopologyFromNode rackNode (getTopologyKeys csiNode "hostpath.csi.k8s.io").toList =
          some topology ∧
        requirement.preferred = toCSITopology (t :: rest) ∧
        VolumeIsAccessible (GenerateVolumeNodeAffinity [termPairs t]) (some ⟨some topology⟩) =
          true := by
  obtain ⟨requirement, h⟩ : ∃ requirement, GenerateAccessibilityRequirements
      "hostpath.csi.k8s.io" "pvc-1" zoneRackTopologies (some rackNode) false false [rackCSINode]
      [rackNode] (Arrangement.id _) (Arrangement.id _) 0 = .ok (some requirement) := ⟨_, rfl⟩
  exact ⟨requirement, h, GenerateAccessibilityRequirements_first_preferred_accessible h⟩

end CsiProvisioner.Controller.Topology
