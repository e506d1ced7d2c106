import CsiProvisioner.Api.Csi
import CsiProvisioner.Api.Storage

/-!
The node affinity of a provisioned volume (`GenerateVolumeNodeAffinity` in
`pkg/controller/topology.go`).

A CSI driver reports where a volume is accessible as a list of topologies, each a map from
topology keys to values. The provisioner turns each non-empty one into a node selector term
that requires every pair. The loop over a map visits its pairs in an order the runtime
chooses: a topology is given here as its pairs in the order the loop visits them.

`VolumeIsAccessible` checks such an affinity against the topology a driver reports for its
node, with `corev1helpers.MatchNodeSelectorTerms` of Kubernetes. That matcher is taken as
given for the selectors the provisioner writes: the disjunction of the terms, each the
conjunction of its `In` requirements on labels; a term without requirements, and so a
selector without terms, matches no node. Its other operators, its field selectors and its
parse errors are left out. A topology with no segments gives no term, so that a volume the
driver reports accessible from everywhere matches no node once it reported only such
topologies.
-/

namespace CsiProvisioner.Controller.Topology

open Go Api

/-- The node selector term of one topology: a requirement `In` with the one value per pair. -/
def topologyTerm (segments : List (String × String)) : NodeSelectorTerm where
  matchExpressions := some (segments.map fun (k, v) => ⟨k, .opIn, [v]⟩)
  matchFields := none

/-- `GenerateVolumeNodeAffinity`: nil without topologies; otherwise a required node selector
with a term for each non-empty topology (nil terms when all are empty). -/
def GenerateVolumeNodeAffinity (accessibleTopology : List (List (String × String))) :
    Option VolumeNodeAffinity :=
  if accessibleTopology.isEmpty then none
  else
    let terms := accessibleTopology.foldl (fun (terms : Slice NodeSelectorTerm) segments =>
      if segments.isEmpty then terms else terms.append (topologyTerm segments)) none
    some ⟨some ⟨terms⟩⟩

lemma GenerateVolumeNodeAffinity_single {segments : List (String × String)}
    (h : segments ≠ []) :
    GenerateVolumeNodeAffinity [segments] = some ⟨some ⟨some [topologyTerm segments]⟩⟩ := by
  simp [GenerateVolumeNodeAffinity, h, Slice.append]

lemma GenerateVolumeNodeAffinity_terms {accessibleTopology : List (List (String × String))}
    (h : accessibleTopology ≠ []) :
    ∃ terms, GenerateVolumeNodeAffinity accessibleTopology = some ⟨some ⟨terms⟩⟩ ∧
      terms.toList = (accessibleTopology.filter fun t => !t.isEmpty).map topologyTerm := by
  -- the loop appends to the terms it has so far
  have hloop : ∀ (l : List (List (String × String))) (terms : Slice NodeSelectorTerm),
      (l.foldl (fun (terms : Slice NodeSelectorTerm) segments =>
        if segments.isEmpty then terms else terms.append (topologyTerm segments)) terms).toList =
        terms.toList ++ (l.filter fun t => !t.isEmpty).map topologyTerm := by
    intro l
    induction l with
    | nil => simp
    | cons t l ih =>
      intro terms
      rw [List.foldl_cons, ih]
      cases ht : t.isEmpty <;> simp [ht]
  refine ⟨_, ?_, (hloop accessibleTopology none).trans (by simp)⟩
  simp [GenerateVolumeNodeAffinity, List.isEmpty_iff, h]

-- one empty topology gives a required node selector without terms
example : GenerateVolumeNodeAffinity [[]] = some ⟨some ⟨none⟩⟩ := rfl

/-! ### Is a volume accessible from a node -/

/-- A requirement of a node selector term, on node labels: `In` its values. -/
def matchesRequirement (labels : StrMap) (req : NodeSelectorRequirement) : Bool :=
  req.operator == .opIn && match labels.lookup req.key with
    | some v => req.values.contains v
    | none => false

/-- `corev1helpers.MatchNodeSelectorTerms` for a node with labels `labels`, as the matcher is
taken for the selectors the provisioner writes. -/
def MatchNodeSelectorTerms (labels : StrMap) (nodeSelector : NodeSelector) : Bool :=
  nodeSelector.nodeSelectorTerms.toList.any fun term =>
    !term.matchExpressions.toList.isEmpty &&
      term.matchExpressions.toList.all (matchesRequirement labels)

/-- `VolumeIsAccessible`: without a node topology or a required selector every volume is
accessible; otherwise the selector must match a node labelled with the topology's segments.
The matcher's parse errors being left out, it returns no error. -/
def VolumeIsAccessible (affinity : Option VolumeNodeAffinity) (nodeTopology : Option Topology) :
    Bool :=
  match nodeTopology, affinity with
  | some topology, some ⟨some required⟩ =>
    MatchNodeSelectorTerms (topology.segments.getD ∅) required
  | _, _ => true

/-- The segments of a topology are among the labels of a node. -/
def Contained (segments : List (String × String)) (labels : StrMap) : Prop :=
  ∀ p ∈ segments, labels.lookup p.1 = some p.2

lemma matchesTerm_topologyTerm (labels : StrMap) {t : List (String × String)} (ht : t ≠ []) :
    (!(topologyTerm t).matchExpressions.toList.isEmpty &&
      (topologyTerm t).matchExpressions.toList.all (matchesRequirement labels)) = true ↔
      Contained t labels := by
  simp only [topologyTerm, Slice.toList_some, List.isEmpty_map, List.all_map, Bool.and_eq_true,
    Bool.not_eq_true', List.isEmpty_eq_false_iff, List.all_eq_true, Function.comp_apply, Contained]
  refine and_iff_right_of_imp (fun _ => ht) |>.trans (forall₂_congr fun p _ => ?_)
  cases hlabel : labels.lookup p.1 with
  | none => simp [matchesRequirement, hlabel]
  | some v => simp [matchesRequirement, hlabel, eq_comm]

/-- **A volume is accessible from a node exactly when it has no topology, the node reports
none, or one of its non-empty topologies is among the node's segments.** A topology with no
segments counts for nothing. -/
theorem VolumeIsAccessible_GenerateVolumeNodeAffinity
    (accessibleTopology : List (List (String × String))) (nodeTopology : Option Topology) :
    VolumeIsAccessible (GenerateVolumeNodeAffinity accessibleTopology) nodeTopology = true ↔
      accessibleTopology = [] ∨ nodeTopology = none ∨
        ∃ topology, nodeTopology = some topology ∧ ∃ t ∈ accessibleTopology, t ≠ [] ∧
          Contained t (topology.segments.getD ∅) := by
  rcases Decidable.em (accessibleTopology = []) with hnil | hne
  · simp [hnil, GenerateVolumeNodeAffinity, VolumeIsAccessible]
  obtain ⟨terms, haffinity, hterms⟩ := GenerateVolumeNodeAffinity_terms hne
  cases nodeTopology with
  | none => simp [VolumeIsAccessible]
  | some topology =>
    simp only [haffinity, VolumeIsAccessible, MatchNodeSelectorTerms, hterms, List.any_map,
      List.any_filter, List.any_eq_true, hne, reduceCtorEq, false_or, Option.some.injEq,
      exists_eq_left']
    refine exists_congr fun t => and_congr_right fun _ => ?_
    by_cases ht : t = []
    · simp [ht]
    · rw [← matchesTerm_topologyTerm _ ht]
      simp [ht]

/-- **A volume that the driver reports accessible from everywhere is refused on every node
that reports a topology**: when every topology of the volume has no segments, the affinity
requires a selector without terms. -/
theorem VolumeIsAccessible_refuses_unconstrained
    {accessibleTopology : List (List (String × String))} (hne : accessibleTopology ≠ [])
    (hempty : ∀ t ∈ accessibleTopology, t = []) (topology : Topology) :
    VolumeIsAccessible (GenerateVolumeNodeAffinity accessibleTopology) (some topology) = false ∧
      ∃ t ∈ accessibleTopology, Contained t (topology.segments.getD ∅) := by
  constructor
  · rw [← Bool.not_eq_true, VolumeIsAccessible_GenerateVolumeNodeAffinity]
    rintro (hnil | hnone | ⟨_, -, t, ht, hnonempty, -⟩)
    · exact hne hnil
    · cases hnone
    · exact hnonempty (hempty t ht)
  · obtain ⟨t, ht⟩ := List.exists_mem_of_ne_nil _ hne
    -- a topology without segments is contained in every node topology
    refine ⟨t, ht, fun p hp => ?_⟩
    rw [hempty t ht] at hp
    cases hp

theorem VolumeIsAccessible_refuses_empty_topology :
    VolumeIsAccessible (GenerateVolumeNodeAffinity [[]])
        (some ⟨some ((∅ : StrMap).insert "topology.hostpath.csi/node" "node-1")⟩) = false ∧
      ∃ t ∈ [([] : List (String × String))],
        Contained t (((∅ : StrMap).insert "topology.hostpath.csi/node" "node-1")) :=
  VolumeIsAccessible_refuses_unconstrained (List.cons_ne_nil _ _)
    (fun _ ht => List.mem_singleton.mp ht) _

end CsiProvisioner.Controller.Topology
