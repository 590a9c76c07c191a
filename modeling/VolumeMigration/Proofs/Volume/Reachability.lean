import VolumeMigration.Kubernetes.Observation

/-!
# The nodes from which a volume can be reached

A node reaches a volume if it satisfies one of the terms of the volume's affinity, each of which is
a list of requirements that must hold together. The node that a volume is pinned to is read off a
single term, the first that requires the host to be among given ones (`PinnedThrough`). It binds the
nodes that satisfy this term; what the other terms admit may lie elsewhere
(`PersistentVolume.pinnedNode_spread`).

Only the operator `In` has a meaning here; `others` stands for what the other operators ask of the
value of a label or a field.
-/

namespace VolumeMigration

/-- What a selector sees of a node. -/
structure Node where
  name : String
  labels : Labels

namespace Node

/-- The name of the host that a node is. -/
def hostname (node : Node) : Option String :=
  node.labels.lookup hostnameLabel

/-- The value of a field that requirements can be about. -/
def field (node : Node) (key : String) : Option String :=
  if key = "metadata.name" then some node.name else none

end Node

section Selectors

variable (others : NodeRequirement → Option String → Prop)

/-- A requirement holds of the value of its label or field, if there is one. -/
def NodeRequirement.HoldsOf (requirement : NodeRequirement) (value : Option String) : Prop :=
  if requirement.operator = "In" then ∃ given ∈ value, given ∈ requirement.values.getD []
  else others requirement value

/-- A node satisfies a term: it has requirements, and all of them hold. -/
structure NodeSelectorTerm.Admits (term : NodeSelectorTerm) (node : Node) : Prop where
  required : term.matchExpressions.getD [] ++ term.matchFields.getD [] ≠ []
  expressions : ∀ requirement ∈ term.matchExpressions.getD [],
    requirement.HoldsOf others (node.labels.lookup requirement.key)
  fields : ∀ requirement ∈ term.matchFields.getD [],
    requirement.HoldsOf others (node.field requirement.key)

/-- A node satisfies the affinity of a volume. -/
def PersistentVolume.ReachableFrom (volume : PersistentVolume) (node : Node) : Prop :=
  ∃ term ∈ volume.nodeTerms, term.Admits others node

end Selectors

/-! ## The host that a term requires -/

/-- A requirement that the host be among given ones. -/
def NodeRequirement.isOnHost (requirement : NodeRequirement) : Bool :=
  requirement.key = hostnameLabel && requirement.operator = "In"

/-- The first requirement of a term that the host be among given ones. -/
def NodeSelectorTerm.hostRequirement? (term : NodeSelectorTerm) : Option NodeRequirement :=
  (term.matchExpressions.getD []).find? NodeRequirement.isOnHost

/-- The only value that a requirement allows, if it allows one. -/
def NodeRequirement.onlyValue? (requirement : NodeRequirement) : Option String :=
  match requirement.values with
  | some [value] => some value
  | _ => none

theorem NodeRequirement.onlyValue?_eq_some_iff {requirement : NodeRequirement} {value : String} :
    requirement.onlyValue? = some value ↔ requirement.values = some [value] := by
  unfold onlyValue?
  split
  next only values_eq => simp [values_eq]
  next unlike =>
    constructor
    · simp
    · intro values_eq
      exact absurd values_eq (unlike value)

/-- A volume is pinned to a node through a term of its affinity. -/
structure PersistentVolume.PinnedThrough (others : NodeRequirement → Option String → Prop)
    (volume : PersistentVolume) (name : String) (before : List NodeSelectorTerm)
    (term : NodeSelectorTerm) (after : List NodeSelectorTerm) : Prop where
  terms : volume.nodeTerms = before ++ term :: after
  first : ∀ earlier ∈ before, earlier.hostRequirement? = none
  binds : ∀ node, term.Admits others node → node.hostname = some name
  single_host : (∀ node, volume.ReachableFrom others node → node.hostname = some name) ↔
    ∀ other ∈ before ++ after, ∀ node, other.Admits others node → node.hostname = some name

variable {others : NodeRequirement → Option String → Prop} {volume : PersistentVolume}
  {name : String}

/-- A requirement with one value fixes the label. -/
theorem NodeRequirement.HoldsOf.of_single {requirement : NodeRequirement} {value : Option String}
    (holds : requirement.HoldsOf others value) (operator_eq : requirement.operator = "In")
    (values_eq : requirement.values = some [name]) : value = some name := by
  rw [HoldsOf, if_pos operator_eq, values_eq] at holds
  rcases holds with ⟨given, rfl, listed⟩
  rw [Option.getD_some, List.mem_singleton] at listed
  rw [listed]

/-- A term with a requirement that allows a single host admits only nodes of that host. -/
theorem NodeSelectorTerm.Admits.hostname_eq {term : NodeSelectorTerm} {node : Node}
    {requirement : NodeRequirement} (admits : term.Admits others node)
    (found : term.hostRequirement? = some requirement)
    (values_eq : requirement.values = some [name]) : node.hostname = some name := by
  have on_host := List.find?_some found
  simp only [NodeRequirement.isOnHost, Bool.and_eq_true, decide_eq_true_eq] at on_host
  have holds := admits.expressions requirement (List.mem_of_find?_eq_some found)
  have value_eq := holds.of_single on_host.2 values_eq
  rw [on_host.1] at value_eq
  exact value_eq

namespace PersistentVolume

/-- The pinned node is the only value of the first requirement on the host in the first term that
has one. -/
theorem pinnedNode_eq_some_iff :
    volume.pinnedNode = some name ↔ ∃ before term after requirement,
      volume.nodeTerms = before ++ term :: after ∧
        term.hostRequirement? = some requirement ∧ requirement.values = some [name] ∧
        ∀ earlier ∈ before, earlier.hostRequirement? = none := by
  have pinnedNode_eq : volume.pinnedNode =
      (volume.nodeTerms.findSome? NodeSelectorTerm.hostRequirement?).bind
        NodeRequirement.onlyValue? := by
    rw [pinnedNode, List.find?_flatMap]
    rfl
  rw [pinnedNode_eq, Option.bind_eq_some_iff]
  simp only [NodeRequirement.onlyValue?_eq_some_iff, List.findSome?_eq_some_iff]
  constructor
  · rintro ⟨requirement, ⟨before, term, after, terms, found, first⟩, values_eq⟩
    exact ⟨before, term, after, requirement, terms, found, values_eq, first⟩
  · rintro ⟨before, term, after, requirement, terms, found, values_eq, first⟩
    exact ⟨requirement, ⟨before, term, after, terms, found, first⟩, values_eq⟩

/-- The node that a volume is pinned to is the host of all nodes that one of its terms admits. It is
the host of all nodes that reach the volume just if the other terms admit none of another host. -/
theorem pinnedNode_pinnedThrough (others : NodeRequirement → Option String → Prop)
    (pinned : volume.pinnedNode = some name) :
    ∃ before term after, volume.PinnedThrough others name before term after := by
  rcases pinnedNode_eq_some_iff.mp pinned with
    ⟨before, term, after, requirement, terms, found, values_eq, first⟩
  have binds : ∀ node, term.Admits others node → node.hostname = some name :=
    fun node admits => admits.hostname_eq found values_eq
  refine ⟨before, term, after, terms, first, binds, ?_⟩
  constructor
  · intro single other other_mem node admits
    apply single node
    refine ⟨other, ?_, admits⟩
    rw [terms]
    rcases List.mem_append.mp other_mem with earlier | later
    · exact List.mem_append_left _ earlier
    · exact List.mem_append_right _ (List.mem_cons_of_mem _ later)
  · rintro elsewhere node ⟨other, other_mem, admits⟩
    rw [terms, List.mem_append, List.mem_cons] at other_mem
    rcases other_mem with earlier | rfl | later
    · exact elsewhere other (List.mem_append_left _ earlier) node admits
    · exact binds node admits
    · exact elsewhere other (List.mem_append_right _ later) node admits

end PersistentVolume

/-! ## Two volumes -/

/-- The term that admits the nodes of one host. -/
def NodeSelectorTerm.onHost (name : String) : NodeSelectorTerm :=
  { matchExpressions := some
      [{ key := hostnameLabel, operator := "In", values := some [name] }]
    matchFields := none }

/-- A volume that can be reached from the nodes of some hosts. -/
def PersistentVolume.onHosts (names : List String) : PersistentVolume :=
  { metadata := .none
    spec := some {
      nodeAffinity := some { required := some { terms := names.map .onHost } } } }

/-- A node meets a term that asks for its own host. -/
theorem NodeSelectorTerm.admits_onHost {node : Node} (on_host : node.hostname = some name) :
    (onHost name).Admits others node := by
  have expressions : ∀ requirement ∈ (onHost name).matchExpressions.getD [],
      requirement.HoldsOf others (node.labels.lookup requirement.key) := by
    intro requirement requirement_mem
    rw [List.mem_singleton.mp requirement_mem, NodeRequirement.HoldsOf, if_pos rfl]
    exact ⟨name, on_host, List.mem_singleton.mpr rfl⟩
  exact ⟨List.cons_ne_nil _ _, expressions, by simp [onHost]⟩

theorem PersistentVolume.pinnedNode_pinnedThrough_local :
    (onHosts ["node-a"]).pinnedNode = some "node-a" ∧
      ∃ before term after,
        (onHosts ["node-a"]).PinnedThrough (fun _ _ => False) "node-a" before term after :=
  ⟨rfl, pinnedNode_pinnedThrough _ rfl⟩

/-- A volume is pinned to one of two hosts, and yet a node of the other one reaches it. -/
theorem PersistentVolume.pinnedNode_spread :
    let volume := onHosts ["node-a", "node-b"]
    let node : Node := { name := "node-b", labels := [(hostnameLabel, "node-b")] }
    volume.pinnedNode = some "node-a" ∧ volume.ReachableFrom (fun _ _ => False) node ∧
      node.hostname ≠ some "node-a" := by
  refine ⟨rfl, ⟨.onHost "node-b", by decide, NodeSelectorTerm.admits_onHost ?_⟩, ?_⟩
  · decide
  · decide

end VolumeMigration
