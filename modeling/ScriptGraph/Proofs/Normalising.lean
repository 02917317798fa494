import ScriptGraph.Proofs.RoundTrip

/-! Loading brings a stored graph into a normal form, whatever was stored: slots are complete and
their vacant ones are used from the lowest on, nodes hold what their types declare, and no
connection is a misfit. A graph in normal form is what comes back when it is stored and loaded
again under the same registry, so whatever a load has to mend it mends at once. -/
namespace ScriptGraph

/-- The form in which a load leaves a graph. -/
structure Graph.Normal (g : Graph) (registry : Registry) : Prop where
  wellFormed : g.WellFormed
  /-- Every slot can be named by an id. -/
  named : g.nodes.slots.length ≤ 2 ^ 32
  lowestFirst : g.nodes.free = Arena.vacantIndices g.nodes.slots
  declared : ∀ n ∈ g.nodes.nodes, Snapshot.refreshNode registry n = n
  fitting : ∀ c ∈ g.connections.values, g.misfit? registry c = none

namespace Snapshot

variable {registry : Registry}

lemma refreshNode_refreshNode (registry : Registry) (n : Node) :
    refreshNode registry (refreshNode registry n) = refreshNode registry n := by
  cases ht : registry.lookup n.typeName with
  | none => simp only [refreshNode, ht]
  | some t =>
    have hseed : t.seed (t.seed n.properties) = t.seed n.properties :=
      NodeType.seed_of_keys (t.keys_seed n.properties)
    simp only [refreshNode, ht, hseed]

/-- Every graph that a load gives is in normal form. -/
theorem normal_of_load {p : Snapshot} {l : Loaded} {log : Log}
    (ok : p.load registry = (.ok l, log)) : l.graph.Normal registry := by
  obtain ⟨harena, hconn, _⟩ := load_eq_ok ok
  obtain ⟨_, _, hnodes⟩ := Arena.restore_eq_ok_iff.mp harena
  refine ⟨.load ok, ?_, ?_, ?_, ?_⟩
  · rw [hnodes]
    simpa [Arena.restoredSlots] using Arena.slotCount_le_indices _
  · rw [hnodes]
  · intro n hn
    obtain ⟨m, _, rfl⟩ := exists_of_mem_nodes_load ok hn
    exact refreshNode_refreshNode registry m
  · intro c hc
    obtain ⟨id, hid⟩ := Table.mem_values.mp hc
    rw [hconn] at hid
    obtain ⟨d, hd, he⟩ := List.mem_map.mp (Table.mem_of_mem_ofList hid)
    obtain rfl : d = c := congrArg Prod.snd he
    have hnone := Option.isNone_iff_eq_none.mp (List.mem_filter.mp hd).2
    obtain ⟨hs, ht⟩ := Graph.contains_of_objection? hnone
    rwa [Graph.objection?_of_live hs ht] at hnone

end Snapshot

namespace Graph.Normal

variable {g : Graph} {registry : Registry}

lemma slots_reseed (h : g.Normal registry) :
    (g.reseed registry).nodes.slots = g.nodes.slots := by
  rw [nodes_reseed, Arena.map]
  have hsame : ∀ s ∈ g.nodes.slots,
      ({ s with node := s.node.map (Snapshot.refreshNode registry) } : Slot) = s := by
    intro s hs
    cases hn : s.node with
    | none => rw [Option.map_none, ← hn]
    | some n =>
      have hkept := h.declared n (Arena.mem_nodes.mpr ⟨s, hs, hn⟩)
      rw [Option.map_some, hkept, ← hn]
  exact (List.map_congr_left hsame).trans (List.map_id' _)

/-- A graph in normal form is what its own snapshot is loaded as. -/
theorem reloaded_eq (h : g.Normal registry) : g.reloaded registry = g := by
  have hconnections : g.connections.filter (fun _ c => (g.misfit? registry c).isNone) =
      g.connections := by
    apply Table.ext_entries
    refine List.filter_eq_self.mpr fun e he => ?_
    simp [h.fitting e.2 (Table.mem_values.mpr ⟨e.1, he⟩)]
  have hcount : g.nodes.nodes.length = g.nodes.count := h.wellFormed.nodes.count_eq.symm
  unfold reloaded
  rw [h.slots_reseed, ← h.lowestFirst, hconnections, hcount]

lemma complaints_eq (h : g.Normal registry) :
    g.complaints registry = (g.nodes.nodes.filter fun n => !registry.contains n.typeName).map
      fun n => .placeholderKept n.id n.typeName := by
  have hlinks : g.connections.values.filterMap (g.misfit? registry) = [] :=
    List.filterMap_eq_nil_iff.mpr h.fitting
  rw [complaints, hlinks, List.append_nil]

end Graph.Normal

/-- Whatever was stored, the graph that a load gives is itself stored and loaded without change
under the same registry: with the same slots in the same generations, the same vacant slots to be
used in the same order, and the same properties, connections and variables. The second load warns
about each node of an unknown type and about nothing else. -/
theorem Snapshot.load_snapshot_of_load {registry : Registry} {p : Snapshot} {l : Loaded} {log : Log}
    (ok : p.load registry = (.ok l, log)) :
    ∃ log', l.graph.snapshot.load registry =
      (.ok ⟨l.graph, (l.graph.nodes.nodes.filter fun n => !registry.contains n.typeName).map
        fun n => .placeholderKept n.id n.typeName⟩, log') := by
  have hnormal := normal_of_load ok
  have hload := hnormal.wellFormed.load_snapshot hnormal.named registry
  rw [hnormal.reloaded_eq, hnormal.complaints_eq] at hload
  exact ⟨(l.graph.snapshot.load registry).2, Prod.ext hload rfl⟩

/-- A stored graph that needs mending: its nodes are out of order, one of them has outdated
properties and one an unknown type, a slot is left out and another listed twice, two connections
share an id, one leads to a missing node and one from a port that its node has not, and a variable
is stored twice. -/
def Snapshot.tangled : Snapshot where
  version := 1
  id := default
  entity := default
  nodes :=
    [⟨⟨4, 7⟩, "Print", .zero, .ofList [("Label", .text "old"), ("Value", .text "hello")]⟩,
      ⟨⟨1, 0⟩, "Gadget", .zero, .ofList [("Size", .int 2)]⟩, ⟨⟨0, 0⟩, "OnStart", .zero, .empty⟩]
  connections :=
    [⟨⟨.ofNat 1⟩, ⟨0, 0⟩, "Exec", ⟨1, 0⟩, "Exec"⟩, ⟨⟨.ofNat 2⟩, ⟨0, 0⟩, "Exec", ⟨3, 2⟩, "Exec"⟩,
      ⟨⟨.ofNat 1⟩, ⟨0, 0⟩, "Exec", ⟨4, 7⟩, "Exec"⟩, ⟨⟨.ofNat 3⟩, ⟨0, 0⟩, "Then", ⟨4, 7⟩, "Exec"⟩]
  vars := [("hits", .int 1), ("name", .text "hero"), ("hits", .int 2)]
  vacant := [⟨3, 2⟩, ⟨3, 5⟩, ⟨4, 9⟩]

/-- What it is loaded as. -/
def Graph.untangled : Graph where
  id := default
  entity := default
  nodes :=
    ⟨[⟨0, some ⟨⟨0, 0⟩, "OnStart", .zero, .empty⟩⟩,
      ⟨0, some ⟨⟨1, 0⟩, "Gadget", .zero, .ofList [("Size", .int 2)]⟩⟩, ⟨10, none⟩, ⟨2, none⟩,
      ⟨7, some ⟨⟨4, 7⟩, "Print", .zero, .ofList [("Value", .text "hello")]⟩⟩], [2, 3], 3⟩
  connections := .ofList [(⟨.ofNat 1⟩, ⟨⟨.ofNat 1⟩, ⟨0, 0⟩, "Exec", ⟨4, 7⟩, "Exec"⟩)]
  vars := .ofList [("hits", .int 2), ("name", .text "hero")]

theorem load_snapshot_untangled :
    ∃ log, Snapshot.tangled.load .builtins = (.ok ⟨.untangled,
        [.placeholderKept ⟨1, 0⟩ "Gadget", .unknownNode ⟨3, 2⟩, .invalidPort ⟨0, 0⟩ "Then"]⟩, log) ∧
      ∃ log', Graph.untangled.snapshot.load .builtins =
        (.ok ⟨.untangled, [.placeholderKept ⟨1, 0⟩ "Gadget"]⟩, log') := by
  have ok : (Snapshot.tangled.load .builtins).1 = .ok ⟨.untangled,
      [.placeholderKept ⟨1, 0⟩ "Gadget", .unknownNode ⟨3, 2⟩, .invalidPort ⟨0, 0⟩ "Then"]⟩ := by
    rfl
  have hfirst := Prod.ext (y := (_, (Snapshot.tangled.load .builtins).2)) ok rfl
  obtain ⟨log', hsecond⟩ := Snapshot.load_snapshot_of_load hfirst
  exact ⟨_, hfirst, log', hsecond⟩

end ScriptGraph
