import ScriptGraph.Proofs.Shape

/-! Well-formed graphs: the arena is well formed, every connection stands under its own id, and both
of its ends are nodes of the graph. Every edit that is not refused keeps a graph well formed. -/
namespace ScriptGraph

namespace Graph

variable {g h : Graph} {registry : Registry} {source target : NodeId}
  {sourcePort targetPort : String}

lemma contains_of_typeOf? {node : NodeId} {t : NodeType} (ht : g.typeOf? registry node = some t) :
    g.nodes.contains node = true := by
  obtain ⟨n, hn, _⟩ := Option.bind_eq_some_iff.mp ht
  exact Arena.contains_iff.mpr ⟨n, hn⟩

/-- A link is accepted if the types of both ends are known and declare ports that fit. -/
theorem checkLink_eq_ok_iff :
    g.checkLink registry source sourcePort target targetPort = .ok () ↔
      ∃ s t output input, g.typeOf? registry source = some s ∧ g.typeOf? registry target = some t ∧
        s.output? sourcePort = some output ∧ t.input? targetPort = some input ∧
          output.connectsTo input = true := by
  unfold checkLink requireNode requireType typeOf?
  cases g.node? source with
  | none => simp [bind, Except.bind]
  | some n =>
    cases g.node? target with
    | none => simp [bind, Except.bind]
    | some m =>
      cases hs : registry.lookup n.typeName with
      | none => simp [bind, Except.bind, hs]
      | some s =>
        cases ht : registry.lookup m.typeName with
        | none => simp [bind, Except.bind, hs, ht]
        | some t =>
          cases ho : s.output? sourcePort with
          | none => simp [bind, Except.bind, requirePort, hs, ht, ho]
          | some output =>
            cases hi : t.input? targetPort with
            | none => simp [bind, Except.bind, requirePort, hs, ht, ho, hi]
            | some input => simp [bind, Except.bind, requirePort, hs, ht, ho, hi]

/-- Of the nodes at its ends a link depends on the types alone. -/
lemma checkLink_congr
    (hs : (g.node? source).map Node.typeName = (h.node? source).map Node.typeName)
    (ht : (g.node? target).map Node.typeName = (h.node? target).map Node.typeName) :
    g.checkLink registry source sourcePort target targetPort =
      h.checkLink registry source sourcePort target targetPort := by
  unfold checkLink requireNode
  cases hgs : g.node? source <;> cases hhs : h.node? source <;> simp [hgs, hhs] at hs
  · rfl
  · cases hgt : g.node? target <;> cases hht : h.node? target <;> simp [hgt, hht] at ht
    · rfl
    · simp only [bind, Except.bind, hs, ht]

end Graph

/-- Both ends of every connection are nodes of the graph. -/
def Graph.EndsLive (g : Graph) : Prop :=
  ∀ c ∈ g.connections.values, g.nodes.contains c.source = true ∧ g.nodes.contains c.target = true

structure Graph.WellFormed (g : Graph) : Prop where
  nodes : g.nodes.WellFormed
  /-- A connection stands under its own id. -/
  keyed : ∀ id c, (id, c) ∈ g.connections.entries → c.id = id
  ends : g.EndsLive

namespace Graph.WellFormed

variable {g h : Graph}

/-- Nodes may change as long as the same ids find one. -/
lemma of_nodes (hg : g.WellFormed) (hnodes : h.nodes.WellFormed)
    (hlive : ∀ id, h.nodes.contains id = g.nodes.contains id)
    (hconn : h.connections = g.connections) : h.WellFormed := by
  refine ⟨hnodes, hconn ▸ hg.keyed, ?_⟩
  intro c hc
  rw [hconn] at hc
  rw [hlive, hlive]
  exact hg.ends c hc

/-- What is well formed is a matter of the shape. -/
theorem of_shape (hg : g.WellFormed) (hs : h.shape = g.shape) : h.WellFormed := by
  have hnodes : h.nodes.WellFormed := by
    apply hg.nodes.of_labels (labels_of_shape hs)
    · exact congrArg GraphShape.free hs
    · exact congrArg GraphShape.count hs
  exact hg.of_nodes hnodes (contains_of_shape hs) (connections_of_shape hs)

lemma filter (hg : g.WellFormed) (p : ConnectionId → Connection → Bool) :
    Graph.WellFormed { g with connections := g.connections.filter p } := by
  refine ⟨hg.nodes, fun id c hc => hg.keyed id c (List.mem_of_mem_filter hc), ?_⟩
  intro c hc
  obtain ⟨id, hid⟩ := Table.mem_values.mp hc
  exact hg.ends c (Table.mem_values.mpr ⟨id, List.mem_of_mem_filter hid⟩)

lemma insert (hg : g.WellFormed) {c : Connection} (hs : g.nodes.contains c.source = true)
    (ht : g.nodes.contains c.target = true) :
    Graph.WellFormed { g with connections := g.connections.insert c.id c } := by
  refine ⟨hg.nodes, ?_, ?_⟩
  · intro id d hd
    rcases Table.mem_entries_insert hd with ⟨rfl, rfl⟩ | hd
    · rfl
    · exact hg.keyed id d hd
  · intro d hd
    obtain ⟨id, hid⟩ := Table.mem_values.mp hd
    rcases Table.mem_entries_insert hid with ⟨_, rfl⟩ | hid
    · exact ⟨hs, ht⟩
    · exact hg.ends d (Table.mem_values.mpr ⟨id, hid⟩)

lemma modifyNode (hg : g.WellFormed) (id : NodeId) {f : Node → Node} (hf : ∀ n, (f n).id = n.id) :
    (g.modifyNode id f).WellFormed := by
  refine hg.of_nodes (Arena.wellFormed_modify hg.nodes id hf) (fun j => ?_) rfl
  simp only [Graph.modifyNode, Arena.contains, Arena.get?_modify]
  split <;> simp

end Graph.WellFormed

end ScriptGraph
