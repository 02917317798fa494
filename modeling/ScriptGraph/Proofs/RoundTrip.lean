import ScriptGraph.Proofs.Reachable

/-! Storing a graph and loading it again. A snapshot lists nodes and vacant slots apart, so loading
rebuilds the arena; it gives nodes the properties that their types declare by then, and checks every
connection anew. The graph that comes back is the old one, reseeded and without the connections that
no longer fit, whatever has become of the registry meanwhile. -/
namespace ScriptGraph

lemma Registry.contains_eq_isSome (registry : Registry) (name : String) :
    registry.contains name = (registry.lookup name).isSome :=
  Table.contains_eq_isSome registry.types name

namespace NodeType

lemma find?_seed (t : NodeType) (existing : Properties) (name : String) :
    (t.seed existing).find? name =
      (t.properties.find? name).map fun decl => (existing.find? name).getD decl.default := by
  rw [seed, Table.find?_map]

lemma find?_seed_of_mem_keys {t : NodeType} {existing : Properties}
    (hkeys : ∀ k, k ∈ existing.keys ↔ k ∈ t.properties.keys) (name : String) :
    (t.seed existing).find? name = existing.find? name := by
  rw [find?_seed]
  cases hf : existing.find? name with
  | none =>
    have hk : name ∉ t.properties.keys := (hkeys name).not.mp (Table.find?_eq_none_iff.mp hf)
    rw [Table.find?_eq_none_iff.mpr hk]
    rfl
  | some v =>
    have hk : name ∈ t.properties.keys := (hkeys name).mp (Table.mem_keys_iff_find?.mpr ⟨v, hf⟩)
    obtain ⟨decl, hdecl⟩ := Table.mem_keys_iff_find?.mp hk
    simp [hdecl]

lemma seed_of_keys {t : NodeType} {existing : Properties}
    (hkeys : existing.keys = t.properties.keys) : t.seed existing = existing :=
  Table.ext_find? (by rw [keys_seed, hkeys])
    (find?_seed_of_mem_keys fun k => by rw [hkeys])

end NodeType

namespace Snapshot

variable (registry : Registry) (n : Node)

@[simp] lemma id_refreshNode : (refreshNode registry n).id = n.id := by
  unfold refreshNode; split <;> rfl

@[simp] lemma typeName_refreshNode : (refreshNode registry n).typeName = n.typeName := by
  unfold refreshNode; split <;> rfl

@[simp] lemma position_refreshNode : (refreshNode registry n).position = n.position := by
  unfold refreshNode; split <;> rfl

end Snapshot

lemma Graph.nodes_reseed (g : Graph) (registry : Registry) :
    (g.reseed registry).nodes = g.nodes.map (Snapshot.refreshNode registry) := rfl

namespace Arena

lemma vacancies_map (a : Arena) (f : Node → Node) : (a.map f).vacancies = a.vacancies := by
  rw [vacancies, vacancies, map, List.zipIdx_map, List.filterMap_map]
  congr 1
  funext e
  simp

end Arena

/-- What is wrong with a connection between nodes of the graph: the types of both are registered,
and the link is refused. -/
def Graph.misfit? (g : Graph) (registry : Registry) (c : Connection) : Option GraphError :=
  if (g.typeOf? registry c.source).isSome && (g.typeOf? registry c.target).isSome then
    match g.checkLink registry c.source c.sourcePort c.target c.targetPort with
    | .error e => some e
    | .ok () => none
  else none

lemma Graph.misfit?_congr {g h : Graph} {registry : Registry} {c : Connection}
    (hs : (g.node? c.source).map Node.typeName = (h.node? c.source).map Node.typeName)
    (ht : (g.node? c.target).map Node.typeName = (h.node? c.target).map Node.typeName) :
    g.misfit? registry c = h.misfit? registry c := by
  have htype {id : NodeId} (hid : (g.node? id).map Node.typeName = (h.node? id).map Node.typeName) :
      g.typeOf? registry id = h.typeOf? registry id := by
    have := congrArg (Option.bind · registry.lookup) hid
    simpa [typeOf?, Option.bind_map, Function.comp_def] using this
  rw [misfit?, misfit?, htype hs, htype ht, checkLink_congr hs ht]

/-- A connection between nodes of the graph is refused exactly if it is a misfit. -/
lemma Graph.objection?_of_live {g : Graph} {registry : Registry} {c : Connection}
    (hs : g.nodes.contains c.source = true) (ht : g.nodes.contains c.target = true) :
    g.objection? registry c = g.misfit? registry c := by
  obtain ⟨n, hn⟩ := Arena.contains_iff.mp hs
  obtain ⟨m, hm⟩ := Arena.contains_iff.mp ht
  have hn' : g.node? c.source = some n := hn
  have hm' : g.node? c.target = some m := hm
  simp only [objection?, Snapshot.checkConnection, misfit?, typeOf?, hn', hm',
    Registry.contains_eq_isSome, Option.bind_some]
  cases (registry.lookup n.typeName).isSome && (registry.lookup m.typeName).isSome with
  | false => rfl
  | true => rfl

namespace Graph

/-- The graph that comes back: reseeded, without misfits, and with the lowest of its vacant slots
to be used first. -/
def reloaded (g : Graph) (registry : Registry) : Graph where
  id := g.id
  entity := g.entity
  nodes :=
    ⟨(g.reseed registry).nodes.slots, Arena.vacantIndices (g.reseed registry).nodes.slots,
      g.nodes.nodes.length⟩
  connections := g.connections.filter fun _ c => (g.misfit? registry c).isNone
  vars := g.vars

lemma nodes_reloaded (g : Graph) (registry : Registry) :
    (g.reloaded registry).nodes.nodes = g.nodes.nodes.map (Snapshot.refreshNode registry) :=
  g.nodes.nodes_map (Snapshot.refreshNode registry)

lemma vacancies_reloaded (g : Graph) (registry : Registry) :
    (g.reloaded registry).nodes.vacancies = g.nodes.vacancies :=
  g.nodes.vacancies_map (Snapshot.refreshNode registry)

lemma node?_reloaded (g : Graph) (registry : Registry) (id : NodeId) :
    (g.reloaded registry).node? id = (g.node? id).map (Snapshot.refreshNode registry) :=
  g.nodes.get?_map (Snapshot.refreshNode registry) id

/-- What a load complains about: placeholders in slot order, then misfits in their order. -/
def complaints (g : Graph) (registry : Registry) : List GraphError :=
  (g.nodes.nodes.filter fun n => !registry.contains n.typeName).map
      (fun n => .placeholderKept n.id n.typeName) ++
    g.connections.values.filterMap (g.misfit? registry)

variable {g : Graph}

lemma WellFormed.map_values_filter (hg : g.WellFormed) (p : Connection → Bool) :
    (g.connections.values.filter p).map (fun c => (c.id, c)) =
      (g.connections.filter fun _ c => p c).entries := by
  rw [Table.entries_filter, Table.values, List.filter_map, List.map_map]
  have hown : ∀ e ∈ g.connections.entries.filter (p ∘ Prod.snd),
      ((fun c : Connection => (c.id, c)) ∘ Prod.snd) e = e := by
    intro e he
    have hid := hg.keyed e.1 e.2 (List.mem_of_mem_filter he)
    exact Prod.ext hid rfl
  exact (List.map_congr_left hown).trans (List.map_id' _)

/-- Loading the snapshot of a well-formed graph. -/
theorem WellFormed.load_snapshot (hg : g.WellFormed) (hsize : g.nodes.slots.length ≤ 2 ^ 32)
    (registry : Registry) :
    (g.snapshot.load registry).1 = .ok ⟨g.reloaded registry, g.complaints registry⟩ := by
  have hversion : ¬ Snapshot.currentVersion < g.snapshot.version := UInt32.lt_irrefl _
  have harena := hg.nodes.restore_listing hsize (Snapshot.id_refreshNode registry)
  let nodes : Arena :=
    ⟨(g.reseed registry).nodes.slots, Arena.vacantIndices (g.reseed registry).nodes.slots,
      g.nodes.nodes.length⟩
  let bare : Graph := ⟨g.id, g.entity, nodes, .empty, .empty⟩
  have hnode (id : NodeId) : bare.node? id = (g.node? id).map (Snapshot.refreshNode registry) :=
    g.nodes.get?_map (Snapshot.refreshNode registry) id
  have hname (id : NodeId) :
      (bare.node? id).map Node.typeName = (g.node? id).map Node.typeName := by
    rw [hnode, Option.map_map]
    congr 1
    funext n
    exact Snapshot.typeName_refreshNode registry n
  have hlive (id : NodeId) (hid : g.nodes.contains id = true) : bare.nodes.contains id = true := by
    obtain ⟨n, hn⟩ := Arena.contains_iff.mp hid
    exact Arena.contains_iff.mpr ⟨_, (hnode id).trans (congrArg _ hn)⟩
  have hobjection : ∀ c ∈ g.connections.values,
      bare.objection? registry c = g.misfit? registry c := by
    intro c hc
    obtain ⟨hs, ht⟩ := hg.ends c hc
    rw [objection?_of_live (hlive _ hs) (hlive _ ht)]
    exact misfit?_congr (hname c.source) (hname c.target)
  have htaken : bare.takenUp registry g.connections.values =
      g.connections.values.filter fun c => (g.misfit? registry c).isNone :=
    List.filter_congr fun c hc => by rw [hobjection c hc]
  have hload : (g.snapshot.load registry).1 = .ok
      ⟨⟨g.id, g.entity, nodes,
          .ofList ((bare.takenUp registry g.connections.values).map fun c => (c.id, c)),
          .ofList g.vars.entries⟩,
        ((g.snapshot.placeholders registry).map fun n => .placeholderKept n.id n.typeName) ++
          g.connections.values.filterMap (bare.objection? registry)⟩ :=
    Snapshot.load_of_restore hversion harena
  rw [hload, htaken, hg.map_values_filter, Table.ofList_entries, Table.ofList_entries,
    List.filterMap_congr hobjection]
  rfl

/-- Every node holds exactly what its type declares, and every connection could be made now. -/
structure Fits (g : Graph) (registry : Registry) : Prop where
  declared : ∀ n ∈ g.nodes.nodes, ∃ t, registry.lookup n.typeName = some t ∧
    ∀ k, k ∈ n.properties.keys ↔ k ∈ t.properties.keys
  linked : ∀ c ∈ g.connections.values,
    g.checkLink registry c.source c.sourcePort c.target c.targetPort = .ok ()

namespace Fits

variable {registry : Registry}

lemma misfit?_eq_none (h : g.Fits registry) {c : Connection} (hc : c ∈ g.connections.values) :
    g.misfit? registry c = none := by
  simp [misfit?, h.linked c hc]

lemma complaints_eq_nil (h : g.Fits registry) : g.complaints registry = [] := by
  have hnodes : (g.nodes.nodes.filter fun n => !registry.contains n.typeName) = [] := by
    rw [List.filter_eq_nil_iff]
    intro n hn
    obtain ⟨t, ht, _⟩ := h.declared n hn
    simp [Registry.contains_eq_isSome, ht]
  have hlinks : g.connections.values.filterMap (g.misfit? registry) = [] := by
    rw [List.filterMap_eq_nil_iff]
    exact fun c hc => h.misfit?_eq_none hc
  rw [complaints, hnodes, hlinks]
  rfl

lemma connections_reloaded (h : g.Fits registry) :
    (g.reloaded registry).connections = g.connections := by
  apply Table.ext_entries
  refine List.filter_eq_self.mpr fun e he => ?_
  have hfit := h.misfit?_eq_none (Table.mem_values.mpr ⟨e.1, he⟩)
  simp [hfit]

lemma property?_reseed (h : g.Fits registry) (id : NodeId) (name : String) :
    (g.reseed registry).property? id name = g.property? id name := by
  rw [property?, property?, node?, nodes_reseed, Arena.get?_map, ← node?]
  cases hn : g.node? id with
  | none => rfl
  | some n =>
    obtain ⟨t, ht, hkeys⟩ := h.declared n (Arena.get?_mem_nodes hn)
    simp [Snapshot.refreshNode, ht, NodeType.find?_seed_of_mem_keys hkeys]

end Fits

lemma map_refreshNode_of_keys {registry : Registry}
    (h : ∀ n ∈ g.nodes.nodes, ∀ t, registry.lookup n.typeName = some t →
      n.properties.keys = t.properties.keys) :
    g.nodes.nodes.map (Snapshot.refreshNode registry) = g.nodes.nodes := by
  have hsame : ∀ n ∈ g.nodes.nodes, Snapshot.refreshNode registry n = n := by
    intro n hn
    unfold Snapshot.refreshNode
    split
    · next t ht => rw [NodeType.seed_of_keys (h n hn t ht)]
    · rfl
  exact (List.map_congr_left hsame).trans (List.map_id' _)

/-- A reachable graph can be stored and loaded under any registry. What comes back has the old id,
entity and variables, the old nodes in the old slots with the properties that a reseed gives them,
the old vacant slots, and the connections that are no misfits. The load complains about each
placeholder and then about each misfit. Under a registry that still fits it complains about nothing
and changes no property; if properties are also declared in the order in which the nodes hold them,
the loaded graph is stored as the first one was. -/
theorem Reachable.load_snapshot_reseeds (hg : g.Reachable) (hsize : g.nodes.slots.length < 2 ^ 32)
    (registry : Registry) :
    ∃ l log, g.snapshot.load registry = (.ok l, log) ∧
      l.graph.id = g.id ∧ l.graph.entity = g.entity ∧ l.graph.vars = g.vars ∧
      l.graph.nodes.nodes.map (fun n => (n.id, n.typeName, n.position)) =
        g.nodes.nodes.map (fun n => (n.id, n.typeName, n.position)) ∧
      l.graph.nodes.vacancies = g.nodes.vacancies ∧
      (∀ id, l.graph.node? id = (g.reseed registry).node? id) ∧
      (∀ id n, g.node? id = some n → registry.lookup n.typeName = none →
        l.graph.node? id = some n) ∧
      l.graph.connections = g.connections.filter (fun _ c => (g.misfit? registry c).isNone) ∧
      l.warnings =
        (g.nodes.nodes.filter fun n => !registry.contains n.typeName).map
            (fun n => .placeholderKept n.id n.typeName) ++
          g.connections.values.filterMap (g.misfit? registry) ∧
      (g.Fits registry → l.warnings = [] ∧ l.graph.connections = g.connections ∧
        (∀ id name, l.graph.property? id name = g.property? id name) ∧
        ((∀ n ∈ g.nodes.nodes, ∀ t, registry.lookup n.typeName = some t →
          n.properties.keys = t.properties.keys) → l.graph.snapshot = g.snapshot)) := by
  have hload := hg.wellFormed.load_snapshot (Nat.le_of_lt hsize) registry
  refine ⟨⟨g.reloaded registry, g.complaints registry⟩, (g.snapshot.load registry).2,
    Prod.ext hload rfl, rfl, rfl, rfl, ?_, ?_, fun _ => rfl, ?_, rfl, rfl, ?_⟩
  · rw [nodes_reloaded, List.map_map]
    apply List.map_congr_left
    intro n _
    simp
  · exact g.vacancies_reloaded registry
  · intro id n hn hunknown
    simp [node?_reloaded, hn, Snapshot.refreshNode, hunknown]
  · intro hfits
    refine ⟨hfits.complaints_eq_nil, hfits.connections_reloaded, hfits.property?_reseed, ?_⟩
    intro hkeys
    simp only [snapshot, nodes_reloaded, map_refreshNode_of_keys hkeys, vacancies_reloaded,
      hfits.connections_reloaded]
    rfl

end Graph

/-- A graph of an event, a sum and a print, in which one slot has been vacated. -/
def Graph.printing : Graph where
  id := default
  entity := default
  nodes :=
    ⟨[⟨0, some ⟨⟨0, 0⟩, "OnUpdate", .zero, .ofList [("deltaTime", .float .zero)]⟩⟩, ⟨1, none⟩,
      ⟨0, some ⟨⟨2, 0⟩, "Print", .zero, .ofList [("Value", .text "")]⟩⟩,
      ⟨0, some ⟨⟨3, 0⟩, "Add", .zero,
        .ofList [("A", .float .zero), ("B", .float .zero), ("Result", .float .zero)]⟩⟩], [1], 3⟩
  connections := .ofList [(default, ⟨default, ⟨0, 0⟩, "Exec", ⟨2, 0⟩, "Exec"⟩)]
  vars := .ofList [("count", .int 3)]

/-- The edits that lead to it. -/
def Graph.printingEdits : List Edit :=
  [.addNode .builtins "OnUpdate" .zero, .addNode .builtins "Branch" .zero,
    .addNode .builtins "Print" .zero, .addNode .builtins "Add" .zero,
    .connect .builtins default ⟨0, 0⟩ "Exec" ⟨2, 0⟩ "Exec", .removeNode ⟨1, 0⟩,
    .setVariable "count" (.int 3)]

lemma Graph.printing_reachable : Graph.printing.Reachable := by
  have h : Graph.printingEdits.foldlM Edit.apply (.empty default default) = .ok Graph.printing := by
    rfl
  exact Reachable.edits (.empty default default) h

lemma Graph.printing_fits : Graph.printing.Fits .builtins where
  declared n hn := by
    have hnodes : n ∈ [(⟨⟨0, 0⟩, "OnUpdate", .zero, .ofList [("deltaTime", .float .zero)]⟩ : Node),
        ⟨⟨2, 0⟩, "Print", .zero, .ofList [("Value", .text "")]⟩, ⟨⟨3, 0⟩, "Add", .zero,
          .ofList [("A", .float .zero), ("B", .float .zero), ("Result", .float .zero)]⟩] := hn
    simp only [List.mem_cons, List.not_mem_nil, or_false] at hnodes
    rcases hnodes with rfl | rfl | rfl
    · exact ⟨Builtin.onUpdate.nodeType, rfl, fun _ => Iff.rfl⟩
    · exact ⟨Builtin.print.nodeType, rfl, fun _ => Iff.rfl⟩
    · exact ⟨Builtin.add.nodeType, rfl, fun _ => Iff.rfl⟩
  linked c hc := by
    have hvalues : c ∈ [(⟨default, ⟨0, 0⟩, "Exec", ⟨2, 0⟩, "Exec"⟩ : Connection)] := hc
    rw [List.mem_singleton.mp hvalues]
    rfl

/-- A registry in which a print has lost its ports and sums are not known. -/
def Registry.shrunk : Registry :=
  ⟨.ofList [("OnUpdate", Builtin.onUpdate.nodeType),
    ("Print", .bare "Print" .utility (.builtin .print))]⟩

theorem load_snapshot_printing :
    Graph.printing.Reachable ∧ Graph.printing.nodes.slots.length < 2 ^ 32 ∧
      (∃ l log, Graph.printing.snapshot.load .shrunk = (.ok l, log) ∧
        l.graph.nodes.vacancies = [⟨1, 1⟩] ∧ l.graph.connections = .empty ∧
        l.graph.property? ⟨2, 0⟩ "Value" = none ∧
        l.graph.property? ⟨3, 0⟩ "A" = some (.float .zero) ∧
        l.warnings = [.placeholderKept ⟨3, 0⟩ "Add", .invalidPort ⟨2, 0⟩ "Exec"]) ∧
      Graph.printing.Fits .builtins ∧
      ∃ l log, Graph.printing.snapshot.load .builtins = (.ok l, log) ∧ l.warnings = [] ∧
        l.graph.connections = Graph.printing.connections := by
  have hsize : Graph.printing.nodes.slots.length < 2 ^ 32 := by decide
  refine ⟨Graph.printing_reachable, hsize, ?_, Graph.printing_fits, ?_⟩
  · obtain ⟨l, log, hload, _, _, _, _, hvacant, hnode, _, hconn, hwarn, _⟩ :=
      Graph.printing_reachable.load_snapshot_reseeds hsize .shrunk
    refine ⟨l, log, hload, hvacant.trans (by decide), hconn.trans (by decide), ?_, ?_,
      hwarn.trans (by decide)⟩
    · rw [Graph.property?, hnode]
      decide
    · rw [Graph.property?, hnode]
      decide
  · obtain ⟨l, log, hload, _, _, _, _, _, _, _, _, _, hfits⟩ :=
      Graph.printing_reachable.load_snapshot_reseeds hsize .builtins
    obtain ⟨hwarn, hconn, _⟩ := hfits Graph.printing_fits
    exact ⟨l, log, hload, hwarn, hconn⟩

end ScriptGraph
