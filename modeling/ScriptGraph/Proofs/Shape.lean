import ScriptGraph.Proofs.Arena
import ScriptGraph.Proofs.Table
import ScriptGraph.Tick

/-! The shape of a graph is everything about it but the values of properties and variables. No run
of a node and no published value changes it, so what depends on the shape alone, such as types,
targets and sources, stays the same throughout a tick. -/
namespace ScriptGraph

variable {σ : Type} [Host σ]

/-- A node without the values of its properties. -/
structure NodeShape where
  id : NodeId
  typeName : String
  position : Point
  keys : List String

/-- A graph without the values of properties and variables. -/
structure GraphShape where
  id : GraphId
  entity : EntityId
  slots : List (UInt32 × Option NodeShape)
  free : List UInt32
  count : Nat
  connections : Table ConnectionId Connection

def Node.shape (n : Node) : NodeShape := ⟨n.id, n.typeName, n.position, n.properties.keys⟩

def Slot.shape (s : Slot) : UInt32 × Option NodeShape := (s.generation, s.node.map Node.shape)

def Graph.shape (g : Graph) : GraphShape :=
  ⟨g.id, g.entity, g.nodes.slots.map Slot.shape, g.nodes.free, g.nodes.count, g.connections⟩

@[simp] lemma Node.shape_setProperty (n : Node) (name : String) (value : Value) :
    (n.setProperty name value).shape = n.shape := by
  simp [Node.setProperty, Node.shape]

namespace Graph

lemma shape_modifyNode (g : Graph) (id : NodeId) {f : Node → Node}
    (hf : ∀ n, g.node? id = some n → (f n).shape = n.shape) :
    (g.modifyNode id f).shape = g.shape := by
  unfold modifyNode Arena.modify
  split
  · next hc =>
    obtain ⟨n, hn⟩ := Arena.contains_iff.mp hc
    obtain ⟨s, hs, _, hsn⟩ := Arena.get?_eq_some_iff.mp hn
    have hslots : ((g.nodes.slots.modify id.index.toNat fun s =>
        { s with node := s.node.map f }).map Slot.shape) = g.nodes.slots.map Slot.shape := by
      apply List.ext_getElem?
      intro i
      simp only [List.getElem?_map, Arena.getElem?_modify_eq_ite]
      split
      · next hi =>
        subst hi
        simp [hs, hsn, Slot.shape, hf n hn]
      · rfl
    simp only [shape, hslots]
  · rfl

lemma shape_setProperty (g : Graph) (id : NodeId) (name : String) (value : Value) :
    (g.modifyNode id fun n => n.setProperty name value).shape = g.shape :=
  shape_modifyNode g id fun n _ => n.shape_setProperty name value

section Same

variable {g h : Graph}

/-- Graphs of one shape hold nodes of one shape under every id. -/
theorem map_shape_node? (hs : g.shape = h.shape) (id : NodeId) :
    (g.node? id).map Node.shape = (h.node? id).map Node.shape := by
  have hslot : g.nodes.slots[id.index.toNat]?.map Slot.shape =
      h.nodes.slots[id.index.toNat]?.map Slot.shape := by
    rw [← List.getElem?_map, ← List.getElem?_map]
    exact congrArg (fun s : GraphShape => s.slots[id.index.toNat]?) hs
  unfold node? Arena.get? Arena.slot?
  cases hg : g.nodes.slots[id.index.toNat]? <;> cases hh : h.nodes.slots[id.index.toNat]? <;>
    simp only [hg, hh, Option.map_some, Option.map_none, reduceCtorEq] at hslot
  · rfl
  · next s t =>
    obtain ⟨hgen, hnode⟩ := Prod.mk.inj (Option.some.inj hslot)
    dsimp only
    rw [hgen]
    by_cases he : t.generation = id.generation <;> simp [he, hnode]

lemma connections_of_shape (hs : g.shape = h.shape) : g.connections = h.connections :=
  congrArg GraphShape.connections hs

lemma map_typeName_of_shape (hs : g.shape = h.shape) (id : NodeId) :
    (g.node? id).map Node.typeName = (h.node? id).map Node.typeName := by
  have := congrArg (Option.map NodeShape.typeName) (map_shape_node? hs id)
  simpa [Option.map_map, Function.comp_def, Node.shape] using this

lemma typeOf?_of_shape (hs : g.shape = h.shape) (registry : Registry) (id : NodeId) :
    g.typeOf? registry id = h.typeOf? registry id := by
  have := congrArg (Option.bind · registry.lookup) (map_typeName_of_shape hs id)
  simpa [typeOf?, Option.bind_map, Function.comp_def] using this

lemma contains_of_shape (hs : g.shape = h.shape) (id : NodeId) :
    g.nodes.contains id = h.nodes.contains id := by
  have := congrArg Option.isSome (map_typeName_of_shape hs id)
  simpa [node?, Arena.contains] using this

lemma connectionsFrom_of_shape (hs : g.shape = h.shape) (node : NodeId) (port : String) :
    g.connectionsFrom node port = h.connectionsFrom node port := by
  rw [connectionsFrom, connectionsFrom, connections_of_shape hs]

lemma targets_of_shape (hs : g.shape = h.shape) (node : NodeId) (port : String) :
    g.targets node port = h.targets node port := by
  rw [targets, targets, connectionsFrom_of_shape hs]

/-- The label of a slot is a part of its shape. -/
lemma labels_of_shape (hs : g.shape = h.shape) :
    g.nodes.slots.map Arena.label = h.nodes.slots.map Arena.label := by
  have hlabel (a : Arena) : (a.slots.map Slot.shape).map
      (fun e : UInt32 × Option NodeShape => (e.1, e.2.map NodeShape.id)) =
        a.slots.map Arena.label := by
    rw [List.map_map]
    apply List.map_congr_left
    intro s _
    simp [Slot.shape, Arena.label, Node.shape, Function.comp_def]
  rw [← hlabel, ← hlabel]
  exact congrArg (List.map _) (congrArg GraphShape.slots hs)

lemma map_shape_nodes (hs : g.shape = h.shape) :
    g.nodes.nodes.map Node.shape = h.nodes.nodes.map Node.shape := by
  have hslots := congrArg GraphShape.slots hs
  have hmap (a : Arena) : a.nodes.map Node.shape = (a.slots.map Slot.shape).filterMap Prod.snd := by
    rw [Arena.nodes, List.map_filterMap, List.filterMap_map]
    rfl
  rw [hmap, hmap]
  exact congrArg (List.filterMap Prod.snd) hslots

lemma exists_mem_nodes_of_shape (hs : g.shape = h.shape) {n : Node} (hn : n ∈ g.nodes.nodes) :
    ∃ m ∈ h.nodes.nodes, m.shape = n.shape := by
  have hmem : n.shape ∈ h.nodes.nodes.map Node.shape := by
    rw [← map_shape_nodes hs]
    exact List.mem_map_of_mem hn
  exact List.mem_map.mp hmem

end Same

lemma mem_connectionsFrom {g : Graph} {node : NodeId} {port : String} {c : Connection} :
    c ∈ g.connectionsFrom node port ↔
      c ∈ g.connections.values ∧ c.source = node ∧ c.sourcePort = port := by
  simp [connectionsFrom]

section Publish

variable {P : Graph → Prop}

lemma deliver_induction {value : Value} {acc : List NodeId × Graph} {c : Connection}
    (hacc : P acc.2)
    (hc : P (acc.2.modifyNode c.target fun n => n.setProperty c.targetPort value)) :
    P (deliver value acc c).2 := by
  unfold deliver
  split
  · exact hc
  · exact hacc

lemma foldl_deliver_induction {value : Value} {cs : List Connection} {acc : List NodeId × Graph}
    (hacc : P acc.2)
    (hlink : ∀ h, ∀ c ∈ cs, P h →
      P (h.modifyNode c.target fun n => n.setProperty c.targetPort value)) :
    P (cs.foldl (deliver value) acc).2 := by
  induction cs generalizing acc with
  | nil => exact hacc
  | cons c cs ih =>
    refine ih (deliver_induction hacc (hlink _ c (by simp) hacc)) fun h d hd => ?_
    exact hlink h d (List.mem_cons_of_mem c hd)

/-- What each write keeps, publishing keeps: the writes go to the node's own properties and to the
inputs that its outputs are connected to. -/
theorem publish_induction {g : Graph} {node : NodeId} {values : Table String Value} (hg : P g)
    (hown : ∀ h port value, (port, value) ∈ values.entries → P h →
      P (h.modifyNode node fun n => n.setProperty port value))
    (hlink : ∀ h port value, (port, value) ∈ values.entries → ∀ c ∈ g.connectionsFrom node port,
      P h → P (h.modifyNode c.target fun n => n.setProperty c.targetPort value)) :
    P (g.publish node values).2 := by
  -- the connections looked at are those of the graph at the start
  have hfold (entries : List (String × Value)) (hsub : ∀ e ∈ entries, e ∈ values.entries)
      (acc : List NodeId × Graph) (hacc : P acc.2 ∧ acc.2.connections = g.connections) :
      P (entries.foldl (publishOne node) acc).2 := by
    induction entries generalizing acc with
    | nil => exact hacc.1
    | cons e entries ih =>
      have he : (e.1, e.2) ∈ values.entries := hsub e (by simp)
      refine ih (fun d hd => hsub d (List.mem_cons_of_mem e hd)) _ ?_
      unfold publishOne
      refine foldl_deliver_induction (P := fun h => P h ∧ h.connections = g.connections)
        ⟨hown _ e.1 e.2 he hacc.1, hacc.2⟩ fun h c hc hh => ⟨?_, hh.2⟩
      have hc' : c ∈ g.connectionsFrom node e.1 := by
        rw [connectionsFrom, ← hacc.2]
        exact hc
      exact hlink h e.1 e.2 he c hc' hh.1
  exact hfold values.entries (fun _ h => h) ([], g) ⟨hg, rfl⟩

end Publish

theorem shape_publish (g : Graph) (node : NodeId) (values : Table String Value) :
    (g.publish node values).2.shape = g.shape :=
  publish_induction (P := fun h => h.shape = g.shape) rfl
    (fun h port value _ hh => (shape_setProperty h node port value).trans hh)
    (fun h _ value _ c _ hh => (shape_setProperty h c.target c.targetPort value).trans hh)

lemma vars_publish (g : Graph) (node : NodeId) (values : Table String Value) :
    (g.publish node values).2.vars = g.vars :=
  publish_induction (P := fun h => h.vars = g.vars) rfl (fun _ _ _ _ h => h)
    fun _ _ _ _ _ _ h => h

end Graph

namespace TickRules

variable {g h : Graph}

lemma isPure_of_shape (r : TickRules) (hs : g.shape = h.shape) (node : NodeId) :
    r.isPure g node = r.isPure h node := by
  rw [isPure, isPure, Graph.typeOf?_of_shape hs]

lemma sources_of_shape (r : TickRules) (hs : g.shape = h.shape) (node : NodeId) :
    r.sources g node = r.sources h node := by
  unfold sources
  simp only [Graph.typeOf?_of_shape hs, Graph.connections_of_shape hs, r.isPure_of_shape hs]

lemma mem_addNew {α : Type} [DecidableEq α] {x y : α} {l : List α} :
    x ∈ addNew l y ↔ x ∈ l ∨ x = y := by
  unfold addNew
  split
  · next hy => exact ⟨Or.inl, fun h => h.elim id fun e => e ▸ hy⟩
  · simp

lemma mem_foldl_addNew {α : Type} [DecidableEq α] {x : α} {l acc : List α} :
    x ∈ l.foldl addNew acc ↔ x ∈ acc ∨ x ∈ l := by
  induction l generalizing acc with
  | nil => simp
  | cons y l ih => rw [List.foldl_cons, ih, mem_addNew, List.mem_cons, or_assoc]

/-- The sources of a node are where its fed data inputs lead back to. -/
theorem mem_sources {r : TickRules} {node source : NodeId} :
    source ∈ r.sources g node ↔ ∃ t, g.typeOf? r.registry node = some t ∧
      ∃ c ∈ g.connections.values, c.source = source ∧ c.target = node ∧
        (t.input? c.targetPort).any (fun p => !p.type.isExec) = true ∧
          r.isPure g c.source = true := by
  unfold sources
  split
  · next h => simp [h]
  · next t ht =>
    simp only [mem_foldl_addNew, List.mem_map, List.mem_filter, Bool.and_eq_true,
      decide_eq_true_eq, List.not_mem_nil, false_or, ht, Option.some.injEq, exists_eq_left']
    constructor
    · rintro ⟨c, ⟨hc, ⟨rfl, hp⟩, hpure⟩, rfl⟩
      exact ⟨c, hc, rfl, rfl, hp, hpure⟩
    · rintro ⟨c, hc, rfl, rfl, hp, hpure⟩
      exact ⟨c, ⟨hc, ⟨rfl, hp⟩, hpure⟩, rfl⟩

lemma isPure_of_mem_sources {r : TickRules} {node source : NodeId}
    (h : source ∈ r.sources g node) : r.isPure g source = true := by
  obtain ⟨_, _, c, _, rfl, _, _, hpure⟩ := mem_sources.mp h
  exact hpure

/-- What the script of a node comes to when the node is run now. -/
def perform (r : TickRules) (t : NodeType) (n : Node) (s : TickState σ) :
    Except NodeError Outcome × Workspace σ :=
  (t.behavior.script { r.context with node := n.id, typeName := n.typeName }).run
    ⟨n.properties, s.graph.vars, s.scene, []⟩

end TickRules

/-- The graph once a script has left its workspace behind. -/
def Graph.absorb (g : Graph) (node : NodeId) (w : Workspace σ) : Graph :=
  { g.modifyNode node fun n => { n with properties := w.properties } with vars := w.vars }

namespace TickRules

lemma invoke_of_absent (r : TickRules) {node : NodeId} {s : TickState σ}
    (hn : s.graph.node? node = none) : r.invoke node s = (.idle, s) := by
  simp only [invoke, hn]

lemma invoke_of_unregistered (r : TickRules) {node : NodeId} {s : TickState σ} {n : Node}
    (hn : s.graph.node? node = some n) (ht : r.registry.lookup n.typeName = none) :
    r.invoke node s = (.idle, {
      s with
      stats := { s.stats with degraded := s.stats.degraded + 1 }
      log := s.log.push (.placeholderSkipped s.graph.id node n.typeName) }) := by
  simp only [invoke, hn, ht]

/-- The log once a script has printed. -/
def printedLog (r : TickRules) (n : Node) (s : TickState σ) (w : Workspace σ) : Log :=
  s.log ++ (w.printed.map fun v => LogEntry.printed r.context.entity n.id v).toArray

lemma invoke_of_ok (r : TickRules) {node : NodeId} {s : TickState σ} {n : Node} {t : NodeType}
    {outcome : Outcome} {w : Workspace σ} (hn : s.graph.node? node = some n)
    (ht : r.registry.lookup n.typeName = some t) (hp : r.perform t n s = (.ok outcome, w)) :
    r.invoke node s = (outcome, {
      s with
      graph := s.graph.absorb node w
      scene := w.scene
      log := (r.printedLog n s w).push (.nodeRan s.graph.id node outcome) }) := by
  unfold perform at hp
  simp only [invoke, hn, ht, hp]
  rfl

lemma invoke_of_error (r : TickRules) {node : NodeId} {s : TickState σ} {n : Node} {t : NodeType}
    {e : NodeError} {w : Workspace σ} (hn : s.graph.node? node = some n)
    (ht : r.registry.lookup n.typeName = some t) (hp : r.perform t n s = (.error e, w)) :
    r.invoke node s = (.idle, {
      graph := s.graph.absorb node w
      scene := w.scene
      stats := { s.stats with degraded := s.stats.degraded + 1 }
      log := (r.printedLog n s w).push (.nodeFailed s.graph.id node t.name e) }) := by
  unfold perform at hp
  simp only [invoke, hn, ht, hp]
  rfl

/-- The four ways in which running a node can go. -/
theorem invoke_cases {r : TickRules} {node : NodeId} {s : TickState σ}
    {P : Outcome × TickState σ → Prop} (absent : s.graph.node? node = none → P (.idle, s))
    (unregistered : ∀ n, s.graph.node? node = some n → r.registry.lookup n.typeName = none →
      P (.idle, {
        s with
        stats := { s.stats with degraded := s.stats.degraded + 1 }
        log := s.log.push (.placeholderSkipped s.graph.id node n.typeName) }))
    (ok : ∀ n t outcome w, s.graph.node? node = some n → r.registry.lookup n.typeName = some t →
      r.perform t n s = (.ok outcome, w) → P (outcome, {
        s with
        graph := s.graph.absorb node w
        scene := w.scene
        log := (r.printedLog n s w).push (.nodeRan s.graph.id node outcome) }))
    (error : ∀ n t e w, s.graph.node? node = some n → r.registry.lookup n.typeName = some t →
      r.perform t n s = (.error e, w) → P (.idle, {
        graph := s.graph.absorb node w
        scene := w.scene
        stats := { s.stats with degraded := s.stats.degraded + 1 }
        log := (r.printedLog n s w).push (.nodeFailed s.graph.id node t.name e) })) :
    P (r.invoke node s) := by
  cases hn : s.graph.node? node with
  | none => exact r.invoke_of_absent hn ▸ absent hn
  | some n =>
    cases ht : r.registry.lookup n.typeName with
    | none => exact r.invoke_of_unregistered hn ht ▸ unregistered n hn ht
    | some t =>
      rcases hp : r.perform t n s with ⟨e | outcome, w⟩
      · exact r.invoke_of_error hn ht hp ▸ error n t e w hn ht hp
      · exact r.invoke_of_ok hn ht hp ▸ ok n t outcome w hn ht hp

lemma keys_perform {r : TickRules} {t : NodeType} {n : Node} {s : TickState σ}
    {e : Except NodeError Outcome} {w : Workspace σ} (hp : r.perform t n s = (e, w)) :
    w.properties.keys = n.properties.keys := by
  have h := Script.keys_properties_run
    (t.behavior.script { r.context with node := n.id, typeName := n.typeName })
    ⟨n.properties, s.graph.vars, s.scene, []⟩
  unfold perform at hp
  rw [hp] at h
  exact h

omit [Host σ] in
lemma shape_absorb {g : Graph} {node : NodeId} {n : Node} {w : Workspace σ}
    (hn : g.node? node = some n) (hk : w.properties.keys = n.properties.keys) :
    (g.absorb node w).shape = g.shape := by
  refine (g.shape_modifyNode node fun m hm => ?_ : (g.modifyNode node fun n =>
    { n with properties := w.properties }).shape = g.shape)
  rw [hn] at hm
  rw [← Option.some.inj hm, Node.shape, Node.shape, hk]

/-- Running a node changes values only. -/
theorem shape_invoke (r : TickRules) (node : NodeId) (s : TickState σ) :
    (r.invoke node s).2.graph.shape = s.graph.shape := by
  refine invoke_cases (P := fun ran => ran.2.graph.shape = s.graph.shape) ?_ ?_ ?_ ?_
  · intro _
    rfl
  · intro _ _ _
    rfl
  · intro n t outcome w hn _ hp
    exact shape_absorb hn (keys_perform hp)
  · intro n t e w hn _ hp
    exact shape_absorb hn (keys_perform hp)

end TickRules

end ScriptGraph
