import ScriptGraph.Proofs.Mirroring
import ScriptGraph.Proofs.Publishing

/-! How far a tick can reach. Execution goes forward along connections, and backward to the pure
nodes that feed what it reaches. What it does not reach keeps its properties, and neither what is
reached nor the log, the scene, the variables or the counters depend on those. -/
namespace ScriptGraph

variable {σ : Type}

namespace Graph

/-- The nodes within reach of a tick: those of event types, whatever they lead to, and the pure
nodes that lead to one of them. -/
inductive InReach (g : Graph) (registry : Registry) : NodeId → Prop
  | event {n t} (mem : n ∈ g.nodes.nodes) (type : registry.lookup n.typeName = some t)
      (event : t.isEvent = true) : InReach g registry n.id
  | led {c} (mem : c ∈ g.connections.values) (source : InReach g registry c.source) :
      InReach g registry c.target
  | feeds {c t} (mem : c ∈ g.connections.values) (target : InReach g registry c.target)
      (type : g.typeOf? registry c.source = some t) (pure : t.isPure = true) :
      InReach g registry c.source

/-- The graphs have the same shape, and the same nodes where `p` holds. -/
structure AgreeOn (p : NodeId → Prop) (g h : Graph) : Prop where
  shape : h.shape = g.shape
  nodes : ∀ id, p id → h.node? id = g.node? id

section Agree

variable {p : NodeId → Prop} {g h : Graph}

lemma node?_modifyNode (g : Graph) (id : NodeId) (f : Node → Node) (j : NodeId) :
    (g.modifyNode id f).node? j = if j = id then (g.node? j).map f else g.node? j :=
  g.nodes.get?_modify id f j

lemma AgreeOn.modifyNode (hagree : g.AgreeOn p h) (id : NodeId) {f : Node → Node}
    (hg : (g.modifyNode id f).shape = g.shape) (hh : (h.modifyNode id f).shape = h.shape) :
    (g.modifyNode id f).AgreeOn p (h.modifyNode id f) := by
  refine ⟨hh.trans (hagree.shape.trans hg.symm), fun j hj => ?_⟩
  rw [node?_modifyNode, node?_modifyNode, hagree.nodes j hj]

lemma AgreeOn.deliver {value : Value} {reached : List NodeId} (hagree : g.AgreeOn p h)
    (c : Connection) :
    (deliver value (reached, g) c).1 = (deliver value (reached, h) c).1 ∧
      (deliver value (reached, g) c).2.AgreeOn p (deliver value (reached, h) c).2 := by
  unfold Graph.deliver
  simp only [contains_of_shape hagree.shape]
  split
  · refine ⟨rfl, hagree.modifyNode c.target ?_ ?_⟩
    · exact shape_setProperty g _ _ _
    · exact shape_setProperty h _ _ _
  · exact ⟨rfl, hagree⟩

/-- Publishing reaches the same nodes and writes the same values. -/
theorem AgreeOn.publish (hagree : g.AgreeOn p h) (node : NodeId) (values : Table String Value) :
    (g.publish node values).1 = (h.publish node values).1 ∧
      (g.publish node values).2.AgreeOn p (h.publish node values).2 := by
  unfold Graph.publish
  refine List.foldl_rel (r := fun a b : List NodeId × Graph => a.1 = b.1 ∧ a.2.AgreeOn p b.2)
    ⟨rfl, hagree⟩ ?_
  rintro entry _ ⟨reached, g⟩ ⟨_, h⟩ ⟨rfl, hagree⟩
  have hown := hagree.modifyNode node (shape_setProperty g node entry.1 entry.2)
    (shape_setProperty h node entry.1 entry.2)
  unfold publishOne
  dsimp only
  -- connections are part of the shape, so both go through the same ones
  rw [connectionsFrom_of_shape hown.shape]
  refine List.foldl_rel (r := fun a b : List NodeId × Graph => a.1 = b.1 ∧ a.2.AgreeOn p b.2)
    ⟨rfl, hown⟩ ?_
  rintro c _ ⟨reached, g⟩ ⟨_, h⟩ ⟨rfl, hagree⟩
  exact hagree.deliver c

lemma exists_of_mem_publish {node target : NodeId} {values : Table String Value}
    (hm : target ∈ (g.publish node values).1) :
    ∃ c ∈ g.connections.values, c.source = node ∧ c.target = target := by
  obtain ⟨_, _, c, hc, htarget⟩ := mem_addressees.mp (mem_publish.mp hm).1
  obtain ⟨hmem, hsource, _⟩ := mem_connectionsFrom.mp hc
  exact ⟨c, hmem, hsource, htarget⟩

/-- Nodes that are not at the end of a connection from `node` are left alone. -/
lemma node?_publish_of_not {node id : NodeId} {values : Table String Value} (hnode : p node)
    (hled : ∀ c ∈ g.connections.values, c.source = node → p c.target) (hid : ¬ p id) :
    (g.publish node values).2.node? id = g.node? id := by
  have hwrite {h : Graph} {j : NodeId} (f : Node → Node) (hj : p j)
      (hh : h.node? id = g.node? id) : (h.modifyNode j f).node? id = g.node? id := by
    have hne : id ≠ j := fun he => hid (he ▸ hj)
    rw [node?_modifyNode, if_neg hne, hh]
  refine publish_induction (P := fun h => h.node? id = g.node? id) rfl ?_ ?_
  · intro h port value _ hh
    exact hwrite _ hnode hh
  · intro h port value _ c hc hh
    obtain ⟨hmem, hsource, _⟩ := mem_connectionsFrom.mp hc
    exact hwrite _ (hled c hmem hsource) hh

end Agree

end Graph

namespace TickRules

/-- The states of two ticks, of which the first began with the graph `g`: they differ at most in
nodes out of reach, and those the first has left alone. -/
structure Alike (r : TickRules) (g : Graph) (s s' : TickState σ) : Prop where
  shape : s.graph.shape = g.shape
  agree : s.graph.AgreeOn (g.InReach r.registry) s'.graph
  beyond : ∀ id, ¬ g.InReach r.registry id → s.graph.node? id = g.node? id
  vars : s'.graph.vars = s.graph.vars
  scene : s'.scene = s.scene
  stats : s'.stats = s.stats
  log : s'.log = s.log

namespace Alike

variable {r : TickRules} {g : Graph} {s s' : TickState σ}

lemma countRoot (h : r.Alike g s s') : r.Alike g s.countRoot s'.countRoot :=
  { h with stats := by simp only [TickState.countRoot, h.stats] }

lemma counted (h : r.Alike g s s') (isRoot : Bool) :
    r.Alike g (s.counted isRoot) (s'.counted isRoot) :=
  { h with stats := by simp only [TickState.counted, h.stats] }

lemma id_eq (h : r.Alike g s s') : s'.graph.id = s.graph.id := congrArg GraphShape.id h.agree.shape

lemma refuse (h : r.Alike g s s') (entry : LogEntry) :
    r.Alike g (s.refuse entry) (s'.refuse entry) :=
  { h with
    stats := by simp only [TickState.refuse, h.stats]
    log := by simp only [TickState.refuse, h.log] }

lemma refuseReentry (h : r.Alike g s s') (node : NodeId) :
    r.Alike g (s.refuseReentry node) (s'.refuseReentry node) := by
  rw [TickState.refuseReentry, TickState.refuseReentry, h.id_eq]
  exact h.refuse _

lemma refuseDepth (h : r.Alike g s s') (node : NodeId) (depth : Nat) :
    r.Alike g (s.refuseDepth node depth) (s'.refuseDepth node depth) := by
  rw [TickState.refuseDepth, TickState.refuseDepth, h.id_eq]
  exact h.refuse _

lemma perform [Host σ] (h : r.Alike g s s') (t : NodeType) (n : Node) :
    r.perform t n s' = r.perform t n s := by
  rw [TickRules.perform, TickRules.perform, h.vars, h.scene]

lemma printedLog (h : r.Alike g s s') (n : Node) (w : Workspace σ) :
    r.printedLog n s' w = r.printedLog n s w := by
  rw [TickRules.printedLog, TickRules.printedLog, h.log]

lemma absorb (h : r.Alike g s s') {node : NodeId} (hreach : g.InReach r.registry node) {n : Node}
    {w : Workspace σ} (hn : s.graph.node? node = some n)
    (hk : w.properties.keys = n.properties.keys) :
    (s.graph.absorb node w).shape = g.shape ∧
      (s.graph.absorb node w).AgreeOn (g.InReach r.registry) (s'.graph.absorb node w) ∧
      ∀ id, ¬ g.InReach r.registry id → (s.graph.absorb node w).node? id = g.node? id := by
  have hn' : s'.graph.node? node = some n := (h.agree.nodes node hreach).trans hn
  have hshape : (s.graph.absorb node w).shape = s.graph.shape := shape_absorb hn hk
  have hshape' : (s'.graph.absorb node w).shape = s'.graph.shape := shape_absorb hn' hk
  have hagree := h.agree.modifyNode node (f := fun n => { n with properties := w.properties })
    hshape hshape'
  refine ⟨hshape.trans h.shape, ⟨hagree.shape, hagree.nodes⟩, fun id hid => ?_⟩
  have hne : id ≠ node := fun he => hid (he ▸ hreach)
  rw [← h.beyond id hid]
  exact (s.graph.node?_modifyNode node _ id).trans (if_neg hne)

/-- A node within reach does the same in both. -/
theorem invoke [Host σ] (h : r.Alike g s s') {node : NodeId}
    (hreach : g.InReach r.registry node) :
    (r.invoke node s').1 = (r.invoke node s).1 ∧
      r.Alike g (r.invoke node s).2 (r.invoke node s').2 := by
  have hsame : s'.graph.node? node = s.graph.node? node := h.agree.nodes node hreach
  refine invoke_cases (P := fun ran => (r.invoke node s').1 = ran.1 ∧
    r.Alike g ran.2 (r.invoke node s').2) ?_ ?_ ?_ ?_
  · intro hn
    rw [r.invoke_of_absent (hsame.trans hn)]
    exact ⟨rfl, h⟩
  · intro n hn ht
    rw [r.invoke_of_unregistered (hsame.trans hn) ht, h.id_eq]
    exact ⟨rfl, { h with stats := by simp only [h.stats], log := by simp only [h.log] }⟩
  · intro n t outcome w hn ht hp
    rw [r.invoke_of_ok (hsame.trans hn) ht ((h.perform t n).trans hp), h.printedLog, h.id_eq]
    obtain ⟨hshape, hagree, hbeyond⟩ := h.absorb hreach hn (keys_perform hp)
    exact ⟨rfl, hshape, hagree, hbeyond, rfl, rfl, h.stats, rfl⟩
  · intro n t e w hn ht hp
    rw [r.invoke_of_error (hsame.trans hn) ht ((h.perform t n).trans hp), h.printedLog, h.id_eq]
    obtain ⟨hshape, hagree, hbeyond⟩ := h.absorb hreach hn (keys_perform hp)
    exact ⟨rfl, hshape, hagree, hbeyond, rfl, rfl, by simp only [h.stats], rfl⟩

lemma publish (h : r.Alike g s s') {node : NodeId} (hreach : g.InReach r.registry node)
    (values : Table String Value) : r.Alike g (s.publish node values) (s'.publish node values) := by
  have hvars := (s.graph.vars_publish node values)
  have hvars' := (s'.graph.vars_publish node values)
  refine ⟨?_, (h.agree.publish node values).2, fun id hid => ?_, ?_, h.scene, h.stats, h.log⟩
  · exact (s.graph.shape_publish node values).trans h.shape
  · rw [← h.beyond id hid]
    refine Graph.node?_publish_of_not hreach (fun c hc hsource => ?_) hid
    rw [Graph.connections_of_shape h.shape] at hc
    exact .led hc (hsource ▸ hreach)
  · exact hvars'.trans (h.vars.trans hvars.symm)

lemma settle [Host σ] (h : r.Alike g s s') {source : NodeId}
    (hreach : g.InReach r.registry source) :
    r.Alike g (r.settle source s) (r.settle source s') := by
  obtain ⟨hsame, hran⟩ := h.invoke hreach
  unfold TickRules.settle
  rw [hsame]
  split
  · exact hran.publish hreach _
  · exact hran

lemma targets (h : r.Alike g s s') (node : NodeId) (port : String) :
    s'.graph.targets node port = s.graph.targets node port :=
  Graph.targets_of_shape h.agree.shape node port

lemma sources (h : r.Alike g s s') (node : NodeId) :
    r.sources s'.graph node = r.sources s.graph node :=
  r.sources_of_shape h.agree.shape node

lemma receivers (h : r.Alike g s s') (node : NodeId) (values : Table String Value) :
    r.receivers s'.graph node values = r.receivers s.graph node values := by
  obtain ⟨hreached, hagree⟩ := h.agree.publish node values
  unfold TickRules.receivers
  rw [← hreached]
  exact List.filter_congr fun id _ => r.isPure_of_shape hagree.shape id

end Alike

end TickRules

/-- The nodes that a task is about are within reach. -/
def Task.Within (g : Graph) (registry : Registry) : Task → Prop
  | .roots nodes | .visit nodes | .evaluate nodes => ∀ node ∈ nodes, g.InReach registry node
  | .dispatch node | .follow node _ | .ports node _ _ | .pull node => g.InReach registry node

namespace TickRules.Alike

variable {r : TickRules} {g : Graph} {s s' : TickState σ} {node : NodeId}

lemma within_targets (h : r.Alike g s s') (hreach : g.InReach r.registry node) (port : String) :
    (Task.visit (s.graph.targets node port)).Within g r.registry := by
  intro target hm
  rw [Graph.targets_of_shape h.shape] at hm
  obtain ⟨c, hc, rfl⟩ := List.mem_map.mp hm
  obtain ⟨hmem, hsource, _⟩ := Graph.mem_connectionsFrom.mp hc
  exact .led hmem (hsource ▸ hreach)

lemma within_receivers (h : r.Alike g s s') (hreach : g.InReach r.registry node)
    (values : Table String Value) :
    (Task.visit (r.receivers s.graph node values)).Within g r.registry := by
  intro receiver hm
  obtain ⟨c, hc, hsource, rfl⟩ := Graph.exists_of_mem_publish (List.mem_filter.mp hm).1
  rw [Graph.connections_of_shape h.shape] at hc
  exact .led hc (hsource ▸ hreach)

lemma within_sources (h : r.Alike g s s') (hreach : g.InReach r.registry node) :
    (Task.evaluate (r.sources s.graph node)).Within g r.registry := by
  intro source hm
  rw [r.sources_of_shape h.shape] at hm
  obtain ⟨_, _, c, hc, rfl, rfl, _, hpure⟩ := mem_sources.mp hm
  obtain ⟨t, ht, hpure⟩ := (Option.any_eq_true _ _).mp hpure
  exact .feeds hc hreach ht hpure

end TickRules.Alike

namespace TickRules

variable [Host σ]

/-- Ticks that begin alike stay alike, as far as they go to nodes within reach. -/
theorem mirrors_alike (r : TickRules) (g : Graph) :
    r.Mirrors (Task.Within g r.registry) (r.Alike g : TickState σ → TickState σ → Prop) where
  countRoot h := h.countRoot
  counted h isRoot := h.counted isRoot
  refuseReentry h node := h.refuseReentry node
  refuseDepth h node depth := h.refuseDepth node depth
  roots ok := List.forall_mem_cons.mp ok
  visit ok := List.forall_mem_cons.mp ok
  evaluate ok := List.forall_mem_cons.mp ok
  dispatch ok := ok
  sources ok h := ⟨h.sources _, h.within_sources ok⟩
  settle ok h := h.settle ok
  invoke ok h := ⟨(h.invoke ok).1, (h.invoke ok).2, ok⟩
  flow ok h := ⟨h.targets _ _, h.within_targets ok _⟩
  publish ok _ h := ⟨h.publish ok _, h.receivers _ _, h.within_receivers ok _⟩
  publishThenFlow ok := ok
  flows ok := ok
  ports ok h := ⟨h.targets _ _, h.within_targets ok _, fun _ => ok⟩

variable {r : TickRules} {collisionsOnly : Bool} {g h : Graph} {scene : σ}

lemma within_roots : (Task.roots (r.roots g collisionsOnly)).Within g r.registry := by
  intro root hm
  obtain ⟨n, hn, rfl⟩ := List.mem_map.mp hm
  obtain ⟨hmem, hstarts⟩ := List.mem_filter.mp hn
  obtain ⟨t, ht, hevent⟩ := (Option.any_eq_true _ _).mp hstarts
  exact .event hmem ht (Bool.and_eq_true_iff.mp hevent).1

lemma roots_of_shape (hs : h.shape = g.shape) :
    r.roots h collisionsOnly = r.roots g collisionsOnly := by
  have hroots (g : Graph) : r.roots g collisionsOnly = ((g.nodes.nodes.map Node.shape).filter
      fun n => (r.registry.lookup n.typeName).any fun t =>
        t.isEvent && (!collisionsOnly || t.collisionEvent)).map NodeShape.id := by
    rw [List.filter_map, List.map_map]
    rfl
  rw [hroots, hroots, Graph.map_shape_nodes hs]

/-- Ticks of two graphs that agree within reach end alike. -/
theorem alike_run (hagree : g.AgreeOn (g.InReach r.registry) h) (hvars : h.vars = g.vars) :
    r.Alike g (r.run collisionsOnly g scene) (r.run collisionsOnly h scene) := by
  have hstart : r.Alike g (start g scene) (start h scene) :=
    ⟨rfl, hagree, fun _ _ => rfl, hvars, rfl, rfl, rfl⟩
  exact (r.mirrors_alike g).run hstart (roots_of_shape hagree.shape) within_roots

/-- A tick leaves every node out of reach as it is. A graph that differs only in the values of
properties there is ticked with the same counters, log, scene and variables, and with the same nodes
within reach. -/
theorem run_confined_to_reach (r : TickRules) (collisionsOnly : Bool) (g : Graph) (scene : σ) :
    (∀ id, ¬ g.InReach r.registry id →
      (r.run collisionsOnly g scene).graph.node? id = g.node? id) ∧
    ∀ h : Graph, h.shape = g.shape → h.vars = g.vars →
      (∀ id, g.InReach r.registry id → h.node? id = g.node? id) →
      let ended := r.run collisionsOnly g scene
      let other := r.run collisionsOnly h scene
      other.stats = ended.stats ∧ other.log = ended.log ∧ other.scene = ended.scene ∧
        other.graph.vars = ended.graph.vars ∧
        ∀ id, g.InReach r.registry id → other.graph.node? id = ended.graph.node? id := by
  constructor
  · have hself : r.Alike g (r.run collisionsOnly g scene) (r.run collisionsOnly g scene) :=
      alike_run ⟨rfl, fun _ _ => rfl⟩ rfl
    exact hself.beyond
  · intro h hshape hvars hnodes ended other
    have hend : r.Alike g ended other := alike_run ⟨hshape, hnodes⟩ hvars
    exact ⟨hend.stats, hend.log, hend.scene, hend.vars, hend.agree.nodes⟩

end TickRules

/-- An event leads to a printing node. A node that sets a variable leads there too, but nothing
leads to that one: only a sum feeds it, which is therefore never asked for. -/
def Graph.sheltered : Graph where
  id := default
  entity := default
  nodes :=
    ⟨[⟨0, some ⟨⟨0, 0⟩, "OnStart", .zero, .empty⟩⟩,
      ⟨0, some ⟨⟨1, 0⟩, "Print", .zero, .ofList [("Value", .text "ready")]⟩⟩,
      ⟨0, some ⟨⟨2, 0⟩, "SetVariable", .zero,
        .ofList [("Name", .text "sum"), ("Value", .int 0)]⟩⟩,
      ⟨0, some ⟨⟨3, 0⟩, "Add", .zero,
        .ofList [("A", .int 1), ("B", .int 2), ("Result", .int 0)]⟩⟩], [], 4⟩
  connections := .ofList
    [(⟨.ofNat 1⟩, ⟨⟨.ofNat 1⟩, ⟨0, 0⟩, "Exec", ⟨1, 0⟩, "Exec"⟩),
      (⟨.ofNat 2⟩, ⟨⟨.ofNat 2⟩, ⟨2, 0⟩, "Exec", ⟨1, 0⟩, "Exec"⟩),
      (⟨.ofNat 3⟩, ⟨⟨.ofNat 3⟩, ⟨3, 0⟩, "Result", ⟨2, 0⟩, "Value"⟩)]
  vars := .empty

lemma Graph.reach_sheltered {id : NodeId} (h : Graph.sheltered.InReach .builtins id) :
    id = ⟨0, 0⟩ ∨ id = ⟨1, 0⟩ := by
  induction h with
  | @event n t mem type event =>
    have hevents : ∀ n ∈ Graph.sheltered.nodes.nodes,
        (Registry.builtins.lookup n.typeName).any NodeType.isEvent = true →
          n.id = ⟨0, 0⟩ ∨ n.id = ⟨1, 0⟩ := by decide
    exact hevents n mem (by simp [type, event])
  | @led c mem _ ih =>
    have hled : ∀ c ∈ Graph.sheltered.connections.values, c.source = ⟨0, 0⟩ ∨ c.source = ⟨1, 0⟩ →
        c.target = ⟨0, 0⟩ ∨ c.target = ⟨1, 0⟩ := by decide
    exact hled c mem ih
  | @feeds c t mem _ type pure ih =>
    have hfeeds : ∀ c ∈ Graph.sheltered.connections.values, c.target = ⟨0, 0⟩ ∨ c.target = ⟨1, 0⟩ →
        (Graph.sheltered.typeOf? .builtins c.source).any NodeType.isPure = true →
          c.source = ⟨0, 0⟩ ∨ c.source = ⟨1, 0⟩ := by decide
    exact hfeeds c mem ih (by simp [type, pure])

theorem run_sheltered_confined :
    let r : TickRules := ⟨.builtins, ⟨default, .one, 0, none⟩, 8⟩
    let g := Graph.sheltered
    let h := g.modifyNode ⟨3, 0⟩ fun n => n.setProperty "A" (.int 5)
    (r.run false g Scene.empty).graph.node? ⟨3, 0⟩ = g.node? ⟨3, 0⟩ ∧
      h ≠ g ∧ (r.run false h Scene.empty).log = (r.run false g Scene.empty).log ∧
      (r.run false g Scene.empty).log.size = 3 := by
  intro r g h
  obtain ⟨hbeyond, hsame⟩ := TickRules.run_confined_to_reach r false g Scene.empty
  have hout : ¬ g.InReach r.registry ⟨3, 0⟩ := by
    intro hreach
    have hcases := Graph.reach_sheltered hreach
    revert hcases
    decide
  have hnodes : ∀ id, g.InReach r.registry id → h.node? id = g.node? id := by
    intro id hreach
    have hne : id ≠ ⟨3, 0⟩ := fun he => hout (he ▸ hreach)
    exact (g.node?_modifyNode ⟨3, 0⟩ _ id).trans (if_neg hne)
  have hend := hsame h (g.shape_setProperty _ _ _) rfl hnodes
  exact ⟨hbeyond _ hout, by decide, hend.2.1, by decide +kernel⟩

end ScriptGraph
