import ScriptGraph.Proofs.Builtins
import ScriptGraph.Proofs.Walk

/-! What a tick may change: values of properties, variables, positions and forces. The graph keeps
its shape and so does the scene, whatever the nodes do, and variables are never taken away by nodes
that only set them. -/
namespace ScriptGraph

variable {σ : Type} [Host σ]

/-- An entity without its position and the force on its body. -/
structure EntityShape where
  name : String
  /-- The mass of the body, if the entity has one. -/
  mass : Option Single
deriving DecidableEq

def SceneEntity.shape (e : SceneEntity) : EntityShape := ⟨e.name, e.body.map Rigidbody.mass⟩

namespace Scene

/-- The entities in their order, without positions and forces. -/
def shape (s : Scene) : Table EntityId EntityShape := s.entities.map fun _ e => e.shape

lemma shape_modify (s : Scene) (id : EntityId) {f : SceneEntity → SceneEntity}
    (hf : ∀ e, (f e).shape = e.shape) : (s.modify id f).shape = s.shape := by
  apply Table.ext_entries
  simp only [shape, modify, Table.modify, Table.entries_map, List.map_map]
  apply List.map_congr_left
  intro e _
  by_cases h : e.1 = id
  · simp [h, hf]
  · simp [h]

lemma shape_setPosition (s : Scene) (id : EntityId) (position : Vector) :
    (Host.setPosition s id position).2.shape = s.shape := by
  change (s.answer (s.setPosition id position)).2.shape = s.shape
  unfold setPosition
  cases s.entity? id with
  | none => rfl
  | some _ => exact s.shape_modify id fun _ => rfl

lemma shape_push (s : Scene) (id : EntityId) (force : Vector) :
    (Host.push s id force).2.shape = s.shape := by
  change (s.answer (s.push id force)).2.shape = s.shape
  unfold push
  cases s.entity? id with
  | none => rfl
  | some e =>
    cases hb : e.body with
    | none => simp only [hb, answer]
    | some _ =>
      simp only [hb, answer]
      refine s.shape_modify id fun e => ?_
      simp [SceneEntity.shape, Function.comp_def]

end Scene

namespace Script

variable {α : Type}

theorem shape_scene_run (s : Script α) (w : Workspace Scene) :
    (s.run w).2.scene.shape = w.scene.shape := by
  induction s generalizing w with
  | done | fail => rfl
  | table _ ih | property _ _ ih | vars _ ih | position _ _ ih => exact ih _ w
  | setProperty _ _ _ ih => exact ih _ _
  | setVariable _ _ _ ih | removeVariable _ _ ih | print _ _ ih => exact ih _
  | setPosition e p _ ih => exact (ih _ _).trans (w.scene.shape_setPosition e p)
  | push e p _ ih => exact (ih _ _).trans (w.scene.shape_push e p)

/-- A script that may not remove variables leaves all in place and adds new ones at the end. -/
theorem Limited.keys_vars_run {allowed : List Effect} {s : Script α} (hs : s.Limited allowed)
    (hnot : .removesVariable ∉ allowed) (w : Workspace σ) :
    w.vars.keys <+: (s.run w).2.vars.keys := by
  induction hs generalizing w with
  | done | fail => exact List.prefix_rfl
  | table _ ih | property _ ih | vars _ ih | position _ ih => exact ih _ w
  | @setProperty name value _ _ _ ih =>
    exact ih _ { w with properties := setExisting w.properties name value }
  | @setPosition e p _ _ _ ih =>
    exact ih _ { w with scene := (Host.setPosition w.scene e p).2 }
  | @push e p _ _ _ ih => exact ih _ { w with scene := (Host.push w.scene e p).2 }
  | @print value _ _ ih => exact ih { w with printed := w.printed ++ [value] }
  | @setVariable name value _ _ _ ih =>
    have hset : w.vars.keys <+: (w.vars.insert name value).keys := by
      rw [Table.keys_insert]
      split
      · exact List.prefix_rfl
      · exact List.prefix_append _ _
    exact hset.trans (ih { w with vars := w.vars.insert name value })
  | removeVariable ok => exact absurd ok hnot

/-- A script that may not act on the scene leaves it alone. -/
theorem Limited.scene_run {allowed : List Effect} {s : Script α} (hs : s.Limited allowed)
    (hnot : .actsOnScene ∉ allowed) (w : Workspace σ) : (s.run w).2.scene = w.scene := by
  induction hs generalizing w with
  | done | fail => rfl
  | table _ ih | property _ ih | vars _ ih | position _ ih => exact ih _ w
  | setProperty _ _ ih => exact ih _ _
  | setVariable _ _ ih | removeVariable _ _ ih | print _ ih => exact ih _
  | setPosition ok | push ok => exact absurd ok hnot

/-- A script that may neither set nor remove variables leaves them alone. -/
theorem Limited.vars_run {allowed : List Effect} {s : Script α} (hs : s.Limited allowed)
    (hset : .setsVariable ∉ allowed) (hremove : .removesVariable ∉ allowed) (w : Workspace σ) :
    (s.run w).2.vars = w.vars := by
  induction hs generalizing w with
  | done | fail => rfl
  | table _ ih | property _ ih | vars _ ih | position _ ih => exact ih _ w
  | setProperty _ _ ih | setPosition _ _ ih | push _ _ ih => exact ih _ _
  | print _ ih => exact ih _
  | setVariable ok => exact absurd ok hset
  | removeVariable ok => exact absurd ok hremove

end Script

/-- The custom nodes of the registry change the table of variables by setting variables only. -/
def Registry.SetsOnly (registry : Registry) : Prop :=
  ∀ name t script, registry.lookup name = some t → t.behavior = .custom script →
    ∀ i, (script i).Limited [.setsProperty, .setsVariable, .actsOnScene]

lemma Registry.setsOnly_builtins : Registry.builtins.SetsOnly := by
  intro name t script ht hs
  obtain ⟨b, _, rfl⟩ := Registry.lookup_builtins.mp ht
  rw [Builtin.behavior_nodeType] at hs
  cases hs

/-- Whatever node is run, variables stay: no built-in node removes any. -/
lemma Registry.SetsOnly.keys_vars_run {registry : Registry} (h : registry.SetsOnly) {name : String}
    {t : NodeType} (ht : registry.lookup name = some t) (i : Invocation) (w : Workspace σ) :
    w.vars.keys <+: ((t.behavior.script i).run w).2.vars.keys := by
  cases hb : t.behavior with
  | builtin b =>
    have hnot : .removesVariable ∉ b.effects := by cases b <;> decide
    exact (b.limited_script i).keys_vars_run hnot w
  | custom script => exact (h name t script ht hb i).keys_vars_run (by decide) w

lemma Graph.vacancies_of_shape {g h : Graph} (hs : g.shape = h.shape) :
    g.nodes.vacancies = h.nodes.vacancies := by
  have hshape (a : Arena) : a.vacancies = (a.slots.map Slot.shape).zipIdx.filterMap fun e =>
      if e.1.2.isNone then some ⟨UInt32.ofNat e.2, e.1.1⟩ else none := by
    rw [Arena.vacancies, List.zipIdx_map, List.filterMap_map]
    congr 1
    funext e
    simp [Slot.shape]
  rw [hshape, hshape, show g.nodes.slots.map Slot.shape = h.nodes.slots.map Slot.shape from
    congrArg GraphShape.slots hs]

namespace TickRules

lemma world_invoke {r : TickRules} {P : σ → Variables → Prop} {s : TickState σ} {node : NodeId}
    (hscript : ∀ t n, s.graph.node? node = some n → r.registry.lookup n.typeName = some t →
      P (r.perform t n s).2.scene (r.perform t n s).2.vars) (hs : P s.scene s.graph.vars) :
    P (r.invoke node s).2.scene (r.invoke node s).2.graph.vars := by
  refine invoke_cases (P := fun ran => P ran.2.scene ran.2.graph.vars) ?_ ?_ ?_ ?_
  · intro _
    exact hs
  · intro _ _ _
    exact hs
  · intro n t outcome w hn ht hp
    have hend := hscript t n hn ht
    rwa [hp] at hend
  · intro n t e w hn ht hp
    have hend := hscript t n hn ht
    rwa [hp] at hend

lemma Keeps.of_world {r : TickRules} {P : σ → Variables → Prop}
    (hscript : ∀ t n s, r.registry.lookup n.typeName = some t → P s.scene s.graph.vars →
      P (r.perform t n s).2.scene (r.perform t n s).2.vars) :
    r.Keeps fun s => P s.scene s.graph.vars := by
  have hinvoke (s : TickState σ) (node : NodeId) (hs : P s.scene s.graph.vars) :
      P (r.invoke node s).2.scene (r.invoke node s).2.graph.vars :=
    world_invoke (fun t n _ ht => hscript t n s ht hs) hs
  refine ⟨?_, ?_, ?_, ?_, hinvoke, ?_⟩
  · exact fun _ h => h
  · exact fun _ _ h => h
  · exact fun _ _ h => h
  · exact fun _ _ _ h => h
  · intro s node values hs _
    have hvars := (r.invoke node s).2.graph.vars_publish node values
    simpa only [TickState.publish, hvars] using hinvoke s node hs

lemma scene_invoke {r : TickRules} (hr : r.registry = .builtins) {s : TickState σ} {node : NodeId}
    (hspares : ∀ b : Builtin, s.graph.typeOf? .builtins node = some b.nodeType →
      .actsOnScene ∉ b.effects) : (r.invoke node s).2.scene = s.scene := by
  refine world_invoke (P := fun scene _ => scene = s.scene) (fun t n hn ht => ?_) rfl
  rw [hr] at ht
  have htype : s.graph.typeOf? .builtins node = some t := by rw [Graph.typeOf?, hn]; exact ht
  obtain ⟨b, _, rfl⟩ := Registry.lookup_builtins.mp ht
  rw [perform, Builtin.behavior_nodeType]
  exact (b.limited_script _).scene_run (hspares b htype) _

lemma vars_invoke_of_spares {r : TickRules} (hr : r.registry = .builtins) {s : TickState σ}
    {node : NodeId} (hspares : ∀ b : Builtin, s.graph.typeOf? .builtins node = some b.nodeType →
      .setsVariable ∉ b.effects) : (r.invoke node s).2.graph.vars = s.graph.vars := by
  refine world_invoke (P := fun _ vars => vars = s.graph.vars) (fun t n hn ht => ?_) rfl
  rw [hr] at ht
  have htype : s.graph.typeOf? .builtins node = some t := by rw [Graph.typeOf?, hn]; exact ht
  obtain ⟨b, _, rfl⟩ := Registry.lookup_builtins.mp ht
  have hremove : .removesVariable ∉ b.effects := by cases b <;> decide
  rw [perform, Builtin.behavior_nodeType]
  exact (b.limited_script _).vars_run (hspares b htype) hremove _

/-- The entities of the scene stay, in their order and with their names and bodies. -/
theorem shape_scene_run (r : TickRules) (collisionsOnly : Bool) (g : Graph) (scene : Scene) :
    (r.run collisionsOnly g scene).scene.shape = scene.shape := by
  refine Keeps.run (P := fun s : TickState Scene => s.scene.shape = scene.shape) ?_ rfl
  refine Keeps.of_world (P := fun (here : Scene) _ => here.shape = scene.shape) fun t n s _ hs => ?_
  exact (Script.shape_scene_run _ _).trans hs

/-- The variables stay, in their order; new ones follow them. -/
theorem keys_vars_run {r : TickRules} (hr : r.registry.SetsOnly) (collisionsOnly : Bool) (g : Graph)
    (scene : σ) : g.vars.keys <+: (r.run collisionsOnly g scene).graph.vars.keys := by
  refine Keeps.run (P := fun s : TickState σ => g.vars.keys <+: s.graph.vars.keys) ?_
    List.prefix_rfl
  refine Keeps.of_world (P := fun (_ : σ) vars => g.vars.keys <+: vars.keys) fun t n s ht hs => ?_
  exact hs.trans (hr.keys_vars_run ht _ ⟨n.properties, s.graph.vars, s.scene, []⟩)

/-- A tick, with whatever types and context, within whatever depth and on whatever host, keeps all
of a graph but the values of properties and variables. No variable goes away, as long as the custom
nodes only set variables. Of the scene in memory it keeps all but positions and forces. -/
theorem run_changes_values_only (r : TickRules) (collisionsOnly : Bool) (g : Graph) :
    (∀ (σ : Type) [Host σ] (scene : σ),
      let ended := (r.run collisionsOnly g scene).graph
      (ended.id = g.id ∧ ended.entity = g.entity ∧
        (ended.nodes.nodes.map fun n => (n.id, n.typeName, n.position, n.properties.keys)) =
          (g.nodes.nodes.map fun n => (n.id, n.typeName, n.position, n.properties.keys)) ∧
        ended.connections = g.connections ∧
        ended.nodes.vacancies = g.nodes.vacancies ∧
        ended.shape = g.shape) ∧
      (r.registry.SetsOnly → g.vars.keys <+: ended.vars.keys)) ∧
    ∀ scene : Scene,
      let ended := (r.run collisionsOnly g scene).scene
      (ended.entities.entries.map fun e => (e.1, e.2.name, e.2.body.map Rigidbody.mass)) =
        (scene.entities.entries.map fun e => (e.1, e.2.name, e.2.body.map Rigidbody.mass)) := by
  refine ⟨fun σ _ scene => ⟨?_, fun hr => keys_vars_run hr collisionsOnly g scene⟩,
    fun scene => ?_⟩
  · have hshape := r.shape_run collisionsOnly g scene
    have hnodes := congrArg
      (List.map fun n : NodeShape => (n.id, n.typeName, n.position, n.keys))
      (Graph.map_shape_nodes hshape)
    refine ⟨congrArg GraphShape.id hshape, congrArg GraphShape.entity hshape, ?_,
      Graph.connections_of_shape hshape, Graph.vacancies_of_shape hshape, hshape⟩
    simpa [Node.shape, Function.comp_def] using hnodes
  · have hentities := congrArg
      (fun t : Table EntityId EntityShape => t.entries.map fun e => (e.1, e.2.name, e.2.mass))
      (r.shape_scene_run collisionsOnly g scene)
    simpa [Scene.shape, SceneEntity.shape, Function.comp_def] using hentities

end TickRules

/-- Every frame a force is applied to the entity and then noted in a variable. One slot is
vacant. -/
def Graph.acting : Graph where
  id := default
  entity := default
  nodes :=
    ⟨[⟨0, some ⟨⟨0, 0⟩, "OnUpdate", .zero, Builtin.onUpdate.nodeType.seed .empty⟩⟩, ⟨3, none⟩,
      ⟨0, some ⟨⟨2, 0⟩, "ApplyForce", .zero,
        .ofList [("Object", .object none), ("Force", .vector ⟨.one, .zero, .zero⟩)]⟩⟩,
      ⟨0, some ⟨⟨3, 0⟩, "SetVariable", .zero,
        .ofList [("Name", .text "pushed"), ("Value", .bool true)]⟩⟩], [1], 3⟩
  connections := .ofList
    [(⟨.ofNat 1⟩, ⟨⟨.ofNat 1⟩, ⟨0, 0⟩, "Exec", ⟨2, 0⟩, "Exec"⟩),
      (⟨.ofNat 2⟩, ⟨⟨.ofNat 2⟩, ⟨2, 0⟩, "Exec", ⟨3, 0⟩, "Exec"⟩)]
  vars := .ofList [("lives", .int 3)]

def Scene.oneBody : Scene :=
  ⟨.ofList [(default, ⟨"Crate", .zero, some (.atRest .one)⟩)]⟩

theorem run_acting_changes_values_only : Registry.builtins.SetsOnly ∧
    let ended := TickRules.run ⟨.builtins, ⟨default, .one, 0, none⟩, 8⟩ false .acting Scene.oneBody
    Graph.acting.vars.keys <+: ended.graph.vars.keys ∧
      ended.graph.vars = .ofList [("lives", .int 3), ("pushed", .bool true)] ∧
      ended.graph.shape = Graph.acting.shape ∧
      ended.scene.force? default = some ⟨.one, .zero, .zero⟩ := by
  obtain ⟨hgraph, hvars⟩ := (TickRules.run_changes_values_only
    ⟨.builtins, ⟨default, .one, 0, none⟩, 8⟩ false .acting).1 Scene Scene.oneBody
  refine ⟨Registry.setsOnly_builtins, hvars Registry.setsOnly_builtins, ?_, hgraph.2.2.2.2.2, ?_⟩
  · decide +kernel
  · decide +kernel

end ScriptGraph
