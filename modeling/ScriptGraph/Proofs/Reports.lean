import ScriptGraph.Proofs.Frame
import ScriptGraph.Proofs.SetUp
import ScriptGraph.Report

/-! What a report says about the scenario that was run. The set-up puts in place as many nodes,
connections and variables as the scenario lists, and a tick takes none of them away and adds nothing
but variables. -/
namespace ScriptGraph

namespace Scenario

variable {names : Table String EntityId} {entity : EntityId} {s t : Session} {ids : IdSource}
  {g : Graph} {plan : GraphPlan}

lemma setValue_holding {node : NodeId} {p : String × Value}
    (ok : setValue entity node (s.holding entity g) p = .ok t) :
    ∃ nodes, t = s.holding entity { g with nodes := nodes } ∧ nodes.count = g.nodes.count := by
  rw [setValue, edited_eq_ok, Session.setProperty, Session.amend_holding, map_eq_ok_iff] at ok
  obtain ⟨h, hset, rfl⟩ := ok
  rw [Graph.setProperty_eq_ok hset]
  exact ⟨_, rfl, g.nodes.count_modify _ _⟩

lemma setValues_holding {α : Type} {f : Session → α → Except ScenarioError Session}
    (hf : ∀ s a t, f s a = .ok t → ∃ node p, setValue entity node s p = .ok t) {writes : List α}
    (ok : writes.foldlM f (s.holding entity g) = .ok t) :
    ∃ nodes, t = s.holding entity { g with nodes := nodes } ∧ nodes.count = g.nodes.count := by
  refine foldlM_induction (P := fun t => ∃ nodes,
    t = s.holding entity { g with nodes := nodes } ∧ nodes.count = g.nodes.count)
    ⟨g.nodes, rfl, rfl⟩ ?_ ok
  rintro a - _ u ⟨nodes, rfl, hcount⟩ hset
  obtain ⟨node, p, hset⟩ := hf _ _ _ hset
  obtain ⟨nodes', rfl, hcount'⟩ := setValue_holding hset
  exact ⟨nodes', rfl, hcount'.trans hcount⟩

lemma addNode_holding {keys : Table String NodeId} {n : NodePlan}
    {r : Table String NodeId × Session}
    (ok : addNode names entity (keys, s.holding entity g) n = .ok r) :
    ∃ nodes, r.2 = s.holding entity { g with nodes := nodes } ∧
      nodes.count = g.nodes.count + 1 := by
  obtain ⟨_, hadd, ok⟩ := bind_eq_ok.mp ok
  obtain ⟨valued, hvalues, ok⟩ := bind_eq_ok.mp ok
  obtain ⟨done, hobjects, ok⟩ := bind_eq_ok.mp ok
  rw [edited_eq_ok, Session.addNode, Session.edit_holding, map_eq_ok_iff] at hadd
  obtain ⟨⟨id, h⟩, hnode, rfl⟩ := hadd
  obtain ⟨t, nodes, -, hinsert, rfl⟩ := Graph.addNode_eq_ok hnode
  have hone : nodes.count = g.nodes.count + 1 :=
    (congrArg (fun e => e.2.count) hinsert).symm.trans (g.nodes.count_insert _)
  obtain ⟨nodes', rfl, hcount⟩ := setValues_holding (fun s p t h => ⟨id, p, h⟩) hvalues
  have hset (s : Session) (p : String × String) (t : Session)
      (h : setObject names entity id s p = .ok t) : ∃ node p, setValue entity node s p = .ok t := by
    obtain ⟨target, -, h⟩ := bind_eq_ok.mp h
    exact ⟨id, (p.1, .object (some target)), h⟩
  obtain ⟨nodes'', rfl, hcount'⟩ := setValues_holding hset hobjects
  rw [← Except.ok.inj ok]
  exact ⟨nodes'', rfl, hcount'.trans (hcount.trans hone)⟩

lemma addNodes_holding {nodes : List NodePlan} {id : GraphId} {r : Table String NodeId × Session}
    (ok : nodes.foldlM (addNode names entity) (.empty, s.holding entity (.empty id entity)) =
      .ok r) :
    ∃ arena, r.2 = s.holding entity ⟨id, entity, arena, .empty, .empty⟩ ∧
      arena.count = nodes.length := by
  refine foldlM_prefix_induction
    (P := fun (done : List NodePlan) (r : Table String NodeId × Session) => ∃ arena,
      r.2 = s.holding entity ⟨id, entity, arena, .empty, .empty⟩ ∧ arena.count = done.length)
    ⟨.empty, rfl, rfl⟩ ?_ ok
  rintro done n - - ⟨keys, _⟩ r ⟨arena, rfl, hcount⟩ hnode
  obtain ⟨arena', hr, hcount'⟩ := addNode_holding hnode
  exact ⟨arena', hr, by simpa [hcount] using hcount'⟩

lemma addLinks_holding (hr : s.registry = .builtins) {owner : String}
    {keys : Table String NodeId} {links : List LinkPlan} (hids : ids.Fresh links.length)
    {id : GraphId} {nodes : Arena} {r : Session × IdSource}
    (ok : links.foldlM (addLink owner entity keys)
      (s.holding entity ⟨id, entity, nodes, .empty, .empty⟩, ids) = .ok r) :
    ∃ connections, r = (s.holding entity ⟨id, entity, nodes, connections, .empty⟩,
        ids.skip links.length) ∧ connections.size = links.length := by
  -- Connections are counted by their keys: the ids that were drawn for them, none of them twice.
  have hkeys : ∃ connections, r = (s.holding entity ⟨id, entity, nodes, connections, .empty⟩,
      ids.skip links.length) ∧ connections.keys =
        (List.range links.length).map fun i => ⟨(ids.skip i).next⟩ := by
    refine foldlM_prefix_induction
      (P := fun (done : List LinkPlan) (r : Session × IdSource) => ∃ connections,
        r = (s.holding entity ⟨id, entity, nodes, connections, .empty⟩, ids.skip done.length) ∧
        connections.keys = (List.range done.length).map fun i => ⟨(ids.skip i).next⟩)
      ⟨.empty, rfl, rfl⟩ ?_ ok
    rintro done l rest hl - r ⟨connections, rfl, hkeys⟩ hlink
    obtain ⟨source, -, hlink⟩ := bind_eq_ok.mp hlink
    obtain ⟨target, -, hlink⟩ := bind_eq_ok.mp hlink
    obtain ⟨linked, hconnect, hlink⟩ := bind_eq_ok.mp hlink
    obtain ⟨-, rfl⟩ := (sessionConnect_eq_ok_iff hr).mp (edited_eq_ok.mp hconnect)
    obtain rfl := Except.ok.inj hlink
    have hnew : (⟨(ids.skip done.length).next⟩ : ConnectionId) ∉ connections.keys := by
      rw [hkeys]
      intro hmem
      obtain ⟨i, hi, he⟩ := List.mem_map.mp hmem
      rw [List.mem_range] at hi
      have hlen : done.length < links.length := by simp [hl]
      have := hids i (Nat.lt_trans hi hlen) _ hlen (ConnectionId.mk.inj he)
      omega
    refine ⟨_, by rw [List.length_append]; rfl, ?_⟩
    rw [Table.keys_insert, if_neg hnew, hkeys, List.length_append, List.length_singleton,
      List.range_succ, List.map_append]
    rfl
  obtain ⟨connections, hr, hkeys⟩ := hkeys
  refine ⟨connections, hr, ?_⟩
  have hlen := congrArg List.length hkeys
  simpa [Table.keys, Table.size] using hlen

/-- The graph is of the entity of the plan and has as much in it as the plan; its variables begin
with the planned ones. -/
structure GraphPlan.Counted (names : Table String EntityId) (plan : GraphPlan) (g : Graph) :
    Prop where
  entity : names.find? plan.entity = some g.entity
  nodes : g.nodes.count = plan.nodes.length
  connections : g.connections.size = plan.links.length
  vars : plan.vars.keys <+: g.vars.keys

lemma counted_addGraph (hr : s.registry = .builtins) (hids : ids.Fresh plan.mints)
    {r : Session × IdSource} (ok : addGraph names (s, ids) plan = .ok r) :
    ∃ g, g.entity ∉ s.store.graphs.keys ∧ r = (s.holding g.entity g, ids.skip plan.mints) ∧
      plan.Counted names g := by
  obtain ⟨entity, hentity, ok⟩ := bind_eq_ok.mp ok
  obtain ⟨created, hcreated, ok⟩ := bind_eq_ok.mp ok
  obtain ⟨⟨keys, filled⟩, hnodes, ok⟩ := bind_eq_ok.mp ok
  obtain ⟨⟨linked, ids'⟩, hlinks, ok⟩ := bind_eq_ok.mp ok
  obtain ⟨done, hvars, ok⟩ := bind_eq_ok.mp ok
  obtain ⟨hnew, rfl⟩ := Session.createGraph_eq_ok_iff.mp (edited_eq_ok.mp hcreated)
  obtain ⟨nodes, rfl, hcount⟩ := addNodes_holding hnodes
  obtain ⟨connections, heq, hsize⟩ := addLinks_holding hr (IdSource.Fresh.skip hids) hlinks
  obtain ⟨rfl, rfl⟩ := Prod.mk.inj heq
  obtain rfl := addVariables_eq_ok_iff.mp hvars
  refine ⟨⟨⟨ids.next⟩, entity, nodes, connections, plan.vars⟩, hnew, ?_,
    findEntity_eq_ok.mp hentity, hcount, hsize, List.prefix_rfl⟩
  rw [← Except.ok.inj ok, GraphPlan.mints, ← IdSource.skip_skip]

lemma counted_addGraphs (hr : s.registry = .builtins) (hs : s.store = .empty)
    {plans : List GraphPlan} (hids : ids.Fresh (plans.map GraphPlan.mints).sum)
    {r : Session × IdSource} (ok : plans.foldlM (addGraph names) (s, ids) = .ok r) :
    r.1.registry = .builtins ∧ r.1.store.Holds (fun _ => True) ∧
      List.Forall₂ (GraphPlan.Counted names) plans r.1.store.graphs.values := by
  -- What has been drawn so far decides which ids come next, so the source is part of the invariant.
  have hdone : (r.1.registry = .builtins ∧ r.1.store.Holds fun _ => True) ∧
      List.Forall₂ (GraphPlan.Counted names) plans r.1.store.graphs.values ∧
      r.2 = ids.skip (plans.map GraphPlan.mints).sum := by
    refine foldlM_prefix_induction (P := fun (done : List GraphPlan) (r : Session × IdSource) =>
      (r.1.registry = .builtins ∧ r.1.store.Holds fun _ => True) ∧
        List.Forall₂ (GraphPlan.Counted names) done r.1.store.graphs.values ∧
        r.2 = ids.skip (done.map GraphPlan.mints).sum) ?_ ?_ ok
    · rw [hs]
      exact ⟨⟨hr, .empty⟩, .nil, rfl⟩
    · rintro done plan rest rfl ⟨s, _⟩ r ⟨⟨hr, hholds⟩, hcounted, rfl⟩ hadd
      rw [List.map_append, List.sum_append, List.map_cons, List.sum_cons] at hids
      have hdrawn := (IdSource.Fresh.skip hids).mono (Nat.le_add_right ..)
      obtain ⟨g, hnew, rfl, hg⟩ := counted_addGraph hr hdrawn hadd
      refine ⟨⟨hr, hholds.put trivial⟩, ?_, by simp [IdSource.skip_skip]⟩
      have hvalues : (s.holding g.entity g).store.graphs.values =
          s.store.graphs.values ++ [g] := by
        rw [Table.values, Session.holding, Table.entries_insert_of_notMem hnew, List.map_append]
        rfl
      rw [hvalues]
      exact List.rel_append hcounted (.cons hg .nil)
  exact ⟨hdone.1.1, hdone.1.2, hdone.2.1⟩

end Scenario

namespace Session

variable {s : Session}

/-- No pass over a graph changes its shape or that of the scene, and no variable goes away. -/
lemma sizes_ticked (hr : s.registry = .builtins) (deltaTime : Single)
    (collisions : List Collision) (scene : Scene) (g : Graph) :
    let ended := s.ticked deltaTime collisions scene g
    ended.scene.shape = scene.shape ∧ ended.graph.shape = g.shape ∧
      g.vars.keys <+: ended.graph.vars.keys := by
  refine foldl_runPass_induction (M := fun h (there : Scene) => there.shape = scene.shape ∧
    h.shape = g.shape ∧ g.vars.keys <+: h.vars.keys) ?_ _ ⟨rfl, rfl, List.prefix_rfl⟩
  rintro r collisionsOnly h there hregistry ⟨hthere, hshape, hvars⟩
  have hsets : r.registry.SetsOnly := by
    rw [hregistry, hr]
    exact Registry.setsOnly_builtins
  exact ⟨(r.shape_scene_run collisionsOnly h there).trans hthere,
    (r.shape_run collisionsOnly h there).trans hshape,
    hvars.trans (TickRules.keys_vars_run hsets collisionsOnly h there)⟩

lemma sizes_update (hr : s.registry = .builtins) (hmode : s.mode = .playing)
    (hs : s.store.Holds fun _ => True) (deltaTime : Single) (scene : Scene)
    (collisions : List Collision) :
    let ended := s.update deltaTime scene collisions
    ended.scene.shape = scene.shape ∧
      List.Forall₂ (fun g h => h.shape = g.shape ∧ g.vars.keys <+: h.vars.keys)
        s.store.graphs.values ended.session.store.graphs.values := by
  have hstep (g : Graph) (here : Scene) (_ : True) (hhere : here.shape = scene.shape) :
      let ended := s.ticked (s.settings.scaled deltaTime) collisions here g
      ended.scene.shape = scene.shape ∧ ended.graph.shape = g.shape ∧
        g.vars.keys <+: ended.graph.vars.keys := by
    obtain ⟨hscene, hgraph⟩ := sizes_ticked hr (s.settings.scaled deltaTime) collisions here g
    exact ⟨hscene.trans hhere, hgraph⟩
  obtain ⟨hscene, hkeys, hgraphs⟩ := graphs_update
    (Q := fun here : Scene => here.shape = scene.shape)
    (R := fun g h => h.shape = g.shape ∧ g.vars.keys <+: h.vars.keys) hs hmode hstep rfl
  exact ⟨hscene, Table.forall₂_values hkeys hgraphs⟩

end Session

lemma forall₂_trans {α β γ : Type} {R : α → β → Prop} {S : β → γ → Prop} {T : α → γ → Prop}
    (h : ∀ a b c, R a b → S b c → T a c) {l : List α} {m : List β} {n : List γ}
    (hlm : List.Forall₂ R l m) (hmn : List.Forall₂ S m n) : List.Forall₂ T l n := by
  induction hlm generalizing n with
  | nil =>
    cases hmn
    exact .nil
  | cons hab _ ih =>
    cases hmn with
    | cons hbc hrest => exact .cons (h _ _ _ hab hbc) (ih hrest)

lemma Scenario.GraphPlan.Counted.of_shape {names : Table String EntityId} {plan : GraphPlan}
    {g h : Graph} (hg : plan.Counted names g) (hshape : h.shape = g.shape)
    (hvars : g.vars.keys <+: h.vars.keys) : plan.Counted names h where
  entity := hg.entity.trans (congrArg (fun s : GraphShape => some s.entity) hshape).symm
  nodes := (congrArg GraphShape.count hshape).trans hg.nodes
  connections := (congrArg Table.size (Graph.connections_of_shape hshape)).trans hg.connections
  vars := hg.vars.trans hvars

namespace Simulation

/-- The simulation plays, and it has in it what the scenario lists. -/
structure Shows (sc : Scenario) (sim : Simulation) : Prop where
  registry : sim.session.registry = .builtins
  mode : sim.session.mode = .playing
  keyed : sim.session.store.Holds fun _ => True
  names : ∀ a b id, sim.names.find? a = some id → sim.names.find? b = some id → a = b
  scene : sim.scene.shape.values = sc.entities.map fun d => d.entity.shape
  graphs : List.Forall₂ (Scenario.GraphPlan.Counted sim.names) sc.graphs
    sim.session.store.graphs.values

variable {sc : Scenario} {sim : Simulation}

lemma Shows.step (h : sim.Shows sc) : sim.step.simulation.Shows sc := by
  have hupholds : sim.session.registry.Upholds fun _ => True := ⟨by simp, by simp, by simp, by simp⟩
  obtain ⟨hscene, hgraphs⟩ := Session.sizes_update h.registry h.mode h.keyed sim.deltaTime sim.scene
    sim.pending
  refine ⟨?_, ?_, ?_, h.names, ?_, ?_⟩
  · exact (Session.registry_update ..).trans h.registry
  · exact (Session.mode_update ..).trans h.mode
  · exact Session.holds_update hupholds h.keyed _ _ _
  · exact (congrArg Table.values hscene).trans h.scene
  · exact forall₂_trans (fun _ _ _ hg hh => hg.of_shape hh.1 hh.2) h.graphs hgraphs

lemma Shows.nameOf? (h : sim.Shows sc) {name : String} {id : EntityId}
    (hname : sim.names.find? name = some id) : sim.nameOf? id = some name := by
  have hmem := Table.find?_eq_some_iff.mp hname
  unfold Simulation.nameOf?
  cases hfind : sim.names.entries.find? fun e => e.2 = id with
  | none => simpa using List.find?_eq_none.mp hfind _ hmem
  | some e =>
    have hid : e.2 = id := by simpa using List.find?_some hfind
    have he : sim.names.find? e.1 = some id := by
      rw [← hid]
      exact Table.find?_eq_some_iff.mpr (List.mem_of_find?_eq_some hfind)
    exact congrArg some (h.names _ _ _ he hname)

lemma tick_continue (r : Run) (n : Nat) :
    (r.continue n).simulation.tick = r.simulation.tick + n := by
  induction n generalizing r with
  | zero => rfl
  | succ n ih => exact (ih _).trans (Nat.add_right_comm ..)

end Simulation

lemma Scenario.shows_build {sc : Scenario} {ids : IdSource} {sim : Simulation} {log : Log}
    (hids : ids.Fresh sc.mints) (ok : sc.build ids = .ok (sim, log)) : sim.Shows sc := by
  have hmode := (session_build ok).1
  obtain ⟨cast, authored, collisions, hcast, hgraphs, -, rfl, -⟩ := build_eq_ok_iff.mp ok
  obtain ⟨hnames, rfl⟩ := cast_eq_ok_iff.mp hcast
  obtain ⟨hregistry, hempty⟩ := opened sc.settings
  obtain ⟨hregistry, hkeyed, hcounted⟩ :=
    counted_addGraphs hregistry hempty (IdSource.Fresh.skip hids) hgraphs
  obtain ⟨hregistry', hstore⟩ := after_play authored.1
  have hentities : ids.Fresh sc.entities.length := hids.mono (Nat.le_add_right ..)
  refine ⟨hregistry'.trans hregistry, hmode, ?_, ?_, ?_, ?_⟩
  · exact hstore.symm ▸ hkeyed
  · exact fun _ _ _ => castNames_injective hnames hentities
  · rw [Scene.shape, Table.values, Table.entries_map, entries_castScene hentities, List.map_map,
      List.map_map]
    exact map_zipIdx (fun d => d.entity.shape) sc.entities
  · exact hstore.symm ▸ hcounted

/-- The report on a graph says what the plan does; its variables begin with the planned ones. -/
structure GraphReport.Describes (r : GraphReport) (plan : Scenario.GraphPlan) : Prop where
  entity : r.entity = plan.entity
  nodes : r.nodes = plan.nodes.length
  connections : r.connections = plan.links.length
  vars : plan.vars.keys <+: r.vars.keys

lemma Simulation.Shows.describes {sc : Scenario} {sim : Simulation} (h : sim.Shows sc)
    {plan : Scenario.GraphPlan} {g : Graph} (hg : plan.Counted sim.names g) :
    (Report.ofGraph sim g).Describes plan :=
  ⟨by rw [Report.ofGraph, h.nameOf? hg.entity]; rfl, hg.nodes, hg.connections, hg.vars⟩

/-- A scenario was set up and has run for any number of ticks: the report describes it. -/
theorem Scenario.report_describes {sc : Scenario} {ids : IdSource} {sim : Simulation} {log : Log}
    (hids : ids.Fresh sc.mints) (ok : sc.build ids = .ok (sim, log)) (n : Nat) :
    let ended := sim.run n
    let report := Report.capture ended.simulation ended.stats
    report.ticks = n ∧ report.mode = .playing ∧
      (report.entities.map fun e => (e.name, e.force.isSome)) =
        (sc.entities.map fun d => (d.name, d.mass.isSome)) ∧
      List.Forall₂ (fun plan r => r.Describes plan) sc.graphs report.graphs := by
  have hshows : (sim.run n).simulation.Shows sc :=
    Simulation.continue_induction (fun _ h => h.step) (shows_build hids ok) n
  refine ⟨?_, hshows.mode, ?_, ?_⟩
  · have htick : sim.tick = 0 := by
      obtain ⟨_, _, _, _, _, _, rfl, _⟩ := build_eq_ok_iff.mp ok
      rfl
    calc (sim.run n).simulation.tick
      _ = sim.tick + n := Simulation.tick_continue ⟨sim, .zero, #[]⟩ n
      _ = n := by rw [htick, Nat.zero_add]
  · have hscene := congrArg (List.map fun e : EntityShape => (e.name, e.mass.isSome)) hshows.scene
    simpa [Report.capture, Report.ofEntity, Scene.shape, Table.values, SceneEntity.shape,
      EntityPlan.entity, Function.comp_def] using hscene
  · rw [Report.capture, List.forall₂_map_right_iff]
    exact hshows.graphs.imp fun _ _ hg => hshows.describes hg

/-- The graphs of a simulation as a report lists them, each with the names of its variables. -/
def Simulation.listing (s : Simulation) : List (String × Nat × Nat × List String) :=
  s.session.store.graphs.values.map fun g =>
    let r := Report.ofGraph s g
    (r.entity, r.nodes, r.connections, r.vars.keys)

/-- The sample notes where its player was hit, in a variable that the document does not have. -/
theorem Scenario.report_describes_sample : IdSource.counting.Fresh sample.mints ∧
    ∃ sim log, sample.build .counting = .ok (sim, log) ∧
      (let ended := sim.run 31
      let report := Report.capture ended.simulation ended.stats
      report.ticks = 31 ∧ report.mode = .playing ∧
        (report.entities.map fun e => (e.name, e.force.isSome)) =
          [("Player", true), ("Wall", false)] ∧
        List.Forall₂ (fun plan r => r.Describes plan) sample.graphs report.graphs) ∧
      (sim.run 31).simulation.listing = [("Player", 11, 10, ["hits", "last_hit_position"])] := by
  have hids : IdSource.counting.Fresh sample.mints := by decide +kernel
  have hlisting : (sample.build .counting).toOption.map (fun e => (e.1.run 31).simulation.listing) =
      some [("Player", 11, 10, ["hits", "last_hit_position"])] := by decide +kernel
  obtain ⟨sim, log, ok, hlisting⟩ := exists_build_of_map
    (f := fun sim => (sim.run 31).simulation.listing) hlisting
  exact ⟨hids, sim, log, ok, report_describes hids ok 31, hlisting⟩

end ScriptGraph
