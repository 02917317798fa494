import Mathlib.Data.List.Perm.Basic
import ScriptGraph.Proofs.Frame
import ScriptGraph.Proofs.Freshness
import ScriptGraph.Proofs.Update

/-! The order in which graphs were attached. Graphs have nothing in common but the scene, so where
no graph acts on it, each is ticked as if it were the only one, and an update comes to the same
whatever the order. -/
namespace ScriptGraph

variable {σ : Type} [Host σ]

/-- No node of the graph is of a type that acts on the scene. -/
def Graph.SparesScene (g : Graph) : Prop :=
  ∀ n ∈ g.nodes.nodes, n.typeName ≠ "SetPosition" ∧ n.typeName ≠ "ApplyForce"

lemma Graph.SparesScene.of_shape {g h : Graph} (hg : g.SparesScene) (hs : h.shape = g.shape) :
    h.SparesScene := by
  intro n hn
  obtain ⟨m, hm, hshape⟩ := exists_mem_nodes_of_shape hs hn
  have htype : m.typeName = n.typeName := congrArg NodeShape.typeName hshape
  exact htype ▸ hg m hm

namespace TickRules

variable {r : TickRules} {g : Graph} {scene : σ}

/-- No other built-in node acts on the scene, whether it succeeds or fails. -/
lemma scene_invoke_of_spares (hr : r.registry = .builtins) {s : TickState σ}
    (hg : s.graph.SparesScene) (node : NodeId) : (r.invoke node s).2.scene = s.scene := by
  refine scene_invoke hr fun b hb => ?_
  obtain ⟨n, hn, hlookup⟩ := Option.bind_eq_some_iff.mp hb
  obtain ⟨b', hname, hsame⟩ := Registry.lookup_builtins.mp hlookup
  obtain rfl := Builtin.nodeType_inj hsame
  obtain ⟨hposition, hforce⟩ := hg n (Arena.get?_mem_nodes hn)
  rw [← hname] at hposition hforce
  revert hposition hforce
  cases b' <;> decide

theorem scene_run (hr : r.registry = .builtins) (hg : g.SparesScene) (collisionsOnly : Bool)
    (scene : σ) : (r.run collisionsOnly g scene).scene = scene := by
  have hkeeps : r.Keeps fun s => s.graph.shape = g.shape ∧ s.scene = scene := by
    have hinvoke (s : TickState σ) (node : NodeId) (h : s.graph.shape = g.shape ∧ s.scene = scene) :
        (r.invoke node s).2.graph.shape = g.shape ∧ (r.invoke node s).2.scene = scene := by
      refine ⟨(r.shape_invoke node s).trans h.1, ?_⟩
      exact (scene_invoke_of_spares hr (hg.of_shape h.1) node).trans h.2
    refine ⟨?_, ?_, ?_, ?_, hinvoke, ?_⟩
    · exact fun _ h => h
    · exact fun _ _ h => h
    · exact fun _ _ h => h
    · exact fun _ _ _ h => h
    · exact fun s node values h _ =>
        ⟨(Graph.shape_publish _ _ _).trans (hinvoke s node h).1, (hinvoke s node h).2⟩
  exact (hkeeps.run ⟨rfl, rfl⟩).2

end TickRules

namespace Session

variable {s : Session} {collisions : List Collision} {scene : σ}

lemma scene_ticked (hr : s.registry = .builtins) {g : Graph} (hg : g.SparesScene)
    (deltaTime : Single) : (s.ticked deltaTime collisions scene g).scene = scene := by
  have hpasses : (s.ticked deltaTime collisions scene g).graph.SparesScene ∧
      (s.ticked deltaTime collisions scene g).scene = scene := by
    refine foldl_runPass_induction (M := fun g here => g.SparesScene ∧ here = scene) ?_ _ ⟨hg, rfl⟩
    rintro r collisionsOnly g here hregistry ⟨hg, rfl⟩
    exact ⟨hg.of_shape (r.shape_run collisionsOnly g here),
      TickRules.scene_run (hregistry.trans hr) hg collisionsOnly here⟩
  exact hpasses.2

lemma graphs_update_of_spares (hmode : s.mode = .playing) (hr : s.registry = .builtins)
    (hs : s.store.Holds Graph.SparesScene) (deltaTime : Single) (scene : σ)
    (collisions : List Collision) :
    let ended := s.update deltaTime scene collisions
    ended.scene = scene ∧ ∀ entity, ended.session.store.get? entity =
      (s.store.get? entity).map fun g =>
        (s.ticked (s.settings.scaled deltaTime) collisions scene g).graph := by
  have hstep (g : Graph) (here : σ) (hg : g.SparesScene) (hhere : here = scene) :
      (s.ticked (s.settings.scaled deltaTime) collisions here g).scene = scene ∧
        (s.ticked (s.settings.scaled deltaTime) collisions here g).graph =
          (s.ticked (s.settings.scaled deltaTime) collisions scene g).graph := by
    rw [hhere]
    exact ⟨scene_ticked hr hg _, rfl⟩
  obtain ⟨hscene, hkeys, hgraphs⟩ := graphs_update (Q := fun here => here = scene)
    (R := fun g h => h = (s.ticked (s.settings.scaled deltaTime) collisions scene g).graph)
    hs hmode hstep rfl
  refine ⟨hscene, fun entity => ?_⟩
  cases hg : s.store.get? entity with
  | none =>
    have habsent := Table.find?_eq_none_iff.mp hg
    rw [← hkeys] at habsent
    exact Table.find?_eq_none_iff.mpr habsent
  | some g =>
    obtain ⟨h, hh, rfl⟩ := hgraphs entity g hg
    exact hh

lemma stats_update (hmode : s.mode = .playing) (hr : s.registry = .builtins)
    (hs : s.store.Holds Graph.SparesScene) (deltaTime : Single) (scene : σ)
    (collisions : List Collision) :
    (s.update deltaTime scene collisions).stats =
      s.store.graphs.values.foldl (fun stats g =>
        stats.add (s.ticked (s.settings.scaled deltaTime) collisions scene g).stats) .zero := by
  have hfold (graphs : List Graph) (hgraphs : ∀ g ∈ graphs, g.SparesScene) (acc : Progress σ)
      (hacc : acc.scene = scene) :
      (graphs.foldl (s.tickGraph (s.settings.scaled deltaTime) collisions) acc).stats =
        graphs.foldl (fun stats g =>
          stats.add (s.ticked (s.settings.scaled deltaTime) collisions scene g).stats)
          acc.stats := by
    induction graphs generalizing acc with
    | nil => rfl
    | cons g graphs ih =>
      obtain ⟨hg, hrest⟩ := List.forall_mem_cons.mp hgraphs
      rw [List.foldl_cons, List.foldl_cons, tickGraph_eq, hacc]
      exact ih hrest _ (scene_ticked hr hg _)
  simp only [update, PlayMode.isPlaying, hmode, decide_true, if_true]
  refine hfold _ (fun g hg => ?_) _ rfl
  obtain ⟨entity, hmem⟩ := Table.mem_values.mp hg
  exact (hs entity g hmem).2

/-- A playing session whose graphs hold no node that acts on the scene leaves the scene as it is.
With its graphs attached in any other order it comes to the same counters and, entity by entity, to
the same graphs. -/
theorem update_ignores_attachment_order (hmode : s.mode = .playing)
    (hr : s.registry = .builtins) (hs : s.store.Holds Graph.SparesScene) (deltaTime : Single)
    (scene : σ) (collisions : List Collision) :
    let ended := s.update deltaTime scene collisions
    ended.scene = scene ∧
      ∀ store : Store, store.graphs.entries.Perm s.store.graphs.entries →
        let other := Session.update { s with store := store } deltaTime scene collisions
        other.scene = scene ∧ other.stats = ended.stats ∧
          ∀ entity, other.session.store.get? entity = ended.session.store.get? entity := by
  obtain ⟨hscene, hgraphs⟩ := graphs_update_of_spares hmode hr hs deltaTime scene collisions
  refine ⟨hscene, fun store hperm => ?_⟩
  let t : Session := { s with store := store }
  have ht : t.store.Holds Graph.SparesScene := fun entity g hg => hs entity g (hperm.mem_iff.mp hg)
  obtain ⟨hscene', hgraphs'⟩ :=
    graphs_update_of_spares (s := t) hmode hr ht deltaTime scene collisions
  refine ⟨hscene', ?_, fun entity => ?_⟩
  · have hstats := stats_update (s := t) hmode hr ht deltaTime scene collisions
    rw [stats_update hmode hr hs deltaTime scene collisions]
    refine hstats.trans ((hperm.map Prod.snd).foldl_eq' (fun g _ h _ stats => ?_) TickStats.zero)
    rw [TickStats.add_assoc, TickStats.add_assoc, TickStats.add_comm (ticked ..).stats]
  · have hfound : t.store.get? entity = s.store.get? entity := Table.find?_of_perm hperm entity
    rw [hgraphs' entity, hgraphs entity, hfound]
    rfl

/-- Two entities with a counter each. -/
def tandem : Session :=
  { idle .builtins .initial with
    mode := .playing
    store := ⟨.ofList [(default, .counting),
      (⟨⟨1⟩⟩, { Graph.counting with entity := ⟨⟨1⟩⟩, vars := .ofList [("count", .int 7)] })]⟩ }

/-- The store of the two, attached the other way round. -/
def tandemReversed : Store := ⟨.ofList tandem.store.graphs.entries.reverse⟩

theorem update_tandem_ignores_attachment_order :
    tandem.mode = .playing ∧ tandem.registry = .builtins ∧
    tandem.store.Holds Graph.SparesScene ∧
    tandemReversed.graphs.entries.Perm tandem.store.graphs.entries ∧
    (let ended := tandem.update .one Scene.empty []
    let other := Session.update { tandem with store := tandemReversed } .one Scene.empty []
    other.session.store.graphs.keys ≠ ended.session.store.graphs.keys ∧
      other.stats = ended.stats ∧
      (∀ entity, other.session.store.get? entity = ended.session.store.get? entity) ∧
      (other.session.store.get? ⟨⟨1⟩⟩).map Graph.vars = some (.ofList [("count", .int 9)])) := by
  have hs : tandem.store.Holds Graph.SparesScene := by
    have hall : ∀ e ∈ tandem.store.graphs.entries, e.2.entity = e.1 ∧
        ∀ n ∈ e.2.nodes.nodes, n.typeName ≠ "SetPosition" ∧ n.typeName ≠ "ApplyForce" := by
      decide +kernel
    exact fun entity g hg => hall (entity, g) hg
  have hperm : tandemReversed.graphs.entries.Perm tandem.store.graphs.entries := by decide +kernel
  obtain ⟨-, hother⟩ := update_ignores_attachment_order rfl rfl hs .one Scene.empty []
  obtain ⟨-, hstats, hgraphs⟩ := hother tandemReversed hperm
  refine ⟨rfl, rfl, hs, hperm, ?_, hstats, hgraphs, ?_⟩
  · decide +kernel
  · decide +kernel

end Session

end ScriptGraph
