import ScriptGraph.Proofs.Authored

/-! What all graphs of a store have in common. A property that graphs without nodes have and that
edits, ticks and loads keep is one of every graph in every store that can come about; that a graph
stands under its own entity comes with it. -/
namespace ScriptGraph

/-- Graphs without nodes have the property, and what is done under the registry keeps it. -/
structure Registry.Upholds (registry : Registry) (P : Graph → Prop) : Prop where
  empty : ∀ id entity, P (.empty id entity)
  edit : ∀ {g h : Graph} (e : Edit), e.Uses registry → P g → e.apply g = .ok h → P h
  tick : ∀ {σ : Type} [Host σ] {g : Graph} (r : TickRules) (collisionsOnly : Bool) (scene : σ),
    r.registry = registry → P g → P (r.run collisionsOnly g scene).graph
  load : ∀ {p : Snapshot} {l : Loaded} {log : Log}, p.load registry = (.ok l, log) → P l.graph

lemma Registry.upholds_reachable (registry : Registry) : registry.Upholds Graph.Reachable where
  empty := .empty
  edit e _ prior ok := prior.edit e ok
  tick r collisionsOnly scene _ prior := prior.tick r collisionsOnly scene
  load ok := .load ok

lemma Edit.entity_apply {g h : Graph} {e : Edit} (ok : e.apply g = .ok h) :
    h.entity = g.entity := by
  cases e with
  | addNode registry typeName position =>
    obtain ⟨⟨id, h⟩, done, rfl⟩ := map_eq_ok_iff.mp ok
    obtain ⟨_, _, _, _, rfl⟩ := Graph.addNode_eq_ok done
    rfl
  | removeNode node =>
    obtain ⟨⟨n, h⟩, done, rfl⟩ := map_eq_ok_iff.mp ok
    obtain ⟨_, _, rfl⟩ := Graph.removeNode_eq_ok done
    rfl
  | connect =>
    obtain ⟨_, rfl⟩ := Graph.connect_eq_ok ok
    rfl
  | disconnect id =>
    obtain ⟨⟨c, h⟩, done, rfl⟩ := map_eq_ok_iff.mp ok
    obtain ⟨_, rfl⟩ := Graph.disconnect_eq_ok done
    rfl
  | setProperty node name value =>
    rw [Graph.setProperty_eq_ok ok]
    rfl
  | moveNode node position =>
    rw [Graph.moveNode_eq_ok ok]
    rfl
  | setVariable | removeVariable | reseed =>
    cases ok
    rfl

lemma TickRules.entity_run {σ : Type} [Host σ] (r : TickRules) (collisionsOnly : Bool) (g : Graph)
    (scene : σ) : (r.run collisionsOnly g scene).graph.entity = g.entity :=
  congrArg GraphShape.entity (r.shape_run collisionsOnly g scene)

namespace Store

variable {P Q : Graph → Prop} {registry : Registry} {s t : Store} {entity : EntityId} {g h : Graph}

lemma get?_modify (s : Store) (entity : EntityId) (f : Graph → Graph) (other : EntityId) :
    (s.modify entity f).get? other =
      if other = entity then (s.get? other).map f else s.get? other :=
  s.graphs.find?_modify entity f other

lemma modify_modify (s : Store) (entity : EntityId) (f k : Graph → Graph) :
    (s.modify entity f).modify entity k = s.modify entity (k ∘ f) :=
  congrArg Store.mk (s.graphs.modify_modify entity f k)

/-- Every graph stands under its own entity and has the property. -/
def Holds (P : Graph → Prop) (s : Store) : Prop :=
  ∀ entity g, (entity, g) ∈ s.graphs.entries → g.entity = entity ∧ P g

/-- One change of a store, made by an author under a registry. -/
inductive Change (registry : Registry) (s : Store) : Store → Prop
  | create {id : GraphId} {entity : EntityId} {t : Store} (ok : s.create id entity = .ok t) :
      Change registry s t
  | replace (id : GraphId) (entity : EntityId) : Change registry s (s.replace id entity)
  | detach (entity : EntityId) : Change registry s (s.detach entity)
  | load {p : Snapshot} {l : Loaded} {log : Log} (ok : p.load registry = (.ok l, log)) :
      Change registry s (s.attach l.graph)
  | edit {entity : EntityId} {g h : Graph} (found : s.get? entity = some g) (e : Edit)
      (uses : e.Uses registry) (ok : e.apply g = .ok h) :
      Change registry s (s.modify entity fun _ => h)

/-- A store comes about by changes under whatever registries, by ticks of its graphs, and by taking
up graphs from elsewhere. -/
inductive Reachable : Store → Prop
  | empty : Reachable .empty
  | change {s t : Store} (prior : Reachable s) (registry : Registry)
      (change : s.Change registry t) : Reachable t
  | insert {s t : Store} {g : Graph} (prior : Reachable s) (graph : g.Reachable)
      (ok : s.insert g = .ok t) : Reachable t
  | tick {σ : Type} [Host σ] {s : Store} {entity : EntityId} {g : Graph} (prior : Reachable s)
      (found : s.get? entity = some g) (r : TickRules) (collisionsOnly : Bool) (scene : σ) :
      Reachable (s.modify entity fun _ => (r.run collisionsOnly g scene).graph)

namespace Holds

lemma mono (hs : s.Holds P) (himp : ∀ g, P g → Q g) : s.Holds Q :=
  fun entity g hg => (hs entity g hg).imp_right (himp g)

lemma get? (hs : s.Holds P) (found : s.get? entity = some g) : g.entity = entity ∧ P g :=
  hs entity g (Table.find?_eq_some_iff.mp found)

/-- No two graphs of a store are of one entity. -/
lemma nodup_entities (hs : s.Holds P) :
    (s.graphs.values.map Graph.entity).Nodup := by
  have hkeys : s.graphs.values.map Graph.entity = s.graphs.keys := by
    rw [Table.values, List.map_map]
    exact List.map_congr_left fun e he => (hs e.1 e.2 he).1
  exact hkeys ▸ s.graphs.nodup_keys

lemma empty : Store.empty.Holds P := nofun

lemma put (hs : s.Holds P) (hg : P g) : Holds P ⟨s.graphs.insert g.entity g⟩ := by
  intro entity h hmem
  rcases Table.mem_entries_insert hmem with ⟨rfl, rfl⟩ | hmem
  · exact ⟨rfl, hg⟩
  · exact hs entity h hmem

lemma insert (hs : s.Holds P) (hg : P g) (ok : s.insert g = .ok t) : t.Holds P := by
  unfold Store.insert at ok
  split at ok
  · cases ok
  · cases ok
    exact hs.put hg

lemma detach (hs : s.Holds P) (entity : EntityId) : (s.detach entity).Holds P :=
  fun other g hg => hs other g (List.mem_of_mem_filter hg)

lemma attach (hs : s.Holds P) (hg : P g) : (s.attach g).Holds P := (hs.detach g.entity).put hg

lemma modify (hs : s.Holds P) (hentity : h.entity = entity) (hh : P h) :
    (s.modify entity fun _ => h).Holds P := by
  intro other g hg
  obtain ⟨⟨k, old⟩, hold, he⟩ := List.mem_map.mp hg
  obtain ⟨rfl, rfl⟩ := Prod.mk.inj he
  dsimp only
  split
  · next hk => exact ⟨hentity.trans hk.symm, hh⟩
  · exact hs k old hold

/-- Reseeding leaves each graph where it is. -/
lemma reseed (hs : s.Holds P) (hQ : ∀ g, P g → Q (g.reseed registry)) :
    (s.reseed registry).Holds Q := by
  intro entity g hg
  obtain ⟨⟨k, old⟩, hold, he⟩ := List.mem_map.mp hg
  obtain ⟨rfl, rfl⟩ := Prod.mk.inj he
  obtain ⟨hentity, hP⟩ := hs k old hold
  exact ⟨hentity, hQ old hP⟩

/-- What the registry upholds, a change under it keeps. -/
theorem change (hs : s.Holds P) (hP : registry.Upholds P) (c : s.Change registry t) :
    t.Holds P := by
  cases c with
  | create ok => exact hs.insert (hP.empty _ _) ok
  | replace id entity => exact hs.attach (hP.empty id entity)
  | detach entity => exact hs.detach entity
  | load ok => exact hs.attach (hP.load ok)
  | edit found e uses ok =>
    obtain ⟨hentity, hg⟩ := hs.get? found
    exact hs.modify ((Edit.entity_apply ok).trans hentity) (hP.edit e uses hg ok)

end Holds

/-- Every graph of a store is one that can come about by itself. -/
theorem Reachable.holds (hs : s.Reachable) : s.Holds Graph.Reachable := by
  induction hs with
  | empty => exact .empty
  | change _ registry change ih => exact ih.change registry.upholds_reachable change
  | insert _ graph ok ih => exact ih.insert graph ok
  | tick _ found r collisionsOnly scene ih =>
    obtain ⟨hentity, hg⟩ := ih.get? found
    exact ih.modify ((r.entity_run collisionsOnly _ scene).trans hentity)
      (hg.tick r collisionsOnly scene)

end Store

end ScriptGraph
