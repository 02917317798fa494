import Mathlib.Algebra.GroupWithZero.Nat
import ScriptGraph.Proofs.GraphPlans

/-! When a scenario can be set up, and what it then comes to. The references of a scenario are names
and keys; the set-up succeeds if and only if all of them can be resolved, and what it builds can be
read off the scenario. -/
namespace ScriptGraph

namespace IdSource

/-- The next ids, as many as that, are pairwise distinct. -/
def Fresh (ids : IdSource) (count : Nat) : Prop :=
  ∀ i < count, ∀ j < count, (ids.skip i).next = (ids.skip j).next → i = j

instance (ids : IdSource) (count : Nat) : Decidable (ids.Fresh count) :=
  inferInstanceAs
    (Decidable (∀ i < count, ∀ j < count, (ids.skip i).next = (ids.skip j).next → i = j))

variable {ids : IdSource} {m n : Nat}

lemma Fresh.mono (h : ids.Fresh n) (hle : m ≤ n) : ids.Fresh m :=
  fun i hi j hj he => h i (Nat.lt_of_lt_of_le hi hle) j (Nat.lt_of_lt_of_le hj hle) he

lemma Fresh.skip (h : ids.Fresh (m + n)) : (ids.skip m).Fresh n := by
  intro i hi j hj he
  rw [skip_skip, skip_skip] at he
  have := h (m + i) (by omega) (m + j) (by omega) he
  omega

lemma Fresh.nodup {α : Type} {l : List α} (h : ids.Fresh l.length) :
    (l.zipIdx.map fun e => (ids.skip e.2).next).Nodup := by
  have hplaces : (l.zipIdx.map fun e => (ids.skip e.2).next) =
      (List.range' 0 l.length).map fun i => (ids.skip i).next := by
    rw [← List.zipIdx_map_snd, List.map_map]
    rfl
  rw [hplaces]
  refine List.Nodup.map_on (fun i hi j hj he => ?_) (List.nodup_range' ..)
  simp only [List.mem_range'_1, Nat.zero_add] at hi hj
  exact h i hi.2 j hj.2 he

end IdSource

lemma nodup_map_iff {α β : Type} {f : α → β} {l : List α} :
    (l.map f).Nodup ↔ ∀ done a rest, l = done ++ a :: rest → f a ∉ done.map f := by
  constructor
  · rintro hl done a rest rfl hm
    rw [List.map_append, List.map_cons, List.nodup_middle, List.nodup_cons] at hl
    exact hl.1 (List.mem_append_left _ hm)
  · intro h
    induction l using List.reverseRecOn with
    | nil => exact List.nodup_nil
    | append_singleton l a ih =>
      have hl := ih fun done b rest hsplit => h done b (rest ++ [a]) (by simp [hsplit])
      rw [List.map_append, List.map_singleton, List.nodup_append]
      refine ⟨hl, List.nodup_singleton _, fun b hb c hc he => ?_⟩
      rw [List.mem_singleton.mp hc] at he
      exact h l a [] rfl (he ▸ hb)

lemma exists_mapM_eq_ok {ε α β : Type} {f : α → Except ε β} {l : List α} :
    (∃ bs, l.mapM f = .ok bs) ↔ ∀ a ∈ l, ∃ b, f a = .ok b := by
  induction l with
  | nil => simp [pure, Except.pure]
  | cons a l ih =>
    rw [List.forall_mem_cons, ← ih, List.mapM_cons]
    constructor
    · rintro ⟨_, h⟩
      obtain ⟨b, hb, h⟩ := bind_eq_ok.mp h
      obtain ⟨bs, hbs, -⟩ := bind_eq_ok.mp h
      exact ⟨⟨b, hb⟩, bs, hbs⟩
    · rintro ⟨⟨b, hb⟩, bs, hbs⟩
      exact ⟨b :: bs, bind_eq_ok.mpr ⟨b, hb, bind_eq_ok.mpr ⟨bs, hbs, rfl⟩⟩⟩

namespace Scenario

open GraphPlan (zipIdx_concat arena)

variable {ids : IdSource} {entities : List EntityPlan}

/-- The entity as it is put in place. -/
def EntityPlan.entity (d : EntityPlan) : SceneEntity := ⟨d.name, d.position, d.mass.map .atRest⟩

/-- The entities by their names, the ids drawn one after another. -/
def castNames (ids : IdSource) (entities : List EntityPlan) : Table String EntityId :=
  .ofList (entities.zipIdx.map fun e => (e.1.name, ⟨(ids.skip e.2).next⟩))

/-- The scene that holds the entities. -/
def castScene (ids : IdSource) (entities : List EntityPlan) : Scene :=
  ⟨.ofList (entities.zipIdx.map fun e => (⟨(ids.skip e.2).next⟩, e.1.entity))⟩

lemma map_zipIdx {α β : Type} (f : α → β) (l : List α) :
    l.zipIdx.map (fun e => f e.1) = l.map f := by
  rw [← List.zipIdx_map_fst 0 l, List.map_map]
  simp

theorem cast_eq_ok_iff {c : Cast} :
    entities.foldlM Cast.add ⟨.empty, .empty, ids⟩ = .ok c ↔
      (entities.map EntityPlan.name).Nodup ∧
        c = ⟨castScene ids entities, castNames ids entities, ids.skip entities.length⟩ := by
  rw [nodup_map_iff]
  refine foldlM_eq_ok_iff
    (fun done => Cast.mk (castScene ids done) (castNames ids done) (ids.skip done.length)) ?_
  intro done d rest _ c
  have hkeys : (castNames ids done).contains d.name = true ↔ d.name ∈ done.map EntityPlan.name := by
    rw [Table.contains_iff_mem_keys, castNames, Table.mem_keys_ofList, List.map_map,
      ← map_zipIdx EntityPlan.name]
    rfl
  have hnext : Cast.mk (castScene ids (done ++ [d])) (castNames ids (done ++ [d]))
      (ids.skip (done ++ [d]).length) =
        ⟨(castScene ids done).put ⟨(ids.skip done.length).next⟩ d.entity,
          (castNames ids done).insert d.name ⟨(ids.skip done.length).next⟩,
          (ids.skip done.length).advance⟩ := by
    simp [castScene, castNames, zipIdx_concat, Table.ofList_concat, Scene.put,
      IdSource.advance_skip]
  rw [hnext, Cast.add]
  by_cases hm : d.name ∈ done.map EntityPlan.name
  · rw [if_pos (hkeys.mpr hm)]
    exact iff_of_false nofun fun h => h.1 hm
  · rw [if_neg (hkeys.not.mpr hm), Except.ok.injEq, eq_comm]
    exact (and_iff_right hm).symm

section Names

variable (hnames : (entities.map EntityPlan.name).Nodup)
include hnames

lemma entries_castNames : (castNames ids entities).entries =
    entities.zipIdx.map fun e => (e.1.name, ⟨(ids.skip e.2).next⟩) := by
  refine Table.entries_ofList ?_
  rw [List.map_map]
  exact (map_zipIdx EntityPlan.name entities).symm ▸ hnames

lemma keys_castNames (ids : IdSource) :
    (castNames ids entities).keys = entities.map EntityPlan.name := by
  rw [Table.keys, entries_castNames hnames, List.map_map]
  exact map_zipIdx EntityPlan.name entities

lemma castNames_injective (hids : ids.Fresh entities.length) {a b : String} {id : EntityId}
    (ha : (castNames ids entities).find? a = some id)
    (hb : (castNames ids entities).find? b = some id) : a = b := by
  rw [Table.find?_eq_some_iff, entries_castNames hnames] at ha hb
  obtain ⟨⟨d, i⟩, hd, hda⟩ := List.mem_map.mp ha
  obtain ⟨⟨e, j⟩, he, heb⟩ := List.mem_map.mp hb
  obtain ⟨rfl, hi⟩ := Prod.mk.inj hda
  obtain ⟨rfl, hj⟩ := Prod.mk.inj heb
  have hd' := List.mem_zipIdx_iff_getElem?.mp hd
  have he' := List.mem_zipIdx_iff_getElem?.mp he
  obtain rfl : i = j := by
    refine hids i (List.getElem?_eq_some_iff.mp hd').1 j (List.getElem?_eq_some_iff.mp he').1 ?_
    exact EntityId.mk.inj (hi.trans hj.symm)
  obtain rfl := Option.some.inj (hd'.symm.trans he')
  rfl

end Names

lemma entries_castScene (hids : ids.Fresh entities.length) :
    (castScene ids entities).entities.entries =
      entities.zipIdx.map fun e => (⟨(ids.skip e.2).next⟩, e.1.entity) := by
  refine Table.entries_ofList ?_
  rw [List.map_map]
  refine List.Nodup.of_map EntityId.uuid ?_
  rw [List.map_map]
  exact hids.nodup

/-- How many ids the set-up of a graph draws: one for the graph and one for each connection. -/
def GraphPlan.mints (g : GraphPlan) : Nat := 1 + g.links.length

/-- How many ids the set-up draws: one for each entity, and those of the graphs. -/
def mints (sc : Scenario) : Nat := sc.entities.length + (sc.graphs.map GraphPlan.mints).sum

variable {names : Table String EntityId} {plans : List GraphPlan}

def GraphPlan.owner (names : Table String EntityId) (g : GraphPlan) : EntityId :=
  (names.find? g.entity).getD default

/-- The graphs under their entities, the ids drawn for one graph after another. -/
def graphEntries (names : Table String EntityId) (ids : IdSource) :
    List GraphPlan → List (EntityId × Graph)
  | [] => []
  | g :: rest =>
    (g.owner names, g.graph names ids (g.owner names)) ::
      graphEntries names (ids.skip g.mints) rest

lemma graphEntries_concat (done : List GraphPlan) (g : GraphPlan) :
    graphEntries names ids (done ++ [g]) = graphEntries names ids done ++
      [(g.owner names,
        g.graph names (ids.skip (done.map GraphPlan.mints).sum) (g.owner names))] := by
  induction done generalizing ids with
  | nil => rfl
  | cons h done ih => simp [graphEntries, ih, IdSource.skip_skip]

lemma map_fst_graphEntries (names : Table String EntityId) (ids : IdSource)
    (plans : List GraphPlan) :
    (graphEntries names ids plans).map Prod.fst = plans.map (GraphPlan.owner names) := by
  induction plans generalizing ids with
  | nil => rfl
  | cons g plans ih => simp [graphEntries, ih]

variable {s : Session}

/-- The session with these graphs. -/
def stocked (s : Session) (entries : List (EntityId × Graph)) : Session :=
  { s with store := ⟨.ofList entries⟩ }

lemma map_entity_graphEntries (names : Table String EntityId) (ids : IdSource)
    (plans : List GraphPlan) :
    (graphEntries names ids plans).map (fun e => e.2.entity) =
      plans.map (GraphPlan.owner names) := by
  induction plans generalizing ids with
  | nil => rfl
  | cons g plans ih => simp [graphEntries, ih, GraphPlan.graph]

lemma addGraph_stocked (hr : s.registry = .builtins) {done : List GraphPlan} {g : GraphPlan}
    (hsize : g.nodes.length ≤ 2 ^ 32) {r : Session × IdSource} :
    addGraph names (stocked s (graphEntries names ids done),
        ids.skip (done.map GraphPlan.mints).sum) g = .ok r ↔
      ((g.entity ∈ names.keys ∧ g.Fits names.keys) ∧
        g.owner names ∉ done.map (GraphPlan.owner names)) ∧
      r = (stocked s (graphEntries names ids (done ++ [g])),
        ids.skip ((done ++ [g]).map GraphPlan.mints).sum) := by
  have hnext (entity : EntityId) (h : names.find? g.entity = some entity) :
      ((stocked s (graphEntries names ids done)).holding entity
          (g.graph names (ids.skip (done.map GraphPlan.mints).sum) entity),
        (ids.skip (done.map GraphPlan.mints).sum).skip (1 + g.links.length)) =
      (stocked s (graphEntries names ids (done ++ [g])),
        ids.skip ((done ++ [g]).map GraphPlan.mints).sum) := by
    simp [stocked, Session.holding, graphEntries_concat, Table.ofList_concat, GraphPlan.owner, h,
      IdSource.skip_skip, GraphPlan.mints]
  have hkeys (entity : EntityId) :
      entity ∈ (stocked s (graphEntries names ids done)).store.graphs.keys ↔
        entity ∈ done.map (GraphPlan.owner names) := by
    rw [stocked, Table.mem_keys_ofList, map_fst_graphEntries]
  have hregistry : (stocked s (graphEntries names ids done)).registry = .builtins := hr
  rw [addGraph_eq_ok_iff hregistry hsize]
  constructor
  · rintro ⟨entity, hentity, hnew, hfits, rfl⟩
    have howner : g.owner names = entity := by rw [GraphPlan.owner, hentity]; rfl
    refine ⟨⟨⟨Table.mem_keys_iff_find?.mpr ⟨entity, hentity⟩, hfits⟩, ?_⟩, hnext entity hentity⟩
    rwa [howner, ← hkeys]
  · rintro ⟨⟨⟨hknown, hfits⟩, hnew⟩, rfl⟩
    obtain ⟨entity, hentity⟩ := Table.mem_keys_iff_find?.mp hknown
    have howner : g.owner names = entity := by rw [GraphPlan.owner, hentity]; rfl
    refine ⟨entity, hentity, ?_, hfits, (hnext entity hentity).symm⟩
    rwa [hkeys, ← howner]

lemma addGraphs_eq_ok_iff (hr : s.registry = .builtins) (hs : s.store = .empty)
    (hsize : ∀ g ∈ plans, g.nodes.length ≤ 2 ^ 32) {r : Session × IdSource} :
    plans.foldlM (addGraph names) (s, ids) = .ok r ↔
      ((∀ g ∈ plans, g.entity ∈ names.keys ∧ g.Fits names.keys) ∧
        (plans.map (GraphPlan.owner names)).Nodup) ∧
      r = (stocked s (graphEntries names ids plans),
        ids.skip (plans.map GraphPlan.mints).sum) := by
  have hstart : (s, ids) = (stocked s (graphEntries names ids []), ids.skip 0) := by
    rw [stocked, show (Store.mk (.ofList (graphEntries names ids []))) = s.store from hs.symm]
    rfl
  have hfold := foldlM_eq_ok_iff (l := plans) (t := r)
    (fun done => (stocked s (graphEntries names ids done),
      ids.skip (done.map GraphPlan.mints).sum))
    fun done g rest hl _ => addGraph_stocked hr (hsize g (hl ▸ by simp))
  -- That an owner is new when its turn comes, for each of them, is that no owner comes twice.
  rw [hstart]
  refine hfold.trans (and_congr_left fun _ => ?_)
  rw [nodup_map_iff]
  constructor
  · refine fun h => ⟨fun g hg => ?_, fun done g rest hl => (h done g rest hl).2⟩
    obtain ⟨done, rest, hl⟩ := List.append_of_mem hg
    exact (h done g rest hl).1
  · exact fun h done g rest hl => ⟨h.1 g (hl ▸ by simp), h.2 done g rest hl⟩

/-- All names and keys of the scenario can be resolved, and no two of what must differ agree. -/
structure Valid (sc : Scenario) : Prop where
  entities : (sc.entities.map EntityPlan.name).Nodup
  owners : (sc.graphs.map GraphPlan.entity).Nodup
  graphs : ∀ g ∈ sc.graphs, g.entity ∈ sc.entities.map EntityPlan.name ∧
    g.Fits (sc.entities.map EntityPlan.name)
  collisions : ∀ c ∈ sc.collisions,
    c.a ∈ sc.entities.map EntityPlan.name ∧ c.b ∈ sc.entities.map EntityPlan.name

/-- The connection is the one that the link asks for, between the last nodes of its keys. -/
structure GraphPlan.Linked (g : GraphPlan) (l : LinkPlan) (c : Connection) : Prop where
  source : g.nodeId? l.source = some c.source
  sourcePort : c.sourcePort = l.sourcePort
  target : g.nodeId? l.target = some c.target
  targetPort : c.targetPort = l.targetPort

/-- The graph is the one that is planned. -/
structure GraphPlan.Drafted (names : Table String EntityId) (plan : GraphPlan) (g : Graph) :
    Prop where
  entity : names.find? plan.entity = some g.entity
  nodes : g.nodes = arena names plan.nodes
  connections : List.Forall₂ plan.Linked plan.links g.connections.values
  vars : g.vars = plan.vars

/-- The simulation is the scenario, entity by entity and graph by graph. -/
structure SetUp (sc : Scenario) (sim : Simulation) : Prop where
  scene : sim.scene.entities.values = sc.entities.map EntityPlan.entity
  names : sim.names.entries = (sc.entities.map EntityPlan.name).zip sim.scene.entities.keys
  graphs : List.Forall₂ (GraphPlan.Drafted sim.names) sc.graphs sim.session.store.graphs.values
  owners : sim.session.store.graphs.keys = sim.session.store.graphs.values.map Graph.entity

lemma forall₂_zipIdx_map {α β : Type} {R : α → β → Prop} {f : α × Nat → β} {l : List α}
    (h : ∀ a ∈ l, ∀ i, R a (f (a, i))) : List.Forall₂ R l (l.zipIdx.map f) := by
  have hall : List.Forall₂ R (l.zipIdx.map Prod.fst) (l.zipIdx.map f) := by
    rw [List.forall₂_map_left_iff, List.forall₂_map_right_iff, List.forall₂_same]
    rintro ⟨a, i⟩ ha
    exact h a (List.mem_of_getElem? (List.mem_zipIdx_iff_getElem?.mp ha)) i
  rwa [List.zipIdx_map_fst] at hall

lemma drafted_graph {g : GraphPlan} (hids : ids.Fresh g.mints) (hknown : g.entity ∈ names.keys)
    (hfits : g.Fits names.keys) : g.Drafted names (g.graph names ids (g.owner names)) := by
  obtain ⟨entity, hentity⟩ := Table.mem_keys_iff_find?.mp hknown
  have hnodup : (g.links.zipIdx.map fun e => (ids.advance.skip e.2).next).Nodup :=
    IdSource.Fresh.nodup hids.skip
  have hvalues : (g.connections ids.advance g.links).values =
      g.links.zipIdx.map fun e => g.connection ⟨(ids.advance.skip e.2).next⟩ e.1 := by
    rw [Table.values, GraphPlan.connections, Table.entries_ofList, List.map_map]
    · rfl
    · refine List.Nodup.of_map ConnectionId.uuid ?_
      rw [List.map_map, List.map_map]
      exact hnodup
  refine ⟨?_, rfl, ?_, rfl⟩
  · rw [hentity, GraphPlan.graph, GraphPlan.owner, hentity]
    rfl
  · rw [GraphPlan.graph, hvalues]
    refine forall₂_zipIdx_map fun l hl i => ?_
    obtain ⟨source, target, _, _, _, _, hsource, htarget, -⟩ := hfits.links l hl
    refine ⟨?_, rfl, ?_, rfl⟩
    · simp [GraphPlan.connection, GraphPlan.nodeId?, hsource]
    · simp [GraphPlan.connection, GraphPlan.nodeId?, htarget]

lemma drafted_graphEntries (hids : ids.Fresh (plans.map GraphPlan.mints).sum)
    (hplans : ∀ g ∈ plans, g.entity ∈ names.keys ∧ g.Fits names.keys) :
    List.Forall₂ (GraphPlan.Drafted names) plans
      ((graphEntries names ids plans).map Prod.snd) := by
  induction plans generalizing ids with
  | nil => exact .nil
  | cons g plans ih =>
    obtain ⟨⟨hknown, hfits⟩, hrest⟩ := List.forall_mem_cons.mp hplans
    rw [List.map_cons, List.sum_cons] at hids
    exact .cons (drafted_graph (hids.mono (Nat.le_add_right ..)) hknown hfits)
      (ih hids.skip hrest)

lemma exists_collisions_iff {collisions : List CollisionPlan} :
    (∃ resolved, collisions.mapM (resolveCollision names) = .ok resolved) ↔
      ∀ c ∈ collisions, c.a ∈ names.keys ∧ c.b ∈ names.keys := by
  rw [exists_mapM_eq_ok]
  refine forall₂_congr fun c _ => ?_
  rw [Table.mem_keys_iff_find?, Table.mem_keys_iff_find?]
  constructor
  · rintro ⟨_, ok⟩
    obtain ⟨a, ha, ok⟩ := bind_eq_ok.mp ok
    obtain ⟨b, hb, -⟩ := bind_eq_ok.mp ok
    exact ⟨⟨a, findEntity_eq_ok.mp ha⟩, b, findEntity_eq_ok.mp hb⟩
  · rintro ⟨⟨a, ha⟩, b, hb⟩
    exact ⟨_, bind_eq_ok.mpr ⟨a, findEntity_eq_ok.mpr ha,
      bind_eq_ok.mpr ⟨b, findEntity_eq_ok.mpr hb, rfl⟩⟩⟩

lemma nodup_owners_iff (hnames : (entities.map EntityPlan.name).Nodup)
    (hids : ids.Fresh entities.length)
    (hplans : ∀ g ∈ plans, g.entity ∈ (castNames ids entities).keys) :
    (plans.map (GraphPlan.owner (castNames ids entities))).Nodup ↔
      (plans.map GraphPlan.entity).Nodup := by
  have howner : plans.map (GraphPlan.owner (castNames ids entities)) =
      (plans.map GraphPlan.entity).map fun name =>
        ((castNames ids entities).find? name).getD default := by
    rw [List.map_map]
    rfl
  rw [howner]
  refine ⟨List.Nodup.of_map _, List.Nodup.map_on fun a ha b hb he => ?_⟩
  obtain ⟨g, hg, rfl⟩ := List.mem_map.mp ha
  obtain ⟨h, hh, rfl⟩ := List.mem_map.mp hb
  obtain ⟨i, hi⟩ := Table.mem_keys_iff_find?.mp (hplans g hg)
  obtain ⟨j, hj⟩ := Table.mem_keys_iff_find?.mp (hplans h hh)
  rw [hi, hj] at he
  obtain rfl : i = j := he
  exact castNames_injective hnames hids hi hj

lemma entries_castNames_eq_zip (hnames : (entities.map EntityPlan.name).Nodup)
    (hids : ids.Fresh entities.length) : (castNames ids entities).entries =
      (entities.map EntityPlan.name).zip (castScene ids entities).entities.keys := by
  rw [Table.keys, entries_castScene hids, entries_castNames hnames, List.map_map,
    ← map_zipIdx EntityPlan.name, List.zip_map']
  rfl

variable {sc : Scenario} {sim : Simulation} {log : Log}

lemma opened (settings : Settings) :
    (Session.start .builtins settings).1.registry = .builtins ∧
      (Session.start .builtins settings).1.store = .empty := by
  cases h : settings.startPlaying <;>
    simp [Session.start, Session.idle, Session.after, Session.play, h]

lemma after_play (s : Session) : (s.after s.play).1.registry = s.registry ∧
    (s.after s.play).1.store = s.store := by
  cases h : s.mode <;> simp [Session.after, Session.play, h]

section Build

variable (hids : ids.Fresh sc.mints) (hsize : ∀ g ∈ sc.graphs, g.nodes.length ≤ 2 ^ 32)
include hids hsize

lemma of_build_eq_ok (ok : sc.build ids = .ok (sim, log)) :
    sc.Valid ∧ sim.scene = castScene ids sc.entities ∧ sim.names = castNames ids sc.entities ∧
      sim.session.store = ⟨.ofList (graphEntries (castNames ids sc.entities)
        (ids.skip sc.entities.length) sc.graphs)⟩ := by
  obtain ⟨cast, authored, collisions, hcast, hgraphs, hcollisions, rfl, -⟩ := build_eq_ok_iff.mp ok
  obtain ⟨hnames, rfl⟩ := cast_eq_ok_iff.mp hcast
  obtain ⟨hregistry, hempty⟩ := opened sc.settings
  obtain ⟨⟨hplans, howners⟩, rfl⟩ := (addGraphs_eq_ok_iff hregistry hempty hsize).mp hgraphs
  have hresolved := exists_collisions_iff.mp ⟨collisions, hcollisions⟩
  rw [nodup_owners_iff hnames (hids.mono (Nat.le_add_right ..))
    fun g hg => (hplans g hg).1] at howners
  simp only [keys_castNames hnames] at hplans hresolved
  exact ⟨⟨hnames, howners, hplans, hresolved⟩, rfl, rfl, (after_play _).2⟩

lemma exists_build (hvalid : sc.Valid) : ∃ sim log, sc.build ids = .ok (sim, log) := by
  obtain ⟨hnames, hdistinct, hplans, hdeclared⟩ := hvalid
  obtain ⟨hregistry, hempty⟩ := opened sc.settings
  have hcast : sc.entities.foldlM Cast.add ⟨.empty, .empty, ids⟩ = .ok _ :=
    cast_eq_ok_iff.mpr ⟨hnames, rfl⟩
  rw [← keys_castNames hnames ids] at hplans hdeclared
  have howners := (nodup_owners_iff hnames (hids.mono (Nat.le_add_right ..))
    fun g hg => (hplans g hg).1).mpr hdistinct
  have hgraphs : sc.graphs.foldlM (addGraph (castNames ids sc.entities))
      ((Session.start .builtins sc.settings).1, ids.skip sc.entities.length) = .ok _ :=
    (addGraphs_eq_ok_iff hregistry hempty hsize).mpr ⟨⟨hplans, howners⟩, rfl⟩
  obtain ⟨collisions, hcollisions⟩ := exists_collisions_iff.mpr hdeclared
  exact ⟨_, _, build_eq_ok_iff.mpr ⟨_, _, collisions, hcast, hgraphs, hcollisions, rfl, rfl⟩⟩

lemma setUp_of_build_eq_ok (ok : sc.build ids = .ok (sim, log)) : sc.SetUp sim := by
  obtain ⟨hvalid, hscene, hnames, hstore⟩ := of_build_eq_ok hids hsize ok
  have hentities : ids.Fresh sc.entities.length := hids.mono (Nat.le_add_right ..)
  have hplans := hvalid.graphs
  rw [← keys_castNames hvalid.entities ids] at hplans
  have hdistinct := (nodup_owners_iff hvalid.entities hentities
    fun g hg => (hplans g hg).1).mpr hvalid.owners
  have hentries : sim.session.store.graphs.entries = graphEntries (castNames ids sc.entities)
      (ids.skip sc.entities.length) sc.graphs := by
    rw [hstore]
    refine Table.entries_ofList ?_
    rwa [map_fst_graphEntries]
  refine ⟨?_, ?_, ?_, ?_⟩
  · rw [hscene, Table.values, entries_castScene hentities, List.map_map]
    exact map_zipIdx EntityPlan.entity sc.entities
  · rw [hnames, hscene, entries_castNames_eq_zip hvalid.entities hentities]
  · rw [hnames, Table.values, hentries]
    exact drafted_graphEntries hids.skip hplans
  · rw [Table.keys, Table.values, hentries, List.map_map, map_fst_graphEntries,
      ← map_entity_graphEntries]
    rfl

end Build

/-- Setting a scenario up succeeds if and only if all that it refers to is there, and it ends in
what the scenario says. A graph has room for as many nodes as there are indices. -/
theorem build_exact (hids : ids.Fresh sc.mints)
    (hsize : ∀ g ∈ sc.graphs, g.nodes.length ≤ 2 ^ 32) :
    ((∃ sim log, sc.build ids = .ok (sim, log)) ↔ sc.Valid) ∧
      ∀ sim log, sc.build ids = .ok (sim, log) → sc.SetUp sim := by
  refine ⟨⟨?_, exists_build hids hsize⟩, fun _ _ => setUp_of_build_eq_ok hids hsize⟩
  rintro ⟨_, _, ok⟩
  exact (of_build_eq_ok hids hsize ok).1

lemma exists_build_of_map {α : Type} {f : Simulation → α} {a : α}
    (h : (sc.build ids).toOption.map (fun e => f e.1) = some a) :
    ∃ sim log, sc.build ids = .ok (sim, log) ∧ f sim = a := by
  cases hbuild : sc.build ids with
  | error e => simp [hbuild, Except.toOption] at h
  | ok e => exact ⟨e.1, e.2, rfl, by simpa [hbuild, Except.toOption] using h⟩

/-- A wall that pushes a crate at every tick. Two of its nodes have the same key, and the node that
pushes is given an object twice. -/
def shove : Scenario where
  settings := .initial
  ticks := defaultTicks
  deltaTime := defaultDeltaTime
  entities := [⟨"Crate", .zero, some .one⟩, ⟨"Wall", ⟨.one, .zero, .zero⟩, none⟩]
  graphs := [{
    entity := "Wall"
    nodes := [
      .plain "tick" "OnUpdate" 0,
      .plain "push" "Print" 200,
      { (NodePlan.plain "push" "ApplyForce" 400).setting "Object" (.object none) with
        objects := .ofList [("Object", "Crate")] }]
    links := [⟨"tick", "Exec", "push", "Exec"⟩]
    vars := .ofList [("pushes", .int 0)] }]
  collisions := [⟨3, "Crate", "Wall"⟩]

/-- The same with a collision of an entity that is not there. -/
def strayShove : Scenario := { shove with collisions := [⟨3, "Crate", "Floor"⟩] }

/-- Where the connections of the graphs lead. -/
def targets (s : Session) : List (List NodeId) :=
  s.store.graphs.values.map fun g => g.connections.values.map Connection.target

theorem build_shove_exact :
    IdSource.counting.Fresh shove.mints ∧ (∀ g ∈ shove.graphs, g.nodes.length ≤ 2 ^ 32) ∧
    shove.Valid ∧ (∃ sim log, shove.build .counting = .ok (sim, log) ∧ shove.SetUp sim ∧
      targets sim.session = [[⟨2, 0⟩]]) ∧
    ¬ strayShove.Valid := by
  have hids : IdSource.counting.Fresh shove.mints := by decide +kernel
  have hsize : ∀ g ∈ shove.graphs, g.nodes.length ≤ 2 ^ 32 := by decide
  obtain ⟨hvalid, hsetUp⟩ := build_exact hids hsize
  have hbuild : (shove.build .counting).toOption.map (fun e => targets e.1.session) =
      some [[⟨2, 0⟩]] := by decide +kernel
  have hfails : (strayShove.build .counting).toOption.isSome = false := by decide +kernel
  obtain ⟨sim, log, ok, hled⟩ := exists_build_of_map (f := fun sim => targets sim.session) hbuild
  refine ⟨hids, hsize, hvalid.mp ⟨sim, log, ok⟩, ⟨sim, log, ok, hsetUp sim log ok, hled⟩, ?_⟩
  intro hstray
  have hids' : IdSource.counting.Fresh strayShove.mints := hids
  obtain ⟨sim, log, ok⟩ := (build_exact hids' hsize).1.mpr hstray
  simp [ok, Except.toOption] at hfails

end Scenario

end ScriptGraph
