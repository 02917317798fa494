import Mathlib.Algebra.GroupWithZero.Nat
import ScriptGraph.Proofs.Accounting
import ScriptGraph.Proofs.Linking
import ScriptGraph.Proofs.NodeRuns
import ScriptGraph.Proofs.StoredGraphs

/-! How an update deals with the collisions that it is told of. The graph of an entity gets one full
pass, which sees the first collision that the entity took part in, and a pass for each further one,
which starts from nothing but the nodes driven by collisions. So every collision is seen once, and
what happens once in a tick happens once, however many collisions there are. -/
namespace ScriptGraph

variable {σ : Type} [Host σ]

/-- Those with whom an entity collided, in the order of the collisions. -/
def Collision.partners (entity : EntityId) (collisions : List Collision) : List EntityId :=
  collisions.filterMap fun c => c.other? entity

/-- What a collision event asks for: to go on with the other party, if there is one. -/
def Outcome.struckBy : Option EntityId → Outcome
  | some other => .publishThenFlow "Exec" (.ofList [("otherObject", .object (some other))])
  | none => .idle

/-- What the node asked for, if the entry says that it ran. -/
def LogEntry.outcomeOf? (graph : GraphId) (node : NodeId) : LogEntry → Option Outcome
  | .nodeRan g n outcome => if g = graph ∧ n = node then some outcome else none
  | _ => none

namespace Graph

/-- How many nodes a full pass starts from. -/
def eventCount (g : Graph) (registry : Registry) : Nat :=
  g.nodes.nodes.countP fun n => (registry.lookup n.typeName).any NodeType.isEvent

/-- How many of them are driven by collisions. -/
def collisionEventCount (g : Graph) (registry : Registry) : Nat :=
  g.nodes.nodes.countP fun n =>
    (registry.lookup n.typeName).any fun t => t.isEvent && t.collisionEvent

end Graph

namespace TickRules

variable {r : TickRules} {g h : Graph} {node : NodeId} {n : Node} {t : NodeType}

lemma length_roots (r : TickRules) (g : Graph) (collisionsOnly : Bool) :
    (r.roots g collisionsOnly).length =
      if collisionsOnly then g.collisionEventCount r.registry else g.eventCount r.registry := by
  rw [roots, List.length_map, ← List.countP_eq_length_filter]
  cases collisionsOnly with
  | true => rfl
  | false =>
    have hall : (fun n : Node => (r.registry.lookup n.typeName).any fun t =>
        t.isEvent && (!false || t.collisionEvent)) =
          fun n => (r.registry.lookup n.typeName).any NodeType.isEvent := by
      funext n
      simp
    exact congrArg (fun p => g.nodes.nodes.countP p) hall

lemma count_roots (hg : g.WellFormed) (hsize : g.nodes.slots.length ≤ 2 ^ 32)
    (hn : g.node? node = some n) (ht : r.registry.lookup n.typeName = some t)
    (collisionsOnly : Bool) :
    (r.roots g collisionsOnly).count node =
      if t.isEvent && (!collisionsOnly || t.collisionEvent) then 1 else 0 := by
  have hid : n.id = node := hg.nodes.id_eq hn
  have hdistinct : (g.nodes.nodes.map Node.id).Nodup := by
    refine List.Nodup.of_map NodeId.index ?_
    rw [List.map_map]
    exact hg.nodes.nodup_indices hsize
  have hroots : (r.roots g collisionsOnly).Nodup :=
    hdistinct.sublist (List.filter_sublist.map Node.id)
  have hmem : node ∈ r.roots g collisionsOnly ↔
      (t.isEvent && (!collisionsOnly || t.collisionEvent)) = true := by
    rw [roots, List.mem_map]
    constructor
    · rintro ⟨m, hm, hmid⟩
      obtain ⟨hmem, hstarts⟩ := List.mem_filter.mp hm
      have hfound : g.node? m.id = some m := hg.nodes.get?_id hsize hmem
      rw [hmid, hn] at hfound
      obtain rfl := Option.some.inj hfound
      rwa [ht] at hstarts
    · intro hstarts
      have hn' : n ∈ g.nodes.nodes := Arena.get?_mem_nodes hn
      exact ⟨n, List.mem_filter.mpr ⟨hn', by rwa [ht]⟩, hid⟩
  split
  · next hstarts => exact List.count_eq_one_of_mem hroots (hmem.mpr hstarts)
  · next hstarts => exact List.count_eq_zero_of_not_mem fun hin => hstarts (hmem.mp hin)

lemma onlyRoot_onCollision
    (htype : g.typeOf? r.registry node = some Builtin.onCollision.nodeType)
    (hnone : ∀ c ∈ g.connections.values, c.target ≠ node) : r.OnlyRoot g node where
  notPure := by
    rw [isPure, htype]
    rfl
  notTarget := hnone

/-- It never fails and prints nothing. -/
lemma perform_onCollision (r : TickRules) (n : Node) (s : TickState σ) :
    r.perform Builtin.onCollision.nodeType n s =
      (.ok (.struckBy r.context.collisionOther?), ⟨n.properties, s.graph.vars, s.scene, []⟩) := by
  change (Builtin.onCollision.script { r.context with node := n.id, typeName := n.typeName }).run
    _ = _
  unfold Builtin.script
  cases r.context.collisionOther? <;> rfl

lemma invoke_onCollision {s : TickState σ}
    (htype : s.graph.typeOf? r.registry node = some Builtin.onCollision.nodeType) :
    (r.invoke node s).1 = .struckBy r.context.collisionOther? := by
  obtain ⟨n, hn, ht⟩ := Option.bind_eq_some_iff.mp htype
  rw [r.invoke_of_ok hn ht (r.perform_onCollision n s)]

lemma entries_onCollision {m : Moment σ} (hinvoked : m.phase = .invoked)
    (htype : m.state.graph.typeOf? r.registry m.node = some Builtin.onCollision.nodeType) :
    r.entries m = [.nodeRan m.state.graph.id m.node (r.invoke m.node m.state).1] := by
  obtain ⟨n, hn, ht⟩ := Option.bind_eq_some_iff.mp htype
  rw [entries, if_pos hinvoked, r.invoke_of_ok hn ht (r.perform_onCollision n m.state)]
  simp [printedLog]

/-- No entry speaks of the runs of another node, or of a node of another graph. -/
lemma filterMap_entries_of_ne {m : Moment σ} {graph : GraphId}
    (hother : m.state.graph.id = graph → m.node ≠ node) :
    (r.entries m).filterMap (LogEntry.outcomeOf? graph node) = [] := by
  unfold entries
  split
  · refine invoke_cases (P := fun ran =>
      (ran.2.log.toList.drop m.state.log.size).filterMap (LogEntry.outcomeOf? graph node) = [])
      ?_ ?_ ?_ ?_
    · intro _
      rw [← Array.length_toList, List.drop_length, List.filterMap_nil]
    · simp [LogEntry.outcomeOf?]
    · intro n t outcome w _ _ _
      simpa [printedLog, LogEntry.outcomeOf?] using hother
    · intro n t e w _ _ _
      simp [printedLog, LogEntry.outcomeOf?]
  · rfl

section Log

variable (r : TickRules) (collisionsOnly : Bool) (g : Graph) (scene : σ)

lemma shape_of_mem_moments {m : Moment σ} (hm : m ∈ r.moments collisionsOnly g scene) :
    m.state.graph.shape = g.shape :=
  ((r.keeps_shape g.shape).walks (r.walks_moments collisionsOnly g scene) rfl nofun).2 m hm

lemma filterMap_log_run (graph : GraphId) (node : NodeId) :
    (r.run collisionsOnly g scene).log.toList.filterMap (LogEntry.outcomeOf? graph node) =
      (r.moments collisionsOnly g scene).flatMap fun m =>
        (r.entries m).filterMap (LogEntry.outcomeOf? graph node) := by
  have hrefusal (e : LogEntry) : e.isRefusal = true → e.outcomeOf? graph node = none := by
    cases e <;> simp [LogEntry.isRefusal, LogEntry.outcomeOf?]
  rw [← List.filterMap_flatMap, ← r.events_run, TickState.events, List.filterMap_filter]
  refine List.filterMap_congr fun e _ => ?_
  cases he : e.isRefusal with
  | true => exact hrefusal e he
  | false => rfl

/-- The log of a tick says of a collision event what each of its runs asked for, in order. -/
lemma outcomes_run {node : NodeId}
    (htype : g.typeOf? r.registry node = some Builtin.onCollision.nodeType) :
    (r.run collisionsOnly g scene).log.toList.filterMap (LogEntry.outcomeOf? g.id node) =
      (r.runsOf collisionsOnly g scene node).map NodeRun.outcome := by
  rw [filterMap_log_run, runsOf, runsIn, List.map_filterMap, List.filterMap_eq_flatMap_toList]
  refine List.flatMap_congr fun m hm => ?_
  have hshape := r.shape_of_mem_moments collisionsOnly g scene hm
  by_cases hrun : m.phase = .invoked ∧ m.node = node
  · obtain ⟨hinvoked, rfl⟩ := hrun
    have hid : m.state.graph.id = g.id := congrArg GraphShape.id hshape
    rw [entries_onCollision hinvoked ((Graph.typeOf?_of_shape hshape _ _).trans htype), runAt?,
      if_pos ⟨hinvoked, rfl⟩, hid]
    simp [LogEntry.outcomeOf?]
  · have hnone : (r.entries m).filterMap (LogEntry.outcomeOf? g.id node) = [] := by
      by_cases hinvoked : m.phase = .invoked
      · exact filterMap_entries_of_ne fun _ hnode => hrun ⟨hinvoked, hnode⟩
      · rw [entries, if_neg hinvoked, List.filterMap_nil]
    rw [hnone, runAt?, if_neg hrun]
    rfl

lemma outcomes_run_of_ne {graph : GraphId} (hid : g.id ≠ graph) (node : NodeId) :
    (r.run collisionsOnly g scene).log.toList.filterMap (LogEntry.outcomeOf? graph node) = [] := by
  rw [filterMap_log_run, List.flatMap_eq_nil_iff]
  intro m hm
  have hshape := r.shape_of_mem_moments collisionsOnly g scene hm
  exact filterMap_entries_of_ne fun h => absurd ((congrArg GraphShape.id hshape).symm.trans h) hid

end Log

end TickRules

namespace Session

variable {entity : EntityId} {collisions : List Collision}

lemma map_filter_other? (entity : EntityId) (collisions : List Collision) :
    (collisions.filter fun c => (c.other? entity).isSome).map (fun c => c.other? entity) =
      (Collision.partners entity collisions).map some := by
  rw [Collision.partners, List.map_filterMap_some_eq_filter_map_isSome, List.filter_map]
  rfl

lemma map_collision_passes (entity : EntityId) (collisions : List Collision) :
    ((passes entity collisions).map fun p => p.collision.bind fun c => c.other? entity) =
      if Collision.partners entity collisions = [] then [none]
      else (Collision.partners entity collisions).map some := by
  have hseen := map_filter_other? entity collisions
  unfold passes
  cases hinvolved : collisions.filter fun c => (c.other? entity).isSome with
  | nil =>
    rw [hinvolved] at hseen
    rw [if_pos (List.map_eq_nil_iff.mp hseen.symm)]
    rfl
  | cons c rest =>
    rw [hinvolved] at hseen
    have hsome : Collision.partners entity collisions ≠ [] := by
      intro hnone
      rw [hnone] at hseen
      cases hseen
    rw [if_neg hsome, ← hseen, List.map_cons, List.map_map]
    rfl

lemma map_collisionsOnly_passes (entity : EntityId) (collisions : List Collision) :
    (passes entity collisions).map Pass.collisionsOnly =
      false :: List.replicate ((Collision.partners entity collisions).length - 1) true := by
  have hlength : (collisions.filter fun c => (c.other? entity).isSome).length =
      (Collision.partners entity collisions).length := by
    simpa using congrArg List.length (map_filter_other? entity collisions)
  rw [← hlength]
  unfold passes
  cases collisions.filter fun c => (c.other? entity).isSome with
  | nil => rfl
  | cons c rest =>
    rw [List.map_cons, List.map_map, List.length_cons, Nat.add_sub_cancel]
    exact congrArg (List.cons false) (List.map_const' ..)

variable {s : Session} {deltaTime : Single} {scene : σ} {g : Graph}

/-- The passes over a graph all find it in the same shape. What they do as far as that is all that
matters, they do one by one. -/
lemma map_passesFrom {β : Type} (s : Session) (deltaTime : Single) {acc : TickState σ}
    (ps : List Pass) {f : Pass × TickState σ → β} {h : Pass → β}
    (hf : ∀ p (t : TickState σ), t.graph.shape = acc.graph.shape → f (p, t) = h p) :
    (s.passesFrom deltaTime acc ps).map f = ps.map h := by
  induction ps generalizing acc with
  | nil => rfl
  | cons p ps ih =>
    rw [passesFrom, List.map_cons, List.map_cons, hf p acc rfl,
      ih fun q t ht => hf q t (ht.trans (s.shape_runPass deltaTime acc p))]

lemma shape_of_mem_passesFrom {acc : TickState σ} {ps : List Pass} {t : Pass × TickState σ}
    (ht : t ∈ s.passesFrom deltaTime acc ps) : t.2.graph.shape = acc.graph.shape := by
  induction ps generalizing acc with
  | nil => cases ht
  | cons p ps ih =>
    rcases List.mem_cons.mp ht with rfl | ht
    · rfl
    · exact (ih ht).trans (s.shape_runPass deltaTime acc p)

/-- Every pass is over one of the graphs, whose shape it finds. -/
lemma exists_of_mem_passesOver {graphs : List Graph} {acc : Progress σ} {t : Pass × TickState σ}
    (ht : t ∈ s.passesOver deltaTime collisions acc graphs) :
    ∃ g ∈ graphs, t.2.graph.shape = g.shape := by
  induction graphs generalizing acc with
  | nil => cases ht
  | cons g graphs ih =>
    rcases List.mem_append.mp ht with ht | ht
    · exact ⟨g, by simp, shape_of_mem_passesFrom ht⟩
    · obtain ⟨h, hh, hshape⟩ := ih ht
      exact ⟨h, List.mem_cons_of_mem g hh, hshape⟩

lemma filter_passesFrom (entity : EntityId) (acc : TickState σ) (ps : List Pass) :
    (s.passesFrom deltaTime acc ps).filter (fun t => t.2.graph.entity = entity) =
      if acc.graph.entity = entity then s.passesFrom deltaTime acc ps else [] := by
  have hentities : (s.passesFrom deltaTime acc ps).map (fun t => t.2.graph.entity) =
      ps.map fun _ => acc.graph.entity :=
    s.map_passesFrom deltaTime ps fun _ _ hshape => congrArg GraphShape.entity hshape
  have hentity (t : Pass × TickState σ) (ht : t ∈ s.passesFrom deltaTime acc ps) :
      t.2.graph.entity = acc.graph.entity := by
    have hmem := List.mem_map_of_mem (f := fun t : Pass × TickState σ => t.2.graph.entity) ht
    rw [hentities] at hmem
    exact (List.mem_map.mp hmem).choose_spec.2.symm
  split
  · next he => exact List.filter_eq_self.mpr fun t ht => decide_eq_true ((hentity t ht).trans he)
  · next he =>
    exact List.filter_eq_nil_iff.mpr fun t ht hd =>
      he ((hentity t ht).symm.trans (of_decide_eq_true hd))

lemma filter_passesOver_of_absent {graphs : List Graph} (habsent : ∀ g ∈ graphs, g.entity ≠ entity)
    (acc : Progress σ) :
    (s.passesOver deltaTime collisions acc graphs).filter (fun t => t.2.graph.entity = entity) =
      [] := by
  induction graphs generalizing acc with
  | nil => rfl
  | cons g graphs ih =>
    obtain ⟨hg, hrest⟩ := List.forall_mem_cons.mp habsent
    rw [passesOver, List.filter_append, filter_passesFrom, if_neg hg, ih hrest, List.nil_append]

/-- Where every graph has an entity of its own, the passes over the graph of one entity are those
that begin with that graph. -/
lemma filter_passesOver (s : Session) (deltaTime : Single) (collisions : List Collision)
    {graphs : List Graph} (hdistinct : (graphs.map Graph.entity).Nodup) (hg : g ∈ graphs)
    (acc : Progress σ) :
    ∃ t : TickState σ, t.graph = g ∧
      (s.passesOver deltaTime collisions acc graphs).filter
          (fun t => t.2.graph.entity = g.entity) =
        s.passesFrom deltaTime t (passes g.entity collisions) := by
  induction graphs generalizing acc with
  | nil => cases hg
  | cons h graphs ih =>
    rw [List.map_cons, List.nodup_cons] at hdistinct
    obtain ⟨hnew, hrest⟩ := hdistinct
    have hother (k : Graph) (hk : k ∈ graphs) : k.entity ≠ h.entity := fun he =>
      hnew (he ▸ List.mem_map_of_mem hk)
    rw [passesOver, List.filter_append, filter_passesFrom]
    rcases List.mem_cons.mp hg with rfl | hg
    · refine ⟨⟨g, acc.scene, acc.stats, acc.log⟩, rfl, ?_⟩
      rw [if_pos rfl, filter_passesOver_of_absent hother, List.append_nil]
    · obtain ⟨t, ht, hpasses⟩ := ih hrest hg (s.tickGraph deltaTime collisions acc h)
      refine ⟨t, ht, ?_⟩
      rw [if_neg (Ne.symm (hother g hg)), List.nil_append, hpasses]

lemma roots_runPass (acc : TickState σ) (p : Pass) :
    (s.runPass deltaTime acc p).stats.roots = acc.stats.roots +
      if p.collisionsOnly then acc.graph.collisionEventCount s.registry
      else acc.graph.eventCount s.registry := by
  have hroom : 0 < (s.rules deltaTime acc.graph.entity p).maxDepth := clampDepth_pos _
  obtain ⟨_, hroots⟩ :=
    TickRules.balanced_run _ p.collisionsOnly acc.graph acc.scene hroom
  rw [TickRules.length_roots] at hroots
  exact congrArg (acc.stats.roots + ·) hroots

lemma roots_foldl_runPass (s : Session) (deltaTime : Single) (ps : List Pass) (acc : TickState σ) :
    (ps.foldl (s.runPass deltaTime) acc).stats.roots = acc.stats.roots +
      ((ps.map Pass.collisionsOnly).map fun collisionsOnly =>
        if collisionsOnly then acc.graph.collisionEventCount s.registry
        else acc.graph.eventCount s.registry).sum := by
  induction ps generalizing acc with
  | nil => rfl
  | cons p ps ih =>
    let r := s.rules deltaTime acc.graph.entity p
    have hcounts (collisionsOnly : Bool) :
        (r.roots (s.runPass deltaTime acc p).graph collisionsOnly).length =
          (r.roots acc.graph collisionsOnly).length :=
      congrArg List.length (TickRules.roots_of_shape (s.shape_runPass deltaTime acc p))
    simp only [TickRules.length_roots] at hcounts
    rw [List.foldl_cons, ih, roots_runPass, List.map_cons, List.map_cons, List.sum_cons,
      Nat.add_assoc]
    exact congrArg _ (congrArg _ (congrArg List.sum (List.map_congr_left fun co _ => hcounts co)))

/-- One full pass, and one for every collision but the first. -/
lemma roots_tickGraph (acc : Progress σ) (g : Graph) :
    (s.tickGraph deltaTime collisions acc g).stats.roots = acc.stats.roots +
      (g.eventCount s.registry +
        g.collisionEventCount s.registry *
          ((Collision.partners g.entity collisions).length - 1)) := by
  have hfold := s.roots_foldl_runPass deltaTime (passes g.entity collisions)
    ⟨g, acc.scene, acc.stats, acc.log⟩
  rw [map_collisionsOnly_passes] at hfold
  refine hfold.trans ?_
  simp [Nat.mul_comm]

theorem roots_update (hplaying : s.mode = .playing) :
    (s.update deltaTime scene collisions).stats.roots =
      (s.store.graphs.values.map fun g => g.eventCount s.registry +
        g.collisionEventCount s.registry *
          ((Collision.partners g.entity collisions).length - 1)).sum := by
  have hfold (dt : Single) (graphs : List Graph) (acc : Progress σ) :
      (graphs.foldl (s.tickGraph dt collisions) acc).stats.roots = acc.stats.roots +
        (graphs.map fun g => g.eventCount s.registry +
          g.collisionEventCount s.registry *
            ((Collision.partners g.entity collisions).length - 1)).sum := by
    induction graphs generalizing acc with
    | nil => rfl
    | cons g graphs ih =>
      rw [List.foldl_cons, ih, roots_tickGraph, List.map_cons, List.sum_cons, Nat.add_assoc]
  rw [update, if_pos (show s.mode.isPlaying = true from decide_eq_true hplaying)]
  exact (hfold _ _ _).trans (Nat.zero_add _)

/-- The runs of a node in one pass. -/
noncomputable def passRuns (s : Session) (deltaTime : Single) (node : NodeId)
    (t : Pass × TickState σ) : List NodeRun :=
  (s.rules deltaTime t.2.graph.entity t.1).runsOf t.1.collisionsOnly t.2.graph t.2.scene node

/-- The runs of a node of an entity's graph in an update. -/
noncomputable def runsOf (s : Session) (deltaTime : Single) (scene : σ)
    (collisions : List Collision) (entity : EntityId) (node : NodeId) : List NodeRun :=
  ((s.updatePasses deltaTime scene collisions).filter fun t =>
    t.2.graph.entity = entity).flatMap (s.passRuns (s.settings.scaled deltaTime) node)

section Runs

variable (hplaying : s.mode = .playing)
  (hdistinct : (s.store.graphs.values.map Graph.entity).Nodup) (hg : g ∈ s.store.graphs.values)
include hplaying hdistinct hg

lemma runsOf_eq_flatMap (deltaTime : Single) (scene : σ) (collisions : List Collision)
    (node : NodeId) :
    ∃ acc : TickState σ, acc.graph = g ∧
      s.runsOf deltaTime scene collisions g.entity node =
        (s.passesFrom (s.settings.scaled deltaTime) acc (passes g.entity collisions)).flatMap
          (s.passRuns (s.settings.scaled deltaTime) node) := by
  obtain ⟨acc, hacc, hpasses⟩ := s.filter_passesOver (s.settings.scaled deltaTime) collisions
    hdistinct hg ⟨s.store, scene, .zero, #[]⟩
  refine ⟨acc, hacc, ?_⟩
  rw [runsOf, updatePasses, if_pos (show s.mode.isPlaying = true from decide_eq_true hplaying),
    hpasses]

variable {node : NodeId} {n : Node} {t : NodeType} (hwell : g.WellFormed)
  (hsize : g.nodes.slots.length ≤ 2 ^ 32) (hn : g.node? node = some n)
include hwell hsize hn

/-- An event that is not driven by collisions is a root of the first pass only. -/
theorem count_runsOf_event (ht : s.registry.lookup n.typeName = some t) (hevent : t.isEvent = true)
    (honce : t.collisionEvent = false) :
    ((s.runsOf deltaTime scene collisions g.entity node).map NodeRun.stack).count [node] = 1 := by
  obtain ⟨acc, rfl, hruns⟩ := runsOf_eq_flatMap hplaying hdistinct hg deltaTime scene collisions
    node
  have hpass (p : Pass) (u : TickState σ) (hu : u.graph.shape = acc.graph.shape) :
      ((s.passRuns (s.settings.scaled deltaTime) node (p, u)).map NodeRun.stack).count [node] =
        if p.collisionsOnly then 0 else 1 := by
    rw [passRuns, TickRules.count_runsOf (clampDepth_pos _), TickRules.roots_of_shape hu,
      TickRules.count_roots hwell hsize hn ht, hevent, honce]
    cases p.collisionsOnly <;> rfl
  have hcounts := s.map_passesFrom (s.settings.scaled deltaTime)
    (passes acc.graph.entity collisions)
    (f := fun t => ((s.passRuns (s.settings.scaled deltaTime) node t).map NodeRun.stack).count
      [node]) hpass
  have hfirst := congrArg (List.map fun co => if co then 0 else 1)
    (map_collisionsOnly_passes acc.graph.entity collisions)
  rw [List.map_map] at hfirst
  rw [hruns, List.map_flatMap, List.count_flatMap]
  refine (congrArg List.sum (hcounts.trans hfirst)).trans ?_
  simp

/-- A collision event is run once for each collision, or else once for nothing. -/
theorem runsOf_onCollision
    (ht : s.registry.lookup n.typeName = some Builtin.onCollision.nodeType)
    (hnone : ∀ c ∈ g.connections.values, c.target ≠ node) :
    s.runsOf deltaTime scene collisions g.entity node =
      (if Collision.partners g.entity collisions = [] then [none]
        else (Collision.partners g.entity collisions).map some).map fun other =>
          ⟨[node], .struckBy other⟩ := by
  obtain ⟨acc, rfl, hruns⟩ := runsOf_eq_flatMap hplaying hdistinct hg deltaTime scene collisions
    node
  have htype : acc.graph.typeOf? s.registry node = some Builtin.onCollision.nodeType :=
    Option.bind_eq_some_iff.mpr ⟨n, hn, ht⟩
  have hpass (p : Pass) (u : TickState σ) (hu : u.graph.shape = acc.graph.shape) :
      s.passRuns (s.settings.scaled deltaTime) node (p, u) =
        [⟨[node], .struckBy (p.collision.bind fun c => c.other? acc.graph.entity)⟩] := by
    have hentity : u.graph.entity = acc.graph.entity := congrArg GraphShape.entity hu
    have honly := TickRules.onlyRoot_onCollision
      (r := s.rules (s.settings.scaled deltaTime) acc.graph.entity p) htype hnone
    rw [passRuns, hentity]
    rw [TickRules.runsOf_eq_replicate (clampDepth_pos _) (honly.of_shape hu) fun v hv =>
      TickRules.invoke_onCollision ((Graph.typeOf?_of_shape (hv.trans hu) _ node).trans htype)]
    rw [TickRules.roots_of_shape hu, TickRules.count_roots hwell hsize hn ht]
    cases p.collisionsOnly <;> rfl
  have hpasses := s.map_passesFrom (s.settings.scaled deltaTime)
    (passes acc.graph.entity collisions) hpass
  rw [hruns, List.flatMap_def, hpasses, ← List.flatMap_def, ← map_collision_passes, List.map_map]
  exact List.map_eq_flatMap.symm

end Runs

lemma flatMap_filter_of_nil {α β : Type} {p : α → Bool} {f : α → List β} {l : List α}
    (h : ∀ a ∈ l, p a = false → f a = []) : (l.filter p).flatMap f = l.flatMap f := by
  induction l with
  | nil => rfl
  | cons a l ih =>
    obtain ⟨ha, hl⟩ := List.forall_mem_cons.mp h
    rw [List.filter_cons, List.flatMap_cons, ← ih hl]
    cases hp : p a with
    | true => rw [if_pos rfl, List.flatMap_cons]
    | false => rw [ha hp, if_neg Bool.false_ne_true, List.nil_append]

/-- The log of an update says of a collision event what each of its runs asked for, in order, if no
other graph goes by the id of its graph. -/
theorem outcomes_update {P : Graph → Prop} (hs : s.store.Holds P) (hplaying : s.mode = .playing)
    (hg : g ∈ s.store.graphs.values) {node : NodeId}
    (htype : g.typeOf? s.registry node = some Builtin.onCollision.nodeType)
    (hid : ∀ h ∈ s.store.graphs.values, h.id = g.id → h = g) :
    (s.update deltaTime scene collisions).log.toList.filterMap (LogEntry.outcomeOf? g.id node) =
      (s.runsOf deltaTime scene collisions g.entity node).map NodeRun.outcome := by
  have hmakes := makes_update hs hplaying deltaTime scene collisions
  have hpasses (t : Pass × TickState σ) (ht : t ∈ s.updatePasses deltaTime scene collisions) :
      ∃ h ∈ s.store.graphs.values, t.2.graph.shape = h.shape := by
    rw [updatePasses, if_pos (show s.mode.isPlaying = true from decide_eq_true hplaying)] at ht
    exact exists_of_mem_passesOver ht
  rw [hmakes.log_eq, List.nil_append, List.filterMap_flatMap, runsOf, List.map_flatMap,
    ← flatMap_filter_of_nil (p := fun t => t.2.graph.entity = g.entity)]
  · refine List.flatMap_congr fun t ht => ?_
    obtain ⟨hmem, hentity⟩ := List.mem_filter.mp ht
    obtain ⟨h, hh, hshape⟩ := hpasses t hmem
    have hsame : h.entity = g.entity :=
      (congrArg GraphShape.entity hshape).symm.trans (of_decide_eq_true hentity)
    obtain rfl : h = g := List.inj_on_of_nodup_map hs.nodup_entities hh hg hsame
    have hgraph : t.2.graph.id = h.id := congrArg GraphShape.id hshape
    rw [← hgraph]
    exact TickRules.outcomes_run _ t.1.collisionsOnly t.2.graph t.2.scene
      ((Graph.typeOf?_of_shape hshape _ node).trans htype)
  · intro t ht hentity
    obtain ⟨h, hh, hshape⟩ := hpasses t ht
    refine TickRules.outcomes_run_of_ne _ t.1.collisionsOnly t.2.graph t.2.scene
      (fun heq => ?_) node
    have hsame := hid h hh ((congrArg GraphShape.id hshape).symm.trans heq)
    exact of_decide_eq_false hentity ((congrArg GraphShape.entity hshape).trans (hsame ▸ rfl))

/-- In every session that plays, an update makes its passes one after another. It runs every event
as a root once and, in the graph of an entity, those driven by collisions once more for each
collision of the entity but the first; any event that is not driven by collisions is the root of one
run. A built-in collision event to which no connection leads is run for each collision of its entity
in their order and goes on with the other party, or is run once for nothing, and the log says so. No
connection leads to one in a graph whose connections were made while its type had no inputs. -/
theorem update_routes_collisions (registry : Registry) (settings : Settings) (calls : List Call)
    (deltaTime : Single) (scene : σ) (collisions : List Collision)
    (hplaying : (reached registry settings calls).mode = .playing) :
    let s := reached registry settings calls
    let ended := s.update deltaTime scene collisions
    s.Makes (s.settings.scaled deltaTime) ⟨s.store, scene, .zero, #[]⟩
      (s.updatePasses deltaTime scene collisions)
      ⟨ended.session.store, ended.scene, ended.stats, ended.log⟩ ∧
    ended.stats.roots =
      (s.store.graphs.values.map fun g => g.eventCount s.registry +
        g.collisionEventCount s.registry *
          ((Collision.partners g.entity collisions).length - 1)).sum ∧
    ∀ entity g, s.store.get? entity = some g → g.nodes.slots.length ≤ 2 ^ 32 →
      ∀ node n t, g.node? node = some n → s.registry.lookup n.typeName = some t →
        t.isEvent = true →
          let runs := s.runsOf deltaTime scene collisions entity node
          let partners := Collision.partners entity collisions
          (t.collisionEvent = false → (runs.map NodeRun.stack).count [node] = 1) ∧
          (t = Builtin.onCollision.nodeType →
            ((∀ h ∈ s.store.graphs.values, h.id = g.id → h = g) →
              ended.log.toList.filterMap (LogEntry.outcomeOf? g.id node) =
                runs.map NodeRun.outcome) ∧
            ((g.LinkedUnder fun registry => registry.Closes n.typeName) →
              ∀ c ∈ g.connections.values, c.target ≠ node) ∧
            ((∀ c ∈ g.connections.values, c.target ≠ node) →
              runs.length = max 1 partners.length ∧
              (runs.filter fun run => run.outcome ≠ .idle) =
                partners.map fun other => ⟨[node], .struckBy (some other)⟩)) := by
  intro s ended
  have hstore : s.store.Holds Graph.WellFormed :=
    (reached_holds_wellFormed registry settings calls).1
  have hdistinct : (s.store.graphs.values.map Graph.entity).Nodup := hstore.nodup_entities
  refine ⟨makes_update hstore hplaying deltaTime scene collisions, roots_update hplaying, ?_⟩
  intro entity g hget hsize node n t hn ht hevent runs partners
  obtain ⟨rfl, hwell⟩ := hstore.get? hget
  have hg : g ∈ s.store.graphs.values :=
    Table.mem_values.mpr ⟨g.entity, Table.find?_eq_some_iff.mp hget⟩
  refine ⟨fun honce => count_runsOf_event hplaying hdistinct hg hwell hsize hn ht hevent honce,
    fun hbuiltin => ?_⟩
  subst hbuiltin
  have htype : g.typeOf? s.registry node = some Builtin.onCollision.nodeType :=
    Option.bind_eq_some_iff.mpr ⟨n, hn, ht⟩
  refine ⟨outcomes_update hstore hplaying hg htype, fun hlinked => hlinked.target_ne hn,
    fun hnone => ?_⟩
  have hruns : runs = (if partners = [] then [none] else partners.map some).map fun other =>
      ⟨[node], .struckBy other⟩ :=
    runsOf_onCollision hplaying hdistinct hg hwell hsize hn ht hnone
  rw [hruns]
  cases partners with
  | nil => exact ⟨rfl, rfl⟩
  | cons other others => simp [Outcome.struckBy, List.filter_map, Function.comp_def]

/-- An entity prints what it collides with, and has an event of every tick besides. -/
def rammed : List Call :=
  [.createGraph default default, .addNode default "OnCollision" .zero,
    .addNode default "Print" .zero, .addNode default "OnUpdate" .zero,
    .connect default default ⟨0, 0⟩ "Exec" ⟨1, 0⟩ "Exec",
    .connect ⟨⟨1⟩⟩ default ⟨0, 0⟩ "otherObject" ⟨1, 0⟩ "Value", .play]

/-- The entity collides with two others, which collide with each other in between. -/
def pileUp : List Collision :=
  [⟨default, ⟨⟨1⟩⟩⟩, ⟨⟨⟨1⟩⟩, ⟨⟨2⟩⟩⟩, ⟨⟨⟨2⟩⟩, default⟩]

/-- The graph of the entity. -/
def rammedGraph : Graph :=
  ((reached .builtins .initial rammed).store.get? default).getD (.empty default default)

lemma closes_onCollision : Registry.builtins.Closes "OnCollision" := by
  intro t ht
  obtain ⟨b, hname, rfl⟩ := Registry.lookup_builtins.mp ht
  obtain rfl : b = .onCollision := by
    cases b <;> first | rfl | exact absurd hname (by decide)
  rfl

lemma linked_rammedGraph :
    rammedGraph.LinkedUnder fun registry => registry.Closes "OnCollision" := by
  let es : List Edit :=
    [.addNode .builtins "OnCollision" .zero, .addNode .builtins "Print" .zero,
      .addNode .builtins "OnUpdate" .zero,
      .connect .builtins default ⟨0, 0⟩ "Exec" ⟨1, 0⟩ "Exec",
      .connect .builtins ⟨⟨1⟩⟩ ⟨0, 0⟩ "otherObject" ⟨1, 0⟩ "Value"]
  have links : ∀ e ∈ es, e.LinksUnder fun registry => registry.Closes "OnCollision" := by
    simp [es, Edit.LinksUnder, closes_onCollision]
  have ok : es.foldlM Edit.apply (.empty default default) = .ok rammedGraph := by decide +kernel
  exact Graph.LinkedUnder.edits (.empty default default) links ok

theorem rammed_routes_collisions :
    (reached .builtins .initial rammed).mode = .playing ∧
    ((reached .builtins .initial rammed).update .one Scene.empty pileUp).stats.roots = 3 ∧
    (((reached .builtins .initial rammed).runsOf .one Scene.empty pileUp default ⟨2, 0⟩).map
      NodeRun.stack).count [⟨2, 0⟩] = 1 ∧
    ((reached .builtins .initial rammed).runsOf .one Scene.empty pileUp default ⟨0, 0⟩).length = 2 ∧
    (((reached .builtins .initial rammed).runsOf .one Scene.empty pileUp default ⟨0, 0⟩).filter
        fun run => run.outcome ≠ .idle) =
      [⟨[⟨0, 0⟩], .struckBy (some ⟨⟨1⟩⟩)⟩, ⟨[⟨0, 0⟩], .struckBy (some ⟨⟨2⟩⟩)⟩] ∧
    ((reached .builtins .initial rammed).update .one Scene.empty pileUp).log.toList.filterMap
        (LogEntry.outcomeOf? default ⟨0, 0⟩) =
      ((reached .builtins .initial rammed).runsOf .one Scene.empty pileUp default ⟨0, 0⟩).map
        NodeRun.outcome := by
  have hplaying : (reached .builtins .initial rammed).mode = .playing := by decide +kernel
  have hroots :
      ((reached .builtins .initial rammed).update .one Scene.empty pileUp).stats.roots = 3 := by
    decide +kernel
  have hg : (reached .builtins .initial rammed).store.get? default = some rammedGraph := by
    decide +kernel
  have hsize : rammedGraph.nodes.slots.length ≤ 2 ^ 32 := by decide +kernel
  have hid : ∀ h ∈ (reached .builtins .initial rammed).store.graphs.values,
      h.id = rammedGraph.id → h = rammedGraph := by
    decide +kernel
  have hupdate : rammedGraph.node? ⟨2, 0⟩ =
      some ⟨⟨2, 0⟩, "OnUpdate", .zero, .ofList [("deltaTime", .float .zero)]⟩ := by decide +kernel
  have hcollision : rammedGraph.node? ⟨0, 0⟩ =
      some ⟨⟨0, 0⟩, "OnCollision", .zero, .ofList [("otherObject", .object none)]⟩ := by
    decide +kernel
  have hregistry : (reached .builtins .initial rammed).registry = .builtins := rfl
  obtain ⟨-, -, hruns⟩ :=
    update_routes_collisions .builtins .initial rammed .one Scene.empty pileUp hplaying
  generalize reached .builtins .initial rammed = s at *
  have hlookup (b : Builtin) : s.registry.lookup b.typeName = some b.nodeType := by
    rw [hregistry]
    exact Registry.lookup_builtins.mpr ⟨b, rfl, rfl⟩
  obtain ⟨honce, -⟩ :=
    hruns default _ hg hsize ⟨2, 0⟩ _ _ hupdate (hlookup .onUpdate) rfl
  obtain ⟨-, htwice⟩ :=
    hruns default _ hg hsize ⟨0, 0⟩ _ _ hcollision (hlookup .onCollision) rfl
  obtain ⟨hlog, hlinked, hrouted⟩ := htwice rfl
  obtain ⟨hlength, hstruck⟩ := hrouted (hlinked linked_rammedGraph)
  exact ⟨hplaying, hroots, honce rfl, hlength.trans (by decide +kernel),
    hstruck.trans (by decide +kernel), hlog hid⟩

/-- A type by the name of the collision event has an input, to which an event of every tick is
connected; then the name is given back to the collision event. -/
def repurposed : List Call :=
  [.register (.execIn (.bare "OnCollision" .custom (.custom fun _ => pure .idle)) "Exec"),
    .createGraph default default, .addNode default "OnCollision" .zero,
    .addNode default "OnUpdate" .zero, .connect default default ⟨1, 0⟩ "Exec" ⟨0, 0⟩ "Exec",
    .register Builtin.onCollision.nodeType, .play]

/-- The graph of the entity. -/
def repurposedGraph : Graph :=
  ((reached .builtins .initial repurposed).store.get? default).getD (.empty default default)

/-- The connection has stayed, so a single collision makes the collision event run twice. -/
theorem repurposed_runs_twice :
    (reached .builtins .initial repurposed).mode = .playing ∧
    (reached .builtins .initial repurposed).store.get? default = some repurposedGraph ∧
    repurposedGraph.typeOf? (reached .builtins .initial repurposed).registry ⟨0, 0⟩ =
      some Builtin.onCollision.nodeType ∧
    Collision.partners default [⟨default, ⟨⟨1⟩⟩⟩] = [⟨⟨1⟩⟩] ∧
    ((reached .builtins .initial repurposed).update .one Scene.empty [⟨default, ⟨⟨1⟩⟩⟩]).stats =
      ⟨2, 3, 1, 0, 0⟩ ∧
    ((reached .builtins .initial repurposed).runsOf .one Scene.empty [⟨default, ⟨⟨1⟩⟩⟩] default
      ⟨0, 0⟩).length = 2 ∧
    2 ≠ max 1 (Collision.partners default [⟨default, ⟨⟨1⟩⟩⟩]).length := by
  have hplaying : (reached .builtins .initial repurposed).mode = .playing := by decide +kernel
  have hg : (reached .builtins .initial repurposed).store.get? default = some repurposedGraph := by
    decide +kernel
  have htype : repurposedGraph.typeOf? (reached .builtins .initial repurposed).registry ⟨0, 0⟩ =
      some Builtin.onCollision.nodeType := rfl
  have hmem : repurposedGraph ∈ (reached .builtins .initial repurposed).store.graphs.values := by
    decide +kernel
  have hid : ∀ h ∈ (reached .builtins .initial repurposed).store.graphs.values,
      h.id = repurposedGraph.id → h = repurposedGraph := by
    decide +kernel
  have hlogged : (((reached .builtins .initial repurposed).update .one Scene.empty
      [⟨default, ⟨⟨1⟩⟩⟩]).log.toList.filterMap
        (LogEntry.outcomeOf? repurposedGraph.id ⟨0, 0⟩)).length = 2 := by decide +kernel
  have hstore := (reached_holds_wellFormed .builtins .initial repurposed).1
  have hentity : repurposedGraph.entity = default := by decide +kernel
  rw [outcomes_update hstore hplaying hmem htype hid, List.length_map, hentity] at hlogged
  exact ⟨hplaying, hg, htype, by decide +kernel, by decide +kernel, hlogged, by decide +kernel⟩

end Session

end ScriptGraph
