import ScriptGraph.Proofs.Calls

/-! One update of a session, taken apart into its passes over the graphs. What the session's
registry upholds, an update keeps in every graph. -/
namespace ScriptGraph

variable {σ : Type} [Host σ]

namespace TickStats

@[simp] lemma zero_add (a : TickStats) : zero.add a = a := by simp [add, zero]

@[simp] lemma add_zero (a : TickStats) : a.add zero = a := rfl

lemma add_assoc (a b c : TickStats) : (a.add b).add c = a.add (b.add c) := by
  simp [add, Nat.add_assoc]

lemma add_comm (a b : TickStats) : a.add b = b.add a := by simp [add, Nat.add_comm]

end TickStats

namespace Session

variable {P : Graph → Prop} {s : Session}

/-- What a pass comes to from the state that it finds. -/
def passEnd (s : Session) (deltaTime : Single) (t : Pass × TickState σ) : TickState σ :=
  (s.rules deltaTime t.2.graph.entity t.1).run t.1.collisionsOnly t.2.graph t.2.scene

/-- What an update has done once it has made another pass. -/
def afterPass (s : Session) (deltaTime : Single) (done : Progress σ) (t : Pass × TickState σ) :
    Progress σ :=
  let ended := s.passEnd deltaTime t
  ⟨done.store.modify t.2.graph.entity fun _ => ended.graph, ended.scene,
    done.stats.add ended.stats, done.log ++ ended.log⟩

/-- Passes are made one after another. Each finds a graph as it is stored by then, and the scene as
it is by then. -/
inductive Makes (s : Session) (deltaTime : Single) :
    Progress σ → List (Pass × TickState σ) → Progress σ → Prop
  | nil {done} : Makes s deltaTime done [] done
  | cons {done p found rest last} (stored : done.store.get? found.graph.entity = some found.graph)
      (here : found.scene = done.scene)
      (others : Makes s deltaTime (s.afterPass deltaTime done (p, found)) rest last) :
      Makes s deltaTime done ((p, found) :: rest) last

/-- The passes over one graph, each with the state that it finds. -/
def passesFrom (s : Session) (deltaTime : Single) (acc : TickState σ) :
    List Pass → List (Pass × TickState σ)
  | [] => []
  | p :: rest => (p, acc) :: s.passesFrom deltaTime (s.runPass deltaTime acc p) rest

/-- The passes over several graphs. -/
def passesOver (s : Session) (deltaTime : Single) (collisions : List Collision) (acc : Progress σ) :
    List Graph → List (Pass × TickState σ)
  | [] => []
  | g :: rest =>
    s.passesFrom deltaTime ⟨g, acc.scene, acc.stats, acc.log⟩ (passes g.entity collisions) ++
      s.passesOver deltaTime collisions (s.tickGraph deltaTime collisions acc g) rest

/-- All passes of an update. They are what it makes (`makes_update`). -/
def updatePasses (s : Session) (deltaTime : Single) (scene : σ) (collisions : List Collision) :
    List (Pass × TickState σ) :=
  if s.mode.isPlaying then
    s.passesOver (s.settings.scaled deltaTime) collisions ⟨s.store, scene, .zero, #[]⟩
      s.store.graphs.values
  else []

/-- An update goes through a moment, under the rules of one of its passes. -/
def GoesThrough (s : Session) (deltaTime : Single) (scene : σ) (collisions : List Collision)
    (r : TickRules) (m : Moment σ) : Prop :=
  ∃ p acc, (p, acc) ∈ s.updatePasses deltaTime scene collisions ∧
    r = s.rules (s.settings.scaled deltaTime) acc.graph.entity p ∧
    ∃ ms, Walks r (.roots (r.roots acc.graph p.collisionsOnly))
        ⟨[], TickRules.start acc.graph acc.scene⟩ ms
        ⟨[], r.run p.collisionsOnly acc.graph acc.scene⟩ ∧ m ∈ ms

/-- Only a session that plays goes through moments, and all of them in the same frame. -/
lemma GoesThrough.rules {deltaTime : Single} {scene : σ} {collisions : List Collision}
    {r : TickRules} {m : Moment σ} (h : s.GoesThrough deltaTime scene collisions r m) :
    s.mode = .playing ∧ r.registry = s.registry ∧ r.context.frame = s.frame := by
  obtain ⟨p, acc, hpass, rfl, -⟩ := h
  unfold updatePasses at hpass
  split at hpass
  · next hm => exact ⟨of_decide_eq_true hm, rfl, rfl⟩
  · cases hpass

section Frame

variable (s) (deltaTime : Single) (scene : σ) (collisions : List Collision)

@[simp] lemma registry_update :
    (s.update deltaTime scene collisions).session.registry = s.registry := by
  unfold update; split <;> rfl

@[simp] lemma mode_update : (s.update deltaTime scene collisions).session.mode = s.mode := by
  unfold update; split <;> rfl

@[simp] lemma backup_update : (s.update deltaTime scene collisions).session.backup = s.backup := by
  unfold update; split <;> rfl

lemma frame_update : (s.update deltaTime scene collisions).session.frame =
    s.frame + if s.mode = .playing then 1 else 0 := by
  by_cases hm : s.mode = .playing
  · simp [update, PlayMode.isPlaying, hm]
  · simp [update, PlayMode.isPlaying, hm]

end Frame

/-- What a pass keeps of a graph and its scene, passes keep that are made one after another. -/
lemma foldl_runPass_induction {M : Graph → σ → Prop} {deltaTime : Single}
    (hpass : ∀ (r : TickRules) collisionsOnly g scene, r.registry = s.registry → M g scene →
      M (r.run collisionsOnly g scene).graph (r.run collisionsOnly g scene).scene)
    (ps : List Pass) {acc : TickState σ} (hacc : M acc.graph acc.scene) :
    M (ps.foldl (s.runPass deltaTime) acc).graph (ps.foldl (s.runPass deltaTime) acc).scene := by
  induction ps generalizing acc with
  | nil => exact hacc
  | cons p ps ih =>
    exact ih (hpass (s.rules deltaTime acc.graph.entity p) p.collisionsOnly _ _ rfl hacc)

lemma foldl_runPass (hP : s.registry.Upholds P) (deltaTime : Single) (ps : List Pass)
    (acc : TickState σ) (hacc : P acc.graph) :
    P (ps.foldl (s.runPass deltaTime) acc).graph ∧
      (ps.foldl (s.runPass deltaTime) acc).graph.entity = acc.graph.entity :=
  foldl_runPass_induction (M := fun g _ => P g ∧ g.entity = acc.graph.entity)
    (fun r collisionsOnly g scene hr hg => ⟨hP.tick r collisionsOnly scene hr hg.1,
      (r.entity_run collisionsOnly g scene).trans hg.2⟩) ps ⟨hacc, rfl⟩

theorem holds_update (hP : s.registry.Upholds P) (hs : s.store.Holds P) (deltaTime : Single)
    (scene : σ) (collisions : List Collision) :
    (s.update deltaTime scene collisions).session.store.Holds P := by
  -- The graphs are ticked as they were before the update, while the store changes under way.
  have hfold (dt : Single) (graphs : List Graph) (hgraphs : ∀ g ∈ graphs, P g) (acc : Progress σ)
      (hacc : acc.store.Holds P) :
      (graphs.foldl (s.tickGraph dt collisions) acc).store.Holds P := by
    induction graphs generalizing acc with
    | nil => exact hacc
    | cons g graphs ih =>
      obtain ⟨hg, hrest⟩ := List.forall_mem_cons.mp hgraphs
      refine ih hrest _ ?_
      obtain ⟨hend, hentity⟩ := foldl_runPass hP dt (passes g.entity collisions)
        ⟨g, acc.scene, acc.stats, acc.log⟩ hg
      exact hacc.modify hentity hend
  unfold update
  split
  · refine hfold _ _ (fun g hg => ?_) _ hs
    obtain ⟨entity, hmem⟩ := Table.mem_values.mp hg
    exact (hs entity g hmem).2
  · exact hs

section Alone

variable {deltaTime : Single} {collisions : List Collision} {Q : σ → Prop}
  {R : Graph → Graph → Prop}

lemma shape_runPass (s : Session) (deltaTime : Single) (acc : TickState σ) (p : Pass) :
    (s.runPass deltaTime acc p).graph.shape = acc.graph.shape :=
  TickRules.shape_run _ p.collisionsOnly acc.graph acc.scene

/-- What an update makes of one graph that finds this scene. -/
def ticked (s : Session) (deltaTime : Single) (collisions : List Collision) (scene : σ)
    (g : Graph) : TickState σ :=
  (passes g.entity collisions).foldl (s.runPass deltaTime) ⟨g, scene, .zero, #[]⟩

/-- Passes add to counters and log without looking at them. -/
lemma foldl_runPass_eq (s : Session) (deltaTime : Single) (ps : List Pass) (acc : TickState σ) :
    ps.foldl (s.runPass deltaTime) acc =
      let ended := ps.foldl (s.runPass deltaTime) ⟨acc.graph, acc.scene, .zero, #[]⟩
      ⟨ended.graph, ended.scene, acc.stats.add ended.stats, acc.log ++ ended.log⟩ := by
  induction ps generalizing acc with
  | nil => simp
  | cons p ps ih =>
    rw [List.foldl_cons, List.foldl_cons, ih, ih (s.runPass deltaTime _ p)]
    simp [runPass, TickStats.add_assoc]

lemma tickGraph_eq (s : Session) (deltaTime : Single) (collisions : List Collision)
    (acc : Progress σ) (g : Graph) :
    s.tickGraph deltaTime collisions acc g =
      let ended := s.ticked deltaTime collisions acc.scene g
      ⟨acc.store.modify g.entity fun _ => ended.graph, ended.scene, acc.stats.add ended.stats,
        acc.log ++ ended.log⟩ := by
  rw [tickGraph, foldl_runPass_eq]
  rfl

namespace Makes

variable {first done last : Progress σ} {ts us : List (Pass × TickState σ)}

lemma append (h : s.Makes deltaTime first ts done) (k : s.Makes deltaTime done us last) :
    s.Makes deltaTime first (ts ++ us) last := by
  induction h with
  | nil => exact k
  | cons stored here _ ih => exact .cons stored here (ih k)

/-- The log of passes is what they log one after another. -/
lemma log_eq (h : s.Makes deltaTime first ts last) :
    last.log.toList =
      first.log.toList ++ ts.flatMap fun t => (s.passEnd deltaTime t).log.toList := by
  induction h with
  | nil => simp
  | cons _ _ _ ih => simp [ih, afterPass]

end Makes

lemma entity_passEnd (s : Session) (deltaTime : Single) (t : Pass × TickState σ) :
    (s.passEnd deltaTime t).graph.entity = t.2.graph.entity :=
  TickRules.entity_run _ t.1.collisionsOnly t.2.graph t.2.scene

/-- The passes over a stored graph leave what they come to in its place. -/
lemma makes_passesFrom (s : Session) (deltaTime : Single) (p : Pass) (ps : List Pass)
    {acc : TickState σ} {store : Store} (hstored : store.get? acc.graph.entity = some acc.graph) :
    s.Makes deltaTime ⟨store, acc.scene, acc.stats, acc.log⟩
      (s.passesFrom deltaTime acc (p :: ps))
      (let ended := (p :: ps).foldl (s.runPass deltaTime) acc
      ⟨store.modify acc.graph.entity fun _ => ended.graph, ended.scene, ended.stats,
        ended.log⟩) := by
  induction ps generalizing p acc store with
  | nil => exact .cons hstored rfl .nil
  | cons q ps ih =>
    let next := s.runPass deltaTime acc p
    have hentity : next.graph.entity = acc.graph.entity := s.entity_passEnd deltaTime (p, acc)
    have hnext : (store.modify acc.graph.entity fun _ => next.graph).get? next.graph.entity =
        some next.graph := by
      rw [hentity, Store.get?_modify, if_pos rfl, hstored]
      rfl
    have hrest := ih q hnext
    simp only [hentity, Store.modify_modify] at hrest
    exact .cons hstored rfl hrest

lemma makes_tickGraph (s : Session) (deltaTime : Single) (collisions : List Collision)
    {acc : Progress σ} {g : Graph} (hstored : acc.store.get? g.entity = some g) :
    s.Makes deltaTime acc
      (s.passesFrom deltaTime ⟨g, acc.scene, acc.stats, acc.log⟩ (passes g.entity collisions))
      (s.tickGraph deltaTime collisions acc g) := by
  have hsome : passes g.entity collisions ≠ [] := by
    unfold passes
    split <;> nofun
  obtain ⟨p, ps, hpasses⟩ := List.exists_cons_of_ne_nil hsome
  let found : TickState σ := ⟨g, acc.scene, acc.stats, acc.log⟩
  have hfound : acc.store.get? found.graph.entity = some found.graph := hstored
  rw [tickGraph, hpasses]
  exact s.makes_passesFrom deltaTime p ps hfound

lemma makes_passesOver (s : Session) (deltaTime : Single) (collisions : List Collision)
    {graphs : List Graph} (hdistinct : (graphs.map Graph.entity).Nodup) {acc : Progress σ}
    (hstored : ∀ g ∈ graphs, acc.store.get? g.entity = some g) :
    s.Makes deltaTime acc (s.passesOver deltaTime collisions acc graphs)
      (graphs.foldl (s.tickGraph deltaTime collisions) acc) := by
  induction graphs generalizing acc with
  | nil => exact .nil
  | cons g graphs ih =>
    rw [List.map_cons, List.nodup_cons] at hdistinct
    obtain ⟨hg, hrest⟩ := List.forall_mem_cons.mp hstored
    refine (s.makes_tickGraph deltaTime collisions hg).append (ih hdistinct.2 fun h hh => ?_)
    have hne : h.entity ≠ g.entity := fun he => hdistinct.1 (he ▸ List.mem_map_of_mem hh)
    rw [tickGraph_eq, Store.get?_modify, if_neg hne, hrest h hh]

/-- An update makes its passes, and is over when they are. -/
theorem makes_update (hs : s.store.Holds P) (hmode : s.mode = .playing) (deltaTime : Single)
    (scene : σ) (collisions : List Collision) :
    let ended := s.update deltaTime scene collisions
    s.Makes (s.settings.scaled deltaTime) ⟨s.store, scene, .zero, #[]⟩
      (s.updatePasses deltaTime scene collisions)
      ⟨ended.session.store, ended.scene, ended.stats, ended.log⟩ := by
  have hplays : s.mode.isPlaying = true := decide_eq_true hmode
  have hstored (g : Graph) (hg : g ∈ s.store.graphs.values) : s.store.get? g.entity = some g := by
    obtain ⟨entity, hmem⟩ := Table.mem_values.mp hg
    obtain rfl := (hs entity g hmem).1
    exact Table.find?_eq_some_iff.mpr hmem
  rw [updatePasses, update, if_pos hplays, if_pos hplays]
  exact s.makes_passesOver (s.settings.scaled deltaTime) collisions hs.nodup_entities hstored

/-- What holds of the scene between graphs, and between each graph and what is made of it where
that holds, holds after all of them. -/
lemma foldl_tickGraph {graphs : List Graph} (hdistinct : (graphs.map Graph.entity).Nodup)
    (hstep : ∀ g ∈ graphs, ∀ scene, Q scene →
      Q (s.ticked deltaTime collisions scene g).scene ∧
        R g (s.ticked deltaTime collisions scene g).graph)
    {acc : Progress σ} (hacc : Q acc.scene) :
    let ended := graphs.foldl (s.tickGraph deltaTime collisions) acc
    Q ended.scene ∧ ended.store.graphs.keys = acc.store.graphs.keys ∧
      (∀ entity, entity ∉ graphs.map Graph.entity →
        ended.store.get? entity = acc.store.get? entity) ∧
      ∀ g ∈ graphs, (acc.store.get? g.entity).isSome →
        ∃ h, ended.store.get? g.entity = some h ∧ R g h := by
  induction graphs generalizing acc with
  | nil => exact ⟨hacc, rfl, fun _ _ => rfl, nofun⟩
  | cons g graphs ih =>
    rw [List.map_cons, List.nodup_cons] at hdistinct
    obtain ⟨hg, hrest⟩ := List.forall_mem_cons.mp hstep
    obtain ⟨hscene, hgraph⟩ := hg acc.scene hacc
    let next := s.tickGraph deltaTime collisions acc g
    have hnext : next.store = acc.store.modify g.entity fun _ =>
        (s.ticked deltaTime collisions acc.scene g).graph := by
      simp only [next, tickGraph_eq]
    have hQ : Q next.scene := by simpa only [next, tickGraph_eq] using hscene
    obtain ⟨hend, hkeys, hothers, hgraphs⟩ := ih hdistinct.2 hrest hQ
    refine ⟨hend, ?_, ?_, List.forall_mem_cons.mpr ⟨?_, ?_⟩⟩
    · rw [List.foldl_cons, hkeys, hnext, Store.modify, Table.keys_modify]
    · intro entity hnot
      rw [List.map_cons, List.mem_cons, not_or] at hnot
      rw [List.foldl_cons, hothers entity hnot.2, hnext, Store.get?_modify, if_neg hnot.1]
    · intro hsome
      obtain ⟨old, hold⟩ := Option.isSome_iff_exists.mp hsome
      refine ⟨_, ?_, hgraph⟩
      rw [List.foldl_cons, hothers g.entity hdistinct.1, hnext, Store.get?_modify, if_pos rfl, hold]
      rfl
    · intro k hk hsome
      refine hgraphs k hk ?_
      rw [hnext, Store.get?_modify]
      split <;> simpa using hsome

/-- The same for an update. No graph comes or goes. -/
theorem graphs_update (hs : s.store.Holds P) (hmode : s.mode = .playing)
    (hstep : ∀ g scene, P g → Q scene →
      Q (s.ticked (s.settings.scaled deltaTime) collisions scene g).scene ∧
        R g (s.ticked (s.settings.scaled deltaTime) collisions scene g).graph)
    {scene : σ} (hscene : Q scene) :
    let ended := s.update deltaTime scene collisions
    Q ended.scene ∧ ended.session.store.graphs.keys = s.store.graphs.keys ∧
      ∀ entity g, s.store.get? entity = some g →
        ∃ h, ended.session.store.get? entity = some h ∧ R g h := by
  have hthose (g : Graph) (hg : g ∈ s.store.graphs.values) : P g := by
    obtain ⟨entity, hmem⟩ := Table.mem_values.mp hg
    exact (hs entity g hmem).2
  have hfirst : Q (Progress.mk s.store scene .zero #[]).scene := hscene
  obtain ⟨hend, hkeys, -, hgraphs⟩ := foldl_tickGraph hs.nodup_entities
    (fun g hg scene => hstep g scene (hthose g hg)) hfirst
  simp only [update, PlayMode.isPlaying, hmode, decide_true, if_true]
  refine ⟨hend, hkeys, fun entity g hg => ?_⟩
  have hmem := Table.find?_eq_some_iff.mp hg
  obtain rfl := (hs entity g hmem).1
  exact hgraphs g (Table.mem_values.mpr ⟨_, hmem⟩) (by rw [hg]; rfl)

end Alone

variable {c : Call} {t : Session}

/-- A call that registers nothing keeps in every stored graph what the registry upholds; where play
ends, the copy must have had it. -/
theorem Step.holds_store (h : s.Step c t) (hc : c.isRegister = false) (hP : s.registry.Upholds P)
    (hs : s.store.Holds P)
    (hb : t.mode = .stopped → ∀ backup, s.backup = some backup → backup.Holds P) :
    t.store.Holds P := by
  cases h with
  | begins | resumes | pauses | rescales | nothing => exact hs
  | stops =>
    cases hbackup : s.backup with
    | none => simpa [hbackup] using hs
    | some backup => simpa [hbackup] using hb rfl backup hbackup
  | ticks => exact holds_update hP hs _ _ _
  | registers => cases hc
  | changes _ change => exact hs.change hP change

/-- The copy holds what it held, or what the graphs held when it was taken. -/
theorem Step.holds_backup (h : s.Step c t) (hs : s.store.Holds P)
    (hb : ∀ backup, s.backup = some backup → backup.Holds P) :
    ∀ backup, t.backup = some backup → backup.Holds P := by
  cases h with
  | begins =>
    rintro backup ⟨⟩
    exact hs
  | stops => nofun
  | ticks =>
    rw [backup_update]
    exact hb
  | resumes | pauses | registers | rescales | changes | nothing => exact hb

lemma Step.registry_eq (h : s.Step c t) (hc : c.isRegister = false) : t.registry = s.registry := by
  cases h with
  | registers => cases hc
  | ticks => exact registry_update s _ _ _
  | begins | resumes | pauses | stops | rescales | changes | nothing => rfl

end Session

end ScriptGraph
