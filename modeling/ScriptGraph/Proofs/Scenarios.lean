import ScriptGraph.Proofs.PlayMode
import ScriptGraph.Simulation

/-! Scenarios from their set-up to the end of play. The set-up edits the graphs of a session and
begins play last, so that the copy which play takes holds all graphs of the scenario. If the
settings make the session play before the set-up, the copy was taken by then, and it is empty. -/
namespace ScriptGraph

namespace Session

/-- The sessions differ in nothing but their graphs. -/
def Restocks (s t : Session) : Prop := ∃ store, t = { s with store := store }

namespace Restocks

variable {s t u : Session}

lemma refl (s : Session) : s.Restocks s := ⟨s.store, rfl⟩

lemma trans (h : s.Restocks t) (h' : t.Restocks u) : s.Restocks u := by
  obtain ⟨_, rfl⟩ := h
  obtain ⟨store, rfl⟩ := h'
  exact ⟨store, rfl⟩

lemma edit {α : Type} {entity : EntityId} {f : Graph → Except GraphError (α × Graph)} {a : α}
    (ok : s.edit entity f = .ok (a, t)) : s.Restocks t := by
  obtain ⟨_, _, _, _, rfl⟩ := edit_eq_ok ok
  exact ⟨_, rfl⟩

lemma amend {entity : EntityId} {f : Graph → Except GraphError Graph}
    (ok : s.amend entity f = .ok t) : s.Restocks t := by
  obtain ⟨_, _, _, _, rfl⟩ := amend_eq_ok ok
  exact ⟨_, rfl⟩

end Restocks

end Session

namespace Scenario

variable {names : Table String EntityId} {entity : EntityId} {s t : Session} {ids ids' : IdSource}

lemma edited_eq_ok {α : Type} {x : Except GraphError α} {a : α} :
    edited x = .ok a ↔ x = .ok a := by
  cases x <;> simp [edited]

lemma findEntity_eq_ok {name : String} {id : EntityId} :
    findEntity names name = .ok id ↔ names.find? name = some id := by
  unfold findEntity
  cases names.find? name <;> simp

lemma restocks_setValue {node : NodeId} {p : String × Value}
    (ok : setValue entity node s p = .ok t) : s.Restocks t := .amend (edited_eq_ok.mp ok)

lemma restocks_setObject {node : NodeId} {p : String × String}
    (ok : setObject names entity node s p = .ok t) : s.Restocks t := by
  obtain ⟨target, _, done⟩ := bind_eq_ok.mp ok
  exact .amend (edited_eq_ok.mp done)

lemma restocks_addNode {keys keys' : Table String NodeId} {n : NodePlan}
    (ok : addNode names entity (keys, s) n = .ok (keys', t)) : s.Restocks t := by
  obtain ⟨⟨id, added⟩, hadd, ok⟩ := bind_eq_ok.mp ok
  obtain ⟨valued, hvalues, ok⟩ := bind_eq_ok.mp ok
  obtain ⟨done, hobjects, ok⟩ := bind_eq_ok.mp ok
  obtain ⟨-, rfl⟩ := Prod.mk.inj (Except.ok.inj ok)
  have hadded : s.Restocks added := .edit (edited_eq_ok.mp hadd)
  have hvalued : s.Restocks valued :=
    foldlM_induction hadded (fun _ _ _ _ h ok => h.trans (restocks_setValue ok)) hvalues
  exact foldlM_induction hvalued (fun _ _ _ _ h ok => h.trans (restocks_setObject ok)) hobjects

lemma restocks_addLink {owner : String} {keys : Table String NodeId} {l : LinkPlan}
    (ok : addLink owner entity keys (s, ids) l = .ok (t, ids')) : s.Restocks t := by
  obtain ⟨source, _, ok⟩ := bind_eq_ok.mp ok
  obtain ⟨target, _, ok⟩ := bind_eq_ok.mp ok
  obtain ⟨linked, hlink, ok⟩ := bind_eq_ok.mp ok
  obtain ⟨rfl, -⟩ := Prod.mk.inj (Except.ok.inj ok)
  exact .amend (edited_eq_ok.mp hlink)

lemma restocks_addVariable {p : String × Value} (ok : addVariable entity s p = .ok t) :
    s.Restocks t := by
  obtain ⟨⟨_, done⟩, hset, ok⟩ := bind_eq_ok.mp ok
  obtain rfl := Except.ok.inj ok
  exact .edit (edited_eq_ok.mp hset)

/-- Setting up a graph changes nothing but graphs. -/
lemma restocks_addGraph {g : GraphPlan} (ok : addGraph names (s, ids) g = .ok (t, ids')) :
    s.Restocks t := by
  obtain ⟨entity, _, ok⟩ := bind_eq_ok.mp ok
  obtain ⟨created, hcreate, ok⟩ := bind_eq_ok.mp ok
  obtain ⟨⟨keys, filled⟩, hnodes, ok⟩ := bind_eq_ok.mp ok
  obtain ⟨⟨linked, ids⟩, hlinks, ok⟩ := bind_eq_ok.mp ok
  obtain ⟨done, hvars, ok⟩ := bind_eq_ok.mp ok
  obtain ⟨rfl, -⟩ := Prod.mk.inj (Except.ok.inj ok)
  have hcreated : s.Restocks created := by
    obtain ⟨store, _, rfl⟩ := Session.createGraph_eq_ok (edited_eq_ok.mp hcreate)
    exact ⟨store, rfl⟩
  have hfilled : s.Restocks filled :=
    foldlM_induction (P := fun acc : Table String NodeId × Session => s.Restocks acc.2) hcreated
      (fun _ _ _ _ h ok => h.trans (restocks_addNode ok)) hnodes
  have hlinked : s.Restocks linked :=
    foldlM_induction (P := fun acc : Session × IdSource => s.Restocks acc.1) hfilled
      (fun _ _ _ _ h ok => h.trans (restocks_addLink ok)) hlinks
  exact foldlM_induction hlinked (fun _ _ _ _ h ok => h.trans (restocks_addVariable ok)) hvars

variable {sc : Scenario} {sim : Simulation} {log : Log}

/-- The parts of a set-up that succeeds. It ends with the call to play. -/
lemma build_eq_ok_iff : sc.build ids = .ok (sim, log) ↔
    ∃ cast authored collisions,
      sc.entities.foldlM Cast.add ⟨.empty, .empty, ids⟩ = .ok cast ∧
      sc.graphs.foldlM (addGraph cast.names) ((Session.start .builtins sc.settings).1, cast.ids) =
        .ok authored ∧
      sc.collisions.mapM (resolveCollision cast.names) = .ok collisions ∧
      sim = ⟨(authored.1.after authored.1.play).1, cast.scene, cast.names, collisions,
        sc.deltaTime, 0⟩ ∧
      log = ((Session.start .builtins sc.settings).2 ++ (authored.1.after authored.1.play).2).push
        (.scenarioLoaded cast.names.size sim.session.store.graphs.size) := by
  constructor
  · intro ok
    obtain ⟨cast, hcast, ok⟩ := bind_eq_ok.mp ok
    obtain ⟨authored, hgraphs, ok⟩ := bind_eq_ok.mp ok
    obtain ⟨collisions, hcollisions, ok⟩ := bind_eq_ok.mp ok
    obtain ⟨rfl, rfl⟩ := Prod.mk.inj (Except.ok.inj ok)
    exact ⟨cast, authored, collisions, hcast, hgraphs, hcollisions, rfl, rfl⟩
  · rintro ⟨cast, authored, collisions, hcast, hgraphs, hcollisions, rfl, rfl⟩
    refine bind_eq_ok.mpr ⟨cast, hcast, bind_eq_ok.mpr ⟨authored, hgraphs, ?_⟩⟩
    exact bind_eq_ok.mpr ⟨collisions, hcollisions, rfl⟩

lemma restocks_addGraphs {names : Table String EntityId} {graphs : List GraphPlan}
    {authored : Session × IdSource}
    (ok : graphs.foldlM (addGraph names) (s, ids) = .ok authored) : s.Restocks authored.1 :=
  foldlM_induction (P := fun acc : Session × IdSource => s.Restocks acc.1) (.refl _)
    (fun _ _ _ _ h ok => h.trans (restocks_addGraph ok)) ok

/-- A simulation starts out playing. Its copy holds its graphs, unless the session played before it
had any. -/
theorem session_build (ok : sc.build ids = .ok (sim, log)) :
    sim.session.mode = .playing ∧
    sim.session.backup =
      some (if sc.settings.startPlaying then .empty else sim.session.store) := by
  obtain ⟨_, ⟨authored, _⟩, _, _, hgraphs, _, rfl, _⟩ := build_eq_ok_iff.mp ok
  obtain ⟨store, rfl⟩ := restocks_addGraphs hgraphs
  -- A session that plays already refuses the call to play and keeps the copy it took when it was
  -- opened, before there were graphs.
  cases hplay : sc.settings.startPlaying <;>
    simp [Session.start, Session.idle, Session.after, Session.play, hplay]

end Scenario

namespace Simulation

/-- What a tick keeps, ticks made one after another keep. -/
lemma continue_induction {M : Simulation → Prop} (hstep : ∀ s, M s → M s.step.simulation) {r : Run}
    (hr : M r.simulation) (n : Nat) : M (r.continue n).simulation := by
  induction n generalizing r with
  | zero => exact hr
  | succ n ih => exact ih (hstep r.simulation hr)

lemma session_continue (r : Run) (n : Nat) :
    (r.continue n).simulation.session.mode = r.simulation.session.mode ∧
    (r.continue n).simulation.session.backup = r.simulation.session.backup := by
  refine continue_induction (M := fun s => s.session.mode = r.simulation.session.mode ∧
    s.session.backup = r.simulation.session.backup) ?_ ⟨rfl, rfl⟩ n
  rintro s ⟨hmode, hbackup⟩
  exact ⟨(Session.mode_update _ _ _ _).trans hmode, (Session.backup_update _ _ _ _).trans hbackup⟩

end Simulation

/-- A scenario was set up and has run for any number of ticks: a stop is carried out and brings back
the graphs as they were set up. If the settings made the session play before the set-up, it takes
all graphs away. -/
theorem Scenario.stop_run_build {sc : Scenario} {ids : IdSource} {sim : Simulation} {log : Log}
    (ok : sc.build ids = .ok (sim, log)) (n : Nat) :
    ∃ t entry, (sim.run n).simulation.session.stop = some (t, entry) ∧
      t.store = if sc.settings.startPlaying then .empty else sim.session.store := by
  obtain ⟨hmode, hbackup⟩ := session_build ok
  obtain ⟨hmode', hbackup'⟩ := Simulation.session_continue ⟨sim, .zero, #[]⟩ n
  refine Session.stop_of_active ?_ (hbackup'.trans hbackup)
  rw [Simulation.run, hmode', hmode]
  decide

/-- What each graph of a session holds as its count of hits. -/
def Session.hits (s : Session) : List (Option Value) :=
  s.store.graphs.values.map fun g => g.vars.find? "hits"

/-- The sample counts a hit in its run, which a stop takes back. -/
theorem Scenario.stop_run_sample :
    ∃ sim log, sample.build .counting = .ok (sim, log) ∧ sim.session.hits = [some (.int 0)] ∧
      (sim.run 31).simulation.session.hits = [some (.int 1)] ∧
      ∃ t entry, (sim.run 31).simulation.session.stop = some (t, entry) ∧
        t.store = sim.session.store := by
  have hbefore : (sample.build .counting).toOption.map (fun e => e.1.session.hits) =
      some [some (.int 0)] := by decide +kernel
  have hafter : (sample.build .counting).toOption.map
      (fun e => (e.1.run 31).simulation.session.hits) = some [some (.int 1)] := by decide +kernel
  cases hbuild : sample.build .counting with
  | error e =>
    rw [hbuild] at hbefore
    cases hbefore
  | ok e =>
    obtain ⟨sim, log⟩ := e
    rw [hbuild] at hbefore hafter
    exact ⟨sim, log, rfl, Option.some.inj hbefore, Option.some.inj hafter,
      stop_run_build hbuild 31⟩

/-- The sample in a session that plays as soon as it is opened. -/
def Scenario.eagerSample : Scenario :=
  { sample with settings := { Settings.initial with startPlaying := true } }

theorem Scenario.stop_eagerSample :
    (eagerSample.build .counting).toOption.map (fun e => e.1.session.hits) =
      some [some (.int 0)] ∧
    (eagerSample.build .counting).toOption.bind
      (fun e => (e.1.run 1).simulation.session.stop.map fun r => r.1.hits) = some [] ∧
    ¬ ∀ (sc : Scenario) (ids : IdSource) (sim : Simulation) (log : Log) (n : Nat),
      sc.build ids = .ok (sim, log) →
        ∃ t entry, (sim.run n).simulation.session.stop = some (t, entry) ∧
          t.store = sim.session.store := by
  have hbefore : (eagerSample.build .counting).toOption.map (fun e => e.1.session.hits) =
      some [some (.int 0)] := by decide +kernel
  have hafter : (eagerSample.build .counting).toOption.bind
      (fun e => (e.1.run 1).simulation.session.stop.map fun r => r.1.hits) = some [] := by
    decide +kernel
  refine ⟨hbefore, hafter, fun hall => ?_⟩
  cases hbuild : eagerSample.build .counting with
  | error e =>
    rw [hbuild] at hbefore
    cases hbefore
  | ok e =>
    obtain ⟨sim, log⟩ := e
    obtain ⟨t, entry, hstop, hstore⟩ := hall _ _ sim log 1 hbuild
    rw [hbuild] at hbefore hafter
    have hkept : sim.session.hits = [some (.int 0)] := Option.some.inj hbefore
    have hlost : t.hits = [] := by
      simpa [Except.toOption, hstop] using hafter
    have hsame : t.hits = sim.session.hits := by rw [Session.hits, Session.hits, hstore]
    simp [hlost, hkept] at hsame

end ScriptGraph
