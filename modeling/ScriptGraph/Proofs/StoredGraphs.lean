import ScriptGraph.Proofs.Update

/-! Every graph that a store or a session comes to hold could have come about by itself, so it is
well formed, and it stands under its own entity. The same is true of the copy that a session keeps
during play. -/
namespace ScriptGraph

namespace Session

theorem reached_holds_reachable (registry : Registry) (settings : Settings) (calls : List Call) :
    (reached registry settings calls).Holds Graph.Reachable := by
  refine reached_induction (holds_start Graph.Reachable registry settings) ?_ calls
  rintro s c t ⟨hs, hb⟩ h
  refine ⟨?_, h.holds_backup hs hb⟩
  cases hc : c.isRegister with
  | false => exact h.holds_store hc s.registry.upholds_reachable hs fun _ => hb
  | true =>
    cases h with
    | registers type => exact hs.reseed fun g hg => hg.edit (.reseed _) rfl
    | changes plain | nothing _ plain => simp_all
    | begins | resumes | pauses | stops | ticks | rescales => cases hc

theorem reached_holds_wellFormed (registry : Registry) (settings : Settings) (calls : List Call) :
    (reached registry settings calls).Holds Graph.WellFormed := by
  obtain ⟨hstore, hbackup⟩ := reached_holds_reachable registry settings calls
  exact ⟨hstore.mono fun _ hg => hg.wellFormed,
    fun backup hb => (hbackup backup hb).mono fun _ hg => hg.wellFormed⟩

end Session

/-- In every store that can come about, and in the store and the copy of every session, each graph
stands under its own entity and is well formed. -/
theorem stored_graphs_wellFormed :
    (∀ s : Store, s.Reachable → s.Holds Graph.WellFormed) ∧
    ∀ (registry : Registry) (settings : Settings) (calls : List Call),
      (Session.reached registry settings calls).Holds Graph.WellFormed :=
  ⟨fun _ hs => hs.holds.mono fun _ hg => hg.wellFormed, Session.reached_holds_wellFormed⟩

/-- A start event is connected to a print and removed, which vacates its slot; during play an update
event takes the slot and is connected to the same print. -/
def Session.recast : List Call :=
  [.createGraph default default, .addNode default "OnStart" .zero, .addNode default "Print" .zero,
    .connect default default ⟨0, 0⟩ "Exec" ⟨1, 0⟩ "Exec", .removeNode default ⟨0, 0⟩, .play,
    .addNode default "OnUpdate" .zero, .connect default default ⟨0, 1⟩ "Exec" ⟨1, 0⟩ "Exec",
    .update .one Scene.empty []]

theorem recast_wellFormed :
    ((Session.reached .builtins .initial Session.recast).store.graphs.values.map fun g =>
      (g.nodes.free, g.nodes.nodes.map Node.id, g.connections.size)) =
        [([], [⟨0, 1⟩, ⟨1, 0⟩], 1)] ∧
    ((Session.reached .builtins .initial Session.recast).backup.map fun s =>
      s.graphs.values.map fun g => (g.nodes.free, g.nodes.nodes.map Node.id, g.connections.size)) =
        some [([0], [⟨1, 0⟩], 0)] ∧
    (Session.reached .builtins .initial Session.recast).Holds Graph.WellFormed ∧
    (Store.empty.replace default default).Reachable ∧
    (Store.empty.replace default default).Holds Graph.WellFormed := by
  have hs : (Store.empty.replace default default).Reachable :=
    .change .empty .builtins (.replace default default)
  exact ⟨by decide +kernel, by decide +kernel,
    stored_graphs_wellFormed.2 .builtins .initial Session.recast, hs,
    stored_graphs_wellFormed.1 _ hs⟩

end ScriptGraph
