import ScriptGraph.Proofs.PlayMode
import ScriptGraph.Proofs.RoundTrip
import ScriptGraph.Proofs.StoredGraphs

/-! Nodes hold the properties that their types declare. Types may be registered anew at any time,
and a registration brings the stored graphs in line, but not the copy that a session keeps during
play. So the rule holds of every node but those of a type that was registered during a play that has
ended, as long as the same is true of whatever was registered since. -/
namespace ScriptGraph

/-- If the type of the node is known, it declares the node's properties and no others, in their
order. -/
def Node.Declared (registry : Registry) (n : Node) : Prop :=
  ∀ t, registry.lookup n.typeName = some t → n.properties.keys = t.properties.keys

def Graph.Declared (registry : Registry) (g : Graph) : Prop :=
  ∀ n ∈ g.nodes.nodes, n.Declared registry

/-- The same of all nodes but those of the exempt types. -/
def Graph.DeclaredBut (exempt : String → Prop) (registry : Registry) (g : Graph) : Prop :=
  ∀ n ∈ g.nodes.nodes, exempt n.typeName ∨ n.Declared registry

instance (registry : Registry) (n : Node) : Decidable (n.Declared registry) :=
  decidable_of_iff (∀ t ∈ registry.lookup n.typeName, n.properties.keys = t.properties.keys) .rfl

instance (registry : Registry) : DecidablePred (Graph.Declared registry) :=
  fun g => inferInstanceAs (Decidable (∀ n ∈ g.nodes.nodes, n.Declared registry))

instance (P : Graph → Prop) [DecidablePred P] (s : Store) : Decidable (s.Holds P) :=
  decidable_of_iff (∀ e ∈ s.graphs.entries, e.2.entity = e.1 ∧ P e.2) (by simp [Store.Holds])

namespace Node.Declared

variable {registry : Registry} {m n : Node}

lemma of_shape (hn : n.Declared registry) (hs : m.shape = n.shape) : m.Declared registry := by
  intro t ht
  have htype : m.typeName = n.typeName := congrArg NodeShape.typeName hs
  have hkeys : m.properties.keys = n.properties.keys := congrArg NodeShape.keys hs
  rw [htype] at ht
  exact hkeys.trans (hn t ht)

lemma refreshNode (registry : Registry) (n : Node) :
    (Snapshot.refreshNode registry n).Declared registry := by
  intro t ht
  rw [Snapshot.typeName_refreshNode] at ht
  simp [Snapshot.refreshNode, ht]

end Node.Declared

/-- Reseeding does away with whatever declarations a graph followed before. -/
lemma Graph.Declared.reseed (registry : Registry) (g : Graph) :
    (g.reseed registry).Declared registry := by
  intro n hn
  rw [nodes_reseed, Arena.nodes_map] at hn
  obtain ⟨m, _, rfl⟩ := List.mem_map.mp hn
  exact .refreshNode registry m

namespace Graph.DeclaredBut

variable {exempt other : String → Prop} {registry : Registry} {g h : Graph}

lemma mono (hg : g.DeclaredBut exempt registry) (himp : ∀ name, exempt name → other name) :
    g.DeclaredBut other registry :=
  fun n hn => (hg n hn).imp_left (himp n.typeName)

lemma of_shape (hg : g.DeclaredBut exempt registry) (hs : h.shape = g.shape) :
    h.DeclaredBut exempt registry := by
  intro n hn
  obtain ⟨m, hm, hshape⟩ := exists_mem_nodes_of_shape hs hn
  have htype : m.typeName = n.typeName := congrArg NodeShape.typeName hshape
  exact (hg m hm).imp (fun he => htype ▸ he) fun hd => hd.of_shape hshape.symm

lemma modifyNode (hg : g.DeclaredBut exempt registry) (id : NodeId) {f : Node → Node}
    (hf : ∀ n, (f n).typeName = n.typeName ∧ (f n).properties.keys = n.properties.keys) :
    (g.modifyNode id f).DeclaredBut exempt registry := by
  intro n hn
  rcases Arena.mem_nodes_modify hn with hn | ⟨m, hm, rfl⟩
  · exact hg n hn
  · rw [Node.Declared, (hf m).1, (hf m).2]
    exact hg m (Arena.get?_mem_nodes hm)

lemma edit (hg : g.DeclaredBut exempt registry) {e : Edit} (uses : e.Uses registry)
    (ok : e.apply g = .ok h) : h.DeclaredBut exempt registry := by
  cases e with
  | addNode used typeName position =>
    obtain rfl := uses
    obtain ⟨⟨id, h⟩, done, rfl⟩ := map_eq_ok_iff.mp ok
    obtain ⟨t, nodes, ht, hins, rfl⟩ := addNode_eq_ok done
    obtain rfl : _ = nodes := congrArg Prod.snd hins
    intro n hn
    rcases Arena.mem_nodes_insert hn with hn | ⟨id, rfl⟩
    · exact hg n hn
    · refine .inr fun t' ht' => ?_
      obtain rfl : t = t' := Option.some.inj (ht.symm.trans ht')
      exact t.keys_seed .empty
  | removeNode node =>
    obtain ⟨⟨n, h⟩, done, rfl⟩ := map_eq_ok_iff.mp ok
    obtain ⟨nodes, hr, rfl⟩ := removeNode_eq_ok done
    exact fun n hn => hg n (Arena.mem_nodes_remove hr hn)
  | connect =>
    obtain ⟨_, rfl⟩ := connect_eq_ok ok
    exact hg
  | disconnect id =>
    obtain ⟨⟨c, h⟩, done, rfl⟩ := map_eq_ok_iff.mp ok
    obtain ⟨_, rfl⟩ := disconnect_eq_ok done
    exact hg
  | setProperty node name value =>
    rw [setProperty_eq_ok ok]
    exact hg.modifyNode node fun n => ⟨rfl, keys_setExisting n.properties name value⟩
  | moveNode node position =>
    rw [moveNode_eq_ok ok]
    exact hg.modifyNode node fun _ => ⟨rfl, rfl⟩
  | setVariable | removeVariable =>
    cases ok
    exact hg
  | reseed =>
    obtain rfl := uses
    cases ok
    exact fun n hn => .inr (Declared.reseed _ g n hn)

lemma load {p : Snapshot} {l : Loaded} {log : Log} (ok : p.load registry = (.ok l, log)) :
    l.graph.DeclaredBut exempt registry := by
  intro n hn
  obtain ⟨m, _, rfl⟩ := Snapshot.exists_of_mem_nodes_load ok hn
  exact .inr (.refreshNode registry m)

/-- Only the nodes of a type that is registered anew can fall out of line with their types. -/
lemma register (hg : g.DeclaredBut exempt registry) (t : NodeType) :
    g.DeclaredBut (fun name => exempt name ∨ name = t.name) (registry.register t) := by
  intro n hn
  by_cases hname : n.typeName = t.name
  · exact .inl (.inr hname)
  · refine (hg n hn).imp Or.inl fun hd u hu => hd u ?_
    rwa [Registry.lookup, Registry.register, Table.find?_insert, if_neg hname] at hu

end Graph.DeclaredBut

lemma Registry.upholds_declaredBut (registry : Registry) (exempt : String → Prop) :
    registry.Upholds (Graph.DeclaredBut exempt registry) where
  empty _ _ := nofun
  edit _ uses hg ok := hg.edit uses ok
  tick r collisionsOnly scene _ hg := hg.of_shape (r.shape_run collisionsOnly _ scene)
  load ok := .load ok

namespace Session

/-- The call after `before` is made during play. -/
def InPlay (s : Session) (before : List Call) : Prop := (s.perform before).mode ≠ .stopped

/-- The registration after `before` is made during play, and `since` then that play has ended. -/
def Lapsed (s : Session) (before : List Call) (type : NodeType) (since : List Call) : Prop :=
  s.InPlay before ∧
    ∃ mid rest, since = mid ++ rest ∧ ¬ s.InPlay (before ++ .register type :: mid)

/-- A type of the name is registered in such a way, and so is every type after it. -/
def Registered (way : List Call → NodeType → List Call → Prop) (calls : List Call) (name : String) :
    Prop :=
  ∃ before type since, calls = before ++ .register type :: since ∧ type.name = name ∧
    way before type since ∧
    ∀ mid other rest, since = mid ++ .register other :: rest →
      way (before ++ .register type :: mid) other rest

/-- A type of the name was registered during play, and nothing outside play since. -/
def RegisteredInPlay (s : Session) (calls : List Call) (name : String) : Prop :=
  Registered (fun before _ _ => s.InPlay before) calls name

/-- A type of the name was registered during a play that has ended, and so was every type that was
registered since. -/
def Outdated (s : Session) (calls : List Call) (name : String) : Prop :=
  Registered s.Lapsed calls name

variable {s : Session} {calls : List Call} {c : Call} {name : String}
  {way other : List Call → NodeType → List Call → Prop}

lemma Registered.mono (h : Registered way calls name)
    (himp : ∀ before type since, calls = before ++ .register type :: since →
      way before type since → other before type since) : Registered other calls name := by
  obtain ⟨before, type, since, rfl, hname, hfirst, hlater⟩ := h
  refine ⟨before, type, since, rfl, hname, himp before type since rfl hfirst, ?_⟩
  rintro mid next rest rfl
  exact himp _ next rest (by simp) (hlater mid next rest rfl)

/-- One more call follows, itself a registration in such a way if it is one. -/
lemma Registered.concat (h : Registered way calls name)
    (hgrows : ∀ before type since, way before type since → way before type (since ++ [c]))
    (hlast : ∀ type, c = .register type → way calls type []) :
    Registered way (calls ++ [c]) name := by
  obtain ⟨before, type, since, rfl, hname, hfirst, hlater⟩ := h
  refine ⟨before, type, since ++ [c], by simp, hname, hgrows _ _ _ hfirst, ?_⟩
  intro mid next rest hsplit
  rcases List.eq_nil_or_concat rest with rfl | ⟨rest, d, rfl⟩
  · obtain ⟨rfl, hc⟩ := List.append_inj' hsplit rfl
    exact hlast next (List.singleton_inj.mp hc)
  · have hends : since ++ [c] = (mid ++ .register next :: rest) ++ [d] := by simpa using hsplit
    obtain ⟨rfl, hc⟩ := List.append_inj' hends rfl
    rw [List.concat_eq_append, ← hc]
    exact hgrows _ next rest (hlater mid next rest rfl)

lemma Lapsed.concat {before since : List Call} {type : NodeType} (h : s.Lapsed before type since)
    (c : Call) : s.Lapsed before type (since ++ [c]) := by
  obtain ⟨hin, mid, rest, rfl, hended⟩ := h
  exact ⟨hin, mid, rest ++ [c], by simp, hended⟩

lemma not_lapsed_nil (before : List Call) (type : NodeType) : ¬ s.Lapsed before type [] := by
  rintro ⟨hin, mid, rest, hsplit, hended⟩
  obtain ⟨rfl, rfl⟩ := List.append_eq_nil_iff.mp hsplit.symm
  rw [InPlay, perform_concat] at hended
  exact hended hin

/-- A registration does not end play, so one that was just made has not lapsed. -/
lemma not_outdated_concat (s : Session) (calls : List Call) (type : NodeType) :
    ¬ s.Outdated (calls ++ [.register type]) name := by
  rintro ⟨before, first, since, hsplit, -, hfirst, hlater⟩
  rcases List.eq_nil_or_concat since with rfl | ⟨since, d, rfl⟩
  · exact not_lapsed_nil _ _ hfirst
  · have hends : calls ++ [.register type] = (before ++ .register first :: since) ++ [d] := by
      simpa using hsplit
    obtain rfl := List.singleton_inj.mp (List.append_inj' hends rfl).2
    exact not_lapsed_nil _ _ (hlater since type [] (by simp))

lemma Outdated.inPlay (h : s.Outdated calls name) : s.RegisteredInPlay calls name :=
  Registered.mono h fun _ _ _ _ hlapsed => hlapsed.1

lemma Outdated.concat (h : s.Outdated calls name) (hc : c.isRegister = false) :
    s.Outdated (calls ++ [c]) name :=
  Registered.concat h (fun _ _ _ hlapsed => hlapsed.concat c) (by rintro type rfl; cases hc)

lemma RegisteredInPlay.concat (h : s.RegisteredInPlay calls name)
    (hc : c.isRegister = false ∨ s.InPlay calls) : s.RegisteredInPlay (calls ++ [c]) name :=
  Registered.concat h (fun _ _ _ hin => hin) (by
    rintro type rfl
    exact hc.resolve_left nofun)

/-- Where play ends, it leaves the registrations made in it behind. -/
lemma RegisteredInPlay.outdated (h : s.RegisteredInPlay calls name) (hended : ¬ s.InPlay calls) :
    s.Outdated calls name :=
  Registered.mono h fun _ _ since hsplit hin => ⟨hin, since, [], by simp, hsplit ▸ hended⟩

/-- The graphs follow the registry but for the types whose registration has lapsed, and the copy
follows it but for those that were registered during play at all. -/
theorem declared_but (registry : Registry) (settings : Settings) (calls : List Call) :
    (reached registry settings calls).store.Holds
      (Graph.DeclaredBut ((start registry settings).1.Outdated calls)
        (reached registry settings calls).registry) ∧
    ∀ backup, (reached registry settings calls).backup = some backup →
      backup.Holds (Graph.DeclaredBut ((start registry settings).1.RegisteredInPlay calls)
        (reached registry settings calls).registry) := by
  induction calls using List.reverseRecOn with
  | nil =>
    have hempty (exempt : String → Prop) := holds_start
      (Graph.DeclaredBut exempt (start registry settings).1.registry) registry settings
    exact ⟨(hempty _).1, (hempty _).2⟩
  | append_singleton calls c ih =>
    have hnext : reached registry settings (calls ++ [c]) =
        (reached registry settings calls).call c := perform_concat _ calls c
    have hstep := (reached registry settings calls).step_call c
    rw [← hnext] at hstep
    obtain ⟨hstore, hbackup⟩ := ih
    cases hc : c.isRegister with
    | true =>
      cases c with
      | register type =>
        rw [hnext]
        refine ⟨?_, fun backup hb => ?_⟩
        · have hplaced := (reached_holds_reachable registry settings calls).1
          exact hplaced.reseed fun g _ n hn => .inr (Graph.Declared.reseed _ g n hn)
        · -- There is a copy only during play.
          have hin : (start registry settings).1.InPlay calls := by
            intro hstopped
            have hnone := backup_eq_none hstopped
            simp [call, register, hnone] at hb
          refine (hbackup backup hb).mono fun g hg => (hg.register type).mono fun name hname => ?_
          rcases hname with hname | rfl
          · exact hname.concat (.inr hin)
          · exact ⟨calls, type, [], rfl, rfl, hin, by simp⟩
      | _ => cases hc
    | false =>
      have houtdated (name : String) (h : (start registry settings).1.Outdated calls name) :
          (start registry settings).1.Outdated (calls ++ [c]) name := h.concat hc
      have hregistered (name : String)
          (h : (start registry settings).1.RegisteredInPlay calls name) :
          (start registry settings).1.RegisteredInPlay (calls ++ [c]) name := h.concat (.inl hc)
      rw [hstep.registry_eq hc]
      have hupholds := (reached registry settings calls).registry.upholds_declaredBut
      refine ⟨?_, ?_⟩
      · refine hstep.holds_store hc (hupholds _) (hstore.mono fun g hg => hg.mono houtdated)
          fun hstopped backup hb => (hbackup backup hb).mono fun g hg => hg.mono fun name h => ?_
        exact (hregistered name h).outdated fun hin => hin hstopped
      · exact hstep.holds_backup
          (hstore.mono fun g hg => hg.mono fun name h => (houtdated name h).inPlay)
          fun backup hb => (hbackup backup hb).mono fun g hg => hg.mono hregistered

/-- However a session was opened and whatever calls followed: every node of a known type holds
exactly the properties that the type declares now, in the order of their declaration, unless a type
of that name was registered during a play that has ended, and so was every type since. -/
theorem reached_declared (registry : Registry) (settings : Settings) (calls : List Call) :
    (reached registry settings calls).store.Holds
      (Graph.DeclaredBut ((start registry settings).1.Outdated calls)
        (reached registry settings calls).registry) :=
  (declared_but registry settings calls).1

end Session

/-- A node type without properties. -/
def NodeType.meter : NodeType := .bare "Meter" .custom (.custom fun _ => pure .idle)

/-- The same type once it has a gain. -/
def NodeType.gainMeter : NodeType := meter.dataIn "gain" .float (.float .one)

namespace Session

/-- A meter is put in place, and during play meters gain a property. -/
def upgrade : List Call :=
  [.register .meter, .createGraph default default, .addNode default "Meter" .zero, .play] ++
    [.register .gainMeter]

theorem upgrade_declared :
    ¬ (start .builtins .initial).1.Outdated upgrade "Meter" ∧
    ((reached .builtins .initial upgrade).store.graphs.values.map fun g =>
      g.nodes.nodes.map fun n => (n.typeName, n.properties.keys)) = [[("Meter", ["gain"])]] ∧
    (reached .builtins .initial upgrade).store.Holds
      (Graph.Declared (reached .builtins .initial upgrade).registry) := by
  have current (name : String) : ¬ (start .builtins .initial).1.Outdated upgrade name :=
    not_outdated_concat _ _ .gainMeter
  exact ⟨current "Meter", by decide +kernel,
    (reached_declared .builtins .initial upgrade).mono fun _ hg n hn =>
      (hg n hn).resolve_left (current n.typeName)⟩

/-- Once play ends, the meter is back without the property that its type still declares. -/
theorem upgrade_stopped_undeclared :
    (reached .builtins .initial (upgrade ++ [.stop])).mode = .stopped ∧
    ((reached .builtins .initial (upgrade ++ [.stop])).registry.lookup "Meter").map
      (fun t => t.properties.keys) = some ["gain"] ∧
    ((reached .builtins .initial (upgrade ++ [.stop])).store.graphs.values.map fun g =>
      g.nodes.nodes.map fun n => (n.typeName, n.properties.keys)) = [[("Meter", [])]] ∧
    ¬ (reached .builtins .initial (upgrade ++ [.stop])).store.Holds
      (Graph.Declared (reached .builtins .initial (upgrade ++ [.stop])).registry) := by
  refine ⟨by decide +kernel, by decide +kernel, by decide +kernel, by decide +kernel⟩

end Session

end ScriptGraph
