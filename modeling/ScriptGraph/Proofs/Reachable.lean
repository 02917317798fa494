import ScriptGraph.Proofs.Restore
import ScriptGraph.Proofs.Walk
import ScriptGraph.Proofs.WellFormed
import ScriptGraph.Snapshot

/-! The graphs that can come about: from a graph without nodes by edits, ticks and loads, under
whatever registries, scenes and limits, and in any order. All of them are well formed. -/
namespace ScriptGraph

/-- One change made by an author. -/
inductive Edit where
  | addNode (registry : Registry) (typeName : String) (position : Point)
  | removeNode (node : NodeId)
  | connect (registry : Registry) (id : ConnectionId) (source : NodeId) (sourcePort : String)
      (target : NodeId) (targetPort : String)
  | disconnect (id : ConnectionId)
  | setProperty (node : NodeId) (name : String) (value : Value)
  | moveNode (node : NodeId) (position : Point)
  | setVariable (name : String) (value : Value)
  | removeVariable (name : String)
  | reseed (registry : Registry)

/-- The graph after an edit, or the reason why it was refused. -/
def Edit.apply (g : Graph) : Edit → Except GraphError Graph
  | .addNode registry typeName position => (g.addNode registry typeName position).map Prod.snd
  | .removeNode node => (g.removeNode node).map Prod.snd
  | .connect registry id source sourcePort target targetPort =>
    g.connect registry id source sourcePort target targetPort
  | .disconnect id => (g.disconnect id).map Prod.snd
  | .setProperty node name value => g.setProperty node name value
  | .moveNode node position => g.moveNode node position
  | .setVariable name value => .ok (g.setVariable name value)
  | .removeVariable name => .ok (g.removeVariable name)
  | .reseed registry => .ok (g.reseed registry)

inductive Graph.Reachable : Graph → Prop
  | empty (id : GraphId) (entity : EntityId) : Reachable (.empty id entity)
  | edit {g h : Graph} (prior : Reachable g) (e : Edit) (ok : e.apply g = .ok h) : Reachable h
  | tick {σ : Type} [Host σ] {g : Graph} (prior : Reachable g) (r : TickRules)
      (collisionsOnly : Bool) (scene : σ) :
      Reachable (r.run collisionsOnly g scene).graph
  | load {p : Snapshot} {registry : Registry} {l : Loaded} {log : Log}
      (ok : p.load registry = (.ok l, log)) : Reachable l.graph

lemma bind_eq_ok {ε α β : Type} {x : Except ε α} {f : α → Except ε β} {b : β} :
    x >>= f = .ok b ↔ ∃ a, x = .ok a ∧ f a = .ok b := by
  cases x <;> simp [bind, Except.bind]

lemma bind_eq_error {ε α β : Type} {x : Except ε α} {f : α → Except ε β} {e : ε} :
    x >>= f = .error e ↔ x = .error e ∨ ∃ a, x = .ok a ∧ f a = .error e := by
  cases x <;> simp [bind, Except.bind]

lemma map_eq_ok_iff {ε α β : Type} {x : Except ε α} {f : α → β} {b : β} :
    x.map f = .ok b ↔ ∃ a, x = .ok a ∧ f a = b := by
  cases x <;> simp [Except.map]

namespace Graph

variable {g h : Graph} {registry : Registry}

lemma addNode_eq_ok {typeName : String} {position : Point} {id : NodeId}
    (ok : g.addNode registry typeName position = .ok (id, h)) :
    ∃ t nodes, registry.lookup typeName = some t ∧
      g.nodes.insert (fun id => ⟨id, typeName, position, t.seed .empty⟩) = (id, nodes) ∧
        h = { g with nodes := nodes } := by
  unfold addNode at ok
  split at ok
  · cases ok
  · next t ht =>
    cases ok
    exact ⟨t, _, ht, rfl, rfl⟩

lemma removeNode_eq_ok {id : NodeId} {n : Node} (ok : g.removeNode id = .ok (n, h)) :
    ∃ nodes, g.nodes.remove id = some (n, nodes) ∧
      h = { g with
        nodes := nodes
        connections := g.connections.filter fun _ c => !c.involves id } := by
  unfold removeNode at ok
  split at ok
  · cases ok
  · next hr =>
    cases ok
    exact ⟨_, hr, rfl⟩

lemma connect_eq_ok {id : ConnectionId} {source target : NodeId} {sourcePort targetPort : String}
    (ok : g.connect registry id source sourcePort target targetPort = .ok h) :
    g.checkLink registry source sourcePort target targetPort = .ok () ∧
      h = { g with
        connections := g.connections.insert id ⟨id, source, sourcePort, target, targetPort⟩ } := by
  unfold connect at ok
  split at ok
  · cases ok
  · next hl =>
    cases ok
    exact ⟨hl, rfl⟩

lemma disconnect_eq_ok {id : ConnectionId} {c : Connection} (ok : g.disconnect id = .ok (c, h)) :
    g.connections.find? id = some c ∧ h = { g with connections := g.connections.erase id } := by
  unfold disconnect at ok
  split at ok
  · cases ok
  · next hc =>
    cases ok
    exact ⟨hc, rfl⟩

lemma setProperty_eq_ok {id : NodeId} {name : String} {value : Value}
    (ok : g.setProperty id name value = .ok h) :
    h = g.modifyNode id fun n => n.setProperty name value := by
  unfold setProperty requireNode at ok
  cases hn : g.node? id with
  | none => simp [hn, bind, Except.bind] at ok
  | some n =>
    simp only [hn, bind, Except.bind] at ok
    split at ok
    · exact (Except.ok.inj ok).symm
    · cases ok

lemma moveNode_eq_ok {id : NodeId} {position : Point} (ok : g.moveNode id position = .ok h) :
    h = g.modifyNode id fun n => { n with position := position } := by
  unfold moveNode requireNode at ok
  cases hn : g.node? id with
  | none => simp [hn, bind, Except.bind] at ok
  | some n =>
    simp only [hn, bind, Except.bind] at ok
    exact (Except.ok.inj ok).symm

/-- Why a stored connection is not taken up, if it is not. -/
def objection? (g : Graph) (registry : Registry) (c : Connection) : Option GraphError :=
  match Snapshot.checkConnection registry g c with
  | .error e => some e
  | .ok () => none

/-- The stored connections that are taken up. -/
def takenUp (g : Graph) (registry : Registry) (cs : List Connection) : List Connection :=
  cs.filter fun c => (g.objection? registry c).isNone

/-- What is taken up leads from a node to a node. -/
lemma contains_of_objection? {c : Connection} (hc : g.objection? registry c = none) :
    g.nodes.contains c.source = true ∧ g.nodes.contains c.target = true := by
  unfold objection? Snapshot.checkConnection at hc
  cases hs : g.node? c.source with
  | none => simp [hs] at hc
  | some n =>
    cases ht : g.node? c.target with
    | none => simp [hs, ht] at hc
    | some m => exact ⟨Arena.contains_iff.mpr ⟨n, hs⟩, Arena.contains_iff.mpr ⟨m, ht⟩⟩

end Graph

namespace Snapshot

variable {registry : Registry}

/-- Taking up stored connections one after another: those without objection are written in order,
every objection becomes a warning. -/
theorem foldl_addConnection (registry : Registry) (cs : List Connection) (g : Graph)
    (warnings : List GraphError) (log : Log) :
    (cs.foldl (addConnection registry) (⟨g, warnings⟩, log)).1 =
      ⟨{ g with
          connections := g.connections.insertAll
            ((g.takenUp registry cs).map fun c => (c.id, c)) },
        warnings ++ cs.filterMap (g.objection? registry)⟩ := by
  induction cs generalizing g warnings log with
  | nil => simp [Graph.takenUp, Table.insertAll]
  | cons c cs ih =>
    rw [List.foldl_cons]
    cases hc : checkConnection registry g c with
    | ok =>
      have hnone : g.objection? registry c = none := by simp only [Graph.objection?, hc]
      simp only [addConnection, hc, ih, Graph.takenUp, List.filter_cons, List.filterMap_cons, hnone,
        Option.isNone_none, if_true, List.map_cons, Table.insertAll, List.foldl_cons]
      rfl
    | error e =>
      have hsome : g.objection? registry c = some e := by simp only [Graph.objection?, hc]
      simp [addConnection, hc, ih, Graph.takenUp, hsome]

lemma load_of_restore {p : Snapshot} {arena : Arena} (hversion : ¬ currentVersion < p.version)
    (harena : Arena.restore (p.nodes.map (refreshNode registry)) p.vacant = .ok arena) :
    let bare : Graph := ⟨p.id, p.entity, arena, .empty, .empty⟩
    (p.load registry).1 = .ok
      ⟨⟨p.id, p.entity, arena,
          .ofList ((bare.takenUp registry p.connections).map fun c => (c.id, c)), .ofList p.vars⟩,
        ((p.placeholders registry).map fun n => .placeholderKept n.id n.typeName) ++
          p.connections.filterMap (bare.objection? registry)⟩ := by
  rw [load, if_neg hversion]
  simp only [harena, foldl_addConnection]
  rfl

/-- The parts of a load that succeeds. -/
theorem load_eq_ok {p : Snapshot} {l : Loaded} {log : Log} (ok : p.load registry = (.ok l, log)) :
    Arena.restore (p.nodes.map (refreshNode registry)) p.vacant = .ok l.graph.nodes ∧
      l.graph.connections =
        .ofList ((l.graph.takenUp registry p.connections).map fun c => (c.id, c)) ∧
      l.warnings = ((p.placeholders registry).map fun n => .placeholderKept n.id n.typeName) ++
        p.connections.filterMap (l.graph.objection? registry) := by
  have hversion : ¬ currentVersion < p.version := by
    intro hlt
    rw [load, if_pos hlt] at ok
    cases ok
  cases harena : Arena.restore (p.nodes.map (refreshNode registry)) p.vacant with
  | error e =>
    simp only [load, if_neg hversion, harena] at ok
    cases ok
  | ok arena =>
    have hload := load_of_restore hversion harena
    rw [ok] at hload
    obtain rfl := Except.ok.inj hload
    exact ⟨rfl, rfl, rfl⟩

lemma exists_of_mem_nodes_load {p : Snapshot} {l : Loaded} {log : Log} {n : Node}
    (ok : p.load registry = (.ok l, log)) (hn : n ∈ l.graph.nodes.nodes) :
    ∃ m ∈ p.nodes, refreshNode registry m = n := by
  obtain ⟨_, hnodup, hnodes⟩ := Arena.restore_eq_ok_iff.mp (load_eq_ok ok).1
  rw [hnodes] at hn
  exact List.mem_map.mp ((Arena.perm_filterMap_restoredSlots p.vacant hnodup).mem_iff.mp hn)

end Snapshot

namespace Graph.WellFormed

variable {g h : Graph}

lemma empty (id : GraphId) (entity : EntityId) : (Graph.empty id entity).WellFormed := by
  refine ⟨Arena.wellFormed_empty, ?_, ?_⟩
  · intro j c hc
    cases hc
  · intro c hc
    cases hc

lemma addNode (hg : g.WellFormed) {registry : Registry} {typeName : String} {position : Point}
    {id : NodeId} (ok : g.addNode registry typeName position = .ok (id, h)) : h.WellFormed := by
  obtain ⟨t, nodes, _, hins, rfl⟩ := addNode_eq_ok ok
  obtain rfl : _ = nodes := congrArg Prod.snd hins
  have hlive (j : NodeId) (hj : g.nodes.contains j = true) :
      (g.nodes.insert fun id => ⟨id, typeName, position, t.seed .empty⟩).2.contains j = true := by
    obtain ⟨n, hn⟩ := Arena.contains_iff.mp hj
    exact Arena.contains_iff.mpr ⟨n, Arena.get?_insert_of_some hg.nodes hn⟩
  refine ⟨Arena.wellFormed_insert hg.nodes fun _ => rfl, hg.keyed, ?_⟩
  intro c hc
  exact (hg.ends c hc).imp (hlive c.source) (hlive c.target)

lemma removeNode (hg : g.WellFormed) {id : NodeId} {n : Node}
    (ok : g.removeNode id = .ok (n, h)) : h.WellFormed := by
  obtain ⟨nodes, hr, rfl⟩ := removeNode_eq_ok ok
  have hkept := hg.filter fun _ c => !c.involves id
  have hlive (j : NodeId) (hj : j ≠ id) (hgj : g.nodes.contains j = true) :
      nodes.contains j = true := by
    rw [Arena.contains, Arena.get?_remove_of_ne hr hj]
    exact hgj
  refine ⟨Arena.wellFormed_remove hg.nodes hr, hkept.keyed, ?_⟩
  intro c hc
  obtain ⟨k, hk⟩ := Table.mem_values.mp hc
  have hout : c.source ≠ id ∧ c.target ≠ id := by
    have := (List.mem_filter.mp hk).2
    simpa [Connection.involves] using this
  exact (hkept.ends c hc).imp (hlive c.source hout.1) (hlive c.target hout.2)

lemma connect (hg : g.WellFormed) {registry : Registry} {id : ConnectionId}
    {source target : NodeId} {sourcePort targetPort : String}
    (ok : g.connect registry id source sourcePort target targetPort = .ok h) : h.WellFormed := by
  obtain ⟨hlink, rfl⟩ := connect_eq_ok ok
  obtain ⟨_, _, _, _, hs, ht, _⟩ := checkLink_eq_ok_iff.mp hlink
  exact hg.insert (c := ⟨id, source, sourcePort, target, targetPort⟩) (contains_of_typeOf? hs)
    (contains_of_typeOf? ht)

lemma reseed (hg : g.WellFormed) (registry : Registry) : (g.reseed registry).WellFormed := by
  refine hg.of_nodes (Arena.wellFormed_map hg.nodes fun n => ?_) (fun id => ?_) rfl
  · split <;> rfl
  · simp [Graph.reseed, Arena.contains, Arena.get?_map]

/-- Every accepted edit keeps a graph well formed. -/
theorem edit (hg : g.WellFormed) {e : Edit} (ok : e.apply g = .ok h) : h.WellFormed := by
  cases e with
  | addNode registry typeName position =>
    obtain ⟨⟨id, h⟩, done, rfl⟩ := map_eq_ok_iff.mp ok
    exact hg.addNode done
  | removeNode node =>
    obtain ⟨⟨n, h⟩, done, rfl⟩ := map_eq_ok_iff.mp ok
    exact hg.removeNode done
  | connect => exact hg.connect ok
  | disconnect id =>
    obtain ⟨⟨c, h⟩, done, rfl⟩ := map_eq_ok_iff.mp ok
    obtain ⟨_, rfl⟩ := disconnect_eq_ok done
    exact hg.filter _
  | setProperty node name value =>
    rw [setProperty_eq_ok ok]
    exact hg.modifyNode node fun _ => rfl
  | moveNode node position =>
    rw [moveNode_eq_ok ok]
    exact hg.modifyNode node fun _ => rfl
  | setVariable | removeVariable =>
    cases ok
    exact ⟨hg.nodes, hg.keyed, hg.ends⟩
  | reseed registry =>
    cases ok
    exact hg.reseed registry

theorem tick {σ : Type} [Host σ] (hg : g.WellFormed) (r : TickRules) (collisionsOnly : Bool)
    (scene : σ) : (r.run collisionsOnly g scene).graph.WellFormed :=
  hg.of_shape (r.shape_run collisionsOnly g scene)

/-- A stored connection whose ends are not there is dropped. -/
theorem load {p : Snapshot} {registry : Registry} {l : Loaded} {log : Log}
    (ok : p.load registry = (.ok l, log)) : l.graph.WellFormed := by
  obtain ⟨harena, hconn, _⟩ := Snapshot.load_eq_ok ok
  have htaken {id : ConnectionId} {c : Connection} (hc : (id, c) ∈ l.graph.connections.entries) :
      c.id = id ∧ l.graph.objection? registry c = none := by
    rw [hconn] at hc
    obtain ⟨d, hd, he⟩ := List.mem_map.mp (Table.mem_of_mem_ofList hc)
    obtain ⟨rfl, rfl⟩ := Prod.mk.inj he
    exact ⟨rfl, Option.isNone_iff_eq_none.mp (List.mem_filter.mp hd).2⟩
  refine ⟨Arena.wellFormed_restore harena, fun id c hc => (htaken hc).1, ?_⟩
  intro c hc
  obtain ⟨id, hid⟩ := Table.mem_values.mp hc
  exact Graph.contains_of_objection? (htaken hid).2

end Graph.WellFormed

theorem Graph.Reachable.wellFormed {g : Graph} (h : g.Reachable) : g.WellFormed := by
  induction h with
  | empty id entity => exact .empty id entity
  | edit _ e ok ih => exact ih.edit ok
  | tick _ r collisionsOnly scene ih => exact ih.tick r collisionsOnly scene
  | load ok => exact .load ok

/-- What each step keeps, and it may be about what has been done so far, steps made one after
another keep. -/
lemma foldlM_prefix_induction {ε σ α : Type} {P : List α → σ → Prop} {f : σ → α → Except ε σ}
    {l : List α} {s t : σ} (hs : P [] s)
    (hstep : ∀ done a rest, l = done ++ a :: rest → ∀ s t, P done s → f s a = .ok t →
      P (done ++ [a]) t)
    (ok : l.foldlM f s = .ok t) : P l t := by
  induction l using List.reverseRecOn generalizing t with
  | nil =>
    cases ok
    exact hs
  | append_singleton l a ih =>
    rw [List.foldlM_append] at ok
    obtain ⟨u, hu, hlast⟩ := bind_eq_ok.mp ok
    rw [List.foldlM_cons] at hlast
    obtain ⟨v, hv, hdone⟩ := bind_eq_ok.mp hlast
    obtain rfl : v = t := Except.ok.inj hdone
    refine hstep l a [] rfl u v (ih (fun done b rest hl => ?_) hu) hv
    exact hstep done b (rest ++ [a]) (by rw [hl, List.append_assoc, List.cons_append])

lemma foldlM_induction {ε σ α : Type} {P : σ → Prop} {f : σ → α → Except ε σ} {l : List α}
    {s t : σ} (hs : P s) (hstep : ∀ a ∈ l, ∀ s t, P s → f s a = .ok t → P t)
    (ok : l.foldlM f s = .ok t) : P t :=
  foldlM_prefix_induction (P := fun _ => P) hs
    (fun done a rest hl => hstep a (by rw [hl]; exact List.mem_append_cons_self)) ok

/-- Steps made one after another, where what has been done so far decides the state: they succeed if
each would from there. -/
theorem foldlM_eq_ok_iff {ε σ α : Type} {f : σ → α → Except ε σ} (state : List α → σ)
    {ok : List α → α → Prop} {l : List α}
    (hstep : ∀ done a rest, l = done ++ a :: rest → ∀ t,
      f (state done) a = .ok t ↔ ok done a ∧ t = state (done ++ [a])) {t : σ} :
    l.foldlM f (state []) = .ok t ↔
      (∀ done a rest, l = done ++ a :: rest → ok done a) ∧ t = state l := by
  have hrest (rest done : List α) (hl : l = done ++ rest) :
      rest.foldlM f (state done) = .ok t ↔
        (∀ front a back, rest = front ++ a :: back → ok (done ++ front) a) ∧ t = state l := by
    induction rest generalizing done with
    | nil =>
      rw [List.append_nil] at hl
      subst hl
      simp [pure, Except.pure, eq_comm]
    | cons a rest ih =>
      have hl' : l = (done ++ [a]) ++ rest := by simp [hl]
      rw [List.foldlM_cons, bind_eq_ok]
      constructor
      · rintro ⟨u, hu, hrun⟩
        obtain ⟨hok, rfl⟩ := (hstep done a rest hl u).mp hu
        obtain ⟨hoks, ht⟩ := (ih (done ++ [a]) hl').mp hrun
        refine ⟨fun front b back hsplit => ?_, ht⟩
        cases front with
        | nil =>
          obtain ⟨rfl, -⟩ := List.cons.inj hsplit
          rwa [List.append_nil]
        | cons c front =>
          obtain ⟨rfl, htail⟩ := List.cons.inj hsplit
          simpa using hoks front b back htail
      · rintro ⟨hoks, ht⟩
        have hok : ok done a := by simpa using hoks [] a rest rfl
        refine ⟨state (done ++ [a]), (hstep done a rest hl _).mpr ⟨hok, rfl⟩, ?_⟩
        refine (ih (done ++ [a]) hl').mpr ⟨fun front b back hsplit => ?_, ht⟩
        simpa using hoks (a :: front) b back (by rw [hsplit]; rfl)
  simpa using hrest l [] rfl

lemma foldlM_eq_ok_iff_forall {ε σ α : Type} {f : σ → α → Except ε σ} (state : List α → σ)
    {ok : α → Prop} {l : List α}
    (hstep : ∀ done a rest, l = done ++ a :: rest → ∀ t,
      f (state done) a = .ok t ↔ ok a ∧ t = state (done ++ [a])) {t : σ} :
    l.foldlM f (state []) = .ok t ↔ (∀ a ∈ l, ok a) ∧ t = state l := by
  rw [foldlM_eq_ok_iff state hstep]
  refine and_congr_left fun _ => ⟨fun h a ha => ?_, fun h done a rest hl => ?_⟩
  · obtain ⟨done, rest, hl⟩ := List.append_of_mem ha
    exact h done a rest hl
  · exact h a (hl ▸ by simp)

lemma Graph.Reachable.edits {g h : Graph} (hg : g.Reachable) {es : List Edit}
    (ok : es.foldlM Edit.apply g = .ok h) : h.Reachable :=
  foldlM_induction hg (fun e _ _ _ prior ok => prior.edit e ok) ok

end ScriptGraph
