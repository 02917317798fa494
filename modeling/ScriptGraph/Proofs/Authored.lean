import ScriptGraph.Proofs.Builtins
import ScriptGraph.Proofs.Reachable

/-! Graphs that an author builds from the built-in nodes, and runs in between. Their nodes are
built-in nodes with the properties that these declare, and each of their connections is one that
could be made now. -/
namespace ScriptGraph

/-- The registry that an edit consults, if it consults one. -/
def Edit.Uses (registry : Registry) : Edit → Prop
  | .addNode used _ _ => used = registry
  | .connect used .. => used = registry
  | .reseed used => used = registry
  | _ => True

/-- A graph comes about by edits with the built-in nodes, and by ticks between them. -/
inductive Graph.Authored : Graph → Prop
  | empty (id : GraphId) (entity : EntityId) : Authored (.empty id entity)
  | edit {g h : Graph} (prior : Authored g) (e : Edit) (uses : e.Uses .builtins)
      (ok : e.apply g = .ok h) : Authored h
  | tick {σ : Type} [Host σ] {g : Graph} (prior : Authored g) (context : TickContext) (depth : Nat)
      (collisionsOnly : Bool) (scene : σ) :
      Authored (TickRules.run ⟨.builtins, context, depth⟩ collisionsOnly g scene).graph

lemma Graph.Authored.reachable {g : Graph} (h : g.Authored) : g.Reachable := by
  induction h with
  | empty id entity => exact .empty id entity
  | edit _ e _ ok ih => exact ih.edit e ok
  | tick _ _ _ collisionsOnly scene ih => exact ih.tick _ collisionsOnly scene

lemma Graph.Authored.edits {g h : Graph} (hg : g.Authored) {es : List Edit}
    (uses : ∀ e ∈ es, e.Uses .builtins) (ok : es.foldlM Edit.apply g = .ok h) : h.Authored :=
  foldlM_induction hg (fun e he _ _ prior ok => prior.edit e (uses e he) ok) ok

/-- Built-in nodes with their declared properties, and links that are accepted. -/
structure Graph.Coherent (g : Graph) : Prop where
  nodes : ∀ n ∈ g.nodes.nodes, ∃ b : Builtin, b.typeName = n.typeName ∧
    n.properties.keys = b.nodeType.properties.keys
  links : ∀ c ∈ g.connections.values,
    g.checkLink .builtins c.source c.sourcePort c.target c.targetPort = .ok ()

namespace Graph.Coherent

variable {g h : Graph}

lemma endsLive (hg : g.Coherent) : g.EndsLive := by
  intro c hc
  obtain ⟨_, _, _, _, hs, ht, _⟩ := checkLink_eq_ok_iff.mp (hg.links c hc)
  exact ⟨contains_of_typeOf? hs, contains_of_typeOf? ht⟩

lemma property?_of_declared (hg : g.Coherent) {node : NodeId} {b : Builtin}
    (hb : g.typeOf? .builtins node = some b.nodeType) {name : String}
    (hname : name ∈ b.nodeType.properties.keys) : ∃ value, g.property? node name = some value := by
  obtain ⟨n, hn, hlookup⟩ := Option.bind_eq_some_iff.mp hb
  obtain ⟨b', hname', hkeys⟩ := hg.nodes n (Arena.get?_mem_nodes hn)
  have hlookup' := Registry.lookup_builtins.mpr ⟨b', hname', rfl⟩
  obtain htype : b'.nodeType = b.nodeType := Option.some.inj (hlookup'.symm.trans hlookup)
  rw [← htype, ← hkeys] at hname
  obtain ⟨value, hvalue⟩ := Table.mem_keys_iff_find?.mp hname
  exact ⟨value, Option.bind_eq_some_iff.mpr ⟨n, hn, hvalue⟩⟩

lemma property?_of_input (hg : g.Coherent) {node : NodeId} {b : Builtin}
    (hb : g.typeOf? .builtins node = some b.nodeType) {name : String} {input : Port}
    (hi : b.nodeType.input? name = some input) (hdata : input.type.isExec = false) :
    ∃ value, g.property? node name = some value := by
  cases hkind : input.type with
  | exec => simp [hkind, PortType.isExec] at hdata
  | data kind =>
    obtain ⟨decl, hdecl, _⟩ := Builtin.property_of_input hi hkind
    exact hg.property?_of_declared hb (Table.mem_keys_iff_find?.mpr ⟨decl, hdecl⟩)

/-- Links last as long as their ends keep their types. -/
lemma link_of_typeOf? {registry : Registry} {c : Connection}
    (hlink : g.checkLink registry c.source c.sourcePort c.target c.targetPort = .ok ())
    (htype : ∀ id t, id = c.source ∨ id = c.target → g.typeOf? registry id = some t →
      h.typeOf? registry id = some t) :
    h.checkLink registry c.source c.sourcePort c.target c.targetPort = .ok () := by
  obtain ⟨s, t, output, input, hs, ht, hports⟩ := checkLink_eq_ok_iff.mp hlink
  exact checkLink_eq_ok_iff.mpr ⟨s, t, output, input, htype _ s (Or.inl rfl) hs,
    htype _ t (Or.inr rfl) ht, hports⟩

lemma of_shape (hg : g.Coherent) (hs : h.shape = g.shape) : h.Coherent := by
  refine ⟨?_, ?_⟩
  · intro n hn
    obtain ⟨m, hm, hshape⟩ := exists_mem_nodes_of_shape hs hn
    obtain ⟨b, hname, hkeys⟩ := hg.nodes m hm
    have htype : m.typeName = n.typeName := congrArg NodeShape.typeName hshape
    have hk : m.properties.keys = n.properties.keys := congrArg NodeShape.keys hshape
    exact ⟨b, hname.trans htype, hk.symm.trans hkeys⟩
  · intro c hc
    rw [connections_of_shape hs] at hc
    refine link_of_typeOf? (hg.links c hc) fun id t _ ht => ?_
    rw [typeOf?_of_shape hs]
    exact ht

lemma modifyNode (hg : g.Coherent) (id : NodeId) {f : Node → Node}
    (hf : ∀ n, (f n).typeName = n.typeName ∧ (f n).properties.keys = n.properties.keys) :
    (g.modifyNode id f).Coherent := by
  refine ⟨?_, ?_⟩
  · intro n hn
    rcases Arena.mem_nodes_modify hn with hn | ⟨m, hm, rfl⟩
    · exact hg.nodes n hn
    · rw [(hf m).1, (hf m).2]
      exact hg.nodes m (Arena.get?_mem_nodes hm)
  · intro c hc
    refine link_of_typeOf? (hg.links c hc) fun j t _ ht => ?_
    rw [← ht]
    simp only [typeOf?, node?, Graph.modifyNode, Arena.get?_modify]
    split
    · cases g.nodes.get? j with
      | none => rfl
      | some n => simp [(hf n).1]
    · rfl

lemma addNode (hg : g.Coherent) (hw : g.WellFormed) {typeName : String} {position : Point}
    {id : NodeId} (ok : g.addNode .builtins typeName position = .ok (id, h)) : h.Coherent := by
  obtain ⟨t, nodes, ht, hins, rfl⟩ := addNode_eq_ok ok
  obtain rfl : _ = nodes := congrArg Prod.snd hins
  obtain ⟨b, hname, rfl⟩ := Registry.lookup_builtins.mp ht
  refine ⟨?_, ?_⟩
  · intro n hn
    rcases Arena.mem_nodes_insert hn with hn | ⟨j, rfl⟩
    · exact hg.nodes n hn
    · exact ⟨b, hname, b.nodeType.keys_seed .empty⟩
  · intro c hc
    refine link_of_typeOf? (hg.links c hc) fun j t _ hj => ?_
    obtain ⟨n, hn, hlookup⟩ := Option.bind_eq_some_iff.mp hj
    exact Option.bind_eq_some_iff.mpr ⟨n, Arena.get?_insert_of_some hw.nodes hn, hlookup⟩

lemma removeNode (hg : g.Coherent) {id : NodeId} {n : Node}
    (ok : g.removeNode id = .ok (n, h)) : h.Coherent := by
  obtain ⟨nodes, hr, rfl⟩ := removeNode_eq_ok ok
  refine ⟨fun n hn => hg.nodes n (Arena.mem_nodes_remove hr hn), ?_⟩
  intro c hc
  obtain ⟨k, hk⟩ := Table.mem_values.mp hc
  obtain ⟨hmem, hout⟩ := List.mem_filter.mp hk
  have hne : c.source ≠ id ∧ c.target ≠ id := by simpa [Connection.involves] using hout
  refine link_of_typeOf? (hg.links c (Table.mem_values.mpr ⟨k, hmem⟩)) fun j t hj ht => ?_
  have hj' : j ≠ id := by
    rcases hj with rfl | rfl
    · exact hne.1
    · exact hne.2
  rw [← ht]
  simp only [typeOf?, node?, Arena.get?_remove_of_ne hr hj']

lemma connect (hg : g.Coherent) {id : ConnectionId} {source target : NodeId}
    {sourcePort targetPort : String}
    (ok : g.connect .builtins id source sourcePort target targetPort = .ok h) : h.Coherent := by
  obtain ⟨hlink, rfl⟩ := connect_eq_ok ok
  refine ⟨hg.nodes, ?_⟩
  intro c hc
  obtain ⟨k, hk⟩ := Table.mem_values.mp hc
  rcases Table.mem_entries_insert hk with ⟨_, rfl⟩ | hk
  · exact hlink
  · exact hg.links c (Table.mem_values.mpr ⟨k, hk⟩)

lemma disconnect (hg : g.Coherent) {id : ConnectionId} {c : Connection}
    (ok : g.disconnect id = .ok (c, h)) : h.Coherent := by
  obtain ⟨_, rfl⟩ := disconnect_eq_ok ok
  refine ⟨hg.nodes, ?_⟩
  intro d hd
  obtain ⟨k, hk⟩ := Table.mem_values.mp hd
  exact hg.links d (Table.mem_values.mpr ⟨k, List.mem_of_mem_filter hk⟩)

lemma reseed (hg : g.Coherent) : (g.reseed .builtins).Coherent := by
  refine ⟨?_, ?_⟩
  · intro n hn
    rw [Graph.reseed, Arena.nodes_map] at hn
    obtain ⟨m, hm, rfl⟩ := List.mem_map.mp hn
    obtain ⟨b, hname, hkeys⟩ := hg.nodes m hm
    have hlookup := Registry.lookup_builtins.mpr ⟨b, hname, rfl⟩
    simp only [hlookup]
    exact ⟨b, hname, b.nodeType.keys_seed m.properties⟩
  · intro c hc
    refine link_of_typeOf? (hg.links c hc) fun j t _ ht => ?_
    rw [← ht]
    simp only [typeOf?, node?, Graph.reseed, Arena.get?_map]
    cases g.nodes.get? j with
    | none => rfl
    | some n =>
      simp only [Option.map_some, Option.bind_some]
      split <;> rfl

theorem edit (hg : g.Coherent) (hw : g.WellFormed) {e : Edit} (uses : e.Uses .builtins)
    (ok : e.apply g = .ok h) : h.Coherent := by
  cases e with
  | addNode registry typeName position =>
    obtain rfl := uses
    obtain ⟨⟨id, h⟩, done, rfl⟩ := map_eq_ok_iff.mp ok
    exact hg.addNode hw done
  | removeNode node =>
    obtain ⟨⟨n, h⟩, done, rfl⟩ := map_eq_ok_iff.mp ok
    exact hg.removeNode done
  | connect =>
    obtain rfl := uses
    exact hg.connect ok
  | disconnect id =>
    obtain ⟨⟨c, h⟩, done, rfl⟩ := map_eq_ok_iff.mp ok
    exact hg.disconnect done
  | setProperty node name value =>
    rw [setProperty_eq_ok ok]
    exact hg.modifyNode node fun n => ⟨rfl, keys_setExisting n.properties name value⟩
  | moveNode node position =>
    rw [moveNode_eq_ok ok]
    exact hg.modifyNode node fun _ => ⟨rfl, rfl⟩
  | setVariable | removeVariable =>
    cases ok
    exact ⟨hg.nodes, hg.links⟩
  | reseed =>
    obtain rfl := uses
    cases ok
    exact hg.reseed

end Graph.Coherent

theorem Graph.Authored.coherent {g : Graph} (h : g.Authored) : g.Coherent := by
  induction h with
  | empty id entity => exact ⟨nofun, nofun⟩
  | edit prior e uses ok ih => exact ih.edit prior.reachable.wellFormed uses ok
  | tick _ _ _ collisionsOnly scene ih => exact ih.of_shape (TickRules.shape_run _ _ _ scene)

end ScriptGraph
