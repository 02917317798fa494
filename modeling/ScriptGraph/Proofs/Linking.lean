import ScriptGraph.Proofs.Authored

/-! Connections as they are made. An edit leaves each connection where it leads, or it is the one
that makes the connection. So in a graph built by edits and ticks no connection leads to a node of a
type that had no inputs whenever one was made, whatever the type is registered as later. -/
namespace ScriptGraph

/-- Nodes of the type are registered without inputs, if at all. -/
def Registry.Closes (registry : Registry) (typeName : String) : Prop :=
  ∀ t, registry.lookup typeName = some t → t.inputs = []

/-- If the edit makes a connection, it does so under a registry of this kind. -/
def Edit.LinksUnder (Q : Registry → Prop) : Edit → Prop
  | .connect registry .. => Q registry
  | _ => True

/-- A graph comes about by edits and ticks, and its connections are made under registries of this
kind. -/
inductive Graph.LinkedUnder (Q : Registry → Prop) : Graph → Prop
  | empty (id : GraphId) (entity : EntityId) : LinkedUnder Q (.empty id entity)
  | edit {g h : Graph} (prior : LinkedUnder Q g) (e : Edit) (links : e.LinksUnder Q)
      (ok : e.apply g = .ok h) : LinkedUnder Q h
  | tick {σ : Type} [Host σ] {g : Graph} (prior : LinkedUnder Q g) (r : TickRules)
      (collisionsOnly : Bool) (scene : σ) : LinkedUnder Q (r.run collisionsOnly g scene).graph

namespace Graph.LinkedUnder

variable {Q : Registry → Prop} {g h : Graph}

lemma reachable (hg : g.LinkedUnder Q) : g.Reachable := by
  induction hg with
  | empty id entity => exact .empty id entity
  | edit _ e _ ok ih => exact ih.edit e ok
  | tick _ r collisionsOnly scene ih => exact ih.tick r collisionsOnly scene

lemma edits (hg : g.LinkedUnder Q) {es : List Edit} (links : ∀ e ∈ es, e.LinksUnder Q)
    (ok : es.foldlM Edit.apply g = .ok h) : h.LinkedUnder Q :=
  foldlM_induction hg (fun e he _ _ prior ok => prior.edit e (links e he) ok) ok

end Graph.LinkedUnder

namespace Graph

variable {g h : Graph} {c : Connection}

/-- The type name of the node that a connection leads to. -/
def targetType? (g : Graph) (c : Connection) : Option String :=
  (g.node? c.target).map Node.typeName

lemma targetType?_modifyNode (g : Graph) (id : NodeId) {f : Node → Node}
    (hf : ∀ n, (f n).typeName = n.typeName) (c : Connection) :
    (g.modifyNode id f).targetType? c = g.targetType? c := by
  simp only [targetType?, node?, modifyNode, Arena.get?_modify]
  split
  · cases g.nodes.get? c.target with
    | none => rfl
    | some n => simp [hf n]
  · rfl

lemma targetType?_reseed (g : Graph) (registry : Registry) (c : Connection) :
    (g.reseed registry).targetType? c = g.targetType? c := by
  simp only [targetType?, node?, reseed, Arena.get?_map]
  cases g.nodes.get? c.target with
  | none => rfl
  | some n =>
    simp only [Option.map_some]
    split <;> rfl

/-- A connection is there before an edit and leads to a node of the same type then, or the edit
makes it. -/
theorem link_of_edit (hg : g.WellFormed) {e : Edit} (ok : e.apply g = .ok h)
    (hc : c ∈ h.connections.values) :
    (c ∈ g.connections.values ∧ h.targetType? c = g.targetType? c) ∨
      ∃ registry, e = .connect registry c.id c.source c.sourcePort c.target c.targetPort ∧
        g.checkLink registry c.source c.sourcePort c.target c.targetPort = .ok () ∧
        h.targetType? c = g.targetType? c := by
  cases e with
  | addNode registry typeName position =>
    obtain ⟨⟨id, h⟩, done, rfl⟩ := map_eq_ok_iff.mp ok
    obtain ⟨t, nodes, _, hins, rfl⟩ := addNode_eq_ok done
    obtain rfl : _ = nodes := congrArg Prod.snd hins
    obtain ⟨n, hn⟩ := Arena.contains_iff.mp (hg.ends c hc).2
    refine .inl ⟨hc, ?_⟩
    simp only [targetType?, node?, Arena.get?_insert_of_some hg.nodes hn, hn]
  | removeNode node =>
    obtain ⟨⟨n, h⟩, done, rfl⟩ := map_eq_ok_iff.mp ok
    obtain ⟨nodes, hr, rfl⟩ := removeNode_eq_ok done
    obtain ⟨id, hid⟩ := Table.mem_values.mp hc
    obtain ⟨hmem, hout⟩ := List.mem_filter.mp hid
    have hne : c.source ≠ node ∧ c.target ≠ node := by simpa [Connection.involves] using hout
    refine .inl ⟨Table.mem_values.mpr ⟨id, hmem⟩, ?_⟩
    simp only [targetType?, node?, Arena.get?_remove_of_ne hr hne.2]
  | connect registry id source sourcePort target targetPort =>
    obtain ⟨hlink, rfl⟩ := connect_eq_ok ok
    obtain ⟨k, hk⟩ := Table.mem_values.mp hc
    rcases Table.mem_entries_insert hk with ⟨_, rfl⟩ | hk
    · exact .inr ⟨registry, rfl, hlink, rfl⟩
    · exact .inl ⟨Table.mem_values.mpr ⟨k, hk⟩, rfl⟩
  | disconnect id =>
    obtain ⟨⟨d, h⟩, done, rfl⟩ := map_eq_ok_iff.mp ok
    obtain ⟨_, rfl⟩ := disconnect_eq_ok done
    obtain ⟨k, hk⟩ := Table.mem_values.mp hc
    exact .inl ⟨Table.mem_values.mpr ⟨k, List.mem_of_mem_filter hk⟩, rfl⟩
  | setProperty node name value =>
    rw [setProperty_eq_ok ok] at hc ⊢
    refine .inl ⟨hc, g.targetType?_modifyNode node ?_ c⟩
    exact fun _ => rfl
  | moveNode node position =>
    rw [moveNode_eq_ok ok] at hc ⊢
    refine .inl ⟨hc, g.targetType?_modifyNode node ?_ c⟩
    exact fun _ => rfl
  | setVariable | removeVariable =>
    cases ok
    exact .inl ⟨hc, rfl⟩
  | reseed registry =>
    cases ok
    exact .inl ⟨hc, g.targetType?_reseed registry c⟩

lemma targetType?_of_checkLink {registry : Registry} {typeName : String}
    (hclosed : registry.Closes typeName)
    (hlink : g.checkLink registry c.source c.sourcePort c.target c.targetPort = .ok ()) :
    ∃ name ≠ typeName, g.targetType? c = some name := by
  obtain ⟨_, t, _, _, _, ht, _, hinput, _⟩ := checkLink_eq_ok_iff.mp hlink
  obtain ⟨n, hn, hlookup⟩ := Option.bind_eq_some_iff.mp ht
  refine ⟨n.typeName, ?_, by rw [targetType?, hn]; rfl⟩
  rintro rfl
  rw [NodeType.input?, hclosed t hlookup] at hinput
  cases hinput

/-- Every connection leads to a node, and to none of the type if it had no inputs whenever a
connection was made. -/
theorem LinkedUnder.targetType? {typeName : String}
    (hg : g.LinkedUnder fun registry => registry.Closes typeName) :
    ∀ c ∈ g.connections.values, ∃ name ≠ typeName, g.targetType? c = some name := by
  induction hg with
  | empty => nofun
  | edit prior e links ok ih =>
    intro c hc
    rcases link_of_edit prior.reachable.wellFormed ok hc with
      ⟨hold, htype⟩ | ⟨registry, rfl, hlink, htype⟩
    · rw [htype]
      exact ih c hold
    · rw [htype]
      exact targetType?_of_checkLink links hlink
  | @tick _ _ g _ r collisionsOnly scene ih =>
    intro c hc
    have hshape := r.shape_run collisionsOnly g scene
    rw [connections_of_shape hshape] at hc
    rw [Graph.targetType?, map_typeName_of_shape hshape]
    exact ih c hc

/-- So none leads to a node that is of the type now. -/
lemma LinkedUnder.target_ne {node : NodeId} {n : Node} (hn : g.node? node = some n)
    (hg : g.LinkedUnder fun registry => registry.Closes n.typeName) :
    ∀ c ∈ g.connections.values, c.target ≠ node := by
  rintro c hc rfl
  obtain ⟨name, hne, htype⟩ := hg.targetType? c hc
  rw [Graph.targetType?, hn] at htype
  exact hne (Option.some.inj htype).symm

end Graph

end ScriptGraph
