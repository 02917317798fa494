import ScriptGraph.Proofs.Evaluation
import ScriptGraph.Proofs.Publishing
import ScriptGraph.Proofs.Walk

/-! Running a pure node and publishing what it gives. That changes derived values at most, and it
leaves the inputs that the node feeds with the value that the node stands for, provided that the
node's own inputs hold what they are fed. -/
namespace ScriptGraph

variable {σ : Type} [Host σ]

omit [Host σ] in
lemma Graph.node?_absorb {g : Graph} {node : NodeId} {n : Node} {w : Workspace σ}
    (hn : g.node? node = some n) (hw : w.properties = n.properties) (j : NodeId) :
    (g.absorb node w).node? j = g.node? j := by
  simp only [node?, absorb, modifyNode, Arena.get?_modify]
  split
  · next hj =>
    rw [hj, show g.nodes.get? node = some n from hn, Option.map_some, hw]
  · rfl

namespace TickRules

variable {r : TickRules} {s : TickState σ} {source : NodeId} {b : Builtin}

lemma invoke_of_pure (hr : r.registry = .builtins)
    (hb : s.graph.typeOf? .builtins source = some b.nodeType) (hp : b.nodeType.isPure = true) :
    ∃ n, s.graph.node? source = some n ∧
      (r.invoke source s).2.graph.vars = s.graph.vars ∧ (r.invoke source s).2.scene = s.scene ∧
      (∀ id, (r.invoke source s).2.graph.node? id = s.graph.node? id) ∧
      ((∃ value, (r.perform b.nodeType n s).1 = .ok (.publishOne b.outlet value) ∧
          (r.invoke source s).1 = .publishOne b.outlet value) ∨
        (∃ e, (r.perform b.nodeType n s).1 = .error e) ∧ (r.invoke source s).1 = .idle) := by
  obtain ⟨n, hn, hlookup⟩ := Option.bind_eq_some_iff.mp hb
  have hlookup' : r.registry.lookup n.typeName = some b.nodeType := by rw [hr, hlookup]
  have hrun := Builtin.run_of_pure hp { r.context with node := n.id, typeName := n.typeName }
    ⟨n.properties, s.graph.vars, s.scene, []⟩
  rw [← perform_nodeType b n s] at hrun
  refine ⟨n, hn, ?_⟩
  rcases hperform : r.perform b.nodeType n s with ⟨e | outcome, w⟩
  · rw [hperform] at hrun
    obtain rfl : w = ⟨n.properties, s.graph.vars, s.scene, []⟩ := hrun.1
    rw [r.invoke_of_error hn hlookup' hperform]
    exact ⟨rfl, rfl, Graph.node?_absorb hn rfl, Or.inr ⟨⟨e, rfl⟩, rfl⟩⟩
  · rw [hperform] at hrun
    obtain rfl : w = ⟨n.properties, s.graph.vars, s.scene, []⟩ := hrun.1
    obtain ⟨value, rfl⟩ := hrun.2 outcome rfl
    rw [r.invoke_of_ok hn hlookup' hperform]
    exact ⟨rfl, rfl, Graph.node?_absorb hn rfl, Or.inl ⟨value, rfl, rfl⟩⟩

lemma property?_congr {g h : Graph} (hnode : ∀ id, h.node? id = g.node? id) (id : NodeId)
    (name : String) : h.property? id name = g.property? id name := by
  rw [Graph.property?, Graph.property?, hnode]

/-- Settling a pure node writes its own output and the inputs that it feeds. -/
lemma property?_settle_of_ne (hr : r.registry = .builtins)
    (hb : s.graph.typeOf? .builtins source = some b.nodeType) (hp : b.nodeType.isPure = true)
    {id : NodeId} {name : String} (hown : ¬ (id = source ∧ name = b.outlet))
    (hlink : ∀ c ∈ s.graph.connections.values, c.source = source →
      ¬ (id = c.target ∧ name = c.targetPort)) :
    (r.settle source s).graph.property? id name = s.graph.property? id name := by
  obtain ⟨n, hn, _, _, hnode, ⟨value, _, ho⟩ | ⟨_, ho⟩⟩ := invoke_of_pure hr hb hp
  · have hconn := Graph.connections_of_shape (r.shape_invoke source s)
    rw [settle, ho]
    refine (Graph.property?_publish_of_not ?_).trans (property?_congr hnode id name)
    rintro port hport (hself | ⟨c, hc, hto⟩)
    · rw [show port = b.outlet from List.mem_singleton.mp hport] at hself
      exact hown hself
    · obtain ⟨hmem, hsource, _⟩ := Graph.mem_connectionsFrom.mp hc
      rw [hconn] at hmem
      exact hlink c hmem hsource hto
  · rw [settle, ho]
    exact property?_congr hnode id name

/-- If a pure node has a value now, then the inputs it is connected to hold that value. -/
def Settled (r : TickRules) (s : TickState σ) (source : NodeId) : Prop :=
  ∀ (ha : r.Acyclic s.graph) (values : Table String Value), r.isPure s.graph source = true →
    r.eval s ha source = some values → ∀ c ∈ s.graph.connections.values, c.source = source →
      ∃ value, values.find? c.sourcePort = some value ∧
        s.graph.property? c.target c.targetPort = some value

variable {s' : TickState σ}

/-- A node stays settled while its targets keep what they hold and only derived values change. -/
lemma Settled.of_agree (hw : r.Wired s.graph) (hagree : r.Agree s s') (hs : r.Settled s source)
    (hsame : ∀ c ∈ s.graph.connections.values, c.source = source →
      s'.graph.property? c.target c.targetPort = s.graph.property? c.target c.targetPort) :
    r.Settled s' source := by
  intro ha values hp heval c hc hcs
  rw [Graph.connections_of_shape hagree.shape] at hc
  rw [r.isPure_of_shape hagree.shape] at hp
  rw [eval_of_agree hw hagree hw.acyclic ha hp] at heval
  rw [hsame c hc hcs]
  exact hs hw.acyclic values hp heval c hc hcs

lemma agree_settle (hw : r.Wired s.graph) (hp : r.isPure s.graph source = true) :
    r.Agree s (r.settle source s) := by
  obtain ⟨b, hb, hpure⟩ := builtin_of_isPure hw.registry hp
  obtain ⟨_, _, hvars, hscene, _⟩ := invoke_of_pure hw.registry hb hpure
  refine ⟨(r.keeps_shape s.graph.shape).settle rfl source, ?_, ?_, ?_⟩
  · unfold settle
    split
    · exact (Graph.vars_publish _ _ _).trans hvars
    · exact hvars
  · unfold settle
    split
    · exact hscene
    · exact hscene
  · rintro node name ⟨b', hb', _, hne, hfed⟩
    refine property?_settle_of_ne hw.registry hb hpure ?_ ?_
    · rintro ⟨rfl, rfl⟩
      obtain rfl := Builtin.nodeType_inj (Option.some.inj (hb.symm.trans hb'))
      exact hne rfl
    · rintro c hc rfl ⟨rfl, rfl⟩
      exact hfed c (hw.mem_feeds_target hc hp) rfl

/-- Another settled node stays settled: what it is connected to is fed by nobody else. -/
lemma Settled.settle_other (hw : r.Wired s.graph) (hp : r.isPure s.graph source = true)
    {node : NodeId} (hne : node ≠ source) (hs : r.Settled s node) :
    r.Settled (r.settle source s) node := by
  intro ha values hpnode
  have hagree := agree_settle hw hp
  have hpnode' := hpnode
  rw [r.isPure_of_shape hagree.shape] at hpnode'
  obtain ⟨b, hb, hpure⟩ := builtin_of_isPure hw.registry hp
  refine hs.of_agree hw hagree ?_ ha values hpnode
  rintro c hc rfl
  refine property?_settle_of_ne hw.registry hb hpure ?_ ?_
  · rintro ⟨htarget, hport⟩
    obtain ⟨bc, hbc, hpurec⟩ := builtin_of_isPure hw.registry hpnode'
    obtain ⟨_, b', input, hb', hi, _⟩ := hw.link hc hbc hpurec
    rw [htarget] at hb'
    obtain rfl := Builtin.nodeType_inj (Option.some.inj (hb.symm.trans hb'))
    exact Builtin.ne_outlet_of_input? hpure hi hport
  · rintro d hd rfl ⟨htarget, hport⟩
    have hfeeds := hw.mem_feeds_target hc hpnode'
    exact hne (congrArg Connection.source (hw.eq_of_feeds hfeeds hd htarget.symm hport.symm)).symm

/-- Where all that feeds a node is settled, the node has at its inputs what it is fed. -/
lemma find?_of_settled (hw : r.Wired s.graph)
    (hfed : ∀ p ∈ r.sources s.graph source, r.Settled s p) {n : Node}
    (hn : s.graph.node? source = some n)
    (hcarried : ∀ c ∈ r.feeds s.graph source, ∃ value, r.carried s hw.acyclic c = some value)
    (name : String) :
    (fedTable (r.feeds s.graph source) (r.carried s hw.acyclic) n.properties).find? name =
      n.properties.find? name := by
  by_cases hnot : ∀ c ∈ r.feeds s.graph source, c.targetPort ≠ name
  · exact find?_fedTable_of_ne hnot
  · push Not at hnot
    obtain ⟨c, hc, rfl⟩ := hnot
    obtain ⟨_, _, hmem, htarget, _, hpure⟩ := mem_feeds.mp hc
    obtain ⟨value, hvalue⟩ := hcarried c hc
    obtain ⟨values, heval, hfind⟩ := Option.bind_eq_some_iff.mp hvalue
    have hsettled := hfed c.source (mem_sources_iff_feeds.mpr ⟨c, hc, rfl⟩)
    obtain ⟨value', hfind', hheld⟩ := hsettled hw.acyclic values hpure heval c hmem rfl
    obtain rfl : value = value' := Option.some.inj (hfind.symm.trans hfind')
    have hown : n.properties.find? c.targetPort = some value := by
      simpa [Graph.property?, htarget, hn] using hheld
    rw [hown]
    refine find?_fedTable hc ?_ hvalue (Table.mem_keys_iff_find?.mpr ⟨value, hown⟩)
    intro d hd hport
    obtain ⟨_, _, hdmem, hdtarget, _⟩ := mem_feeds.mp hd
    exact hw.eq_of_feeds hc hdmem hdtarget hport

/-- A node is settled once it is run and has published, if all that feeds it is settled. -/
theorem settled_settle (hw : r.Wired s.graph) (hp : r.isPure s.graph source = true)
    (hfed : ∀ p ∈ r.sources s.graph source, r.Settled s p) :
    r.Settled (r.settle source s) source := by
  rintro ha values - heval c hc rfl
  have hagree := agree_settle hw hp
  rw [Graph.connections_of_shape hagree.shape] at hc
  rw [eval_of_agree hw hagree hw.acyclic ha hp] at heval
  obtain ⟨n, t, outcome, hn, ht, hcarried, hperform, hpublished⟩ := eval_eq_some _ heval
  obtain ⟨b, hb, hpure⟩ := builtin_of_isPure hw.registry hp
  have htype : s.graph.typeOf? .builtins c.source = some t := by
    rw [← hw.registry]
    exact Option.bind_eq_some_iff.mpr ⟨n, hn, ht⟩
  obtain rfl : b.nodeType = t := Option.some.inj (hb.symm.trans htype)
  -- the node runs on what it has as it would on what it is fed
  have hactual : (r.perform b.nodeType n s).1 = .ok outcome := by
    rw [← hperform, perform_nodeType, perform_nodeType]
    refine Builtin.run_congr_of_pure hpure _ rfl rfl fun name _ => ?_
    exact (find?_of_settled hw hfed hn hcarried name).symm
  obtain ⟨m, hm, _, _, hnode, ⟨value, hok, hinvoke⟩ | ⟨⟨e, herror⟩, _⟩⟩ :=
    invoke_of_pure hw.registry hb hpure
  · obtain rfl : n = m := Option.some.inj (hn.symm.trans hm)
    obtain rfl : outcome = .publishOne b.outlet value := Except.ok.inj (hactual.symm.trans hok)
    obtain rfl : .ofList [(b.outlet, value)] = values := Option.some.inj hpublished
    obtain ⟨hport, b', input, hb', hi, hdata⟩ := hw.link hc hb hpure
    have hlink : c ∈ (r.invoke c.source s).2.graph.connectionsFrom c.source b.outlet := by
      rw [Graph.connectionsFrom_of_shape (r.shape_invoke c.source s)]
      exact List.mem_filter.mpr ⟨hc, by simp [hport]⟩
    refine ⟨value, by rw [hport, Table.find?_ofList_singleton], ?_⟩
    rw [settle, hinvoke]
    refine Graph.property?_publish_singleton (.inr ⟨c, hlink, rfl, rfl⟩) ?_
    rw [property?_congr hnode]
    exact Option.isSome_iff_exists.mpr (hw.coherent.property?_of_input hb' hi hdata)
  · obtain rfl : n = m := Option.some.inj (hn.symm.trans hm)
    rw [hactual] at herror
    cases herror

/-- What an evaluation of pure nodes brings about: it changes derived values at most, what was
settled before is settled still, and so are the nodes evaluated. -/
structure Refreshes (r : TickRules) (s s' : TickState σ) (nodes : List NodeId) : Prop where
  agree : r.Agree s s'
  keeps : ∀ node, r.Settled s node → r.Settled s' node
  settled : ∀ node ∈ nodes, r.Settled s' node

namespace Refreshes

lemma refl (r : TickRules) (s : TickState σ) : r.Refreshes s s [] :=
  ⟨.refl r s, fun _ h => h, nofun⟩

lemma trans {s'' : TickState σ} {nodes more : List NodeId} (h : r.Refreshes s s' nodes)
    (h' : r.Refreshes s' s'' more) : r.Refreshes s s'' (nodes ++ more) := by
  refine ⟨h.agree.trans h'.agree, fun node hs => h'.keeps node (h.keeps node hs), ?_⟩
  intro node hnode
  rcases List.mem_append.mp hnode with hnode | hnode
  · exact h'.keeps node (h.settled node hnode)
  · exact h'.settled node hnode

lemma weaken {nodes fewer : List NodeId} (h : r.Refreshes s s' nodes)
    (hsub : ∀ node ∈ fewer, node ∈ nodes) : r.Refreshes s s' fewer :=
  ⟨h.agree, h.keeps, fun node hnode => h.settled node (hsub node hnode)⟩

lemma counted (hw : r.Wired s.graph) (isRoot : Bool) : r.Refreshes s (s.counted isRoot) [] := by
  have hagree : r.Agree s (s.counted isRoot) := ⟨rfl, rfl, rfl, fun _ _ _ => rfl⟩
  exact ⟨hagree, fun _ hs => hs.of_agree hw hagree fun _ _ _ => rfl, nofun⟩

lemma settle (hw : r.Wired s.graph) (hp : r.isPure s.graph source = true)
    (hfed : ∀ p ∈ r.sources s.graph source, r.Settled s p) :
    r.Refreshes s (r.settle source s) [source] := by
  have hself := settled_settle hw hp hfed
  refine ⟨agree_settle hw hp, ?_, by simpa using hself⟩
  intro node hs
  by_cases hne : node = source
  · exact hne ▸ hself
  · exact hs.settle_other hw hp hne

end Refreshes

end TickRules

end ScriptGraph
