import ScriptGraph.Proofs.Mirroring

/-! Connections that no tick ever uses. A node of an unknown type asks for nothing and is never
pulled, and a sequence goes on at its first connected output only. Connections from the one, and
from the other outputs of the other, may be taken out: the tick of the graph without them goes the
same way, step by step. -/
namespace ScriptGraph

variable {σ : Type} [Host σ]

namespace Graph

/-- A connection that leads nowhere: nobody knows the type of its source, or its source is a
sequence that goes on at an earlier output. -/
inductive Dead (g : Graph) (registry : Registry) (c : Connection) : Prop
  | placeholder {n} (source : g.node? c.source = some n)
      (unknown : registry.lookup n.typeName = none) : Dead g registry c
  | passedOver {port} (type : g.typeOf? registry c.source = some Builtin.sequence.nodeType)
      (earlier : [port, c.sourcePort].Sublist Builtin.sequencePorts)
      (connected : g.connectionsFrom c.source port ≠ []) : Dead g registry c

/-- The graph with some connections taken out. -/
def prune (g : Graph) (keep : ConnectionId → Connection → Bool) : Graph :=
  { g with connections := g.connections.filter keep }

/-- None of the connections that are taken out starts at the node. -/
def Spared (g : Graph) (keep : ConnectionId → Connection → Bool) (node : NodeId) : Prop :=
  ∀ id c, (id, c) ∈ g.connections.entries → keep id c = false → c.source ≠ node

variable {g : Graph} {registry : Registry} {keep : ConnectionId → Connection → Bool}

lemma Dead.source_type {c : Connection} (h : g.Dead registry c) :
    g.typeOf? registry c.source = none ∨
      g.typeOf? registry c.source = some Builtin.sequence.nodeType := by
  cases h with
  | placeholder source unknown =>
    left
    rw [typeOf?, source]
    exact unknown
  | passedOver type => exact Or.inr type

lemma filter_values_prune {p : Connection → Bool}
    (hkept : ∀ id c, (id, c) ∈ g.connections.entries → p c = true → keep id c = true) :
    (g.prune keep).connections.values.filter p = g.connections.values.filter p := by
  simp only [prune, Table.values, Table.entries_filter, List.filter_map, List.filter_filter]
  congr 1
  apply List.filter_congr
  rintro ⟨id, c⟩ he
  cases hp : p c with
  | false => simp [hp]
  | true => simp [hp, hkept id c he hp]

lemma connectionsFrom_prune {node : NodeId} {port : String}
    (hkept : ∀ id c, (id, c) ∈ g.connections.entries → keep id c = false → c.source = node →
      c.sourcePort ≠ port) :
    (g.prune keep).connectionsFrom node port = g.connectionsFrom node port := by
  refine filter_values_prune fun id c hc hp => ?_
  have hport : c.source = node ∧ c.sourcePort = port := by simpa using hp
  cases hk : keep id c with
  | true => rfl
  | false => exact absurd hport.2 (hkept id c hc hk hport.1)

lemma Spared.connectionsFrom {node : NodeId} (h : g.Spared keep node) (port : String) :
    (g.prune keep).connectionsFrom node port = g.connectionsFrom node port :=
  connectionsFrom_prune fun id c hc hk hsource => absurd hsource (h id c hc hk)

lemma Spared.targets {node : NodeId} (h : g.Spared keep node) (port : String) :
    (g.prune keep).targets node port = g.targets node port := by
  rw [Graph.targets, Graph.targets, h.connectionsFrom]

lemma Spared.of_shape {h : Graph} {node : NodeId} (hg : g.Spared keep node)
    (hs : h.shape = g.shape) : h.Spared keep node := by
  intro id c hc
  rw [connections_of_shape hs] at hc
  exact hg id c hc

/-- A spared node publishes to the same inputs. -/
theorem Spared.publish {node : NodeId} (h : g.Spared keep node) (values : Table String Value) :
    (g.prune keep).publish node values =
      ((g.publish node values).1, (g.publish node values).2.prune keep) := by
  let pruned (a : List NodeId × Graph) : List NodeId × Graph := (a.1, a.2.prune keep)
  have hdeliver (value : Value) (a : List NodeId × Graph) (c : Connection) :
      deliver value (pruned a) c = pruned (deliver value a c) := by
    have hnodes : (pruned a).2.nodes = a.2.nodes := rfl
    unfold deliver
    rw [hnodes]
    split <;> rfl
  have hfold := List.foldl_rel (l := values.entries) (f := publishOne node) (g := publishOne node)
    (a := ([], g)) (b := pruned ([], g))
    (r := fun a b => b = pruned a ∧ a.2.connections = g.connections) ⟨rfl, rfl⟩ ?_
  · exact hfold.1
  · rintro entry _ ⟨reached, k⟩ _ ⟨rfl, hconn⟩
    refine ⟨?_, foldl_deliver_induction (P := fun k => k.connections = g.connections) hconn
      fun _ _ _ hk => hk⟩
    have hspared : (k.modifyNode node fun n => n.setProperty entry.1 entry.2).Spared keep node := by
      intro id c hc
      exact h id c (hconn ▸ hc)
    let own := k.modifyNode node fun n => n.setProperty entry.1 entry.2
    change ((own.prune keep).connectionsFrom node entry.1).foldl (deliver entry.2)
      (pruned (reached, own)) = _
    rw [hspared.connectionsFrom]
    exact List.foldl_hom pruned fun a c => hdeliver entry.2 a c

end Graph

/-- A port that stands before another one in a list. -/
lemma mem_of_earlier {α : Type} {front rest : List α} {a b : α}
    (h : [a, b].Sublist (front ++ b :: rest)) (hb : b ∉ rest) : a ∈ front := by
  obtain ⟨l, l', hsplit, hl, hl'⟩ := List.sublist_append_iff.mp h
  match l, hsplit with
  | [], hsplit =>
    rw [List.nil_append] at hsplit
    subst hsplit
    cases hl' with
    | cons _ hrest => exact absurd (hrest.subset (by simp)) hb
    | cons_cons _ hrest => exact absurd (hrest.subset (by simp)) hb
  | c :: l, hsplit =>
    obtain ⟨rfl, -⟩ := List.cons.inj hsplit
    exact hl.subset (by simp)

namespace TickState

/-- The state with some connections of the graph taken out. -/
def prune (s : TickState σ) (keep : ConnectionId → Connection → Bool) : TickState σ :=
  { s with graph := s.graph.prune keep }

omit [Host σ] in
@[simp] lemma log_prune (s : TickState σ) (keep : ConnectionId → Connection → Bool) :
    (s.prune keep).log = s.log := rfl

end TickState

namespace TickRules

variable {r : TickRules} {g : Graph} {keep : ConnectionId → Connection → Bool} {node : NodeId}

/-- Every connection that is taken out is dead. -/
def Prunes (r : TickRules) (g : Graph) (keep : ConnectionId → Connection → Bool) : Prop :=
  ∀ id c, (id, c) ∈ g.connections.entries → keep id c = false → g.Dead r.registry c

namespace Prunes

lemma of_shape {h : Graph} (hp : r.Prunes g keep) (hs : h.shape = g.shape) : r.Prunes h keep := by
  intro id c hc hk
  rw [Graph.connections_of_shape hs] at hc
  cases hp id c hc hk with
  | placeholder source unknown =>
    have hname := Graph.map_typeName_of_shape hs c.source
    rw [source, Option.map_some] at hname
    obtain ⟨m, hm, hsame⟩ := Option.map_eq_some_iff.mp hname
    exact .placeholder hm (hsame ▸ unknown)
  | passedOver type earlier connected =>
    rw [← Graph.typeOf?_of_shape hs] at type
    rw [← Graph.connectionsFrom_of_shape hs] at connected
    exact .passedOver type earlier connected

/-- Nothing is taken out at a node of a registered type, sequences apart. -/
lemma spared {t : NodeType} (hp : r.Prunes g keep) (ht : g.typeOf? r.registry node = some t)
    (hne : t ≠ Builtin.sequence.nodeType) : g.Spared keep node := by
  rintro id c hc hk rfl
  rcases (hp id c hc hk).source_type with hnone | hsequence
  · rw [hnone] at ht
    cases ht
  · exact hne (Option.some.inj (ht.symm.trans hsequence))

lemma isPure_eq_false (hp : r.Prunes g keep) {id : ConnectionId} {c : Connection}
    (hc : (id, c) ∈ g.connections.entries) (hk : keep id c = false) :
    r.isPure g c.source = false := by
  rcases (hp id c hc hk).source_type with htype | htype
  · rw [isPure, htype]
    rfl
  · rw [isPure, htype]
    rfl

/-- Nothing that is taken out feeds a node. -/
lemma sources (hp : r.Prunes g keep) (node : NodeId) :
    r.sources (g.prune keep) node = r.sources g node := by
  have htype : (g.prune keep).typeOf? r.registry node = g.typeOf? r.registry node := rfl
  unfold TickRules.sources
  rw [htype]
  split
  · rfl
  · dsimp only
    congr 2
    refine Graph.filter_values_prune fun id c hc hfeeds => ?_
    cases hk : keep id c with
    | true => rfl
    | false =>
      have hpure : r.isPure g c.source = true := (Bool.and_eq_true_iff.mp hfeeds).2
      rw [hp.isPure_eq_false hc hk] at hpure
      cases hpure

/-- A sequence that has found nothing connected so far finds the same at its next output. -/
lemma targets_of_sequence {port : String} {front rest : List String} (hp : r.Prunes g keep)
    (ht : g.typeOf? r.registry node = some Builtin.sequence.nodeType)
    (hports : front ++ port :: rest = Builtin.sequencePorts)
    (hfront : ∀ q ∈ front, g.targets node q = []) :
    (g.prune keep).targets node port = g.targets node port := by
  rw [Graph.targets, Graph.targets]
  congr 1
  refine Graph.connectionsFrom_prune fun id c hc hk hsource hport => ?_
  subst hsource hport
  cases hp id c hc hk with
  | placeholder source unknown =>
    rw [Graph.typeOf?, source] at ht
    exact absurd ht (by simp [unknown])
  | @passedOver q _ earlier connected =>
    have hnodup : (front ++ c.sourcePort :: rest).Nodup := hports ▸ by decide
    rw [← hports] at earlier
    have hmem := mem_of_earlier earlier (List.nodup_cons.mp (List.nodup_append.mp hnodup).2.1).1
    exact connected (List.map_eq_nil_iff.mp (hfront q hmem))

end Prunes

lemma invoke_prune (r : TickRules) (node : NodeId) (s : TickState σ)
    (keep : ConnectionId → Connection → Bool) :
    r.invoke node (s.prune keep) = ((r.invoke node s).1, (r.invoke node s).2.prune keep) := by
  refine invoke_cases (P := fun ran =>
    r.invoke node (s.prune keep) = (ran.1, ran.2.prune keep)) ?_ ?_ ?_ ?_
  · exact r.invoke_of_absent (s := s.prune keep)
  · exact fun n => r.invoke_of_unregistered (s := s.prune keep)
  · exact fun n t outcome w => r.invoke_of_ok (s := s.prune keep)
  · exact fun n t e w => r.invoke_of_error (s := s.prune keep)

/-- What is asked for by a node at which connections are taken out: nothing, or to go on as a
sequence. -/
lemma Prunes.outcome {s : TickState σ} (hp : r.Prunes s.graph keep) (node : NodeId) :
    s.graph.Spared keep node ∨ (r.invoke node s).1 = .idle ∨
      s.graph.typeOf? r.registry node = some Builtin.sequence.nodeType ∧
        (r.invoke node s).1 = .flows Builtin.sequencePorts true := by
  refine invoke_cases (P := fun ran => s.graph.Spared keep node ∨ ran.1 = .idle ∨
    s.graph.typeOf? r.registry node = some Builtin.sequence.nodeType ∧
      ran.1 = .flows Builtin.sequencePorts true) ?_ ?_ ?_ ?_
  · exact fun _ => .inr (.inl rfl)
  · exact fun _ _ _ => .inr (.inl rfl)
  · intro n t outcome w hn ht hran
    have htype : s.graph.typeOf? r.registry node = some t := by
      rw [Graph.typeOf?, hn]
      exact ht
    by_cases hsequence : t = Builtin.sequence.nodeType
    · subst hsequence
      have houtcome : outcome = .flows Builtin.sequencePorts true :=
        (Except.ok.inj (congrArg Prod.fst hran)).symm
      exact .inr (.inr ⟨htype, houtcome⟩)
    · exact .inl (hp.spared htype hsequence)
  · exact fun _ _ _ _ _ _ _ => .inr (.inl rfl)

/-- What a tick may come to once connections are taken out. A sequence at which some are has found
nothing connected at the outputs it has tried. -/
def Pruned (r : TickRules) (g : Graph) (keep : ConnectionId → Connection → Bool) : Task → Prop
  | .follow node outcome => g.Spared keep node ∨ outcome = .idle ∨
      g.typeOf? r.registry node = some Builtin.sequence.nodeType ∧
        outcome = .flows Builtin.sequencePorts true
  | .ports node sequential ports => g.Spared keep node ∨
      g.typeOf? r.registry node = some Builtin.sequence.nodeType ∧ sequential = true ∧
        ∃ front, front ++ ports = Builtin.sequencePorts ∧ ∀ q ∈ front, g.targets node q = []
  | _ => True

lemma Prunes.settle {s : TickState σ} (hp : r.Prunes s.graph keep) (source : NodeId) :
    r.settle source (s.prune keep) = (r.settle source s).prune keep := by
  unfold TickRules.settle
  rw [invoke_prune]
  cases hvalues : (r.invoke source s).1.published with
  | none => rfl
  | some values =>
    have hspared : s.graph.Spared keep source := by
      rcases hp.outcome source with h | h | ⟨_, h⟩
      · exact h
      · simp [h, Outcome.published] at hvalues
      · simp [h, Outcome.published] at hvalues
    have hran := hspared.of_shape (r.shape_invoke source s)
    simp only [TickState.publish, TickState.prune, hran.publish]

/-- The tick goes the same way on both graphs. -/
theorem Prunes.mirrors (hp : r.Prunes g keep) :
    r.Mirrors (r.Pruned g keep) fun s s' : TickState σ =>
      s.graph.shape = g.shape ∧ s' = s.prune keep := by
  refine {
    countRoot := ?_, counted := ?_, refuseReentry := ?_, refuseDepth := ?_
    roots := fun _ => ⟨trivial, trivial⟩, visit := fun _ => ⟨trivial, trivial⟩
    evaluate := fun _ => ⟨trivial, trivial⟩, dispatch := fun _ => trivial
    sources := ?_, settle := ?_, invoke := ?_, flow := ?_, publish := ?_
    publishThenFlow := ?_, flows := ?_, ports := ?_ }
  · rintro s _ ⟨hs, rfl⟩
    exact ⟨hs, rfl⟩
  · rintro s _ ⟨hs, rfl⟩ isRoot
    exact ⟨hs, rfl⟩
  · rintro s _ ⟨hs, rfl⟩ node
    exact ⟨hs, rfl⟩
  · rintro s _ ⟨hs, rfl⟩ node depth
    exact ⟨hs, rfl⟩
  · rintro node s _ - ⟨hs, rfl⟩
    exact ⟨(hp.of_shape hs).sources node, trivial⟩
  · rintro source s _ - ⟨hs, rfl⟩
    refine ⟨?_, (hp.of_shape hs).settle source⟩
    exact (r.keeps_shape g.shape).settle hs source
  · rintro node s _ - ⟨hs, rfl⟩
    rw [invoke_prune]
    refine ⟨rfl, ⟨(r.shape_invoke node s).trans hs, rfl⟩, ?_⟩
    rcases (hp.of_shape hs).outcome node with h | h | ⟨htype, h⟩
    · exact .inl (h.of_shape hs.symm)
    · exact .inr (.inl h)
    · rw [Graph.typeOf?_of_shape hs] at htype
      exact .inr (.inr ⟨htype, h⟩)
  · rintro node port s _ ok ⟨hs, rfl⟩
    rcases ok with h | h | ⟨_, h⟩
    · exact ⟨(h.of_shape hs).targets port, trivial⟩
    · cases h
    · cases h
  · rintro node outcome values s _ ok published ⟨hs, rfl⟩
    have h : s.graph.Spared keep node := by
      rcases ok with h | rfl | ⟨_, rfl⟩
      · exact h.of_shape hs
      · cases published
      · cases published
    refine ⟨⟨(s.graph.shape_publish node values).trans hs, ?_⟩, ?_, trivial⟩
    · simp only [TickState.publish, TickState.prune, h.publish]
    · simp only [receivers, TickState.prune, h.publish]
      rfl
  · rintro node port values (h | h | ⟨_, h⟩)
    · exact .inl h
    · cases h
    · cases h
  · rintro node ports sequential (h | h | ⟨htype, h⟩)
    · exact .inl h
    · cases h
    · cases h
      exact .inr ⟨htype, rfl, [], rfl, by simp⟩
  · rintro node sequential port rest s _ ok ⟨hs, rfl⟩
    rw [Graph.targets_of_shape hs]
    rcases ok with h | ⟨htype, rfl, front, hports, hfront⟩
    · exact ⟨(Graph.targets_of_shape hs node port) ▸ (h.of_shape hs).targets port, trivial,
        fun _ => .inl h⟩
    · have htype' := (Graph.typeOf?_of_shape hs r.registry node).trans htype
      have hfront' : ∀ q ∈ front, s.graph.targets node q = [] := fun q hq =>
        (Graph.targets_of_shape hs node q).trans (hfront q hq)
      have hsame := (hp.of_shape hs).targets_of_sequence htype' hports hfront'
      rw [Graph.targets_of_shape hs node port] at hsame
      refine ⟨hsame, trivial, fun hempty => .inr ⟨htype, rfl, front ++ [port], ?_, ?_⟩⟩
      · rw [List.append_assoc]
        exact hports
      · intro q hq
        rcases List.mem_append.mp hq with hq | hq
        · exact hfront q hq
        · rw [List.mem_singleton.mp hq]
          simpa using hempty

/-- Dead connections may be taken out, all or some of them: the tick of the graph without them ends
in the same state, but for the connections themselves. -/
theorem run_prune (r : TickRules) (collisionsOnly : Bool) (g : Graph) (scene : σ)
    (keep : ConnectionId → Connection → Bool)
    (dead : ∀ id c, (id, c) ∈ g.connections.entries → keep id c = false →
      g.Dead r.registry c) :
    r.run collisionsOnly (g.prune keep) scene = (r.run collisionsOnly g scene).prune keep := by
  have hprunes : r.Prunes g keep := dead
  have hend : (r.run collisionsOnly g scene).graph.shape = g.shape ∧
      r.run collisionsOnly (g.prune keep) scene = (r.run collisionsOnly g scene).prune keep :=
    hprunes.mirrors.run ⟨rfl, rfl⟩ rfl trivial
  exact hend.2

end TickRules

/-- An event leads to a sequence that is connected at its first and at its second output. A node of
an unknown type feeds the node at the first. -/
def Graph.forked : Graph where
  id := default
  entity := default
  nodes :=
    ⟨[⟨0, some ⟨⟨0, 0⟩, "OnUpdate", .zero, .ofList [("deltaTime", .float .zero)]⟩⟩,
      ⟨0, some ⟨⟨1, 0⟩, "Sequence", .zero, .empty⟩⟩,
      ⟨0, some ⟨⟨2, 0⟩, "Print", .zero, .ofList [("Value", .text "first")]⟩⟩,
      ⟨0, some ⟨⟨3, 0⟩, "Print", .zero, .ofList [("Value", .text "second")]⟩⟩,
      ⟨0, some ⟨⟨4, 0⟩, "Gadget", .zero, .ofList [("Size", .int 2)]⟩⟩], [], 5⟩
  connections := .ofList
    [(⟨.ofNat 1⟩, ⟨⟨.ofNat 1⟩, ⟨0, 0⟩, "Exec", ⟨1, 0⟩, "Exec"⟩),
      (⟨.ofNat 2⟩, ⟨⟨.ofNat 2⟩, ⟨1, 0⟩, "Second", ⟨3, 0⟩, "Exec"⟩),
      (⟨.ofNat 3⟩, ⟨⟨.ofNat 3⟩, ⟨1, 0⟩, "First", ⟨2, 0⟩, "Exec"⟩),
      (⟨.ofNat 4⟩, ⟨⟨.ofNat 4⟩, ⟨4, 0⟩, "Size", ⟨2, 0⟩, "Value"⟩)]
  vars := .empty

theorem run_forked_pruned :
    let r : TickRules := ⟨.builtins, ⟨default, .one, 0, none⟩, 8⟩
    let g := Graph.forked
    let keep (id : ConnectionId) (_ : Connection) : Bool := id ≠ ⟨.ofNat 2⟩ && id ≠ ⟨.ofNat 4⟩
    (∀ id c, (id, c) ∈ g.connections.entries → keep id c = false → g.Dead r.registry c) ∧
      g.connections.size = 4 ∧ (g.prune keep).connections.size = 2 ∧
      (r.run false (g.prune keep) Scene.empty).log = (r.run false g Scene.empty).log ∧
      (r.run false g Scene.empty).log.size = 4 := by
  intro r g keep
  have dead : ∀ id c, (id, c) ∈ g.connections.entries → keep id c = false →
      g.Dead r.registry c := by
    intro id c hc hk
    have htaken : (id, c) ∈ g.connections.entries.filter fun e => !keep e.1 e.2 :=
      List.mem_filter.mpr ⟨hc, by simp [hk]⟩
    have hentries : (g.connections.entries.filter fun e => !keep e.1 e.2) =
        [(⟨.ofNat 2⟩, ⟨⟨.ofNat 2⟩, ⟨1, 0⟩, "Second", ⟨3, 0⟩, "Exec"⟩),
          (⟨.ofNat 4⟩, ⟨⟨.ofNat 4⟩, ⟨4, 0⟩, "Size", ⟨2, 0⟩, "Value"⟩)] := by decide
    rw [hentries] at htaken
    simp only [List.mem_cons, Prod.mk.injEq, List.not_mem_nil, or_false] at htaken
    rcases htaken with ⟨_, rfl⟩ | ⟨_, rfl⟩
    · have earlier : ["First", "Second"].Sublist Builtin.sequencePorts := by decide
      exact .passedOver rfl earlier (by decide)
    · exact .placeholder (n := ⟨⟨4, 0⟩, "Gadget", .zero, .ofList [("Size", .int 2)]⟩) rfl rfl
  have hrun := TickRules.run_prune r false g Scene.empty keep dead
  have hlog : (r.run false (g.prune keep) Scene.empty).log = (r.run false g Scene.empty).log :=
    (congrArg TickState.log hrun).trans (TickState.log_prune _ _)
  exact ⟨dead, by decide, by decide, hlog, by decide +kernel⟩

end ScriptGraph
