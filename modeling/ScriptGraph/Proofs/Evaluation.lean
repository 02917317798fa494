import Mathlib.Data.Finite.Prod
import Mathlib.Data.Fintype.EquivFin
import Mathlib.Order.WellFounded
import ScriptGraph.Proofs.Authored

/-! What the pure nodes of a graph stand for. As long as they do not feed each other in a circle, a
pure node has a value by recursion: run its script on its own properties, with every input that a
pure node feeds replaced by the value of that node. -/
namespace ScriptGraph

variable {σ : Type} [Host σ]

instance : Finite NodeId :=
  Finite.of_injective (fun id : NodeId => (id.index.toFin, id.generation.toFin)) fun i j h => by
    obtain ⟨hi, hg⟩ := Prod.mk.inj h
    cases i
    cases j
    simp_all [UInt32.toFin_inj]

/-- Whether the node's type has a data input of that name. -/
def Graph.HasDataInput (g : Graph) (node : NodeId) (port : String) : Prop :=
  ∃ t input, g.typeOf? .builtins node = some t ∧ t.input? port = some input ∧
    input.type.isExec = false

/-- No data input has two incoming connections. -/
def Graph.SingleFed (g : Graph) : Prop :=
  ∀ c ∈ g.connections.values, ∀ d ∈ g.connections.values, c.target = d.target →
    c.targetPort = d.targetPort → g.HasDataInput c.target c.targetPort → c = d

namespace TickRules

/-- The connections that lead from pure nodes to the data inputs of a node. -/
def feeds (r : TickRules) (g : Graph) (node : NodeId) : List Connection :=
  match g.typeOf? r.registry node with
  | none => []
  | some t => g.connections.values.filter fun c =>
    c.target = node && (t.input? c.targetPort).any (fun p => !p.type.isExec) && r.isPure g c.source

/-- The first node is pure and feeds a data input of the second. -/
def Feeds (r : TickRules) (g : Graph) (source node : NodeId) : Prop := source ∈ r.sources g node

/-- No node feeds itself through others. The nodes of a circle feed something, so all are pure. -/
def Acyclic (r : TickRules) (g : Graph) : Prop := ∀ node, ¬ Relation.TransGen (r.Feeds g) node node

variable {r : TickRules} {g h : Graph}

lemma mem_feeds {node : NodeId} {c : Connection} :
    c ∈ r.feeds g node ↔ ∃ t, g.typeOf? r.registry node = some t ∧ c ∈ g.connections.values ∧
      c.target = node ∧ (t.input? c.targetPort).any (fun p => !p.type.isExec) = true ∧
        r.isPure g c.source = true := by
  unfold feeds
  split
  · next hn => simp [hn]
  · next t ht => simp [ht, and_assoc]

lemma mem_sources_iff_feeds {node source : NodeId} :
    source ∈ r.sources g node ↔ ∃ c ∈ r.feeds g node, c.source = source := by
  simp only [mem_sources, mem_feeds]
  constructor
  · rintro ⟨t, ht, c, hc, hs, htarget, hin, hp⟩
    exact ⟨c, ⟨t, ht, hc, htarget, hin, hp⟩, hs⟩
  · rintro ⟨c, ⟨t, ht, hc, htarget, hin, hp⟩, hs⟩
    exact ⟨t, ht, c, hc, hs, htarget, hin, hp⟩

lemma feeds_of_shape (hs : g.shape = h.shape) (node : NodeId) :
    r.feeds g node = r.feeds h node := by
  unfold feeds
  simp only [Graph.typeOf?_of_shape hs, Graph.connections_of_shape hs, r.isPure_of_shape hs]

lemma acyclic_of_shape (hs : g.shape = h.shape) (ha : r.Acyclic h) : r.Acyclic g := by
  have hfeeds : r.Feeds g = r.Feeds h := by
    funext source node
    rw [Feeds, Feeds, r.sources_of_shape hs]
  rw [Acyclic, hfeeds]
  exact ha

theorem Acyclic.wellFounded (ha : r.Acyclic g) : WellFounded (r.Feeds g) := by
  have hirrefl : Std.Irrefl (Relation.TransGen (r.Feeds g)) := ⟨ha⟩
  have htrans : IsTrans NodeId (Relation.TransGen (r.Feeds g)) := ⟨fun _ _ _ => .trans⟩
  have hwf := Finite.wellFounded_of_trans_of_irrefl (Relation.TransGen (r.Feeds g))
  exact Subrelation.wf (fun hf => .single hf) hwf

/-- Nodes that are fed only by lower ones are not fed in a circle. -/
lemma acyclic_of_lt (rank : NodeId → Nat)
    (hlt : ∀ c ∈ g.connections.values, r.isPure g c.source = true → rank c.source < rank c.target) :
    r.Acyclic g := by
  have hstep {a b : NodeId} (hf : r.Feeds g a b) : rank a < rank b := by
    obtain ⟨_, _, c, hc, rfl, rfl, _, hp⟩ := mem_sources.mp hf
    exact hlt c hc hp
  have hchain {a b : NodeId} (hf : Relation.TransGen (r.Feeds g) a b) : rank a < rank b := by
    induction hf with
    | single hf => exact hstep hf
    | tail _ hf ih => exact ih.trans (hstep hf)
  exact fun node hcycle => Nat.lt_irrefl _ (hchain hcycle)

/-- The table in which each fed input holds what it is fed. -/
def fedTable (feeds : List Connection) (fed : Connection → Option Value) (own : Properties) :
    Properties :=
  own.map fun name value => ((feeds.find? fun c => c.targetPort = name).bind fed).getD value

/-- What a node publishes on the properties it has, given what its inputs are fed; nothing if one
of them is fed nothing, or if the node fails. -/
def evalWith (r : TickRules) (s : TickState σ) (node : NodeId) (fed : Connection → Option Value) :
    Option (Table String Value) :=
  match s.graph.node? node with
  | none => none
  | some n =>
    match r.registry.lookup n.typeName with
    | none => none
    | some t =>
      if (r.feeds s.graph node).all fun c => (fed c).isSome then
        let table := fedTable (r.feeds s.graph node) fed n.properties
        match (r.perform t { n with properties := table } s).1 with
        | .ok outcome => outcome.published
        | .error _ => none
      else none

/-- What a pure node publishes now, with all that feeds it evaluated now. -/
def eval (r : TickRules) (s : TickState σ) (ha : r.Acyclic s.graph) (node : NodeId) :
    Option (Table String Value) :=
  r.evalWith s node fun c =>
    if _hc : c ∈ r.feeds s.graph node then
      (r.eval s ha c.source).bind fun values => values.find? c.sourcePort
    else none
termination_by ha.wellFounded.wrap node
decreasing_by exact mem_sources_iff_feeds.mpr ⟨c, _hc, rfl⟩

/-- What a connection from a pure node carries now. -/
def carried (r : TickRules) (s : TickState σ) (ha : r.Acyclic s.graph) (c : Connection) :
    Option Value :=
  (r.eval s ha c.source).bind fun values => values.find? c.sourcePort

variable {s s' : TickState σ} {node : NodeId} {feeds : List Connection}
  {fed fed' : Connection → Option Value}

lemma fedTable_congr (hfed : ∀ c ∈ feeds, fed c = fed' c) (own : Properties) :
    fedTable feeds fed own = fedTable feeds fed' own := by
  unfold fedTable
  congr 1
  funext name value
  cases hc : feeds.find? fun c => c.targetPort = name with
  | none => rfl
  | some c => simp [hfed c (List.mem_of_find?_eq_some hc)]

lemma evalWith_congr (hfed : ∀ c ∈ r.feeds s.graph node, fed c = fed' c) :
    r.evalWith s node fed = r.evalWith s node fed' := by
  have hall : ((r.feeds s.graph node).all fun c => (fed c).isSome) =
      (r.feeds s.graph node).all fun c => (fed' c).isSome := by
    rw [Bool.eq_iff_iff, List.all_eq_true, List.all_eq_true]
    exact forall₂_congr fun c hc => by rw [hfed c hc]
  simp only [evalWith, hall, fedTable_congr hfed]

theorem eval_eq (ha : r.Acyclic s.graph) (node : NodeId) :
    r.eval s ha node = r.evalWith s node (r.carried s ha) := by
  rw [eval]
  apply evalWith_congr
  intro c hc
  simp [hc, carried]

lemma find?_fedTable_of_ne {own : Properties} {name : String}
    (hne : ∀ c ∈ feeds, c.targetPort ≠ name) :
    (fedTable feeds fed own).find? name = own.find? name := by
  have hnone : (feeds.find? fun c => c.targetPort = name) = none := by
    simpa using hne
  rw [fedTable, Table.find?_map, hnone]
  cases own.find? name <;> rfl

lemma find?_fedTable_congr {own own' : Properties} {name : String}
    (hall : (feeds.all fun c => (fed c).isSome) = true)
    (hfed : ¬ ∀ c ∈ feeds, c.targetPort ≠ name) (hkeys : own'.keys = own.keys) :
    (fedTable feeds fed own').find? name = (fedTable feeds fed own).find? name := by
  obtain ⟨c, hc⟩ : ∃ c, (feeds.find? fun c => c.targetPort = name) = some c := by
    simpa [List.find?_isSome, ← Option.isSome_iff_exists] using hfed
  obtain ⟨value, hv⟩ := Option.isSome_iff_exists.mp
    (List.all_eq_true.mp hall c (List.mem_of_find?_eq_some hc))
  rw [fedTable, fedTable, Table.find?_map, Table.find?_map, hc]
  by_cases hmem : name ∈ own.keys
  · obtain ⟨v, hv⟩ := Table.mem_keys_iff_find?.mp hmem
    obtain ⟨v', hv'⟩ := Table.mem_keys_iff_find?.mp (hkeys ▸ hmem)
    simp_all
  · rw [Table.find?_eq_none_iff.mpr hmem, Table.find?_eq_none_iff.mpr (hkeys ▸ hmem)]

/-- An input that one connection feeds holds what this carries. -/
lemma find?_fedTable {own : Properties} {c : Connection} (hc : c ∈ feeds)
    (honly : ∀ d ∈ feeds, d.targetPort = c.targetPort → d = c) {value : Value}
    (hv : fed c = some value) (hown : c.targetPort ∈ own.keys) :
    (fedTable feeds fed own).find? c.targetPort = some value := by
  obtain ⟨old, hold⟩ := Table.mem_keys_iff_find?.mp hown
  have hfind : (feeds.find? fun d => d.targetPort = c.targetPort) = some c := by
    cases hd : feeds.find? fun d => d.targetPort = c.targetPort with
    | none =>
      have := List.find?_eq_none.mp hd c hc
      simp at this
    | some d =>
      have hport : d.targetPort = c.targetPort := by simpa using List.find?_some hd
      rw [honly d (List.mem_of_find?_eq_some hd) hport]
  rw [fedTable, Table.find?_map, hfind, hold]
  simp [hv]

/-- What an evaluation rests on: the node runs on what it has and is fed, and gives the values. -/
lemma eval_eq_some (ha : r.Acyclic s.graph) {values : Table String Value}
    (h : r.eval s ha node = some values) :
    ∃ n t outcome, s.graph.node? node = some n ∧ r.registry.lookup n.typeName = some t ∧
      (∀ c ∈ r.feeds s.graph node, ∃ value, r.carried s ha c = some value) ∧
      (r.perform t { n with
        properties := fedTable (r.feeds s.graph node) (r.carried s ha) n.properties } s).1 =
          .ok outcome ∧
      outcome.published = some values := by
  rw [eval_eq] at h
  unfold evalWith at h
  split at h
  · cases h
  · next n hn =>
    split at h
    · cases h
    · next t ht =>
      split at h
      · next hall =>
        dsimp only at h
        split at h
        · next outcome ho =>
          refine ⟨n, t, outcome, hn, ht, fun c hc => ?_, ho, h⟩
          exact Option.isSome_iff_exists.mp (List.all_eq_true.mp hall c hc)
        · cases h
      · cases h

/-- Built-in nodes whose pure ones feed each other in no circle and every input at most once. -/
structure Wired (r : TickRules) (g : Graph) : Prop where
  registry : r.registry = .builtins
  coherent : g.Coherent
  acyclic : r.Acyclic g
  single : g.SingleFed

lemma builtin_of_isPure (hr : r.registry = .builtins) (hp : r.isPure g node = true) :
    ∃ b : Builtin, g.typeOf? .builtins node = some b.nodeType ∧ b.nodeType.isPure = true := by
  obtain ⟨t, ht, hpure⟩ := (Option.any_eq_true _ _).mp hp
  rw [hr] at ht
  obtain ⟨n, _, hlookup⟩ := Option.bind_eq_some_iff.mp ht
  obtain ⟨b, _, rfl⟩ := Registry.lookup_builtins.mp hlookup
  exact ⟨b, ht, hpure⟩

namespace Wired

lemma of_shape (hw : r.Wired g) (hs : h.shape = g.shape) : r.Wired h := by
  refine ⟨hw.registry, hw.coherent.of_shape hs, acyclic_of_shape hs hw.acyclic, ?_⟩
  intro c hc d hd htarget hport hin
  rw [Graph.connections_of_shape hs] at hc hd
  refine hw.single c hc d hd htarget hport ?_
  simpa only [Graph.HasDataInput, Graph.typeOf?_of_shape hs] using hin

/-- A connection from a pure node leads from its only output to a data input. -/
lemma link (hw : r.Wired g) {c : Connection} (hc : c ∈ g.connections.values) {b : Builtin}
    (hb : g.typeOf? .builtins c.source = some b.nodeType) (hp : b.nodeType.isPure = true) :
    c.sourcePort = b.outlet ∧ ∃ (b' : Builtin) (input : Port),
      g.typeOf? .builtins c.target = some b'.nodeType ∧
        b'.nodeType.input? c.targetPort = some input ∧ input.type.isExec = false := by
  obtain ⟨s, t, output, input, hs, ht, ho, hi, hconn⟩ :=
    Graph.checkLink_eq_ok_iff.mp (hw.coherent.links c hc)
  obtain rfl : b.nodeType = s := Option.some.inj (hb.symm.trans hs)
  refine ⟨Builtin.eq_outlet_of_output? hp ho, ?_⟩
  obtain ⟨n, _, hlookup⟩ := Option.bind_eq_some_iff.mp ht
  obtain ⟨b', _, rfl⟩ := Registry.lookup_builtins.mp hlookup
  refine ⟨b', input, ht, hi, ?_⟩
  have hdata := Builtin.isExec_of_output? hp ho
  simp only [Port.connectsTo, Bool.and_eq_true] at hconn
  cases houtput : output.type with
  | exec => simp [houtput, PortType.isExec] at hdata
  | data kind =>
    cases hinput : input.type with
    | exec => simp [houtput, hinput, PortType.connectsTo] at hconn
    | data => rfl

lemma mem_feeds_target (hw : r.Wired g) {c : Connection} (hc : c ∈ g.connections.values)
    (hp : r.isPure g c.source = true) : c ∈ r.feeds g c.target := by
  obtain ⟨b, hb, hpure⟩ := builtin_of_isPure hw.registry hp
  obtain ⟨_, b', input, ht, hi, hdata⟩ := hw.link hc hb hpure
  rw [← hw.registry] at ht
  exact mem_feeds.mpr ⟨b'.nodeType, ht, hc, rfl, by simp [hi, hdata], hp⟩

lemma eq_of_feeds (hw : r.Wired g) {c d : Connection} (hc : c ∈ r.feeds g node)
    (hd : d ∈ g.connections.values) (htarget : d.target = node)
    (hport : d.targetPort = c.targetPort) : d = c := by
  obtain ⟨t, ht, hcv, hct, hin, _⟩ := mem_feeds.mp hc
  rw [hw.registry] at ht
  obtain ⟨input, hinput, hdata⟩ := (Option.any_eq_true _ _).mp hin
  refine hw.single d hd c hcv (htarget.trans hct.symm) hport ?_
  exact ⟨t, input, htarget.symm ▸ ht, hport.symm ▸ hinput, by simpa using hdata⟩

end Wired

/-- A property of a pure node that is neither fed by a pure node nor the one behind its output. -/
def Plain (r : TickRules) (g : Graph) (node : NodeId) (name : String) : Prop :=
  ∃ b : Builtin, g.typeOf? .builtins node = some b.nodeType ∧ b.nodeType.isPure = true ∧
    name ≠ b.outlet ∧ ∀ c ∈ r.feeds g node, c.targetPort ≠ name

/-- The second state differs from the first in derived values at most. -/
structure Agree (r : TickRules) (s s' : TickState σ) : Prop where
  shape : s'.graph.shape = s.graph.shape
  vars : s'.graph.vars = s.graph.vars
  scene : s'.scene = s.scene
  plain : ∀ node name, r.Plain s.graph node name →
    s'.graph.property? node name = s.graph.property? node name

namespace Agree

omit [Host σ]

lemma refl (r : TickRules) (s : TickState σ) : r.Agree s s := ⟨rfl, rfl, rfl, fun _ _ _ => rfl⟩

lemma trans {s'' : TickState σ} (h : r.Agree s s') (h' : r.Agree s' s'') : r.Agree s s'' := by
  refine ⟨h'.shape.trans h.shape, h'.vars.trans h.vars, h'.scene.trans h.scene, ?_⟩
  intro node name hplain
  have hplain' : r.Plain s'.graph node name := by
    simpa only [Plain, Graph.typeOf?_of_shape h.shape, feeds_of_shape h.shape] using hplain
  exact (h'.plain node name hplain').trans (h.plain node name hplain)

end Agree

lemma perform_nodeType (b : Builtin) (n : Node) (s : TickState σ) :
    r.perform b.nodeType n s =
      (b.script { r.context with node := n.id, typeName := n.typeName }).run
        ⟨n.properties, s.graph.vars, s.scene, []⟩ := by
  simp only [perform, b.behavior_nodeType, Behavior.script]

/-- Fed the same, a pure node gives the same in states that agree. -/
lemma evalWith_of_agree (hw : r.Wired s.graph) (hagree : r.Agree s s')
    (hp : r.isPure s.graph node = true)
    (hfed : ∀ c ∈ r.feeds s.graph node, fed' c = fed c) :
    r.evalWith s' node fed' = r.evalWith s node fed := by
  obtain ⟨b, hb, hpure⟩ := builtin_of_isPure hw.registry hp
  obtain ⟨n, hn, hlookup⟩ := Option.bind_eq_some_iff.mp hb
  have hshape := Graph.map_shape_node? hagree.shape node
  rw [hn, Option.map_some] at hshape
  obtain ⟨n', hn', hsame⟩ := Option.map_eq_some_iff.mp hshape
  have hid : n'.id = n.id := congrArg NodeShape.id hsame
  have hname : n'.typeName = n.typeName := congrArg NodeShape.typeName hsame
  have hkeys : n'.properties.keys = n.properties.keys := congrArg NodeShape.keys hsame
  have hlookup' : Registry.builtins.lookup n'.typeName = some b.nodeType := by rw [hname, hlookup]
  have hfeeds : r.feeds s'.graph node = r.feeds s.graph node := feeds_of_shape hagree.shape node
  have hfed' : r.evalWith s' node fed' = r.evalWith s' node fed :=
    evalWith_congr (by rwa [hfeeds])
  rw [hfed']
  by_cases hall : ((r.feeds s.graph node).all fun c => (fed c).isSome) = true
  · -- the two tables hold the same but for what stands behind the output
    have htable (name : String) (hne : name ≠ b.outlet) :
        (fedTable (r.feeds s.graph node) fed n'.properties).find? name =
          (fedTable (r.feeds s.graph node) fed n.properties).find? name := by
      by_cases hnot : ∀ c ∈ r.feeds s.graph node, c.targetPort ≠ name
      · have hown := hagree.plain node name ⟨b, hb, hpure, hne, hnot⟩
        rw [find?_fedTable_of_ne hnot, find?_fedTable_of_ne hnot]
        simpa [Graph.property?, hn, hn'] using hown
      · exact find?_fedTable_congr hall hnot hkeys
    have hrun : (r.perform b.nodeType
        { n' with properties := fedTable (r.feeds s.graph node) fed n'.properties } s').1 =
          (r.perform b.nodeType
            { n with properties := fedTable (r.feeds s.graph node) fed n.properties } s).1 := by
      rw [perform_nodeType, perform_nodeType]
      simp only [hid, hname]
      exact Builtin.run_congr_of_pure hpure _ hagree.vars hagree.scene htable
    simp only [evalWith, hn, hn', hw.registry, hlookup, hlookup', hfeeds, hrun]
  · simp only [evalWith, hn, hn', hw.registry, hlookup, hlookup', hfeeds, hall,
      Bool.false_eq_true, if_false]

/-- In states that agree every pure node has the same value. -/
theorem eval_of_agree (hw : r.Wired s.graph) (hagree : r.Agree s s') (ha : r.Acyclic s.graph)
    (ha' : r.Acyclic s'.graph) (hp : r.isPure s.graph node = true) :
    r.eval s' ha' node = r.eval s ha node := by
  induction node using ha.wellFounded.induction with
  | _ node ih =>
    rw [eval_eq, eval_eq]
    refine evalWith_of_agree hw hagree hp fun c hc => ?_
    have hsource : c.source ∈ r.sources s.graph node := mem_sources_iff_feeds.mpr ⟨c, hc, rfl⟩
    rw [carried, carried, ih c.source hsource (isPure_of_mem_sources hsource)]

end TickRules

end ScriptGraph
