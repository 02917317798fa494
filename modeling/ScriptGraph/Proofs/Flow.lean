import ScriptGraph.Proofs.Frame
import ScriptGraph.Proofs.Freshness

/-! Data never triggers flow. A tick comes to a node along four routes: as a root, along an output
that control was passed on to, because it received a value, and because another node is about to
read a value of it. The last two end at pure nodes, and roots have no flow input, so a node that has
one runs only after a node that passed control on to it. -/
namespace ScriptGraph

variable {σ : Type}

namespace Graph

/-- Whether a connection leads from a flow output to a flow input. -/
def isFlow (g : Graph) (registry : Registry) (c : Connection) : Bool :=
  ((g.typeOf? registry c.source).bind fun t => t.output? c.sourcePort).any (·.type.isExec) &&
    ((g.typeOf? registry c.target).bind fun t => t.input? c.targetPort).any (·.type.isExec)

/-- Whether a node has a flow input. -/
def takesFlow (g : Graph) (registry : Registry) (node : NodeId) : Bool :=
  (g.typeOf? registry node).any NodeType.hasExecInput

/-- Control passes on to the node from one of these nodes. -/
def LedFrom (g : Graph) (registry : Registry) (sources : List NodeId) (node : NodeId) : Prop :=
  ∃ c ∈ g.connections.values, g.isFlow registry c = true ∧ c.source ∈ sources ∧ c.target = node

variable {g : Graph} {registry : Registry} {node : NodeId}

lemma LedFrom.mono {sources more : List NodeId} (h : g.LedFrom registry sources node)
    (hsub : sources ⊆ more) : g.LedFrom registry more node := by
  obtain ⟨c, hc, hflow, hs, ht⟩ := h
  exact ⟨c, hc, hflow, hsub hs, ht⟩

lemma takesFlow_of_shape {h : Graph} (hs : g.shape = h.shape) :
    g.takesFlow registry node = h.takesFlow registry node := by
  rw [takesFlow, takesFlow, typeOf?_of_shape hs]

lemma takesFlow_of_isPure {r : TickRules} (hp : r.isPure g node = true) :
    g.takesFlow r.registry node = false := by
  unfold TickRules.isPure at hp
  unfold takesFlow
  cases ht : g.typeOf? r.registry node with
  | none => rfl
  | some t =>
    simp only [ht, Option.any_some, NodeType.isPure, Bool.and_eq_true, Bool.not_eq_true'] at hp
    exact hp.2

/-- A link that was accepted and begins at a flow output ends at a flow input. -/
lemma isFlow_of_link {c : Connection}
    (hlink : g.checkLink registry c.source c.sourcePort c.target c.targetPort = .ok ())
    (hexec : ∀ t output, g.typeOf? registry c.source = some t →
      t.output? c.sourcePort = some output → output.type = .exec) :
    g.isFlow registry c = true := by
  obtain ⟨s, t, output, input, hs, ht, ho, hi, hfits⟩ := checkLink_eq_ok_iff.mp hlink
  have houtput := hexec s output hs ho
  have hinput : input.type = .exec := by
    cases hinput : input.type with
    | exec => rfl
    | data kind => simp [Port.connectsTo, houtput, hinput, PortType.connectsTo] at hfits
  simp [isFlow, hs, ht, ho, hi, houtput, hinput, PortType.isExec]

end Graph

/-- The nodes that are run at these moments. -/
def nodesRun (ms : List (Moment σ)) : List NodeId :=
  (ms.filter fun m => m.phase = .invoked).map Moment.node

@[simp] lemma nodesRun_append (ms ns : List (Moment σ)) :
    nodesRun (ms ++ ns) = nodesRun ms ++ nodesRun ns := by
  simp [nodesRun]

lemma mem_nodesRun {ms : List (Moment σ)} {node : NodeId} :
    node ∈ nodesRun ms ↔ ∃ m ∈ ms, m.phase = .invoked ∧ m.node = node := by
  simp [nodesRun, and_assoc]

namespace Graph

/-- Every node with a flow input is led to from a node that was run before it, be it one of `ran`
or one that was run at an earlier one of these moments. -/
def Steered (g : Graph) : List NodeId → List (Moment σ) → Prop
  | _, [] => True
  | ran, m :: ms =>
    (m.phase = .invoked → g.takesFlow .builtins m.node = true → g.LedFrom .builtins ran m.node) ∧
      g.Steered (ran ++ nodesRun [m]) ms

variable {g : Graph} {ran : List NodeId} {ms ns : List (Moment σ)}

lemma steered_append :
    g.Steered ran (ms ++ ns) ↔ g.Steered ran ms ∧ g.Steered (ran ++ nodesRun ms) ns := by
  induction ms generalizing ran with
  | nil => simp [Steered, nodesRun]
  | cons m ms ih =>
    have hrun : ran ++ nodesRun [m] ++ nodesRun ms = ran ++ nodesRun (m :: ms) := by
      rw [List.append_assoc, ← nodesRun_append, List.singleton_append]
    rw [List.cons_append, Steered, Steered, ih, hrun, and_assoc]

lemma Steered.led {before after : List (Moment σ)} {m : Moment σ}
    (h : g.Steered ran (before ++ m :: after)) (hphase : m.phase = .invoked)
    (htakes : g.takesFlow .builtins m.node = true) :
    g.LedFrom .builtins (ran ++ nodesRun before) m.node :=
  (steered_append.mp h).2.1 hphase htakes

lemma steered_of_takesFlow (h : ∀ m ∈ ms, g.takesFlow .builtins m.node = false) :
    g.Steered ran ms := by
  induction ms generalizing ran with
  | nil => trivial
  | cons m ms ih =>
    obtain ⟨hm, hms⟩ := List.forall_mem_cons.mp h
    refine ⟨fun _ htakes => ?_, ih hms⟩
    rw [hm] at htakes
    cases htakes

lemma Steered.takesFlow_eq_false (h : g.Steered ran ms)
    (hnone : ∀ c ∈ g.connections.values, g.isFlow .builtins c = false) :
    ∀ m ∈ ms, m.phase = .invoked → g.takesFlow .builtins m.node = false := by
  intro m hm hphase
  obtain ⟨before, after, rfl⟩ := List.append_of_mem hm
  by_contra htakes
  obtain ⟨c, hc, hflow, _⟩ := h.led hphase (by simpa using htakes)
  rw [hnone c hc] at hflow
  cases hflow

end Graph

/-- Control was passed on to all those of the nodes that have a flow input. -/
def Graph.Reaches (g : Graph) (ran nodes : List NodeId) : Prop :=
  ∀ node ∈ nodes, g.takesFlow .builtins node = true → g.LedFrom .builtins ran node

/-- A task that comes to nodes with a flow input only where control was passed on to them from the
nodes in `ran`. -/
def Task.Led (g : Graph) (ran : List NodeId) : Task → Prop
  | .dispatch node => g.takesFlow .builtins node = true → g.LedFrom .builtins ran node
  | .roots nodes | .visit nodes => g.Reaches ran nodes
  | .follow node outcome => node ∈ ran ∧ outcome.ports ⊆ Builtin.flowPorts
  | .ports node _ names => node ∈ ran ∧ names ⊆ Builtin.flowPorts
  | .pull _ => True
  | .evaluate _ => False

namespace TickRules

variable [Host σ] {r : TickRules} {g : Graph}

lemma ports_invoke (hr : r.registry = .builtins) (node : NodeId) (s : TickState σ) :
    (r.invoke node s).1.ports ⊆ Builtin.flowPorts := by
  refine invoke_cases (P := fun ran => ran.1.ports ⊆ Builtin.flowPorts) ?_ ?_ ?_ ?_
  · exact fun _ => List.nil_subset _
  · exact fun _ _ _ => List.nil_subset _
  · intro n t outcome w _ ht hp
    rw [hr] at ht
    obtain ⟨b, _, rfl⟩ := Registry.lookup_builtins.mp ht
    rw [perform, Builtin.behavior_nodeType] at hp
    exact (b.asks_script _ _ _ _ _ (congrArg Prod.fst hp)).ports
  · exact fun _ _ _ _ _ _ _ => List.nil_subset _

end TickRules

namespace Graph

/-- Every connection is one that would be accepted now. -/
def LinksAccepted (g : Graph) : Prop :=
  ∀ c ∈ g.connections.values,
    g.checkLink .builtins c.source c.sourcePort c.target c.targetPort = .ok ()

variable {g h : Graph} {ran more nodes : List NodeId} {node : NodeId}

lemma Reaches.mono (hreach : g.Reaches ran nodes) (hsub : ran ⊆ more) : g.Reaches more nodes :=
  fun node hm htakes => (hreach node hm htakes).mono hsub

lemma reaches_receivers {r : TickRules} (hr : r.registry = .builtins) (hs : h.shape = g.shape)
    (values : Table String Value) : g.Reaches ran (r.receivers h node values) := by
  intro target hm htakes
  have hpure := TickRules.isPure_of_mem_receivers hs hm
  rw [← hr, takesFlow_of_isPure hpure] at htakes
  cases htakes

lemma reaches_targets (hlinks : g.LinksAccepted) (hs : h.shape = g.shape) (hran : node ∈ ran)
    {port : String} (hport : port ∈ Builtin.flowPorts) :
    g.Reaches ran (h.targets node port) := by
  rw [targets_of_shape hs]
  intro target htarget _
  obtain ⟨c, hc, rfl⟩ := List.mem_map.mp htarget
  obtain ⟨hmem, rfl, rfl⟩ := mem_connectionsFrom.mp hc
  refine ⟨c, hmem, isFlow_of_link (hlinks c hmem) fun t output ht ho => ?_, hran, rfl⟩
  obtain ⟨n, _, hlookup⟩ := Option.bind_eq_some_iff.mp ht
  obtain ⟨b, _, rfl⟩ := Registry.lookup_builtins.mp hlookup
  exact b.isExec_of_mem_flowPorts hport ho

end Graph

namespace Walks

variable [Host σ] {r : TickRules} {g : Graph} {t : Task} {w v : Walker σ} {ms : List (Moment σ)}

/-- Control is passed on along flow connections, and values that are pushed or pulled run pure nodes
only. -/
theorem steered (hr : r.registry = .builtins) (hlinks : g.LinksAccepted) (h : Walks r t w ms v)
    (hw : w.state.graph.shape = g.shape) {ran : List NodeId} (ht : t.Led g ran) :
    g.Steered ran ms := by
  have hlater (ran : List NodeId) (ms : List (Moment σ)) : ran ⊆ ran ++ nodesRun ms :=
    List.subset_append_left _ _
  induction h generalizing ran with
  | rootsNil | visitNil | idle | portsNil | evaluateNil | reentry | full => trivial
  | @rootsCons _ _ _ _ _ ms _ first _ ih₁ ih₂ | @visitCons _ _ _ _ _ ms _ first _ ih₁ ih₂ =>
    obtain ⟨hfirst, hrest⟩ := List.forall_mem_cons.mp ht
    refine Graph.steered_append.mpr ⟨ih₁ hw hfirst, ih₂ (first.shape_eq.trans hw) ?_⟩
    exact Graph.Reaches.mono hrest (hlater ran ms)
  | @run node w u v ms ns _ _ pulled followed ih₁ ih₂ =>
    have hu : u.state.graph.shape = g.shape := pulled.shape_eq.trans hw
    have hran := (r.shape_invoke node u.state).trans hu
    have hports := TickRules.ports_invoke hr node u.state
    refine ⟨nofun, Graph.steered_append.mpr ⟨ih₁ hw trivial, ?_, ?_⟩⟩
    · exact fun _ htakes => ((ht htakes).mono (hlater _ _)).mono (hlater _ _)
    · refine Graph.steered_append.mpr ⟨ih₂ hran ⟨?_, hports⟩, nofun, trivial⟩
      exact List.mem_append_right _ (List.mem_singleton.mpr rfl)
  | flow _ ih =>
    exact ih hw (Graph.reaches_targets hlinks hw ht.1 (List.cons_subset.mp ht.2).1)
  | flows _ ih => exact ih hw ht
  | publish _ ih =>
    exact ih ((Graph.shape_publish _ _ _).trans hw) (Graph.reaches_receivers hr hw _)
  | @publishThenFlow node port values w u v ms ns reached _ ih₁ ih₂ =>
    have hpublished := (Graph.shape_publish w.state.graph node values).trans hw
    have hu : u.state.graph.shape = g.shape := reached.shape_eq.trans hpublished
    refine Graph.steered_append.mpr ⟨ih₁ hpublished (Graph.reaches_receivers hr hw _), ih₂ hu ?_⟩
    exact Graph.reaches_targets hlinks hu (hlater ran ms ht.1) (List.cons_subset.mp ht.2).1
  | portsStop _ _ ih =>
    exact ih hw (Graph.reaches_targets hlinks hw ht.1 (List.cons_subset.mp ht.2).1)
  | @portsNext _ _ _ _ _ _ _ ms _ _ led _ ih₁ ih₂ =>
    obtain ⟨hport, hrest⟩ := List.cons_subset.mp ht.2
    refine Graph.steered_append.mpr ⟨ih₁ hw (Graph.reaches_targets hlinks hw ht.1 hport), ?_⟩
    exact ih₂ (led.shape_eq.trans hw) ⟨hlater ran ms ht.1, hrest⟩
  | pull each =>
    have walk := Walks.pull each
    refine Graph.steered_of_takesFlow fun m hm => ?_
    rw [← hr]
    exact Graph.takesFlow_of_isPure (walk.isPure_of_mem hr hw trivial m hm)
  | evaluateSkip | evaluateFull | evaluateRun => cases ht

end Walks

namespace TickRules

variable [Host σ] {r : TickRules} {g : Graph}

lemma takesFlow_of_mem_roots (hr : r.registry = .builtins) (hg : g.nodes.WellFormed)
    (hsize : g.nodes.slots.length ≤ 2 ^ 32) {collisionsOnly : Bool} {root : NodeId}
    (hroot : root ∈ r.roots g collisionsOnly) : g.takesFlow .builtins root = false := by
  obtain ⟨n, hn, rfl⟩ := List.mem_map.mp hroot
  obtain ⟨hmem, hstarts⟩ := List.mem_filter.mp hn
  have hfound : g.node? n.id = some n := hg.get?_id hsize hmem
  have hevent : ∀ b : Builtin, b.nodeType.isEvent = true → b.nodeType.hasExecInput = false := by
    intro b
    cases b <;> decide
  rw [hr] at hstarts
  cases ht : Registry.builtins.lookup n.typeName with
  | none => simp [ht] at hstarts
  | some t =>
    obtain ⟨b, _, rfl⟩ := Registry.lookup_builtins.mp ht
    simp only [ht, Option.any_some, Bool.and_eq_true] at hstarts
    simp [Graph.takesFlow, Graph.typeOf?, hfound, ht, hevent b hstarts.1]

/-- A node without a flow input changes neither variables nor the scene. -/
lemma keptAt_of_takesFlow (hr : r.registry = .builtins) {scene : σ} {m : Moment σ}
    (hm : g.takesFlow .builtins m.node = false) :
    r.KeptAt (fun s => s.graph.shape = g.shape ∧ s.graph.vars = g.vars ∧ s.scene = scene) m := by
  rintro ⟨hs, hvars, hscene⟩
  have hidle : ∀ b : Builtin, b.nodeType.hasExecInput = false → b.effects = [] := by
    intro b
    cases b <;> decide
  have heffects (b : Builtin)
      (hb : m.state.graph.typeOf? .builtins m.node = some b.nodeType) : b.effects = [] := by
    rw [← Graph.takesFlow_of_shape hs, Graph.takesFlow, hb] at hm
    exact hidle b hm
  have hran : (r.invoke m.node m.state).2.graph.shape = g.shape ∧
      (r.invoke m.node m.state).2.graph.vars = g.vars ∧
        (r.invoke m.node m.state).2.scene = scene := by
    refine ⟨(r.shape_invoke _ _).trans hs, ?_, ?_⟩
    · exact (vars_invoke_of_spares hr fun b hb => by simp [heffects b hb]).trans hvars
    · exact (scene_invoke hr fun b hb => by simp [heffects b hb]).trans hscene
  refine ⟨hran, fun values _ => ⟨?_, ?_, hran.2.2⟩⟩
  · exact (Graph.shape_publish _ _ _).trans hran.1
  · exact (Graph.vars_publish _ _ _).trans hran.2.1

/-- Within the dispatch of a root, a node with a flow input is run only after a node that a flow
connection leads from to it. Where there is no such connection, whatever data is connected, a tick
leaves variables and the scene as they were. -/
theorem run_passes_control_by_flow (hr : r.registry = .builtins) (hg : g.nodes.WellFormed)
    (hsize : g.nodes.slots.length ≤ 2 ^ 32) (hlinks : g.LinksAccepted)
    (collisionsOnly : Bool) (scene : σ) :
    (∀ before root after, r.roots g collisionsOnly = before ++ root :: after →
      let s := before.foldl r.runRoot (start g scene)
      ∃ ms, Walks r (.dispatch root) ⟨[], s.countRoot⟩ ms ⟨[], r.runRoot s root⟩ ∧
        ∀ earlier m later, ms = earlier ++ m :: later → m.phase = .invoked →
          g.takesFlow .builtins m.node = true →
            ∃ c ∈ g.connections.values, g.isFlow .builtins c = true ∧ c.target = m.node ∧
              ∃ e ∈ earlier, e.phase = .invoked ∧ e.node = c.source) ∧
    ((∀ c ∈ g.connections.values, g.isFlow .builtins c = false) →
      (r.run collisionsOnly g scene).graph.vars = g.vars ∧
        (r.run collisionsOnly g scene).scene = scene) := by
  have hroots : ∀ root ∈ r.roots g collisionsOnly, g.takesFlow .builtins root = false :=
    fun root hm => takesFlow_of_mem_roots hr hg hsize hm
  constructor
  · intro before root after hsplit s
    have hshape : s.graph.shape = g.shape := by
      obtain ⟨_, walk⟩ := r.leads_roots before (start g scene)
      exact walk.shape_eq
    have hlen : ([] : List NodeId).length + r.maxDepth = r.maxDepth := Nat.zero_add _
    obtain ⟨ms, walk⟩ := leads_dispatch hlen root s.countRoot
    have hroot := hroots root (hsplit ▸ by simp)
    have hsteered : g.Steered [] ms := walk.steered hr hlinks hshape (by simp [Task.Led, hroot])
    refine ⟨ms, walk, ?_⟩
    rintro earlier m later rfl hphase htakes
    obtain ⟨c, hc, hflow, hran, htarget⟩ := hsteered.led hphase htakes
    exact ⟨c, hc, hflow, htarget, mem_nodesRun.mp hran⟩
  · intro hnone
    obtain ⟨ms, walk⟩ := r.leads_run collisionsOnly g scene
    have hled : (Task.roots (r.roots g collisionsOnly)).Led g [] := by
      intro root hm htakes
      rw [hroots root hm] at htakes
      cases htakes
    have htakes := (walk.steered hr hlinks rfl hled).takesFlow_eq_false hnone
    have htallies : Tallies fun s =>
        s.graph.shape = g.shape ∧ s.graph.vars = g.vars ∧ s.scene = scene :=
      ⟨fun _ h => h, fun _ _ h => h, fun _ _ h => h, fun _ _ _ h => h⟩
    have hkept := keeps_of_invoked htallies walk
      (fun m hm hphase => keptAt_of_takesFlow hr (htakes m hm hphase)) ⟨rfl, rfl, rfl⟩ nofun
    exact hkept.1.2

end TickRules

/-- The counter with its data connections alone. -/
def Graph.unplugged : Graph :=
  { Graph.counting with
    connections := Graph.counting.connections.filter fun _ c =>
      !Graph.counting.isFlow .builtins c }

lemma Graph.counting_linksAccepted : Graph.counting.LinksAccepted :=
  Graph.counting_authored.coherent.links

lemma Graph.unplugged_linksAccepted : Graph.unplugged.LinksAccepted := by
  have hall : ∀ c ∈ Graph.unplugged.connections.values,
      c ∈ Graph.counting.connections.values := by decide
  exact fun c hc => Graph.counting_linksAccepted c (hall c hc)

theorem run_counting_passes_control_by_flow :
    Graph.counting.nodes.WellFormed ∧ Graph.counting.nodes.slots.length ≤ 2 ^ 32 ∧
    Graph.counting.LinksAccepted ∧
    (∃ ms, Walks .firstFrame (.dispatch ⟨0, 0⟩)
        ⟨[], (TickRules.start .counting Scene.empty).countRoot⟩ ms
        ⟨[], TickRules.firstFrame.runRoot (TickRules.start .counting Scene.empty) ⟨0, 0⟩⟩ ∧
      ∀ earlier m later, ms = earlier ++ m :: later → m.phase = .invoked →
        Graph.counting.takesFlow .builtins m.node = true →
          ∃ c ∈ Graph.counting.connections.values, Graph.counting.isFlow .builtins c = true ∧
            c.target = m.node ∧ ∃ e ∈ earlier, e.phase = .invoked ∧ e.node = c.source) ∧
    Graph.unplugged.LinksAccepted ∧
    (TickRules.firstFrame.run false .unplugged Scene.empty).graph.vars = Graph.unplugged.vars ∧
    (TickRules.firstFrame.run false .counting Scene.empty).graph.vars =
      .ofList [("count", .int 5)] := by
  have hwell : Graph.counting.nodes.WellFormed :=
    Graph.counting_authored.reachable.wellFormed.nodes
  have hsize : Graph.counting.nodes.slots.length ≤ 2 ^ 32 := by decide
  have hroots : TickRules.firstFrame.roots .counting false = [⟨0, 0⟩] := by decide
  have hnone : ∀ c ∈ Graph.unplugged.connections.values,
      Graph.unplugged.isFlow .builtins c = false := by decide
  obtain ⟨hled, _⟩ := TickRules.run_passes_control_by_flow (r := .firstFrame) rfl hwell
    hsize Graph.counting_linksAccepted false Scene.empty
  obtain ⟨_, hidle⟩ := TickRules.run_passes_control_by_flow (r := .firstFrame)
    (g := .unplugged) rfl hwell hsize Graph.unplugged_linksAccepted false Scene.empty
  refine ⟨hwell, hsize, Graph.counting_linksAccepted, hled [] ⟨0, 0⟩ [] hroots,
    Graph.unplugged_linksAccepted, (hidle hnone).1, ?_⟩
  decide +kernel

end ScriptGraph
