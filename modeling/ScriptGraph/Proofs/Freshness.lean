import ScriptGraph.Proofs.Depth
import ScriptGraph.Proofs.Settling

/-! Pulled inputs are current. Before a node runs, the pure nodes that feed it are evaluated, those
that feed them first. Whatever else a tick has published before, and whatever the nodes share, the
node then finds at its fed inputs what the pure nodes stand for at that moment. -/
namespace ScriptGraph

variable {σ : Type} [Host σ]

namespace TickRules

variable {r : TickRules} {source : NodeId}

/-- None of the nodes that feed a node, directly or through others, is on the stack. -/
def Clear (r : TickRules) (g : Graph) (stack : List NodeId) (node : NodeId) : Prop :=
  ∀ a, Relation.TransGen (r.Feeds g) a node → a ∉ stack

namespace Clear

variable {g : Graph} {stack : List NodeId} {node : NodeId}

lemma notMem (hc : r.Clear g stack node) (hf : r.Feeds g source node) : source ∉ stack :=
  hc source (.single hf)

/-- A node that is entered in order to be evaluated is not among those that feed it. -/
lemma push (hc : r.Clear g stack node) (ha : r.Acyclic g) (hf : r.Feeds g source node) :
    r.Clear g (source :: stack) source := by
  intro a hfeeds hm
  rcases List.mem_cons.mp hm with rfl | hm
  · exact ha a hfeeds
  · exact hc a (hfeeds.tail hf) hm

end Clear

end TickRules

namespace Walks

variable {r : TickRules} {g : Graph} {node : NodeId} {w v : Walker σ} {ms : List (Moment σ)}

/-- Sources are evaluated one by one, none of them is skipped or refused. -/
lemma refreshes_evaluate (hwired : r.Wired g) (hsize : g.nodes.nodes.length ≤ r.maxDepth)
    {sources : List NodeId} (hfeeds : ∀ source ∈ sources, r.Feeds g source node)
    (hpull : ∀ source, r.Feeds g source node → ∀ (w v : Walker σ) ms,
      Walks r (.pull source) w ms v → w.Inside g → r.Clear g w.stack source →
      r.Refreshes w.state v.state (r.sources g source))
    (h : Walks r (.evaluate sources) w ms v) (hin : w.Inside g) (hclear : r.Clear g w.stack node) :
    r.Refreshes w.state v.state sources := by
  induction sources generalizing w ms with
  | nil => cases h; exact .refl r _
  | cons source rest ih =>
    obtain ⟨hsource, hrest⟩ := List.forall_mem_cons.mp hfeeds
    have hpure : r.isPure g source = true := TickRules.isPure_of_mem_sources hsource
    have hlive := TickRules.contains_of_isPure hpure
    cases h with
    | evaluateSkip mem => exact absurd mem (hclear.notMem hsource)
    | evaluateFull fresh deep =>
      have hlt := hin.length_lt fresh hlive
      omega
    | @evaluateRun _ _ _ u _ ms ns fresh room pulled others =>
      have hpush : Walker.Inside ⟨source :: w.stack, w.state.counted false⟩ g :=
        hin.push fresh hlive hin.shape
      have hu : u.Inside g := pulled.inside hpush
      have hstack : u.stack.tail = w.stack := by rw [pulled.stack_eq]; rfl
      have hcounted := TickRules.Refreshes.counted (hwired.of_shape hin.shape) false
      have hpulled := hpull source hsource _ _ _ pulled hpush (hclear.push hwired.acyclic hsource)
      have hsettled : r.Refreshes u.state (r.settle source u.state) [source] := by
        refine .settle (hwired.of_shape hu.shape) ?_ ?_
        · rw [r.isPure_of_shape hu.shape]
          exact hpure
        · rw [r.sources_of_shape hu.shape]
          exact hpulled.settled
      have hothers := ih hrest others (hu.settle source) (hstack.symm ▸ hclear)
      have hbefore : r.Refreshes w.state u.state [] := (hcounted.trans hpulled).weaken nofun
      exact hbefore.trans (hsettled.trans hothers)

/-- After a pull all that feeds the node is settled, unless some of it was being run already. -/
theorem refreshes_pull (hwired : r.Wired g) (hsize : g.nodes.nodes.length ≤ r.maxDepth)
    (h : Walks r (.pull node) w ms v) (hin : w.Inside g) (hclear : r.Clear g w.stack node) :
    r.Refreshes w.state v.state (r.sources g node) := by
  -- along the feeding, for a pull leads to pulls for the sources
  induction node using hwired.acyclic.wellFounded.induction generalizing w ms v with
  | _ node ih =>
    cases h with
    | pull each =>
      rw [r.sources_of_shape hin.shape] at each
      refine each.refreshes_evaluate hwired hsize (fun _ hs => hs) ?_ hin hclear
      intro source hf w v ms pulled hin hclear
      exact ih source hf pulled hin hclear

end Walks

/-- A task that runs pure nodes only. -/
def Task.Quiet (r : TickRules) (g : Graph) : Task → Prop
  | .dispatch node => r.isPure g node = true
  | .visit nodes | .evaluate nodes => ∀ node ∈ nodes, r.isPure g node = true
  | .follow _ outcome => outcome = .idle ∨ ∃ values, outcome = .publish values
  | .pull _ => True
  | .roots _ | .ports .. => False

lemma TickRules.quiet_invoke {r : TickRules} {s : TickState σ} {g : Graph} {node : NodeId}
    (hr : r.registry = .builtins) (hp : r.isPure s.graph node = true) :
    (Task.follow node (r.invoke node s).1).Quiet r g := by
  obtain ⟨b, hb, hpure⟩ := builtin_of_isPure hr hp
  obtain ⟨_, _, _, _, _, ⟨value, _, ho⟩ | ⟨_, ho⟩⟩ := invoke_of_pure hr hb hpure
  · exact Or.inr ⟨_, ho⟩
  · exact Or.inl ho

namespace Walks

variable {r : TickRules} {g : Graph} {t : Task} {w v : Walker σ} {ms : List (Moment σ)}

/-- A quiet task comes by pure nodes only: they ask for nothing but to publish, and what they
publish runs only the pure nodes among its receivers. -/
theorem isPure_of_mem (hr : r.registry = .builtins) (h : Walks r t w ms v)
    (hw : w.state.graph.shape = g.shape) (ht : t.Quiet r g) :
    ∀ m ∈ ms, r.isPure g m.node = true := by
  induction h with
  | rootsNil | rootsCons | portsNil | portsStop | portsNext => cases ht
  | reentry | full | visitNil | idle | evaluateNil => simp
  | @run node w u v ms ns _ _ pulled followed ih₁ ih₂ =>
    have hu : u.state.graph.shape = g.shape := pulled.shape_eq.trans hw
    have hpure : r.isPure u.state.graph node = true := by
      rw [r.isPure_of_shape hu]
      exact ht
    have hran := (r.shape_invoke node u.state).trans hu
    have hquiet := TickRules.quiet_invoke (g := g) hr hpure
    exact forall_mem_dispatch ht (ih₁ hw trivial) ht (ih₂ hran hquiet) ht
  | visitCons first _ ih₁ ih₂ =>
    obtain ⟨hfirst, hrest⟩ := List.forall_mem_cons.mp ht
    exact List.forall_mem_append.mpr ⟨ih₁ hw hfirst, ih₂ (first.shape_eq.trans hw) hrest⟩
  | flow | flows | publishThenFlow =>
    obtain ht | ⟨_, ht⟩ := ht <;> cases ht
  | publish _ ih =>
    refine ih ((Graph.shape_publish _ _ _).trans hw) ?_
    exact fun _ hm => TickRules.isPure_of_mem_receivers hw hm
  | pull _ ih =>
    rw [r.sources_of_shape hw] at ih
    exact ih hw fun _ hm => TickRules.isPure_of_mem_sources hm
  | evaluateSkip _ _ ih => exact ih hw (List.forall_mem_cons.mp ht).2
  | evaluateFull _ _ _ ih => exact ih hw (List.forall_mem_cons.mp ht).2
  | @evaluateRun source rest w u v ms ns _ _ pulled _ ih₁ ih₂ =>
    obtain ⟨hsource, hrest⟩ := List.forall_mem_cons.mp ht
    have hu : u.state.graph.shape = g.shape := pulled.shape_eq.trans hw
    have hsettled := (r.keeps_shape g.shape).settle hu source
    exact forall_mem_evaluate hsource (ih₁ hw trivial) hsource hsource (ih₂ hsettled hrest)

end Walks

/-- If a node that is not pure is run at this moment, all that feeds it is settled. -/
def Moment.Fed (r : TickRules) (g : Graph) (m : Moment σ) : Prop :=
  m.phase = .invoked → r.isPure g m.node = false →
    ∀ source ∈ r.sources g m.node, r.Settled m.state source

lemma Moment.fed_of_isPure {r : TickRules} {g : Graph} {m : Moment σ}
    (hp : r.isPure g m.node = true) : m.Fed r g := by
  intro _ hnot
  rw [hp] at hnot
  cases hnot

lemma TickRules.Clear.of_flow {r : TickRules} {g : Graph} {stack : List NodeId}
    (hflow : ∀ node ∈ stack, r.isPure g node = false) (node : NodeId) : r.Clear g stack node := by
  intro a hfeeds hm
  obtain ⟨_, hf, _⟩ := Relation.TransGen.head'_iff.mp hfeeds
  have hpure := isPure_of_mem_sources hf
  rw [hflow a hm] at hpure
  cases hpure

namespace Walks

variable {r : TickRules} {g : Graph} {t : Task} {w v : Walker σ} {ms : List (Moment σ)}

/-- A dispatch with no pure node on the stack runs every node that is not pure on settled inputs,
and so does all that follows from it. -/
theorem fed_of_mem (hwired : r.Wired g) (hsize : g.nodes.nodes.length ≤ r.maxDepth)
    (h : Walks r t w ms v) (hin : w.Inside g) (ht : t.Inside g)
    (hnot : ∀ nodes, t ≠ .evaluate nodes) (hflow : ∀ node ∈ w.stack, r.isPure g node = false) :
    ∀ m ∈ ms, m.Fed r g := by
  have hends := hwired.coherent.endsLive
  induction h with
  | rootsNil | rootsCons => cases ht
  | reentry | full | visitNil | idle | portsNil => simp
  | evaluateNil | evaluateSkip | evaluateFull | evaluateRun => exact absurd rfl (hnot _)
  | pull each =>
    have walk := Walks.pull each
    intro m hm
    exact Moment.fed_of_isPure (walk.isPure_of_mem hwired.registry hin.shape trivial m hm)
  | @run node w u v ms ns fresh room pulled followed ih₁ ih₂ =>
    cases hp : r.isPure g node with
    | true =>
      -- nothing that runs by flow follows from a pure node
      have walk := Walks.run fresh room pulled followed
      intro m hm
      exact Moment.fed_of_isPure (walk.isPure_of_mem hwired.registry hin.shape hp m hm)
    | false =>
      have hpush : Walker.Inside ⟨node :: w.stack, w.state.counted w.stack.isEmpty⟩ g :=
        hin.push fresh ht hin.shape
      have hu : u.Inside g := pulled.inside hpush
      have hflow' : ∀ other ∈ node :: w.stack, r.isPure g other = false :=
        List.forall_mem_cons.mpr ⟨hp, hflow⟩
      have hclear := TickRules.Clear.of_flow hflow' node
      have hpulled := pulled.refreshes_pull hwired hsize hpush hclear
      refine forall_mem_dispatch nofun ?_ ?_ ?_ nofun
      · exact ih₁ hpush trivial nofun hflow'
      · exact fun _ _ => hpulled.settled
      · exact ih₂ (hu.invoke node) trivial nofun (pulled.stack_eq ▸ hflow')
  | visitCons first _ ih₁ ih₂ =>
    obtain ⟨hfirst, hrest⟩ := List.forall_mem_cons.mp ht
    refine List.forall_mem_append.mpr ⟨ih₁ hin hfirst nofun hflow, ?_⟩
    exact ih₂ (first.inside hin) hrest nofun (first.stack_eq ▸ hflow)
  | flow _ ih | portsStop _ _ ih => exact ih hin (hin.targets hends _ _) nofun hflow
  | flows _ ih => exact ih hin trivial nofun hflow
  | publish _ ih => exact ih (hin.publish _ _) (hin.receivers _ _) nofun hflow
  | publishThenFlow reached _ ih₁ ih₂ =>
    have hu := reached.inside (hin.publish _ _)
    refine List.forall_mem_append.mpr ⟨ih₁ (hin.publish _ _) (hin.receivers _ _) nofun hflow, ?_⟩
    exact ih₂ hu (hu.targets hends _ _) nofun (reached.stack_eq ▸ hflow)
  | portsNext _ led _ ih₁ ih₂ =>
    refine List.forall_mem_append.mpr ⟨ih₁ hin (hin.targets hends _ _) nofun hflow, ?_⟩
    exact ih₂ (led.inside hin) trivial nofun (led.stack_eq ▸ hflow)

lemma fed_of_mem_roots {roots : List NodeId} (hwired : r.Wired g)
    (hsize : g.nodes.nodes.length ≤ r.maxDepth) (h : Walks r (.roots roots) w ms v)
    (hroom : roots ≠ [] → 0 < r.maxDepth) (hw : w.state.graph.shape = g.shape)
    (hstack : w.stack = []) : ∀ m ∈ ms, m.Fed r g := by
  induction roots generalizing w ms with
  | nil => cases h; simp
  | cons root rest ih =>
    cases h with
    | rootsCons first others =>
      have hpos := hroom (List.cons_ne_nil _ _)
      intro m hm
      rcases List.mem_append.mp hm with hm | hm
      · by_cases hlive : g.nodes.contains root = true
        · refine first.fed_of_mem hwired hsize ⟨hw, ?_, ?_⟩ hlive nofun ?_ m hm
          · simp [hstack]
          · simp [hstack]
          · simp [hstack]
        · have hnone : g.node? root = none := by
            simpa [Graph.node?, Arena.contains] using hlive
          have habsent : w.state.graph.node? root = none := by
            rw [← Graph.contains_of_shape hw] at hlive
            simpa [Graph.node?, Arena.contains] using hlive
          have hnode := (first.of_absent habsent hstack hpos).2 m hm
          intro _ _ source hsource
          simp [hnode, TickRules.sources, Graph.typeOf?, hnone] at hsource
      · exact ih others (fun _ => hpos) (first.shape_eq.trans hw) (first.stack_eq.trans hstack) m hm

end Walks

/-- Whatever pure node an input is connected to, the input holds the value of that node at this
moment, if the node has one. -/
def Moment.Current (r : TickRules) (m : Moment σ) : Prop :=
  ∃ ha : r.Acyclic m.state.graph, ∀ c ∈ m.state.graph.connections.values, c.target = m.node →
    r.isPure m.state.graph c.source = true → ∀ values, r.eval m.state ha c.source = some values →
      ∃ value, values.find? c.sourcePort = some value ∧
        m.state.graph.property? m.node c.targetPort = some value

lemma Moment.Fed.current {r : TickRules} {g : Graph} {m : Moment σ} (hfed : m.Fed r g)
    (hwired : r.Wired g) (hs : m.state.graph.shape = g.shape) (hphase : m.phase = .invoked)
    (hflow : r.isPure g m.node = false) : m.Current r := by
  have hwired' := hwired.of_shape hs
  refine ⟨hwired'.acyclic, ?_⟩
  intro c hc htarget hp values heval
  have hsource : c.source ∈ r.sources g m.node := by
    rw [← r.sources_of_shape hs, ← htarget]
    exact TickRules.mem_sources_iff_feeds.mpr ⟨c, hwired'.mem_feeds_target hc hp, rfl⟩
  rw [← htarget]
  exact hfed hphase hflow c.source hsource hwired'.acyclic values hp heval c hc rfl

namespace TickRules

/-- On an authored graph whose pure nodes feed each other in no circle and no data input twice, and
under a limit of at least the number of nodes, every node with a flow input that a tick runs finds
current values at its inputs. -/
theorem run_finds_current_inputs {r : TickRules} (hr : r.registry = .builtins) {g : Graph}
    (hg : g.Authored) (ha : r.Acyclic g) (hs : g.SingleFed)
    (hsize : g.nodes.nodes.length ≤ r.maxDepth) (collisionsOnly : Bool) (scene : σ) :
    ∃ ms, Walks r (.roots (r.roots g collisionsOnly)) ⟨[], start g scene⟩ ms
        ⟨[], r.run collisionsOnly g scene⟩ ∧
      ∀ m ∈ ms, m.phase = .invoked →
        (∃ t, m.state.graph.typeOf? .builtins m.node = some t ∧ t.hasExecInput = true) →
          m.Current r := by
  have hwired : r.Wired g := ⟨hr, hg.coherent, ha, hs⟩
  obtain ⟨ms, walk⟩ := r.leads_run collisionsOnly g scene
  have hshape := ((r.keeps_shape g.shape).walks walk rfl nofun).2
  refine ⟨ms, walk, ?_⟩
  rintro m hm hphase ⟨t, ht, hexec⟩
  have hfed := walk.fed_of_mem_roots hwired hsize (maxDepth_pos hsize) rfl rfl m hm
  have hflow : r.isPure g m.node = false := by
    rw [← r.isPure_of_shape (hshape m hm), isPure, hr, ht]
    simp [NodeType.isPure, hexec]
  exact hfed.current hwired (hshape m hm) hphase hflow

end TickRules

/-- A counter that is raised twice in one update, each time by the same sum. -/
def Graph.counting : Graph where
  id := default
  entity := default
  nodes :=
    ⟨[⟨0, some ⟨⟨0, 0⟩, "OnUpdate", .zero, Builtin.onUpdate.nodeType.seed .empty⟩⟩,
      ⟨0, some ⟨⟨1, 0⟩, "GetVariable", .zero,
        .ofList [("Name", .text "count"), ("Value", Kind.zero .any)]⟩⟩,
      ⟨0, some ⟨⟨2, 0⟩, "Add", .zero,
        .ofList [("A", .float .zero), ("B", .int 1), ("Result", .float .zero)]⟩⟩,
      ⟨0, some ⟨⟨3, 0⟩, "SetVariable", .zero,
        .ofList [("Name", .text "count"), ("Value", Kind.zero .any)]⟩⟩,
      ⟨0, some ⟨⟨4, 0⟩, "SetVariable", .zero,
        .ofList [("Name", .text "count"), ("Value", Kind.zero .any)]⟩⟩], [], 5⟩
  connections := .ofList
    [(⟨.ofNat 1⟩, ⟨⟨.ofNat 1⟩, ⟨0, 0⟩, "Exec", ⟨3, 0⟩, "Exec"⟩),
      (⟨.ofNat 2⟩, ⟨⟨.ofNat 2⟩, ⟨3, 0⟩, "Exec", ⟨4, 0⟩, "Exec"⟩),
      (⟨.ofNat 3⟩, ⟨⟨.ofNat 3⟩, ⟨1, 0⟩, "Value", ⟨2, 0⟩, "A"⟩),
      (⟨.ofNat 4⟩, ⟨⟨.ofNat 4⟩, ⟨2, 0⟩, "Result", ⟨3, 0⟩, "Value"⟩),
      (⟨.ofNat 5⟩, ⟨⟨.ofNat 5⟩, ⟨2, 0⟩, "Result", ⟨4, 0⟩, "Value"⟩)]
  vars := .ofList [("count", .int 3)]

/-- The edits that lead to it. -/
def Graph.countingEdits : List Edit :=
  [.addNode .builtins "OnUpdate" .zero, .addNode .builtins "GetVariable" .zero,
    .addNode .builtins "Add" .zero, .addNode .builtins "SetVariable" .zero,
    .addNode .builtins "SetVariable" .zero, .setProperty ⟨1, 0⟩ "Name" (.text "count"),
    .setProperty ⟨2, 0⟩ "B" (.int 1), .setProperty ⟨3, 0⟩ "Name" (.text "count"),
    .setProperty ⟨4, 0⟩ "Name" (.text "count"),
    .connect .builtins ⟨.ofNat 1⟩ ⟨0, 0⟩ "Exec" ⟨3, 0⟩ "Exec",
    .connect .builtins ⟨.ofNat 2⟩ ⟨3, 0⟩ "Exec" ⟨4, 0⟩ "Exec",
    .connect .builtins ⟨.ofNat 3⟩ ⟨1, 0⟩ "Value" ⟨2, 0⟩ "A",
    .connect .builtins ⟨.ofNat 4⟩ ⟨2, 0⟩ "Result" ⟨3, 0⟩ "Value",
    .connect .builtins ⟨.ofNat 5⟩ ⟨2, 0⟩ "Result" ⟨4, 0⟩ "Value",
    .setVariable "count" (.int 3)]

lemma Graph.counting_authored : Graph.counting.Authored := by
  have h : Graph.countingEdits.foldlM Edit.apply (.empty default default) = .ok .counting := by
    rfl
  exact Authored.edits (.empty default default) (by simp [countingEdits, Edit.Uses]) h

lemma Graph.counting_singleFed : Graph.counting.SingleFed := by
  have hone : ∀ c ∈ Graph.counting.connections.values, ∀ d ∈ Graph.counting.connections.values,
      c.target = d.target → c.targetPort = d.targetPort → c = d := by decide
  exact fun c hc d hd htarget hport _ => hone c hc d hd htarget hport

/-- The first frame, with room for eight nested runs. -/
def TickRules.firstFrame : TickRules := ⟨.builtins, ⟨default, .one, 0, none⟩, 8⟩

lemma Graph.counting_acyclic : TickRules.firstFrame.Acyclic .counting := by
  refine TickRules.acyclic_of_lt (fun id => id.index.toNat) ?_
  decide

theorem run_counting_finds_current_inputs :
    Graph.counting.Authored ∧ TickRules.firstFrame.Acyclic .counting ∧ Graph.counting.SingleFed ∧
      Graph.counting.nodes.nodes.length ≤ TickRules.firstFrame.maxDepth ∧
      (∃ ms, Walks .firstFrame (.roots [⟨0, 0⟩]) ⟨[], TickRules.start .counting Scene.empty⟩ ms
          ⟨[], TickRules.firstFrame.run false .counting Scene.empty⟩ ∧
        ∀ m ∈ ms, m.phase = .invoked →
          (∃ t, m.state.graph.typeOf? .builtins m.node = some t ∧ t.hasExecInput = true) →
            m.Current .firstFrame) ∧
      (TickRules.firstFrame.run false .counting Scene.empty).graph.vars.find? "count" =
        some (.int 5) := by
  have hsize : Graph.counting.nodes.nodes.length ≤ TickRules.firstFrame.maxDepth := by decide
  refine ⟨Graph.counting_authored, Graph.counting_acyclic, Graph.counting_singleFed, hsize, ?_, ?_⟩
  · exact TickRules.run_finds_current_inputs rfl Graph.counting_authored Graph.counting_acyclic
      Graph.counting_singleFed hsize false Scene.empty
  · decide +kernel

end ScriptGraph
