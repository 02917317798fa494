import ScriptGraph.Proofs.Confinement

/-! The runs of a node in a tick, with the stack that each has and what it asks for. A root is run
once for every time that it is listed, with nothing but itself on the stack. A node to which no
connection leads, and which is not asked for values either, is run in no other way. -/
namespace ScriptGraph

variable {σ : Type} [Host σ]

/-- One run of a node: the nodes that are being run then, the node itself first, and what it asks
for. -/
structure NodeRun where
  stack : List NodeId
  outcome : Outcome
deriving DecidableEq

namespace TickRules

/-- The run that happens at a moment, if it is one of the node. -/
def runAt? (r : TickRules) (node : NodeId) (m : Moment σ) : Option NodeRun :=
  if m.phase = .invoked ∧ m.node = node then some ⟨m.stack, (r.invoke node m.state).1⟩ else none

def runsIn (r : TickRules) (node : NodeId) (ms : List (Moment σ)) : List NodeRun :=
  ms.filterMap (r.runAt? node)

section

variable (r : TickRules) (node : NodeId) (ms ns : List (Moment σ))

@[simp] lemma runsIn_nil : r.runsIn node ([] : List (Moment σ)) = [] := rfl

@[simp] lemma runsIn_append : r.runsIn node (ms ++ ns) = r.runsIn node ms ++ r.runsIn node ns :=
  List.filterMap_append

lemma runsIn_eq_nil_iff :
    r.runsIn node ms = [] ↔ ∀ m ∈ ms, m.phase = .invoked → m.node ≠ node := by
  simp [runsIn, runAt?]

/-- The runs in a dispatch: those before the node is run, its own run, and those that follow. -/
lemma runsIn_dispatch (root : NodeId) (stack stack' stack'' : List NodeId)
    (s s' s'' : TickState σ) :
    r.runsIn node (⟨.entered, root, stack, s⟩ :: (ms ++
        ⟨.invoked, root, stack', s'⟩ :: (ns ++ [⟨.left, root, stack'', s''⟩]))) =
      r.runsIn node ms ++ (if root = node then [⟨stack', (r.invoke node s').1⟩] else []) ++
        r.runsIn node ns := by
  by_cases hroot : root = node <;> simp [runsIn, runAt?, hroot]

end

noncomputable def runsOf (r : TickRules) (collisionsOnly : Bool) (g : Graph) (scene : σ)
    (node : NodeId) : List NodeRun :=
  r.runsIn node (r.moments collisionsOnly g scene)

/-- Nothing but being a root leads to the node. -/
structure OnlyRoot (r : TickRules) (g : Graph) (node : NodeId) : Prop where
  notPure : r.isPure g node = false
  notTarget : ∀ c ∈ g.connections.values, c.target ≠ node

lemma OnlyRoot.of_shape {r : TickRules} {g h : Graph} {node : NodeId} (hg : r.OnlyRoot g node)
    (hs : h.shape = g.shape) : r.OnlyRoot h node where
  notPure := (r.isPure_of_shape hs node).trans hg.notPure
  notTarget c hc := hg.notTarget c (Graph.connections_of_shape hs ▸ hc)

end TickRules

/-- The node is not among those that a task goes on to. -/
def Task.Avoids (node : NodeId) : Task → Prop
  | .roots nodes | .visit nodes | .evaluate nodes => node ∉ nodes
  | .dispatch other => other ≠ node
  | .follow .. | .ports .. | .pull _ => True

namespace Walks

variable {r : TickRules} {t : Task} {w v : Walker σ} {ms : List (Moment σ)}
variable {g : Graph} {node : NodeId}

lemma length_stack_lt (h : Walks r t w ms v) :
    ∀ m ∈ ms, m.phase = .invoked → w.stack.length < m.stack.length := by
  induction h with
  | rootsNil | visitNil | idle | portsNil | evaluateNil | reentry | full => simp
  | rootsCons first others ih₁ ih₂ | visitCons first others ih₁ ih₂
  | publishThenFlow first others ih₁ ih₂ | portsNext _ first others ih₁ ih₂ =>
    exact List.forall_mem_append.mpr ⟨ih₁, first.stack_eq ▸ ih₂⟩
  | @run node w u v ms ns _ _ pulled _ ih₁ ih₂ =>
    have hu : u.stack = node :: w.stack := pulled.stack_eq
    have hdeeper : w.stack.length < (node :: w.stack).length := Nat.lt_succ_self _
    refine forall_mem_dispatch nofun (fun m hm hp => Nat.lt_trans hdeeper (ih₁ m hm hp)) ?_ ?_ nofun
    · exact fun _ => hu ▸ hdeeper
    · exact fun m hm hp => Nat.lt_trans (hu ▸ hdeeper) (ih₂ m hm hp)
  | flow _ ih | flows _ ih | publish _ ih | portsStop _ _ ih | pull _ ih | evaluateSkip _ _ ih
  | evaluateFull _ _ _ ih => exact ih
  | @evaluateRun source rest w u v ms ns _ _ pulled _ ih₁ ih₂ =>
    have hu : u.stack = source :: w.stack := pulled.stack_eq
    have hdeeper : w.stack.length < (source :: w.stack).length := Nat.lt_succ_self _
    refine forall_mem_evaluate nofun (fun m hm hp => Nat.lt_trans hdeeper (ih₁ m hm hp)) ?_ nofun ?_
    · exact fun _ => hu ▸ hdeeper
    · simpa [hu] using ih₂

lemma node_ne_of_avoids (h : Walks r t w ms v) (hg : r.OnlyRoot g node)
    (hs : w.state.graph.shape = g.shape) (ht : t.Avoids node) :
    ∀ m ∈ ms, m.phase = .invoked → m.node ≠ node := by
  have htargets {s : TickState σ} (hs : s.graph.shape = g.shape) (source : NodeId) (port : String) :
      (Task.visit (s.graph.targets source port)).Avoids node := by
    intro hmem
    rw [Graph.targets_of_shape hs] at hmem
    obtain ⟨c, hc, htarget⟩ := List.mem_map.mp hmem
    exact hg.notTarget c (Graph.mem_connectionsFrom.mp hc).1 htarget
  have hreceivers {s : TickState σ} (hs : s.graph.shape = g.shape) (source : NodeId)
      (values : Table String Value) :
      (Task.visit (r.receivers s.graph source values)).Avoids node := by
    intro hmem
    obtain ⟨c, hc, _, htarget⟩ := Graph.exists_of_mem_publish (List.mem_filter.mp hmem).1
    rw [Graph.connections_of_shape hs] at hc
    exact hg.notTarget c hc htarget
  induction h with
  | rootsNil | visitNil | idle | portsNil | evaluateNil | reentry | full => simp
  | rootsCons first _ ih₁ ih₂ | visitCons first _ ih₁ ih₂ =>
    obtain ⟨hfirst, hrest⟩ := not_or.mp (List.mem_cons.not.mp ht)
    exact List.forall_mem_append.mpr
      ⟨ih₁ hs (Ne.symm hfirst), ih₂ (first.shape_eq.trans hs) hrest⟩
  | @run other w u v ms ns _ _ pulled followed ih₁ ih₂ =>
    have hu : (r.invoke other u.state).2.graph.shape = g.shape :=
      (r.shape_invoke other u.state).trans (pulled.shape_eq.trans hs)
    exact forall_mem_dispatch nofun (ih₁ hs trivial) (fun _ => ht) (ih₂ hu trivial) nofun
  | flow _ ih | portsStop _ _ ih => exact ih hs (htargets hs _ _)
  | flows _ ih => exact ih hs trivial
  | @publish source values w _ _ _ ih =>
    exact ih ((w.state.graph.shape_publish source values).trans hs) (hreceivers hs _ _)
  | @publishThenFlow source port values w u _ _ _ reached _ ih₁ ih₂ =>
    have hpublished := (w.state.graph.shape_publish source values).trans hs
    have hu := reached.shape_eq.trans hpublished
    exact List.forall_mem_append.mpr
      ⟨ih₁ hpublished (hreceivers hs _ _), ih₂ hu (htargets hu _ _)⟩
  | portsNext _ led _ ih₁ ih₂ =>
    exact List.forall_mem_append.mpr
      ⟨ih₁ hs (htargets hs _ _), ih₂ (led.shape_eq.trans hs) trivial⟩
  | @pull other w _ _ _ ih =>
    refine ih hs fun hmem => ?_
    have hpure := TickRules.isPure_of_mem_sources hmem
    rw [r.isPure_of_shape hs, hg.notPure] at hpure
    cases hpure
  | evaluateSkip _ _ ih | evaluateFull _ _ _ ih =>
    exact ih hs (not_or.mp (List.mem_cons.not.mp ht)).2
  | @evaluateRun source rest w u v ms ns _ _ pulled _ ih₁ ih₂ =>
    obtain ⟨hsource, hrest⟩ := not_or.mp (List.mem_cons.not.mp ht)
    have hu : (r.settle source u.state).graph.shape = g.shape :=
      (r.keeps_shape g.shape).settle (pulled.shape_eq.trans hs) source
    exact forall_mem_evaluate nofun (ih₁ hs trivial) (fun _ => Ne.symm hsource) nofun (ih₂ hu hrest)

/-- A root is run once, alone on the stack; everything else in its dispatch is run on top of it. -/
lemma runsIn_root {root : NodeId} {s : TickState σ} (h : Walks r (.dispatch root) ⟨[], s⟩ ms v)
    (hroom : 0 < r.maxDepth) (node : NodeId) :
    ∃ before after, ∃ u : TickState σ, u.graph.shape = s.graph.shape ∧
      r.runsIn node ms =
        before ++ (if root = node then [⟨[root], (r.invoke node u).1⟩] else []) ++ after ∧
      (∀ run ∈ before ++ after, 1 < run.stack.length) ∧
      (r.OnlyRoot s.graph node → before ++ after = []) := by
  cases h with
  | reentry mem => cases mem
  | full _ deep => exact absurd deep (Nat.not_le.mpr hroom)
  | @run _ _ u v ms ns _ _ pulled followed =>
    have hu : u.stack = [root] := pulled.stack_eq
    have hshape : u.state.graph.shape = s.graph.shape := pulled.shape_eq
    refine ⟨r.runsIn node ms, r.runsIn node ns, u.state, hshape, ?_, ?_, ?_⟩
    · rw [TickRules.runsIn_dispatch, hu]
    · intro run hrun
      rw [← TickRules.runsIn_append] at hrun
      obtain ⟨m, hm, hat⟩ := List.mem_filterMap.mp hrun
      unfold TickRules.runAt? at hat
      split at hat
      · next hinvoked =>
        cases hat
        rcases List.mem_append.mp hm with hm | hm
        · exact pulled.length_stack_lt m hm hinvoked.1
        · have hlt := followed.length_stack_lt m hm hinvoked.1
          rwa [hu] at hlt
      · cases hat
    · intro honly
      have hran : (r.invoke root u.state).2.graph.shape = s.graph.shape :=
        (r.shape_invoke root u.state).trans hshape
      rw [← TickRules.runsIn_append, TickRules.runsIn_eq_nil_iff]
      exact List.forall_mem_append.mpr ⟨pulled.node_ne_of_avoids honly rfl trivial,
        followed.node_ne_of_avoids honly hran trivial⟩

/-- Among the runs in a tick those with the node alone on the stack are as many as the times that it
is listed as a root. -/
lemma count_runsIn_roots {roots : List NodeId} (h : Walks r (.roots roots) w ms v)
    (hstack : w.stack = []) (hroom : 0 < r.maxDepth) (node : NodeId) :
    ((r.runsIn node ms).map NodeRun.stack).count [node] = roots.count node := by
  induction roots generalizing w ms with
  | nil =>
    cases h
    rfl
  | cons root rest ih =>
    cases h with
    | rootsCons first others =>
      rw [hstack] at first
      obtain ⟨before, after, u, _, hruns, hdeep, _⟩ := first.runsIn_root hroom node
      have hnone (l : List NodeRun) (hl : ∀ run ∈ l, 1 < run.stack.length) :
          (l.map NodeRun.stack).count [node] = 0 := by
        rw [List.count_eq_zero]
        intro hmem
        obtain ⟨run, hrun, hstack⟩ := List.mem_map.mp hmem
        have hlt := hl run hrun
        rw [hstack] at hlt
        exact absurd hlt (Nat.lt_irrefl 1)
      obtain ⟨hbefore, hafter⟩ := List.forall_mem_append.mp hdeep
      rw [TickRules.runsIn_append, List.map_append, List.count_append, ih others first.stack_eq,
        hruns, List.map_append, List.map_append, List.count_append, List.count_append,
        hnone before hbefore, hnone after hafter, List.count_cons]
      by_cases hroot : root = node
      · simp [hroot, Nat.add_comm]
      · simp [hroot]

/-- A node that only being a root leads to is run for each time that it is listed, and then asks
for what it would ask for in any state of the graph. -/
lemma runsIn_roots {roots : List NodeId} {outcome : Outcome} (h : Walks r (.roots roots) w ms v)
    (hstack : w.stack = []) (hroom : 0 < r.maxDepth) (hg : r.OnlyRoot g node)
    (hs : w.state.graph.shape = g.shape)
    (hasks : ∀ s : TickState σ, s.graph.shape = g.shape → (r.invoke node s).1 = outcome) :
    r.runsIn node ms = List.replicate (roots.count node) ⟨[node], outcome⟩ := by
  induction roots generalizing w ms with
  | nil =>
    cases h
    rfl
  | cons root rest ih =>
    cases h with
    | @rootsCons _ _ _ u _ _ _ first others =>
      rw [hstack] at first
      have hroot : w.state.countRoot.graph.shape = g.shape := hs
      obtain ⟨before, after, u', hu', hruns, _, hnone⟩ := first.runsIn_root hroom node
      obtain ⟨rfl, rfl⟩ := List.append_eq_nil_iff.mp (hnone (hg.of_shape hroot))
      have hrest := ih others first.stack_eq (first.shape_eq.trans hs)
      rw [TickRules.runsIn_append, hrest, hruns, List.count_cons]
      by_cases heq : root = node
      · subst heq
        have hout := hasks u' (hu'.trans hs)
        simp [hout, List.replicate_succ]
      · simp [heq]

end Walks

namespace TickRules

variable {r : TickRules} {collisionsOnly : Bool} {g : Graph} {scene : σ} {node : NodeId}

theorem count_runsOf (hroom : 0 < r.maxDepth) :
    ((r.runsOf collisionsOnly g scene node).map NodeRun.stack).count [node] =
      (r.roots g collisionsOnly).count node :=
  (r.walks_moments collisionsOnly g scene).count_runsIn_roots rfl hroom node

/-- The runs of a node that only being a root leads to. -/
theorem runsOf_eq_replicate {outcome : Outcome} (hroom : 0 < r.maxDepth) (hg : r.OnlyRoot g node)
    (hasks : ∀ s : TickState σ, s.graph.shape = g.shape → (r.invoke node s).1 = outcome) :
    r.runsOf collisionsOnly g scene node =
      List.replicate ((r.roots g collisionsOnly).count node) ⟨[node], outcome⟩ :=
  (r.walks_moments collisionsOnly g scene).runsIn_roots rfl hroom hg rfl hasks

end TickRules

end ScriptGraph
