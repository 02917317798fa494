import Mathlib.Data.List.Perm.Subperm
import ScriptGraph.Proofs.Walk
import ScriptGraph.Proofs.WellFormed

/-! The depth limit of a tick. The limit alone makes every walk end, on every graph. A limit of at
least the number of nodes is never hit, for the stack holds distinct nodes of the graph; and a limit
that is not hit might as well be larger, for nothing else looks at it. -/
namespace ScriptGraph

variable {σ : Type} [Host σ]

/-- The entry that says that the stack was full. -/
def LogEntry.isDepthLimit : LogEntry → Bool
  | .depthLimitReached .. => true
  | _ => false

/-- The stack was full at some time. -/
def Log.HitsLimit (log : Log) : Prop := ∃ e ∈ log, e.isDepthLimit = true

lemma Log.hitsLimit_push {log : Log} {e : LogEntry} :
    Log.HitsLimit (log.push e) ↔ log.HitsLimit ∨ e.isDepthLimit = true := by
  simp only [Log.HitsLimit, Array.mem_push]
  constructor
  · rintro ⟨d, hd | rfl, hl⟩
    · exact Or.inl ⟨d, hd, hl⟩
    · exact Or.inr hl
  · rintro (⟨d, hd, hl⟩ | hl)
    · exact ⟨d, Or.inl hd, hl⟩
    · exact ⟨e, Or.inr rfl, hl⟩

namespace TickRules

omit [Host σ] in
lemma hitsLimit_printedLog {r : TickRules} {n : Node} {s : TickState σ} {w : Workspace σ} :
    (r.printedLog n s w).HitsLimit ↔ s.log.HitsLimit := by
  simp only [printedLog, Log.HitsLimit, Array.mem_append, List.mem_toArray, List.mem_map]
  constructor
  · rintro ⟨e, he | ⟨v, _, rfl⟩, hl⟩
    · exact ⟨e, he, hl⟩
    · cases hl
  · rintro ⟨e, he, hl⟩
    exact ⟨e, Or.inl he, hl⟩

lemma hitsLimit_invoke (r : TickRules) (node : NodeId) (s : TickState σ) :
    (r.invoke node s).2.log.HitsLimit ↔ s.log.HitsLimit := by
  cases hn : s.graph.node? node with
  | none => rw [r.invoke_of_absent hn]
  | some n =>
    cases ht : r.registry.lookup n.typeName with
    | none => simp [r.invoke_of_unregistered hn ht, Log.hitsLimit_push, LogEntry.isDepthLimit]
    | some t =>
      rcases hp : r.perform t n s with ⟨e | outcome, w⟩
      · simp [r.invoke_of_error hn ht hp, Log.hitsLimit_push, LogEntry.isDepthLimit,
          hitsLimit_printedLog]
      · simp [r.invoke_of_ok hn ht hp, Log.hitsLimit_push, LogEntry.isDepthLimit,
          hitsLimit_printedLog]

lemma hitsLimit_settle (r : TickRules) (source : NodeId) (s : TickState σ) :
    (r.settle source s).log.HitsLimit ↔ s.log.HitsLimit := by
  rw [← r.hitsLimit_invoke source s]
  unfold settle
  split <;> rfl

def withDepth (r : TickRules) (depth : Nat) : TickRules := { r with maxDepth := depth }

lemma keeps_hitsLimit (r : TickRules) : r.Keeps fun s : TickState σ => s.log.HitsLimit where
  countRoot _ h := h
  counted _ _ h := h
  refuseReentry _ _ h := Log.hitsLimit_push.mpr (Or.inl h)
  refuseDepth _ _ _ h := Log.hitsLimit_push.mpr (Or.inl h)
  invoke s node h := (r.hitsLimit_invoke node s).mpr h
  publish s node _ h _ := (r.hitsLimit_invoke node s).mpr h

end TickRules

namespace Walks

variable {r : TickRules} {t : Task} {w v : Walker σ} {ms : List (Moment σ)}

lemma not_hitsLimit_start (h : Walks r t w ms v) (hno : ¬ v.state.log.HitsLimit) :
    ¬ w.state.log.HitsLimit :=
  fun hw => hno (r.keeps_hitsLimit.walks h hw fun _ _ _ _ _ => hw).1

/-- A walk that never hits its limit is a walk under every larger limit. -/
theorem deepen {depth : Nat} (h : Walks r t w ms v) (hd : r.maxDepth ≤ depth)
    (hno : ¬ v.state.log.HitsLimit) : Walks (r.withDepth depth) t w ms v := by
  induction h with
  | rootsNil => exact .rootsNil
  | visitNil => exact .visitNil
  | idle => exact .idle
  | portsNil => exact .portsNil
  | evaluateNil => exact .evaluateNil
  | rootsCons _ others ih₁ ih₂ => exact .rootsCons (ih₁ (others.not_hitsLimit_start hno)) (ih₂ hno)
  | reentry mem => exact .reentry mem
  | full => exact absurd (Log.hitsLimit_push.mpr (Or.inr rfl)) hno
  | run fresh room _ followed ih₁ ih₂ =>
    have hu := (r.hitsLimit_invoke _ _).not.mp (followed.not_hitsLimit_start hno)
    exact .run fresh (Nat.lt_of_lt_of_le room hd) (ih₁ hu) (ih₂ hno)
  | visitCons _ others ih₁ ih₂ => exact .visitCons (ih₁ (others.not_hitsLimit_start hno)) (ih₂ hno)
  | flow _ ih => exact .flow (ih hno)
  | flows _ ih => exact .flows (ih hno)
  | publish _ ih => exact .publish (ih hno)
  | publishThenFlow _ led ih₁ ih₂ =>
    exact .publishThenFlow (ih₁ (led.not_hitsLimit_start hno)) (ih₂ hno)
  | portsStop stop _ ih => exact .portsStop stop (ih hno)
  | portsNext next _ others ih₁ ih₂ =>
    exact .portsNext next (ih₁ (others.not_hitsLimit_start hno)) (ih₂ hno)
  | pull _ ih => exact .pull (ih hno)
  | evaluateSkip mem _ ih => exact .evaluateSkip mem (ih hno)
  | evaluateFull _ _ others =>
    exact absurd (Log.hitsLimit_push.mpr (Or.inr rfl)) (others.not_hitsLimit_start hno)
  | @evaluateRun source rest w u v ms ns fresh room _ others ih₁ ih₂ =>
    have hu := (r.hitsLimit_settle source u.state).not.mp (others.not_hitsLimit_start hno)
    exact .evaluateRun fresh (Nat.lt_of_lt_of_le room hd) (ih₁ hu) (ih₂ hno)

end Walks

/-- Distinct ids that find nodes are at most as many as there are nodes: they name different slots,
and slots with a node in them. -/
theorem Arena.length_le_of_live (a : Arena) {ids : List NodeId} (hnodup : ids.Nodup)
    (hlive : ∀ id ∈ ids, a.contains id = true) : ids.length ≤ a.nodes.length := by
  let occupied := (a.slots.zipIdx.filter fun e => e.1.node.isSome).map Prod.snd
  have hslot : ∀ id ∈ ids, ∃ s, a.slots[id.index.toNat]? = some s ∧
      s.generation = id.generation ∧ s.node.isSome = true := by
    intro id hid
    obtain ⟨n, hn⟩ := contains_iff.mp (hlive id hid)
    obtain ⟨s, hs, hg, hsn⟩ := get?_eq_some_iff.mp hn
    exact ⟨s, hs, hg, by simp [hsn]⟩
  have hdistinct : (ids.map fun id => id.index.toNat).Nodup := by
    apply List.Nodup.map_on _ hnodup
    intro i hi j hj hij
    obtain ⟨s, hs, hg, _⟩ := hslot i hi
    obtain ⟨t, ht, hg', _⟩ := hslot j hj
    rw [hij, ht] at hs
    have hgen : i.generation = j.generation := by rw [← hg, ← hg', Option.some.inj hs]
    have hindex : i.index = j.index := UInt32.toNat.inj hij
    cases i; cases j; simp_all
  have hsub : (ids.map fun id => id.index.toNat) ⊆ occupied := by
    intro i hi
    obtain ⟨id, hid, rfl⟩ := List.mem_map.mp hi
    obtain ⟨s, hs, _, hn⟩ := hslot id hid
    apply List.mem_map.mpr
    exact ⟨(s, id.index.toNat),
      List.mem_filter.mpr ⟨List.mk_mem_zipIdx_iff_getElem?.mpr hs, hn⟩, rfl⟩
  have hcount : occupied.length = a.nodes.length := by
    have hz := List.countP_map (p := fun s : Slot => s.node.isSome) (f := Prod.fst)
      (l := a.slots.zipIdx)
    rw [List.zipIdx_map_fst] at hz
    rw [List.length_map, ← List.countP_eq_length_filter, nodes, List.length_filterMap_eq_countP, hz]
    rfl
  have hle := (List.subperm_of_subset hdistinct hsub).length_le
  rwa [List.length_map, hcount] at hle

/-- A walk through the graph `g`: its stack holds distinct nodes of `g`. -/
structure Walker.Inside (w : Walker σ) (g : Graph) : Prop where
  shape : w.state.graph.shape = g.shape
  nodup : w.stack.Nodup
  live : ∀ node ∈ w.stack, g.nodes.contains node = true

/-- The nodes that a task is about to run are nodes of the graph. -/
def Task.Inside (g : Graph) : Task → Prop
  | .visit nodes | .evaluate nodes => ∀ node ∈ nodes, g.nodes.contains node = true
  | .dispatch node => g.nodes.contains node = true
  | .roots _ => False
  | .follow .. | .ports .. | .pull _ => True

namespace Walker.Inside

variable {g : Graph} {w : Walker σ}

omit [Host σ]

lemma push (h : w.Inside g) {node : NodeId} (fresh : node ∉ w.stack)
    (hn : g.nodes.contains node = true) {s : TickState σ} (hs : s.graph.shape = g.shape) :
    Walker.Inside ⟨node :: w.stack, s⟩ g := by
  refine ⟨hs, List.nodup_cons.mpr ⟨fresh, h.nodup⟩, ?_⟩
  intro other hother
  rcases List.mem_cons.mp hother with rfl | hm
  · exact hn
  · exact h.live other hm

/-- As long as a node of the graph is not on the stack, the stack is shorter than the graph. -/
lemma length_lt (h : w.Inside g) {node : NodeId} (fresh : node ∉ w.stack)
    (hn : g.nodes.contains node = true) : w.stack.length < g.nodes.nodes.length := by
  have hpush := h.push fresh hn h.shape
  exact g.nodes.length_le_of_live hpush.nodup hpush.live

end Walker.Inside

lemma Walks.inside {r : TickRules} {t : Task} {w v : Walker σ} {ms : List (Moment σ)} {g : Graph}
    (h : Walks r t w ms v) (hw : w.Inside g) : v.Inside g :=
  ⟨h.shape_eq.trans hw.shape, h.stack_eq ▸ hw.nodup, h.stack_eq ▸ hw.live⟩

namespace TickRules

variable {r : TickRules} {g h : Graph}

lemma contains_of_isPure {node : NodeId} (hp : r.isPure g node = true) :
    g.nodes.contains node = true := by
  obtain ⟨t, ht, _⟩ := (Option.any_eq_true _ _).mp hp
  exact Graph.contains_of_typeOf? ht

lemma isPure_of_mem_receivers (hs : h.shape = g.shape) {node receiver : NodeId}
    {values : Table String Value} (hm : receiver ∈ r.receivers h node values) :
    r.isPure g receiver = true := by
  have hpure := (List.mem_filter.mp hm).2
  rwa [r.isPure_of_shape ((Graph.shape_publish _ node values).trans hs)] at hpure

lemma contains_of_mem_targets (hg : g.EndsLive) {node target : NodeId} {port : String}
    (hm : target ∈ g.targets node port) : g.nodes.contains target = true := by
  obtain ⟨c, hc, rfl⟩ := List.mem_map.mp hm
  exact (hg c (List.mem_filter.mp hc).1).2

end TickRules

/-- A node that is not there runs harmlessly: it has no sources and asks for nothing. -/
lemma Walks.of_absent {r : TickRules} {node : NodeId} {w v : Walker σ} {ms : List (Moment σ)}
    (h : Walks r (.dispatch node) w ms v) (hnode : w.state.graph.node? node = none)
    (hstack : w.stack = []) (hroom : 0 < r.maxDepth) :
    v.state = w.state.counted true ∧ ∀ m ∈ ms, m.node = node := by
  have hsources : r.sources w.state.graph node = [] := by
    simp [TickRules.sources, Graph.typeOf?, hnode]
  cases h with
  | reentry mem => simp [hstack] at mem
  | full _ deep => simp [hstack] at deep; omega
  | run _ _ pulled followed =>
    cases pulled with
    | pull each =>
      rw [show r.sources (w.state.counted w.stack.isEmpty).graph node = [] from hsources] at each
      cases each
      rw [r.invoke_of_absent (s := w.state.counted w.stack.isEmpty) hnode] at followed
      cases followed
      simp [hstack]

namespace Walker.Inside

variable {r : TickRules} {g : Graph} {w : Walker σ}

section

omit [Host σ]

lemma targets (h : w.Inside g) (hg : g.EndsLive) (node : NodeId) (port : String) :
    (Task.visit (w.state.graph.targets node port)).Inside g := by
  intro target hm
  rw [Graph.targets_of_shape h.shape] at hm
  exact TickRules.contains_of_mem_targets hg hm

lemma receivers (h : w.Inside g) (node : NodeId) (values : Table String Value) :
    (Task.visit (r.receivers w.state.graph node values)).Inside g := by
  intro receiver hm
  exact TickRules.contains_of_isPure (TickRules.isPure_of_mem_receivers h.shape hm)

lemma sources (h : w.Inside g) (node : NodeId) :
    (Task.evaluate (r.sources w.state.graph node)).Inside g := by
  intro source hm
  have hpure := TickRules.isPure_of_mem_sources hm
  rw [r.isPure_of_shape h.shape] at hpure
  exact TickRules.contains_of_isPure hpure

lemma publish (h : w.Inside g) (node : NodeId) (values : Table String Value) :
    Walker.Inside ⟨w.stack, w.state.publish node values⟩ g :=
  ⟨(Graph.shape_publish _ node values).trans h.shape, h.nodup, h.live⟩

end

lemma invoke (h : w.Inside g) (node : NodeId) :
    Walker.Inside ⟨w.stack, (r.invoke node w.state).2⟩ g :=
  ⟨(r.shape_invoke node w.state).trans h.shape, h.nodup, h.live⟩

lemma settle (h : w.Inside g) (source : NodeId) :
    Walker.Inside ⟨w.stack.tail, r.settle source w.state⟩ g := by
  refine ⟨(r.keeps_shape g.shape).settle h.shape source, h.nodup.tail, ?_⟩
  exact fun node hm => h.live node (List.mem_of_mem_tail hm)

end Walker.Inside

/-- No task of a walk through a graph meets a full stack, if the limit is no less than the number
of nodes: a node about to be pushed is one that the stack does not hold yet. -/
theorem Walks.not_hitsLimit {r : TickRules} {t : Task} {w v : Walker σ} {ms : List (Moment σ)}
    {g : Graph} (h : Walks r t w ms v) (hg : g.EndsLive) (hsize : g.nodes.nodes.length ≤ r.maxDepth)
    (hw : w.Inside g) (ht : t.Inside g) (hno : ¬ w.state.log.HitsLimit) :
    ¬ v.state.log.HitsLimit := by
  induction h with
  | rootsNil | rootsCons => cases ht
  | visitNil | idle | portsNil | evaluateNil => exact hno
  | reentry =>
    rw [TickState.refuseReentry, TickState.refuse, Log.hitsLimit_push]
    exact not_or.mpr ⟨hno, by simp [LogEntry.isDepthLimit]⟩
  | full fresh deep =>
    have hlt := hw.length_lt fresh ht
    omega
  | @run node w u v ms ns fresh room pulled followed ih₁ ih₂ =>
    have hpush : Walker.Inside ⟨node :: w.stack, w.state.counted w.stack.isEmpty⟩ g :=
      hw.push fresh ht hw.shape
    have hu : u.Inside g := pulled.inside hpush
    refine ih₂ (hu.invoke node) trivial ?_
    exact (r.hitsLimit_invoke node u.state).not.mpr (ih₁ hpush trivial hno)
  | visitCons first _ ih₁ ih₂ =>
    obtain ⟨hfirst, hrest⟩ := List.forall_mem_cons.mp ht
    exact ih₂ (first.inside hw) hrest (ih₁ hw hfirst hno)
  | flow _ ih => exact ih hw (hw.targets hg _ _) hno
  | flows _ ih => exact ih hw trivial hno
  | publish _ ih => exact ih (hw.publish _ _) (hw.receivers _ _) hno
  | publishThenFlow reached _ ih₁ ih₂ =>
    have hu := reached.inside (hw.publish _ _)
    exact ih₂ hu (hu.targets hg _ _) (ih₁ (hw.publish _ _) (hw.receivers _ _) hno)
  | portsStop _ _ ih => exact ih hw (hw.targets hg _ _) hno
  | portsNext _ led _ ih₁ ih₂ =>
    exact ih₂ (led.inside hw) trivial (ih₁ hw (hw.targets hg _ _) hno)
  | pull _ ih => exact ih hw (hw.sources _) hno
  | evaluateSkip _ _ ih => exact ih hw (List.forall_mem_cons.mp ht).2 hno
  | evaluateFull fresh deep =>
    have hlt := hw.length_lt fresh (List.forall_mem_cons.mp ht).1
    omega
  | @evaluateRun source rest w u v ms ns fresh room pulled others ih₁ ih₂ =>
    obtain ⟨hsource, hrest⟩ := List.forall_mem_cons.mp ht
    have hpush : Walker.Inside ⟨source :: w.stack, w.state.counted false⟩ g :=
      hw.push fresh hsource hw.shape
    have hu : u.Inside g := pulled.inside hpush
    refine ih₂ (hu.settle source) hrest ?_
    rw [TickRules.hitsLimit_settle]
    exact ih₁ hpush trivial hno

lemma Walks.not_hitsLimit_roots {r : TickRules} {roots : List NodeId} {w v : Walker σ}
    {ms : List (Moment σ)} {g : Graph} (h : Walks r (.roots roots) w ms v) (hg : g.EndsLive)
    (hsize : g.nodes.nodes.length ≤ r.maxDepth) (hroom : roots ≠ [] → 0 < r.maxDepth)
    (hw : w.state.graph.shape = g.shape) (hstack : w.stack = []) (hno : ¬ w.state.log.HitsLimit) :
    ¬ v.state.log.HitsLimit := by
  induction roots generalizing w ms with
  | nil => cases h; exact hno
  | cons root rest ih =>
    cases h with
    | rootsCons first others =>
      have hrest : rest ≠ [] → 0 < r.maxDepth := fun _ => hroom (List.cons_ne_nil _ _)
      refine ih others hrest (first.shape_eq.trans hw) (first.stack_eq.trans hstack) ?_
      by_cases hlive : g.nodes.contains root = true
      · refine first.not_hitsLimit hg hsize ⟨hw, ?_, ?_⟩ hlive hno
        · simp [hstack]
        · simp [hstack]
      · have habsent : w.state.graph.node? root = none := by
          rw [← Graph.contains_of_shape hw] at hlive
          simpa [Graph.node?, Arena.contains] using hlive
        rw [(first.of_absent habsent hstack (hroom (List.cons_ne_nil _ _))).1]
        exact hno

namespace TickRules

lemma maxDepth_pos {r : TickRules} {collisionsOnly : Bool} {g : Graph}
    (hsize : g.nodes.nodes.length ≤ r.maxDepth) (hroots : r.roots g collisionsOnly ≠ []) :
    0 < r.maxDepth := by
  obtain ⟨root, hroot⟩ := List.exists_mem_of_ne_nil _ hroots
  obtain ⟨n, hn, _⟩ := List.mem_map.mp hroot
  exact Nat.lt_of_lt_of_le (List.length_pos_of_mem (List.mem_filter.mp hn).1) hsize

/-- A limit no less than the number of nodes is not hit by a tick. -/
theorem not_hitsLimit_run {r : TickRules} {collisionsOnly : Bool} {g : Graph} {scene : σ}
    (hg : g.EndsLive) (hsize : g.nodes.nodes.length ≤ r.maxDepth) :
    ¬ (r.run collisionsOnly g scene).log.HitsLimit := by
  obtain ⟨ms, walk⟩ := r.leads_run collisionsOnly g scene
  refine walk.not_hitsLimit_roots hg hsize (maxDepth_pos hsize) rfl rfl ?_
  simp [start, Log.HitsLimit]

/-- A limit that a tick does not hit might as well be larger. -/
theorem run_withDepth {r : TickRules} {collisionsOnly : Bool} {g : Graph} {scene : σ}
    {depth : Nat} (hd : r.maxDepth ≤ depth)
    (hno : ¬ (r.run collisionsOnly g scene).log.HitsLimit) :
    (r.withDepth depth).run collisionsOnly g scene = r.run collisionsOnly g scene := by
  obtain ⟨ms, walk⟩ := r.leads_run collisionsOnly g scene
  have hend := eq_run_of_walks (r := r.withDepth depth) (walk.deepen hd hno)
  exact (congrArg Walker.state hend).symm

/-- Every tick ends, on every graph, along one walk only. At each of its moments the stack holds no
node twice and is within the limit, and each task leaves the stack as it found it. On a graph whose
connections end at nodes a limit of the number of nodes is never hit, and a larger limit changes
nothing where a smaller one is not hit. -/
theorem run_within_depth (r : TickRules) (collisionsOnly : Bool) (g : Graph) (scene : σ) :
    (∃ ms, Walks r (.roots (r.roots g collisionsOnly)) ⟨[], start g scene⟩ ms
        ⟨[], r.run collisionsOnly g scene⟩ ∧
      (∀ ns v, Walks r (.roots (r.roots g collisionsOnly)) ⟨[], start g scene⟩ ns v →
        ns = ms ∧ v = ⟨[], r.run collisionsOnly g scene⟩) ∧
      ∀ m ∈ ms, m.stack.Nodup ∧ m.stack.length ≤ r.maxDepth) ∧
    (∀ t (w v : Walker σ) ms, Walks r t w ms v → v.stack = w.stack) ∧
    (g.EndsLive → g.nodes.nodes.length ≤ r.maxDepth →
      ¬ (r.run collisionsOnly g scene).log.HitsLimit) ∧
    ∀ depth, r.maxDepth ≤ depth → ¬ (r.run collisionsOnly g scene).log.HitsLimit →
      (r.withDepth depth).run collisionsOnly g scene = r.run collisionsOnly g scene := by
  obtain ⟨ms, walk⟩ := r.leads_run collisionsOnly g scene
  refine ⟨⟨ms, walk, fun ns v other => other.unique walk, ?_⟩, ?_, not_hitsLimit_run, ?_⟩
  · exact walk.bounded_of_mem (Walks.bounded_nil r)
  · exact fun _ _ _ _ h => h.stack_eq
  · exact fun depth hd hno => run_withDepth hd hno

end TickRules

/-- An event that leads to a sequence, which leads back to itself. -/
def Graph.selfLoop : Graph where
  id := default
  entity := default
  nodes :=
    ⟨[⟨0, some ⟨⟨0, 0⟩, "OnStart", .zero, .empty⟩⟩, ⟨0, some ⟨⟨1, 0⟩, "Sequence", .zero, .empty⟩⟩],
      [], 2⟩
  connections := .ofList
    [(⟨.ofNat 1⟩, ⟨⟨.ofNat 1⟩, ⟨0, 0⟩, "Exec", ⟨1, 0⟩, "Exec"⟩),
      (⟨.ofNat 2⟩, ⟨⟨.ofNat 2⟩, ⟨1, 0⟩, "First", ⟨1, 0⟩, "Exec"⟩)]
  vars := .empty

theorem run_selfLoop_within_depth :
    Graph.selfLoop.EndsLive ∧ Graph.selfLoop.nodes.nodes.length ≤ 2 ∧
      ¬ (TickRules.run ⟨.builtins, ⟨default, .zero, 0, none⟩, 2⟩ false .selfLoop
        Scene.empty).log.HitsLimit ∧
      TickRules.run ⟨.builtins, ⟨default, .zero, 0, none⟩, 256⟩ false .selfLoop Scene.empty =
        TickRules.run ⟨.builtins, ⟨default, .zero, 0, none⟩, 2⟩ false .selfLoop Scene.empty := by
  have hlive : Graph.selfLoop.EndsLive := by unfold Graph.EndsLive; decide
  have hsize : Graph.selfLoop.nodes.nodes.length ≤ 2 := by decide
  obtain ⟨_, _, hno, hdeep⟩ := TickRules.run_within_depth
    ⟨.builtins, ⟨default, .zero, 0, none⟩, 2⟩ false .selfLoop Scene.empty
  exact ⟨hlive, hsize, hno hlive hsize, hdeep 256 (by decide) (hno hlive hsize)⟩

end ScriptGraph
