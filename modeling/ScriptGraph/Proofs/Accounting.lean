import ScriptGraph.Proofs.Walk
import ScriptGraph.Simulation

/-! The counters of a tick. Below a root every run is one to which a connection led, and every run
fails at most once, so over each stretch of the walk the counters grow in step. What counts as
degraded or refused is what the log says. -/
namespace ScriptGraph

variable {σ : Type}

namespace LogEntry

/-- The warning that a node was skipped or failed. -/
def isDegraded : LogEntry → Bool
  | .placeholderSkipped .. | .nodeFailed .. => true
  | _ => false

/-- The warning that a node was not entered. -/
def isRefusal : LogEntry → Bool
  | .reentryRefused .. | .depthLimitReached .. => true
  | _ => false

end LogEntry

namespace TickStats

/-- The counters of whole roots: every run is a root or was led to, and no run failed twice. -/
structure Balanced (s : TickStats) : Prop where
  executed : s.executed = s.roots + s.downstream
  degraded : s.degraded ≤ s.executed

/-- From `s` to `t` no root was begun, every run was led to, and no run failed twice. -/
structure Grows (s t : TickStats) : Prop where
  -- differences of counters, written as sums
  roots : t.roots = s.roots
  led : t.executed + s.downstream = s.executed + t.downstream
  degraded : t.degraded + s.executed ≤ s.degraded + t.executed

/-- From `s` to `t` nothing was counted but perhaps a failure. -/
structure MayFail (s t : TickStats) : Prop where
  roots : t.roots = s.roots
  executed : t.executed = s.executed
  downstream : t.downstream = s.downstream
  degraded : t.degraded ≤ s.degraded + 1

lemma balanced_zero : zero.Balanced := ⟨rfl, Nat.le_refl 0⟩

lemma Balanced.add {s t : TickStats} (hs : s.Balanced) (ht : t.Balanced) : (s.add t).Balanced := by
  obtain ⟨hse, hsd⟩ := hs
  obtain ⟨hte, htd⟩ := ht
  constructor
  · simp only [TickStats.add]
    omega
  · simp only [TickStats.add]
    omega

lemma Balanced.grows {s t : TickStats} (hs : s.Balanced) (h : s.Grows t) : t.Balanced := by
  obtain ⟨hexecuted, hdegraded⟩ := hs
  obtain ⟨hroots, hled, hfailed⟩ := h
  constructor <;> omega

namespace Grows

lemma refl (s : TickStats) : s.Grows s := ⟨rfl, rfl, Nat.le_refl _⟩

lemma trans {s t u : TickStats} (h : s.Grows t) (k : t.Grows u) : s.Grows u := by
  obtain ⟨hroots, hled, hfailed⟩ := h
  obtain ⟨kroots, kled, kfailed⟩ := k
  constructor <;> omega

lemma refuse (s : TickState σ) (entry : LogEntry) : s.stats.Grows (s.refuse entry).stats :=
  ⟨rfl, rfl, Nat.le_refl _⟩

lemma mayFail {s : TickState σ} {t u : TickStats} (h : (s.counted false).stats.Grows t)
    (k : t.MayFail u) : s.stats.Grows u := by
  obtain ⟨hroots, hled, hfailed⟩ := h
  obtain ⟨kroots, kexecuted, kdownstream, kdegraded⟩ := k
  simp only [TickState.counted, Bool.false_eq_true, if_false] at hroots hled hfailed
  constructor <;> omega

end Grows

end TickStats

variable [Host σ]

namespace TickRules

lemma mayFail_invoke (r : TickRules) (node : NodeId) (s : TickState σ) :
    s.stats.MayFail (r.invoke node s).2.stats := by
  have hnone : s.stats.MayFail s.stats := ⟨rfl, rfl, rfl, Nat.le_succ _⟩
  have hone : s.stats.MayFail { s.stats with degraded := s.stats.degraded + 1 } :=
    ⟨rfl, rfl, rfl, Nat.le_refl _⟩
  refine invoke_cases (P := fun ran => s.stats.MayFail ran.2.stats) ?_ ?_ ?_ ?_
  · exact fun _ => hnone
  · exact fun _ _ _ => hone
  · exact fun _ _ _ _ _ _ _ => hnone
  · exact fun _ _ _ _ _ _ _ => hone

lemma mayFail_settle (r : TickRules) (source : NodeId) (s : TickState σ) :
    s.stats.MayFail (r.settle source s).stats := by
  have hinvoke := r.mayFail_invoke source s
  unfold settle
  split
  · exact hinvoke
  · exact hinvoke

/-- The counters of warnings are the numbers of warnings in the log. -/
structure Logged (s : TickState σ) : Prop where
  degraded : s.stats.degraded = s.log.countP LogEntry.isDegraded
  refused : s.stats.refused = s.log.countP LogEntry.isRefusal

omit [Host σ] in
lemma countP_printedLog (r : TickRules) (n : Node) (s : TickState σ) (w : Workspace σ)
    {p : LogEntry → Bool} (hp : ∀ entity node value, p (.printed entity node value) = false) :
    (r.printedLog n s w).countP p = s.log.countP p := by
  have hzero : (w.printed.map fun v => LogEntry.printed r.context.entity n.id v).countP p = 0 := by
    simp [List.countP_eq_zero, hp]
  simp [printedLog, Array.countP_append, hzero]

lemma Logged.invoke {r : TickRules} {s : TickState σ} (hs : Logged s) (node : NodeId) :
    Logged (r.invoke node s).2 := by
  obtain ⟨hdegraded, hrefused⟩ := hs
  have hd (n : Node) (w : Workspace σ) :
      (r.printedLog n s w).countP LogEntry.isDegraded = s.stats.degraded :=
    (r.countP_printedLog n s w fun _ _ _ => rfl).trans hdegraded.symm
  have hr (n : Node) (w : Workspace σ) :
      (r.printedLog n s w).countP LogEntry.isRefusal = s.stats.refused :=
    (r.countP_printedLog n s w fun _ _ _ => rfl).trans hrefused.symm
  refine invoke_cases (P := fun ran => Logged ran.2) ?_ ?_ ?_ ?_
  · intro _
    exact ⟨hdegraded, hrefused⟩
  · intro n _ _
    constructor
    · simp [Array.countP_push, LogEntry.isDegraded, hdegraded]
    · simp [LogEntry.isRefusal, hrefused]
  · intro n t outcome w _ _ _
    constructor
    · simp [LogEntry.isDegraded, hd]
    · simp [LogEntry.isRefusal, hr]
  · intro n t e w _ _ _
    constructor
    · simp [Array.countP_push, LogEntry.isDegraded, hd]
    · simp [LogEntry.isRefusal, hr]

lemma keeps_logged (r : TickRules) : r.Keeps (Logged : TickState σ → Prop) := by
  have hrefuse (s : TickState σ) (entry : LogEntry) (hs : Logged s)
      (hd : entry.isDegraded = false) (hr : entry.isRefusal = true) : Logged (s.refuse entry) := by
    constructor
    · simp [TickState.refuse, hd, hs.degraded]
    · simp [TickState.refuse, hr, hs.refused]
  exact {
    countRoot := fun _ hs => ⟨hs.degraded, hs.refused⟩
    counted := fun _ _ hs => ⟨hs.degraded, hs.refused⟩
    refuseReentry := fun s _ hs => hrefuse s _ hs rfl rfl
    refuseDepth := fun s _ _ hs => hrefuse s _ hs rfl rfl
    invoke := fun _ node hs => hs.invoke node
    publish := fun _ node _ hs _ => ⟨(hs.invoke node).degraded, (hs.invoke node).refused⟩ }

end TickRules

namespace Walks

variable {r : TickRules} {t : Task} {w v : Walker σ} {ms : List (Moment σ)}

/-- Below a root the counters grow in step. -/
theorem grows (h : Walks r t w ms v) (ht : ∀ roots, t ≠ .roots roots) (hw : w.stack ≠ []) :
    w.state.stats.Grows v.state.stats := by
  induction h with
  | rootsNil | rootsCons => exact absurd rfl (ht _)
  | visitNil | idle | portsNil | evaluateNil => exact .refl _
  | reentry | full => exact .refuse _ _
  | @run node w u v _ _ _ _ pulled _ ih₁ ih₂ =>
    -- the stack is not empty, so the run counts as one that was led to
    have hcounted : w.stack.isEmpty = false := by simpa using hw
    have hu : u.stack = node :: w.stack := pulled.stack_eq
    rw [hcounted] at ih₁
    have hran := (ih₁ nofun (List.cons_ne_nil _ _)).mayFail (r.mayFail_invoke node u.state)
    exact hran.trans (ih₂ nofun (by simp [hu]))
  | visitCons first _ ih₁ ih₂ | portsNext _ first _ ih₁ ih₂ | publishThenFlow first _ ih₁ ih₂ =>
    exact (ih₁ nofun hw).trans (ih₂ nofun (first.stack_eq ▸ hw))
  | flow _ ih | flows _ ih | publish _ ih | portsStop _ _ ih | pull _ ih => exact ih nofun hw
  | evaluateSkip _ _ ih => exact ih nofun hw
  | evaluateFull _ _ _ ih => exact (TickStats.Grows.refuse _ _).trans (ih nofun hw)
  | @evaluateRun source rest w u v _ _ _ _ pulled _ ih₁ ih₂ =>
    have hu : u.stack.tail = w.stack := by rw [pulled.stack_eq, List.tail_cons]
    have hran := (ih₁ nofun (List.cons_ne_nil _ _)).mayFail (r.mayFail_settle source u.state)
    exact hran.trans (ih₂ nofun (by simpa [hu] using hw))

lemma balanced_root {root : NodeId} {s : TickState σ}
    (h : Walks r (.dispatch root) ⟨[], s.countRoot⟩ ms v) (hroom : 0 < r.maxDepth)
    (hs : s.stats.Balanced) :
    v.state.stats.Balanced ∧ v.state.stats.roots = s.stats.roots + 1 := by
  cases h with
  | reentry mem => cases mem
  | full _ deep =>
    have hempty : r.maxDepth ≤ 0 := deep
    omega
  | @run _ _ u v _ _ _ _ pulled followed =>
    have hu : u.stack = [root] := pulled.stack_eq
    obtain ⟨hroots, hled, hfailed⟩ := pulled.grows nofun (List.cons_ne_nil _ _)
    obtain ⟨kroots, kexecuted, kdownstream, kdegraded⟩ := r.mayFail_invoke root u.state
    have hfollow := followed.grows nofun (by simp [hu])
    -- the stack was empty: the run is counted, but not as one that was led to
    simp only [TickState.counted, TickState.countRoot, List.isEmpty_nil, if_true] at hroots hled
    simp only [TickState.counted, TickState.countRoot] at hfailed
    obtain ⟨hexecuted, hdegraded⟩ := hs
    have hran : (r.invoke root u.state).2.stats.Balanced := by
      constructor <;> omega
    have hend : v.state.stats.roots = (r.invoke root u.state).2.stats.roots := hfollow.roots
    exact ⟨hran.grows hfollow, by dsimp only; omega⟩

lemma balanced_roots {roots : List NodeId} (h : Walks r (.roots roots) w ms v)
    (hstack : w.stack = []) (hroom : 0 < r.maxDepth) (hw : w.state.stats.Balanced) :
    v.state.stats.Balanced ∧ v.state.stats.roots = w.state.stats.roots + roots.length := by
  induction roots generalizing w ms with
  | nil =>
    cases h
    exact ⟨hw, rfl⟩
  | cons root rest ih =>
    cases h with
    | rootsCons first others =>
      rw [hstack] at first
      obtain ⟨hu, hroot⟩ := first.balanced_root hroom hw
      obtain ⟨hv, hrest⟩ := ih others first.stack_eq hu
      refine ⟨hv, ?_⟩
      rw [hrest, hroot, List.length_cons]
      omega

end Walks

/-- What is logged at a moment: what running the node adds to the log. -/
def TickRules.entries (r : TickRules) (m : Moment σ) : List LogEntry :=
  if m.phase = .invoked then (r.invoke m.node m.state).2.log.toList.drop m.state.log.size else []

/-- The log without the refusals. -/
def TickState.events (s : TickState σ) : List LogEntry := s.log.toList.filter fun e => !e.isRefusal

omit [Host σ] in
lemma TickState.events_refuse (s : TickState σ) {entry : LogEntry} (h : entry.isRefusal = true) :
    (s.refuse entry).events = s.events := by
  simp [events, refuse, h]

namespace TickRules

lemma events_invoke (r : TickRules) (node : NodeId) (stack : List NodeId) (s : TickState σ) :
    (r.invoke node s).2.events = s.events ++ r.entries ⟨.invoked, node, stack, s⟩ := by
  have hadded {es : List LogEntry} (hes : ∀ e ∈ es, e.isRefusal = false) {log : Log}
      (hlog : log.toList = s.log.toList ++ es) :
      (log.toList.filter fun e => !e.isRefusal) = s.events ++ log.toList.drop s.log.size := by
    have hall : es.filter (fun e => !e.isRefusal) = es :=
      List.filter_eq_self.mpr (by simpa using hes)
    rw [hlog, List.filter_append, hall, ← Array.length_toList, List.drop_left]
    rfl
  have hprinted (n : Node) (w : Workspace σ) {entry : LogEntry} (he : entry.isRefusal = false) :
      (((r.printedLog n s w).push entry).toList.filter fun e => !e.isRefusal) =
        s.events ++ ((r.printedLog n s w).push entry).toList.drop s.log.size := by
    let es := w.printed.map (LogEntry.printed r.context.entity n.id) ++ [entry]
    have hes : ∀ e ∈ es, e.isRefusal = false :=
      List.forall_mem_append.mpr ⟨by simp [LogEntry.isRefusal], by simpa using he⟩
    exact hadded hes (by simp [printedLog, es])
  refine invoke_cases (P := fun ran => ran.2.events = s.events ++ ran.2.log.toList.drop s.log.size)
    ?_ ?_ ?_ ?_
  · have hnone : ∀ e ∈ ([] : List LogEntry), e.isRefusal = false := nofun
    exact fun _ => hadded hnone (by simp)
  · intro n _ _
    let entry := LogEntry.placeholderSkipped s.graph.id node n.typeName
    have hentry : ∀ e ∈ [entry], e.isRefusal = false := by simp [entry, LogEntry.isRefusal]
    exact hadded hentry Array.toList_push
  · exact fun n _ _ w _ _ _ => hprinted n w rfl
  · exact fun n _ _ w _ _ _ => hprinted n w rfl

lemma events_settle (r : TickRules) (source : NodeId) (s : TickState σ) :
    (r.settle source s).events = (r.invoke source s).2.events := by
  unfold settle
  split <;> rfl

end TickRules

namespace Walks

variable {r : TickRules} {t : Task} {w v : Walker σ} {ms : List (Moment σ)}

/-- A walk counts every node that it runs. -/
theorem executed_eq (h : Walks r t w ms v) : v.state.stats.executed =
    w.state.stats.executed + ms.countP fun m => m.phase = .invoked := by
  induction h with
  | rootsNil | visitNil | idle | portsNil | evaluateNil | reentry | full => rfl
  | rootsCons _ _ ih₁ ih₂ | publishThenFlow _ _ ih₁ ih₂ =>
    rw [ih₂, ih₁, List.countP_append, ← Nat.add_assoc]
    rfl
  | visitCons _ _ ih₁ ih₂ | portsNext _ _ _ ih₁ ih₂ =>
    rw [ih₂, ih₁, List.countP_append, ← Nat.add_assoc]
  | @run node w u v _ _ _ _ _ _ ih₁ ih₂ =>
    have hran := (r.mayFail_invoke node u.state).executed
    simp only [TickState.counted] at ih₁ ih₂
    simp only [List.countP_cons, List.countP_append, List.countP_nil]
    simp
    omega
  | flow _ ih | flows _ ih | publish _ ih | portsStop _ _ ih | pull _ ih | evaluateSkip _ _ ih
  | evaluateFull _ _ _ ih => exact ih
  | @evaluateRun source rest w u v _ _ _ _ _ _ ih₁ ih₂ =>
    have hran := (r.mayFail_settle source u.state).executed
    simp only [TickState.counted] at ih₁ ih₂
    simp only [List.countP_cons, List.countP_append]
    simp
    omega

/-- Refusals apart, a walk logs what its runs log, in their order. -/
theorem events_eq (h : Walks r t w ms v) :
    v.state.events = w.state.events ++ ms.flatMap r.entries := by
  induction h with
  | rootsNil | visitNil | idle | portsNil | evaluateNil => simp
  | reentry | full => exact (TickState.events_refuse _ rfl).trans (List.append_nil _).symm
  | rootsCons _ _ ih₁ ih₂ | publishThenFlow _ _ ih₁ ih₂ =>
    rw [ih₂, ih₁, List.flatMap_append, ← List.append_assoc]
    rfl
  | visitCons _ _ ih₁ ih₂ | portsNext _ _ _ ih₁ ih₂ =>
    rw [ih₂, ih₁, List.flatMap_append, ← List.append_assoc]
  | @run node w u v ms ns _ _ _ _ ih₁ ih₂ =>
    rw [ih₂, r.events_invoke node u.stack, ih₁]
    simp [TickRules.entries, TickState.events, TickState.counted]
  | flow _ ih | flows _ ih | publish _ ih | portsStop _ _ ih | pull _ ih | evaluateSkip _ _ ih =>
    exact ih
  | evaluateFull _ _ _ ih =>
    rw [ih]
    exact congrArg (· ++ _) (TickState.events_refuse _ rfl)
  | @evaluateRun source rest w u v ms ns _ _ _ _ ih₁ ih₂ =>
    rw [ih₂, r.events_settle, r.events_invoke source u.stack, ih₁]
    simp [TickRules.entries, TickState.events, TickState.counted]

end Walks

lemma clampDepth_pos (depth : Nat) : 0 < clampDepth depth := Nat.le_max_right depth 1

namespace TickRules

variable (r : TickRules) (collisionsOnly : Bool) (g : Graph) (scene : σ)

theorem balanced_run (hroom : 0 < r.maxDepth) :
    (r.run collisionsOnly g scene).stats.Balanced ∧
      (r.run collisionsOnly g scene).stats.roots = (r.roots g collisionsOnly).length := by
  obtain ⟨ms, walk⟩ := r.leads_run collisionsOnly g scene
  obtain ⟨hstats, hroots⟩ := walk.balanced_roots rfl hroom TickStats.balanced_zero
  exact ⟨hstats, hroots.trans (Nat.zero_add _)⟩

theorem executed_run : (r.run collisionsOnly g scene).stats.executed =
    (r.moments collisionsOnly g scene).countP fun m => m.phase = .invoked :=
  (r.walks_moments collisionsOnly g scene).executed_eq.trans (Nat.zero_add _)

theorem events_run : (r.run collisionsOnly g scene).events =
    (r.moments collisionsOnly g scene).flatMap r.entries :=
  (r.walks_moments collisionsOnly g scene).events_eq

theorem logged_run : Logged (r.run collisionsOnly g scene) := r.keeps_logged.run ⟨rfl, rfl⟩

end TickRules

namespace Session

variable (s : Session) (deltaTime : Single)

lemma balanced_runPass {acc : TickState σ} (hacc : acc.stats.Balanced) (p : Pass) :
    (s.runPass deltaTime acc p).stats.Balanced := by
  have hroom : 0 < (s.rules deltaTime acc.graph.entity p).maxDepth := clampDepth_pos _
  exact hacc.add (TickRules.balanced_run _ p.collisionsOnly acc.graph acc.scene hroom).1

theorem balanced_update (scene : σ) (collisions : List Collision) :
    (s.update deltaTime scene collisions).stats.Balanced := by
  have hpasses (dt : Single) (ps : List Pass) (acc : TickState σ) (hacc : acc.stats.Balanced) :
      (ps.foldl (s.runPass dt) acc).stats.Balanced := by
    induction ps generalizing acc with
    | nil => exact hacc
    | cons p ps ih => exact ih _ (s.balanced_runPass dt hacc p)
  have hgraphs (dt : Single) (graphs : List Graph) (acc : Progress σ) (hacc : acc.stats.Balanced) :
      (graphs.foldl (s.tickGraph dt collisions) acc).stats.Balanced := by
    induction graphs generalizing acc with
    | nil => exact hacc
    | cons g graphs ih => exact ih _ (hpasses dt _ _ hacc)
  unfold update
  split
  · exact hgraphs _ _ _ TickStats.balanced_zero
  · exact TickStats.balanced_zero

end Session

theorem Simulation.balanced_run (s : Simulation) (ticks : Nat) : (s.run ticks).stats.Balanced := by
  have hcontinue (n : Nat) (before : Run) (hb : before.stats.Balanced) :
      (before.continue n).stats.Balanced := by
    induction n generalizing before with
    | zero => exact hb
    | succ n ih =>
      refine ih _ (hb.add ?_)
      exact before.simulation.session.balanced_update _ _ _
  exact hcontinue ticks _ TickStats.balanced_zero

/-- The counters of a tick add up and agree with its log: one root for every node of an event type,
or of one driven by collisions; every run a root or led to, and one run for each time that a node is
about to be run; no more failures than runs, each of them logged; each refusal logged. Sums over
updates and simulations add up as well. -/
theorem tick_accounting :
    (∀ (σ : Type) [Host σ] (registry : Registry) (context : TickContext) (depth : Nat)
        (collisionsOnly : Bool) (g : Graph) (scene : σ),
      let r : TickRules := ⟨registry, context, clampDepth depth⟩
      let ended := r.run collisionsOnly g scene
      ended.stats.roots = g.nodes.nodes.countP (fun n => (registry.lookup n.typeName).any fun t =>
          t.isEvent && (!collisionsOnly || t.collisionEvent)) ∧
        ended.stats.executed = ended.stats.roots + ended.stats.downstream ∧
        ended.stats.executed =
          (r.moments collisionsOnly g scene).countP (fun m => m.phase = .invoked) ∧
        ended.stats.degraded ≤ ended.stats.executed ∧
        ended.stats.degraded = ended.log.countP LogEntry.isDegraded ∧
        ended.stats.refused = ended.log.countP LogEntry.isRefusal) ∧
    (∀ (σ : Type) [Host σ] (s : Session) (deltaTime : Single) (scene : σ)
        (collisions : List Collision),
      let stats := (s.update deltaTime scene collisions).stats
      stats.executed = stats.roots + stats.downstream ∧ stats.degraded ≤ stats.executed) ∧
    ∀ (s : Simulation) (ticks : Nat),
      let stats := (s.run ticks).stats
      stats.executed = stats.roots + stats.downstream ∧ stats.degraded ≤ stats.executed := by
  refine ⟨?_, ?_, ?_⟩
  · intro σ _ registry context depth collisionsOnly g scene r ended
    obtain ⟨hbalanced, hroots⟩ := r.balanced_run collisionsOnly g scene (clampDepth_pos depth)
    have hlogged : TickRules.Logged ended := r.logged_run collisionsOnly g scene
    refine ⟨?_, hbalanced.executed, r.executed_run collisionsOnly g scene, hbalanced.degraded,
      hlogged.degraded, hlogged.refused⟩
    rw [List.countP_eq_length_filter]
    exact hroots.trans (List.length_map _)
  · intro σ _ s deltaTime scene collisions stats
    have hbalanced := s.balanced_update deltaTime scene collisions
    exact ⟨hbalanced.executed, hbalanced.degraded⟩
  · intro s ticks stats
    have hbalanced := s.balanced_run ticks
    exact ⟨hbalanced.executed, hbalanced.degraded⟩

end ScriptGraph
