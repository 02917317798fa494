import ScriptGraph.Proofs.Shape

/-! The walk of a tick through its graph, with the stack as part of the state: it is pushed before
a node runs, looked at by every dispatch and every pull, and popped afterwards. `Walks` gives the
rules of the walk one by one, without a bound on the nesting built into them; every derivation
lists the moments it passes through.

The walk is shown to agree with `dispatch`, `pull` and `run`: a derivation exists for every task,
only one does, and it ends in what those functions compute. -/
namespace ScriptGraph

variable {σ : Type} [Host σ]

namespace TickState

def countRoot (s : TickState σ) : TickState σ :=
  { s with stats := { s.stats with roots := s.stats.roots + 1 } }

def publish (s : TickState σ) (node : NodeId) (values : Table String Value) : TickState σ :=
  { s with graph := (s.graph.publish node values).2 }

end TickState

namespace TickRules

def receivers (r : TickRules) (g : Graph) (node : NodeId) (values : Table String Value) :
    List NodeId :=
  (g.publish node values).1.filter (r.isPure (g.publish node values).2)

/-- Runs a pulled node and publishes what it gives. -/
def settle (r : TickRules) (source : NodeId) (s : TickState σ) : TickState σ :=
  match (r.invoke source s).1.published with
  | some values => (r.invoke source s).2.publish source values
  | none => (r.invoke source s).2

end TickRules

/-- A walk under way: the nodes that are being run, the innermost first, and all that the tick
changes. -/
structure Walker (σ : Type) where
  stack : List NodeId
  state : TickState σ

/-- What a walk has before it, one task for each recursion of a tick: to go on at several ports or
nodes, to do what a node asked for, or to evaluate the pure nodes that feed it. -/
inductive Task where
  | roots (nodes : List NodeId)
  | dispatch (node : NodeId)
  | visit (nodes : List NodeId)
  | follow (node : NodeId) (outcome : Outcome)
  | ports (node : NodeId) (sequential : Bool) (ports : List String)
  | pull (node : NodeId)
  | evaluate (sources : List NodeId)

inductive Phase where
  | entered
  | invoked
  | left
deriving DecidableEq

/-- A moment of a walk: a node has been pushed, is about to be run or has been popped, with the
stack and the state as they are then. -/
structure Moment (σ : Type) where
  phase : Phase
  node : NodeId
  stack : List NodeId
  state : TickState σ

/-- The rules of the walk: what a task does to the walker and which moments it passes through. -/
inductive Walks (r : TickRules) : Task → Walker σ → List (Moment σ) → Walker σ → Prop
  | rootsNil {w} : Walks r (.roots []) w [] w
  | rootsCons {root rest w u v ms ns}
      (first : Walks r (.dispatch root) ⟨w.stack, w.state.countRoot⟩ ms u)
      (others : Walks r (.roots rest) u ns v) : Walks r (.roots (root :: rest)) w (ms ++ ns) v
  | reentry {node w} (mem : node ∈ w.stack) :
      Walks r (.dispatch node) w [] ⟨w.stack, w.state.refuseReentry node⟩
  | full {node w} (fresh : node ∉ w.stack) (deep : r.maxDepth ≤ w.stack.length) :
      Walks r (.dispatch node) w [] ⟨w.stack, w.state.refuseDepth node r.maxDepth⟩
  | run {node w u v ms ns} (fresh : node ∉ w.stack) (room : w.stack.length < r.maxDepth)
      (pulled : Walks r (.pull node) ⟨node :: w.stack, w.state.counted w.stack.isEmpty⟩ ms u)
      (followed : Walks r (.follow node (r.invoke node u.state).1)
        ⟨u.stack, (r.invoke node u.state).2⟩ ns v) :
      Walks r (.dispatch node) w
        (⟨.entered, node, node :: w.stack, w.state.counted w.stack.isEmpty⟩ :: (ms ++
          ⟨.invoked, node, u.stack, u.state⟩ :: (ns ++ [⟨.left, node, v.stack.tail, v.state⟩])))
        ⟨v.stack.tail, v.state⟩
  | visitNil {w} : Walks r (.visit []) w [] w
  | visitCons {node rest w u v ms ns} (first : Walks r (.dispatch node) w ms u)
      (others : Walks r (.visit rest) u ns v) : Walks r (.visit (node :: rest)) w (ms ++ ns) v
  | idle {node w} : Walks r (.follow node .idle) w [] w
  | flow {node port w v ms} (led : Walks r (.visit (w.state.graph.targets node port)) w ms v) :
      Walks r (.follow node (.flow port)) w ms v
  | flows {node ports sequential w v ms} (led : Walks r (.ports node sequential ports) w ms v) :
      Walks r (.follow node (.flows ports sequential)) w ms v
  | publish {node values w v ms}
      (led : Walks r (.visit (r.receivers w.state.graph node values))
        ⟨w.stack, w.state.publish node values⟩ ms v) :
      Walks r (.follow node (.publish values)) w ms v
  | publishThenFlow {node port values w u v ms ns}
      (reached : Walks r (.visit (r.receivers w.state.graph node values))
        ⟨w.stack, w.state.publish node values⟩ ms u)
      (led : Walks r (.visit (u.state.graph.targets node port)) u ns v) :
      Walks r (.follow node (.publishThenFlow port values)) w (ms ++ ns) v
  | portsNil {node sequential w} : Walks r (.ports node sequential []) w [] w
  | portsStop {node sequential port rest w v ms}
      (stop : (sequential && !(w.state.graph.targets node port).isEmpty) = true)
      (led : Walks r (.visit (w.state.graph.targets node port)) w ms v) :
      Walks r (.ports node sequential (port :: rest)) w ms v
  | portsNext {node sequential port rest w u v ms ns}
      (next : (sequential && !(w.state.graph.targets node port).isEmpty) = false)
      (led : Walks r (.visit (w.state.graph.targets node port)) w ms u)
      (others : Walks r (.ports node sequential rest) u ns v) :
      Walks r (.ports node sequential (port :: rest)) w (ms ++ ns) v
  | pull {node w v ms} (each : Walks r (.evaluate (r.sources w.state.graph node)) w ms v) :
      Walks r (.pull node) w ms v
  | evaluateNil {w} : Walks r (.evaluate []) w [] w
  | evaluateSkip {source rest w v ms} (mem : source ∈ w.stack)
      (others : Walks r (.evaluate rest) w ms v) : Walks r (.evaluate (source :: rest)) w ms v
  | evaluateFull {source rest w v ms} (fresh : source ∉ w.stack)
      (deep : r.maxDepth ≤ w.stack.length)
      (others : Walks r (.evaluate rest) ⟨w.stack, w.state.refuseDepth source r.maxDepth⟩ ms v) :
      Walks r (.evaluate (source :: rest)) w ms v
  | evaluateRun {source rest w u v ms ns} (fresh : source ∉ w.stack)
      (room : w.stack.length < r.maxDepth)
      (pulled : Walks r (.pull source) ⟨source :: w.stack, w.state.counted false⟩ ms u)
      (others : Walks r (.evaluate rest) ⟨u.stack.tail, r.settle source u.state⟩ ns v) :
      Walks r (.evaluate (source :: rest)) w
        (⟨.entered, source, source :: w.stack, w.state.counted false⟩ :: (ms ++
          ⟨.invoked, source, u.stack, u.state⟩ ::
          ⟨.left, source, u.stack.tail, r.settle source u.state⟩ :: ns)) v

section Moments

variable {P : Moment σ → Prop} {a b c : Moment σ} {ms ns : List (Moment σ)}

omit [Host σ]

/-- The moments of a dispatch: the node is entered, the pull, the node is run, what follows from
it, the node is left. -/
lemma forall_mem_dispatch (ha : P a) (hms : ∀ m ∈ ms, P m) (hb : P b) (hns : ∀ m ∈ ns, P m)
    (hc : P c) : ∀ m ∈ a :: (ms ++ b :: (ns ++ [c])), P m := by
  intro m hm
  simp only [List.mem_cons, List.mem_append, List.not_mem_nil, or_false] at hm
  rcases hm with rfl | hm | rfl | hm | rfl
  · exact ha
  · exact hms m hm
  · exact hb
  · exact hns m hm
  · exact hc

lemma forall_mem_evaluate (ha : P a) (hms : ∀ m ∈ ms, P m) (hb : P b) (hc : P c)
    (hns : ∀ m ∈ ns, P m) : ∀ m ∈ a :: (ms ++ b :: c :: ns), P m := by
  intro m hm
  simp only [List.mem_cons, List.mem_append] at hm
  rcases hm with rfl | hm | rfl | rfl | hm
  · exact ha
  · exact hms m hm
  · exact hb
  · exact hc
  · exact hns m hm

end Moments

namespace Walks

variable {r : TickRules} {t : Task} {w u v : Walker σ} {ms ns : List (Moment σ)}

theorem stack_eq (h : Walks r t w ms v) : v.stack = w.stack := by
  induction h with
  | rootsNil | visitNil | idle | portsNil | evaluateNil => rfl
  | rootsCons _ _ ih₁ ih₂ => exact ih₂.trans ih₁
  | reentry | full => rfl
  | run _ _ _ _ ih₁ ih₂ => simp [ih₂, ih₁]
  | visitCons _ _ ih₁ ih₂ => exact ih₂.trans ih₁
  | flow _ ih | flows _ ih | publish _ ih => exact ih
  | publishThenFlow _ _ ih₁ ih₂ => exact ih₂.trans ih₁
  | portsStop _ _ ih => exact ih
  | portsNext _ _ _ ih₁ ih₂ => exact ih₂.trans ih₁
  | pull _ ih => exact ih
  | evaluateSkip _ _ ih | evaluateFull _ _ _ ih => exact ih
  | evaluateRun _ _ _ _ ih₁ ih₂ => simpa [ih₁] using ih₂

/-- The stack of a walk holds no node twice and never outgrows the limit. -/
def Bounded (r : TickRules) (stack : List NodeId) : Prop :=
  stack.Nodup ∧ stack.length ≤ r.maxDepth

lemma bounded_nil (r : TickRules) : Bounded r [] := ⟨List.nodup_nil, Nat.zero_le _⟩

lemma Bounded.cons {stack : List NodeId} {node : NodeId} (h : Bounded r stack)
    (fresh : node ∉ stack) (room : stack.length < r.maxDepth) : Bounded r (node :: stack) :=
  ⟨List.nodup_cons.mpr ⟨fresh, h.1⟩, room⟩

theorem bounded_of_mem (h : Walks r t w ms v) (hw : Bounded r w.stack) :
    ∀ m ∈ ms, Bounded r m.stack := by
  induction h with
  | rootsNil | visitNil | idle | portsNil | evaluateNil | reentry | full => simp
  | rootsCons first others ih₁ ih₂ | visitCons first others ih₁ ih₂
  | publishThenFlow first others ih₁ ih₂ | portsNext _ first others ih₁ ih₂ =>
    exact List.forall_mem_append.mpr ⟨ih₁ hw, ih₂ (first.stack_eq ▸ hw)⟩
  | @run node w u v ms ns fresh room pulled followed ih₁ ih₂ =>
    have hpush : Bounded r (node :: w.stack) := hw.cons fresh room
    have hu : u.stack = node :: w.stack := pulled.stack_eq
    have hv : v.stack = node :: w.stack := followed.stack_eq.trans hu
    have hpop : Bounded r v.stack.tail := by simpa [hv] using hw
    exact forall_mem_dispatch hpush (ih₁ hpush) (hu ▸ hpush) (ih₂ (hu ▸ hpush)) hpop
  | flow _ ih | flows _ ih | publish _ ih | portsStop _ _ ih | pull _ ih => exact ih hw
  | evaluateSkip _ _ ih | evaluateFull _ _ _ ih => exact ih hw
  | @evaluateRun source rest w u v ms ns fresh room pulled others ih₁ ih₂ =>
    have hpush : Bounded r (source :: w.stack) := hw.cons fresh room
    have hu : u.stack = source :: w.stack := pulled.stack_eq
    have hpop : Bounded r u.stack.tail := by simpa [hu] using hw
    exact forall_mem_evaluate hpush (ih₁ hpush) (hu ▸ hpush) hpop (ih₂ hpop)

/-- A task leads one walker along one way only. -/
theorem unique (h : Walks r t w ms u) (g : Walks r t w ns v) : ms = ns ∧ u = v := by
  induction h generalizing ns v with
  | rootsNil | visitNil | idle | portsNil | evaluateNil => cases g; exact ⟨rfl, rfl⟩
  | rootsCons _ _ ih₁ ih₂ =>
    cases g with
    | rootsCons first others =>
      obtain ⟨rfl, rfl⟩ := ih₁ first
      obtain ⟨rfl, rfl⟩ := ih₂ others
      exact ⟨rfl, rfl⟩
  | reentry mem =>
    cases g with
    | reentry => exact ⟨rfl, rfl⟩
    | full fresh | run fresh => exact absurd mem fresh
  | full fresh deep =>
    cases g with
    | reentry mem => exact absurd mem fresh
    | full => exact ⟨rfl, rfl⟩
    | run _ room => omega
  | run fresh room _ _ ih₁ ih₂ =>
    cases g with
    | reentry mem => exact absurd mem fresh
    | full _ deep => omega
    | run _ _ pulled followed =>
      obtain ⟨rfl, rfl⟩ := ih₁ pulled
      obtain ⟨rfl, rfl⟩ := ih₂ followed
      exact ⟨rfl, rfl⟩
  | visitCons _ _ ih₁ ih₂ =>
    cases g with
    | visitCons first others =>
      obtain ⟨rfl, rfl⟩ := ih₁ first
      obtain ⟨rfl, rfl⟩ := ih₂ others
      exact ⟨rfl, rfl⟩
  | flow _ ih => cases g with | flow led => exact ih led
  | flows _ ih => cases g with | flows led => exact ih led
  | publish _ ih => cases g with | publish led => exact ih led
  | publishThenFlow _ _ ih₁ ih₂ =>
    cases g with
    | publishThenFlow reached led =>
      obtain ⟨rfl, rfl⟩ := ih₁ reached
      obtain ⟨rfl, rfl⟩ := ih₂ led
      exact ⟨rfl, rfl⟩
  | portsStop stop _ ih =>
    cases g with
    | portsStop _ led => exact ih led
    | portsNext next => simp [stop] at next
  | portsNext next _ _ ih₁ ih₂ =>
    cases g with
    | portsStop stop => simp [next] at stop
    | portsNext _ led others =>
      obtain ⟨rfl, rfl⟩ := ih₁ led
      obtain ⟨rfl, rfl⟩ := ih₂ others
      exact ⟨rfl, rfl⟩
  | pull _ ih => cases g with | pull each => exact ih each
  | evaluateSkip mem _ ih =>
    cases g with
    | evaluateSkip _ others => exact ih others
    | evaluateFull fresh | evaluateRun fresh => exact absurd mem fresh
  | evaluateFull fresh deep _ ih =>
    cases g with
    | evaluateSkip mem => exact absurd mem fresh
    | evaluateFull _ _ others => exact ih others
    | evaluateRun _ room => omega
  | evaluateRun fresh room _ _ ih₁ ih₂ =>
    cases g with
    | evaluateSkip mem => exact absurd mem fresh
    | evaluateFull _ deep => omega
    | evaluateRun _ _ pulled others =>
      obtain ⟨rfl, rfl⟩ := ih₁ pulled
      obtain ⟨rfl, rfl⟩ := ih₂ others
      exact ⟨rfl, rfl⟩

end Walks

namespace TickRules

variable {r : TickRules} {stack : List NodeId}

/-- A task that is begun with a stack comes to an end, with the same stack and with this state. -/
def Leads (r : TickRules) (t : Task) (stack : List NodeId) (s s' : TickState σ) : Prop :=
  ∃ ms, Walks r t ⟨stack, s⟩ ms ⟨stack, s'⟩

lemma leads_visit {visit : NodeId → TickState σ → TickState σ}
    (h : ∀ node s, r.Leads (.dispatch node) stack s (visit node s)) (nodes : List NodeId)
    (s : TickState σ) : r.Leads (.visit nodes) stack s (visitAll visit nodes s) := by
  induction nodes generalizing s with
  | nil => exact ⟨[], .visitNil⟩
  | cons node rest ih =>
    obtain ⟨ms, first⟩ := h node s
    obtain ⟨ns, others⟩ := ih (visit node s)
    exact ⟨ms ++ ns, .visitCons first others⟩

lemma leads_ports {visit : NodeId → TickState σ → TickState σ}
    (h : ∀ node s, r.Leads (.dispatch node) stack s (visit node s)) (node : NodeId)
    (sequential : Bool) (ports : List String) (s : TickState σ) :
    r.Leads (.ports node sequential ports) stack s (followPorts visit node sequential ports s) := by
  induction ports generalizing s with
  | nil => exact ⟨[], .portsNil⟩
  | cons port rest ih =>
    obtain ⟨ms, led⟩ := leads_visit h (s.graph.targets node port) s
    rw [followPorts]
    cases hstop : sequential && !(s.graph.targets node port).isEmpty with
    | true =>
      rw [if_pos rfl]
      exact ⟨ms, .portsStop hstop led⟩
    | false =>
      obtain ⟨ns, others⟩ := ih (visitAll visit (s.graph.targets node port) s)
      rw [if_neg (by simp)]
      exact ⟨ms ++ ns, .portsNext hstop led others⟩

lemma leads_follow {visit : NodeId → TickState σ → TickState σ}
    (h : ∀ node s, r.Leads (.dispatch node) stack s (visit node s)) (node : NodeId)
    (outcome : Outcome) (s : TickState σ) :
    r.Leads (.follow node outcome) stack s (r.follow visit node outcome s) := by
  cases outcome with
  | idle => exact ⟨[], .idle⟩
  | flow port =>
    obtain ⟨ms, led⟩ := leads_visit h (s.graph.targets node port) s
    exact ⟨ms, .flow led⟩
  | flows ports sequential =>
    obtain ⟨ms, led⟩ := leads_ports h node sequential ports s
    exact ⟨ms, .flows led⟩
  | publish values =>
    obtain ⟨ms, led⟩ :=
      leads_visit h (r.receivers s.graph node values) (s.publish node values)
    exact ⟨ms, .publish led⟩
  | publishThenFlow port values =>
    obtain ⟨ms, reached⟩ :=
      leads_visit h (r.receivers s.graph node values) (s.publish node values)
    let u := visitAll visit (r.receivers s.graph node values) (s.publish node values)
    obtain ⟨ns, led⟩ := leads_visit h (u.graph.targets node port) u
    exact ⟨ms ++ ns, .publishThenFlow reached led⟩

/-- A pull ends, and in what `pull` computes from the room that the stack leaves. -/
theorem leads_pull {room : Nat} (hroom : stack.length + room = r.maxDepth) (node : NodeId)
    (s : TickState σ) : r.Leads (.pull node) stack s (r.pull room stack node s) := by
  induction room generalizing stack node s with
  | zero =>
    have hdeep : r.maxDepth ≤ stack.length := by omega
    have heach (sources : List NodeId) (s : TickState σ) : r.Leads (.evaluate sources) stack s
        (sources.foldl (fun s source =>
          if source ∈ stack then s else s.refuseDepth source r.maxDepth) s) := by
      induction sources generalizing s with
      | nil => exact ⟨[], .evaluateNil⟩
      | cons source rest ih =>
        rw [List.foldl_cons]
        by_cases hm : source ∈ stack
        · rw [if_pos hm]
          obtain ⟨ms, others⟩ := ih s
          exact ⟨ms, .evaluateSkip hm others⟩
        · rw [if_neg hm]
          obtain ⟨ms, others⟩ := ih (s.refuseDepth source r.maxDepth)
          exact ⟨ms, .evaluateFull hm hdeep others⟩
    obtain ⟨ms, each⟩ := heach (r.sources s.graph node) s
    exact ⟨ms, .pull each⟩
  | succ room ihroom =>
    have hlt : stack.length < r.maxDepth := by omega
    have heach (sources : List NodeId) (s : TickState σ) : r.Leads (.evaluate sources) stack s
        (sources.foldl (fun s source =>
          if source ∈ stack then s
          else r.settle source (r.pull room (source :: stack) source (s.counted false))) s) := by
      induction sources generalizing s with
      | nil => exact ⟨[], .evaluateNil⟩
      | cons source rest ih =>
        rw [List.foldl_cons]
        by_cases hm : source ∈ stack
        · rw [if_pos hm]
          obtain ⟨ms, others⟩ := ih s
          exact ⟨ms, .evaluateSkip hm others⟩
        · rw [if_neg hm]
          have hlen : (source :: stack).length + room = r.maxDepth := by
            rw [List.length_cons]
            omega
          obtain ⟨ms, pulled⟩ := ihroom hlen source (s.counted false)
          obtain ⟨ns, others⟩ :=
            ih (r.settle source (r.pull room (source :: stack) source (s.counted false)))
          exact ⟨_, .evaluateRun hm hlt pulled others⟩
    obtain ⟨ms, each⟩ := heach (r.sources s.graph node) s
    exact ⟨ms, .pull each⟩

/-- A dispatch ends, and in what `dispatch` computes from the room that the stack leaves. -/
theorem leads_dispatch {room : Nat} (hroom : stack.length + room = r.maxDepth) (node : NodeId)
    (s : TickState σ) : r.Leads (.dispatch node) stack s (r.dispatch room stack node s) := by
  induction room generalizing stack node s with
  | zero =>
    rw [dispatch]
    by_cases hm : node ∈ stack
    · rw [if_pos hm]
      exact ⟨[], .reentry hm⟩
    · have hdeep : r.maxDepth ≤ stack.length := by omega
      rw [if_neg hm]
      exact ⟨[], .full hm hdeep⟩
  | succ room ih =>
    rw [dispatch]
    by_cases hm : node ∈ stack
    · rw [if_pos hm]
      exact ⟨[], .reentry hm⟩
    · rw [if_neg hm]
      have hlt : stack.length < r.maxDepth := by omega
      have hlen : (node :: stack).length + room = r.maxDepth := by
        rw [List.length_cons]
        omega
      obtain ⟨ms, pulled⟩ := leads_pull hlen node (s.counted stack.isEmpty)
      let u := r.pull room (node :: stack) node (s.counted stack.isEmpty)
      obtain ⟨ns, followed⟩ := leads_follow (fun target s => ih hlen target s) node
        (r.invoke node u).1 (r.invoke node u).2
      have walk := Walks.run (w := ⟨stack, s⟩) hm hlt pulled followed
      exact ⟨_, walk⟩

def start (g : Graph) (scene : σ) : TickState σ := ⟨g, scene, .zero, #[]⟩

/-- Dispatching roots one after another ends, and in what `runRoot` makes of each. -/
lemma leads_roots (r : TickRules) (roots : List NodeId) (s : TickState σ) :
    r.Leads (.roots roots) [] s (roots.foldl r.runRoot s) := by
  induction roots generalizing s with
  | nil => exact ⟨[], .rootsNil⟩
  | cons root rest ih =>
    have hlen : ([] : List NodeId).length + r.maxDepth = r.maxDepth := Nat.zero_add _
    obtain ⟨ms, first⟩ := leads_dispatch hlen root s.countRoot
    obtain ⟨ns, others⟩ := ih (r.runRoot s root)
    exact ⟨ms ++ ns, .rootsCons first others⟩

/-- A tick ends, and in what `run` computes. -/
theorem leads_run (r : TickRules) (collisionsOnly : Bool) (g : Graph) (scene : σ) :
    r.Leads (.roots (r.roots g collisionsOnly)) [] (start g scene)
      (r.run collisionsOnly g scene) :=
  r.leads_roots (r.roots g collisionsOnly) (start g scene)

theorem eq_run_of_walks {r : TickRules} {collisionsOnly : Bool} {g : Graph} {scene : σ}
    {ms : List (Moment σ)} {v : Walker σ}
    (h : Walks r (.roots (r.roots g collisionsOnly)) ⟨[], start g scene⟩ ms v) :
    v = ⟨[], r.run collisionsOnly g scene⟩ := by
  obtain ⟨ns, walk⟩ := r.leads_run collisionsOnly g scene
  exact (h.unique walk).2

/-- The moments of a tick. There is one walk of it (`leads_run`) and no other (`Walks.unique`). -/
noncomputable def moments (r : TickRules) (collisionsOnly : Bool) (g : Graph) (scene : σ) :
    List (Moment σ) :=
  (r.leads_run collisionsOnly g scene).choose

lemma walks_moments (r : TickRules) (collisionsOnly : Bool) (g : Graph) (scene : σ) :
    Walks r (.roots (r.roots g collisionsOnly)) ⟨[], start g scene⟩
      (r.moments collisionsOnly g scene) ⟨[], r.run collisionsOnly g scene⟩ :=
  (r.leads_run collisionsOnly g scene).choose_spec

/-- Counting, refusing, running a node and publishing what the run gave all keep a property. -/
structure Keeps (r : TickRules) (P : TickState σ → Prop) : Prop where
  countRoot : ∀ s, P s → P s.countRoot
  counted : ∀ s isRoot, P s → P (s.counted isRoot)
  refuseReentry : ∀ s node, P s → P (s.refuseReentry node)
  refuseDepth : ∀ s node depth, P s → P (s.refuseDepth node depth)
  invoke : ∀ s node, P s → P (r.invoke node s).2
  publish : ∀ s node values, P s → (r.invoke node s).1.published = some values →
    P ((r.invoke node s).2.publish node values)

/-- For a property of the graph there are only two kinds of steps. -/
lemma Keeps.of_graph {r : TickRules} {P : Graph → Prop}
    (hinvoke : ∀ (s : TickState σ) node, P s.graph → P (r.invoke node s).2.graph)
    (hpublish : ∀ g node values, P g → P (g.publish node values).2) :
    r.Keeps fun s : TickState σ => P s.graph where
  countRoot _ h := h
  counted _ _ h := h
  refuseReentry _ _ h := h
  refuseDepth _ _ _ h := h
  invoke s node h := hinvoke s node h
  publish s node values h _ := hpublish _ node values (hinvoke s node h)

structure Tallies (P : TickState σ → Prop) : Prop where
  countRoot : ∀ s, P s → P s.countRoot
  counted : ∀ s isRoot, P s → P (s.counted isRoot)
  refuseReentry : ∀ s node, P s → P (s.refuseReentry node)
  refuseDepth : ∀ s node depth, P s → P (s.refuseDepth node depth)

/-- Running the node of this moment keeps a property, and so does publishing what the run gave. -/
def KeptAt (r : TickRules) (P : TickState σ → Prop) (m : Moment σ) : Prop :=
  P m.state → P (r.invoke m.node m.state).2 ∧
    ∀ values, (r.invoke m.node m.state).1.published = some values →
      P ((r.invoke m.node m.state).2.publish m.node values)

lemma KeptAt.settle {r : TickRules} {P : TickState σ → Prop} {m : Moment σ} (hm : r.KeptAt P m)
    (hs : P m.state) : P (r.settle m.node m.state) := by
  unfold TickRules.settle
  split
  · next values hv => exact (hm hs).2 values hv
  · exact (hm hs).1

/-- A property that is kept whenever a walk runs a node holds at the end of the walk and at every
moment of it. What a followed outcome publishes must keep it too, for the run that gave the outcome
is over by then. -/
theorem keeps_of_invoked {r : TickRules} {P : TickState σ → Prop} (hP : Tallies P) {t : Task}
    {w v : Walker σ} {ms : List (Moment σ)} (h : Walks r t w ms v)
    (hms : ∀ m ∈ ms, m.phase = .invoked → r.KeptAt P m) (hw : P w.state)
    (hf : ∀ node outcome values, t = .follow node outcome → outcome.published = some values →
      P (w.state.publish node values)) :
    P v.state ∧ ∀ m ∈ ms, P m.state := by
  induction h with
  | rootsNil | visitNil | idle | portsNil | evaluateNil => exact ⟨hw, by simp⟩
  | reentry => exact ⟨hP.refuseReentry _ _ hw, by simp⟩
  | full => exact ⟨hP.refuseDepth _ _ _ hw, by simp⟩
  | rootsCons _ _ ih₁ ih₂ =>
    obtain ⟨hfirst, hothers⟩ := List.forall_mem_append.mp hms
    obtain ⟨hu, hms⟩ := ih₁ hfirst (hP.countRoot _ hw) nofun
    obtain ⟨hv, hns⟩ := ih₂ hothers hu nofun
    exact ⟨hv, List.forall_mem_append.mpr ⟨hms, hns⟩⟩
  | @run node w u v ms ns _ _ _ _ ih₁ ih₂ =>
    have hkept := hms ⟨.invoked, node, u.stack, u.state⟩ (by simp) rfl
    have hc := hP.counted w.state w.stack.isEmpty hw
    obtain ⟨hu, hpulled⟩ := ih₁ (fun m hm => hms m (by simp [hm])) hc nofun
    obtain ⟨hv, hfollowed⟩ := ih₂ (fun m hm => hms m (by simp [hm])) (hkept hu).1 (by
      rintro _ _ values ⟨⟩ hvalues
      exact (hkept hu).2 values hvalues)
    exact ⟨hv, forall_mem_dispatch hc hpulled hu hfollowed hv⟩
  | visitCons _ _ ih₁ ih₂ | portsNext _ _ _ ih₁ ih₂ =>
    obtain ⟨hfirst, hothers⟩ := List.forall_mem_append.mp hms
    obtain ⟨hu, hms⟩ := ih₁ hfirst hw nofun
    obtain ⟨hv, hns⟩ := ih₂ hothers hu nofun
    exact ⟨hv, List.forall_mem_append.mpr ⟨hms, hns⟩⟩
  | flow _ ih | flows _ ih | portsStop _ _ ih | pull _ ih | evaluateSkip _ _ ih =>
    exact ih hms hw nofun
  | publish _ ih => exact ih hms (hf _ _ _ rfl rfl) nofun
  | publishThenFlow _ _ ih₁ ih₂ =>
    obtain ⟨hreached, hled⟩ := List.forall_mem_append.mp hms
    obtain ⟨hu, hms⟩ := ih₁ hreached (hf _ _ _ rfl rfl) nofun
    obtain ⟨hv, hns⟩ := ih₂ hled hu nofun
    exact ⟨hv, List.forall_mem_append.mpr ⟨hms, hns⟩⟩
  | evaluateFull _ _ _ ih => exact ih hms (hP.refuseDepth _ _ _ hw) nofun
  | @evaluateRun source rest w u v ms ns _ _ _ _ ih₁ ih₂ =>
    have hkept := hms ⟨.invoked, source, u.stack, u.state⟩ (by simp) rfl
    have hc := hP.counted w.state false hw
    obtain ⟨hu, hpulled⟩ := ih₁ (fun m hm => hms m (by simp [hm])) hc nofun
    have hsettled := hkept.settle hu
    obtain ⟨hv, hothers⟩ := ih₂ (fun m hm => hms m (by simp [hm])) hsettled nofun
    exact ⟨hv, forall_mem_evaluate hc hpulled hu hsettled hothers⟩

lemma Keeps.tallies {r : TickRules} {P : TickState σ → Prop} (hP : r.Keeps P) : Tallies P :=
  ⟨hP.countRoot, hP.counted, hP.refuseReentry, hP.refuseDepth⟩

lemma Keeps.keptAt {r : TickRules} {P : TickState σ → Prop} (hP : r.Keeps P) (m : Moment σ) :
    r.KeptAt P m :=
  fun hs => ⟨hP.invoke _ _ hs, fun values => hP.publish _ _ values hs⟩

lemma Keeps.settle {r : TickRules} {P : TickState σ → Prop} (hP : r.Keeps P) {s : TickState σ}
    (hs : P s) (source : NodeId) : P (r.settle source s) :=
  (hP.keptAt ⟨.invoked, source, [], s⟩).settle hs

/-- A property that every step keeps holds at the end of a walk and at every moment of it. -/
theorem Keeps.walks {r : TickRules} {P : TickState σ → Prop} (hP : r.Keeps P) {t : Task}
    {w v : Walker σ} {ms : List (Moment σ)} (h : Walks r t w ms v) (hw : P w.state)
    (hf : ∀ node outcome values, t = .follow node outcome → outcome.published = some values →
      P (w.state.publish node values)) :
    P v.state ∧ ∀ m ∈ ms, P m.state :=
  keeps_of_invoked hP.tallies h (fun m _ _ => hP.keptAt m) hw hf

theorem Keeps.run {r : TickRules} {P : TickState σ → Prop} (hP : r.Keeps P) {collisionsOnly : Bool}
    {g : Graph} {scene : σ} (hs : P (start g scene)) : P (r.run collisionsOnly g scene) := by
  obtain ⟨ms, walk⟩ := r.leads_run collisionsOnly g scene
  exact (hP.walks walk hs nofun).1

theorem keeps_shape (r : TickRules) (shape : GraphShape) :
    r.Keeps fun s : TickState σ => s.graph.shape = shape :=
  Keeps.of_graph (P := fun g => g.shape = shape) (fun s node h => (r.shape_invoke node s).trans h)
    fun g node values h => (g.shape_publish node values).trans h

theorem shape_run (r : TickRules) (collisionsOnly : Bool) (g : Graph) (scene : σ) :
    (r.run collisionsOnly g scene).graph.shape = g.shape :=
  Keeps.run (r.keeps_shape g.shape) rfl

end TickRules

lemma Walks.shape_eq {r : TickRules} {t : Task} {w v : Walker σ} {ms : List (Moment σ)}
    (h : Walks r t w ms v) : v.state.graph.shape = w.state.graph.shape :=
  ((r.keeps_shape w.state.graph.shape).walks h rfl fun _ _ _ _ _ =>
    Graph.shape_publish _ _ _).1

end ScriptGraph
