import ScriptGraph.Proofs.Walk

/-! Two ticks side by side. If a relation between the states of two ticks is kept by each single
step, and related states lead the same nodes to the same targets, receivers and sources, then
whatever the first tick does the second does as well, and they end related. Which tasks have to be
looked at is up to the relation: those that the first tick can come to. -/
namespace ScriptGraph.TickRules

variable {σ : Type} [Host σ]

/-- The steps of a tick keep the relation, as far as they are made for `allowed` tasks; and the
tasks that an allowed one leads to are allowed and the same on both sides. -/
structure Mirrors (r : TickRules) (allowed : Task → Prop)
    (related : TickState σ → TickState σ → Prop) : Prop where
  -- counting and refusing
  countRoot {s s'} (h : related s s') : related s.countRoot s'.countRoot
  counted {s s'} (h : related s s') (isRoot : Bool) : related (s.counted isRoot) (s'.counted isRoot)
  refuseReentry {s s'} (h : related s s') (node : NodeId) :
    related (s.refuseReentry node) (s'.refuseReentry node)
  refuseDepth {s s'} (h : related s s') (node : NodeId) (depth : Nat) :
    related (s.refuseDepth node depth) (s'.refuseDepth node depth)
  -- lists of nodes
  roots {root rest} (ok : allowed (.roots (root :: rest))) :
    allowed (.dispatch root) ∧ allowed (.roots rest)
  visit {node rest} (ok : allowed (.visit (node :: rest))) :
    allowed (.dispatch node) ∧ allowed (.visit rest)
  evaluate {source rest} (ok : allowed (.evaluate (source :: rest))) :
    allowed (.pull source) ∧ allowed (.evaluate rest)
  -- running a node
  dispatch {node} (ok : allowed (.dispatch node)) : allowed (.pull node)
  sources {node s s'} (ok : allowed (.pull node)) (h : related s s') :
    r.sources s'.graph node = r.sources s.graph node ∧
      allowed (.evaluate (r.sources s.graph node))
  settle {source s s'} (ok : allowed (.pull source)) (h : related s s') :
    related (r.settle source s) (r.settle source s')
  invoke {node s s'} (ok : allowed (.dispatch node)) (h : related s s') :
    (r.invoke node s').1 = (r.invoke node s).1 ∧
      related (r.invoke node s).2 (r.invoke node s').2 ∧
      allowed (.follow node (r.invoke node s).1)
  -- doing what it asked for
  flow {node port s s'} (ok : allowed (.follow node (.flow port))) (h : related s s') :
    s'.graph.targets node port = s.graph.targets node port ∧
      allowed (.visit (s.graph.targets node port))
  publish {node outcome values s s'} (ok : allowed (.follow node outcome))
    (published : outcome.published = some values) (h : related s s') :
    related (s.publish node values) (s'.publish node values) ∧
      r.receivers s'.graph node values = r.receivers s.graph node values ∧
      allowed (.visit (r.receivers s.graph node values))
  publishThenFlow {node port values} (ok : allowed (.follow node (.publishThenFlow port values))) :
    allowed (.follow node (.flow port))
  flows {node ports sequential} (ok : allowed (.follow node (.flows ports sequential))) :
    allowed (.ports node sequential ports)
  ports {node sequential port rest s s'} (ok : allowed (.ports node sequential (port :: rest)))
    (h : related s s') :
    s'.graph.targets node port = s.graph.targets node port ∧
      allowed (.visit (s.graph.targets node port)) ∧
      ((sequential && !(s.graph.targets node port).isEmpty) = false →
        allowed (.ports node sequential rest))

namespace Mirrors

variable {r : TickRules} {allowed : Task → Prop} {related : TickState σ → TickState σ → Prop}

/-- Whatever a walk does with an allowed task, another does as well that begins related, and they
end related. -/
theorem walks (hm : r.Mirrors allowed related) {t : Task} {w v : Walker σ} {ms : List (Moment σ)}
    (h : Walks r t w ms v) {s' : TickState σ} (hw : related w.state s') (ok : allowed t) :
    ∃ ns v', Walks r t ⟨w.stack, s'⟩ ns ⟨v.stack, v'⟩ ∧ related v.state v' := by
  induction h generalizing s' with
  | rootsNil => exact ⟨_, s', .rootsNil, hw⟩
  | visitNil => exact ⟨_, s', .visitNil, hw⟩
  | idle => exact ⟨_, s', .idle, hw⟩
  | portsNil => exact ⟨_, s', .portsNil, hw⟩
  | evaluateNil => exact ⟨_, s', .evaluateNil, hw⟩
  | @rootsCons root rest w u v _ _ _ _ ih₁ ih₂ =>
    obtain ⟨hroot, hrest⟩ := hm.roots ok
    obtain ⟨_, u', first, hu⟩ := ih₁ (hm.countRoot hw) hroot
    obtain ⟨_, v', others, hv⟩ := ih₂ hu hrest
    exact ⟨_, v', .rootsCons (w := ⟨w.stack, s'⟩) first others, hv⟩
  | @reentry node w mem =>
    exact ⟨_, _, .reentry (w := ⟨w.stack, s'⟩) mem, hm.refuseReentry hw node⟩
  | @full node w fresh deep =>
    exact ⟨_, _, .full (w := ⟨w.stack, s'⟩) fresh deep, hm.refuseDepth hw node _⟩
  | @run node w u v _ _ fresh room _ _ ih₁ ih₂ =>
    obtain ⟨_, u', pulled, hu⟩ := ih₁ (hm.counted hw w.stack.isEmpty) (hm.dispatch ok)
    obtain ⟨hsame, hran, hfollow⟩ := hm.invoke ok hu
    obtain ⟨_, v', followed, hv⟩ := ih₂ hran hfollow
    rw [← hsame] at followed
    exact ⟨_, v', .run (w := ⟨w.stack, s'⟩) fresh room pulled followed, hv⟩
  | visitCons _ _ ih₁ ih₂ =>
    obtain ⟨hnode, hrest⟩ := hm.visit ok
    obtain ⟨_, u', first, hu⟩ := ih₁ hw hnode
    obtain ⟨_, v', others, hv⟩ := ih₂ hu hrest
    exact ⟨_, v', .visitCons first others, hv⟩
  | flow _ ih =>
    obtain ⟨hsame, hled⟩ := hm.flow ok hw
    obtain ⟨_, v', led, hv⟩ := ih hw hled
    rw [← hsame] at led
    exact ⟨_, v', .flow led, hv⟩
  | flows _ ih =>
    obtain ⟨_, v', led, hv⟩ := ih hw (hm.flows ok)
    exact ⟨_, v', .flows led, hv⟩
  | publish _ ih =>
    obtain ⟨hpublished, hsame, hled⟩ := hm.publish ok rfl hw
    obtain ⟨_, v', led, hv⟩ := ih hpublished hled
    rw [← hsame] at led
    exact ⟨_, v', .publish led, hv⟩
  | publishThenFlow _ _ ih₁ ih₂ =>
    obtain ⟨hpublished, hreceivers, hreached⟩ := hm.publish ok rfl hw
    obtain ⟨_, u', reached, hu⟩ := ih₁ hpublished hreached
    obtain ⟨htargets, hled⟩ := hm.flow (hm.publishThenFlow ok) hu
    obtain ⟨_, v', led, hv⟩ := ih₂ hu hled
    rw [← hreceivers] at reached
    rw [← htargets] at led
    exact ⟨_, v', .publishThenFlow reached led, hv⟩
  | portsStop stop _ ih =>
    obtain ⟨hsame, hled, _⟩ := hm.ports ok hw
    obtain ⟨_, v', led, hv⟩ := ih hw hled
    rw [← hsame] at led stop
    exact ⟨_, v', .portsStop stop led, hv⟩
  | portsNext next _ _ ih₁ ih₂ =>
    obtain ⟨hsame, hled, hrest⟩ := hm.ports ok hw
    obtain ⟨_, u', led, hu⟩ := ih₁ hw hled
    obtain ⟨_, v', others, hv⟩ := ih₂ hu (hrest next)
    rw [← hsame] at led next
    exact ⟨_, v', .portsNext next led others, hv⟩
  | pull _ ih =>
    obtain ⟨hsame, hsources⟩ := hm.sources ok hw
    obtain ⟨_, v', each, hv⟩ := ih hw hsources
    rw [← hsame] at each
    exact ⟨_, v', .pull each, hv⟩
  | evaluateSkip mem _ ih =>
    obtain ⟨_, v', others, hv⟩ := ih hw (hm.evaluate ok).2
    exact ⟨_, v', .evaluateSkip mem others, hv⟩
  | @evaluateFull source rest w v _ fresh deep _ ih =>
    obtain ⟨_, v', others, hv⟩ := ih (hm.refuseDepth hw source _) (hm.evaluate ok).2
    exact ⟨_, v', .evaluateFull (w := ⟨w.stack, s'⟩) fresh deep others, hv⟩
  | @evaluateRun source rest w u v _ _ fresh room _ _ ih₁ ih₂ =>
    obtain ⟨hsource, hrest⟩ := hm.evaluate ok
    obtain ⟨_, u', pulled, hu⟩ := ih₁ (hm.counted hw false) hsource
    obtain ⟨_, v', others, hv⟩ := ih₂ (hm.settle hsource hu) hrest
    exact ⟨_, v', .evaluateRun (w := ⟨w.stack, s'⟩) fresh room pulled others, hv⟩

/-- Ticks with the same roots that begin related end related. -/
theorem run (hm : r.Mirrors allowed related) {collisionsOnly : Bool} {g h : Graph}
    {scene scene' : σ} (hstart : related (start g scene) (start h scene'))
    (hroots : r.roots h collisionsOnly = r.roots g collisionsOnly)
    (ok : allowed (.roots (r.roots g collisionsOnly))) :
    related (r.run collisionsOnly g scene) (r.run collisionsOnly h scene') := by
  obtain ⟨ms, walk⟩ := r.leads_run collisionsOnly g scene
  obtain ⟨ns, v', walk', hend⟩ := hm.walks walk hstart ok
  rw [← hroots] at walk'
  rwa [show v' = r.run collisionsOnly h scene' from
    congrArg Walker.state (eq_run_of_walks walk')] at hend

end Mirrors

end ScriptGraph.TickRules
