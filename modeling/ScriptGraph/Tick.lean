import ScriptGraph.Log
import ScriptGraph.Store

/-! One tick of one graph. Every event node is run as a root, and what a node asks for leads on:
flow runs the targets of an output in connection order, published values are written into connected
inputs and then run the pure nodes that received them. Before a node runs, the pure nodes that feed
its data inputs are evaluated, so that it reads current values.

A node that is still on the stack is never entered again, and the stack never grows past a limit.
`dispatch` and `pull` recurse on the room that is left below that limit, so a tick ends on every
graph, cyclic or not. -/

namespace ScriptGraph

/-- Counters over one or more ticks: event nodes run as roots, all runs of nodes, those to which a
connection led, those that failed or met an unregistered type, and those that were refused because
of a cycle or the depth limit. -/
structure TickStats where
  roots : Nat
  executed : Nat
  downstream : Nat
  degraded : Nat
  refused : Nat
deriving DecidableEq, Repr

namespace TickStats

def zero : TickStats := ⟨0, 0, 0, 0, 0⟩

instance : Inhabited TickStats := ⟨zero⟩

def add (a b : TickStats) : TickStats where
  roots := a.roots + b.roots
  executed := a.executed + b.executed
  downstream := a.downstream + b.downstream
  degraded := a.degraded + b.degraded
  refused := a.refused + b.refused

end TickStats

/-- What stays fixed during a tick. At most `maxDepth` runs are nested in one another. -/
structure TickRules where
  registry : Registry
  context : TickContext
  maxDepth : Nat

structure TickState (σ : Type) where
  graph : Graph
  scene : σ
  stats : TickStats
  log : Log

variable {σ : Type}

def addNew {α : Type} [DecidableEq α] (l : List α) (x : α) : List α :=
  if x ∈ l then l else l ++ [x]

namespace Graph

/-- Writes a published value into the input that a connection leads to, and takes note of the node
reached. -/
def deliver (value : Value) (acc : List NodeId × Graph) (c : Connection) : List NodeId × Graph :=
  if acc.2.nodes.contains c.target then
    (addNew acc.1 c.target, acc.2.modifyNode c.target fun n => n.setProperty c.targetPort value)
  else acc

def publishOne (node : NodeId) (acc : List NodeId × Graph) (entry : String × Value) :
    List NodeId × Graph :=
  let own := acc.2.modifyNode node fun n => n.setProperty entry.1 entry.2
  (own.connectionsFrom node entry.1).foldl (deliver entry.2) (acc.1, own)

/-- Publishes values in table order. Yields the nodes reached, each once, in the order in which
they were first written to. -/
def publish (g : Graph) (node : NodeId) (values : Table String Value) : List NodeId × Graph :=
  values.entries.foldl (publishOne node) ([], g)

def targets (g : Graph) (node : NodeId) (port : String) : List NodeId :=
  (g.connectionsFrom node port).map Connection.target

end Graph

namespace TickRules

def isPure (r : TickRules) (g : Graph) (node : NodeId) : Bool :=
  (g.typeOf? r.registry node).any NodeType.isPure

/-- The pure nodes that feed the data inputs of a node, each once, in connection order. -/
def sources (r : TickRules) (g : Graph) (node : NodeId) : List NodeId :=
  match g.typeOf? r.registry node with
  | none => []
  | some t =>
    let feeds (c : Connection) : Bool :=
      c.target = node && (t.input? c.targetPort).any (fun p => !p.type.isExec) &&
        r.isPure g c.source
    ((g.connections.values.filter feeds).map Connection.source).foldl addNew []

/-- Runs one node on its own. A failure is logged and asks for nothing. -/
def invoke [Host σ] (r : TickRules) (node : NodeId) (s : TickState σ) : Outcome × TickState σ :=
  match s.graph.node? node with
  | none => (.idle, s)
  | some n =>
    match r.registry.lookup n.typeName with
    | none =>
      (.idle, {
        s with
        stats := { s.stats with degraded := s.stats.degraded + 1 }
        log := s.log.push (.placeholderSkipped s.graph.id node n.typeName) })
    | some t =>
      let run : Invocation := { r.context with node := n.id, typeName := n.typeName }
      let ended := (t.behavior.script run).run ⟨n.properties, s.graph.vars, s.scene, []⟩
      let graph := {
        s.graph.modifyNode node fun n => { n with properties := ended.2.properties } with
        vars := ended.2.vars }
      let log := s.log ++ (ended.2.printed.map fun v => .printed r.context.entity n.id v).toArray
      match ended.1 with
      | .ok outcome =>
        (outcome, {
          s with
          graph := graph
          scene := ended.2.scene
          log := log.push (.nodeRan s.graph.id node outcome) })
      | .error e =>
        (.idle, {
          graph := graph
          scene := ended.2.scene
          stats := { s.stats with degraded := s.stats.degraded + 1 }
          log := log.push (.nodeFailed s.graph.id node t.name e) })

end TickRules

namespace TickState

def counted (s : TickState σ) (isRoot : Bool) : TickState σ :=
  { s with
    stats := {
      s.stats with
      executed := s.stats.executed + 1
      -- a run below the root was led to by a connection
      downstream := s.stats.downstream + if isRoot then 0 else 1 } }

def refuse (s : TickState σ) (entry : LogEntry) : TickState σ :=
  { s with
    stats := { s.stats with refused := s.stats.refused + 1 }
    log := s.log.push entry }

def refuseDepth (s : TickState σ) (node : NodeId) (depth : Nat) : TickState σ :=
  s.refuse (.depthLimitReached s.graph.id node depth)

def refuseReentry (s : TickState σ) (node : NodeId) : TickState σ :=
  s.refuse (.reentryRefused s.graph.id node)

end TickState

namespace TickRules

def visitAll (visit : NodeId → TickState σ → TickState σ) (nodes : List NodeId)
    (s : TickState σ) : TickState σ :=
  nodes.foldl (fun s node => visit node s) s

/-- Continues at several outputs, or only at the first connected one. -/
def followPorts (visit : NodeId → TickState σ → TickState σ) (node : NodeId) (sequential : Bool) :
    List String → TickState σ → TickState σ
  | [], s => s
  | port :: rest, s =>
    let targets := s.graph.targets node port
    let s' := visitAll visit targets s
    if sequential && !targets.isEmpty then s' else followPorts visit node sequential rest s'

/-- Publishes values, then visits the pure nodes that received them. -/
def propagate (r : TickRules) (visit : NodeId → TickState σ → TickState σ) (node : NodeId)
    (values : Table String Value) (s : TickState σ) : TickState σ :=
  let published := s.graph.publish node values
  visitAll visit (published.1.filter (r.isPure published.2)) { s with graph := published.2 }

def follow (r : TickRules) (visit : NodeId → TickState σ → TickState σ) (node : NodeId)
    (outcome : Outcome) (s : TickState σ) : TickState σ :=
  match outcome with
  | .idle => s
  | .flow port => visitAll visit (s.graph.targets node port) s
  | .flows ports sequential => followPorts visit node sequential ports s
  | .publish values => r.propagate visit node values s
  | .publishThenFlow port values =>
    let s' := r.propagate visit node values s
    -- flow goes on only after the values have landed
    visitAll visit (s'.graph.targets node port) s'

/-- Evaluates the pure nodes that feed a node, their own feeders first. `room` is how much the
stack may still grow. -/
def pull [Host σ] (r : TickRules) (room : Nat) (stack : List NodeId) (node : NodeId)
    (s : TickState σ) : TickState σ :=
  match room with
  | 0 =>
    (r.sources s.graph node).foldl
      (fun s source => if source ∈ stack then s else s.refuseDepth source r.maxDepth) s
  | room + 1 =>
    (r.sources s.graph node).foldl
      (fun s source =>
        -- a feeder that is still running keeps what it last published
        if source ∈ stack then s
        else
          let pulled := r.pull room (source :: stack) source (s.counted false)
          let ran := r.invoke source pulled
          match ran.1.published with
          | some values => { ran.2 with graph := (ran.2.graph.publish source values).2 }
          | none => ran.2)
      s

/-- Runs a node and everything that follows from it. -/
def dispatch [Host σ] (r : TickRules) (room : Nat) (stack : List NodeId) (node : NodeId)
    (s : TickState σ) : TickState σ :=
  if node ∈ stack then s.refuseReentry node
  else
    match room with
    | 0 => s.refuseDepth node r.maxDepth
    | room + 1 =>
      let pulled := r.pull room (node :: stack) node (s.counted stack.isEmpty)
      let ran := r.invoke node pulled
      r.follow (fun target s => r.dispatch room (node :: stack) target s) node ran.1 ran.2

/-- The event nodes that a pass starts from, in slot order. -/
def roots (r : TickRules) (g : Graph) (collisionsOnly : Bool) : List NodeId :=
  let starts (n : Node) : Bool :=
    (r.registry.lookup n.typeName).any fun t => t.isEvent && (!collisionsOnly || t.collisionEvent)
  (g.nodes.nodes.filter starts).map Node.id

def runRoot [Host σ] (r : TickRules) (s : TickState σ) (root : NodeId) : TickState σ :=
  r.dispatch r.maxDepth [] root { s with stats := { s.stats with roots := s.stats.roots + 1 } }

/-- One pass over a graph: all event nodes, or only those driven by collisions. -/
def run [Host σ] (r : TickRules) (collisionsOnly : Bool) (g : Graph) (scene : σ) : TickState σ :=
  (r.roots g collisionsOnly).foldl r.runRoot ⟨g, scene, .zero, #[]⟩

end TickRules

def defaultMaxDepth : Nat := 256

def clampDepth (requested : Nat) : Nat := max requested 1

end ScriptGraph
