import ScriptGraph.Log
import ScriptGraph.Store

/-! Graphs at rest. A snapshot is plain data: nodes, connections, variables and the ids that vacant
slots would issue next, so that a loaded graph never issues an id again. Loading checks a snapshot
against the node types registered now, keeps nodes of unknown types as placeholders and drops
connections that no longer line up. -/

namespace ScriptGraph

structure Snapshot where
  version : UInt32
  id : GraphId
  entity : EntityId
  nodes : List Node
  connections : List Connection
  vars : List (String × Value)
  vacant : List NodeId
deriving DecidableEq

/-- A loaded graph and the problems that did not stop the load. -/
structure Loaded where
  graph : Graph
  warnings : List GraphError
deriving DecidableEq

/-- The newest snapshot version that can be read, and the one that is written. -/
def Snapshot.currentVersion : UInt32 := 1

def Graph.snapshot (g : Graph) : Snapshot where
  version := Snapshot.currentVersion
  id := g.id
  entity := g.entity
  nodes := g.nodes.nodes
  connections := g.connections.values
  vars := g.vars.entries
  vacant := g.nodes.vacancies

namespace Snapshot

/-- A stored node as it enters the graph: with the properties that its type declares now, or as it
is if nobody knows its type. -/
def refreshNode (registry : Registry) (n : Node) : Node :=
  match registry.lookup n.typeName with
  | some t => { n with properties := t.seed n.properties }
  | none => n

def placeholders (registry : Registry) (p : Snapshot) : List Node :=
  p.nodes.filter fun n => !registry.contains n.typeName

/-- Whether a stored connection still lines up: its ends must be there, and its ports are looked at
only if the types of both ends are known. -/
def checkConnection (registry : Registry) (g : Graph) (c : Connection) : Except GraphError Unit :=
  match g.node? c.source, g.node? c.target with
  | some source, some target =>
    if registry.contains source.typeName && registry.contains target.typeName then
      g.checkLink registry c.source c.sourcePort c.target c.targetPort
    else .ok ()
  | none, _ => .error (.unknownNode c.source)
  | some _, none => .error (.unknownNode c.target)

/-- Takes up one stored connection, or drops it with a warning. -/
def addConnection (registry : Registry) (acc : Loaded × Log) (c : Connection) : Loaded × Log :=
  match checkConnection registry acc.1.graph c with
  | .ok () =>
    let connections := acc.1.graph.connections.insert c.id c
    ({ acc.1 with graph := { acc.1.graph with connections := connections } }, acc.2)
  | .error e =>
    ({ acc.1 with warnings := acc.1.warnings ++ [e] },
      acc.2.push (.connectionDropped acc.1.graph.id c.id e))

def load (p : Snapshot) (registry : Registry) : Except GraphError Loaded × Log :=
  if currentVersion < p.version then
    (.error (.unsupportedVersion p.version.toNat currentVersion.toNat), #[])
  else
    let kept := p.placeholders registry
    let log : Log := (kept.map fun n => .placeholderKept p.id n.id n.typeName).toArray
    match Arena.restore (p.nodes.map (refreshNode registry)) p.vacant with
    | .error e => (.error e, log)
    | .ok arena =>
      let graph : Graph := ⟨p.id, p.entity, arena, .empty, .empty⟩
      let start : Loaded := ⟨graph, kept.map fun n => .placeholderKept n.id n.typeName⟩
      let linked := p.connections.foldl (addConnection registry) (start, log)
      let vars := Table.ofList p.vars
      (.ok { linked.1 with graph := { linked.1.graph with vars := vars } }, linked.2)

/-- Property tables hold the same values under the same names, whatever their order. -/
def sameProperties (s t : Properties) : Bool :=
  s.size = t.size && s.entries.all fun e => (t.find? e.1).any fun v => e.2.equal v

/-- Equality of snapshots with floats compared as numbers. -/
def equal (p q : Snapshot) : Bool :=
  let sameNode (m n : Node) : Bool :=
    m.id = n.id && m.typeName = n.typeName && m.position.equal n.position &&
      sameProperties m.properties n.properties
  let sameVariable (v w : String × Value) : Bool := v.1 = w.1 && v.2.equal w.2
  p.version = q.version && p.id = q.id && p.entity = q.entity &&
    p.nodes.length = q.nodes.length && ((p.nodes.zip q.nodes).all fun e => sameNode e.1 e.2) &&
    p.connections = q.connections && p.vars.length = q.vars.length &&
    ((p.vars.zip q.vars).all fun e => sameVariable e.1 e.2) && p.vacant = q.vacant

end Snapshot

end ScriptGraph
