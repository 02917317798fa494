import ScriptGraph.Catalog
import ScriptGraph.Graph.Arena

/-! Graphs: nodes, the connections between their ports, and variables, all for one entity. Every
edit either gives the edited graph or the reason why it was refused. -/

namespace ScriptGraph

/-- A connection from an output of one node to an input of another or the same. -/
structure Connection where
  id : ConnectionId
  source : NodeId
  sourcePort : String
  target : NodeId
  targetPort : String
deriving DecidableEq, Repr

def Connection.involves (c : Connection) (node : NodeId) : Bool :=
  c.source = node || c.target = node

structure Graph where
  id : GraphId
  entity : EntityId
  nodes : Arena
  connections : Table ConnectionId Connection
  vars : Variables
deriving DecidableEq

namespace Graph

def empty (id : GraphId) (entity : EntityId) : Graph := ⟨id, entity, .empty, .empty, .empty⟩

def node? (g : Graph) (id : NodeId) : Option Node := g.nodes.get? id

def property? (g : Graph) (id : NodeId) (name : String) : Option Value :=
  (g.node? id).bind fun n => n.properties.find? name

def typeOf? (g : Graph) (registry : Registry) (id : NodeId) : Option NodeType :=
  (g.node? id).bind fun n => registry.lookup n.typeName

def connectionsFrom (g : Graph) (node : NodeId) (port : String) : List Connection :=
  g.connections.values.filter fun c => c.source = node && c.sourcePort = port

def connectionsTo (g : Graph) (node : NodeId) (port : String) : List Connection :=
  g.connections.values.filter fun c => c.target = node && c.targetPort = port

def connectionsAt (g : Graph) (node : NodeId) : List Connection :=
  g.connections.values.filter fun c => c.involves node

/-- Adds a node of a registered type with its default properties. -/
def addNode (g : Graph) (registry : Registry) (typeName : String) (position : Point) :
    Except GraphError (NodeId × Graph) :=
  match registry.lookup typeName with
  | none => .error (.unknownNodeType typeName)
  | some t =>
    let added := g.nodes.insert fun id => ⟨id, typeName, position, t.seed .empty⟩
    .ok (added.1, { g with nodes := added.2 })

def removeNode (g : Graph) (id : NodeId) : Except GraphError (Node × Graph) :=
  match g.nodes.remove id with
  | none => .error (.unknownNode id)
  | some (node, nodes) =>
    .ok (node, {
      g with
      nodes := nodes
      connections := g.connections.filter fun _ c => !c.involves id })

/-- The node that an id names, or the refusal that it names none. -/
def requireNode (g : Graph) (id : NodeId) : Except GraphError Node :=
  match g.node? id with
  | some n => .ok n
  | none => .error (.unknownNode id)

/-- The type registered under a name, or the refusal that there is none. -/
def requireType (registry : Registry) (name : String) : Except GraphError NodeType :=
  match registry.lookup name with
  | some t => .ok t
  | none => .error (.unknownNodeType name)

/-- A port that was looked up, or the refusal that the node has none of that name. -/
def requirePort (found : Option Port) (node : NodeId) (name : String) : Except GraphError Port :=
  match found with
  | some p => .ok p
  | none => .error (.invalidPort node name)

/-- Whether a connection may lead from one port to another: both nodes must be there, their types
registered, the ports declared and compatible, checked in this order and the source first. -/
def checkLink (g : Graph) (registry : Registry) (source : NodeId) (sourcePort : String)
    (target : NodeId) (targetPort : String) : Except GraphError Unit := do
  let sourceNode ← g.requireNode source
  let targetNode ← g.requireNode target
  let sourceType ← requireType registry sourceNode.typeName
  let targetType ← requireType registry targetNode.typeName
  let output ← requirePort (sourceType.output? sourcePort) source sourcePort
  let input ← requirePort (targetType.input? targetPort) target targetPort
  if output.connectsTo input then .ok () else .error (.incompatiblePorts sourcePort targetPort)

/-- Adds a connection under a given id. -/
def connect (g : Graph) (registry : Registry) (id : ConnectionId) (source : NodeId)
    (sourcePort : String) (target : NodeId) (targetPort : String) : Except GraphError Graph :=
  match g.checkLink registry source sourcePort target targetPort with
  | .error e => .error e
  | .ok () =>
    let c : Connection := ⟨id, source, sourcePort, target, targetPort⟩
    .ok { g with connections := g.connections.insert id c }

/-- Removes a connection; the others keep their order. -/
def disconnect (g : Graph) (id : ConnectionId) : Except GraphError (Connection × Graph) :=
  match g.connections.find? id with
  | none => .error (.unknownConnection id)
  | some c => .ok (c, { g with connections := g.connections.erase id })

def modifyNode (g : Graph) (id : NodeId) (f : Node → Node) : Graph :=
  { g with nodes := g.nodes.modify id f }

def setProperty (g : Graph) (id : NodeId) (name : String) (value : Value) :
    Except GraphError Graph := do
  let node ← g.requireNode id
  if node.properties.contains name then
    .ok (g.modifyNode id fun n => n.setProperty name value)
  else .error (.unknownProperty id name)

def moveNode (g : Graph) (id : NodeId) (position : Point) : Except GraphError Graph := do
  let _ ← g.requireNode id
  return g.modifyNode id fun n => { n with position := position }

def setVariable (g : Graph) (name : String) (value : Value) : Graph :=
  { g with vars := g.vars.insert name value }

def removeVariable (g : Graph) (name : String) : Graph :=
  { g with vars := g.vars.erase name }

/-- Gives every node of a registered type the properties that its type declares now; values of
those it had before are kept. -/
def reseed (g : Graph) (registry : Registry) : Graph :=
  let update (n : Node) : Node :=
    match registry.lookup n.typeName with
    | some t => { n with properties := t.seed n.properties }
    | none => n
  { g with nodes := g.nodes.map update }

end Graph

end ScriptGraph
