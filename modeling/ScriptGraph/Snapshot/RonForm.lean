import ScriptGraph.Ron.Codec
import ScriptGraph.Snapshot

/-! Snapshots as RON documents, for project files. -/

namespace ScriptGraph

namespace Ron

def nodeId (id : NodeId) : Ron :=
  .record (some "NodeId") [("index", nat id.index.toNat), ("generation", nat id.generation.toNat)]

def node (n : Node) : Ron :=
  .record (some "PortableNode")
    [("id", nodeId n.id), ("type_name", .string n.typeName), ("position", point n.position),
      ("properties", table n.properties)]

def connection (c : Connection) : Ron :=
  .record (some "Connection")
    [("id", wrapped "ConnectionId" (uuid c.id.uuid)), ("from_node", nodeId c.source),
      ("from_port", .string c.sourcePort), ("to_node", nodeId c.target),
      ("to_port", .string c.targetPort)]

def binding (e : String × Value) : Ron := .tuple none [.string e.1, value e.2]

end Ron

namespace RonReader

open RonRecord

def nodeId : RonReader NodeId :=
  ((required "index" word).and (required "generation" word)).read "NodeId"
    |>.map fun (index, generation) => ⟨index, generation⟩

def node : RonReader Node :=
  ((required "id" nodeId).and <| (required "type_name" text).and <|
    (required "position" point).and <| required "properties" (table value)).read "PortableNode"
    |>.map fun (id, typeName, position, properties) => ⟨id, typeName, position, properties⟩

def connection : RonReader Connection :=
  ((required "id" (newtype "ConnectionId" uuid false)).and <| (required "from_node" nodeId).and <|
    (required "from_port" text).and <| (required "to_node" nodeId).and <|
    required "to_port" text).read "Connection"
    |>.map fun (id, source, sourcePort, target, targetPort) =>
      ⟨⟨id⟩, source, sourcePort, target, targetPort⟩

def binding : RonReader (String × Value) :=
  tupleOf (fun ctx cs => do
    let ((name, comma), cs) ← component text true ctx cs
    let ((v, _), cs) ← component value comma ctx cs
    return ((name, v), cs)) false

def snapshot : RonReader Snapshot :=
  ((required "version" word).and <| (required "id" (newtype "GraphId" uuid false)).and <|
    (required "entity" (entityId false)).and <| (required "nodes" (list node)).and <|
    (required "connections" (list connection)).and <|
    (required "variables" (list binding)).and <|
    defaulted "vacant" (list nodeId) []).read "PortableGraph"
    |>.map fun (version, id, entity, nodes, connections, vars, vacant) =>
      ⟨version, ⟨id⟩, entity, nodes, connections, vars, vacant⟩

end RonReader

namespace Snapshot

def ron (p : Snapshot) : Ron :=
  .record (some "PortableGraph")
    [("version", .nat p.version.toNat), ("id", .wrapped "GraphId" (.uuid p.id.uuid)),
      ("entity", .entityId p.entity), ("nodes", .list (p.nodes.map .node)),
      ("connections", .list (p.connections.map .connection)),
      ("variables", .list (p.vars.map .binding)), ("vacant", .list (p.vacant.map .nodeId))]

def toRonText (p : Snapshot) : String := p.ron.render

def ofRonText? (s : String) : Option Snapshot := Ron.document? RonReader.snapshot s

end Snapshot

end ScriptGraph
