import ScriptGraph.Json.Number
import ScriptGraph.Snapshot

/-! Snapshots as JSON documents, for exchange with other tools. -/

namespace ScriptGraph

namespace Json

def text? : Json → Option String
  | .string s => s
  | _ => none

def bool? : Json → Option Bool
  | .bool b => some b
  | _ => none

def list? {α : Type} (item : Json → Option α) : Json → Option (List α)
  | .array items => items.mapM item
  | _ => none

def word? (j : Json) : Option UInt32 := (int? 0 0xffffffff j).map fun i => UInt32.ofNat i.toNat

/-- Looks fields up by name. A record is an object, where other fields are passed over and none of
the named ones may be repeated, or an array of the fields in order, of which the last `spare` may
be missing. -/
def fields? (names : List String) (spare : Nat) : Json → Option (String → Option Json)
  | .object fields =>
    let repeated (name : String) : Bool := 1 < (fields.filter fun f => f.1 = some name).length
    if (fields.any fun f => f.1.isNone) || names.any repeated then none
    else some fun name => (fields.find? fun f => f.1 = some name).map Prod.snd
  | .array items =>
    if names.length ≤ items.length + spare && items.length ≤ names.length then
      some fun name => ((names.zip items).find? fun f => f.1 = name).map Prod.snd
    else none
  | _ => none

def uuid (u : Uuid) : Json := .text u.text

def uuid? (j : Json) : Option Uuid := j.text?.bind Uuid.ofText?

def nodeId (id : NodeId) : Json :=
  .record [("index", .nat id.index.toNat), ("generation", .nat id.generation.toNat)]

def nodeId? (j : Json) : Option NodeId := do
  let field ← j.fields? ["index", "generation"] 0
  let index ← (field "index").bind word?
  let generation ← (field "generation").bind word?
  return ⟨index, generation⟩

def point (p : Point) : Json := .array [single p.x, single p.y]

def point? : Json → Option Point
  | .array [x, y] => do return ⟨← x.single?, ← y.single?⟩
  | _ => none

def vector (v : Vector) : Json := .array [single v.x, single v.y, single v.z]

def vector? : Json → Option Vector
  | .array [x, y, z] => do return ⟨← x.single?, ← y.single?, ← z.single?⟩
  | _ => none

def entity : Option EntityId → Json
  | some e => uuid e.uuid
  | none => .null

def entity? : Json → Option (Option EntityId)
  | .null => some none
  | j => (uuid? j).map fun u => some ⟨u⟩

/-- A value under the word for its kind. -/
def value (v : Value) : Json :=
  .record [(v.kind.name, match v with
    | .bool b => .bool b
    | .int i => .int i.toInt
    | .float s => single s
    | .vector v => vector v
    | .text s => .text s
    | .object e => entity e)]

def value? : Json → Option Value
  | .object [(some tag, j)] =>
    match tag with
    | "Bool" => j.bool?.map .bool
    | "Int" =>
      (j.int? Int64.minValue.toInt Int64.maxValue.toInt).map fun i => .int (Int64.ofInt i)
    | "Float" => j.single?.map .float
    | "Vector3" => j.vector?.map .vector
    | "String" => j.text?.map .text
    | "Object" => j.entity?.map .object
    | _ => none
  | _ => none

def table (t : Table String Value) : Json := .record (t.entries.map fun e => (e.1, value e.2))

/-- Reads an object into a table; a repeated key overwrites. -/
def table? : Json → Option (Table String Value)
  | .object fields => do
    let pairs ← fields.mapM fun f => do return (← f.1, ← f.2.value?)
    return .ofList pairs
  | _ => none

def binding (e : String × Value) : Json := .array [.text e.1, value e.2]

def binding? : Json → Option (String × Value)
  | .array [name, v] => do return (← name.text?, ← v.value?)
  | _ => none

def node (n : Node) : Json :=
  .record [("id", nodeId n.id), ("type_name", .text n.typeName), ("position", point n.position),
    ("properties", table n.properties)]

def node? (j : Json) : Option Node := do
  let field ← j.fields? ["id", "type_name", "position", "properties"] 0
  let id ← (field "id").bind nodeId?
  let typeName ← (field "type_name").bind text?
  let position ← (field "position").bind point?
  let properties ← (field "properties").bind table?
  return ⟨id, typeName, position, properties⟩

def connection (c : Connection) : Json :=
  .record [("id", uuid c.id.uuid),
    ("from_node", nodeId c.source), ("from_port", .text c.sourcePort),
    ("to_node", nodeId c.target), ("to_port", .text c.targetPort)]

def connection? (j : Json) : Option Connection := do
  let field ← j.fields? ["id", "from_node", "from_port", "to_node", "to_port"] 0
  let id ← (field "id").bind uuid?
  let source ← (field "from_node").bind nodeId?
  let sourcePort ← (field "from_port").bind text?
  let target ← (field "to_node").bind nodeId?
  let targetPort ← (field "to_port").bind text?
  return ⟨⟨id⟩, source, sourcePort, target, targetPort⟩

end Json

namespace Snapshot

def json (p : Snapshot) : Json :=
  .record [("version", .nat p.version.toNat),
    ("id", .uuid p.id.uuid), ("entity", .uuid p.entity.uuid),
    ("nodes", .array (p.nodes.map .node)), ("connections", .array (p.connections.map .connection)),
    ("variables", .array (p.vars.map .binding)), ("vacant", .array (p.vacant.map .nodeId))]

def ofJson? (j : Json) : Option Snapshot := do
  let field ← j.fields?
    ["version", "id", "entity", "nodes", "connections", "variables", "vacant"] 1
  let version ← (field "version").bind Json.word?
  let id ← (field "id").bind Json.uuid?
  let entity ← (field "entity").bind Json.uuid?
  let nodes ← (field "nodes").bind (Json.list? Json.node?)
  let connections ← (field "connections").bind (Json.list? Json.connection?)
  let vars ← (field "variables").bind (Json.list? Json.binding?)
  let vacant ← match field "vacant" with
    | some j => Json.list? Json.nodeId? j
    | none => some []
  return ⟨version, ⟨id⟩, ⟨entity⟩, nodes, connections, vars, vacant⟩

def toJsonText (p : Snapshot) : String := p.json.render

def ofJsonText? (s : String) : Option Snapshot := (Json.parse? s).bind ofJson?

end Snapshot

end ScriptGraph
