import ScriptGraph.Ron.Reader
import ScriptGraph.Value

/-! The RON forms of ids, positions and values: how each is written and how it is read. -/

namespace ScriptGraph

namespace Ron

def uuid (u : Uuid) : Ron := .string u.text

def point (p : Point) : Ron := .tuple none [single p.x, single p.y]

def vector (v : Vector) : Ron := .tuple none [single v.x, single v.y, single v.z]

def entityId (id : EntityId) : Ron := wrapped "EntityId" (uuid id.uuid)

/-- A value behind the word for its kind. -/
def value (v : Value) : Ron :=
  wrapped v.kind.name (match v with
    | .bool b => bool b
    | .int i => int i.toInt
    | .float s => single s
    | .vector v => vector v
    | .text s => .string s
    | .object o => option entityId o)

def table (t : Table String Value) : Ron :=
  .map (t.entries.map fun e => (.string e.1, value e.2))

end Ron

namespace RonReader

def uuid : RonReader Uuid := fun ctx cs => do
  let (s, rest) ← text ctx cs
  let u ← Uuid.ofText? s
  return (u, rest)

def point : RonReader Point :=
  tupleOf (fun ctx cs => do
    let ((x, comma), cs) ← component single true ctx cs
    let ((y, _), cs) ← component single comma ctx cs
    return (⟨x, y⟩, cs)) false

/-- Reads three coordinates, which may share the parentheses of the case they belong to. -/
def vector (shared : Bool) : RonReader Vector :=
  tupleOf (fun ctx cs => do
    let ((x, comma), cs) ← component single true ctx cs
    let ((y, comma), cs) ← component single comma ctx cs
    let ((z, _), cs) ← component single comma ctx cs
    return (⟨x, y, z⟩, cs)) shared

/-- Reads an entity id, which may share the parentheses of the case it belongs to. -/
def entityId (shared : Bool) : RonReader EntityId :=
  (newtype "EntityId" uuid shared).map EntityId.mk

/-- How the value is read that stands behind the word for a kind. -/
def valueOfKind? : String → Option (Bool → RonReader Value)
  | "Bool" => some fun _ => bool.map Value.bool
  | "Int" => some fun _ => int64.map Value.int
  | "Float" => some fun _ => single.map Value.float
  | "Vector3" => some fun shared => (vector shared).map Value.vector
  | "String" => some fun _ => text.map Value.text
  | "Object" => some fun shared => (option entityId shared).map Value.object
  | _ => none

def value : RonReader Value := oneOf valueOfKind?

end RonReader

end ScriptGraph
