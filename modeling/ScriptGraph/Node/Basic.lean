import ScriptGraph.Table
import ScriptGraph.Value

/-! Nodes of a graph and their ports, the places at which connections begin and end. A node has an
id and a table of properties; a run of it asks for something, or it fails. -/

namespace ScriptGraph

inductive Direction where
  | input
  | output
deriving DecidableEq, Repr

/-- A port passes control on, or it passes values of one kind. -/
inductive PortType where
  | exec
  | data (kind : Kind)
deriving DecidableEq, Repr

structure Port where
  name : String
  direction : Direction
  type : PortType
deriving DecidableEq, Repr

namespace PortType

def isExec : PortType → Bool
  | .exec => true
  | .data _ => false

/-- Control leads to control, and data to data of a kind that it converts to. -/
def connectsTo : PortType → PortType → Bool
  | .exec, .exec => true
  | .data source, .data target => source.convertsTo target
  | _, _ => false

end PortType

def Port.connectsTo (source target : Port) : Bool :=
  source.direction = .output && target.direction = .input && source.type.connectsTo target.type

/-- A slot of the arena and how often the slot had been vacated when the id was issued. -/
structure NodeId where
  index : UInt32
  generation : UInt32
deriving DecidableEq, Repr, Inhabited

def NodeId.text (id : NodeId) : String :=
  natText id.index.toNat ++ "v" ++ natText id.generation.toNat

abbrev Properties := Table String Value

/-- The named values of a graph that its nodes share. -/
abbrev Variables := Table String Value

structure Node where
  id : NodeId
  typeName : String
  position : Point
  properties : Properties
deriving DecidableEq

/-- Writes a property that the node has; a name it does not have is left alone. -/
def setExisting (properties : Properties) (name : String) (value : Value) : Properties :=
  properties.modify name fun _ => value

@[simp] theorem keys_setExisting (properties : Properties) (name : String) (value : Value) :
    (setExisting properties name value).keys = properties.keys := by
  simp [setExisting]

def Node.setProperty (node : Node) (name : String) (value : Value) : Node :=
  { node with properties := setExisting node.properties name value }

structure Collision where
  a : EntityId
  b : EntityId
deriving DecidableEq, Repr

/-- The party that an entity collided with, if the entity took part. -/
def Collision.other? (c : Collision) (entity : EntityId) : Option EntityId :=
  if c.a = entity then some c.b
  else if c.b = entity then some c.a
  else none

/-- What a node asks for after it ran. -/
inductive Outcome where
  | idle
  /-- Continue at the targets of one output. -/
  | flow (port : String)
  /-- Continue at several outputs, or only at the first connected one if sequential. -/
  | flows (ports : List String) (sequential : Bool)
  | publish (values : Table String Value)
  /-- Publish values, then continue at one output. -/
  | publishThenFlow (port : String) (values : Table String Value)
deriving DecidableEq

namespace Outcome

def publishOne (port : String) (value : Value) : Outcome := .publish (.ofList [(port, value)])

def published : Outcome → Option (Table String Value)
  | .publish values => some values
  | .publishThenFlow _ values => some values
  | _ => none

end Outcome

/-- Why the scene refused a request. -/
inductive SceneError where
  | noEntity (entity : EntityId)
  | noRigidbody (entity : EntityId)
deriving DecidableEq, Repr

def SceneError.message : SceneError → String
  | .noEntity e => "Entity not found: " ++ e.uuid.text
  | .noRigidbody e => "Entity " ++ e.uuid.text ++ " has no Rigidbody component"

inductive NodeError where
  | missingCapability (cause : SceneError)
  | typeMismatch (property : String) (expected : Kind) (found : Value)
  | undeclaredProperty (name : String)
  | unknownVariable (name : String)
  | missingOperand (name : String)
  | cannotCombine (left right : Value) (typeName : String)
  | custom (text : String)
deriving DecidableEq, Repr

def NodeError.message : NodeError → String
  | .missingCapability cause => "Missing capability: " ++ cause.message
  | .typeMismatch property expected found =>
    "Property '" ++ property ++ "' expected " ++ expected.name ++ ", found " ++ found.display
  | .undeclaredProperty name => "Property '" ++ name ++ "' is not declared"
  | .unknownVariable name => "Unknown variable: " ++ name
  | .missingOperand name => "Missing operand " ++ name
  | .cannotCombine left right typeName =>
    "Cannot combine " ++ left.display ++ " and " ++ right.display ++ " in " ++ typeName
  | .custom text => text

end ScriptGraph
