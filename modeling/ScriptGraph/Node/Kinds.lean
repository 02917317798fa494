import ScriptGraph.Script

/-! Node types: what a kind of node is called, which ports and properties it declares and how its
nodes behave, and the registry in which graphs look types up by name. -/

namespace ScriptGraph

/-- The nodes that every registry may start from. -/
inductive Builtin where
  | onStart
  | onUpdate
  | onCollision
  | branch
  | sequence
  | add
  | multiply
  | getPosition
  | setPosition
  | applyForce
  | getVariable
  | setVariable
  | print
deriving DecidableEq, Repr

inductive Category where
  | event
  | flow
  | math
  | transform
  | physics
  | state
  | utility
  | custom
deriving DecidableEq, Repr

/-- The section of the palette that a category is listed under. -/
def Category.label : Category → String
  | .event => "event"
  | .flow => "flow"
  | .math => "math"
  | .transform => "transform"
  | .physics => "physics"
  | .state => "variable"
  | .utility => "utility"
  | .custom => "custom"

/-- Whether a property backs an input, an output or neither. -/
inductive Binding where
  | input
  | output
  | internal
deriving DecidableEq, Repr

structure PropertyDecl where
  kind : Kind
  default : Value
  binding : Binding
deriving DecidableEq, Repr

/-- What the nodes of a type do when they run. The script of a custom type is given the invocation
and reaches what a `Workspace` holds. It sees nothing of its node's place on the canvas, and it
keeps nothing from one run to the next but properties, variables and the scene: behaviors with a
state of their own are left out. -/
inductive Behavior where
  | builtin (node : Builtin)
  | custom (script : Invocation → Script Outcome)

structure NodeType where
  name : String
  category : Category
  description : String
  inputs : List Port
  outputs : List Port
  properties : Table String PropertyDecl
  /-- Whether the type's nodes are run again for every further collision of a tick. -/
  collisionEvent : Bool
  behavior : Behavior

namespace NodeType

def bare (name : String) (category : Category) (behavior : Behavior) : NodeType where
  name := name
  category := category
  description := ""
  inputs := []
  outputs := []
  properties := .empty
  collisionEvent := false
  behavior := behavior

def described (t : NodeType) (description : String) : NodeType :=
  { t with description := description }

def execIn (t : NodeType) (name : String) : NodeType :=
  { t with inputs := t.inputs ++ [⟨name, .input, .exec⟩] }

def execOut (t : NodeType) (name : String) : NodeType :=
  { t with outputs := t.outputs ++ [⟨name, .output, .exec⟩] }

/-- Declares a property; declaring it again overwrites the declaration in place. -/
def prop (t : NodeType) (name : String) (kind : Kind) (default : Value) (binding : Binding) :
    NodeType :=
  { t with properties := t.properties.insert name ⟨kind, default, binding⟩ }

/-- An input that carries data, and the property that backs it. -/
def dataIn (t : NodeType) (name : String) (kind : Kind) (default : Value) : NodeType :=
  prop { t with inputs := t.inputs ++ [⟨name, .input, .data kind⟩] } name kind default .input

/-- An output that carries data, and the property that remembers what was last published on it. -/
def dataOut (t : NodeType) (name : String) (kind : Kind) : NodeType :=
  prop { t with outputs := t.outputs ++ [⟨name, .output, .data kind⟩] } name kind kind.zero .output

def onCollisions (t : NodeType) : NodeType := { t with collisionEvent := true }

def input? (t : NodeType) (name : String) : Option Port := t.inputs.find? fun p => p.name = name

def output? (t : NodeType) (name : String) : Option Port := t.outputs.find? fun p => p.name = name

def isEvent (t : NodeType) : Bool := t.category = .event

def hasExecInput (t : NodeType) : Bool := t.inputs.any fun p => p.type.isExec

/-- Whether the type's nodes run for the values they give and never by flow. -/
def isPure (t : NodeType) : Bool := !t.isEvent && !t.hasExecInput

/-- The declared properties in order, each with the value that `existing` holds for it or else with
its default. -/
def seed (t : NodeType) (existing : Properties) : Properties :=
  t.properties.map fun name decl => (existing.find? name).getD decl.default

@[simp] theorem keys_seed (t : NodeType) (existing : Properties) :
    (t.seed existing).keys = t.properties.keys := by
  simp [seed]

end NodeType

/-- Node types by name, in the order in which the names were first registered. -/
structure Registry where
  types : Table String NodeType

namespace Registry

def empty : Registry := ⟨.empty⟩

instance : Inhabited Registry := ⟨empty⟩

def lookup (r : Registry) (name : String) : Option NodeType := r.types.find? name

def contains (r : Registry) (name : String) : Bool := r.types.contains name

/-- Registers a type under its name; a type it replaces keeps its place. -/
def register (r : Registry) (t : NodeType) : Registry := ⟨r.types.insert t.name t⟩

def unregister (r : Registry) (name : String) : Registry := ⟨r.types.erase name⟩

def inCategory (r : Registry) (category : Category) : List String :=
  (r.types.values.filter fun t => t.category = category).map fun t => t.name

end Registry

end ScriptGraph
