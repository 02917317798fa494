import ScriptGraph.Node.Kinds

/-! The built-in nodes: what they declare and what they do. -/

namespace ScriptGraph

namespace Builtin

/-- All built-in nodes, in the order in which a registry lists them. -/
def all : List Builtin :=
  [.onStart, .onUpdate, .onCollision, .branch, .sequence, .add, .multiply, .getPosition,
    .setPosition, .applyForce, .getVariable, .setVariable, .print]

def typeName : Builtin → String
  | .onStart => "OnStart"
  | .onUpdate => "OnUpdate"
  | .onCollision => "OnCollision"
  | .branch => "Branch"
  | .sequence => "Sequence"
  | .add => "Add"
  | .multiply => "Multiply"
  | .getPosition => "GetPosition"
  | .setPosition => "SetPosition"
  | .applyForce => "ApplyForce"
  | .getVariable => "GetVariable"
  | .setVariable => "SetVariable"
  | .print => "Print"

def category : Builtin → Category
  | .onStart | .onUpdate | .onCollision => .event
  | .branch | .sequence => .flow
  | .add | .multiply => .math
  | .getPosition | .setPosition => .transform
  | .applyForce => .physics
  | .getVariable | .setVariable => .state
  | .print => .utility

def description : Builtin → String
  | .onStart => "Triggered on the first tick after play starts"
  | .onUpdate => "Triggered every tick"
  | .onCollision => "Triggered when the owning entity collides"
  | .branch => "If/else branching"
  | .sequence => "Continue along the first connected output"
  | .add => "A + B"
  | .multiply => "A * B"
  | .getPosition => "Read an entity's world position"
  | .setPosition => "Move an entity"
  | .applyForce => "Apply a force to an entity's rigidbody"
  | .getVariable => "Read a graph variable"
  | .setVariable => "Write a graph variable"
  | .print => "Log a value to the console"

/-- The outputs of a sequence, in the order in which it tries them. -/
def sequencePorts : List String := ["First", "Second", "Third"]

def declare (b : Builtin) (t : NodeType) : NodeType :=
  match b with
  | .onStart => t.execOut "Exec"
  | .onUpdate => (t.execOut "Exec").dataOut "deltaTime" .float
  | .onCollision => ((t.execOut "Exec").dataOut "otherObject" .object).onCollisions
  | .branch =>
    (((t.execIn "Exec").dataIn "Condition" .bool (.bool false)).execOut "True").execOut "False"
  | .sequence => sequencePorts.foldl NodeType.execOut (t.execIn "Exec")
  | .add | .multiply =>
    ((t.dataIn "A" .float (.float .zero)).dataIn "B" .float (.float .zero)).dataOut "Result" .float
  | .getPosition => (t.dataIn "Object" .object (.object none)).dataOut "Position" .vector
  | .setPosition =>
    (((t.execIn "Exec").dataIn "Object" .object (.object none)).dataIn "Position" .vector
      (.vector .zero)).execOut "Exec"
  | .applyForce =>
    (((t.execIn "Exec").dataIn "Object" .object (.object none)).dataIn "Force" .vector
      (.vector .zero)).execOut "Exec"
  | .getVariable => (t.prop "Name" .text (.text "") .internal).dataOut "Value" .any
  | .setVariable =>
    (((t.prop "Name" .text (.text "") .internal).execIn "Exec").dataIn "Value" .any
      (Kind.zero .any)).execOut "Exec"
  | .print => ((t.execIn "Exec").dataIn "Value" .any (.text "")).execOut "Exec"

def nodeType (b : Builtin) : NodeType :=
  b.declare ((NodeType.bare b.typeName b.category (.builtin b)).described b.description)

def operand (name : String) : Script Value :=
  .property name fun
    | some value => .done value
    | none => .fail (.missingOperand name)

/-- Publishes the result of an operation on the two operands. -/
def arithmetic (op : Value → Value → Option Value) (typeName : String) : Script Outcome := do
  let a ← operand "A"
  let b ← operand "B"
  match op a b with
  | some result => return .publishOne "Result" result
  | none => .fail (.cannotCombine a b typeName)

/-- What one run of a built-in node does. An object property without an entity means the acting
entity. -/
def script (b : Builtin) (run : Invocation) : Script Outcome :=
  match b with
  | .onStart => if run.frame = 0 then return .flow "Exec" else return .idle
  | .onUpdate =>
    return .publishThenFlow "Exec" (.ofList [("deltaTime", .float run.deltaTime)])
  | .onCollision =>
    match run.collisionOther? with
    | some other => return .publishThenFlow "Exec" (.ofList [("otherObject", .object (some other))])
    | none => return .idle
  | .branch => do
    let condition ← Script.bool "Condition"
    return .flow (if condition then "True" else "False")
  | .sequence => return .flows sequencePorts true
  | .add => arithmetic Value.add run.typeName
  | .multiply => arithmetic Value.mul run.typeName
  | .getPosition => do
    let object ← Script.object "Object"
    let position ← Script.position (object.getD run.entity) Script.capable
    return .publishOne "Position" (.vector position)
  | .setPosition => do
    let object ← Script.object "Object"
    let position ← Script.vector "Position"
    Script.setPosition (object.getD run.entity) position Script.capable
    return .flow "Exec"
  | .applyForce => do
    let object ← Script.object "Object"
    let force ← Script.vector "Force"
    Script.push (object.getD run.entity) force Script.capable
    return .flow "Exec"
  | .getVariable => do
    let name ← Script.text "Name"
    let vars ← Script.vars .done
    match vars.find? name with
    | some value => return .publishOne "Value" value
    | none => .fail (.unknownVariable name)
  | .setVariable => do
    let name ← Script.text "Name"
    let value ← Script.get? "Value"
    Script.setVariable name (value.getD default) (.done ())
    return .flow "Exec"
  | .print => do
    let value ← Script.get? "Value"
    Script.print (value.getD default) (.done ())
    return .flow "Exec"

end Builtin

def Behavior.script : Behavior → Invocation → Script Outcome
  | .builtin b, run => b.script run
  | .custom s, run => s run

def Registry.builtins : Registry := Builtin.all.foldl (fun r b => r.register b.nodeType) .empty

end ScriptGraph
