import ScriptGraph.Scene

/-! Node scripts: what the behavior of a node may do, as data. A script reads and writes the
properties of its own node, the graph's variables and the scene, prints values, and ends with an
outcome or a failure. `Script.run` carries one out. Since a script has no other operations, a run
can neither add nor drop a property, nor remove an entity. -/

namespace ScriptGraph

/-- What every node sees of the tick it runs in. -/
structure TickContext where
  /-- The entity that acts. -/
  entity : EntityId
  deltaTime : Single
  frame : Nat
  collision : Option Collision
deriving DecidableEq, Repr

/-- The other party of the tick's collision, if the acting entity took part in it. -/
def TickContext.collisionOther? (ctx : TickContext) : Option EntityId :=
  ctx.collision.bind fun c => c.other? ctx.entity

/-- One run of one node. -/
structure Invocation extends TickContext where
  node : NodeId
  typeName : String

inductive Script (α : Type) where
  | done (result : α)
  | fail (error : NodeError)
  | table (next : Properties → Script α)
  | property (name : String) (next : Option Value → Script α)
  | setProperty (name : String) (value : Value) (next : Bool → Script α)
  | vars (next : Variables → Script α)
  | setVariable (name : String) (value : Value) (next : Script α)
  | removeVariable (name : String) (next : Script α)
  | position (entity : EntityId) (next : Except SceneError Vector → Script α)
  | setPosition (entity : EntityId) (position : Vector) (next : Except SceneError Unit → Script α)
  | push (entity : EntityId) (force : Vector) (next : Except SceneError Unit → Script α)
  | print (value : Value) (next : Script α)

/-- All that a script can reach. -/
structure Workspace (σ : Type) where
  properties : Properties
  vars : Variables
  scene : σ
  /-- The values printed so far. -/
  printed : List Value

namespace Script

variable {α β : Type}

def bind : Script α → (α → Script β) → Script β
  | .done a, f => f a
  | .fail e, _ => .fail e
  | .table next, f => .table fun t => (next t).bind f
  | .property name next, f => .property name fun v => (next v).bind f
  | .setProperty name value next, f => .setProperty name value fun b => (next b).bind f
  | .vars next, f => .vars fun t => (next t).bind f
  | .setVariable name value next, f => .setVariable name value (next.bind f)
  | .removeVariable name next, f => .removeVariable name (next.bind f)
  | .position e next, f => .position e fun r => (next r).bind f
  | .setPosition e p next, f => .setPosition e p fun r => (next r).bind f
  | .push e p next, f => .push e p fun r => (next r).bind f
  | .print value next, f => .print value (next.bind f)

instance : Monad Script where
  pure := .done
  bind := bind

def run {σ : Type} [Host σ] : Script α → Workspace σ → Except NodeError α × Workspace σ
  | .done a, w => (.ok a, w)
  | .fail e, w => (.error e, w)
  | .table next, w => (next w.properties).run w
  | .property name next, w => (next (w.properties.find? name)).run w
  | .setProperty name value next, w =>
    (next (w.properties.contains name)).run
      { w with properties := setExisting w.properties name value }
  | .vars next, w => (next w.vars).run w
  | .setVariable name value next, w =>
    next.run { w with vars := w.vars.insert name value }
  | .removeVariable name next, w => next.run { w with vars := w.vars.erase name }
  | .position e next, w => (next (Host.position w.scene e)).run w
  | .setPosition e p next, w =>
    let r := Host.setPosition w.scene e p
    (next r.1).run { w with scene := r.2 }
  | .push e p next, w =>
    let r := Host.push w.scene e p
    (next r.1).run { w with scene := r.2 }
  | .print value next, w => next.run { w with printed := w.printed ++ [value] }

/-- The script that fails if the scene refused a request. -/
def capable : Except SceneError α → Script α
  | .ok a => .done a
  | .error e => .fail (.missingCapability e)

def get? (name : String) : Script (Option Value) := .property name .done

/-- Reads a property as one kind of value; it must be there and be readable so. -/
def read (name : String) (expected : Kind) (as? : Value → Option α) : Script α :=
  .property name fun
    | none => .fail (.undeclaredProperty name)
    | some value =>
      match as? value with
      | some a => .done a
      | none => .fail (.typeMismatch name expected value)

def float (name : String) : Script Single := read name .float Value.float?

def bool (name : String) : Script Bool := read name .bool Value.bool?

def vector (name : String) : Script Vector := read name .vector Value.vector?

def text (name : String) : Script String := read name .text Value.text?

def object (name : String) : Script (Option EntityId) := read name .object Value.object?

theorem keys_properties_run {σ : Type} [Host σ] (s : Script α) (w : Workspace σ) :
    (s.run w).2.properties.keys = w.properties.keys := by
  induction s generalizing w with
  | done => rfl
  | fail => rfl
  | table next ih => exact ih _ w
  | property name next ih => exact ih _ w
  | setProperty name value next ih =>
    rw [run, ih]
    exact keys_setExisting w.properties name value
  | vars next ih => exact ih _ w
  | setVariable name value next ih => rw [run, ih]
  | removeVariable name next ih => rw [run, ih]
  | position e next ih => exact ih _ w
  | setPosition e p next ih => rw [run, ih]
  | push e p next ih => rw [run, ih]
  | print value next ih => rw [run, ih]

end Script

end ScriptGraph
