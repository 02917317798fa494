import ScriptGraph.Graph.Basic

/-! The graphs of a scene, at most one for an entity, in the order in which they were attached. -/

namespace ScriptGraph

structure Store where
  graphs : Table EntityId Graph
deriving DecidableEq

namespace Store

def empty : Store := ⟨.empty⟩

instance : Inhabited Store := ⟨empty⟩

def get? (s : Store) (entity : EntityId) : Option Graph := s.graphs.find? entity

def contains (s : Store) (entity : EntityId) : Bool := s.graphs.contains entity

def require (s : Store) (entity : EntityId) : Except GraphError Graph :=
  match s.get? entity with
  | some g => .ok g
  | none => .error (.noGraph entity)

/-- Attaches a graph to its own entity, which must not have one. -/
def insert (s : Store) (g : Graph) : Except GraphError Store :=
  if s.contains g.entity then .error (.graphExists g.entity)
  else .ok ⟨s.graphs.insert g.entity g⟩

def detach (s : Store) (entity : EntityId) : Store := ⟨s.graphs.erase entity⟩

def create (s : Store) (id : GraphId) (entity : EntityId) : Except GraphError Store :=
  s.insert (.empty id entity)

/-- Attaches a graph to its own entity, at the end, in place of whatever the entity had. -/
def attach (s : Store) (g : Graph) : Store := ⟨(s.detach g.entity).graphs.insert g.entity g⟩

def replace (s : Store) (id : GraphId) (entity : EntityId) : Store :=
  s.attach (.empty id entity)

def modify (s : Store) (entity : EntityId) (f : Graph → Graph) : Store :=
  ⟨s.graphs.modify entity f⟩

/-- Edits the graph of an entity. A refused edit changes nothing. -/
def edit {α : Type} (s : Store) (entity : EntityId)
    (f : Graph → Except GraphError (α × Graph)) : Except GraphError (α × Store) := do
  let g ← s.require entity
  let (a, g') ← f g
  return (a, s.modify entity fun _ => g')

def reseed (s : Store) (registry : Registry) : Store :=
  ⟨s.graphs.map fun _ g => g.reseed registry⟩

end Store

end ScriptGraph
