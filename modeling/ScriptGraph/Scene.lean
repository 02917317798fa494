import ScriptGraph.Node.Basic

/-! The scene that graphs act on. Nodes reach it through the requests of a `Host`, which are all
that a tick knows of it. `Scene` is a host in memory: entities with a name, a position and perhaps a
rigidbody on which forces pile up until they are taken off. -/

namespace ScriptGraph

/-- What nodes may ask of a scene. It may refuse, and may have changed even then. -/
class Host (σ : Type) where
  position (scene : σ) (entity : EntityId) : Except SceneError Vector
  setPosition (scene : σ) (entity : EntityId) (position : Vector) : Except SceneError Unit × σ
  push (scene : σ) (entity : EntityId) (force : Vector) : Except SceneError Unit × σ

structure Rigidbody where
  mass : Single
  force : Vector
deriving DecidableEq, Repr

structure SceneEntity where
  name : String
  position : Vector
  body : Option Rigidbody
deriving DecidableEq, Repr

/-- A body on which no force has been applied. -/
def Rigidbody.atRest (mass : Single) : Rigidbody := ⟨mass, .zero⟩

/-- Entities in the order in which they were put into the scene. -/
structure Scene where
  entities : Table EntityId SceneEntity
deriving DecidableEq

namespace Scene

def empty : Scene := ⟨.empty⟩

instance : Inhabited Scene := ⟨empty⟩

def entity? (s : Scene) (id : EntityId) : Option SceneEntity := s.entities.find? id

/-- Puts an entity under `id`; one that is replaced keeps its place. -/
def put (s : Scene) (id : EntityId) (e : SceneEntity) : Scene := ⟨s.entities.insert id e⟩

/-- Changes one entity, if it is there. -/
def modify (s : Scene) (id : EntityId) (f : SceneEntity → SceneEntity) : Scene :=
  ⟨s.entities.modify id f⟩

def find? (s : Scene) (name : String) : Option EntityId :=
  (s.entities.entries.find? fun e => e.2.name = name).map Prod.fst

def addRigidbody (s : Scene) (id : EntityId) (mass : Single) : Scene :=
  s.modify id fun e => { e with body := some (.atRest mass) }

def rename (s : Scene) (id : EntityId) (name : String) : Scene :=
  s.modify id fun e => { e with name := name }

/-- The force that has piled up on an entity's body. -/
def force? (s : Scene) (id : EntityId) : Option Vector := do
  let e ← s.entity? id
  let body ← e.body
  return body.force

/-- The scene after the force on an entity's body has been taken off it. -/
def dropForce (s : Scene) (id : EntityId) : Scene :=
  s.modify id fun e => { e with body := e.body.map fun b => { b with force := .zero } }

def position (s : Scene) (id : EntityId) : Except SceneError Vector :=
  match s.entity? id with
  | some e => .ok e.position
  | none => .error (.noEntity id)

def setPosition (s : Scene) (id : EntityId) (position : Vector) : Except SceneError Scene :=
  match s.entity? id with
  | some _ => .ok (s.modify id fun e => { e with position := position })
  | none => .error (.noEntity id)

def push (s : Scene) (id : EntityId) (force : Vector) : Except SceneError Scene :=
  match s.entity? id with
  | none => .error (.noEntity id)
  | some e =>
    match e.body with
    | none => .error (.noRigidbody id)
    | some _ =>
      .ok (s.modify id fun e =>
        { e with body := e.body.map fun b => { b with force := b.force.add force } })

/-- The answer to a request and the scene after it, which a refusal leaves as it was. -/
def answer (s : Scene) : Except SceneError Scene → Except SceneError Unit × Scene
  | .ok t => (.ok (), t)
  | .error e => (.error e, s)

instance : Host Scene where
  position := position
  setPosition s id p := s.answer (s.setPosition id p)
  push s id force := s.answer (s.push id force)

end Scene

end ScriptGraph
