import ScriptGraph.Settings
import ScriptGraph.Snapshot

/-! Sessions: the graphs of a scene and the mode they are in. Graphs are ticked only while the
session plays. Playing works on the graphs themselves, and a copy taken when play began is put back
when it ends, so that nothing that happens during play outlives it. -/

namespace ScriptGraph

inductive PlayMode where
  | stopped
  | playing
  | paused
deriving DecidableEq, Repr, Inhabited

namespace PlayMode

def isActive (m : PlayMode) : Bool := m ≠ .stopped

def isPlaying (m : PlayMode) : Bool := m = .playing

def name : PlayMode → String
  | .stopped => "Stopped"
  | .playing => "Playing"
  | .paused => "Paused"

end PlayMode

/-- During play `backup` holds the graphs as they were when it began, `frame` counts the updates
since then, and `elapsed` the seconds that have passed in the scene. -/
structure Session where
  registry : Registry
  store : Store
  settings : Settings
  mode : PlayMode
  backup : Option Store
  frame : Nat
  elapsed : Double

namespace Session

/-- A stopped session without graphs. -/
def idle (registry : Registry) (settings : Settings) : Session where
  registry := registry
  store := .empty
  settings := settings
  mode := .stopped
  backup := none
  frame := 0
  elapsed := .zero

def play (s : Session) : Option (Session × LogEntry) :=
  match s.mode with
  | .stopped =>
    some ({ s with backup := some s.store, mode := .playing, frame := 0, elapsed := .zero },
      .enteredPlay s.store.graphs.size)
  | .paused => some ({ s with mode := .playing }, .resumedPlay)
  | .playing => none

def pause (s : Session) : Option (Session × LogEntry) :=
  match s.mode with
  | .playing => some ({ s with mode := .paused }, .pausedPlay)
  | _ => none

/-- Ends play, if it has begun, and puts the graphs back. -/
def stop (s : Session) : Option (Session × LogEntry) :=
  match s.mode with
  | .stopped => none
  | _ =>
    some ({
      s with
      mode := .stopped
      store := s.backup.getD s.store
      backup := none
      frame := 0
      elapsed := .zero }, .exitedPlay s.frame s.elapsed)

/-- The session after a change of mode that may have had nothing to do. -/
def after (s : Session) (change : Option (Session × LogEntry)) : Session × Log :=
  match change with
  | some (t, entry) => (t, #[entry])
  | none => (s, #[])

/-- Opens a session without graphs, which plays at once if its settings ask for it. -/
def start (registry : Registry) (settings : Settings) : Session × Log :=
  let s := idle registry settings
  if settings.startPlaying then s.after s.play else (s, #[])

/-- One pass over a graph in an update: all its event nodes, or only those driven by collisions. -/
structure Pass where
  collisionsOnly : Bool
  collision : Option Collision
deriving DecidableEq, Repr

/-- The passes over the graph of an entity: a full one, which sees the first collision that the
entity took part in, and one for each further collision. -/
def passes (entity : EntityId) (collisions : List Collision) : List Pass :=
  match collisions.filter fun c => (c.other? entity).isSome with
  | [] => [⟨false, none⟩]
  | c :: rest => ⟨false, some c⟩ :: rest.map fun c => ⟨true, some c⟩

def rules (s : Session) (deltaTime : Single) (entity : EntityId) (p : Pass) : TickRules where
  registry := s.registry
  context := ⟨entity, deltaTime, s.frame, p.collision⟩
  maxDepth := s.settings.depthLimit

variable {σ : Type} [Host σ]

/-- Runs one pass over a graph, on top of what came before. -/
def runPass (s : Session) (deltaTime : Single) (acc : TickState σ) (p : Pass) : TickState σ :=
  let ended := (s.rules deltaTime acc.graph.entity p).run p.collisionsOnly acc.graph acc.scene
  ⟨ended.graph, ended.scene, acc.stats.add ended.stats, acc.log ++ ended.log⟩

structure Progress (σ : Type) where
  store : Store
  scene : σ
  stats : TickStats
  log : Log

def tickGraph (s : Session) (deltaTime : Single) (collisions : List Collision) (acc : Progress σ)
    (g : Graph) : Progress σ :=
  let ended := (passes g.entity collisions).foldl (s.runPass deltaTime)
    ⟨g, acc.scene, acc.stats, acc.log⟩
  ⟨acc.store.modify g.entity fun _ => ended.graph, ended.scene, ended.stats, ended.log⟩

structure Updated (σ : Type) where
  session : Session
  scene : σ
  stats : TickStats
  log : Log

/-- Lets time pass: ticks every graph in the order of attachment, all with the same frame number.
Does nothing unless the session plays. -/
def update (s : Session) (deltaTime : Single) (scene : σ) (collisions : List Collision) :
    Updated σ :=
  if s.mode.isPlaying then
    let scaled := s.settings.scaled deltaTime
    let ended := s.store.graphs.values.foldl (s.tickGraph scaled collisions)
      ⟨s.store, scene, .zero, #[]⟩
    let session := {
      s with
      store := ended.store
      frame := s.frame + 1
      elapsed := s.elapsed.add scaled.toDouble }
    ⟨session, ended.scene, ended.stats, ended.log⟩
  else ⟨s, scene, .zero, #[]⟩

def register (s : Session) (t : NodeType) : Session :=
  let registry := s.registry.register t
  { s with registry := registry, store := s.store.reseed registry }

def setTimeScale (s : Session) (scale : Single) : Session :=
  { s with settings := s.settings.setTimeScale scale }

def createGraph (s : Session) (id : GraphId) (entity : EntityId) : Except GraphError Session := do
  let store ← s.store.create id entity
  return { s with store := store }

def replaceGraph (s : Session) (id : GraphId) (entity : EntityId) : Session :=
  { s with store := s.store.replace id entity }

def detach (s : Session) (entity : EntityId) : Session :=
  { s with store := s.store.detach entity }

/-- Edits the graph of an entity. A refused edit changes nothing. -/
def edit {α : Type} (s : Session) (entity : EntityId)
    (f : Graph → Except GraphError (α × Graph)) : Except GraphError (α × Session) := do
  let (a, store) ← s.store.edit entity f
  return (a, { s with store := store })

def amend (s : Session) (entity : EntityId) (f : Graph → Except GraphError Graph) :
    Except GraphError Session := do
  let (_, t) ← s.edit entity fun g => (f g).map fun g' => ((), g')
  return t

def addNode (s : Session) (entity : EntityId) (typeName : String) (position : Point) :
    Except GraphError (NodeId × Session) :=
  s.edit entity fun g => g.addNode s.registry typeName position

def removeNode (s : Session) (entity : EntityId) (node : NodeId) :
    Except GraphError (Node × Session) :=
  s.edit entity fun g => g.removeNode node

def connect (s : Session) (id : ConnectionId) (entity : EntityId) (source : NodeId)
    (sourcePort : String) (target : NodeId) (targetPort : String) : Except GraphError Session :=
  s.amend entity fun g => g.connect s.registry id source sourcePort target targetPort

def disconnect (s : Session) (entity : EntityId) (id : ConnectionId) :
    Except GraphError (Connection × Session) :=
  s.edit entity fun g => g.disconnect id

def setProperty (s : Session) (entity : EntityId) (node : NodeId) (name : String) (value : Value) :
    Except GraphError Session :=
  s.amend entity fun g => g.setProperty node name value

/-- Writes a variable and yields the value that it had. -/
def setVariable (s : Session) (entity : EntityId) (name : String) (value : Value) :
    Except GraphError (Option Value × Session) :=
  s.edit entity fun g => .ok (g.vars.find? name, g.setVariable name value)

def save (s : Session) (entity : EntityId) : Except GraphError Snapshot := do
  let g ← s.store.require entity
  return g.snapshot

/-- Loads a graph in place of whatever its entity had. Yields what the load warned about. -/
def load (s : Session) (p : Snapshot) : Except GraphError (List GraphError × Session) × Log :=
  match p.load s.registry with
  | (.error e, log) => (.error e, log)
  | (.ok loaded, log) =>
    (.ok (loaded.warnings, { s with store := s.store.attach loaded.graph }), log)

end Session

end ScriptGraph
