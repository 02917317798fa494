import ScriptGraph.Scenario.RonForm

/-! Scenarios put into practice: names are resolved, the scene and the graphs are set up, and play
begins. From then on the simulation is advanced tick by tick. -/

namespace ScriptGraph

/-- Why a scenario could not be read or set up. A file that is missing or is no text is
unreadable. -/
inductive ScenarioError where
  | unreadable
  | malformed
  | refusedEdit (cause : GraphError)
  | duplicateEntity (name : String)
  | unknownEntity (name : String)
  | unknownKey (entity key : String)
deriving DecidableEq, Repr

def ScenarioError.message : ScenarioError → String
  | .unreadable => "Failed to access"
  | .malformed => "Invalid scenario"
  | .refusedEdit cause => "Graph error: " ++ cause.message
  | .duplicateEntity name => "Duplicate entity name '" ++ name ++ "'"
  | .unknownEntity name => "No entity named '" ++ name ++ "'"
  | .unknownKey entity key => "Graph of '" ++ entity ++ "' has no node '" ++ key ++ "'"

structure Simulation where
  session : Session
  scene : Scene
  names : Table String EntityId
  collisions : List (UInt32 × Collision)
  deltaTime : Single
  tick : Nat

namespace Scenario

def ofRonText (text : String) : Except ScenarioError Scenario :=
  match ofRonText? text with
  | some s => .ok s
  | none => .error .malformed

/-- Reads a scenario file, of which nothing is given if it is missing. -/
def ofFile (content : Option ByteArray) : Except ScenarioError Scenario :=
  match content.bind String.fromUTF8? with
  | none => .error .unreadable
  | some text => ofRonText text

/-- The scene while its entities are put in place. -/
structure Cast where
  scene : Scene
  names : Table String EntityId
  ids : IdSource

/-- Puts an entity in place; its name must be new. -/
def Cast.add (c : Cast) (d : EntityPlan) : Except ScenarioError Cast :=
  if c.names.contains d.name then .error (.duplicateEntity d.name)
  else
    let id : EntityId := ⟨c.ids.next⟩
    .ok {
      scene := c.scene.put id ⟨d.name, d.position, d.mass.map .atRest⟩
      names := c.names.insert d.name id
      ids := c.ids.advance }

def findEntity (names : Table String EntityId) (name : String) : Except ScenarioError EntityId :=
  match names.find? name with
  | some id => .ok id
  | none => .error (.unknownEntity name)

def edited {α : Type} : Except GraphError α → Except ScenarioError α
  | .ok a => .ok a
  | .error e => .error (.refusedEdit e)

def setValue (entity : EntityId) (node : NodeId) (s : Session) (p : String × Value) :
    Except ScenarioError Session :=
  edited (s.setProperty entity node p.1 p.2)

def setObject (names : Table String EntityId) (entity : EntityId) (node : NodeId) (s : Session)
    (p : String × String) : Except ScenarioError Session := do
  let target ← findEntity names p.2
  edited (s.setProperty entity node p.1 (.object (some target)))

/-- Adds a node with its properties and notes its key; a later node of that key takes it over. -/
def addNode (names : Table String EntityId) (entity : EntityId)
    (acc : Table String NodeId × Session) (n : NodePlan) :
    Except ScenarioError (Table String NodeId × Session) := do
  let (id, added) ← edited (acc.2.addNode entity n.typeName n.position)
  let valued ← n.properties.entries.foldlM (setValue entity id) added
  let done ← n.objects.entries.foldlM (setObject names entity id) valued
  return (acc.1.insert n.key id, done)

def findNode (owner : String) (keys : Table String NodeId) (key : String) :
    Except ScenarioError NodeId :=
  match keys.find? key with
  | some id => .ok id
  | none => .error (.unknownKey owner key)

def addLink (owner : String) (entity : EntityId) (keys : Table String NodeId)
    (acc : Session × IdSource) (l : LinkPlan) : Except ScenarioError (Session × IdSource) := do
  let source ← findNode owner keys l.source
  let target ← findNode owner keys l.target
  let linked ← edited
    (acc.1.connect ⟨acc.2.next⟩ entity source l.sourcePort target l.targetPort)
  return (linked, acc.2.advance)

def addVariable (entity : EntityId) (s : Session) (p : String × Value) :
    Except ScenarioError Session := do
  let (_, done) ← edited (s.setVariable entity p.1 p.2)
  return done

def addGraph (names : Table String EntityId) (acc : Session × IdSource) (g : GraphPlan) :
    Except ScenarioError (Session × IdSource) := do
  let entity ← findEntity names g.entity
  let created ← edited (acc.1.createGraph ⟨acc.2.next⟩ entity)
  let (keys, filled) ← g.nodes.foldlM (addNode names entity) (.empty, created)
  let (linked, ids) ← g.links.foldlM (addLink g.entity entity keys) (filled, acc.2.advance)
  let done ← g.vars.entries.foldlM (addVariable entity) linked
  return (done, ids)

def resolveCollision (names : Table String EntityId) (c : CollisionPlan) :
    Except ScenarioError (UInt32 × Collision) := do
  let a ← findEntity names c.a
  let b ← findEntity names c.b
  return (c.tick, ⟨a, b⟩)

/-- Sets a scenario up with fresh ids and begins play: entities first, then each graph with its
connections. -/
def build (s : Scenario) (ids : IdSource) : Except ScenarioError (Simulation × Log) := do
  let cast ← s.entities.foldlM Cast.add ⟨.empty, .empty, ids⟩
  let (opened, log) := Session.start .builtins s.settings
  let (authored, _) ← s.graphs.foldlM (addGraph cast.names) (opened, cast.ids)
  let collisions ← s.collisions.mapM (resolveCollision cast.names)
  let (session, entries) := authored.after authored.play
  let simulation : Simulation := ⟨session, cast.scene, cast.names, collisions, s.deltaTime, 0⟩
  let loaded : LogEntry := .scenarioLoaded cast.names.size session.store.graphs.size
  return (simulation, (log ++ entries).push loaded)

end Scenario

namespace Simulation

structure Run where
  simulation : Simulation
  stats : TickStats
  log : Log

/-- The collisions of the tick that comes next. -/
def pending (s : Simulation) : List Collision :=
  (s.collisions.filter fun c => c.1.toNat = s.tick).map Prod.snd

def step (s : Simulation) : Run :=
  let ended := s.session.update s.deltaTime s.scene s.pending
  ⟨{ s with session := ended.session, scene := ended.scene, tick := s.tick + 1 }, ended.stats,
    ended.log⟩

/-- Runs further ticks on top of those before. -/
def Run.continue (r : Run) : Nat → Run
  | 0 => r
  | n + 1 =>
    let next := r.simulation.step
    Run.continue ⟨next.simulation, r.stats.add next.stats, r.log ++ next.log⟩ n

def run (s : Simulation) (ticks : Nat) : Run := Run.continue ⟨s, .zero, #[]⟩ ticks

def nameOf? (s : Simulation) (entity : EntityId) : Option String :=
  (s.names.entries.find? fun e => e.2 = entity).map Prod.fst

end Simulation

end ScriptGraph
