import ScriptGraph.Session

/-! Scenarios: a scene, the graphs of its entities and the collisions that will happen, as one would
write them down by hand. Entities go by their names, and the nodes of a graph by keys of its own. -/

namespace ScriptGraph

namespace Scenario

/-- An entity of the scene, with a rigidbody if it has a mass. -/
structure EntityPlan where
  name : String
  position : Vector
  mass : Option Single
deriving DecidableEq

/-- A node and the properties that are not left at their defaults. Those that hold an entity may be
given by the entity's name. -/
structure NodePlan where
  key : String
  typeName : String
  position : Point
  properties : Properties
  objects : Table String String
deriving DecidableEq

/-- A connection between two nodes of a graph, which go by their keys. -/
structure LinkPlan where
  source : String
  sourcePort : String
  target : String
  targetPort : String
deriving DecidableEq

structure GraphPlan where
  entity : String
  nodes : List NodePlan
  links : List LinkPlan
  vars : Variables
deriving DecidableEq

/-- Two entities that collide at a tick, which count from zero. -/
structure CollisionPlan where
  tick : UInt32
  a : String
  b : String
deriving DecidableEq

end Scenario

/-- As many ticks are run as `ticks` says, `deltaTime` unscaled seconds apart. -/
structure Scenario where
  settings : Settings
  ticks : UInt32
  deltaTime : Single
  entities : List Scenario.EntityPlan
  graphs : List Scenario.GraphPlan
  collisions : List Scenario.CollisionPlan
deriving DecidableEq

namespace Scenario

def defaultTicks : UInt32 := 60

def defaultDeltaTime : Single := .ofRatio false 1 60

namespace NodePlan

/-- A node on the axis of the canvas with all properties at their defaults. -/
def plain (key typeName : String) (x : Int) : NodePlan where
  key := key
  typeName := typeName
  position := ⟨.ofInt x, .zero⟩
  properties := .empty
  objects := .empty

def setting (n : NodePlan) (name : String) (value : Value) : NodePlan :=
  { n with properties := n.properties.insert name value }

end NodePlan

/-- The graph of the sample: greets, pushes its entity at every tick, counts the collisions and
remembers where the last one was. -/
def sampleGraph : GraphPlan where
  entity := "Player"
  nodes := [
    .plain "start" "OnStart" 0,
    (NodePlan.plain "greet" "Print" 200).setting "Value" (.text "Player ready"),
    .plain "update" "OnUpdate" 0,
    (NodePlan.plain "push" "ApplyForce" 200).setting "Force"
      (.vector ⟨.ofInt 2, .zero, .zero⟩),
    .plain "hit" "OnCollision" 0,
    .plain "log_hit" "Print" 200,
    .plain "locate" "GetPosition" 400,
    (NodePlan.plain "remember" "SetVariable" 600).setting "Name" (.text "last_hit_position"),
    (NodePlan.plain "read_hits" "GetVariable" 600).setting "Name" (.text "hits"),
    (NodePlan.plain "bump" "Add" 800).setting "B" (.int 1),
    (NodePlan.plain "count" "SetVariable" 1000).setting "Name" (.text "hits")]
  links := [
    ⟨"start", "Exec", "greet", "Exec"⟩,
    ⟨"update", "Exec", "push", "Exec"⟩,
    ⟨"hit", "otherObject", "log_hit", "Value"⟩,
    ⟨"hit", "otherObject", "locate", "Object"⟩,
    ⟨"locate", "Position", "remember", "Value"⟩,
    ⟨"hit", "Exec", "log_hit", "Exec"⟩,
    ⟨"log_hit", "Exec", "remember", "Exec"⟩,
    ⟨"read_hits", "Value", "bump", "A"⟩,
    ⟨"bump", "Result", "count", "Value"⟩,
    ⟨"remember", "Exec", "count", "Exec"⟩]
  vars := .ofList [("hits", .int 0)]

/-- A scenario to start from: a player that is pushed towards a wall and hits it halfway through. -/
def sample : Scenario where
  settings := .initial
  ticks := defaultTicks
  deltaTime := defaultDeltaTime
  entities := [⟨"Player", .zero, some .one⟩, ⟨"Wall", ⟨.one, .zero, .zero⟩, none⟩]
  graphs := [sampleGraph]
  collisions := [⟨30, "Player", "Wall"⟩]

/-- Equality of optional floats as numbers. -/
def sameMass : Option Single → Option Single → Bool
  | some a, some b => a.equal b
  | none, none => true
  | _, _ => false

def EntityPlan.equal (d e : EntityPlan) : Bool :=
  d.name = e.name && d.position.equal e.position && sameMass d.mass e.mass

def NodePlan.equal (m n : NodePlan) : Bool :=
  m.key = n.key && m.typeName = n.typeName && m.position.equal n.position &&
    Snapshot.sameProperties m.properties n.properties &&
    m.objects.size = n.objects.size &&
    m.objects.entries.all fun e => n.objects.find? e.1 = some e.2

def GraphPlan.equal (g h : GraphPlan) : Bool :=
  g.entity = h.entity && g.nodes.length = h.nodes.length &&
    ((g.nodes.zip h.nodes).all fun e => e.1.equal e.2) && g.links = h.links &&
    Snapshot.sameProperties g.vars h.vars

/-- Equality of scenarios with floats compared as numbers and tables whatever their order. -/
def equal (s t : Scenario) : Bool :=
  s.settings.equal t.settings && s.ticks = t.ticks && s.deltaTime.equal t.deltaTime &&
    s.entities.length = t.entities.length &&
    ((s.entities.zip t.entities).all fun e => e.1.equal e.2) &&
    s.graphs.length = t.graphs.length && ((s.graphs.zip t.graphs).all fun e => e.1.equal e.2) &&
    s.collisions = t.collisions

end Scenario

end ScriptGraph
