import ScriptGraph.Simulation
import ScriptGraph.Snapshot.JsonForm

/-! Reports: what the scene and the graphs look like at the end of a run. -/

namespace ScriptGraph

structure EntityReport where
  name : String
  position : Vector
  /-- The force that has piled up, if the entity has a rigidbody. -/
  force : Option Vector
deriving DecidableEq, Repr

structure GraphReport where
  /-- The name of the graph's entity. -/
  entity : String
  nodes : Nat
  connections : Nat
  vars : Variables
deriving DecidableEq

structure Report where
  ticks : Nat
  elapsed : Double
  mode : PlayMode
  stats : TickStats
  entities : List EntityReport
  graphs : List GraphReport
deriving DecidableEq

inductive ReportFormat where
  | ron
  | json
deriving DecidableEq, Repr

namespace Report

def ofEntity (e : SceneEntity) : EntityReport :=
  ⟨e.name, e.position, e.body.map Rigidbody.force⟩

/-- A graph whose entity has no name goes by the entity's id. -/
def ofGraph (s : Simulation) (g : Graph) : GraphReport where
  entity := (s.nameOf? g.entity).getD g.entity.uuid.text
  nodes := g.nodes.count
  connections := g.connections.size
  vars := g.vars

/-- Looks at a simulation at the end of a run that came to these counters. -/
def capture (s : Simulation) (stats : TickStats) : Report where
  ticks := s.tick
  elapsed := s.session.elapsed
  mode := s.session.mode
  stats := stats
  entities := s.scene.entities.values.map ofEntity
  graphs := s.session.store.graphs.values.map (ofGraph s)

def counters (s : TickStats) : List (String × Nat) :=
  [("roots", s.roots), ("executed", s.executed), ("downstream", s.downstream),
    ("degraded", s.degraded), ("refused", s.refused)]

def entityRon (e : EntityReport) : Ron :=
  .record (some "EntityReport")
    [("name", .string e.name), ("position", .vector e.position), ("force", .option .vector e.force)]

def graphRon (g : GraphReport) : Ron :=
  .record (some "GraphReport")
    [("entity", .string g.entity), ("nodes", .nat g.nodes), ("connections", .nat g.connections),
      ("variables", .table g.vars)]

def toRon (r : Report) : Ron :=
  .record (some "Report")
    [("ticks", .nat r.ticks), ("elapsed", .double r.elapsed), ("state", .name r.mode.name),
      ("stats", .record (some "TickStats") ((counters r.stats).map fun c => (c.1, .nat c.2))),
      ("entities", .list (r.entities.map entityRon)), ("graphs", .list (r.graphs.map graphRon))]

def forceJson : Option Vector → Json
  | some v => .vector v
  | none => .null

def entityJson (e : EntityReport) : Json :=
  .record
    [("name", .text e.name), ("position", .vector e.position), ("force", forceJson e.force)]

def graphJson (g : GraphReport) : Json :=
  .record
    [("entity", .text g.entity), ("nodes", .nat g.nodes), ("connections", .nat g.connections),
      ("variables", .table g.vars)]

def toJson (r : Report) : Json :=
  .record
    [("ticks", .nat r.ticks), ("elapsed", .double r.elapsed), ("state", .text r.mode.name),
      ("stats", .record ((counters r.stats).map fun c => (c.1, .nat c.2))),
      ("entities", .array (r.entities.map entityJson)),
      ("graphs", .array (r.graphs.map graphJson))]

def render (r : Report) : ReportFormat → String
  | .ron => r.toRon.render
  | .json => r.toJson.render

end Report

end ScriptGraph
