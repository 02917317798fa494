import ScriptGraph.Scenario.Basic

/-! Scenarios as RON documents. Only the entities, the nodes of a graph and the words that name
things must be given. -/

namespace ScriptGraph

namespace Scenario

open RonRecord

def EntityPlan.ron (d : EntityPlan) : Ron :=
  .record (some "EntityDef")
    [("name", .string d.name), ("position", .vector d.position), ("mass", .option .single d.mass)]

def EntityPlan.reader : RonReader EntityPlan :=
  ((required "name" .text).and <| (defaulted "position" (.vector false) .zero).and <|
    defaulted "mass" (.option (fun _ => .single) false) none).read "EntityDef"
    |>.map fun (name, position, mass) => ⟨name, position, mass⟩

def NodePlan.ron (n : NodePlan) : Ron :=
  .record (some "NodeDef")
    [("key", .string n.key), ("type_name", .string n.typeName), ("position", .point n.position),
      ("properties", .table n.properties),
      ("objects", .map (n.objects.entries.map fun e => (.string e.1, .string e.2)))]

def NodePlan.reader : RonReader NodePlan :=
  ((required "key" .text).and <| (required "type_name" .text).and <|
    (defaulted "position" .point .zero).and <|
    (defaulted "properties" (.table .value) .empty).and <|
    defaulted "objects" (.table .text) .empty).read "NodeDef"
    |>.map fun (key, typeName, position, properties, objects) =>
      ⟨key, typeName, position, properties, objects⟩

def LinkPlan.ron (l : LinkPlan) : Ron :=
  .record (some "LinkDef")
    [("from", .string l.source), ("from_port", .string l.sourcePort), ("to", .string l.target),
      ("to_port", .string l.targetPort)]

def LinkPlan.reader : RonReader LinkPlan :=
  ((required "from" .text).and <| (required "from_port" .text).and <|
    (required "to" .text).and <| required "to_port" .text).read "LinkDef"
    |>.map fun (source, sourcePort, target, targetPort) => ⟨source, sourcePort, target, targetPort⟩

def GraphPlan.ron (g : GraphPlan) : Ron :=
  .record (some "GraphDef")
    [("entity", .string g.entity), ("nodes", .list (g.nodes.map NodePlan.ron)),
      ("connections", .list (g.links.map LinkPlan.ron)), ("variables", .table g.vars)]

def GraphPlan.reader : RonReader GraphPlan :=
  ((required "entity" .text).and <| (required "nodes" (.list NodePlan.reader)).and <|
    (defaulted "connections" (.list LinkPlan.reader) []).and <|
    defaulted "variables" (.table .value) .empty).read "GraphDef"
    |>.map fun (entity, nodes, links, vars) => ⟨entity, nodes, links, vars⟩

def CollisionPlan.ron (c : CollisionPlan) : Ron :=
  .record (some "CollisionDef")
    [("tick", .nat c.tick.toNat), ("a", .string c.a), ("b", .string c.b)]

def CollisionPlan.reader : RonReader CollisionPlan :=
  ((required "tick" .word).and <| (required "a" .text).and <| required "b" .text).read
    "CollisionDef"
    |>.map fun (tick, a, b) => ⟨tick, a, b⟩

def ron (s : Scenario) : Ron :=
  .record (some "Scenario")
    [("settings", s.settings.ron), ("ticks", .nat s.ticks.toNat),
      ("delta_time", .single s.deltaTime), ("entities", .list (s.entities.map EntityPlan.ron)),
      ("graphs", .list (s.graphs.map GraphPlan.ron)),
      ("collisions", .list (s.collisions.map CollisionPlan.ron))]

def reader : RonReader Scenario :=
  ((defaulted "settings" Settings.reader .initial).and <|
    (defaulted "ticks" .word defaultTicks).and <|
    (defaulted "delta_time" .single defaultDeltaTime).and <|
    (required "entities" (.list EntityPlan.reader)).and <|
    (defaulted "graphs" (.list GraphPlan.reader) []).and <|
    defaulted "collisions" (.list CollisionPlan.reader) []).read "Scenario"
    |>.map fun (settings, ticks, deltaTime, entities, graphs, collisions) =>
      ⟨settings, ticks, deltaTime, entities, graphs, collisions⟩

def toRonText (s : Scenario) : String := s.ron.render

def ofRonText? (text : String) : Option Scenario := Ron.document? reader text

end Scenario

end ScriptGraph
