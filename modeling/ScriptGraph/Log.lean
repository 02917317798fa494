import ScriptGraph.Graph.Arena
import ScriptGraph.Number.Single

/-! What happens along the way: entries for hosts to show, each with a level, a message and named
fields. The log holds what hosts are told and warned of, and every run of a node. What would only
help to follow a tick in detail has no entry: that a source to be pulled is on the stack already,
that an input has no property behind it, that an edit was made or that a tick is over. -/

namespace ScriptGraph

inductive LogLevel where
  | trace
  | info
  | warn
deriving DecidableEq, Repr

/-- A field of an entry: text, or a number for the host to write. -/
inductive LogField where
  | text (s : String)
  | real (x : Double)
deriving DecidableEq, Repr

inductive LogEntry where
  /-- A node ran without failing. The entry stands for the line that writes the type and what came
  of the run; its message here is not that line's text. -/
  | nodeRan (graph : GraphId) (node : NodeId) (outcome : Outcome)
  | printed (entity : EntityId) (node : NodeId) (value : Value)
  | enteredPlay (graphs : Nat)
  | resumedPlay
  | pausedPlay
  | exitedPlay (frames : Nat) (elapsed : Double)
  | scenarioLoaded (entities graphs : Nat)
  | reentryRefused (graph : GraphId) (node : NodeId)
  | depthLimitReached (graph : GraphId) (node : NodeId) (depth : Nat)
  | placeholderSkipped (graph : GraphId) (node : NodeId) (typeName : String)
  | nodeFailed (graph : GraphId) (node : NodeId) (typeName : String) (error : NodeError)
  | placeholderKept (graph : GraphId) (node : NodeId) (typeName : String)
  | connectionDropped (graph : GraphId) (connection : ConnectionId) (error : GraphError)
deriving DecidableEq

abbrev Log := Array LogEntry

namespace LogEntry

def level : LogEntry → LogLevel
  | .nodeRan .. => .trace
  | .printed .. | .enteredPlay .. | .resumedPlay | .pausedPlay | .exitedPlay .. => .info
  | .scenarioLoaded .. => .info
  | .reentryRefused .. | .depthLimitReached .. | .placeholderSkipped .. | .nodeFailed .. => .warn
  | .placeholderKept .. | .connectionDropped .. => .warn

def message : LogEntry → String
  | .nodeRan .. => "Node ran"
  | .printed _ _ value => value.display
  | .enteredPlay _ => "Entered play mode"
  | .resumedPlay => "Resumed play mode"
  | .pausedPlay => "Paused play mode"
  | .exitedPlay .. => "Exited play mode"
  | .scenarioLoaded .. => "Scenario loaded"
  | .reentryRefused .. => "Refusing to re-enter node in a cycle"
  | .depthLimitReached .. => "Dispatch depth limit reached"
  | .placeholderSkipped _ _ typeName => "Skipping node of unregistered type '" ++ typeName ++ "'"
  | .nodeFailed _ _ typeName error => typeName ++ " failed: " ++ error.message
  | .placeholderKept _ _ typeName =>
    "Keeping node of unregistered type '" ++ typeName ++ "' as inert"
  | .connectionDropped _ _ error => "Dropping connection: " ++ error.message

def nodeFields (graph : GraphId) (node : NodeId) : List (String × LogField) :=
  [("graph", .text graph.uuid.text), ("node", .text node.text)]

def fields : LogEntry → List (String × LogField)
  | .nodeRan graph node _ => nodeFields graph node
  | .printed entity node _ => [("entity", .text entity.uuid.text), ("node", .text node.text)]
  | .enteredPlay graphs => [("graphs", .text (natText graphs))]
  | .resumedPlay | .pausedPlay => []
  | .exitedPlay frames elapsed => [("frames", .text (natText frames)), ("elapsed", .real elapsed)]
  | .scenarioLoaded entities graphs =>
    [("entities", .text (natText entities)), ("graphs", .text (natText graphs))]
  | .reentryRefused graph node => nodeFields graph node
  | .depthLimitReached graph node depth =>
    nodeFields graph node ++ [("depth", .text (natText depth))]
  | .placeholderSkipped graph node _ => nodeFields graph node
  | .nodeFailed graph node _ _ => nodeFields graph node
  | .placeholderKept graph node _ => nodeFields graph node
  | .connectionDropped graph connection _ =>
    [("graph", .text graph.uuid.text), ("connection", .text connection.uuid.text)]

end LogEntry

/-- The entries that are meant for everyone. -/
def Log.notices (log : Log) : List LogEntry :=
  log.toList.filter fun e => e.level = .info || e.level = .warn

end ScriptGraph
