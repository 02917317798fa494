import ScriptGraph.Node.Basic

/-! Slots for nodes. A slot that is vacated counts its generation up before it is used again, so an
old id never finds the node that later took its place. -/

namespace ScriptGraph

/-- Why an edit, a load or a lookup of a graph was refused. -/
inductive GraphError where
  | unknownNodeType (name : String)
  | unknownNode (node : NodeId)
  | invalidPort (node : NodeId) (port : String)
  | incompatiblePorts (source target : String)
  | unknownConnection (connection : ConnectionId)
  | unknownProperty (node : NodeId) (property : String)
  | graphExists (entity : EntityId)
  | noGraph (entity : EntityId)
  | duplicateNode (node : NodeId)
  | indexOutOfRange (node : NodeId) (limit : Nat)
  | unsupportedVersion (found supported : Nat)
  /-- Not a refusal: a stored node was kept although nobody knows its type. -/
  | placeholderKept (node : NodeId) (typeName : String)
deriving DecidableEq, Repr

def GraphError.message : GraphError → String
  | .unknownNodeType name => "Unknown node type: " ++ name
  | .unknownNode node => "Node not found: " ++ node.text
  | .invalidPort node port => "Node " ++ node.text ++ " has no port '" ++ port ++ "'"
  | .incompatiblePorts source target => "Cannot connect '" ++ source ++ "' to '" ++ target ++ "'"
  | .unknownConnection c => "Connection not found: " ++ c.uuid.text
  | .unknownProperty node property =>
    "Node " ++ node.text ++ " has no property '" ++ property ++ "'"
  | .graphExists e => "Entity " ++ e.uuid.text ++ " already has a behavior graph"
  | .noGraph e => "Entity " ++ e.uuid.text ++ " has no behavior graph"
  | .duplicateNode node => "Duplicate node id: " ++ node.text
  | .indexOutOfRange node limit =>
    "Node id " ++ node.text ++ " is out of range (limit " ++ natText limit ++ ")"
  | .unsupportedVersion found supported =>
    "Unsupported graph format version " ++ natText found ++ " (expected at most " ++
      natText supported ++ ")"
  | .placeholderKept node typeName =>
    "Node " ++ node.text ++ " has unregistered type '" ++ typeName ++
      "'; kept as inert placeholder"

structure Slot where
  generation : UInt32
  node : Option Node
deriving DecidableEq

/-- Slots, a stack of the vacant ones with the next to be used on top, and the number of nodes. -/
structure Arena where
  slots : List Slot
  free : List UInt32
  count : Nat
deriving DecidableEq

namespace Arena

def empty : Arena := ⟨[], [], 0⟩

instance : Inhabited Arena := ⟨empty⟩

/-- How many slots a stored arena may leave unmentioned. -/
def maxGap : Nat := 4096

def slot? (a : Arena) (index : UInt32) : Option Slot := a.slots[index.toNat]?

def get? (a : Arena) (id : NodeId) : Option Node :=
  match a.slot? id.index with
  | some s => if s.generation = id.generation then s.node else none
  | none => none

def contains (a : Arena) (id : NodeId) : Bool := (a.get? id).isSome

/-- The nodes in slot order. -/
def nodes (a : Arena) : List Node := a.slots.filterMap Slot.node

/-- The vacant slots in slot order, each as the id it would issue next. -/
def vacancies (a : Arena) : List NodeId :=
  a.slots.zipIdx.filterMap fun e =>
    if e.1.node.isNone then some ⟨UInt32.ofNat e.2, e.1.generation⟩ else none

/-- Changes the node that an id names, if there is one. -/
def modify (a : Arena) (id : NodeId) (f : Node → Node) : Arena :=
  if a.contains id then
    { a with slots := a.slots.modify id.index.toNat fun s => { s with node := s.node.map f } }
  else a

def map (a : Arena) (f : Node → Node) : Arena :=
  { a with slots := a.slots.map fun s => { s with node := s.node.map f } }

/-- Stores the node built for the next id: the vacant slot on top of the stack, or a new one. -/
def insert (a : Arena) (build : NodeId → Node) : NodeId × Arena :=
  match a.free with
  | index :: free =>
    let id : NodeId := ⟨index, ((a.slot? index).map Slot.generation).getD 0⟩
    (id, {
      slots := a.slots.modify index.toNat fun s => { s with node := some (build id) }
      free := free
      count := a.count + 1 })
  | [] =>
    let id : NodeId := ⟨UInt32.ofNat a.slots.length, 0⟩
    (id, {
      slots := a.slots ++ [⟨0, some (build id)⟩]
      free := []
      count := a.count + 1 })

def remove (a : Arena) (id : NodeId) : Option (Node × Arena) :=
  (a.get? id).map fun node =>
    (node, {
      slots := a.slots.modify id.index.toNat fun s =>
        { generation := s.generation + 1, node := none }
      free := id.index :: a.free
      count := a.count - 1 })

/-- The next generation, which stays at the largest. -/
def nextGeneration (g : UInt32) : UInt32 := if g + 1 = 0 then g else g + 1

/-- The first node whose slot an earlier one has taken. -/
def firstClash (taken : List UInt32) : List Node → Option Node
  | [] => none
  | n :: rest =>
    if n.id.index ∈ taken then some n else firstClash (n.id.index :: taken) rest

/-- What a slot is restored to: its stored node, else the first vacant id stored for it, else an
empty slot at the generation `floor`. -/
def restoredSlot (nodes : List Node) (vacant : List NodeId) (floor : UInt32) (index : Nat) : Slot :=
  match nodes.find? fun n => n.id.index.toNat = index with
  | some n => ⟨n.id.generation, some n⟩
  | none =>
    match vacant.find? fun id => id.index.toNat = index with
    | some id => ⟨id.generation, none⟩
    | none => ⟨floor, none⟩

/-- Rebuilds an arena from stored nodes and the ids that its vacant slots would issue next. Slots
that neither mentions, of which there may be only so many, start past every stored generation. The
lowest vacant slot is used first. -/
def restore (nodes : List Node) (vacant : List NodeId) : Except GraphError Arena :=
  let ids := nodes.map Node.id ++ vacant
  let limit := nodes.length + vacant.length + maxGap
  match ids.find? fun id => limit ≤ id.index.toNat with
  | some id => .error (.indexOutOfRange id limit)
  | none =>
    match firstClash [] nodes with
    | some n => .error (.duplicateNode n.id)
    | none =>
      let size := ids.foldl (fun m id => max m (id.index.toNat + 1)) 0
      let floor := ids.foldl (fun m id => max m (nextGeneration id.generation)) 0
      let slots := (List.range size).map (restoredSlot nodes vacant floor)
      let free := slots.zipIdx.filterMap fun e =>
        if e.1.node.isNone then some (UInt32.ofNat e.2) else none
      .ok ⟨slots, free, nodes.length⟩

end Arena

end ScriptGraph
