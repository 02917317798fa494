import ScriptGraph.Proofs.Scenarios

/-! The graph that a plan describes, written down at once: its nodes fill the slots one after
another, its connections lead between the last nodes of the keys that they name. Setting the plan up
edit by edit ends in this graph, and it fails if and only if the plan names something that is not
there or joins ports that do not fit. -/
namespace ScriptGraph

namespace Session

variable {s t : Session} {entity : EntityId} {g : Graph}

/-- The session with a graph of the entity. -/
def holding (s : Session) (entity : EntityId) (g : Graph) : Session :=
  { s with store := ⟨s.store.graphs.insert entity g⟩ }

lemma edit_holding {α : Type} (s : Session) (entity : EntityId) (g : Graph)
    (f : Graph → Except GraphError (α × Graph)) :
    (s.holding entity g).edit entity f = (f g).map fun r => (r.1, s.holding entity r.2) := by
  have hfound : (s.holding entity g).store.get? entity = some g := by
    rw [Store.get?, holding, Table.find?_insert, if_pos rfl]
  unfold edit Store.edit Store.require
  have hmodify (h : Graph) : (s.holding entity g).store.modify entity (fun _ => h) =
      (s.holding entity h).store := congrArg Store.mk (Table.modify_insert _ _ _ _)
  simp only [hfound, bind, Except.bind, pure, Except.pure, hmodify]
  cases f g <;> rfl

lemma amend_holding (s : Session) (entity : EntityId) (g : Graph)
    (f : Graph → Except GraphError Graph) :
    (s.holding entity g).amend entity f = (f g).map (s.holding entity) := by
  rw [amend, edit_holding]
  cases f g <;> rfl

lemma createGraph_eq_ok_iff {id : GraphId} :
    s.createGraph id entity = .ok t ↔
      entity ∉ s.store.graphs.keys ∧ t = s.holding entity (.empty id entity) := by
  unfold createGraph Store.create Store.insert Store.contains
  by_cases hm : entity ∈ s.store.graphs.keys
  · simp [Graph.empty, Table.contains, hm, bind, Except.bind]
  · simp [Graph.empty, Table.contains, hm, bind, Except.bind, pure, Except.pure, holding, eq_comm]

end Session

namespace IdSource

/-- The source once that many ids have been drawn. -/
def skip (ids : IdSource) (count : Nat) : IdSource := { ids with used := ids.used + count }

lemma advance_skip (ids : IdSource) (count : Nat) :
    (ids.skip count).advance = ids.skip (count + 1) :=
  rfl

lemma skip_skip (ids : IdSource) (m n : Nat) : (ids.skip m).skip n = ids.skip (m + n) := by
  simp [skip, Nat.add_assoc]

end IdSource

/-- The properties after some writes to those that are there. -/
def overwrite (properties : Properties) (writes : List (String × Value)) : Properties :=
  writes.foldl (fun t p => setExisting t p.1 p.2) properties

lemma overwrite_concat (properties : Properties) (writes : List (String × Value))
    (p : String × Value) :
    overwrite properties (writes ++ [p]) = setExisting (overwrite properties writes) p.1 p.2 :=
  List.foldl_append

lemma overwrite_eq (properties : Properties) (writes : List (String × Value)) :
    overwrite properties writes =
      properties.map fun name value => ((Table.ofList writes).find? name).getD value := by
  induction writes using List.reverseRecOn with
  | nil => exact Table.ext_entries (by simp [overwrite, Table.ofList, Table.insertAll, Table.find?])
  | append_singleton writes p ih =>
    rw [overwrite_concat, ih, Table.ofList_concat]
    refine Table.ext_find? (by simp) fun name => ?_
    simp only [setExisting, Table.find?_modify, Table.find?_map, Table.find?_insert]
    by_cases hname : name = p.1
    · simp [hname, Function.comp_def]
    · simp [hname]

lemma keys_overwrite (properties : Properties) (writes : List (String × Value)) :
    (overwrite properties writes).keys = properties.keys := by
  rw [overwrite_eq, Table.keys_map]

namespace Scenario

/-- The id of the first node in a slot. -/
def slotId (place : Nat) : NodeId := ⟨UInt32.ofNat place, 0⟩

namespace NodePlan

/-- The properties of the planned node: the declared ones at their defaults, overwritten by the
planned values and then by the entities of the given names. -/
def table (names : Table String EntityId) (n : NodePlan) : Properties :=
  match Registry.builtins.lookup n.typeName with
  | none => .empty
  | some t => t.properties.map fun name decl =>
    ((n.objects.find? name).map fun target => Value.object (names.find? target)).getD
      ((n.properties.find? name).getD decl.default)

/-- The type is a built-in one, it declares all properties that are given, and the entities that
are named are among these. -/
def Fits (entities : List String) (n : NodePlan) : Prop :=
  ∃ t, Registry.builtins.lookup n.typeName = some t ∧
    (∀ name ∈ n.properties.keys, name ∈ t.properties.keys) ∧
    ∀ name target, (name, target) ∈ n.objects.entries →
      name ∈ t.properties.keys ∧ target ∈ entities

def node (names : Table String EntityId) (n : NodePlan) (place : Nat) : Node :=
  ⟨slotId place, n.typeName, n.position, n.table names⟩

end NodePlan

end Scenario

/-- The graph with one more node of a plan, in the slot that comes next. -/
def Graph.planted (g : Graph) (n : Scenario.NodePlan) (properties : Properties) : Graph :=
  { g with nodes := (g.nodes.insert fun id => ⟨id, n.typeName, n.position, properties⟩).2 }

namespace Scenario

variable {names : Table String EntityId} {entity : EntityId} {s t : Session} {ids : IdSource}
  {g h : Graph} {n : NodePlan} {properties : Properties}

section Planted

variable (hfree : g.nodes.free = []) (hsize : g.nodes.slots.length < 2 ^ 32)
include hfree hsize

lemma setProperty_planted {name : String} {value : Value} :
    (g.planted n properties).setProperty (slotId g.nodes.slots.length) name value = .ok h ↔
      name ∈ properties.keys ∧ h = g.planted n (setExisting properties name value) := by
  -- No slot is vacant, so the node that was planted last is in the last one.
  have hid (build : NodeId → Node) :
      slotId g.nodes.slots.length = (g.nodes.insert build).1 := by
    rw [Arena.insert_of_nil hfree, slotId]
  have hnode := Arena.get?_insert_of_nil hfree hsize
    fun id => ⟨id, n.typeName, n.position, properties⟩
  have hmodify := Arena.modify_insert_of_nil hfree hsize
    (fun id => ⟨id, n.typeName, n.position, properties⟩) fun n => n.setProperty name value
  rw [← hid] at hnode hmodify
  unfold Graph.setProperty Graph.requireNode Graph.node? Graph.modifyNode Graph.planted
  simp only [hnode, hmodify, bind, Except.bind, Table.contains, decide_eq_true_eq]
  by_cases hname : name ∈ properties.keys
  · simp [hname, Node.setProperty, eq_comm]
  · simp [hname]

lemma setValue_planted {p : String × Value} :
    setValue entity (slotId g.nodes.slots.length) (s.holding entity (g.planted n properties)) p =
        .ok t ↔
      p.1 ∈ properties.keys ∧
        t = s.holding entity (g.planted n (setExisting properties p.1 p.2)) := by
  rw [setValue, edited_eq_ok, Session.setProperty, Session.amend_holding, map_eq_ok_iff]
  constructor
  · rintro ⟨h, hset, rfl⟩
    obtain ⟨hname, rfl⟩ := (setProperty_planted hfree hsize).mp hset
    exact ⟨hname, rfl⟩
  · rintro ⟨hname, rfl⟩
    exact ⟨_, (setProperty_planted hfree hsize).mpr ⟨hname, rfl⟩, rfl⟩

lemma setObject_planted {p : String × String} :
    setObject names entity (slotId g.nodes.slots.length)
        (s.holding entity (g.planted n properties)) p = .ok t ↔
      (p.1 ∈ properties.keys ∧ p.2 ∈ names.keys) ∧ t = s.holding entity
        (g.planted n (setExisting properties p.1 (.object (names.find? p.2)))) := by
  rw [setObject, bind_eq_ok]
  constructor
  · rintro ⟨target, htarget, hset⟩
    have hfound := findEntity_eq_ok.mp htarget
    obtain ⟨hname, rfl⟩ :=
      (setValue_planted hfree hsize (p := (p.1, .object (some target)))).mp hset
    exact ⟨⟨hname, Table.mem_keys_iff_find?.mpr ⟨target, hfound⟩⟩, by rw [hfound]⟩
  · rintro ⟨⟨hname, hdeclared⟩, rfl⟩
    obtain ⟨target, hfound⟩ := Table.mem_keys_iff_find?.mp hdeclared
    refine ⟨target, findEntity_eq_ok.mpr hfound, ?_⟩
    rw [hfound]
    exact (setValue_planted hfree hsize (p := (p.1, .object (some target)))).mpr ⟨hname, rfl⟩

lemma setValues_planted {writes : List (String × Value)} :
    writes.foldlM (setValue entity (slotId g.nodes.slots.length))
        (s.holding entity (g.planted n properties)) = .ok t ↔
      (∀ p ∈ writes, p.1 ∈ properties.keys) ∧
        t = s.holding entity (g.planted n (overwrite properties writes)) := by
  refine foldlM_eq_ok_iff_forall
    (fun done => s.holding entity (g.planted n (overwrite properties done))) ?_
  intro done p _ _ t
  rw [setValue_planted hfree hsize, keys_overwrite, overwrite_concat]

lemma setObjects_planted {writes : List (String × String)} :
    writes.foldlM (setObject names entity (slotId g.nodes.slots.length))
        (s.holding entity (g.planted n properties)) = .ok t ↔
      (∀ p ∈ writes, p.1 ∈ properties.keys ∧ p.2 ∈ names.keys) ∧
        t = s.holding entity (g.planted n (overwrite properties
          (writes.map fun p => (p.1, .object (names.find? p.2))))) := by
  refine foldlM_eq_ok_iff_forall (fun done : List (String × String) => s.holding entity
    (g.planted n (overwrite properties (done.map fun p => (p.1, .object (names.find? p.2)))))) ?_
  intro done p _ _ t
  rw [setObject_planted hfree hsize, keys_overwrite, List.map_append, List.map_singleton,
    overwrite_concat]

end Planted

lemma overwrite_seed {t : NodeType} (ht : Registry.builtins.lookup n.typeName = some t) :
    overwrite (overwrite (t.seed .empty) n.properties.entries)
        (n.objects.entries.map fun p => (p.1, Value.object (names.find? p.2))) = n.table names := by
  have hobjects : (n.objects.entries.map fun p => (p.1, Value.object (names.find? p.2))) =
      (n.objects.map fun _ target => Value.object (names.find? target)).entries := rfl
  have hempty (name : String) : (Table.empty : Properties).find? name = none := rfl
  rw [hobjects, overwrite_eq, overwrite_eq, Table.ofList_entries, Table.ofList_entries,
    NodePlan.table, ht]
  refine Table.ext_find? (by simp) fun name => ?_
  simp [NodeType.seed, hempty, Function.comp_def]

lemma sessionAddNode_eq_ok_iff (hr : s.registry = .builtins) (hfree : g.nodes.free = [])
    {r : NodeId × Session} :
    (s.holding entity g).addNode entity n.typeName n.position = .ok r ↔
      ∃ t, Registry.builtins.lookup n.typeName = some t ∧
        r = (slotId g.nodes.slots.length, s.holding entity (g.planted n (t.seed .empty))) := by
  have hregistry : (s.holding entity g).registry = .builtins := hr
  rw [Session.addNode, Session.edit_holding, hregistry]
  unfold Graph.addNode
  cases Registry.builtins.lookup n.typeName with
  | none => simp [Except.map]
  | some t => simp [Except.map, Arena.insert_of_nil hfree, slotId, Graph.planted, eq_comm]

lemma addNode_eq_ok_iff (hr : s.registry = .builtins) (hfree : g.nodes.free = [])
    (hsize : g.nodes.slots.length < 2 ^ 32) {keys : Table String NodeId}
    {r : Table String NodeId × Session} :
    addNode names entity (keys, s.holding entity g) n = .ok r ↔ n.Fits names.keys ∧
      r = (keys.insert n.key (slotId g.nodes.slots.length),
        s.holding entity (g.planted n (n.table names))) := by
  rw [addNode, bind_eq_ok]
  constructor
  · rintro ⟨⟨id, added⟩, hadd, ok⟩
    obtain ⟨valued, hvalues, ok⟩ := bind_eq_ok.mp ok
    obtain ⟨done, hobjects, ok⟩ := bind_eq_ok.mp ok
    obtain ⟨t, ht, heq⟩ := (sessionAddNode_eq_ok_iff hr hfree).mp (edited_eq_ok.mp hadd)
    obtain ⟨rfl, rfl⟩ := Prod.mk.inj heq
    obtain ⟨hfirst, rfl⟩ := (setValues_planted hfree hsize).mp hvalues
    obtain ⟨hsecond, rfl⟩ := (setObjects_planted hfree hsize).mp hobjects
    rw [overwrite_seed ht] at ok
    refine ⟨⟨t, ht, fun name hname => ?_, fun name target hmem => ?_⟩, (Except.ok.inj ok).symm⟩
    · obtain ⟨value, hvalue⟩ := Table.mem_keys.mp hname
      simpa using hfirst (name, value) hvalue
    · simpa [keys_overwrite] using hsecond (name, target) hmem
  · rintro ⟨⟨t, ht, hfirst, hsecond⟩, rfl⟩
    have hvalues : ∀ p ∈ n.properties.entries, p.1 ∈ (t.seed .empty).keys := by
      intro p hp
      rw [NodeType.keys_seed]
      exact hfirst p.1 (Table.mem_keys.mpr ⟨p.2, hp⟩)
    have hobjects : ∀ p ∈ n.objects.entries,
        p.1 ∈ (overwrite (t.seed .empty) n.properties.entries).keys ∧ p.2 ∈ names.keys := by
      intro p hp
      rw [keys_overwrite, NodeType.keys_seed]
      exact hsecond p.1 p.2 hp
    refine ⟨_, edited_eq_ok.mpr ((sessionAddNode_eq_ok_iff hr hfree).mpr ⟨t, ht, rfl⟩), ?_⟩
    refine bind_eq_ok.mpr ⟨_, (setValues_planted hfree hsize).mpr ⟨hvalues, rfl⟩, ?_⟩
    refine bind_eq_ok.mpr ⟨_, (setObjects_planted hfree hsize).mpr ⟨hobjects, rfl⟩, ?_⟩
    rw [overwrite_seed ht]
    rfl

namespace GraphPlan

/-- The arena once these nodes have been put into it. -/
def arena (names : Table String EntityId) (nodes : List NodePlan) : Arena where
  slots := nodes.zipIdx.map fun e => ⟨0, some (e.1.node names e.2)⟩
  free := []
  count := nodes.length

/-- The last node of that key, and its place. -/
def carrier? (g : GraphPlan) (key : String) : Option (NodePlan × Nat) :=
  g.nodes.zipIdx.reverse.find? fun e => e.1.key = key

def nodeId? (g : GraphPlan) (key : String) : Option NodeId :=
  (g.carrier? key).map fun e => slotId e.2

def connection (g : GraphPlan) (id : ConnectionId) (l : LinkPlan) : Connection where
  id := id
  source := (g.nodeId? l.source).getD default
  sourcePort := l.sourcePort
  target := (g.nodeId? l.target).getD default
  targetPort := l.targetPort

/-- Connections for these links, under ids drawn one after another. -/
def connections (g : GraphPlan) (ids : IdSource) (links : List LinkPlan) :
    Table ConnectionId Connection :=
  .ofList (links.zipIdx.map fun e =>
    (⟨(ids.skip e.2).next⟩, g.connection ⟨(ids.skip e.2).next⟩ e.1))

/-- The graph of the plan, its id drawn before those of its connections. -/
def graph (g : GraphPlan) (names : Table String EntityId) (ids : IdSource) (entity : EntityId) :
    Graph where
  id := ⟨ids.next⟩
  entity := entity
  nodes := arena names g.nodes
  connections := g.connections ids.advance g.links
  vars := g.vars

/-- The keys are those of nodes, whose types declare ports that fit. -/
def Joins (g : GraphPlan) (l : LinkPlan) : Prop :=
  ∃ source target s t output input,
    g.carrier? l.source = some source ∧ g.carrier? l.target = some target ∧
    Registry.builtins.lookup source.1.typeName = some s ∧
    Registry.builtins.lookup target.1.typeName = some t ∧
    s.output? l.sourcePort = some output ∧ t.input? l.targetPort = some input ∧
    output.connectsTo input = true

structure Fits (g : GraphPlan) (entities : List String) : Prop where
  nodes : ∀ n ∈ g.nodes, n.Fits entities
  links : ∀ l ∈ g.links, g.Joins l

/-- What each key names once these nodes have been added. -/
def keys (nodes : List NodePlan) : Table String NodeId :=
  .ofList (nodes.zipIdx.map fun e => (e.1.key, slotId e.2))

lemma find?_keys (plan : GraphPlan) (key : String) :
    (keys plan.nodes).find? key = plan.nodeId? key := by
  rw [keys, Table.find?_ofList, nodeId?, carrier?, ← List.map_reverse, List.find?_map,
    Option.map_map]
  rfl

lemma getElem?_of_carrier? {plan : GraphPlan} {key : String} {e : NodePlan × Nat}
    (h : plan.carrier? key = some e) : plan.nodes[e.2]? = some e.1 :=
  List.mem_zipIdx_iff_getElem?.mp (List.mem_reverse.mp (List.mem_of_find?_eq_some h))

lemma zipIdx_concat {α : Type} (l : List α) (a : α) :
    (l ++ [a]).zipIdx = l.zipIdx ++ [(a, l.length)] := by
  simp [List.zipIdx_append]

lemma arena_concat (names : Table String EntityId) (nodes : List NodePlan) (n : NodePlan) :
    arena names (nodes ++ [n]) = ((arena names nodes).insert fun id =>
      ⟨id, n.typeName, n.position, n.table names⟩).2 := by
  rw [Arena.insert_of_nil rfl]
  simp [arena, zipIdx_concat, NodePlan.node, slotId]

end GraphPlan

open GraphPlan

variable {plan : GraphPlan} {owner : String}

lemma addNodes_eq_ok_iff (hr : s.registry = .builtins) (hsize : plan.nodes.length ≤ 2 ^ 32)
    {id : GraphId} {r : Table String NodeId × Session} :
    plan.nodes.foldlM (addNode names entity) (.empty, s.holding entity (.empty id entity)) =
        .ok r ↔
      (∀ n ∈ plan.nodes, n.Fits names.keys) ∧ r = (keys plan.nodes,
        s.holding entity ⟨id, entity, arena names plan.nodes, .empty, .empty⟩) := by
  refine foldlM_eq_ok_iff_forall (fun done =>
    (keys done, s.holding entity ⟨id, entity, arena names done, .empty, .empty⟩)) ?_
  intro done n rest hl r
  have hlength : (arena names done).slots.length = done.length := by simp [arena]
  -- The place of the new node is an index, so the writes that follow find the node there.
  have hroom : done.length < 2 ^ 32 := by
    have hlen := congrArg List.length hl
    simp only [List.length_append, List.length_cons] at hlen
    omega
  rw [addNode_eq_ok_iff hr rfl (by simpa only [hlength] using hroom)]
  simp [keys, zipIdx_concat, Table.ofList_concat, arena_concat, Graph.planted, hlength]

lemma typeOf?_slotId (hsize : plan.nodes.length ≤ 2 ^ 32)
    (hg : g.nodes = arena names plan.nodes) {place : Nat} (hn : plan.nodes[place]? = some n) :
    g.typeOf? .builtins (slotId place) = Registry.builtins.lookup n.typeName := by
  have hindex : (slotId place).index.toNat = place := by
    refine UInt32.toNat_ofNat_of_lt' (Nat.lt_of_lt_of_le ?_ hsize)
    exact (List.getElem?_eq_some_iff.mp hn).1
  have hnode : g.node? (slotId place) = some (n.node names place) := by
    rw [Graph.node?, hg, Arena.get?_eq_some_iff, hindex]
    exact ⟨⟨0, some (n.node names place)⟩, by simp [arena, hn], rfl, rfl⟩
  rw [Graph.typeOf?, hnode]
  rfl

/-- A link is accepted between the last nodes of its keys if it joins ports that fit. -/
lemma joins_iff (hsize : plan.nodes.length ≤ 2 ^ 32) (hg : g.nodes = arena names plan.nodes)
    {l : LinkPlan} :
    plan.Joins l ↔ ∃ source target, plan.nodeId? l.source = some source ∧
      plan.nodeId? l.target = some target ∧
        g.checkLink .builtins source l.sourcePort target l.targetPort = .ok () := by
  constructor
  · rintro ⟨source, target, s, t, output, input, hsource, htarget, hs, ht, hports⟩
    refine ⟨slotId source.2, slotId target.2, by simp [nodeId?, hsource],
      by simp [nodeId?, htarget], ?_⟩
    have hs' := typeOf?_slotId hsize hg (getElem?_of_carrier? hsource)
    have ht' := typeOf?_slotId hsize hg (getElem?_of_carrier? htarget)
    exact Graph.checkLink_eq_ok_iff.mpr
      ⟨s, t, output, input, hs'.trans hs, ht'.trans ht, hports⟩
  · rintro ⟨_, _, hfrom, hto, hlink⟩
    obtain ⟨source, hsource, rfl⟩ := Option.map_eq_some_iff.mp hfrom
    obtain ⟨target, htarget, rfl⟩ := Option.map_eq_some_iff.mp hto
    obtain ⟨s, t, output, input, hs, ht, hports⟩ := Graph.checkLink_eq_ok_iff.mp hlink
    have hs' := typeOf?_slotId hsize hg (getElem?_of_carrier? hsource)
    have ht' := typeOf?_slotId hsize hg (getElem?_of_carrier? htarget)
    exact ⟨source, target, s, t, output, input, hsource, htarget, hs'.symm.trans hs,
      ht'.symm.trans ht, hports⟩

lemma findNode_eq_ok {nodes : Table String NodeId} {key : String} {id : NodeId} :
    findNode owner nodes key = .ok id ↔ nodes.find? key = some id := by
  unfold findNode
  cases nodes.find? key <;> simp

lemma sessionConnect_eq_ok_iff (hr : s.registry = .builtins) {id : ConnectionId}
    {source target : NodeId} {sourcePort targetPort : String} :
    (s.holding entity g).connect id entity source sourcePort target targetPort = .ok t ↔
      g.checkLink .builtins source sourcePort target targetPort = .ok () ∧
        t = s.holding entity { g with
          connections :=
            g.connections.insert id ⟨id, source, sourcePort, target, targetPort⟩ } := by
  have hregistry : (s.holding entity g).registry = .builtins := hr
  rw [Session.connect, Session.amend_holding, hregistry]
  unfold Graph.connect
  cases g.checkLink .builtins source sourcePort target targetPort with
  | error e => simp [Except.map]
  | ok => simp [Except.map, eq_comm]

lemma addLink_eq_ok_iff (hr : s.registry = .builtins) (hsize : plan.nodes.length ≤ 2 ^ 32)
    (hg : g.nodes = arena names plan.nodes) {l : LinkPlan} {r : Session × IdSource} :
    addLink owner entity (keys plan.nodes) (s.holding entity g, ids) l = .ok r ↔
      plan.Joins l ∧ r = (s.holding entity {
        g with connections := g.connections.insert ⟨ids.next⟩ (plan.connection ⟨ids.next⟩ l) },
        ids.advance) := by
  rw [joins_iff hsize hg, addLink, bind_eq_ok]
  constructor
  · rintro ⟨source, hsource, ok⟩
    obtain ⟨target, htarget, ok⟩ := bind_eq_ok.mp ok
    obtain ⟨linked, hlinked, ok⟩ := bind_eq_ok.mp ok
    rw [findNode_eq_ok, find?_keys] at hsource htarget
    obtain ⟨hlink, rfl⟩ := (sessionConnect_eq_ok_iff hr).mp (edited_eq_ok.mp hlinked)
    refine ⟨⟨source, target, hsource, htarget, hlink⟩, ?_⟩
    rw [← Except.ok.inj ok, connection, hsource, htarget]
    rfl
  · rintro ⟨⟨source, target, hsource, htarget, hlink⟩, rfl⟩
    have hfrom : findNode owner (keys plan.nodes) l.source = .ok source := by
      rw [findNode_eq_ok, find?_keys, hsource]
    have hto : findNode owner (keys plan.nodes) l.target = .ok target := by
      rw [findNode_eq_ok, find?_keys, htarget]
    refine ⟨source, hfrom, bind_eq_ok.mpr ⟨target, hto, bind_eq_ok.mpr ⟨_, ?_, rfl⟩⟩⟩
    refine edited_eq_ok.mpr ((sessionConnect_eq_ok_iff hr).mpr ⟨hlink, ?_⟩)
    rw [connection, hsource, htarget]
    rfl

lemma addLinks_eq_ok_iff (hr : s.registry = .builtins) (hsize : plan.nodes.length ≤ 2 ^ 32)
    {id : GraphId} {r : Session × IdSource} :
    plan.links.foldlM (addLink owner entity (keys plan.nodes))
        (s.holding entity ⟨id, entity, arena names plan.nodes, .empty, .empty⟩, ids) = .ok r ↔
      (∀ l ∈ plan.links, plan.Joins l) ∧ r = (s.holding entity
        ⟨id, entity, arena names plan.nodes, plan.connections ids plan.links, .empty⟩,
        ids.skip plan.links.length) := by
  refine foldlM_eq_ok_iff_forall (fun done => (s.holding entity
    ⟨id, entity, arena names plan.nodes, plan.connections ids done, .empty⟩,
    ids.skip done.length)) ?_
  intro done l rest _ r
  rw [addLink_eq_ok_iff hr hsize rfl]
  simp [GraphPlan.connections, zipIdx_concat, Table.ofList_concat, IdSource.advance_skip]

lemma addVariable_eq_ok_iff {p : String × Value} :
    addVariable entity (s.holding entity g) p = .ok t ↔
      t = s.holding entity (g.setVariable p.1 p.2) := by
  rw [addVariable, Session.setVariable, Session.edit_holding]
  simp [edited, Except.map, bind, Except.bind, pure, Except.pure, eq_comm]

lemma addVariables_eq_ok_iff {id : GraphId} {nodes : Arena}
    {connections : Table ConnectionId Connection} {vars : Variables} :
    vars.entries.foldlM (addVariable entity)
        (s.holding entity ⟨id, entity, nodes, connections, .empty⟩) = .ok t ↔
      t = s.holding entity ⟨id, entity, nodes, connections, vars⟩ := by
  have hfold := foldlM_eq_ok_iff_forall (f := addVariable entity) (l := vars.entries) (t := t)
    (fun done => s.holding entity ⟨id, entity, nodes, connections, .ofList done⟩)
    fun done p _ _ t => by
      rw [addVariable_eq_ok_iff, Table.ofList_concat, ← true_and (t = _)]
      exact Iff.rfl
  rw [Table.ofList_entries] at hfold
  exact hfold.trans (and_iff_right fun _ _ => trivial)

/-- Setting up a plan succeeds if its entity is known and has no graph yet and the plan fits, and
it attaches the graph of the plan. -/
theorem addGraph_eq_ok_iff (hr : s.registry = .builtins) (hsize : plan.nodes.length ≤ 2 ^ 32)
    {r : Session × IdSource} :
    addGraph names (s, ids) plan = .ok r ↔ ∃ entity, names.find? plan.entity = some entity ∧
      entity ∉ s.store.graphs.keys ∧ plan.Fits names.keys ∧
        r = (s.holding entity (plan.graph names ids entity), ids.skip (1 + plan.links.length)) := by
  rw [addGraph, bind_eq_ok]
  constructor
  · rintro ⟨entity, hentity, ok⟩
    obtain ⟨created, hcreated, ok⟩ := bind_eq_ok.mp ok
    obtain ⟨⟨nodes, filled⟩, hnodes, ok⟩ := bind_eq_ok.mp ok
    obtain ⟨⟨linked, ids'⟩, hlinks, ok⟩ := bind_eq_ok.mp ok
    obtain ⟨done, hvars, ok⟩ := bind_eq_ok.mp ok
    obtain ⟨hnew, rfl⟩ := Session.createGraph_eq_ok_iff.mp (edited_eq_ok.mp hcreated)
    obtain ⟨hfit, heq⟩ := (addNodes_eq_ok_iff hr hsize).mp hnodes
    obtain ⟨rfl, rfl⟩ := Prod.mk.inj heq
    obtain ⟨hjoin, heq⟩ := (addLinks_eq_ok_iff hr hsize).mp hlinks
    obtain ⟨rfl, rfl⟩ := Prod.mk.inj heq
    obtain rfl := addVariables_eq_ok_iff.mp hvars
    refine ⟨entity, findEntity_eq_ok.mp hentity, hnew, ⟨hfit, hjoin⟩, ?_⟩
    rw [← Except.ok.inj ok, ← IdSource.skip_skip]
    rfl
  · rintro ⟨entity, hentity, hnew, hfits, rfl⟩
    have hcreated : edited (s.createGraph ⟨ids.next⟩ entity) =
        .ok (s.holding entity (.empty ⟨ids.next⟩ entity)) :=
      edited_eq_ok.mpr (Session.createGraph_eq_ok_iff.mpr ⟨hnew, rfl⟩)
    refine ⟨entity, findEntity_eq_ok.mpr hentity, bind_eq_ok.mpr ⟨_, hcreated, ?_⟩⟩
    refine bind_eq_ok.mpr ⟨_, (addNodes_eq_ok_iff hr hsize).mpr ⟨hfits.nodes, rfl⟩, ?_⟩
    refine bind_eq_ok.mpr ⟨_, (addLinks_eq_ok_iff hr hsize).mpr ⟨hfits.links, rfl⟩, ?_⟩
    refine bind_eq_ok.mpr ⟨_, addVariables_eq_ok_iff.mpr rfl, ?_⟩
    rw [← IdSource.skip_skip]
    rfl

end Scenario

end ScriptGraph
