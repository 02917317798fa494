import ScriptGraph.Proofs.Calls

/-! Requests carried out in place. A program checks and writes one thing after the other, a check
may end it, and what it wrote before that stays written. The requests that a session can refuse are
given as such programs, and each is shown to come to what the session's own operation says. So a
refused request leaves no trace, although some of them write before they check. -/
namespace ScriptGraph

/-- A program that works on a state. One that fails does so with the state it has come to. -/
abbrev InPlace (σ α : Type) := EStateM GraphError σ α

namespace InPlace

variable {σ τ α : Type}

/-- What a look-up found, or the failure to find it. -/
def demand (found : Option α) (e : GraphError) : InPlace σ α :=
  match found with
  | some a => pure a
  | none => throw e

/-- A result that was worked out apart from the state. -/
def settle (x : Except GraphError α) : InPlace σ α :=
  match x with
  | .ok a => pure a
  | .error e => throw e

def write (f : σ → σ) : InPlace σ Unit := fun s => .ok () (f s)

/-- Works on a part of the state. What becomes of the part is put back after a failure too. -/
def focus (part : σ → τ) (put : τ → σ → σ) (op : InPlace τ α) : InPlace σ α := fun s =>
  match op (part s) with
  | .ok a t => .ok a (put t s)
  | .error e t => .error e (put t s)

end InPlace

open InPlace

/-- Takes the node out of its slot, whether there is one or not, and then vacates the slot if there
was one. -/
def Arena.vacate (id : NodeId) : InPlace Arena (Option Node) := do
  let a ← get
  match a.slot? id.index with
  | none => return none
  | some slot =>
    if slot.generation = id.generation then
      write fun a =>
        { a with slots := a.slots.modify id.index.toNat fun s => { s with node := none } }
      match slot.node with
      | none => return none
      | some node =>
        write fun a => {
          slots := a.slots.modify id.index.toNat fun s => { s with generation := s.generation + 1 }
          free := id.index :: a.free
          count := a.count - 1 }
        return some node
    else return none

namespace Graph

variable {α : Type}

def onNodes (op : InPlace Arena α) : InPlace Graph α :=
  focus Graph.nodes (fun nodes g => { g with nodes := nodes }) op

def addNodeInPlace (registry : Registry) (typeName : String) (position : Point) :
    InPlace Graph NodeId := do
  let t ← demand (registry.lookup typeName) (.unknownNodeType typeName)
  onNodes fun a =>
    let added := a.insert fun id => ⟨id, typeName, position, t.seed .empty⟩
    .ok added.1 added.2

def removeNodeInPlace (id : NodeId) : InPlace Graph Node := do
  let node ← demand (← onNodes (Arena.vacate id)) (.unknownNode id)
  write fun g => { g with connections := g.connections.filter fun _ c => !c.involves id }
  return node

def connectInPlace (registry : Registry) (id : ConnectionId) (source : NodeId)
    (sourcePort : String) (target : NodeId) (targetPort : String) : InPlace Graph ConnectionId := do
  settle ((← get).checkLink registry source sourcePort target targetPort)
  write fun g =>
    { g with connections := g.connections.insert id ⟨id, source, sourcePort, target, targetPort⟩ }
  return id

/-- Erases the connection, and fails afterwards if there was none. -/
def disconnectInPlace (id : ConnectionId) : InPlace Graph Unit := do
  let found := (← get).connections.find? id
  write fun g => { g with connections := g.connections.erase id }
  let _ ← demand found (.unknownConnection id)

/-- Writes the property if the node has it, and fails afterwards if it has not. -/
def setPropertyInPlace (id : NodeId) (name : String) (value : Value) : InPlace Graph Unit := do
  let node ← demand ((← get).node? id) (.unknownNode id)
  write fun g => g.modifyNode id fun n => n.setProperty name value
  if node.properties.contains name then return () else throw (.unknownProperty id name)

def setVariableInPlace (name : String) (value : Value) : InPlace Graph (Option Value) := do
  let old := (← get).vars.find? name
  write fun g => g.setVariable name value
  return old

end Graph

namespace Store

variable {α : Type}

/-- Works on the graph of an entity. -/
def within (entity : EntityId) (op : InPlace Graph α) : InPlace Store α := do
  let g ← demand ((← get).get? entity) (.noGraph entity)
  focus (fun _ => g) (fun h s => s.modify entity fun _ => h) op

def insertInPlace (g : Graph) : InPlace Store Unit := do
  if (← get).contains g.entity then throw (.graphExists g.entity)
  write fun s => ⟨s.graphs.insert g.entity g⟩

end Store

namespace Session

/-- A request that a session may refuse, and what it answers with. Ids that it would mint are given
with it. -/
inductive Request : Type → Type
  | createGraph (id : GraphId) (entity : EntityId) : Request GraphId
  | addNode (entity : EntityId) (typeName : String) (position : Point) : Request NodeId
  | removeNode (entity : EntityId) (node : NodeId) : Request Node
  | connect (id : ConnectionId) (entity : EntityId) (source : NodeId) (sourcePort : String)
      (target : NodeId) (targetPort : String) : Request ConnectionId
  | disconnect (entity : EntityId) (id : ConnectionId) : Request Unit
  | setProperty (entity : EntityId) (node : NodeId) (name : String) (value : Value) : Request Unit
  | setVariable (entity : EntityId) (name : String) (value : Value) : Request (Option Value)
  | save (entity : EntityId) : Request Snapshot
  | load (p : Snapshot) : Request (List GraphError)

variable {α : Type}

def onStore (op : InPlace Store α) : InPlace Session α :=
  focus Session.store (fun store s => { s with store := store }) op

/-- What the operations of a session make of a request. -/
def answer (s : Session) : Request α → Except GraphError (α × Session)
  | .createGraph id entity => (s.createGraph id entity).map fun t => (id, t)
  | .addNode entity typeName position => s.addNode entity typeName position
  | .removeNode entity node => s.removeNode entity node
  | .connect id entity source sourcePort target targetPort =>
    (s.connect id entity source sourcePort target targetPort).map fun t => (id, t)
  | .disconnect entity id => (s.disconnect entity id).map fun r => ((), r.2)
  | .setProperty entity node name value =>
    (s.setProperty entity node name value).map fun t => ((), t)
  | .setVariable entity name value => s.setVariable entity name value
  | .save entity => (s.save entity).map fun p => (p, s)
  | .load p => (s.load p).1

/-- The request as a program on the session. A load takes the old graph of the entity away before it
attaches the new one, which might yet be refused. -/
def Request.inPlace : Request α → InPlace Session α
  | .createGraph id entity => do
    onStore (Store.insertInPlace (.empty id entity))
    return id
  | .addNode entity typeName position => do
    let registry := (← get).registry
    onStore (Store.within entity (Graph.addNodeInPlace registry typeName position))
  | .removeNode entity node => onStore (Store.within entity (Graph.removeNodeInPlace node))
  | .connect id entity source sourcePort target targetPort => do
    let registry := (← get).registry
    onStore (Store.within entity
      (Graph.connectInPlace registry id source sourcePort target targetPort))
  | .disconnect entity id => onStore (Store.within entity (Graph.disconnectInPlace id))
  | .setProperty entity node name value =>
    onStore (Store.within entity (Graph.setPropertyInPlace node name value))
  | .setVariable entity name value =>
    onStore (Store.within entity (Graph.setVariableInPlace name value))
  | .save entity => do
    let g ← demand ((← get).store.get? entity) (.noGraph entity)
    return g.snapshot
  | .load p => do
    let loaded ← settle (p.load (← get).registry).1
    onStore (write fun store => store.detach loaded.graph.entity)
    onStore (Store.insertInPlace loaded.graph)
    return loaded.warnings

end Session

namespace InPlace

variable {σ τ α β : Type}

/-- The program comes to what `f` says, and where `f` refuses it leaves the state as it was. -/
def Follows (op : InPlace σ α) (f : σ → Except GraphError (α × σ)) : Prop :=
  ∀ s, op s =
    match f s with
    | .ok (a, t) => .ok a t
    | .error e => .error e s

lemma bind_apply (x : InPlace σ α) (f : α → InPlace σ β) (s : σ) :
    (x >>= f) s =
      match x s with
      | .ok a t => f a t
      | .error e t => .error e t := by
  change EStateM.bind x f s = _
  unfold EStateM.bind
  cases x s <;> rfl

@[simp] lemma get_apply (s : σ) : (get : InPlace σ σ) s = .ok s s := rfl

@[simp] lemma write_apply (f : σ → σ) (s : σ) : write f s = .ok () (f s) := rfl

@[simp] lemma pure_apply (a : α) (s : σ) : (pure a : InPlace σ α) s = .ok a s := rfl

@[simp] lemma throw_apply (e : GraphError) (s : σ) : (throw e : InPlace σ α) s = .error e s := rfl

@[simp] lemma demand_some (a : α) (e : GraphError) (s : σ) : demand (some a) e s = .ok a s := rfl

@[simp] lemma demand_none (e : GraphError) (s : σ) :
    (demand none e : InPlace σ α) s = .error e s := rfl

@[simp] lemma settle_ok (a : α) (s : σ) : settle (.ok a) s = .ok a s := rfl

@[simp] lemma settle_error (e : GraphError) (s : σ) :
    (settle (.error e) : InPlace σ α) s = .error e s := rfl

namespace Follows

variable {op : InPlace σ α} {f : σ → Except GraphError (α × σ)} {s t : σ} {a : α} {e : GraphError}

lemma of_ok (h : op.Follows f) (ok : f s = .ok (a, t)) : op s = .ok a t := by
  rw [h s, ok]

lemma of_error (h : op.Follows f) (refused : f s = .error e) : op s = .error e s := by
  rw [h s, refused]

lemma refused (h : op.Follows f) (failed : op s = .error e t) : t = s ∧ f s = .error e := by
  rw [h s] at failed
  split at failed
  · cases failed
  · next hf =>
    cases failed
    exact ⟨rfl, hf⟩

end Follows

end InPlace

lemma Arena.vacate_apply (id : NodeId) (a : Arena) :
    Arena.vacate id a =
      match a.remove id with
      | some (node, b) => .ok (some node) b
      | none => .ok none a := by
  unfold vacate remove get?
  cases hs : a.slot? id.index with
  | none => simp [bind_apply, hs]
  | some slot =>
    by_cases hg : slot.generation = id.generation
    · cases hn : slot.node with
      | none =>
        have hslots :
            (a.slots.modify id.index.toNat fun s => { s with node := none }) = a.slots := by
          apply List.ext_getElem?
          intro i
          rw [getElem?_modify_eq_ite]
          split
          · next hi =>
            subst hi
            rw [slot?] at hs
            simp [hs, ← hn]
          · rfl
        simp only [bind_apply, get_apply, hs, hg, if_true, write_apply, hn, hslots, pure_apply,
          Option.map_none]
      | some node =>
        simp only [bind_apply, get_apply, hs, hg, if_true, write_apply, hn, pure_apply,
          List.modify_modify_eq, Option.map_some]
        rfl
    · simp only [bind_apply, get_apply, hs, hg, if_false, pure_apply, Option.map_none]

section NoChange

variable {κ α : Type} [DecidableEq κ]

lemma Table.modify_of_fixed {t : Table κ α} {k : κ} {f : α → α}
    (h : ∀ v, t.find? k = some v → f v = v) : t.modify k f = t := by
  refine ext_find? (keys_modify t k f) fun j => ?_
  rw [find?_modify]
  split
  · next hj =>
    subst hj
    cases hv : t.find? j with
    | none => rfl
    | some v => simp [h v hv]
  · rfl

end NoChange

lemma Node.setProperty_of_notMem {n : Node} {name : String} (h : name ∉ n.properties.keys)
    (value : Value) : n.setProperty name value = n := by
  have hnone := Table.find?_eq_none_iff.mpr h
  have hsame : setExisting n.properties name value = n.properties :=
    Table.modify_of_fixed (by simp [hnone])
  rw [setProperty, hsame]

lemma Graph.modifyNode_of_fixed {g : Graph} {id : NodeId} {n : Node} {f : Node → Node}
    (hn : g.node? id = some n) (hf : f n = n) : g.modifyNode id f = g := by
  obtain ⟨slot, hs, -, hnode⟩ := Arena.get?_eq_some_iff.mp hn
  have hslots : (g.nodes.slots.modify id.index.toNat fun s => { s with node := s.node.map f }) =
      g.nodes.slots := by
    apply List.ext_getElem?
    intro i
    rw [Arena.getElem?_modify_eq_ite]
    split
    · next hi =>
      subst hi
      rw [hs]
      cases slot
      simp_all
    · rfl
  unfold modifyNode Arena.modify
  split
  · rw [hslots]
  · rfl

lemma Store.modify_of_get? {s : Store} {entity : EntityId} {g : Graph}
    (found : s.get? entity = some g) : (s.modify entity fun _ => g) = s := by
  have hgraphs : s.graphs.modify entity (fun _ => g) = s.graphs :=
    Table.modify_of_fixed fun h hh => Option.some.inj (found.symm.trans hh)
  rw [modify, hgraphs]

lemma Store.insert_detach (s : Store) (g : Graph) :
    (s.detach g.entity).insert g = .ok (s.attach g) := by
  have hfree : (s.detach g.entity).contains g.entity = false := by
    simp [contains, detach, Table.contains, Table.erase, Table.keys]
  rw [insert, hfree]
  rfl

namespace Graph

lemma follows_addNode (registry : Registry) (typeName : String) (position : Point) :
    (addNodeInPlace registry typeName position).Follows
      fun g => g.addNode registry typeName position := by
  intro g
  unfold addNodeInPlace addNode
  cases registry.lookup typeName <;> rfl

lemma onNodes_vacate (id : NodeId) (g : Graph) :
    onNodes (Arena.vacate id) g =
      match g.nodes.remove id with
      | some (node, nodes) => .ok (some node) { g with nodes := nodes }
      | none => .ok none g := by
  unfold onNodes focus
  rw [Arena.vacate_apply]
  cases g.nodes.remove id <;> rfl

lemma follows_removeNode (id : NodeId) :
    (removeNodeInPlace id).Follows fun g => g.removeNode id := by
  intro g
  dsimp only [removeNodeInPlace, removeNode]
  rw [bind_apply, onNodes_vacate]
  cases g.nodes.remove id <;> rfl

lemma follows_connect (registry : Registry) (id : ConnectionId) (source : NodeId)
    (sourcePort : String) (target : NodeId) (targetPort : String) :
    (connectInPlace registry id source sourcePort target targetPort).Follows fun g =>
      (g.connect registry id source sourcePort target targetPort).map fun h => (id, h) := by
  intro g
  dsimp only [connectInPlace, connect]
  simp only [bind_apply, get_apply]
  cases g.checkLink registry source sourcePort target targetPort <;> rfl

lemma follows_disconnect (id : ConnectionId) :
    (disconnectInPlace id).Follows fun g => (g.disconnect id).map fun r => ((), r.2) := by
  intro g
  dsimp only [disconnectInPlace, disconnect]
  simp only [bind_apply, get_apply, write_apply]
  cases hc : g.connections.find? id with
  | some c => rfl
  | none =>
    have herase : g.connections.erase id = g.connections :=
      Table.erase_of_notMem (Table.find?_eq_none_iff.mp hc)
    simp only [herase, demand_none, Except.map]

lemma follows_setProperty (id : NodeId) (name : String) (value : Value) :
    (setPropertyInPlace id name value).Follows fun g =>
      (g.setProperty id name value).map fun h => ((), h) := by
  intro g
  dsimp only [setPropertyInPlace, setProperty, requireNode]
  simp only [bind_apply, get_apply, write_apply]
  cases hn : g.node? id with
  | none => rfl
  | some n =>
    cases hk : n.properties.contains name with
    | true => simp [hk, bind, Except.bind, Except.map]
    | false =>
      have hsame : (g.modifyNode id fun n => n.setProperty name value) = g :=
        modifyNode_of_fixed hn
          (Node.setProperty_of_notMem (by simpa [Table.contains] using hk) value)
      simp [hk, hsame, bind, Except.bind, Except.map]

lemma follows_setVariable (name : String) (value : Value) :
    (setVariableInPlace name value).Follows fun g =>
      .ok (g.vars.find? name, g.setVariable name value) := fun _ => rfl

end Graph

namespace Store

variable {α : Type} {op : InPlace Graph α} {f : Graph → Except GraphError (α × Graph)}

lemma follows_within (h : op.Follows f) (entity : EntityId) :
    (within entity op).Follows fun s => s.edit entity f := by
  intro s
  dsimp only [within, edit, require]
  simp only [bind_apply, get_apply]
  cases hg : s.get? entity with
  | none => rfl
  | some g =>
    cases hf : f g with
    | ok r =>
      simp only [demand_some, focus, h.of_ok hf]
      simp [hf, bind, Except.bind, pure, Except.pure]
    | error e =>
      simp only [demand_some, focus, h.of_error hf, modify_of_get? hg]
      simp [hf, bind, Except.bind]

lemma follows_insert (g : Graph) :
    (insertInPlace g).Follows fun s => (s.insert g).map fun t => ((), t) := by
  intro s
  dsimp only [insertInPlace, insert]
  simp only [bind_apply, get_apply]
  cases hc : s.contains g.entity <;> rfl

end Store

namespace Session

variable {α : Type}

lemma follows_onStore {op : InPlace Store α} {f : Store → Except GraphError (α × Store)}
    (h : op.Follows f) :
    (onStore op).Follows fun s => (f s.store).map fun r => (r.1, { s with store := r.2 }) := by
  intro s
  dsimp only [onStore, focus]
  cases hf : f s.store with
  | ok r => simp only [h.of_ok hf, Except.map]
  | error e => simp only [h.of_error hf, Except.map]

lemma follows_edit {op : InPlace Graph α} {f : Graph → Except GraphError (α × Graph)}
    (h : op.Follows f) (entity : EntityId) :
    (onStore (Store.within entity op)).Follows fun s => s.edit entity f := by
  intro s
  rw [follows_onStore (Store.follows_within h entity)]
  dsimp only [edit]
  cases s.store.edit entity f <;> rfl

lemma follows_amend {β : Type} {op : InPlace Graph β} {f : Graph → Except GraphError Graph} {b : β}
    (h : op.Follows fun g => (f g).map fun h => (b, h)) (entity : EntityId) :
    (onStore (Store.within entity op)).Follows fun s => (s.amend entity f).map fun t => (b, t) := by
  intro s
  rw [follows_edit h entity]
  dsimp only [amend, edit, Store.edit]
  cases s.store.require entity with
  | error e => rfl
  | ok g => cases hf : f g <;> simp [hf, bind, Except.bind, Except.map, pure, Except.pure]

/-- Every request, carried out in place, comes to what the session makes of it. -/
theorem follows_request (q : Request α) : q.inPlace.Follows fun s => s.answer q := by
  cases q with
  | createGraph id entity =>
    intro s
    dsimp only [Request.inPlace, answer, createGraph, Store.create]
    rw [bind_apply, follows_onStore (Store.follows_insert _)]
    dsimp only
    cases s.store.insert (.empty id entity) <;> rfl
  | addNode entity typeName position =>
    exact fun s => follows_edit (Graph.follows_addNode s.registry typeName position) entity s
  | removeNode entity node => exact follows_edit (Graph.follows_removeNode node) entity
  | connect id entity source sourcePort target targetPort =>
    exact fun s => follows_amend
      (Graph.follows_connect s.registry id source sourcePort target targetPort) entity s
  | disconnect entity id =>
    intro s
    dsimp only [Request.inPlace, answer]
    rw [follows_edit (Graph.follows_disconnect id) entity]
    dsimp only [disconnect, edit, Store.edit]
    cases s.store.require entity with
    | error e => rfl
    | ok g =>
      cases hf : g.disconnect id <;>
        simp [hf, bind, Except.bind, Except.map, pure, Except.pure]
  | setProperty entity node name value =>
    exact follows_amend (Graph.follows_setProperty node name value) entity
  | setVariable entity name value =>
    exact follows_edit (Graph.follows_setVariable name value) entity
  | save entity =>
    intro s
    dsimp only [Request.inPlace, answer, save, Store.require]
    simp only [bind_apply, get_apply]
    cases s.store.get? entity <;> rfl
  | load p =>
    intro s
    dsimp only [Request.inPlace, answer, load]
    simp only [bind_apply, get_apply]
    rcases p.load s.registry with ⟨e | loaded, log⟩
    · rfl
    · have hdetach : onStore (write fun store => store.detach loaded.graph.entity) s =
          .ok () { s with store := s.store.detach loaded.graph.entity } := rfl
      simp only [settle_ok, hdetach, follows_onStore (Store.follows_insert loaded.graph) _,
        Store.insert_detach]
      rfl

/-- A request fails in place exactly where the session refuses it, and then the session is as it
was: its registry, its graphs in their order, the copy, the mode and the frame. -/
theorem failed_request_leaves_session (s : Session) (q : Request α) (e : GraphError) :
    (s.answer q = .error e → q.inPlace s = .error e s) ∧
      ∀ t, q.inPlace s = .error e t → t = s ∧ s.answer q = .error e :=
  ⟨fun refused => (follows_request q).of_error refused,
    fun _ failed => (follows_request q).refused failed⟩

/-- A graph with one node is played. -/
def onAir : Session :=
  reached .builtins .initial
    [.createGraph ⟨.ofNat 1⟩ default, .addNode default "Print" .zero, .play]

/-- A graph for the same entity that lists one node twice. -/
def clashing : Snapshot where
  version := 1
  id := ⟨.ofNat 2⟩
  entity := default
  nodes := [⟨⟨0, 0⟩, "OnStart", .zero, .empty⟩, ⟨⟨0, 0⟩, "Print", .zero, .empty⟩]
  connections := []
  vars := []
  vacant := []

theorem onAir_keeps_graph :
    (∃ t, (Request.load clashing).inPlace onAir = .error (.duplicateNode ⟨0, 0⟩) t ∧ t = onAir) ∧
      (onAir.store.get? default).map Graph.id = some ⟨.ofNat 1⟩ := by
  have hload : (clashing.load .builtins).1 = .error (.duplicateNode ⟨0, 0⟩) := by decide +kernel
  have hanswer : onAir.answer (.load clashing) = .error (.duplicateNode ⟨0, 0⟩) := by
    have hregistry : onAir.registry = .builtins := rfl
    simp only [answer, load, hregistry]
    rcases hc : clashing.load .builtins with ⟨e | loaded, log⟩
    · rw [hc] at hload
      cases hload
      rfl
    · rw [hc] at hload
      cases hload
  obtain ⟨hfails, hleaves⟩ :=
    failed_request_leaves_session onAir (.load clashing) (.duplicateNode ⟨0, 0⟩)
  have hfailed := hfails hanswer
  exact ⟨⟨onAir, hfailed, (hleaves onAir hfailed).1⟩, by decide +kernel⟩

end Session

end ScriptGraph
