import ScriptGraph.Proofs.RoundTrip

/-! One connection more or less. No edit looks at a connection that it does not take out itself, so
edits answer the same and leave the same graph, that connection apart, whether it is there or not.
Connecting, editing and disconnecting again is then the editing alone. -/
namespace ScriptGraph

lemma except_map_map {ε α β γ : Type} (x : Except ε α) (f : α → β) (k : β → γ) :
    (x.map f).map k = x.map fun a => k (f a) := by
  cases x <;> rfl

lemma filter_const_true {α : Type} (o : Option α) : o.filter (fun _ => true) = o := by
  cases o <;> rfl

/-- What an accepted edit answers. -/
inductive Reply where
  | done
  | added (node : NodeId)
  | removed (node : Node)
  | connected (id : ConnectionId)
  | disconnected (c : Connection)
  /-- The value that a variable had before. -/
  | held (value : Option Value)
deriving DecidableEq

namespace Edit

/-- What an edit answers and the graph it leaves, or the reason why it was refused. -/
def run (g : Graph) : Edit → Except GraphError (Reply × Graph)
  | .addNode registry typeName position =>
    (g.addNode registry typeName position).map fun r => (.added r.1, r.2)
  | .removeNode node => (g.removeNode node).map fun r => (.removed r.1, r.2)
  | .connect registry id source sourcePort target targetPort =>
    (g.connect registry id source sourcePort target targetPort).map fun h => (.connected id, h)
  | .disconnect id => (g.disconnect id).map fun r => (.disconnected r.1, r.2)
  | .setProperty node name value => (g.setProperty node name value).map fun h => (.done, h)
  | .moveNode node position => (g.moveNode node position).map fun h => (.done, h)
  | .setVariable name value => .ok (.held (g.vars.find? name), g.setVariable name value)
  | .removeVariable name => .ok (.held (g.vars.find? name), g.removeVariable name)
  | .reseed registry => .ok (.done, g.reseed registry)

/-- It neither connects nor disconnects under the id. -/
def spares (id : ConnectionId) : Edit → Bool
  | .connect _ j _ _ _ _ => j ≠ id
  | .disconnect j => j ≠ id
  | _ => true

/-- The node that an edit has taken out if this is its answer. -/
def removed? : Edit → Except GraphError Reply → Option NodeId
  | .removeNode node, .ok _ => some node
  | _, _ => none

lemma map_snd_run (g : Graph) (e : Edit) : (e.run g).map Prod.snd = e.apply g := by
  have hid {x : Except GraphError Graph} : (x.map fun h => h) = x := by cases x <;> rfl
  cases e <;> simp only [run, apply, except_map_map, hid] <;> rfl

end Edit

namespace Graph

/-- An edit that is refused leaves the graph as it is. -/
def attempt (g : Graph) (e : Edit) : Except GraphError Reply × Graph :=
  match e.run g with
  | .ok (r, h) => (.ok r, h)
  | .error x => (.error x, g)

/-- The answers to edits that are made one after another, and the graph after the last. -/
def perform (g : Graph) : List Edit → List (Except GraphError Reply) × Graph
  | [] => ([], g)
  | e :: rest =>
    let next := g.attempt e
    let done := next.2.perform rest
    (next.1 :: done.1, done.2)

/-- The nodes that edits take out. -/
def removed (g : Graph) (edits : List Edit) : List NodeId :=
  (edits.zip (g.perform edits).1).filterMap fun x => x.1.removed? x.2

/-- The graph without one of its connections. -/
def without (g : Graph) (id : ConnectionId) : Graph :=
  { g with connections := g.connections.erase id }

variable {g h : Graph} {id : ConnectionId}

lemma Reachable.perform (hg : g.Reachable) (edits : List Edit) : (g.perform edits).2.Reachable := by
  induction edits generalizing g with
  | nil => exact hg
  | cons e rest ih =>
    apply ih
    have happly := e.map_snd_run g
    unfold attempt
    cases hrun : e.run g with
    | ok r =>
      rw [hrun] at happly
      exact hg.edit e happly.symm
    | error => exact hg

lemma perform_append (g : Graph) (es fs : List Edit) :
    g.perform (es ++ fs) =
      ((g.perform es).1 ++ ((g.perform es).2.perform fs).1, ((g.perform es).2.perform fs).2) := by
  induction es generalizing g with
  | nil => rfl
  | cons e es ih => simp [perform, ih]

lemma removed_cons (g : Graph) (e : Edit) (es : List Edit) :
    g.removed (e :: es) =
      (e.removed? (g.attempt e).1).toList ++ (g.attempt e).2.removed es := by
  simp only [removed, perform, List.zip_cons_cons, List.filterMap_cons]
  cases e.removed? (g.attempt e).1 <;> rfl

section Without

variable (g) (id)

lemma addNode_without (registry : Registry) (typeName : String) (position : Point) :
    (g.without id).addNode registry typeName position =
      (g.addNode registry typeName position).map fun r => (r.1, r.2.without id) := by
  unfold addNode
  cases registry.lookup typeName <;> rfl

lemma removeNode_without (node : NodeId) :
    (g.without id).removeNode node = (g.removeNode node).map fun r => (r.1, r.2.without id) := by
  unfold removeNode without
  cases g.nodes.remove node with
  | none => rfl
  | some r => simp only [Except.map, Table.erase, Table.filter_comm]

lemma connect_without {id j : ConnectionId} (hj : j ≠ id) (registry : Registry) (source : NodeId)
    (sourcePort : String) (target : NodeId) (targetPort : String) :
    (g.without id).connect registry j source sourcePort target targetPort =
      (g.connect registry j source sourcePort target targetPort).map fun h => h.without id := by
  have hlink : (g.without id).checkLink registry source sourcePort target targetPort =
      g.checkLink registry source sourcePort target targetPort := rfl
  unfold connect
  rw [hlink]
  cases g.checkLink registry source sourcePort target targetPort with
  | error => rfl
  | ok => simp only [Except.map, without, Table.erase_insert_of_ne hj]

lemma disconnect_without {id j : ConnectionId} (hj : j ≠ id) :
    (g.without id).disconnect j = (g.disconnect j).map fun r => (r.1, r.2.without id) := by
  unfold disconnect without
  rw [Table.find?_erase, if_neg hj]
  cases g.connections.find? j with
  | none => rfl
  | some c => simp only [Except.map, Table.erase, Table.filter_comm]

lemma setProperty_without (node : NodeId) (name : String) (value : Value) :
    (g.without id).setProperty node name value =
      (g.setProperty node name value).map fun h => h.without id := by
  have hnode : (g.without id).requireNode node = g.requireNode node := rfl
  unfold setProperty
  rw [hnode]
  cases g.requireNode node with
  | error => rfl
  | ok n => by_cases hn : n.properties.contains name <;> simp [bind, Except.bind, hn] <;> rfl

lemma moveNode_without (node : NodeId) (position : Point) :
    (g.without id).moveNode node position =
      (g.moveNode node position).map fun h => h.without id := by
  have hnode : (g.without id).requireNode node = g.requireNode node := rfl
  unfold moveNode
  rw [hnode]
  cases g.requireNode node <;> rfl

end Without

/-- An edit answers the same without a connection that it spares, and leaves the same but for it. -/
theorem run_without {e : Edit} (he : e.spares id) :
    e.run (g.without id) = (e.run g).map fun r => (r.1, r.2.without id) := by
  cases e with
  | addNode => simp only [Edit.run, addNode_without, except_map_map]
  | removeNode => simp only [Edit.run, removeNode_without, except_map_map]
  | connect =>
    have hj := of_decide_eq_true he
    simp only [Edit.run, connect_without g hj, except_map_map]
  | disconnect =>
    have hj := of_decide_eq_true he
    simp only [Edit.run, disconnect_without g hj, except_map_map]
  | setProperty => simp only [Edit.run, setProperty_without, except_map_map]
  | moveNode => simp only [Edit.run, moveNode_without, except_map_map]
  | setVariable => rfl
  | removeVariable => rfl
  | reseed => rfl

lemma attempt_without {e : Edit} (he : e.spares id) :
    (g.without id).attempt e = ((g.attempt e).1, (g.attempt e).2.without id) := by
  unfold attempt
  rw [run_without he]
  cases e.run g <;> rfl

/-- What a spared connection is after an edit: gone if the edit took out one of its ends. -/
lemma find?_attempt {e : Edit} (he : e.spares id) :
    (g.attempt e).2.connections.find? id =
      (g.connections.find? id).filter fun c => !(e.removed? (g.attempt e).1).any c.involves := by
  unfold attempt
  cases hrun : e.run g with
  | error =>
    have hnone (x : GraphError) : e.removed? (.error x) = none := by cases e <;> rfl
    simp [hnone, filter_const_true]
  | ok r =>
    cases e with
    | addNode =>
      obtain ⟨a, hadd, rfl⟩ := map_eq_ok_iff.mp hrun
      obtain ⟨_, _, _, _, hh⟩ := addNode_eq_ok hadd
      simp [Edit.removed?, filter_const_true, hh]
    | removeNode node =>
      obtain ⟨a, hremove, rfl⟩ := map_eq_ok_iff.mp hrun
      obtain ⟨_, _, hh⟩ := removeNode_eq_ok hremove
      simp [Edit.removed?, hh, Table.find?_filter]
    | connect =>
      obtain ⟨a, hconnect, rfl⟩ := map_eq_ok_iff.mp hrun
      obtain ⟨_, hh⟩ := connect_eq_ok hconnect
      have hj := of_decide_eq_true he
      simp [Edit.removed?, filter_const_true, hh, Table.find?_insert, hj.symm]
    | disconnect =>
      obtain ⟨a, hdone, rfl⟩ := map_eq_ok_iff.mp hrun
      obtain ⟨_, hh⟩ := disconnect_eq_ok hdone
      have hj := of_decide_eq_true he
      simp [Edit.removed?, filter_const_true, hh, Table.find?_erase, hj.symm]
    | setProperty =>
      obtain ⟨a, hset, rfl⟩ := map_eq_ok_iff.mp hrun
      simp [Edit.removed?, filter_const_true, setProperty_eq_ok hset, modifyNode]
    | moveNode =>
      obtain ⟨a, hmove, rfl⟩ := map_eq_ok_iff.mp hrun
      simp [Edit.removed?, filter_const_true, moveNode_eq_ok hmove, modifyNode]
    | setVariable =>
      obtain rfl := Except.ok.inj hrun
      simp [Edit.removed?, filter_const_true, setVariable]
    | removeVariable =>
      obtain rfl := Except.ok.inj hrun
      simp [Edit.removed?, filter_const_true, removeVariable]
    | reseed =>
      obtain rfl := Except.ok.inj hrun
      simp [Edit.removed?, filter_const_true, reseed]

variable {edits : List Edit}

/-- A run answers the same without a connection that it spares, and leaves the same but for it. -/
theorem perform_without (spared : ∀ e ∈ edits, e.spares id) :
    (g.without id).perform edits = ((g.perform edits).1, (g.perform edits).2.without id) := by
  induction edits generalizing g with
  | nil => rfl
  | cons e rest ih =>
    have he := spared e (List.mem_cons_self ..)
    have hrest := ih (g := (g.attempt e).2) fun f hf => spared f (List.mem_cons_of_mem _ hf)
    simp only [perform, attempt_without he, hrest]

lemma removed_without (spared : ∀ e ∈ edits, e.spares id) :
    (g.without id).removed edits = g.removed edits := by
  rw [removed, removed, perform_without spared]

/-- A spared connection stays until the run takes out one of its ends. -/
theorem find?_perform (spared : ∀ e ∈ edits, e.spares id) :
    (g.perform edits).2.connections.find? id =
      (g.connections.find? id).filter fun c => !(g.removed edits).any c.involves := by
  induction edits generalizing g with
  | nil => simp [perform, removed, filter_const_true]
  | cons e rest ih =>
    have he := spared e (List.mem_cons_self ..)
    have hrest := ih (g := (g.attempt e).2) fun f hf => spared f (List.mem_cons_of_mem _ hf)
    simp only [perform, hrest, find?_attempt he, Option.filter_filter, removed_cons,
      List.any_append]
    congr 1
    funext c
    cases e.removed? (g.attempt e).1 <;> simp

lemma any_involves (c : Connection) (nodes : List NodeId) :
    nodes.any c.involves = true ↔ c.source ∈ nodes ∨ c.target ∈ nodes := by
  induction nodes with
  | nil => simp
  | cons node rest ih =>
    simp only [List.any_cons, Bool.or_eq_true, ih, Connection.involves, decide_eq_true_eq,
      List.mem_cons]
    tauto

lemma attempt_disconnect (g : Graph) (id : ConnectionId) :
    g.attempt (.disconnect id) =
      (match g.connections.find? id with
        | some c => .ok (.disconnected c)
        | none => .error (.unknownConnection id), g.without id) := by
  cases hc : g.connections.find? id with
  | some c => simp [attempt, Edit.run, disconnect, without, hc, Except.map]
  | none =>
    have hsame : g.without id = g := by
      rw [without, Table.erase_of_notMem (Table.find?_eq_none_iff.mp hc)]
    simp [attempt, Edit.run, disconnect, hc, hsame, Except.map]

/-- Connecting two ports, making edits that neither write under the id of that connection nor take
it out, and disconnecting it is making the edits alone: every edit answers the same, and the graph
at the end is the same. The connection is still there to be taken out unless one of the edits has
removed a node at one of its ends. -/
theorem perform_connect_disconnect {registry : Registry} {source target : NodeId}
    {sourcePort targetPort : String} (fresh : id ∉ g.connections.keys)
    (ok : g.connect registry id source sourcePort target targetPort = .ok h)
    (spared : ∀ e ∈ edits, e.spares id) :
    g.perform (.connect registry id source sourcePort target targetPort :: edits ++
        [.disconnect id]) =
      (.ok (.connected id) :: (g.perform edits).1 ++
        [if source ∈ g.removed edits ∨ target ∈ g.removed edits then
          .error (.unknownConnection id)
        else .ok (.disconnected ⟨id, source, sourcePort, target, targetPort⟩)],
      (g.perform edits).2) := by
  obtain ⟨_, hh⟩ := connect_eq_ok ok
  -- Without the new connection the connected graph is the graph before.
  have hback : h.without id = g := by
    rw [hh, without, Table.erase_insert_self fresh]
  have hrun := perform_without (g := h) spared
  have hremoved := removed_without (g := h) spared
  rw [hback] at hrun hremoved
  have hfound : h.connections.find? id = some ⟨id, source, sourcePort, target, targetPort⟩ := by
    rw [hh, Table.find?_insert, if_pos rfl]
  have hlast := find?_perform (g := h) spared
  rw [hfound, ← hremoved] at hlast
  have hconnect : g.attempt (.connect registry id source sourcePort target targetPort) =
      (.ok (.connected id), h) := by
    simp [attempt, Edit.run, ok, Except.map]
  have hends := any_involves ⟨id, source, sourcePort, target, targetPort⟩ (g.removed edits)
  rw [List.cons_append, perform, hconnect, perform_append, perform, attempt_disconnect, hlast, hrun]
  by_cases hgone : source ∈ g.removed edits ∨ target ∈ g.removed edits
  · rw [if_pos hgone, Option.filter_some, hends.mpr hgone]
    rfl
  · have hnot : (g.removed edits).any
        (Connection.involves ⟨id, source, sourcePort, target, targetPort⟩) = false := by
      rw [← Bool.not_eq_true, hends]
      exact hgone
    rw [if_neg hgone, Option.filter_some, hnot]
    rfl

end Graph

/-- Edits of every kind, some of them refused. A node is added in a vacated slot and connected, the
one connection that was there is taken out and a node at the end of it removed. -/
def Graph.revisions : List Edit :=
  [.addNode .builtins "Branch" .zero,
    .connect .builtins ⟨.ofNat 7⟩ ⟨0, 0⟩ "Exec" ⟨1, 1⟩ "Exec",
    .disconnect default, .disconnect default, .removeNode ⟨2, 0⟩, .removeNode ⟨1, 0⟩,
    .setProperty ⟨3, 0⟩ "A" (.float .zero), .setProperty ⟨3, 0⟩ "Sum" (.float .zero),
    .moveNode ⟨2, 0⟩ .zero, .setVariable "count" (.int 4), .removeVariable "total",
    .reseed .builtins]

theorem perform_connect_revisions_disconnect :
    Graph.printing.perform (.connect .builtins ⟨.ofNat 5⟩ ⟨0, 0⟩ "deltaTime" ⟨3, 0⟩ "A" ::
        Graph.revisions ++ [.disconnect ⟨.ofNat 5⟩]) =
      (.ok (.connected ⟨.ofNat 5⟩) :: (Graph.printing.perform Graph.revisions).1 ++
        [.ok (.disconnected ⟨⟨.ofNat 5⟩, ⟨0, 0⟩, "deltaTime", ⟨3, 0⟩, "A"⟩)],
      (Graph.printing.perform Graph.revisions).2) ∧
    Graph.printing.perform (.connect .builtins ⟨.ofNat 5⟩ ⟨0, 0⟩ "deltaTime" ⟨3, 0⟩ "A" ::
        (.removeNode ⟨3, 0⟩ :: Graph.revisions) ++ [.disconnect ⟨.ofNat 5⟩]) =
      (.ok (.connected ⟨.ofNat 5⟩) ::
          (Graph.printing.perform (.removeNode ⟨3, 0⟩ :: Graph.revisions)).1 ++
        [.error (.unknownConnection ⟨.ofNat 5⟩)],
      (Graph.printing.perform (.removeNode ⟨3, 0⟩ :: Graph.revisions)).2) := by
  have fresh : (⟨.ofNat 5⟩ : ConnectionId) ∉ Graph.printing.connections.keys := by decide
  have hremoved : Graph.printing.removed Graph.revisions = [⟨2, 0⟩] := by rfl
  have hboth : Graph.printing.removed (.removeNode ⟨3, 0⟩ :: Graph.revisions) =
      [⟨3, 0⟩, ⟨2, 0⟩] := by rfl
  have ok : Graph.printing.connect .builtins ⟨.ofNat 5⟩ ⟨0, 0⟩ "deltaTime" ⟨3, 0⟩ "A" =
      .ok { Graph.printing with
        connections := Graph.printing.connections.insert ⟨.ofNat 5⟩
          ⟨⟨.ofNat 5⟩, ⟨0, 0⟩, "deltaTime", ⟨3, 0⟩, "A"⟩ } := by rfl
  have spared : ∀ e ∈ Graph.revisions, e.spares ⟨.ofNat 5⟩ := by decide
  have spared' : ∀ e ∈ .removeNode ⟨3, 0⟩ :: Graph.revisions, e.spares ⟨.ofNat 5⟩ := by decide
  constructor
  · have hrun := Graph.perform_connect_disconnect fresh ok spared
    rw [hremoved, if_neg (by decide)] at hrun
    exact hrun
  · have hrun := Graph.perform_connect_disconnect fresh ok spared'
    rw [hboth, if_pos (by decide)] at hrun
    exact hrun

end ScriptGraph
