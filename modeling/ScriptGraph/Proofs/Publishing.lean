import ScriptGraph.Proofs.WellFormed

/-! What publishing leaves behind. A value goes to the node's own property of the output's name and
to every input that the output is connected to, so a property ends up with the last value in table
order that goes to it. The nodes reached are the targets of the outputs, each at its first place. -/
namespace ScriptGraph

section Firsts

variable {α : Type} [DecidableEq α]

lemma pairwise_idxOf_foldl_addNew (l : List α) :
    (l.foldl addNew []).Pairwise fun x y => l.idxOf x < l.idxOf y := by
  induction l using List.reverseRecOn with
  | nil => exact .nil
  | append_singleton l z ih =>
    have hmem {x : α} : x ∈ l.foldl addNew [] ↔ x ∈ l := by simp [TickRules.mem_foldl_addNew]
    -- those met before keep their places
    have hold : (l.foldl addNew []).Pairwise
        fun x y => (l ++ [z]).idxOf x < (l ++ [z]).idxOf y := by
      refine ih.imp_of_mem fun hx hy hlt => ?_
      rwa [List.idxOf_append_of_mem (hmem.mp hx), List.idxOf_append_of_mem (hmem.mp hy)]
    rw [List.foldl_append, List.foldl_cons, List.foldl_nil, addNew]
    split
    · exact hold
    · next hz =>
      refine List.pairwise_append.mpr ⟨hold, List.pairwise_singleton _ _, fun x hx y hy => ?_⟩
      obtain rfl := List.mem_singleton.mp hy
      have hxl := hmem.mp hx
      rw [List.idxOf_append_of_mem hxl, List.idxOf_append_of_notMem (mt hmem.mpr hz)]
      exact Nat.lt_add_right _ (List.idxOf_lt_length_of_mem hxl)

lemma nodup_foldl_addNew (l : List α) : (l.foldl addNew []).Nodup :=
  (pairwise_idxOf_foldl_addNew l).imp fun hlt he => Nat.ne_of_lt hlt (congrArg l.idxOf he)

end Firsts

namespace Graph

/-- What is published on a port goes to the property: it is the node's own of that name, or an input
that the port is connected to. -/
def Writes (g : Graph) (node : NodeId) (port : String) (id : NodeId) (name : String) : Prop :=
  (id = node ∧ name = port) ∨
    ∃ c ∈ g.connectionsFrom node port, id = c.target ∧ name = c.targetPort

instance (g : Graph) (node : NodeId) (port : String) (id : NodeId) (name : String) :
    Decidable (g.Writes node port id name) :=
  inferInstanceAs (Decidable (_ ∨ _))

/-- The value of the last entry that goes to the property. -/
def lastWritten? (g : Graph) (node : NodeId) (entries : List (String × Value)) (id : NodeId)
    (name : String) : Option Value :=
  ((entries.filter fun e => g.Writes node e.1 id name).getLast?).map Prod.snd

/-- The ends of the connections that values are delivered along, in the order of delivery. -/
def addressees (g : Graph) (node : NodeId) (entries : List (String × Value)) : List NodeId :=
  entries.flatMap fun e => g.targets node e.1

variable {g h : Graph} {node id : NodeId} {name port : String}

lemma writes_of_shape (hs : g.shape = h.shape) :
    g.Writes node port id name ↔ h.Writes node port id name := by
  rw [Writes, Writes, connectionsFrom_of_shape hs]

lemma lastWritten?_concat (g : Graph) (node : NodeId) (entries : List (String × Value))
    (e : String × Value) (id : NodeId) (name : String) :
    g.lastWritten? node (entries ++ [e]) id name =
      if g.Writes node e.1 id name then some e.2 else g.lastWritten? node entries id name := by
  unfold lastWritten?
  by_cases he : g.Writes node e.1 id name
  · simp [List.filter_append, he]
  · simp [List.filter_append, he]

lemma lastWritten?_eq_none {entries : List (String × Value)}
    (hnot : ∀ e ∈ entries, ¬ g.Writes node e.1 id name) :
    g.lastWritten? node entries id name = none := by
  have hnil : (entries.filter fun e => g.Writes node e.1 id name) = [] := by
    simpa [List.filter_eq_nil_iff] using hnot
  rw [lastWritten?, hnil]
  rfl

lemma property?_setProperty (g : Graph) (id : NodeId) (name : String) (value : Value) (j : NodeId)
    (k : String) :
    (g.modifyNode id fun n => n.setProperty name value).property? j k =
      if j = id ∧ k = name then (g.property? j k).map fun _ => value else g.property? j k := by
  simp only [property?, node?, modifyNode, Arena.get?_modify]
  by_cases hj : j = id
  · cases g.nodes.get? j with
    | none => simp [hj]
    | some n => simp [hj, Node.setProperty, setExisting, Table.find?_modify]
  · simp [hj]

lemma shape_deliver (value : Value) (acc : List NodeId × Graph) (c : Connection) :
    (deliver value acc c).2.shape = acc.2.shape :=
  deliver_induction (P := fun h => h.shape = acc.2.shape) rfl (shape_setProperty _ _ _ _)

lemma property?_deliver (value : Value) (acc : List NodeId × Graph) (c : Connection) (id : NodeId)
    (name : String) :
    (deliver value acc c).2.property? id name =
      if id = c.target ∧ name = c.targetPort then (acc.2.property? id name).map fun _ => value
      else acc.2.property? id name := by
  unfold deliver
  split
  · exact property?_setProperty _ _ _ _ _ _
  · next hgone =>
    -- a target that is not there has no property to be written
    have hnone : acc.2.property? c.target c.targetPort = none := by
      have hn : acc.2.node? c.target = none := by
        simpa [node?, Arena.contains] using hgone
      rw [property?, hn, Option.bind_none]
    split
    · next hc => rw [hc.1, hc.2, hnone, Option.map_none]
    · rfl

lemma property?_foldl_deliver (value : Value) (cs : List Connection) (acc : List NodeId × Graph)
    (id : NodeId) (name : String) :
    (cs.foldl (deliver value) acc).2.property? id name =
      if ∃ c ∈ cs, id = c.target ∧ name = c.targetPort then
        (acc.2.property? id name).map fun _ => value
      else acc.2.property? id name := by
  induction cs generalizing acc with
  | nil => simp
  | cons c cs ih =>
    rw [List.foldl_cons, ih, property?_deliver]
    -- along whichever connections it comes, it is one and the same value
    by_cases hc : id = c.target ∧ name = c.targetPort
    · simp [hc, Option.map_map, Function.comp_def]
    · simp [hc]

lemma reached_foldl_deliver (value : Value) (cs : List Connection) (acc : List NodeId × Graph) :
    (cs.foldl (deliver value) acc).1 =
      ((cs.map Connection.target).filter acc.2.nodes.contains).foldl addNew acc.1 := by
  induction cs generalizing acc with
  | nil => rfl
  | cons c cs ih =>
    have hlive : (deliver value acc c).2.nodes.contains = acc.2.nodes.contains :=
      funext (contains_of_shape (shape_deliver value acc c))
    rw [List.foldl_cons, ih, hlive, deliver]
    by_cases hc : acc.2.nodes.contains c.target = true
    · simp [hc]
    · simp [hc]

lemma shape_publishOne (node : NodeId) (acc : List NodeId × Graph) (e : String × Value) :
    (publishOne node acc e).2.shape = acc.2.shape :=
  foldl_deliver_induction (P := fun h => h.shape = acc.2.shape) (shape_setProperty _ _ _ _)
    fun h c _ hh => (shape_setProperty h c.target c.targetPort e.2).trans hh

/-- A published value goes to all properties that it can go to, and to no others. -/
lemma property?_publishOne (node : NodeId) (acc : List NodeId × Graph) (e : String × Value)
    (id : NodeId) (name : String) :
    (publishOne node acc e).2.property? id name =
      if acc.2.Writes node e.1 id name then (acc.2.property? id name).map fun _ => e.2
      else acc.2.property? id name := by
  have hlinks : (acc.2.modifyNode node fun n => n.setProperty e.1 e.2).connectionsFrom node e.1 =
      acc.2.connectionsFrom node e.1 := rfl
  unfold publishOne Writes
  rw [property?_foldl_deliver, property?_setProperty, hlinks]
  by_cases hown : id = node ∧ name = e.1
  · simp [hown, Option.map_map, Function.comp_def]
  · simp [hown]

lemma reached_publishOne (node : NodeId) (acc : List NodeId × Graph) (e : String × Value) :
    (publishOne node acc e).1 =
      ((acc.2.targets node e.1).filter acc.2.nodes.contains).foldl addNew acc.1 := by
  have hlive : (acc.2.modifyNode node fun n => n.setProperty e.1 e.2).nodes.contains =
      acc.2.nodes.contains := funext (contains_of_shape (shape_setProperty _ _ _ _))
  unfold publishOne
  rw [reached_foldl_deliver, hlive]
  rfl

lemma shape_foldl_publishOne (g : Graph) (node : NodeId) (entries : List (String × Value)) :
    (entries.foldl (publishOne node) ([], g)).2.shape = g.shape := by
  induction entries using List.reverseRecOn with
  | nil => rfl
  | append_singleton entries e ih =>
    rw [List.foldl_append, List.foldl_cons, List.foldl_nil, shape_publishOne, ih]

/-- A property holds the last value that went to it. -/
theorem property?_publish (g : Graph) (node : NodeId) (values : Table String Value) (id : NodeId)
    (name : String) :
    (g.publish node values).2.property? id name =
      (g.property? id name).map fun old =>
        (g.lastWritten? node values.entries id name).getD old := by
  have hfold (entries : List (String × Value)) :
      (entries.foldl (publishOne node) ([], g)).2.property? id name =
        (g.property? id name).map fun old => (g.lastWritten? node entries id name).getD old := by
    induction entries using List.reverseRecOn with
    | nil => simp [lastWritten?]
    | append_singleton entries e ih =>
      have hs := shape_foldl_publishOne g node entries
      rw [List.foldl_append, List.foldl_cons, List.foldl_nil, property?_publishOne,
        lastWritten?_concat, ih]
      simp only [writes_of_shape hs]
      split
      · simp [Option.map_map, Function.comp_def]
      · rfl
  exact hfold values.entries

lemma property?_publish_of_not {values : Table String Value}
    (hnot : ∀ port ∈ values.keys, ¬ g.Writes node port id name) :
    (g.publish node values).2.property? id name = g.property? id name := by
  have hnone : g.lastWritten? node values.entries id name = none :=
    lastWritten?_eq_none fun e he => hnot e.1 (List.mem_map_of_mem he)
  rw [property?_publish, hnone]
  simp

lemma property?_publish_singleton {value : Value} (hw : g.Writes node port id name)
    (hsome : (g.property? id name).isSome = true) :
    (g.publish node (.ofList [(port, value)])).2.property? id name = some value := by
  obtain ⟨old, hold⟩ := Option.isSome_iff_exists.mp hsome
  have hentries : (Table.ofList [(port, value)]).entries = [(port, value)] := rfl
  have hlast : g.lastWritten? node [(port, value)] id name = some value := by
    simp [lastWritten?, hw]
  rw [property?_publish, hold, hentries, hlast]
  rfl

/-- The nodes reached are the live ones among the addressees. -/
theorem reached_publish (g : Graph) (node : NodeId) (values : Table String Value) :
    (g.publish node values).1 =
      ((g.addressees node values.entries).filter g.nodes.contains).foldl addNew [] := by
  have hfold (entries : List (String × Value)) :
      (entries.foldl (publishOne node) ([], g)).1 =
        ((g.addressees node entries).filter g.nodes.contains).foldl addNew [] := by
    induction entries using List.reverseRecOn with
    | nil => rfl
    | append_singleton entries e ih =>
      have hs := shape_foldl_publishOne g node entries
      have hlive := funext (contains_of_shape hs)
      rw [List.foldl_append, List.foldl_cons, List.foldl_nil, reached_publishOne, ih,
        targets_of_shape hs, hlive, ← List.foldl_append, ← List.filter_append]
      simp [addressees]
  exact hfold values.entries

lemma mem_addressees {entries : List (String × Value)} :
    id ∈ g.addressees node entries ↔
      ∃ port ∈ entries.map Prod.fst, ∃ c ∈ g.connectionsFrom node port, c.target = id := by
  simp [addressees, targets]

lemma mem_publish {values : Table String Value} :
    id ∈ (g.publish node values).1 ↔
      id ∈ g.addressees node values.entries ∧ g.nodes.contains id = true := by
  rw [reached_publish]
  simp [TickRules.mem_foldl_addNew]

/-- Between live ends all addressees are reached. -/
lemma reached_publish_of_endsLive (hlive : g.EndsLive) (node : NodeId)
    (values : Table String Value) :
    (g.publish node values).1 = (g.addressees node values.entries).foldl addNew [] := by
  have hall : ∀ id ∈ g.addressees node values.entries, g.nodes.contains id = true := by
    intro id hid
    obtain ⟨port, -, c, hc, rfl⟩ := mem_addressees.mp hid
    exact (hlive c (mem_connectionsFrom.mp hc).1).2
  rw [reached_publish, List.filter_eq_self.mpr hall]

/-- Publishing leaves every property with the last value in table order that went to it, from the
node itself or along a connection, and a property to which none went with what it held. Nothing else
changes. The nodes reached are those that a published port is connected to, each of them once, in
the order in which they were first written to: that of the ports, then that of the connections. -/
theorem publish_leaves_last_values (hlive : g.EndsLive) (node : NodeId)
    (values : Table String Value) :
    let reached := (g.publish node values).1
    let ended := (g.publish node values).2
    let deliveries := g.addressees node values.entries
    (∀ id name, ended.property? id name =
      (g.property? id name).map fun old =>
        (g.lastWritten? node values.entries id name).getD old) ∧
    ended.shape = g.shape ∧ ended.vars = g.vars ∧
    (∀ id, id ∈ reached ↔
      ∃ port ∈ values.keys, ∃ c ∈ g.connections.values,
        c.source = node ∧ c.sourcePort = port ∧ c.target = id) ∧
    reached.Nodup ∧
    reached.Pairwise fun a b => deliveries.idxOf a < deliveries.idxOf b := by
  intro reached ended deliveries
  have hreached : reached = deliveries.foldl addNew [] :=
    reached_publish_of_endsLive hlive node values
  refine ⟨g.property?_publish node values, g.shape_publish node values,
    g.vars_publish node values, fun id => ?_, ?_, ?_⟩
  · rw [hreached, TickRules.mem_foldl_addNew, mem_addressees]
    simp [mem_connectionsFrom, Table.keys, and_assoc]
  · rw [hreached]
    exact nodup_foldl_addNew deliveries
  · rw [hreached]
    exact pairwise_idxOf_foldl_addNew deliveries

end Graph

/-- Both outputs of the first node are connected to the input of the second. One of them is
connected to the other as well, which leads also to an input that the third node does not have. -/
def Graph.crossed : Graph where
  id := default
  entity := default
  nodes :=
    ⟨[⟨0, some ⟨⟨0, 0⟩, "Pair", .zero, .ofList [("X", .int 0), ("Y", .int 0)]⟩⟩,
      ⟨0, some ⟨⟨1, 0⟩, "Sink", .zero, .ofList [("input", .int 0)]⟩⟩,
      ⟨0, some ⟨⟨2, 0⟩, "Sink", .zero, .ofList [("input", .int 0)]⟩⟩], [], 3⟩
  connections := .ofList
    [(⟨.ofNat 1⟩, ⟨⟨.ofNat 1⟩, ⟨0, 0⟩, "Y", ⟨1, 0⟩, "input"⟩),
      (⟨.ofNat 2⟩, ⟨⟨.ofNat 2⟩, ⟨0, 0⟩, "X", ⟨1, 0⟩, "input"⟩),
      (⟨.ofNat 3⟩, ⟨⟨.ofNat 3⟩, ⟨0, 0⟩, "X", ⟨0, 0⟩, "Y"⟩),
      (⟨.ofNat 4⟩, ⟨⟨.ofNat 4⟩, ⟨0, 0⟩, "Y", ⟨2, 0⟩, "missing"⟩)]
  vars := .empty

/-- The output that is published first is overwritten from the other one. -/
theorem publish_crossed_leaves_last_values :
    Graph.crossed.EndsLive ∧
      let published := Graph.crossed.publish ⟨0, 0⟩ (.ofList [("Y", .int 2), ("X", .int 1)])
      published.2.property? ⟨0, 0⟩ "Y" = some (.int 1) ∧
        published.2.property? ⟨1, 0⟩ "input" = some (.int 1) ∧
        published.2.property? ⟨2, 0⟩ "input" = some (.int 0) ∧
        published.2.shape = Graph.crossed.shape ∧
        published.1 = [⟨1, 0⟩, ⟨2, 0⟩, ⟨0, 0⟩] ∧
        ⟨2, 0⟩ ∈ published.1 ∧ published.1.Nodup := by
  have hlive : Graph.crossed.EndsLive := by unfold Graph.EndsLive; decide
  obtain ⟨hvalues, hshape, -, hreached, hnodup, -⟩ :=
    Graph.publish_leaves_last_values hlive ⟨0, 0⟩ (.ofList [("Y", .int 2), ("X", .int 1)])
  refine ⟨hlive, ?_, ?_, ?_, hshape, by decide +kernel, (hreached _).mpr ?_, hnodup⟩
  · exact (hvalues ⟨0, 0⟩ "Y").trans (by decide +kernel)
  · exact (hvalues ⟨1, 0⟩ "input").trans (by decide +kernel)
  · exact (hvalues ⟨2, 0⟩ "input").trans (by decide +kernel)
  · decide

end ScriptGraph
