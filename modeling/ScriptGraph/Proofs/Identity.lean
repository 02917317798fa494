import Mathlib.Data.List.Induction
import Mathlib.Data.List.Infix
import ScriptGraph.Proofs.RoundTrip

/-! The ids of nodes over the life of a graph. A slot counts in its generation how often it has been
vacated, and an id carries the count at which it was issued. As long as neither slots nor
generations run out, an id finds a node from the moment it is issued until that node is removed and
never after, however slots are reused and however often the graph is stored and loaded. -/
namespace ScriptGraph

/-- Looking the id up finds nothing, and every edit that needs its node is refused for that. -/
structure Graph.Unknown (g : Graph) (id : NodeId) : Prop where
  node : g.node? id = none
  remove : g.removeNode id = .error (.unknownNode id)
  setProperty : ∀ name value, g.setProperty id name value = .error (.unknownNode id)
  move : ∀ position, g.moveNode id position = .error (.unknownNode id)
  connectFrom : ∀ registry connection port target targetPort,
    g.connect registry connection id port target targetPort = .error (.unknownNode id)
  /-- Of two ends that are not there the source is named. -/
  connectTo : ∀ registry connection source sourcePort port,
    g.connect registry connection source sourcePort id port =
      .error (.unknownNode (if g.nodes.contains source then id else source))

lemma Graph.unknown_of_absent {g : Graph} {id : NodeId} (h : g.node? id = none) :
    g.Unknown id where
  node := h
  remove := by
    have hget : g.nodes.get? id = none := h
    simp [removeNode, Arena.remove, hget]
  setProperty name value := by simp [Graph.setProperty, requireNode, h, bind, Except.bind]
  move position := by simp [moveNode, requireNode, h, bind, Except.bind]
  connectFrom registry connection port target targetPort := by
    simp [connect, checkLink, requireNode, h, bind, Except.bind]
  connectTo registry connection source sourcePort port := by
    cases hs : g.node? source with
    | none =>
      have hget : g.nodes.get? source = none := hs
      simp [connect, checkLink, requireNode, hs, Arena.contains, hget, bind, Except.bind]
    | some n =>
      have hget : g.nodes.get? source = some n := hs
      simp [connect, checkLink, requireNode, hs, h, Arena.contains, hget, bind, Except.bind]

namespace Arena

/-- The id found nothing and finds a node now. It carries the generation of its slot, which is the
first if the slot is new. -/
structure Issues (a b : Arena) (id : NodeId) : Prop where
  absent : a.contains id = false
  contains : ∀ j, b.contains j = true ↔ j = id ∨ a.contains j = true
  generation : id.generation = (a.generation? id.index).getD 0
  generation? : ∀ index, b.generation? index =
    if index = id.index then some id.generation else a.generation? index

/-- The id found a node and finds none now. Its slot has moved on to the next generation. -/
structure Retires (a b : Arena) (id : NodeId) : Prop where
  present : a.contains id = true
  contains : ∀ j, b.contains j = true ↔ j ≠ id ∧ a.contains j = true
  generation : a.generation? id.index = some id.generation
  generation? : ∀ index, b.generation? index =
    if index = id.index then some (id.generation + 1) else a.generation? index

lemma issues_insert {a : Arena} (h : a.WellFormed) (hsize : a.slots.length < 2 ^ 32)
    (build : NodeId → Node) : a.Issues (a.insert build).2 (a.insert build).1 where
  absent := by rw [contains, get?_issued h hsize build, Option.isSome_none]
  contains j := by
    by_cases hj : j = (a.insert build).1
    · rw [hj, Arena.contains, get?_insert_self h hsize build]
      simp
    · rw [Arena.contains, get?_insert_of_ne h hj, ← Arena.contains]
      simp [hj]
  generation := generation_issued h hsize build
  generation? := generation?_insert h hsize build

lemma retires_remove {a b : Arena} {id : NodeId} {n : Node} (h : a.remove id = some (n, b)) :
    a.Retires b id where
  present := contains_iff.mpr ⟨n, (remove_eq_some h).1⟩
  contains j := by
    by_cases hj : j = id
    · rw [hj, Arena.contains, get?_remove_self h]
      simp
    · rw [Arena.contains, get?_remove_of_ne h hj, ← Arena.contains]
      simp [hj]
  generation := generation?_of_get? (remove_eq_some h).1
  generation? := generation?_remove h

end Arena

namespace Graph

variable {g h : Graph} {node : NodeId}

lemma WellFormed.issues_addNode (hg : g.WellFormed) (hsize : g.nodes.slots.length < 2 ^ 32)
    {registry : Registry} {typeName : String} {position : Point}
    (ok : g.addNode registry typeName position = .ok (node, h)) : g.nodes.Issues h.nodes node := by
  obtain ⟨t, nodes, _, hinsert, rfl⟩ := addNode_eq_ok ok
  have hissues := Arena.issues_insert hg.nodes hsize fun id =>
    ⟨id, typeName, position, t.seed .empty⟩
  rw [hinsert] at hissues
  exact hissues

lemma retires_removeNode {n : Node} (ok : g.removeNode node = .ok (n, h)) :
    g.nodes.Retires h.nodes node := by
  obtain ⟨nodes, hremove, rfl⟩ := removeNode_eq_ok ok
  exact Arena.retires_remove hremove

end Graph

/-- What can happen to a graph. -/
inductive Graph.Change where
  | edit (e : Edit)
  | tick {σ : Type} [Host σ] (rules : TickRules) (collisionsOnly : Bool) (scene : σ)
  /-- The graph is stored and loaded in its own place. -/
  | reload (registry : Registry)

namespace Graph.Change

/-- The graph after a change, or the reason why it was refused. -/
def apply (g : Graph) : Change → Except GraphError Graph
  | .edit e => e.apply g
  | @tick _ _ rules collisionsOnly scene => .ok (rules.run collisionsOnly g scene).graph
  | .reload registry => (g.snapshot.load registry).1.map Loaded.graph

/-- The id of the node that a change adds. -/
def issued? (g : Graph) : Change → Option NodeId
  | .edit (.addNode registry typeName position) =>
    match g.addNode registry typeName position with
    | .ok (id, _) => some id
    | .error _ => none
  | _ => none

/-- The id of the node that a change removes. -/
def retired? (g : Graph) : Change → Option NodeId
  | .edit (.removeNode id) =>
    match g.removeNode id with
    | .ok _ => some id
    | .error _ => none
  | _ => none

section Inversion

variable {g h : Graph} {c : Change} {id : NodeId}

lemma issued?_eq_some (hi : c.issued? g = some id) :
    ∃ registry typeName position h, c = .edit (.addNode registry typeName position) ∧
      g.addNode registry typeName position = .ok (id, h) := by
  unfold issued? at hi
  split at hi
  · next registry typeName position =>
    split at hi
    · next h hok =>
      rw [← Option.some.inj hi]
      exact ⟨registry, typeName, position, h, rfl, hok⟩
    · cases hi
  · cases hi

lemma retired?_eq_some (hr : c.retired? g = some id) :
    ∃ n h, c = .edit (.removeNode id) ∧ g.removeNode id = .ok (n, h) := by
  unfold retired? at hr
  split at hr
  · split at hr
    · next removed hok =>
      rw [← Option.some.inj hr]
      exact ⟨removed.1, removed.2, rfl, hok⟩
    · cases hr
  · cases hr

lemma wellFormed_apply (hg : g.WellFormed) (ok : c.apply g = .ok h) : h.WellFormed := by
  cases c with
  | edit e => exact hg.edit ok
  | tick rules collisionsOnly scene =>
    obtain rfl := Except.ok.inj ok
    exact hg.tick rules collisionsOnly scene
  | reload registry =>
    obtain ⟨loaded, hload, rfl⟩ := map_eq_ok_iff.mp ok
    exact .load (Prod.ext hload rfl)

/-- A change that neither issues nor retires an id leaves every slot with its generation and with
the id of the node in it. -/
theorem labels_apply (hg : g.WellFormed) (hsize : g.nodes.slots.length < 2 ^ 32)
    (ok : c.apply g = .ok h) (hi : c.issued? g = none) (hr : c.retired? g = none) :
    h.nodes.slots.map Arena.label = g.nodes.slots.map Arena.label := by
  cases c with
  | edit e =>
    cases e with
    | addNode registry typeName position =>
      obtain ⟨added, hadd, _⟩ := map_eq_ok_iff.mp ok
      simp [issued?, hadd] at hi
    | removeNode node =>
      obtain ⟨removed, hremove, _⟩ := map_eq_ok_iff.mp ok
      simp [retired?, hremove] at hr
    | connect =>
      obtain ⟨_, rfl⟩ := connect_eq_ok ok
      rfl
    | disconnect =>
      obtain ⟨⟨_, h⟩, hdone, rfl⟩ := map_eq_ok_iff.mp ok
      obtain ⟨_, rfl⟩ := disconnect_eq_ok hdone
      rfl
    | setProperty node =>
      rw [setProperty_eq_ok ok]
      exact g.nodes.labels_modify node fun _ => rfl
    | moveNode node =>
      rw [moveNode_eq_ok ok]
      exact g.nodes.labels_modify node fun _ => rfl
    | setVariable | removeVariable =>
      obtain rfl := Except.ok.inj ok
      rfl
    | reseed registry =>
      obtain rfl := Except.ok.inj ok
      exact g.nodes.labels_map (Snapshot.id_refreshNode registry)
  | tick rules collisionsOnly scene =>
    obtain rfl := Except.ok.inj ok
    exact labels_of_shape (rules.shape_run collisionsOnly g scene)
  | reload registry =>
    obtain ⟨loaded, hload, rfl⟩ := map_eq_ok_iff.mp ok
    rw [hg.load_snapshot (Nat.le_of_lt hsize) registry] at hload
    obtain rfl := Except.ok.inj hload
    exact g.nodes.labels_map (Snapshot.id_refreshNode registry)

end Inversion

end Graph.Change

/-- A graph, with the ids that were issued and retired on the way to it. -/
structure Ledger where
  graph : Graph
  issued : List NodeId
  retired : List NodeId

namespace Ledger

/-- Enters a change; one that is refused leaves the graph as it was. -/
def record (l : Ledger) (c : Graph.Change) : Ledger where
  graph := match c.apply l.graph with
    | .ok g => g
    | .error _ => l.graph
  issued := l.issued ++ (c.issued? l.graph).toList
  retired := l.retired ++ (c.retired? l.graph).toList

/-- The life of a graph that starts out without nodes. -/
def history (id : GraphId) (entity : EntityId) (changes : List Graph.Change) : Ledger :=
  changes.foldl record ⟨.empty id entity, [], []⟩

/-- How often a slot has been vacated. -/
def vacated (l : Ledger) (index : UInt32) : Nat := l.retired.countP fun id => id.index = index

lemma vacated_concat (l : Ledger) (g : Graph) (node : NodeId) (index : UInt32) :
    vacated ⟨g, l.issued, l.retired ++ [node]⟩ index =
      l.vacated index + if index = node.index then 1 else 0 := by
  simp [vacated, List.countP_append, List.countP_singleton, eq_comm]

/-- A change adds a node, removes one, or leaves every slot with its generation and the node in it,
whatever becomes of the rest. -/
inductive Step (l : Ledger) : Ledger → Prop
  | adds {registry typeName position node g}
      (ok : l.graph.addNode registry typeName position = .ok (node, g)) :
      Step l ⟨g, l.issued ++ [node], l.retired⟩
  | removes {node n g} (ok : l.graph.removeNode node = .ok (n, g)) :
      Step l ⟨g, l.issued, l.retired ++ [node]⟩
  | keeps {g} (wellFormed : g.WellFormed)
      (labels : g.nodes.slots.map Arena.label = l.graph.nodes.slots.map Arena.label) :
      Step l ⟨g, l.issued, l.retired⟩

variable {l : Ledger}

lemma step_record (hl : l.graph.WellFormed) (hsize : l.graph.nodes.slots.length < 2 ^ 32)
    (c : Graph.Change) : l.Step (l.record c) := by
  cases hi : c.issued? l.graph with
  | some node =>
    obtain ⟨registry, typeName, position, g, rfl, ok⟩ := Graph.Change.issued?_eq_some hi
    have hrecord : l.record (.edit (.addNode registry typeName position)) =
        ⟨g, l.issued ++ [node], l.retired⟩ := by
      simp [record, Graph.Change.apply, Edit.apply, Graph.Change.retired?, hi, ok, Except.map]
    exact hrecord ▸ .adds ok
  | none =>
    cases hr : c.retired? l.graph with
    | some node =>
      obtain ⟨n, g, rfl, ok⟩ := Graph.Change.retired?_eq_some hr
      have hrecord : l.record (.edit (.removeNode node)) =
          ⟨g, l.issued, l.retired ++ [node]⟩ := by
        simp [record, Graph.Change.apply, Edit.apply, hi, hr, ok, Except.map]
      exact hrecord ▸ .removes ok
    | none =>
      have hrecord (g : Graph) (hg : (l.record c).graph = g) :
          l.record c = ⟨g, l.issued, l.retired⟩ := by
        rw [← hg]
        simp [record, hi, hr]
      cases happly : c.apply l.graph with
      | error e =>
        rw [hrecord l.graph (by simp [record, happly])]
        exact .keeps hl rfl
      | ok g =>
        rw [hrecord g (by simp [record, happly])]
        exact .keeps (c.wellFormed_apply hl happly) (c.labels_apply hl hsize happly hi hr)

/-- The books of a graph are right: what was issued is there or has been retired, and the generation
of a slot is the number of ids retired from it and past all of them. -/
structure Sound (l : Ledger) : Prop where
  wellFormed : l.graph.WellFormed
  nodup : l.issued.Nodup
  mem_issued : ∀ id, id ∈ l.issued ↔ l.graph.nodes.contains id = true ∨ id ∈ l.retired
  counted : ∀ index generation, l.graph.nodes.generation? index = some generation →
    generation.toNat = l.vacated index
  past : ∀ id ∈ l.retired, ∃ generation, l.graph.nodes.generation? id.index = some generation ∧
    id.generation < generation

namespace Sound

lemma empty (id : GraphId) (entity : EntityId) : Sound ⟨.empty id entity, [], []⟩ where
  wellFormed := .empty id entity
  nodup := List.nodup_nil
  mem_issued id := by simp [Graph.empty, Arena.contains, Arena.get?, Arena.slot?, Arena.empty]
  counted index generation hs := by
    simp [Graph.empty, Arena.generation?, Arena.slot?, Arena.empty] at hs
  past := by simp

lemma notMem_retired (h : l.Sound) {id : NodeId}
    (hgen : l.graph.nodes.generation? id.index = some id.generation) : id ∉ l.retired := by
  intro hr
  obtain ⟨generation, hg, hlt⟩ := h.past id hr
  obtain rfl := Option.some.inj (hg.symm.trans hgen)
  exact UInt32.lt_irrefl _ hlt

/-- An id finds a node exactly if it has been issued and not been retired. -/
theorem contains_iff (h : l.Sound) (id : NodeId) :
    l.graph.nodes.contains id = true ↔ id ∈ l.issued ∧ id ∉ l.retired := by
  constructor
  · intro hid
    obtain ⟨n, hn⟩ := Arena.contains_iff.mp hid
    exact ⟨(h.mem_issued id).mpr (.inl hid), h.notMem_retired (Arena.generation?_of_get? hn)⟩
  · rintro ⟨hi, hr⟩
    exact ((h.mem_issued id).mp hi).resolve_right hr

lemma toNat_generation (h : l.Sound) (index : UInt32) :
    ((l.graph.nodes.generation? index).getD 0).toNat = l.vacated index := by
  cases hs : l.graph.nodes.generation? index with
  | some generation => exact h.counted index generation hs
  | none =>
    have hnone : ∀ id ∈ l.retired, ¬ id.index = index := by
      rintro id hid rfl
      obtain ⟨_, hgen, _⟩ := h.past id hid
      rw [hs] at hgen
      cases hgen
    exact (List.countP_eq_zero.mpr (by simpa using hnone)).symm

lemma keeps (h : l.Sound) {g : Graph} (hg : g.WellFormed)
    (hlabels : g.nodes.slots.map Arena.label = l.graph.nodes.slots.map Arena.label) :
    Sound ⟨g, l.issued, l.retired⟩ where
  wellFormed := hg
  nodup := h.nodup
  mem_issued id := by
    rw [Arena.contains_of_labels hlabels]
    exact h.mem_issued id
  counted index generation hs := by
    rw [Arena.generation?_of_labels hlabels] at hs
    exact h.counted index generation hs
  past id hid := by
    rw [Arena.generation?_of_labels hlabels]
    exact h.past id hid

lemma adds (h : l.Sound) {g : Graph} {node : NodeId} (hg : g.WellFormed)
    (hissues : l.graph.nodes.Issues g.nodes node) :
    Sound ⟨g, l.issued ++ [node], l.retired⟩ := by
  -- a retired id is behind the generation of its slot, and this one is not
  have hunretired : node ∉ l.retired := by
    intro hr
    obtain ⟨generation, hs, hlt⟩ := h.past node hr
    rw [hissues.generation, hs] at hlt
    exact UInt32.lt_irrefl _ hlt
  have hunissued : node ∉ l.issued := by
    rw [h.mem_issued, hissues.absent]
    simp [hunretired]
  refine ⟨hg, ?_, ?_, ?_, ?_⟩
  · exact h.nodup.append (List.nodup_singleton node) (by simpa using hunissued)
  · intro id
    rw [List.mem_append, List.mem_singleton, h.mem_issued, hissues.contains]
    tauto
  · intro index generation hs
    rw [hissues.generation?] at hs
    split at hs
    · next hindex =>
      rw [← Option.some.inj hs, hissues.generation, ← hindex]
      exact h.toNat_generation index
    · exact h.counted index generation hs
  · intro id hid
    obtain ⟨generation, hs, hlt⟩ := h.past id hid
    refine ⟨generation, ?_, hlt⟩
    rw [hissues.generation?]
    split
    · next hindex => rw [hissues.generation, ← hindex, hs, Option.getD_some]
    · exact hs

lemma removes (h : l.Sound) {g : Graph} {node : NodeId} (hg : g.WellFormed)
    (hretires : l.graph.nodes.Retires g.nodes node) (hroom : l.vacated node.index + 1 < 2 ^ 32) :
    Sound ⟨g, l.issued, l.retired ++ [node]⟩ := by
  have hcount := h.counted _ _ hretires.generation
  have hnext : (node.generation + 1).toNat = node.generation.toNat + 1 := by
    rw [UInt32.toNat_add, UInt32.toNat_one]
    omega
  refine ⟨hg, h.nodup, ?_, ?_, ?_⟩
  · intro id
    rw [h.mem_issued, List.mem_append, List.mem_singleton, hretires.contains]
    by_cases hid : id = node
    · simp [hid, hretires.present]
    · simp [hid]
  · intro index generation hs
    rw [hretires.generation?] at hs
    rw [vacated_concat]
    split at hs
    · next hindex => rw [← Option.some.inj hs, hnext, hcount, hindex, if_pos rfl]
    · next hindex =>
      rw [if_neg hindex]
      exact h.counted index generation hs
  · intro id hid
    rw [hretires.generation?]
    rcases List.mem_append.mp hid with hid | hid
    · obtain ⟨generation, hs, hlt⟩ := h.past id hid
      split
      · next hindex =>
        rw [hindex, hretires.generation] at hs
        obtain rfl := Option.some.inj hs
        exact ⟨_, rfl, by rw [UInt32.lt_iff_toNat_lt] at hlt ⊢; omega⟩
      · exact ⟨generation, hs, hlt⟩
    · rw [List.mem_singleton.mp hid, if_pos rfl]
      exact ⟨_, rfl, by rw [UInt32.lt_iff_toNat_lt]; omega⟩

end Sound

/-- What every change keeps, as long as there is room for one more slot and one more generation. -/
lemma Step.sound {k : Ledger} (step : l.Step k) (h : l.Sound)
    (hsize : l.graph.nodes.slots.length < 2 ^ 32) (hroom : ∀ index, k.vacated index < 2 ^ 32) :
    k.Sound := by
  cases step with
  | adds ok => exact h.adds (h.wellFormed.addNode ok) (h.wellFormed.issues_addNode hsize ok)
  | @removes node n g ok =>
    refine h.removes (h.wellFormed.removeNode ok) (Graph.retires_removeNode ok) ?_
    have := hroom node.index
    rwa [vacated_concat, if_pos rfl] at this
  | keeps hg hlabels => exact h.keeps hg hlabels

variable {id : GraphId} {entity : EntityId} {changes : List Graph.Change}

lemma history_concat (c : Graph.Change) :
    history id entity (changes ++ [c]) = (history id entity changes).record c := by
  simp [history]

lemma vacated_le_record (l : Ledger) (c : Graph.Change) (index : UInt32) :
    l.vacated index ≤ (l.record c).vacated index := by
  simp [vacated, record, List.countP_append]

theorem sound_history
    (hslots : ∀ before, before <+: changes →
      (history id entity before).graph.nodes.slots.length < 2 ^ 32)
    (hvacated : ∀ index, (history id entity changes).vacated index < 2 ^ 32) :
    (history id entity changes).Sound := by
  induction changes using List.reverseRecOn with
  | nil => exact .empty id entity
  | append_singleton changes c ih =>
    have hsize := hslots changes (List.prefix_append changes [c])
    have hsound : (history id entity changes).Sound := by
      refine ih (fun before hb => hslots before (hb.trans (List.prefix_append changes [c]))) ?_
      intro index
      have hle := vacated_le_record (history id entity changes) c index
      rw [← history_concat] at hle
      exact Nat.lt_of_le_of_lt hle (hvacated index)
    have hstep := step_record hsound.wellFormed hsize c
    rw [← history_concat] at hstep
    exact hstep.sound hsound hsize hvacated

/-- In the life of a graph, whatever edits, ticks and reloads it is made of, no id is issued twice.
At its end an id finds a node exactly if it has been issued and not been retired, and to every edit
a retired id is unknown. This takes for granted that there never are more slots than can be named,
and that no slot is vacated more often than its generation can count. -/
theorem ids_never_reissued (id : GraphId) (entity : EntityId) (changes : List Graph.Change)
    (hslots : ∀ before, before <+: changes →
      (history id entity before).graph.nodes.slots.length < 2 ^ 32)
    (hvacated : ∀ index, (history id entity changes).vacated index < 2 ^ 32) :
    (history id entity changes).issued.Nodup ∧
      (∀ node, ((history id entity changes).graph.node? node).isSome = true ↔
        node ∈ (history id entity changes).issued ∧ node ∉ (history id entity changes).retired) ∧
      ∀ node ∈ (history id entity changes).retired,
        (history id entity changes).graph.Unknown node := by
  have hsound := sound_history hslots hvacated
  refine ⟨hsound.nodup, hsound.contains_iff, ?_⟩
  intro node hretired
  have habsent : ¬ (history id entity changes).graph.nodes.contains node = true := by
    rw [hsound.contains_iff]
    exact fun h => h.2 hretired
  apply Graph.unknown_of_absent
  simpa [Arena.contains, Graph.node?] using habsent

/-- Two slots are filled and vacated by turns. Each reload has the lower one used first, whatever
was vacated last, and one removal comes too late. -/
def restless : List Graph.Change :=
  [.edit (.addNode .builtins "OnUpdate" .zero), .edit (.addNode .builtins "Print" .zero),
    .edit (.removeNode ⟨0, 0⟩), .edit (.removeNode ⟨1, 0⟩), .reload .empty,
    .edit (.addNode .builtins "Add" .zero),
    .tick ⟨.builtins, ⟨default, .zero, 0, none⟩, 1⟩ false Scene.empty,
    .edit (.removeNode ⟨0, 1⟩), .edit (.removeNode ⟨0, 0⟩), .reload .builtins,
    .edit (.addNode .builtins "Print" .zero)]

theorem restless_ids_never_reissued :
    (∀ before, before <+: restless →
      (history default default before).graph.nodes.slots.length < 2 ^ 32) ∧
    (∀ index, (history default default restless).vacated index < 2 ^ 32) ∧
    (history default default restless).issued = [⟨0, 0⟩, ⟨1, 0⟩, ⟨0, 1⟩, ⟨0, 2⟩] ∧
    (history default default restless).issued.Nodup ∧
    ((history default default restless).graph.node? ⟨0, 2⟩).isSome = true ∧
    (history default default restless).graph.Unknown ⟨0, 1⟩ := by
  have hslots : ∀ before, before <+: restless →
      (history default default before).graph.nodes.slots.length < 2 ^ 32 := by
    intro before hb
    have hall : ∀ before ∈ restless.inits,
        (history default default before).graph.nodes.slots.length < 2 ^ 32 := by decide
    exact hall before ((List.mem_inits before restless).mpr hb)
  have hissued : (history default default restless).issued = [⟨0, 0⟩, ⟨1, 0⟩, ⟨0, 1⟩, ⟨0, 2⟩] := by
    decide
  have hretired : (history default default restless).retired = [⟨0, 0⟩, ⟨1, 0⟩, ⟨0, 1⟩] := by
    decide
  have hvacated (index : UInt32) : (history default default restless).vacated index < 2 ^ 32 := by
    refine Nat.lt_of_le_of_lt List.countP_le_length ?_
    rw [hretired]
    decide
  obtain ⟨hnodup, hlive, hunknown⟩ := ids_never_reissued default default restless hslots hvacated
  refine ⟨hslots, hvacated, hissued, hnodup, (hlive _).mpr ?_, hunknown _ ?_⟩
  · rw [hissued, hretired]
    decide
  · rw [hretired]
    decide

end Ledger

end ScriptGraph
