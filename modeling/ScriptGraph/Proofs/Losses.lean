import ScriptGraph.Proofs.RoundTrip

/-! What a load makes of the parts of a stored graph. No node is lost, and a connection that is
dropped leaves a warning of its own. The one way to lose a connection without a word is to store
another under the same id: of those that could all be taken up, the last one stays. -/
namespace ScriptGraph

/-- Whether the warning is about a node that was kept, not about anything that was dropped. -/
def GraphError.isPlaceholder : GraphError → Bool
  | .placeholderKept .. => true
  | _ => false

/-- The warnings about what was dropped. -/
def Loaded.losses (l : Loaded) : List GraphError := l.warnings.filter fun e => !e.isPlaceholder

namespace Graph

variable {g : Graph} {registry : Registry} {c : Connection} {e : GraphError}

lemma isPlaceholder_of_requireNode {id : NodeId} (h : g.requireNode id = .error e) :
    e.isPlaceholder = false := by
  unfold requireNode at h
  split at h <;> cases h
  rfl

lemma isPlaceholder_of_requireType {name : String} (h : requireType registry name = .error e) :
    e.isPlaceholder = false := by
  unfold requireType at h
  split at h <;> cases h
  rfl

lemma isPlaceholder_of_requirePort {found : Option Port} {id : NodeId} {name : String}
    (h : requirePort found id name = .error e) : e.isPlaceholder = false := by
  unfold requirePort at h
  split at h <;> cases h
  rfl

lemma isPlaceholder_of_checkLink {source target : NodeId} {sourcePort targetPort : String}
    (h : g.checkLink registry source sourcePort target targetPort = .error e) :
    e.isPlaceholder = false := by
  unfold checkLink at h
  obtain h | ⟨sourceNode, -, h⟩ := bind_eq_error.mp h
  · exact isPlaceholder_of_requireNode h
  obtain h | ⟨targetNode, -, h⟩ := bind_eq_error.mp h
  · exact isPlaceholder_of_requireNode h
  obtain h | ⟨sourceType, -, h⟩ := bind_eq_error.mp h
  · exact isPlaceholder_of_requireType h
  obtain h | ⟨targetType, -, h⟩ := bind_eq_error.mp h
  · exact isPlaceholder_of_requireType h
  obtain h | ⟨output, -, h⟩ := bind_eq_error.mp h
  · exact isPlaceholder_of_requirePort h
  obtain h | ⟨input, -, h⟩ := bind_eq_error.mp h
  · exact isPlaceholder_of_requirePort h
  split at h <;> cases h
  rfl

lemma isPlaceholder_of_objection? (h : g.objection? registry c = some e) :
    e.isPlaceholder = false := by
  unfold objection? Snapshot.checkConnection at h
  cases hs : g.node? c.source with
  | none =>
    simp only [hs, Option.some.injEq] at h
    exact h ▸ rfl
  | some n =>
    cases ht : g.node? c.target with
    | none =>
      simp only [hs, ht, Option.some.injEq] at h
      exact h ▸ rfl
    | some m =>
      simp only [hs, ht] at h
      split at h
      · next he =>
        cases h
        split at he
        · exact isPlaceholder_of_checkLink he
        · cases he
      · cases h

lemma length_takenUp_add (g : Graph) (registry : Registry) (cs : List Connection) :
    (g.takenUp registry cs).length + (cs.filterMap (g.objection? registry)).length =
      cs.length := by
  induction cs with
  | nil => rfl
  | cons c cs ih =>
    unfold takenUp at ih ⊢
    cases hc : g.objection? registry c with
    | none => simp [hc]; omega
    | some e => simp [hc]; omega

lemma mem_takenUp {cs : List Connection} :
    c ∈ g.takenUp registry cs ↔ c ∈ cs ∧ g.objection? registry c = none := by
  simp [takenUp]

end Graph

namespace Snapshot

variable {registry : Registry} {p : Snapshot} {l : Loaded} {log : Log}

lemma node?_load (ok : p.load registry = (.ok l, log)) {n : Node} (hn : n ∈ p.nodes) :
    l.graph.node? n.id = some (refreshNode registry n) := by
  obtain ⟨harena, -, -⟩ := load_eq_ok ok
  obtain ⟨-, hnodup, hnodes⟩ := Arena.restore_eq_ok_iff.mp harena
  have hmem : refreshNode registry n ∈ l.graph.nodes.nodes := by
    rw [hnodes]
    exact (Arena.perm_filterMap_restoredSlots p.vacant hnodup).mem_iff.mpr (List.mem_map_of_mem hn)
  have hsize : l.graph.nodes.slots.length ≤ 2 ^ 32 := by
    rw [hnodes]
    simpa [Arena.restoredSlots] using Arena.slotCount_le_indices _
  have hfound := (Arena.wellFormed_restore harena).get?_id hsize hmem
  rwa [id_refreshNode] at hfound

lemma losses_load (ok : p.load registry = (.ok l, log)) :
    l.losses = p.connections.filterMap (l.graph.objection? registry) := by
  obtain ⟨-, -, hwarnings⟩ := load_eq_ok ok
  rw [Loaded.losses, hwarnings, List.filter_append]
  have hkept : ((p.placeholders registry).map fun n =>
      GraphError.placeholderKept n.id n.typeName).filter (fun e => !e.isPlaceholder) = [] := by
    simp [GraphError.isPlaceholder]
  have hdropped : (p.connections.filterMap (l.graph.objection? registry)).filter
      (fun e => !e.isPlaceholder) = p.connections.filterMap (l.graph.objection? registry) := by
    rw [List.filter_eq_self]
    intro e he
    obtain ⟨c, -, hc⟩ := List.mem_filterMap.mp he
    simp [Graph.isPlaceholder_of_objection? hc]
  rw [hkept, hdropped, List.nil_append]

lemma size_connections_load (ok : p.load registry = (.ok l, log)) :
    l.graph.connections.size =
      ((l.graph.takenUp registry p.connections).map Connection.id).dedup.length := by
  obtain ⟨-, hconn, -⟩ := load_eq_ok ok
  rw [hconn, Table.size_ofList, List.map_map]
  rfl

/-- Under an id that something is taken up with stands one of those that are. -/
lemma exists_find?_load (ok : p.load registry = (.ok l, log)) {c : Connection}
    (hc : c ∈ l.graph.takenUp registry p.connections) :
    ∃ d ∈ l.graph.takenUp registry p.connections, d.id = c.id ∧
      l.graph.connections.find? c.id = some d := by
  obtain ⟨-, hconn, -⟩ := load_eq_ok ok
  have hkey : c.id ∈ l.graph.connections.keys := by
    rw [hconn, Table.mem_keys_ofList, List.map_map]
    exact List.mem_map_of_mem hc
  obtain ⟨d, hd⟩ := Table.mem_keys_iff_find?.mp hkey
  have hentry := Table.find?_eq_some_iff.mp hd
  rw [hconn] at hentry
  obtain ⟨b, hb, he⟩ := List.mem_map.mp (Table.mem_of_mem_ofList hentry)
  obtain ⟨hid, rfl⟩ := Prod.mk.inj he
  exact ⟨b, hb, hid, hd⟩

/-- What is there and what is reported adds up to what was stored unless an id is taken up twice. -/
lemma length_connections_eq_iff (ok : p.load registry = (.ok l, log)) :
    p.connections.length = l.graph.connections.size + l.losses.length ↔
      ((l.graph.takenUp registry p.connections).map Connection.id).Nodup := by
  have hsplit := l.graph.length_takenUp_add registry p.connections
  rw [losses_load ok, size_connections_load ok, ← hsplit, Nat.add_right_cancel_iff,
    ← List.length_map Connection.id, ← List.dedup_eq_self]
  constructor
  · intro hlen
    exact (List.dedup_sublist _).eq_of_length hlen.symm
  · intro hself
    rw [hself]

/-- A load keeps every node under its id, refreshed, and it reports every connection that it objects
to, in their order. Of the others that share an id it keeps one and says nothing of the rest. So the
connections that are there and those that are reported add up to the stored ones exactly if no id
occurs twice among those that it does not object to, and then it keeps all of these as they are. -/
theorem load_keeps_or_reports (ok : p.load registry = (.ok l, log)) :
    (∀ n ∈ p.nodes, l.graph.node? n.id = some (refreshNode registry n)) ∧
      l.losses = p.connections.filterMap (l.graph.objection? registry) ∧
      (∀ c ∈ l.graph.takenUp registry p.connections,
        ∃ d ∈ l.graph.takenUp registry p.connections, d.id = c.id ∧
          l.graph.connections.find? c.id = some d) ∧
      (p.connections.length = l.graph.connections.size + l.losses.length ↔
        ((l.graph.takenUp registry p.connections).map Connection.id).Nodup) ∧
      (((l.graph.takenUp registry p.connections).map Connection.id).Nodup →
        ∀ c ∈ p.connections, l.graph.connections.find? c.id = some c ∨
          ∃ e ∈ l.losses, l.graph.objection? registry c = some e) := by
  refine ⟨fun n hn => node?_load ok hn, losses_load ok, fun c hc => exists_find?_load ok hc,
    length_connections_eq_iff ok, ?_⟩
  intro hnodup c hc
  cases he : l.graph.objection? registry c with
  | some e =>
    rw [losses_load ok]
    exact .inr ⟨e, List.mem_filterMap.mpr ⟨c, hc, he⟩, rfl⟩
  | none =>
    have htaken := Graph.mem_takenUp.mpr ⟨hc, he⟩
    obtain ⟨d, hd, hid, hfind⟩ := exists_find?_load ok htaken
    rw [List.inj_on_of_nodup_map hnodup hd htaken hid] at hfind
    exact .inl hfind

end Snapshot

/-- Of the four connections of a stored graph one leads to a missing node, one to a port that is not
there and one to a node of an unknown type. Two of them share an id. -/
def Snapshot.frayed : Snapshot where
  version := 1
  id := default
  entity := default
  nodes :=
    [⟨⟨2, 0⟩, "Print", .zero, .ofList [("Value", .text "hello")]⟩,
      ⟨⟨0, 1⟩, "OnStart", .zero, .empty⟩, ⟨⟨1, 0⟩, "Gadget", .zero, .empty⟩]
  connections :=
    [⟨⟨.ofNat 1⟩, ⟨0, 1⟩, "Exec", ⟨0, 0⟩, "Exec"⟩, ⟨⟨.ofNat 2⟩, ⟨0, 1⟩, "Exec", ⟨1, 0⟩, "Start"⟩,
      ⟨⟨.ofNat 3⟩, ⟨0, 1⟩, "Exec", ⟨2, 0⟩, "Text"⟩, ⟨⟨.ofNat 1⟩, ⟨0, 1⟩, "Exec", ⟨2, 0⟩, "Exec"⟩]
  vars := []
  vacant := []

/-- What it is loaded as. -/
def Loaded.trimmed : Loaded where
  graph :=
    { id := default
      entity := default
      nodes :=
        ⟨[⟨1, some ⟨⟨0, 1⟩, "OnStart", .zero, .empty⟩⟩,
          ⟨0, some ⟨⟨1, 0⟩, "Gadget", .zero, .empty⟩⟩,
          ⟨0, some ⟨⟨2, 0⟩, "Print", .zero, .ofList [("Value", .text "hello")]⟩⟩], [], 3⟩
      connections := .ofList
        [(⟨.ofNat 2⟩, ⟨⟨.ofNat 2⟩, ⟨0, 1⟩, "Exec", ⟨1, 0⟩, "Start"⟩),
          (⟨.ofNat 1⟩, ⟨⟨.ofNat 1⟩, ⟨0, 1⟩, "Exec", ⟨2, 0⟩, "Exec"⟩)]
      vars := .empty }
  warnings :=
    [.placeholderKept ⟨1, 0⟩ "Gadget", .unknownNode ⟨0, 0⟩, .invalidPort ⟨2, 0⟩ "Text"]

theorem load_frayed_keeps_or_reports :
    ∃ log, Snapshot.frayed.load .builtins = (.ok .trimmed, log) ∧
      (∀ n ∈ Snapshot.frayed.nodes,
        Loaded.trimmed.graph.node? n.id = some (Snapshot.refreshNode .builtins n)) ∧
      Loaded.trimmed.losses = [.unknownNode ⟨0, 0⟩, .invalidPort ⟨2, 0⟩ "Text"] ∧
      Snapshot.frayed.connections.length =
        Loaded.trimmed.graph.connections.size + Loaded.trimmed.losses.length := by
  have ok : (Snapshot.frayed.load .builtins).1 = .ok .trimmed := by rfl
  have hload := Prod.ext (y := (_, (Snapshot.frayed.load .builtins).2)) ok rfl
  obtain ⟨hnodes, hlosses, -, hbalance, -⟩ := Snapshot.load_keeps_or_reports hload
  exact ⟨_, hload, hnodes, hlosses.trans (by decide), hbalance.mpr (by decide)⟩

/-- Two connections that could both be made are stored under one id. -/
def Snapshot.doubled : Snapshot where
  version := 1
  id := default
  entity := default
  nodes :=
    [⟨⟨0, 0⟩, "OnStart", .zero, .empty⟩, ⟨⟨1, 0⟩, "Print", .zero, .empty⟩,
      ⟨⟨2, 0⟩, "Print", .zero, .empty⟩]
  connections :=
    [⟨⟨.ofNat 1⟩, ⟨0, 0⟩, "Exec", ⟨1, 0⟩, "Exec"⟩, ⟨⟨.ofNat 1⟩, ⟨0, 0⟩, "Exec", ⟨2, 0⟩, "Exec"⟩]
  vars := []
  vacant := []

/-- The first of them is not there after the load, and nothing is said about it. -/
theorem load_doubled_loses_silently :
    ∃ l log, Snapshot.doubled.load .builtins = (.ok l, log) ∧ l.losses = [] ∧
      l.graph.connections.find? ⟨.ofNat 1⟩ ≠
        some ⟨⟨.ofNat 1⟩, ⟨0, 0⟩, "Exec", ⟨1, 0⟩, "Exec"⟩ ∧
      Snapshot.doubled.connections.length ≠ l.graph.connections.size + l.losses.length := by
  have hparts : (Snapshot.doubled.load .builtins).1.map
      (fun l => (l.warnings, l.graph.connections)) =
        .ok ([], .ofList [(⟨.ofNat 1⟩, ⟨⟨.ofNat 1⟩, ⟨0, 0⟩, "Exec", ⟨2, 0⟩, "Exec"⟩)]) := by rfl
  obtain ⟨l, hl, hboth⟩ := map_eq_ok_iff.mp hparts
  obtain ⟨hwarnings, hconn⟩ := Prod.mk.inj hboth
  refine ⟨l, _, Prod.ext hl rfl, ?_⟩
  rw [Loaded.losses, hwarnings, hconn]
  decide

end ScriptGraph
