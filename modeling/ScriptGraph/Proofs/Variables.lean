import ScriptGraph.Proofs.Settling

/-! Variables have one way into a tick: nodes that read a variable by a name they hold. Two ticks
that start from tables which agree under those names go side by side. They end alike but for the
variables that neither of them sets, and those stay as they were in either. -/
namespace ScriptGraph

variable {σ : Type} [Host σ]

/-- The workspace with other variables. -/
def Workspace.withVars (w : Workspace σ) (vars : Variables) : Workspace σ := { w with vars := vars }

namespace Script

variable {α β : Type}

/-- The variables that a run sets, one after another. -/
def writes : Script α → Workspace σ → List (String × Value)
  | .done _, _ | .fail _, _ => []
  | .table next, w => (next w.properties).writes w
  | .property name next, w => (next (w.properties.find? name)).writes w
  | .setProperty name value next, w =>
    (next (w.properties.contains name)).writes
      { w with properties := setExisting w.properties name value }
  | .vars next, w => (next w.vars).writes w
  | .setVariable name value next, w =>
    (name, value) :: next.writes { w with vars := w.vars.insert name value }
  | .removeVariable name next, w => next.writes { w with vars := w.vars.erase name }
  | .position e next, w => (next (Host.position w.scene e)).writes w
  | .setPosition e p next, w =>
    let r := Host.setPosition w.scene e p
    (next r.1).writes { w with scene := r.2 }
  | .push e p next, w =>
    let r := Host.push w.scene e p
    (next r.1).writes { w with scene := r.2 }
  | .print value next, w => next.writes { w with printed := w.printed ++ [value] }

lemma Limited.writes_eq_nil {allowed : List Effect} {s : Script α} (hs : s.Limited allowed)
    (hnot : .setsVariable ∉ allowed) (w : Workspace σ) : s.writes w = [] := by
  induction hs generalizing w with
  | done | fail => rfl
  | table _ ih | property _ ih | vars _ ih | position _ ih => exact ih _ w
  | setProperty _ _ ih | setPosition _ _ ih | push _ _ ih => exact ih _ _
  | removeVariable _ _ ih | print _ ih => exact ih _
  | setVariable ok => exact absurd ok hnot

/-- The script neither looks at the variables nor takes one away. -/
inductive Blind : Script α → Prop
  | done (a : α) : Blind (.done a)
  | fail (e : NodeError) : Blind (.fail e)
  | table {next} (h : ∀ t, Blind (next t)) : Blind (.table next)
  | property {name next} (h : ∀ v, Blind (next v)) : Blind (.property name next)
  | setProperty {name value next} (h : ∀ b, Blind (next b)) : Blind (.setProperty name value next)
  | setVariable {name value next} (h : Blind next) : Blind (.setVariable name value next)
  | position {e next} (h : ∀ r, Blind (next r)) : Blind (.position e next)
  | setPosition {e p next} (h : ∀ r, Blind (next r)) : Blind (.setPosition e p next)
  | push {e p next} (h : ∀ r, Blind (next r)) : Blind (.push e p next)
  | print {value next} (h : Blind next) : Blind (.print value next)

namespace Blind

lemma bind {s : Script α} {f : α → Script β} (hs : s.Blind) (hf : ∀ a, (f a).Blind) :
    (s >>= f).Blind := by
  change (s.bind f).Blind
  induction hs with
  | done a => exact hf a
  | fail e => exact .fail e
  | table _ ih => exact .table ih
  | property _ ih => exact .property ih
  | setProperty _ ih => exact .setProperty ih
  | setVariable _ ih => exact .setVariable ih
  | position _ ih => exact .position ih
  | setPosition _ ih => exact .setPosition ih
  | push _ ih => exact .push ih
  | print _ ih => exact .print ih

lemma read (name : String) (expected : Kind) (as? : Value → Option α) :
    (Script.read name expected as?).Blind := by
  refine .property fun v => ?_
  cases v with
  | none => exact .fail _
  | some value =>
    dsimp only
    cases as? value with
    | none => exact .fail _
    | some a => exact .done a

lemma capable (r : Except SceneError α) : (Script.capable r).Blind := by
  cases r with
  | ok a => exact .done a
  | error e => exact .fail _

/-- On other variables a blind script does the same, and its writes go on top of those. -/
theorem run_withVars {s : Script α} (hs : s.Blind) (w : Workspace σ) (vars : Variables) :
    s.run (w.withVars vars) =
        ((s.run w).1, (s.run w).2.withVars (vars.insertAll (s.writes w))) ∧
      s.writes (w.withVars vars) = s.writes w := by
  induction hs generalizing w vars with
  | done | fail => exact ⟨rfl, rfl⟩
  | table _ ih | property _ ih | position _ ih => exact ih _ w vars
  | @setProperty name value _ _ ih =>
    exact ih _ { w with properties := setExisting w.properties name value } vars
  | @setPosition e p _ _ ih =>
    exact ih _ { w with scene := (Host.setPosition w.scene e p).2 } vars
  | @push e p _ _ ih =>
    exact ih _ { w with scene := (Host.push w.scene e p).2 } vars
  | @print value _ _ ih => exact ih { w with printed := w.printed ++ [value] } vars
  | @setVariable name value _ _ ih =>
    obtain ⟨hrun, hwrites⟩ :=
      ih { w with vars := w.vars.insert name value } (vars.insert name value)
    exact ⟨hrun, congrArg (List.cons (name, value)) hwrites⟩

end Blind

end Script

namespace Builtin

lemma blind_operand (name : String) : (operand name).Blind := by
  refine .property fun v => ?_
  cases v with
  | none => exact .fail _
  | some value => exact .done value

lemma blind_arithmetic (op : Value → Value → Option Value) (typeName : String) :
    (arithmetic op typeName).Blind := by
  refine (blind_operand "A").bind fun a => (blind_operand "B").bind fun b => ?_
  cases op a b with
  | none => exact .fail _
  | some result => exact .done _

lemma blind_script {b : Builtin} (hb : b ≠ .getVariable) (i : Invocation) :
    (b.script i).Blind := by
  cases b with
  | onStart =>
    dsimp only [script]
    split
    · exact .done _
    · exact .done _
  | onUpdate | sequence => exact .done _
  | onCollision =>
    dsimp only [script]
    split
    · exact .done _
    · exact .done _
  | branch => exact (Script.Blind.read ..).bind fun _ => .done _
  | add | multiply => exact blind_arithmetic _ _
  | getPosition =>
    refine (Script.Blind.read ..).bind fun _ => ?_
    exact (Script.Blind.position .capable).bind fun _ => .done _
  | setPosition =>
    refine (Script.Blind.read ..).bind fun _ => (Script.Blind.read ..).bind fun _ => ?_
    exact (Script.Blind.setPosition .capable).bind fun _ => .done _
  | applyForce =>
    refine (Script.Blind.read ..).bind fun _ => (Script.Blind.read ..).bind fun _ => ?_
    exact (Script.Blind.push .capable).bind fun _ => .done _
  | getVariable => exact absurd rfl hb
  | setVariable =>
    refine (Script.Blind.read ..).bind fun _ => (Script.Blind.property .done).bind fun _ => ?_
    exact (Script.Blind.setVariable (.done ())).bind fun _ => .done _
  | print =>
    exact (Script.Blind.property .done).bind fun _ => (Script.Blind.print (.done ())).bind
      fun _ => .done _

/-- A built-in node sees no variable but the one whose name it holds, and only if it is a node that
reads variables. -/
theorem run_withVars (b : Builtin) (i : Invocation) (w : Workspace σ) (vars : Variables)
    (hsame : b = .getVariable → ∀ name, w.properties.find? "Name" = some (.text name) →
      vars.find? name = w.vars.find? name) :
    (b.script i).run (w.withVars vars) = (((b.script i).run w).1,
        ((b.script i).run w).2.withVars (vars.insertAll ((b.script i).writes w))) ∧
      (b.script i).writes (w.withVars vars) = (b.script i).writes w := by
  by_cases hb : b = .getVariable
  · subst hb
    have hnone (w : Workspace σ) : (script .getVariable i).writes w = [] :=
      (limited_script .getVariable i).writes_eq_nil (by decide) w
    rw [hnone, hnone, run_getVariable, run_getVariable]
    refine ⟨Prod.ext ?_ rfl, rfl⟩
    dsimp only [Workspace.withVars]
    cases hN : w.properties.find? "Name" with
    | none => rfl
    | some value =>
      cases value with
      | text name => simp only [Value.text?, hsame rfl name hN]
      | _ => rfl
  · exact (blind_script hb i).run_withVars w vars

end Builtin

/-- Nothing is published under the name of the property that names a variable. -/
def Outcome.SparesNames (outcome : Outcome) : Prop :=
  ∀ values, outcome.published = some values → "Name" ∉ values.keys

lemma Outcome.sparesNames_of_none {outcome : Outcome} (h : outcome.published = none) :
    outcome.SparesNames := by
  intro values hv
  rw [h] at hv
  cases hv

lemma Builtin.sparesNames_script (b : Builtin) (i : Invocation) :
    (b.script i).Yields Outcome.SparesNames := by
  refine (b.asks_script i).mono fun outcome hasks values hv hname => ?_
  have hport : "Name" ∈ dataPorts := hasks.published values hv hname
  revert hport
  decide

namespace Graph

/-- The graph with other variables. -/
def withVars (g : Graph) (vars : Variables) : Graph := { g with vars := vars }

/-- The names that nodes which read variables hold. -/
def readNames (g : Graph) : List String :=
  g.nodes.nodes.filterMap fun n =>
    if n.typeName = "GetVariable" then (n.properties.find? "Name").bind Value.text? else none

lemma mem_readNames {g : Graph} {n : Node} {name : String} (hn : n ∈ g.nodes.nodes)
    (htype : n.typeName = "GetVariable") (hname : n.properties.find? "Name" = some (.text name)) :
    name ∈ g.readNames :=
  List.mem_filterMap.mpr ⟨n, hn, by simp [htype, hname, Value.text?]⟩

lemma deliver_withVars (value : Value) (acc : List NodeId × Graph) (c : Connection)
    (vars : Variables) :
    deliver value (acc.1, acc.2.withVars vars) c =
      ((deliver value acc c).1, (deliver value acc c).2.withVars vars) := by
  unfold deliver
  split
  · next h =>
    have hlive : acc.2.nodes.contains c.target = true := h
    rw [if_pos hlive]
    rfl
  · next h =>
    have hgone : ¬ acc.2.nodes.contains c.target = true := h
    rw [if_neg hgone]

/-- Publishing has nothing to do with variables. -/
lemma publish_withVars (g : Graph) (node : NodeId) (values : Table String Value)
    (vars : Variables) :
    (g.withVars vars).publish node values =
      ((g.publish node values).1, (g.publish node values).2.withVars vars) := by
  let swap (acc : List NodeId × Graph) : List NodeId × Graph := (acc.1, acc.2.withVars vars)
  have hone (acc : List NodeId × Graph) (entry : String × Value) :
      publishOne node (swap acc) entry = swap (publishOne node acc entry) := by
    let own := acc.2.modifyNode node fun n => n.setProperty entry.1 entry.2
    change (own.connectionsFrom node entry.1).foldl (deliver entry.2) (swap (acc.1, own)) = _
    exact List.foldl_hom swap fun acc c => deliver_withVars entry.2 acc c vars
  change values.entries.foldl (publishOne node) (swap ([], g)) = swap (g.publish node values)
  exact List.foldl_hom swap hone

/-- No connection leads to a property that names a variable. -/
def SparesNames (g : Graph) : Prop := ∀ c ∈ g.connections.values, c.targetPort ≠ "Name"

lemma sparesNames_of_links {g : Graph} (hlinks : ∀ c ∈ g.connections.values,
    g.checkLink .builtins c.source c.sourcePort c.target c.targetPort = .ok ()) :
    g.SparesNames := by
  intro c hc hport
  obtain ⟨_, t, _, input, _, ht, _, hi, _⟩ := checkLink_eq_ok_iff.mp (hlinks c hc)
  obtain ⟨n, _, hlookup⟩ := Option.bind_eq_some_iff.mp ht
  obtain ⟨b, _, rfl⟩ := Registry.lookup_builtins.mp hlookup
  have hname : input.name = c.targetPort := by simpa using List.find?_some hi
  have hall : ∀ p ∈ b.nodeType.inputs, p.name ≠ "Name" := by cases b <;> decide
  exact hall input (List.mem_of_find?_eq_some hi) (hname.trans hport)

end Graph

/-- The state with other variables. -/
def TickState.withVars (s : TickState σ) (vars : Variables) : TickState σ :=
  { s with graph := s.graph.withVars vars }

omit [Host σ] in
lemma TickState.publish_withVars (s : TickState σ) (node : NodeId) (values : Table String Value)
    (vars : Variables) : (s.withVars vars).publish node values =
      (s.publish node values).withVars vars := by
  have h := congrArg Prod.snd (s.graph.publish_withVars node values vars)
  simp only [TickState.publish, TickState.withVars, h]

namespace TickRules

variable {r : TickRules} {g : Graph} {s : TickState σ} {node : NodeId}

/-- The variables that a node sets when it is run now. -/
def sets (r : TickRules) (node : NodeId) (s : TickState σ) : List (String × Value) :=
  match s.graph.node? node with
  | none => []
  | some n =>
    match r.registry.lookup n.typeName with
    | none => []
    | some t =>
      (t.behavior.script { r.context with node := n.id, typeName := n.typeName }).writes
        ⟨n.properties, s.graph.vars, s.scene, []⟩

/-- The names of the variables that are set along a walk. -/
def namesSet (r : TickRules) (ms : List (Moment σ)) : List String :=
  ms.flatMap fun m => if m.phase = .invoked then (r.sets m.node m.state).map Prod.fst else []

/-- One pass over a graph sets a variable of that name. -/
def RunSets (r : TickRules) (collisionsOnly : Bool) (g : Graph) (scene : σ) (name : String) :
    Prop :=
  ∃ ms v, Walks r (.roots (r.roots g collisionsOnly)) ⟨[], start g scene⟩ ms v ∧
    name ∈ r.namesSet ms

lemma sparesNames_invoke (hr : r.registry = .builtins) (node : NodeId) (s : TickState σ) :
    (r.invoke node s).1.SparesNames := by
  refine invoke_cases (P := fun ran => ran.1.SparesNames) ?_ ?_ ?_ ?_
  · exact fun _ => Outcome.sparesNames_of_none rfl
  · exact fun _ _ _ => Outcome.sparesNames_of_none rfl
  · intro n t outcome w _ ht hp
    rw [hr] at ht
    obtain ⟨b, _, rfl⟩ := Registry.lookup_builtins.mp ht
    rw [perform, Builtin.behavior_nodeType] at hp
    exact b.sparesNames_script _ _ _ _ _ (congrArg Prod.fst hp)
  · exact fun _ _ _ _ _ _ _ => Outcome.sparesNames_of_none rfl

/-- No built-in node writes its own properties. -/
lemma node?_invoke (hr : r.registry = .builtins) (node : NodeId) (s : TickState σ) (id : NodeId) :
    (r.invoke node s).2.graph.node? id = s.graph.node? id := by
  have hkept {t : NodeType} {n : Node} {e : Except NodeError Outcome} {w : Workspace σ}
      (ht : r.registry.lookup n.typeName = some t) (hp : r.perform t n s = (e, w)) :
      w.properties = n.properties := by
    rw [hr] at ht
    obtain ⟨b, _, rfl⟩ := Registry.lookup_builtins.mp ht
    rw [perform, Builtin.behavior_nodeType] at hp
    obtain rfl : _ = w := congrArg Prod.snd hp
    exact (b.reads_script _).properties_run _
  refine invoke_cases (P := fun ran => ran.2.graph.node? id = s.graph.node? id) ?_ ?_ ?_ ?_
  · exact fun _ => rfl
  · exact fun _ _ _ => rfl
  · exact fun n t outcome w hn ht hp => Graph.node?_absorb hn (hkept ht hp) id
  · exact fun n t e w hn ht hp => Graph.node?_absorb hn (hkept ht hp) id

/-- The script of a node does the same on other variables and sets the same ones, as long as they
agree under the name that the node reads. -/
lemma perform_withVars (hr : r.registry = .builtins) {n : Node} {t : NodeType} {vars : Variables}
    (hn : s.graph.node? node = some n) (ht : r.registry.lookup n.typeName = some t)
    (hsame : ∀ name, n.typeName = "GetVariable" → n.properties.find? "Name" = some (.text name) →
      vars.find? name = s.graph.vars.find? name) :
    r.perform t n (s.withVars vars) = ((r.perform t n s).1,
        (r.perform t n s).2.withVars (vars.insertAll (r.sets node s))) ∧
      r.sets node (s.withVars vars) = r.sets node s := by
  obtain ⟨b, hb, rfl⟩ := Registry.lookup_builtins.mp (hr ▸ ht)
  let i : Invocation := { r.context with node := n.id, typeName := n.typeName }
  let w : Workspace σ := ⟨n.properties, s.graph.vars, s.scene, []⟩
  have hn' : (s.withVars vars).graph.node? node = some n := hn
  have hsets : r.sets node s = (b.script i).writes w := by
    simp only [sets, hn, ht, Builtin.behavior_nodeType]
    rfl
  have hsets' : r.sets node (s.withVars vars) = (b.script i).writes (w.withVars vars) := by
    simp only [sets, hn', ht, Builtin.behavior_nodeType]
    rfl
  have hget (hget : b = .getVariable) : n.typeName = "GetVariable" := by
    rw [← hb, hget]
    rfl
  obtain ⟨hrun, hwrites⟩ := b.run_withVars i w vars fun hb name hname => hsame name (hget hb) hname
  rw [hsets, hsets', perform, perform, Builtin.behavior_nodeType]
  exact ⟨hrun, hwrites⟩

/-- A node that is run on other variables does the same, and what it sets goes on top of those. -/
theorem invoke_withVars (node : NodeId) (hr : r.registry = .builtins) {vars : Variables}
    (hsame : ∀ n name, s.graph.node? node = some n → n.typeName = "GetVariable" →
      n.properties.find? "Name" = some (.text name) → vars.find? name = s.graph.vars.find? name) :
    r.invoke node (s.withVars vars) =
        ((r.invoke node s).1, (r.invoke node s).2.withVars (vars.insertAll (r.sets node s))) ∧
      r.sets node (s.withVars vars) = r.sets node s := by
  cases hn : s.graph.node? node with
  | none =>
    have hn' : (s.withVars vars).graph.node? node = none := hn
    have hsets : r.sets node s = [] := by simp only [sets, hn]
    have hsets' : r.sets node (s.withVars vars) = [] := by simp only [sets, hn']
    rw [r.invoke_of_absent hn, r.invoke_of_absent hn', hsets, hsets']
    exact ⟨rfl, rfl⟩
  | some n =>
    have hn' : (s.withVars vars).graph.node? node = some n := hn
    cases ht : r.registry.lookup n.typeName with
    | none =>
      have hsets : r.sets node s = [] := by simp only [sets, hn, ht]
      have hsets' : r.sets node (s.withVars vars) = [] := by simp only [sets, hn', ht]
      rw [r.invoke_of_unregistered hn ht, r.invoke_of_unregistered hn' ht, hsets, hsets']
      exact ⟨rfl, rfl⟩
    | some t =>
      obtain ⟨hperform, hsets⟩ := perform_withVars hr hn ht fun name => hsame n name hn
      refine ⟨?_, hsets⟩
      rcases hp : r.perform t n s with ⟨e | outcome, w⟩
      · rw [hp] at hperform
        rw [r.invoke_of_error hn ht hp, r.invoke_of_error hn' ht hperform]
        rfl
      · rw [hp] at hperform
        rw [r.invoke_of_ok hn ht hp, r.invoke_of_ok hn' ht hperform]
        rfl

/-- The table itself is one of the tables that agree with it. -/
lemma vars_invoke (hr : r.registry = .builtins) (node : NodeId) (s : TickState σ) :
    (r.invoke node s).2.graph.vars = s.graph.vars.insertAll (r.sets node s) := by
  have hself := (invoke_withVars (s := s) node hr fun _ _ _ _ _ => rfl).1
  exact congrArg (fun ran : Outcome × TickState σ => ran.2.graph.vars) hself

/-- How far two ticks have come of which the first began with the graph `g` and the other with the
variables `vars₀` instead. The first is in the state `s` now, the other in the same state with the
variables `vars`. What has been `set` is the same in both, and the rest is as it was in either. -/
structure Apart (g : Graph) (vars₀ : Variables) (set : List String) (s : TickState σ)
    (vars : Variables) : Prop where
  shape : s.graph.shape = g.shape
  names : ∀ id, s.graph.property? id "Name" = g.property? id "Name"
  same : ∀ name ∈ set, ∃ value, s.graph.vars.find? name = some value ∧ vars.find? name = some value
  kept : ∀ name, name ∉ set →
    s.graph.vars.find? name = g.vars.find? name ∧ vars.find? name = vars₀.find? name

namespace Apart

variable {vars₀ vars : Variables} {set : List String} {s' : TickState σ}

section

omit [Host σ]

/-- Counters and the log are nothing to it. -/
lemma of_graph (h : Apart g vars₀ set s vars) (hs : s'.graph = s.graph) :
    Apart g vars₀ set s' vars :=
  ⟨hs ▸ h.shape, hs ▸ h.names, hs ▸ h.same, hs ▸ h.kept⟩

/-- Under the names that nodes read, both hold the same. -/
lemma find?_vars (h : Apart g vars₀ set s vars)
    (hagree : ∀ name ∈ g.readNames, vars₀.find? name = g.vars.find? name) {node : NodeId} {n : Node}
    {name : String} (hn : s.graph.node? node = some n) (htype : n.typeName = "GetVariable")
    (hname : n.properties.find? "Name" = some (.text name)) :
    vars.find? name = s.graph.vars.find? name := by
  by_cases hset : name ∈ set
  · obtain ⟨value, hs, hvars⟩ := h.same name hset
    rw [hs, hvars]
  · obtain ⟨hs, hvars⟩ := h.kept name hset
    have hheld : g.property? node "Name" = some (.text name) := by
      rw [← h.names node, Graph.property?, hn]
      exact hname
    obtain ⟨m, hm, hmname⟩ := Option.bind_eq_some_iff.mp hheld
    have hmtype : m.typeName = n.typeName := by
      have := Graph.map_typeName_of_shape h.shape node
      rw [hn, hm] at this
      exact (Option.some.inj this).symm
    have hmem : name ∈ g.readNames :=
      Graph.mem_readNames (Arena.get?_mem_nodes hm) (hmtype.trans htype) hmname
    rw [hs, hvars, hagree name hmem]

lemma publish (h : Apart g vars₀ set s vars) (hspares : g.SparesNames) (node : NodeId)
    {values : Table String Value} (hvalues : "Name" ∉ values.keys) :
    Apart g vars₀ set (s.publish node values) vars := by
  have hvars : (s.publish node values).graph.vars = s.graph.vars :=
    s.graph.vars_publish node values
  refine ⟨(s.graph.shape_publish node values).trans h.shape, fun id => ?_, hvars ▸ h.same,
    hvars ▸ h.kept⟩
  rw [← h.names id]
  refine Graph.property?_publish_of_not ?_
  rintro port hport (⟨_, rfl⟩ | ⟨c, hc, _, hto⟩)
  · exact hvalues hport
  · obtain ⟨hmem, _⟩ := Graph.mem_connectionsFrom.mp hc
    rw [Graph.connections_of_shape h.shape] at hmem
    exact hspares c hmem hto.symm

end

lemma invoke (h : Apart g vars₀ set s vars) (hr : r.registry = .builtins) (node : NodeId) :
    Apart g vars₀ (set ++ (r.sets node s).map Prod.fst) (r.invoke node s).2
      (vars.insertAll (r.sets node s)) := by
  refine ⟨(r.shape_invoke node s).trans h.shape, fun id => ?_, fun name hm => ?_, fun name hm => ?_⟩
  · rw [← h.names id]
    exact property?_congr (node?_invoke hr node s) id "Name"
  · rw [vars_invoke hr]
    by_cases hnow : name ∈ (r.sets node s).map Prod.fst
    · obtain ⟨value, hvalue⟩ := Table.exists_find?_insertAll_of_mem hnow
      exact ⟨value, hvalue _, hvalue _⟩
    · rw [Table.find?_insertAll_of_notMem hnow, Table.find?_insertAll_of_notMem hnow]
      exact h.same name ((List.mem_append.mp hm).resolve_right hnow)
  · rw [List.mem_append, not_or] at hm
    rw [vars_invoke hr, Table.find?_insertAll_of_notMem hm.2, Table.find?_insertAll_of_notMem hm.2]
    exact h.kept name hm.1

end Apart

end TickRules

/-- What a task is told to publish spares the properties that name variables. -/
def Task.SparesNames : Task → Prop
  | .follow _ outcome => outcome.SparesNames
  | _ => True

namespace TickRules

variable {r : TickRules} {g : Graph} {vars₀ vars : Variables} {set : List String} {s : TickState σ}

lemma receivers_withVars (r : TickRules) (g : Graph) (node : NodeId) (values : Table String Value)
    (vars : Variables) :
    r.receivers (g.withVars vars) node values = r.receivers g node values := by
  rw [receivers, receivers, Graph.publish_withVars]
  rfl

/-- What one run does to both: they yield the same outcome and set the same variables. -/
lemma Apart.ran (h : Apart g vars₀ set s vars) (hr : r.registry = .builtins)
    (hagree : ∀ name ∈ g.readNames, vars₀.find? name = g.vars.find? name) (node : NodeId) :
    r.invoke node (s.withVars vars) =
        ((r.invoke node s).1, (r.invoke node s).2.withVars (vars.insertAll (r.sets node s))) ∧
      r.sets node (s.withVars vars) = r.sets node s ∧
      Apart g vars₀ (set ++ (r.sets node s).map Prod.fst) (r.invoke node s).2
        (vars.insertAll (r.sets node s)) := by
  obtain ⟨hinvoke, hsets⟩ := invoke_withVars node hr fun _ _ hn htype hname =>
    h.find?_vars hagree hn htype hname
  exact ⟨hinvoke, hsets, h.invoke hr node⟩

/-- The same for a pulled node, whose values are published at once. -/
lemma Apart.settled (h : Apart g vars₀ set s vars) (hr : r.registry = .builtins)
    (hspares : g.SparesNames) (hagree : ∀ name ∈ g.readNames, vars₀.find? name = g.vars.find? name)
    (source : NodeId) :
    r.settle source (s.withVars vars) =
        (r.settle source s).withVars (vars.insertAll (r.sets source s)) ∧
      r.sets source (s.withVars vars) = r.sets source s ∧
      Apart g vars₀ (set ++ (r.sets source s).map Prod.fst) (r.settle source s)
        (vars.insertAll (r.sets source s)) := by
  obtain ⟨hinvoke, hsets, hran⟩ := h.ran hr hagree source
  rw [settle, settle, hinvoke]
  dsimp only
  split
  · next values hv =>
    refine ⟨TickState.publish_withVars _ source values _, hsets, hran.publish hspares source ?_⟩
    exact sparesNames_invoke hr source s values hv
  · exact ⟨rfl, hsets, hran⟩

@[simp] lemma namesSet_nil (r : TickRules) : r.namesSet ([] : List (Moment σ)) = [] := rfl

@[simp] lemma namesSet_append (r : TickRules) (ms ns : List (Moment σ)) :
    r.namesSet (ms ++ ns) = r.namesSet ms ++ r.namesSet ns := List.flatMap_append

@[simp] lemma namesSet_entered (r : TickRules) (node : NodeId) (stack : List NodeId)
    (s : TickState σ) (ms : List (Moment σ)) :
    r.namesSet (⟨.entered, node, stack, s⟩ :: ms) = r.namesSet ms := rfl

@[simp] lemma namesSet_left (r : TickRules) (node : NodeId) (stack : List NodeId)
    (s : TickState σ) (ms : List (Moment σ)) :
    r.namesSet (⟨.left, node, stack, s⟩ :: ms) = r.namesSet ms := rfl

@[simp] lemma namesSet_invoked (r : TickRules) (node : NodeId) (stack : List NodeId)
    (s : TickState σ) (ms : List (Moment σ)) :
    r.namesSet (⟨.invoked, node, stack, s⟩ :: ms) =
      (r.sets node s).map Prod.fst ++ r.namesSet ms := rfl

end TickRules

/-- The walker on other variables. -/
def Walker.withVars (w : Walker σ) (vars : Variables) : Walker σ := ⟨w.stack, w.state.withVars vars⟩

omit [Host σ] in
lemma Walker.publish_withVars (w : Walker σ) (node : NodeId) (values : Table String Value)
    (vars : Variables) :
    Walker.withVars ⟨w.stack, w.state.publish node values⟩ vars =
      ⟨w.stack, (w.withVars vars).state.publish node values⟩ :=
  congrArg (Walker.mk w.stack) (w.state.publish_withVars node values vars).symm

namespace TickRules

/-- A walk from `w` to `v` has its like on other variables: one that sets the same variables on the
way and ends no further apart from it. -/
def Matched (r : TickRules) (g : Graph) (vars₀ : Variables) (set : List String) (vars : Variables)
    (t : Task) (w : Walker σ) (ms : List (Moment σ)) (v : Walker σ) : Prop :=
  ∃ ns vars', Walks r t (w.withVars vars) ns (v.withVars vars') ∧
    r.namesSet ns = r.namesSet ms ∧ Apart g vars₀ (set ++ r.namesSet ms) v.state vars'

namespace Matched

variable {r : TickRules} {g : Graph} {vars₀ vars vars' : Variables} {set : List String}
  {t t' t₁ t₂ : Task} {w w' u u' v : Walker σ} {ms ns : List (Moment σ)}

lemma of_nil (walk : Walks r t (w.withVars vars) [] (v.withVars vars))
    (hv : Apart g vars₀ set v.state vars) : Matched r g vars₀ set vars t w [] v :=
  ⟨[], vars, walk, rfl, by simpa using hv⟩

/-- A rule with one premise keeps the moments. -/
lemma imp (h : Matched r g vars₀ set vars' t' w' ms v)
    (rule : ∀ {ns v'}, Walks r t' (w'.withVars vars') ns v' → Walks r t (w.withVars vars) ns v') :
    Matched r g vars₀ set vars t w ms v := by
  obtain ⟨ns, vars'', walk, hns, hv⟩ := h
  exact ⟨ns, vars'', rule walk, hns, hv⟩

/-- Two walks of which the second starts from the variables that the first leaves. -/
lemma append (h₁ : Matched r g vars₀ set vars t₁ w' ms u)
    (h₂ : ∀ {vars'}, Apart g vars₀ (set ++ r.namesSet ms) u.state vars' →
      Matched r g vars₀ (set ++ r.namesSet ms) vars' t₂ u ns v)
    (rule : ∀ {ms' ns' vars' v'}, Walks r t₁ (w'.withVars vars) ms' (u.withVars vars') →
      Walks r t₂ (u.withVars vars') ns' v' → Walks r t (w.withVars vars) (ms' ++ ns') v') :
    Matched r g vars₀ set vars t w (ms ++ ns) v := by
  obtain ⟨ms', vars', first, hms, hu⟩ := h₁
  obtain ⟨ns', vars'', second, hns, hv⟩ := h₂ hu
  refine ⟨ms' ++ ns', vars'', rule first second, ?_, ?_⟩
  · rw [namesSet_append, namesSet_append, hms, hns]
  · simpa only [namesSet_append, List.append_assoc] using hv

/-- A dispatched node: the pull, the run itself and what follows from it. -/
lemma run {node : NodeId} (hr : r.registry = .builtins)
    (hagree : ∀ name ∈ g.readNames, vars₀.find? name = g.vars.find? name)
    (fresh : node ∉ w.stack) (room : w.stack.length < r.maxDepth)
    (pulled : Matched r g vars₀ set vars (.pull node)
      ⟨node :: w.stack, w.state.counted w.stack.isEmpty⟩ ms u)
    (followed : ∀ {set vars}, Apart g vars₀ set (r.invoke node u.state).2 vars →
      Matched r g vars₀ set vars (.follow node (r.invoke node u.state).1)
        ⟨u.stack, (r.invoke node u.state).2⟩ ns v) :
    Matched r g vars₀ set vars (.dispatch node) w
      (⟨.entered, node, node :: w.stack, w.state.counted w.stack.isEmpty⟩ :: (ms ++
        ⟨.invoked, node, u.stack, u.state⟩ :: (ns ++ [⟨.left, node, v.stack.tail, v.state⟩])))
      ⟨v.stack.tail, v.state⟩ := by
  obtain ⟨ms', vars', pull, hms, hu⟩ := pulled
  obtain ⟨hinvoke, hsets, hran⟩ := hu.ran hr hagree node
  obtain ⟨ns', vars'', follow, hns, hv⟩ := followed hran
  have hrun : Walks r (.follow node (r.invoke node (u.state.withVars vars')).1)
      ⟨u.stack, (r.invoke node (u.state.withVars vars')).2⟩ ns' (v.withVars vars'') := by
    rw [hinvoke]
    exact follow
  refine ⟨_, vars'', .run (w := w.withVars vars) fresh room pull hrun, ?_, ?_⟩
  · simp [Walker.withVars, hms, hns, hsets]
  · simpa using hv

/-- A pulled node: its own pull, the run itself and the nodes after it. -/
lemma evaluateRun {source : NodeId} {rest : List NodeId} (hr : r.registry = .builtins)
    (hspares : g.SparesNames) (hagree : ∀ name ∈ g.readNames, vars₀.find? name = g.vars.find? name)
    (fresh : source ∉ w.stack) (room : w.stack.length < r.maxDepth)
    (pulled : Matched r g vars₀ set vars (.pull source) ⟨source :: w.stack, w.state.counted false⟩
      ms u)
    (others : ∀ {set vars}, Apart g vars₀ set (r.settle source u.state) vars →
      Matched r g vars₀ set vars (.evaluate rest) ⟨u.stack.tail, r.settle source u.state⟩ ns v) :
    Matched r g vars₀ set vars (.evaluate (source :: rest)) w
      (⟨.entered, source, source :: w.stack, w.state.counted false⟩ :: (ms ++
        ⟨.invoked, source, u.stack, u.state⟩ ::
        ⟨.left, source, u.stack.tail, r.settle source u.state⟩ :: ns)) v := by
  obtain ⟨ms', vars', pull, hms, hu⟩ := pulled
  obtain ⟨hsettle, hsets, hsettled⟩ := hu.settled hr hspares hagree source
  obtain ⟨ns', vars'', other, hns, hv⟩ := others hsettled
  have hother : Walks r (.evaluate rest) ⟨u.stack.tail, r.settle source (u.state.withVars vars')⟩
      ns' (v.withVars vars'') := by
    rw [hsettle]
    exact other
  refine ⟨_, vars'', .evaluateRun (w := w.withVars vars) fresh room pull hother, ?_, ?_⟩
  · simp [Walker.withVars, hms, hns, hsets]
  · simpa using hv

end Matched

end TickRules

/-- Whatever a walk does, another does as well that starts apart from it in variables only. -/
theorem Walks.matched {r : TickRules} {t : Task} {w v : Walker σ} {ms : List (Moment σ)} {g : Graph}
    {vars₀ : Variables} (h : Walks r t w ms v) (hr : r.registry = .builtins)
    (hspares : g.SparesNames) (hagree : ∀ name ∈ g.readNames, vars₀.find? name = g.vars.find? name)
    {set : List String} {vars : Variables} (hw : TickRules.Apart g vars₀ set w.state vars)
    (ht : t.SparesNames) : r.Matched g vars₀ set vars t w ms v := by
  -- Induction on the walk. What a task publishes must spare the names, which only the outcome of a
  -- run has to be asked for.
  induction h generalizing set vars with
  | rootsNil => exact .of_nil .rootsNil hw
  | visitNil => exact .of_nil .visitNil hw
  | idle => exact .of_nil .idle hw
  | portsNil => exact .of_nil .portsNil hw
  | evaluateNil => exact .of_nil .evaluateNil hw
  | @reentry node w mem => exact .of_nil (.reentry (w := w.withVars vars) mem) (hw.of_graph rfl)
  | @full node w fresh deep =>
    exact .of_nil (.full (w := w.withVars vars) fresh deep) (hw.of_graph rfl)
  | @rootsCons root rest w u v ms ns _ _ ih₁ ih₂ =>
    exact (ih₁ (hw.of_graph rfl) trivial).append (fun hu => ih₂ hu trivial)
      (.rootsCons (w := w.withVars vars))
  | @run node w u v ms ns fresh room _ _ ih₁ ih₂ =>
    have hspare := TickRules.sparesNames_invoke hr node u.state
    exact .run hr hagree fresh room (ih₁ (hw.of_graph rfl) trivial) fun hran => ih₂ hran hspare
  | visitCons _ _ ih₁ ih₂ =>
    exact (ih₁ hw trivial).append (fun hu => ih₂ hu trivial) .visitCons
  | @flow _ _ w _ _ _ ih => exact (ih hw trivial).imp (.flow (w := w.withVars vars))
  | flows _ ih => exact (ih hw trivial).imp .flows
  | @publish node values w v ms _ ih =>
    refine (ih (hw.publish hspares node (ht values rfl)) trivial).imp fun led => ?_
    rw [w.publish_withVars, ← r.receivers_withVars w.state.graph node values vars] at led
    exact .publish (w := w.withVars vars) led
  | @publishThenFlow node port values w u v ms ns _ _ ih₁ ih₂ =>
    refine (ih₁ (hw.publish hspares node (ht values rfl)) trivial).append
      (fun hu => ih₂ hu trivial) fun reached led => ?_
    rw [w.publish_withVars, ← r.receivers_withVars w.state.graph node values vars] at reached
    exact .publishThenFlow (w := w.withVars vars) reached led
  | @portsStop _ _ _ _ w _ _ stop _ ih =>
    exact (ih hw trivial).imp (.portsStop (w := w.withVars vars) stop)
  | @portsNext _ _ _ _ w _ _ _ _ next _ _ ih₁ ih₂ =>
    exact (ih₁ hw trivial).append (fun hu => ih₂ hu trivial)
      (.portsNext (w := w.withVars vars) next)
  | @pull _ w _ _ _ ih => exact (ih hw trivial).imp (.pull (w := w.withVars vars))
  | evaluateSkip mem _ ih => exact (ih hw trivial).imp (.evaluateSkip mem)
  | @evaluateFull source rest w v ms fresh deep _ ih =>
    exact (ih (hw.of_graph rfl) trivial).imp (.evaluateFull (w := w.withVars vars) fresh deep)
  | evaluateRun fresh room _ _ ih₁ ih₂ =>
    exact .evaluateRun hr hspares hagree fresh room (ih₁ (hw.of_graph rfl) trivial) fun hs =>
      ih₂ hs trivial

namespace TickRules

/-- Variables are read only by the nodes that hold their names. Over the built-in nodes and accepted
links, two ticks that start alike but for variables under names that no such node holds end with the
same counters, log and scene and with the same nodes. Both set the same variables and leave the same
values in them; all others stay as they were in either. -/
theorem run_reads_held_names (r : TickRules) (hr : r.registry = .builtins) (collisionsOnly : Bool)
    (g : Graph) (hlinks : ∀ c ∈ g.connections.values,
      g.checkLink .builtins c.source c.sourcePort c.target c.targetPort = .ok ())
    (vars : Variables) (hagree : ∀ name ∈ g.readNames, vars.find? name = g.vars.find? name)
    (scene : σ) :
    let h := g.withVars vars
    let ended := r.run collisionsOnly g scene
    let other := r.run collisionsOnly h scene
    other.stats = ended.stats ∧ other.log = ended.log ∧ other.scene = ended.scene ∧
      other.graph.nodes = ended.graph.nodes ∧
      ∀ name,
        r.RunSets collisionsOnly g scene name ∧ r.RunSets collisionsOnly h scene name ∧
          (∃ value, ended.graph.vars.find? name = some value ∧
            other.graph.vars.find? name = some value) ∨
        ¬ r.RunSets collisionsOnly g scene name ∧ ¬ r.RunSets collisionsOnly h scene name ∧
          ended.graph.vars.find? name = g.vars.find? name ∧
            other.graph.vars.find? name = vars.find? name := by
  intro h ended other
  have hspares : g.SparesNames := Graph.sparesNames_of_links hlinks
  have hstart : Apart g vars [] (start g scene) vars :=
    ⟨rfl, fun _ => rfl, nofun, fun _ _ => ⟨rfl, rfl⟩⟩
  obtain ⟨ms, walk⟩ := r.leads_run collisionsOnly g scene
  obtain ⟨ns, vars', walk', hnames, hend⟩ := walk.matched hr hspares hagree hstart trivial
  have hother : other = ended.withVars vars' :=
    (congrArg Walker.state (eq_run_of_walks (g := h) walk')).symm
  have hsets (name : String) : r.RunSets collisionsOnly g scene name ↔ name ∈ r.namesSet ms := by
    refine ⟨?_, fun hm => ⟨ms, _, walk, hm⟩⟩
    rintro ⟨ms', v, walk₂, hm⟩
    rwa [(walk.unique walk₂).1]
  have hsets' (name : String) : r.RunSets collisionsOnly h scene name ↔ name ∈ r.namesSet ms := by
    rw [← hnames]
    refine ⟨?_, fun hm => ⟨ns, _, walk', hm⟩⟩
    rintro ⟨ns', v, walk₂, hm⟩
    rwa [(walk'.unique walk₂).1]
  rw [hother]
  refine ⟨rfl, rfl, rfl, rfl, fun name => ?_⟩
  rw [hsets, hsets']
  by_cases hm : name ∈ r.namesSet ms
  · exact .inl ⟨hm, hm, hend.same name hm⟩
  · exact .inr ⟨hm, hm, hend.kept name hm⟩

end TickRules

/-- Every frame the score is set to one more than the health, which is then printed. -/
def Graph.scoring : Graph where
  id := default
  entity := default
  nodes :=
    ⟨[⟨0, some ⟨⟨0, 0⟩, "OnUpdate", .zero, .ofList [("deltaTime", .float .zero)]⟩⟩,
      ⟨0, some ⟨⟨1, 0⟩, "GetVariable", .zero,
        .ofList [("Name", .text "health"), ("Value", .int 0)]⟩⟩,
      ⟨0, some ⟨⟨2, 0⟩, "Add", .zero,
        .ofList [("A", .int 0), ("B", .int 1), ("Result", .int 0)]⟩⟩,
      ⟨0, some ⟨⟨3, 0⟩, "SetVariable", .zero,
        .ofList [("Name", .text "score"), ("Value", .int 0)]⟩⟩,
      ⟨0, some ⟨⟨4, 0⟩, "Print", .zero, .ofList [("Value", .text "")]⟩⟩], [], 5⟩
  connections := .ofList
    [(⟨.ofNat 1⟩, ⟨⟨.ofNat 1⟩, ⟨0, 0⟩, "Exec", ⟨3, 0⟩, "Exec"⟩),
      (⟨.ofNat 2⟩, ⟨⟨.ofNat 2⟩, ⟨1, 0⟩, "Value", ⟨2, 0⟩, "A"⟩),
      (⟨.ofNat 3⟩, ⟨⟨.ofNat 3⟩, ⟨2, 0⟩, "Result", ⟨3, 0⟩, "Value"⟩),
      (⟨.ofNat 4⟩, ⟨⟨.ofNat 4⟩, ⟨3, 0⟩, "Exec", ⟨4, 0⟩, "Exec"⟩),
      (⟨.ofNat 5⟩, ⟨⟨.ofNat 5⟩, ⟨1, 0⟩, "Value", ⟨4, 0⟩, "Value"⟩)]
  vars := .ofList [("health", .int 3), ("score", .int 0), ("secret", .text "a")]

theorem run_scoring_reads_held_names :
    let r : TickRules := ⟨.builtins, ⟨default, .one, 0, none⟩, 8⟩
    let g := Graph.scoring
    let vars : Variables :=
      .ofList [("secret", .text "b"), ("score", .bool true), ("health", .int 3)]
    r.registry = .builtins ∧
      (∀ c ∈ g.connections.values,
        g.checkLink .builtins c.source c.sourcePort c.target c.targetPort = .ok ()) ∧
      (∀ name ∈ g.readNames, vars.find? name = g.vars.find? name) ∧ g.readNames = ["health"] ∧
      (r.run false (g.withVars vars) Scene.empty).log = (r.run false g Scene.empty).log ∧
      (r.run false g Scene.empty).graph.vars =
        .ofList [("health", .int 3), ("score", .int 4), ("secret", .text "a")] ∧
      (r.run false (g.withVars vars) Scene.empty).graph.vars =
        .ofList [("secret", .text "b"), ("score", .int 4), ("health", .int 3)] := by
  intro r g vars
  have hlinks : ∀ c ∈ g.connections.values,
      g.checkLink .builtins c.source c.sourcePort c.target c.targetPort = .ok () := by decide
  have hagree : ∀ name ∈ g.readNames, vars.find? name = g.vars.find? name := by decide
  obtain ⟨_, hlog, _⟩ := TickRules.run_reads_held_names r rfl false g hlinks vars hagree Scene.empty
  refine ⟨rfl, hlinks, hagree, by decide, hlog, ?_, ?_⟩
  · decide +kernel
  · decide +kernel

end ScriptGraph
