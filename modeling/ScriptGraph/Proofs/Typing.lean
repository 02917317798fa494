import Mathlib.Algebra.Group.Int.Defs
import ScriptGraph.Proofs.Builtins
import ScriptGraph.Proofs.Walk
import ScriptGraph.Proofs.WellFormed

/-! Port typing for the built-in nodes. Values travel along connections as they are, so a property
need not hold a value of its own kind, only one that is readable as that kind. Connections between
compatible ports keep this up, and so a tick does; and then no node of a tick fails because of what
its properties hold. -/
namespace ScriptGraph

variable {σ : Type} [Host σ]

namespace Value

/-- Whether a property of this kind may hold the value. -/
def readableAs : Value → Kind → Bool
  | _, .any => true
  | .float _, .float | .int _, .float | .float _, .int | .int _, .int => true
  | .vector _, .vector | .float _, .vector | .int _, .vector => true
  | .bool _, .bool | .text _, .text | .object _, .object => true
  | _, _ => false

/-- What may be sent along a connection is readable where it arrives. -/
lemma readableAs_of_convertsTo {v : Value} {source target : Kind}
    (hc : source.convertsTo target = true) (hany : source = .any → target = .any)
    (hv : v.readableAs source = true) : v.readableAs target = true := by
  cases source <;> cases target <;> simp [Kind.convertsTo] at hc hany <;>
    cases v <;> simp_all [readableAs]

lemma isSome_bool? {v : Value} (h : v.readableAs .bool = true) : v.bool?.isSome = true := by
  cases v <;> simp_all [readableAs, bool?]

lemma isSome_vector? {v : Value} (h : v.readableAs .vector = true) : v.vector?.isSome = true := by
  cases v <;> simp_all [readableAs, vector?]

lemma isSome_text? {v : Value} (h : v.readableAs .text = true) : v.text?.isSome = true := by
  cases v <;> simp_all [readableAs, text?]

lemma isSome_object? {v : Value} (h : v.readableAs .object = true) : v.object?.isSome = true := by
  cases v <;> simp_all [readableAs, object?]

/-- Numbers combine to a number, unless both are integers and the result is out of range. -/
lemma combine_of_readable {onFloats : Single → Single → Single} {onInts : Int → Int → Int}
    {a b : Value} (ha : a.readableAs .float = true) (hb : b.readableAs .float = true) :
    (∃ result, combine onFloats onInts a b = some result ∧ result.readableAs .float = true) ∨
      ∃ i j, a = .int i ∧ b = .int j ∧ int64OfInt? (onInts i.toInt j.toInt) = none := by
  cases a <;> cases b <;> simp [readableAs] at ha hb
  · next i j =>
    cases hr : int64OfInt? (onInts i.toInt j.toInt) with
    | none => exact Or.inr ⟨i, j, rfl, rfl, hr⟩
    | some k => exact Or.inl ⟨.int k, by simp [combine, hr], rfl⟩
  · exact Or.inl ⟨_, rfl, rfl⟩
  · exact Or.inl ⟨_, rfl, rfl⟩
  · exact Or.inl ⟨_, rfl, rfl⟩

end Value

/-- The integer does not fit into 64 bits. -/
def OutOfRange (x : Int) : Prop := x < -2 ^ 63 ∨ 2 ^ 63 ≤ x

lemma outOfRange_of_int64OfInt? {x : Int} (h : int64OfInt? x = none) : OutOfRange x := by
  unfold int64OfInt? at h
  split at h
  · cases h
  · next hx =>
    have hmin : Int64.minValue.toInt = -2 ^ 63 := by decide
    have hmax : Int64.maxValue.toInt = 2 ^ 63 - 1 := by decide
    rw [hmin, hmax] at hx
    unfold OutOfRange
    omega

namespace Script

variable {α β : Type} {p : Properties} {bad : NodeError → Prop}

/-- A good result or an excusable failure. -/
def Passes (good : α → Prop) (bad : NodeError → Prop) : Except NodeError α → Prop
  | .ok a => good a
  | .error e => bad e

/-- With these properties the script ends in a good result or fails in an excusable way. -/
def Ends (s : Script α) (p : Properties) (good : α → Prop) (bad : NodeError → Prop) : Prop :=
  ∀ (σ : Type) (_ : Host σ) (w : Workspace σ), w.properties = p → Passes good bad (s.run w).1

lemma Ends.done {good : α → Prop} {a : α} (h : good a) : (pure a : Script α).Ends p good bad :=
  fun _ _ _ _ => h

lemma Ends.fail {good : α → Prop} {e : NodeError} (h : bad e) :
    (Script.fail e : Script α).Ends p good bad :=
  fun _ _ _ _ => h

lemma Ends.mono {s : Script α} {good better : α → Prop} {worse : NodeError → Prop}
    (h : s.Ends p better worse) (hgood : ∀ a, better a → good a) (hbad : ∀ e, worse e → bad e) :
    s.Ends p good bad := by
  intro σ host w hw
  have hrun := h σ host w hw
  cases he : (s.run w).1 with
  | ok a =>
    rw [he] at hrun
    exact hgood a hrun
  | error e =>
    rw [he] at hrun
    exact hbad e hrun

lemma Ends.bind {s : Script α} {f : α → Script β} {m : α → Prop} {good : β → Prop}
    (hr : s.Reads) (hs : s.Ends p m bad) (hf : ∀ a, m a → (f a).Ends p good bad) :
    (s >>= f).Ends p good bad := by
  intro σ host w hw
  have hkept := hr.properties_run w
  have hmid := hs σ host w hw
  rw [run_bind]
  rcases hrun : s.run w with ⟨e | a, w'⟩
  · rw [hrun] at hmid
    exact hmid
  · rw [hrun] at hmid hkept
    exact hf a hmid σ host w' (hkept.trans hw)

lemma Ends.read {name : String} {expected : Kind} {as? : Value → Option α} {value : Value}
    (hv : p.find? name = some value) (ha : (as? value).isSome = true) :
    (Script.read name expected as?).Ends p (fun _ => True) bad := by
  intro _ _ w hw
  obtain ⟨a, ha⟩ := Option.isSome_iff_exists.mp ha
  rw [run_read, hw, hv]
  simp [ha, Passes]

lemma Ends.capable (hbad : ∀ cause, bad (.missingCapability cause)) (r : Except SceneError α) :
    (Script.capable r).Ends p (fun _ => True) bad := by
  cases r with
  | ok a => exact .done trivial
  | error cause => exact .fail (hbad cause)

end Script

/-- The table has the properties that the type declares, each with a readable value. -/
structure NodeType.Holds (t : NodeType) (p : Properties) : Prop where
  declared : ∀ name, name ∈ p.keys ↔ name ∈ t.properties.keys
  readable : ∀ name decl value, t.properties.find? name = some decl → p.find? name = some value →
    value.readableAs decl.kind = true

lemma NodeType.Holds.of_entries {t : NodeType} {p : Properties} (hkeys : p.keys = t.properties.keys)
    (hread : ∀ e ∈ p.entries,
      (t.properties.find? e.1).all (fun decl => e.2.readableAs decl.kind) = true) : t.Holds p := by
  refine ⟨fun name => by rw [hkeys], ?_⟩
  intro name decl value hd hv
  have h := hread (name, value) (Table.find?_eq_some_iff.mp hv)
  simpa [hd] using h

lemma NodeType.Holds.find? {t : NodeType} {p : Properties} (h : t.Holds p) (name : String)
    (kind : Kind) (hd : (t.properties.find? name).map PropertyDecl.kind = some kind) :
    ∃ value, p.find? name = some value ∧ value.readableAs kind = true := by
  obtain ⟨decl, hdecl, rfl⟩ := Option.map_eq_some_iff.mp hd
  have hmem := (h.declared name).mpr (Table.mem_keys_iff_find?.mpr ⟨decl, hdecl⟩)
  obtain ⟨value, hv⟩ := Table.mem_keys_iff_find?.mp hmem
  exact ⟨value, hv, h.readable name decl value hdecl hv⟩

lemma NodeType.Holds.setExisting {t : NodeType} {p : Properties} (h : t.Holds p) {name : String}
    {value : Value} (hv : ∀ decl, t.properties.find? name = some decl →
      value.readableAs decl.kind = true) : t.Holds (setExisting p name value) := by
  refine ⟨fun k => by rw [keys_setExisting, h.declared], ?_⟩
  intro k decl v hd hf
  rw [ScriptGraph.setExisting, Table.find?_modify] at hf
  split at hf
  · next hk =>
    subst hk
    obtain ⟨old, _, rfl⟩ := Option.map_eq_some_iff.mp hf
    exact hv decl hd
  · exact h.readable k decl v hd hf

/-- The ways in which a node of this type may fail although its properties are readable. -/
def NodeError.Excused (typeName : String) (e : NodeError) : Prop :=
  (∃ cause, e = .missingCapability cause) ∨ (∃ name, e = .unknownVariable name) ∨
    ∃ i j : Int64, e = .cannotCombine (.int i) (.int j) typeName ∧
      (typeName = "Add" ∧ OutOfRange (i.toInt + j.toInt) ∨
        typeName = "Multiply" ∧ OutOfRange (i.toInt * j.toInt))

namespace Builtin

/-- The node has a data output of that name whose kind the value is readable as. -/
def Offers (b : Builtin) (port : String) (value : Value) : Prop :=
  ∃ output kind, b.nodeType.output? port = some output ∧ output.type = .data kind ∧
    value.readableAs kind = true

/-- Everything that the outcome publishes is offered. -/
def Publishes (b : Builtin) (outcome : Outcome) : Prop :=
  ∀ values, outcome.published = some values → ∀ port value, (port, value) ∈ values.entries →
    b.Offers port value

lemma publishes_of_none {b : Builtin} {outcome : Outcome} (h : outcome.published = none) :
    b.Publishes outcome := by
  intro values hv
  rw [h] at hv
  cases hv

lemma publishes_singleton {b : Builtin} {outcome : Outcome} {port : String} {value : Value}
    (h : outcome.published = some (.ofList [(port, value)])) (ho : b.Offers port value) :
    b.Publishes outcome := by
  intro values hv name v hmem
  rw [h] at hv
  rw [← Option.some.inj hv] at hmem
  obtain ⟨rfl, rfl⟩ := Prod.mk.inj (List.mem_singleton.mp hmem)
  exact ho

variable {p : Properties}

/-- An arithmetic node that reads two numbers publishes a number, or both are integers and the
result is out of range. -/
lemma ends_arithmetic {onFloats : Single → Single → Single} {onInts : Int → Int → Int}
    {a b : Value} (ha : p.find? "A" = some a) (hb : p.find? "B" = some b)
    (hra : a.readableAs .float = true) (hrb : b.readableAs .float = true) (typeName : String) :
    (arithmetic (Value.combine onFloats onInts) typeName).Ends p
      (fun outcome => ∃ result, outcome = .publishOne "Result" result ∧
        result.readableAs .float = true)
      (fun e => ∃ i j : Int64, e = .cannotCombine (.int i) (.int j) typeName ∧
        OutOfRange (onInts i.toInt j.toInt)) := by
  have hoperand {name : String} {value : Value} (hv : p.find? name = some value)
      {bad : NodeError → Prop} : (operand name).Ends p (· = value) bad := by
    intro _ _ w hw
    simp [operand, Script.run, Script.Passes, hw, hv]
  refine .bind (reads_operand "A") (hoperand ha) ?_
  rintro _ rfl
  refine .bind (reads_operand "B") (hoperand hb) ?_
  rintro _ rfl
  rcases Value.combine_of_readable hra hrb with ⟨result, hresult, hr⟩ | ⟨i, j, rfl, rfl, hnone⟩
  · rw [hresult]
    exact .done ⟨result, rfl, hr⟩
  · rw [Value.combine, hnone]
    exact .fail ⟨i, j, rfl, outOfRange_of_int64OfInt? hnone⟩

/-- A node whose properties are readable publishes what it offers or fails in an excused way. -/
theorem ends_script (b : Builtin) {i : Invocation} (hi : i.typeName = b.typeName)
    (hp : b.nodeType.Holds p) :
    (b.script i).Ends p b.Publishes (NodeError.Excused b.typeName) := by
  have hlacks (cause : SceneError) :
      NodeError.Excused b.typeName (.missingCapability cause) := Or.inl ⟨cause, rfl⟩
  cases b with
  | onStart =>
    dsimp only [script]
    split
    · exact .done (publishes_of_none rfl)
    · exact .done (publishes_of_none rfl)
  | onUpdate => exact .done (publishes_singleton rfl ⟨_, _, rfl, rfl, rfl⟩)
  | onCollision =>
    dsimp only [script]
    split
    · exact .done (publishes_singleton rfl ⟨_, _, rfl, rfl, rfl⟩)
    · exact .done (publishes_of_none rfl)
  | branch =>
    obtain ⟨v, hv, hr⟩ := hp.find? "Condition" .bool rfl
    refine .bind (.read ..) (.read hv (Value.isSome_bool? hr)) fun condition _ => ?_
    exact .done (publishes_of_none rfl)
  | sequence => exact .done (publishes_of_none rfl)
  | add =>
    obtain ⟨a, ha, hra⟩ := hp.find? "A" .float rfl
    obtain ⟨b, hb, hrb⟩ := hp.find? "B" .float rfl
    refine (ends_arithmetic ha hb hra hrb i.typeName).mono ?_ ?_
    · rintro _ ⟨result, rfl, hr⟩
      exact publishes_singleton rfl ⟨_, _, rfl, rfl, hr⟩
    · rintro _ ⟨i, j, rfl, hout⟩
      exact Or.inr (Or.inr ⟨i, j, by rw [hi], Or.inl ⟨rfl, hout⟩⟩)
  | multiply =>
    obtain ⟨a, ha, hra⟩ := hp.find? "A" .float rfl
    obtain ⟨b, hb, hrb⟩ := hp.find? "B" .float rfl
    refine (ends_arithmetic ha hb hra hrb i.typeName).mono ?_ ?_
    · rintro _ ⟨result, rfl, hr⟩
      exact publishes_singleton rfl ⟨_, _, rfl, rfl, hr⟩
    · rintro _ ⟨i, j, rfl, hout⟩
      exact Or.inr (Or.inr ⟨i, j, by rw [hi], Or.inr ⟨rfl, hout⟩⟩)
  | getPosition =>
    obtain ⟨v, hv, hr⟩ := hp.find? "Object" .object rfl
    refine .bind (.read ..) (.read hv (Value.isSome_object? hr)) fun object _ => ?_
    refine .bind (.position .capable)
      (fun _ _ _ hw => Script.Ends.capable hlacks _ _ _ _ hw) ?_
    intro position _
    exact .done (publishes_singleton rfl ⟨_, _, rfl, rfl, rfl⟩)
  | setPosition =>
    obtain ⟨v, hv, hr⟩ := hp.find? "Object" .object rfl
    obtain ⟨u, hu, hru⟩ := hp.find? "Position" .vector rfl
    refine .bind (.read ..) (.read hv (Value.isSome_object? hr)) fun object _ => ?_
    refine .bind (.read ..) (.read hu (Value.isSome_vector? hru)) fun position _ => ?_
    refine .bind (.setPosition .capable)
      (fun _ _ _ hw => Script.Ends.capable hlacks _ _ _ _ hw) ?_
    exact fun _ _ => .done (publishes_of_none rfl)
  | applyForce =>
    obtain ⟨v, hv, hr⟩ := hp.find? "Object" .object rfl
    obtain ⟨u, hu, hru⟩ := hp.find? "Force" .vector rfl
    refine .bind (.read ..) (.read hv (Value.isSome_object? hr)) fun object _ => ?_
    refine .bind (.read ..) (.read hu (Value.isSome_vector? hru)) fun force _ => ?_
    refine .bind (.push .capable)
      (fun _ _ _ hw => Script.Ends.capable hlacks _ _ _ _ hw) ?_
    exact fun _ _ => .done (publishes_of_none rfl)
  | getVariable =>
    obtain ⟨v, hv, hr⟩ := hp.find? "Name" .text rfl
    refine .bind (.read ..) (.read hv (Value.isSome_text? hr)) fun name _ => ?_
    refine .bind (.vars .done) (m := fun _ => True) (fun _ _ _ _ => trivial) fun vars _ => ?_
    cases vars.find? name with
    | none => exact .fail (Or.inr (Or.inl ⟨name, rfl⟩))
    | some value => exact .done (publishes_singleton rfl ⟨_, _, rfl, rfl, rfl⟩)
  | setVariable =>
    obtain ⟨v, hv, hr⟩ := hp.find? "Name" .text rfl
    refine .bind (.read ..) (.read hv (Value.isSome_text? hr)) fun name _ => ?_
    refine .bind (.property .done) (m := fun _ => True) (fun _ _ _ _ => trivial) fun value _ => ?_
    refine .bind (.setVariable (.done ())) (m := fun _ => True) (fun _ _ _ _ => trivial)
      fun _ _ => ?_
    exact .done (publishes_of_none rfl)
  | print =>
    refine .bind (.property .done) (m := fun _ => True) (fun _ _ _ _ => trivial) fun value _ => ?_
    refine .bind (.print (.done ())) (m := fun _ => True) (fun _ _ _ _ => trivial) fun _ _ => ?_
    exact .done (publishes_of_none rfl)

end Builtin

/-- A new node holds what its type declares. -/
lemma Builtin.holds_seed (b : Builtin) : b.nodeType.Holds (b.nodeType.seed .empty) :=
  .of_entries (b.nodeType.keys_seed .empty) (by cases b <;> decide)

namespace Graph

/-- Every node of a built-in type holds readable values under the names its type declares. -/
def TablesTyped (g : Graph) : Prop :=
  ∀ n ∈ g.nodes.nodes, ∀ t, Registry.builtins.lookup n.typeName = some t → t.Holds n.properties

/-- A graph over the built-in nodes: its tables hold readable values, its links are accepted, and
none leads from an output of any kind to an input of one kind. -/
structure PortTyped (g : Graph) : Prop where
  tables : g.TablesTyped
  links : ∀ c ∈ g.connections.values,
    g.checkLink .builtins c.source c.sourcePort c.target c.targetPort = .ok ()
  anyToAny : ∀ c ∈ g.connections.values, ∀ s t output input,
    g.typeOf? .builtins c.source = some s → g.typeOf? .builtins c.target = some t →
    s.output? c.sourcePort = some output → t.input? c.targetPort = some input →
    output.type = .data .any → input.type = .data .any

variable {g h : Graph}

/-- Only the tables can change during a tick. -/
lemma PortTyped.of_shape (hg : g.PortTyped) (hs : h.shape = g.shape) (ht : h.TablesTyped) :
    h.PortTyped := by
  have hconn := connections_of_shape hs
  refine ⟨ht, ?_, ?_⟩
  · intro c hc
    rw [hconn] at hc
    rw [checkLink_congr (map_typeName_of_shape hs _) (map_typeName_of_shape hs _)]
    exact hg.links c hc
  · intro c hc
    rw [hconn] at hc
    simp only [typeOf?_of_shape hs]
    exact hg.anyToAny c hc

/-- What a node offers can be read at the other end of a connection. -/
lemma PortTyped.readable_of_offers (hg : g.PortTyped) {c : Connection}
    (hc : c ∈ g.connections.values) {b : Builtin}
    (hb : g.typeOf? .builtins c.source = some b.nodeType) {value : Value}
    (hv : b.Offers c.sourcePort value) {t : NodeType} {decl : PropertyDecl}
    (ht : g.typeOf? .builtins c.target = some t)
    (hd : t.properties.find? c.targetPort = some decl) : value.readableAs decl.kind = true := by
  obtain ⟨s, t', output, input, hs, ht', ho, hi, hconn⟩ := checkLink_eq_ok_iff.mp (hg.links c hc)
  obtain rfl : b.nodeType = s := Option.some.inj (hb.symm.trans hs)
  obtain rfl : t = t' := Option.some.inj (ht.symm.trans ht')
  obtain ⟨output', kind, ho', hkind, hread⟩ := hv
  obtain rfl : output' = output := Option.some.inj (ho'.symm.trans ho)
  -- a link from data leads to data
  obtain ⟨target, htarget, hconv⟩ : ∃ target, input.type = .data target ∧
      kind.convertsTo target = true := by
    simp only [Port.connectsTo, hkind, Bool.and_eq_true] at hconn
    cases hin : input.type with
    | exec => simp [hin, PortType.connectsTo] at hconn
    | data target => exact ⟨target, rfl, by simpa [hin, PortType.connectsTo] using hconn.2⟩
  have hany : kind = .any → target = .any := by
    rintro rfl
    have := hg.anyToAny c hc _ _ _ _ hs ht' ho hi hkind
    rw [htarget] at this
    exact PortType.data.inj this
  obtain ⟨n, _, hlookup⟩ := Option.bind_eq_some_iff.mp ht
  obtain ⟨b', _, rfl⟩ := Registry.lookup_builtins.mp hlookup
  obtain ⟨decl', hdecl, rfl⟩ := Builtin.property_of_input hi htarget
  obtain rfl : decl = decl' := Option.some.inj (hd.symm.trans hdecl)
  exact Value.readableAs_of_convertsTo hconv hany hread

lemma TablesTyped.setProperty (hg : g.TablesTyped) {id : NodeId} {name : String} {value : Value}
    (hv : ∀ t decl, g.typeOf? .builtins id = some t → t.properties.find? name = some decl →
      value.readableAs decl.kind = true) :
    (g.modifyNode id fun n => n.setProperty name value).TablesTyped := by
  intro n hn t ht
  rcases Arena.mem_nodes_modify hn with hn | ⟨m, hm, rfl⟩
  · exact hg n hn t ht
  · refine (hg m (Arena.get?_mem_nodes hm) t ht).setExisting fun decl hd => hv t decl ?_ hd
    exact Option.bind_eq_some_iff.mpr ⟨m, hm, ht⟩

/-- Publishing what a node offers keeps the tables typed. -/
lemma PortTyped.publish (hg : g.PortTyped) {node : NodeId} {b : Builtin}
    (hb : g.typeOf? .builtins node = some b.nodeType) {values : Table String Value}
    (hv : ∀ port value, (port, value) ∈ values.entries → b.Offers port value) :
    (g.publish node values).2.TablesTyped := by
  have hwrites : (g.publish node values).2.shape = g.shape ∧
      (g.publish node values).2.TablesTyped := by
    refine publish_induction (P := fun h => h.shape = g.shape ∧ h.TablesTyped)
      ⟨rfl, hg.tables⟩ ?_ ?_
    · intro h port value hmem hh
      refine ⟨(shape_setProperty h node port value).trans hh.1, hh.2.setProperty ?_⟩
      intro t decl ht hd
      rw [typeOf?_of_shape hh.1, hb] at ht
      obtain rfl := Option.some.inj ht
      obtain ⟨output, kind, ho, hkind, hread⟩ := hv port value hmem
      obtain ⟨decl', hdecl, rfl⟩ := Builtin.property_of_output ho hkind
      obtain rfl : decl = decl' := Option.some.inj (hd.symm.trans hdecl)
      exact hread
    · intro h port value hmem c hc hh
      refine ⟨(shape_setProperty h c.target c.targetPort value).trans hh.1, hh.2.setProperty ?_⟩
      intro t decl ht hd
      rw [typeOf?_of_shape hh.1] at ht
      obtain ⟨hconn, hends⟩ := List.mem_filter.mp hc
      obtain ⟨rfl, rfl⟩ : c.source = node ∧ c.sourcePort = port := by simpa using hends
      exact hg.readable_of_offers hconn hb (hv _ value hmem) ht hd
  exact hwrites.2

end Graph

/-- Every failure in the log is one that a type excuses. -/
def Log.Excused (log : Log) : Prop :=
  ∀ graph node typeName e, LogEntry.nodeFailed graph node typeName e ∈ log → e.Excused typeName

namespace Log.Excused

variable {log : Log}

lemma push (h : log.Excused) {entry : LogEntry}
    (he : ∀ graph node typeName e, entry = .nodeFailed graph node typeName e →
      e.Excused typeName) : Log.Excused (log.push entry) := by
  intro graph node typeName e hm
  rcases Array.mem_push.mp hm with hm | hm
  · exact h graph node typeName e hm
  · exact he graph node typeName e hm.symm

omit [Host σ] in
lemma printedLog {r : TickRules} {n : Node} {s : TickState σ} (h : s.log.Excused)
    (w : Workspace σ) :
    (r.printedLog n s w).Excused := by
  intro graph node typeName e hm
  rw [TickRules.printedLog, Array.mem_append] at hm
  rcases hm with hm | hm
  · exact h graph node typeName e hm
  · obtain ⟨v, _, hv⟩ := List.mem_map.mp (List.mem_toArray.mp hm)
    cases hv

end Log.Excused

namespace TickRules

variable {r : TickRules} {s : TickState σ} {node : NodeId}

/-- Running a node of a typed graph: it is of a built-in type, it leaves its own table alone, and it
publishes what it offers or fails in an excused way. -/
lemma perform_typed (hr : r.registry = .builtins) (hg : s.graph.TablesTyped) {n : Node}
    {t : NodeType} (hn : s.graph.node? node = some n) (ht : r.registry.lookup n.typeName = some t) :
    ∃ b, s.graph.typeOf? .builtins node = some (Builtin.nodeType b) ∧ t.name = b.typeName ∧
      (r.perform t n s).2.properties = n.properties ∧
      Script.Passes b.Publishes (NodeError.Excused b.typeName) (r.perform t n s).1 := by
  rw [hr] at ht
  obtain ⟨b, hname, rfl⟩ := Registry.lookup_builtins.mp ht
  have hholds := hg n (Arena.get?_mem_nodes hn) b.nodeType ht
  refine ⟨b, Option.bind_eq_some_iff.mpr ⟨n, hn, ht⟩, b.name_nodeType, ?_⟩
  simp only [perform, b.behavior_nodeType, Behavior.script]
  let invocation : Invocation := { r.context with node := n.id, typeName := n.typeName }
  have hends := b.ends_script (i := invocation) hname.symm hholds
  exact ⟨(b.reads_script invocation).properties_run _, hends _ _ ⟨_, s.graph.vars, s.scene, []⟩ rfl⟩

omit [Host σ] in
lemma tablesTyped_absorb {g : Graph} (hg : g.TablesTyped) {n : Node} (hn : g.node? node = some n)
    {w : Workspace σ} (hw : w.properties = n.properties) : (g.absorb node w).TablesTyped := by
  intro m hm t ht
  rcases Arena.mem_nodes_modify hm with hm | ⟨k, hk, rfl⟩
  · exact hg m hm t ht
  · obtain rfl : n = k := Option.some.inj (hn.symm.trans hk)
    rw [hw]
    exact hg n (Arena.get?_mem_nodes hn) t ht

/-- A typed graph, and only excused failures so far. -/
def Sound (s : TickState σ) : Prop := s.graph.PortTyped ∧ s.log.Excused

lemma sound_invoke (hr : r.registry = .builtins) (hs : Sound s) (node : NodeId) :
    Sound (r.invoke node s).2 := by
  have hshape := r.shape_invoke node s
  cases hn : s.graph.node? node with
  | none => rwa [r.invoke_of_absent hn]
  | some n =>
    cases ht : r.registry.lookup n.typeName with
    | none =>
      rw [r.invoke_of_unregistered hn ht]
      exact ⟨hs.1, hs.2.push (by rintro _ _ _ _ ⟨⟩)⟩
    | some t =>
      obtain ⟨b, _, hname, hkept, hends⟩ := perform_typed hr hs.1.tables hn ht
      rcases hp : r.perform t n s with ⟨e | outcome, w⟩
      · rw [hp] at hkept hends
        rw [r.invoke_of_error hn ht hp] at hshape ⊢
        refine ⟨hs.1.of_shape hshape (tablesTyped_absorb hs.1.tables hn hkept), ?_⟩
        refine (hs.2.printedLog w).push ?_
        rintro _ _ _ _ ⟨⟩
        rw [hname]
        exact hends
      · rw [hp] at hkept
        rw [r.invoke_of_ok hn ht hp] at hshape ⊢
        refine ⟨hs.1.of_shape hshape (tablesTyped_absorb hs.1.tables hn hkept), ?_⟩
        exact (hs.2.printedLog w).push (by rintro _ _ _ _ ⟨⟩)

/-- Only what a node offers is published. -/
lemma offers_of_invoke (hr : r.registry = .builtins) (hg : s.graph.TablesTyped)
    {values : Table String Value} (hv : (r.invoke node s).1.published = some values) :
    ∃ b, s.graph.typeOf? .builtins node = some (Builtin.nodeType b) ∧
      ∀ port value, (port, value) ∈ values.entries → b.Offers port value := by
  cases hn : s.graph.node? node with
  | none =>
    rw [r.invoke_of_absent hn] at hv
    cases hv
  | some n =>
    cases ht : r.registry.lookup n.typeName with
    | none =>
      rw [r.invoke_of_unregistered hn ht] at hv
      cases hv
    | some t =>
      obtain ⟨b, hb, _, _, hends⟩ := perform_typed hr hg hn ht
      rcases hp : r.perform t n s with ⟨e | outcome, w⟩
      · rw [r.invoke_of_error hn ht hp] at hv
        cases hv
      · rw [hp] at hends
        rw [r.invoke_of_ok hn ht hp] at hv
        exact ⟨b, hb, hends values hv⟩

lemma keeps_sound (hr : r.registry = .builtins) : r.Keeps (Sound : TickState σ → Prop) where
  countRoot _ h := h
  counted _ _ h := h
  refuseReentry _ _ h := ⟨h.1, h.2.push (by rintro _ _ _ _ ⟨⟩)⟩
  refuseDepth _ _ _ h := ⟨h.1, h.2.push (by rintro _ _ _ _ ⟨⟩)⟩
  invoke _ node h := sound_invoke hr h node
  publish s node values h hv := by
    obtain ⟨b, hb, hoffers⟩ := offers_of_invoke hr h.1.tables hv
    have hran := sound_invoke hr h node
    rw [← Graph.typeOf?_of_shape (r.shape_invoke node s)] at hb
    refine ⟨hran.1.of_shape (Graph.shape_publish _ node values) ?_, hran.2⟩
    exact hran.1.publish hb hoffers

/-- A tick of a typed graph, in whatever scene and context and with whatever limit, leaves a typed
graph behind, and a node of it fails only because the scene lacks something, because a variable is
not there, or because the sum or product of two integers is out of range. -/
theorem run_keeps_ports_typed {g : Graph} (hg : g.PortTyped) (context : TickContext)
    (depth : Nat) (collisionsOnly : Bool) (scene : σ) :
    (run ⟨.builtins, context, depth⟩ collisionsOnly g scene).graph.PortTyped ∧
      ∀ graph node typeName e, LogEntry.nodeFailed graph node typeName e ∈
        (run ⟨.builtins, context, depth⟩ collisionsOnly g scene).log →
          (∃ cause, e = .missingCapability cause) ∨ (∃ name, e = .unknownVariable name) ∨
            ∃ i j : Int64, e = .cannotCombine (.int i) (.int j) typeName ∧
              (typeName = "Add" ∧ OutOfRange (i.toInt + j.toInt) ∨
                typeName = "Multiply" ∧ OutOfRange (i.toInt * j.toInt)) := by
  have hstart : Sound (start g scene) := ⟨hg, by simp [Log.Excused, start]⟩
  exact Keeps.run (r := ⟨.builtins, context, depth⟩) (keeps_sound rfl) hstart

end TickRules

/-- The entity moves to a sum, of which one operand is the largest integer. -/
def Graph.moving : Graph where
  id := default
  entity := default
  nodes :=
    ⟨[⟨0, some ⟨⟨0, 0⟩, "OnUpdate", .zero, Builtin.onUpdate.nodeType.seed .empty⟩⟩,
      ⟨0, some ⟨⟨1, 0⟩, "Add", .zero,
        .ofList [("A", .int Int64.maxValue), ("B", .int 1), ("Result", .float .zero)]⟩⟩,
      ⟨0, some ⟨⟨2, 0⟩, "SetPosition", .zero, Builtin.setPosition.nodeType.seed .empty⟩⟩], [], 3⟩
  connections := .ofList
    [(⟨.ofNat 1⟩, ⟨⟨.ofNat 1⟩, ⟨0, 0⟩, "Exec", ⟨2, 0⟩, "Exec"⟩),
      (⟨.ofNat 2⟩, ⟨⟨.ofNat 2⟩, ⟨1, 0⟩, "Result", ⟨2, 0⟩, "Position"⟩)]
  vars := .empty

lemma Graph.moving_portTyped : Graph.moving.PortTyped where
  tables n hn t ht := by
    have hnodes : n ∈ [(⟨⟨0, 0⟩, "OnUpdate", .zero, Builtin.onUpdate.nodeType.seed .empty⟩ : Node),
        ⟨⟨1, 0⟩, "Add", .zero,
          .ofList [("A", .int Int64.maxValue), ("B", .int 1), ("Result", .float .zero)]⟩,
        ⟨⟨2, 0⟩, "SetPosition", .zero, Builtin.setPosition.nodeType.seed .empty⟩] := hn
    simp only [List.mem_cons, List.not_mem_nil, or_false] at hnodes
    rcases hnodes with rfl | rfl | rfl
    · obtain rfl : Builtin.onUpdate.nodeType = t := Option.some.inj ht
      exact Builtin.onUpdate.holds_seed
    · obtain rfl : Builtin.add.nodeType = t := Option.some.inj ht
      exact .of_entries rfl (by decide)
    · obtain rfl : Builtin.setPosition.nodeType = t := Option.some.inj ht
      exact Builtin.setPosition.holds_seed
  links := by decide
  anyToAny c hc s _ output _ hs _ ho _ hany := by
    have hvalues : c ∈ [(⟨⟨.ofNat 1⟩, ⟨0, 0⟩, "Exec", ⟨2, 0⟩, "Exec"⟩ : Connection),
        ⟨⟨.ofNat 2⟩, ⟨1, 0⟩, "Result", ⟨2, 0⟩, "Position"⟩] := hc
    simp only [List.mem_cons, List.not_mem_nil, or_false] at hvalues
    rcases hvalues with rfl | rfl
    · obtain rfl : Builtin.onUpdate.nodeType = s := Option.some.inj hs
      obtain rfl : (⟨"Exec", .output, .exec⟩ : Port) = output := Option.some.inj ho
      cases hany
    · obtain rfl : Builtin.add.nodeType = s := Option.some.inj hs
      obtain rfl : (⟨"Result", .output, .data .float⟩ : Port) = output := Option.some.inj ho
      cases hany

theorem run_moving_ports_typed :
    Graph.moving.PortTyped ∧
      (TickRules.run ⟨.builtins, ⟨default, .one, 0, none⟩, 8⟩ false .moving
        Scene.empty).graph.PortTyped ∧
      LogEntry.nodeFailed default ⟨1, 0⟩ "Add"
          (.cannotCombine (.int Int64.maxValue) (.int 1) "Add") ∈
        (TickRules.run ⟨.builtins, ⟨default, .one, 0, none⟩, 8⟩ false .moving Scene.empty).log := by
  have htyped := TickRules.run_keeps_ports_typed Graph.moving_portTyped ⟨default, .one, 0, none⟩ 8
    false Scene.empty
  exact ⟨Graph.moving_portTyped, htyped.1, by decide +kernel⟩

end ScriptGraph
