import ScriptGraph.Catalog
import ScriptGraph.Proofs.Table

/-! The built-in nodes, one spec for each thing that proofs need of them: where the registry finds
them, which properties back their ports, and what one run of a script comes to. -/
namespace ScriptGraph

variable {σ : Type} [Host σ]

lemma Builtin.mem_all (b : Builtin) : b ∈ all := by cases b <;> decide

lemma Registry.entries_builtins :
    builtins.types.entries = Builtin.all.map fun b => (b.typeName, b.nodeType) := rfl

theorem Registry.lookup_builtins {name : String} {t : NodeType} :
    builtins.lookup name = some t ↔ ∃ b : Builtin, b.typeName = name ∧ b.nodeType = t := by
  rw [lookup, Table.find?_eq_some_iff, entries_builtins]
  simp [Builtin.mem_all]

namespace Builtin

@[simp] lemma behavior_nodeType (b : Builtin) : b.nodeType.behavior = .builtin b := by
  cases b <;> rfl

@[simp] lemma name_nodeType (b : Builtin) : b.nodeType.name = b.typeName := by
  cases b <;> rfl

lemma nodeType_inj {b b' : Builtin} (h : b.nodeType = b'.nodeType) : b = b' := by
  have hbehavior := congrArg NodeType.behavior h
  rw [behavior_nodeType, behavior_nodeType] at hbehavior
  exact Behavior.builtin.inj hbehavior

/-- Behind every data port stands a property of its name and kind. -/
lemma backed (b : Builtin) : ∀ p ∈ b.nodeType.inputs ++ b.nodeType.outputs, p.type.isExec = true ∨
    (b.nodeType.properties.find? p.name).map (fun decl => PortType.data decl.kind) =
      some p.type := by
  cases b <;> decide

lemma property_of_port {b : Builtin} {p : Port} {kind : Kind}
    (hp : p ∈ b.nodeType.inputs ++ b.nodeType.outputs) (hk : p.type = .data kind) :
    ∃ decl, b.nodeType.properties.find? p.name = some decl ∧ decl.kind = kind := by
  have h := b.backed p hp
  rw [hk] at h
  simpa [PortType.isExec] using h

lemma property_of_input {b : Builtin} {name : String} {input : Port} {kind : Kind}
    (hi : b.nodeType.input? name = some input) (hk : input.type = .data kind) :
    ∃ decl, b.nodeType.properties.find? name = some decl ∧ decl.kind = kind := by
  have hname : input.name = name := by simpa using List.find?_some hi
  rw [← hname]
  exact property_of_port (List.mem_append_left _ (List.mem_of_find?_eq_some hi)) hk

lemma property_of_output {b : Builtin} {name : String} {output : Port} {kind : Kind}
    (ho : b.nodeType.output? name = some output) (hk : output.type = .data kind) :
    ∃ decl, b.nodeType.properties.find? name = some decl ∧ decl.kind = kind := by
  have hname : output.name = name := by simpa using List.find?_some ho
  rw [← hname]
  exact property_of_port (List.mem_append_right _ (List.mem_of_find?_eq_some ho)) hk

end Builtin

namespace Script

variable {α β : Type}

theorem run_bind (s : Script α) (f : α → Script β) (w : Workspace σ) :
    (s >>= f).run w =
      match s.run w with
      | (.ok a, w') => (f a).run w'
      | (.error e, w') => (.error e, w') := by
  change (s.bind f).run w = _
  induction s generalizing w with
  | done => rfl
  | fail => rfl
  | table next ih => exact ih _ w
  | property name next ih => exact ih _ w
  | setProperty name value next ih => exact ih _ _
  | vars next ih => exact ih _ w
  | setVariable name value next ih => exact ih _
  | removeVariable name next ih => exact ih _
  | position e next ih => exact ih _ w
  | setPosition e p next ih => exact ih _ _
  | push e p next ih => exact ih _ _
  | print value next ih => exact ih _

section Yields

variable {good : α → Prop}

/-- Whenever the script ends in a result, the result is good. -/
def Yields (s : Script α) (good : α → Prop) : Prop :=
  ∀ (σ : Type) (_ : Host σ) (w : Workspace σ) (a : α), (s.run w).1 = .ok a → good a

lemma Yields.done {a : α} (h : good a) : (pure a : Script α).Yields good := by
  rintro _ _ w _ ⟨rfl⟩
  exact h

lemma Yields.fail (e : NodeError) : (Script.fail e : Script α).Yields good := nofun

/-- Only what comes last matters. -/
lemma Yields.bind {s : Script β} {f : β → Script α} (hf : ∀ b, (f b).Yields good) :
    (s >>= f).Yields good := by
  intro _ _ w a ha
  rw [run_bind] at ha
  split at ha
  · next b w' _ => exact hf b _ _ w' a ha
  · cases ha

lemma Yields.mono {s : Script α} {better : α → Prop} (hs : s.Yields better)
    (h : ∀ a, better a → good a) : s.Yields good :=
  fun _ _ w a ha => h a (hs _ _ w a ha)

end Yields

lemma run_read (name : String) (expected : Kind) (as? : Value → Option α) (w : Workspace σ) :
    (read name expected as?).run w =
      (match w.properties.find? name with
        | none => .error (.undeclaredProperty name)
        | some value =>
          match as? value with
          | some a => .ok a
          | none => .error (.typeMismatch name expected value), w) := by
  rw [read, run]
  cases w.properties.find? name with
  | none => rfl
  | some value =>
    dsimp only
    cases as? value <;> rfl

lemma run_capable (r : Except SceneError α) (w : Workspace σ) :
    (capable r).run w =
      (match r with
        | .ok a => .ok a
        | .error e => .error (.missingCapability e), w) := by
  cases r <;> rfl

/-- The script never writes a property. -/
inductive Reads : Script α → Prop
  | done (a : α) : Reads (.done a)
  | fail (e : NodeError) : Reads (.fail e)
  | table {next} (h : ∀ t, Reads (next t)) : Reads (.table next)
  | property {name next} (h : ∀ v, Reads (next v)) : Reads (.property name next)
  | vars {next} (h : ∀ t, Reads (next t)) : Reads (.vars next)
  | setVariable {name value next} (h : Reads next) : Reads (.setVariable name value next)
  | removeVariable {name next} (h : Reads next) : Reads (.removeVariable name next)
  | position {e next} (h : ∀ r, Reads (next r)) : Reads (.position e next)
  | setPosition {e p next} (h : ∀ r, Reads (next r)) : Reads (.setPosition e p next)
  | push {e p next} (h : ∀ r, Reads (next r)) : Reads (.push e p next)
  | print {value next} (h : Reads next) : Reads (.print value next)

theorem Reads.properties_run {s : Script α} (hs : s.Reads) (w : Workspace σ) :
    (s.run w).2.properties = w.properties := by
  induction hs generalizing w with
  | done | fail => rfl
  | table _ ih | property _ ih | vars _ ih | position _ ih => exact ih _ w
  | setPosition _ ih | push _ ih => exact ih _ _
  | setVariable _ ih | removeVariable _ ih | print _ ih => exact ih _

/-- What a script may do to the world around it, printing apart. -/
inductive Effect where
  | setsProperty
  | setsVariable
  | removesVariable
  | actsOnScene
deriving DecidableEq

/-- The script has no effects but the allowed ones. -/
inductive Limited (allowed : List Effect) : Script α → Prop
  | done (a : α) : Limited allowed (.done a)
  | fail (e : NodeError) : Limited allowed (.fail e)
  | table {next} (h : ∀ t, Limited allowed (next t)) : Limited allowed (.table next)
  | property {name next} (h : ∀ v, Limited allowed (next v)) : Limited allowed (.property name next)
  | setProperty {name value next} (ok : .setsProperty ∈ allowed)
      (h : ∀ b, Limited allowed (next b)) : Limited allowed (.setProperty name value next)
  | vars {next} (h : ∀ t, Limited allowed (next t)) : Limited allowed (.vars next)
  | setVariable {name value next} (ok : .setsVariable ∈ allowed) (h : Limited allowed next) :
      Limited allowed (.setVariable name value next)
  | removeVariable {name next} (ok : .removesVariable ∈ allowed) (h : Limited allowed next) :
      Limited allowed (.removeVariable name next)
  | position {e next} (h : ∀ r, Limited allowed (next r)) : Limited allowed (.position e next)
  | setPosition {e p next} (ok : .actsOnScene ∈ allowed) (h : ∀ r, Limited allowed (next r)) :
      Limited allowed (.setPosition e p next)
  | push {e p next} (ok : .actsOnScene ∈ allowed) (h : ∀ r, Limited allowed (next r)) :
      Limited allowed (.push e p next)
  | print {value next} (h : Limited allowed next) : Limited allowed (.print value next)

namespace Limited

variable {allowed : List Effect}

lemma bind {s : Script α} {f : α → Script β} (hs : s.Limited allowed)
    (hf : ∀ a, (f a).Limited allowed) : (s >>= f).Limited allowed := by
  change (s.bind f).Limited allowed
  induction hs with
  | done a => exact hf a
  | fail e => exact .fail e
  | table _ ih => exact .table ih
  | property _ ih => exact .property ih
  | setProperty ok _ ih => exact .setProperty ok ih
  | vars _ ih => exact .vars ih
  | setVariable ok _ ih => exact .setVariable ok ih
  | removeVariable ok _ ih => exact .removeVariable ok ih
  | position _ ih => exact .position ih
  | setPosition ok _ ih => exact .setPosition ok ih
  | push ok _ ih => exact .push ok ih
  | print _ ih => exact .print ih

lemma read (name : String) (expected : Kind) (as? : Value → Option α) :
    (Script.read name expected as?).Limited allowed := by
  refine .property fun v => ?_
  cases v with
  | none => exact .fail _
  | some value =>
    dsimp only
    cases as? value with
    | none => exact .fail _
    | some a => exact .done a

lemma capable (r : Except SceneError α) : (Script.capable r).Limited allowed := by
  cases r with
  | ok a => exact .done a
  | error e => exact .fail _

lemma reads {s : Script α} (hs : s.Limited allowed) (hnot : .setsProperty ∉ allowed) :
    s.Reads := by
  induction hs with
  | done a => exact .done a
  | fail e => exact .fail e
  | table _ ih => exact .table ih
  | property _ ih => exact .property ih
  | setProperty ok => exact absurd ok hnot
  | vars _ ih => exact .vars ih
  | setVariable _ _ ih => exact .setVariable ih
  | removeVariable _ _ ih => exact .removeVariable ih
  | position _ ih => exact .position ih
  | setPosition _ _ ih => exact .setPosition ih
  | push _ _ ih => exact .push ih
  | print _ ih => exact .print ih

end Limited

lemma Reads.read (name : String) (expected : Kind) (as? : Value → Option α) :
    (Script.read name expected as?).Reads :=
  (Limited.read name expected as? : Limited [] _).reads List.not_mem_nil

lemma Reads.capable (r : Except SceneError α) : (Script.capable r).Reads :=
  (Limited.capable r : Limited [] _).reads List.not_mem_nil

end Script

namespace Builtin

lemma limited_operand {allowed : List Script.Effect} (name : String) :
    (operand name).Limited allowed := by
  refine .property fun v => ?_
  cases v with
  | none => exact .fail _
  | some value => exact .done value

lemma reads_operand (name : String) : (operand name).Reads :=
  (limited_operand name : Script.Limited [] _).reads List.not_mem_nil

lemma limited_arithmetic {allowed : List Script.Effect} (op : Value → Value → Option Value)
    (typeName : String) : (arithmetic op typeName).Limited allowed := by
  refine (limited_operand "A").bind fun a => (limited_operand "B").bind fun b => ?_
  cases op a b with
  | none => exact .fail _
  | some result => exact .done _

/-- What runs of a built-in node can do to the world. -/
def effects : Builtin → List Script.Effect
  | .setPosition | .applyForce => [.actsOnScene]
  | .setVariable => [.setsVariable]
  | _ => []

theorem limited_script (b : Builtin) (i : Invocation) : (b.script i).Limited b.effects := by
  cases b with
  | onStart =>
    dsimp only [script]
    split
    · exact .done _
    · exact .done _
  | onUpdate | sequence => exact .done _
  | onCollision =>
    dsimp only [script]
    split
    · exact .done _
    · exact .done _
  | branch => exact (Script.Limited.read ..).bind fun _ => .done _
  | add | multiply => exact limited_arithmetic _ _
  | getPosition =>
    refine (Script.Limited.read ..).bind fun _ => ?_
    exact (Script.Limited.position .capable).bind fun _ => .done _
  | setPosition =>
    refine (Script.Limited.read ..).bind fun _ => (Script.Limited.read ..).bind fun _ => ?_
    exact (Script.Limited.setPosition (List.mem_singleton.mpr rfl) .capable).bind fun _ => .done _
  | applyForce =>
    refine (Script.Limited.read ..).bind fun _ => (Script.Limited.read ..).bind fun _ => ?_
    exact (Script.Limited.push (List.mem_singleton.mpr rfl) .capable).bind fun _ => .done _
  | getVariable =>
    refine (Script.Limited.read ..).bind fun name => (Script.Limited.vars .done).bind fun vars => ?_
    cases vars.find? name with
    | none => exact .fail _
    | some value => exact .done _
  | setVariable =>
    refine (Script.Limited.read ..).bind fun _ => (Script.Limited.property .done).bind fun _ => ?_
    refine (Script.Limited.setVariable (List.mem_singleton.mpr rfl) (.done ())).bind fun _ => ?_
    exact .done _
  | print =>
    refine (Script.Limited.property .done).bind fun _ => ?_
    exact (Script.Limited.print (.done ())).bind fun _ => .done _

/-- No built-in node writes its own properties. -/
theorem reads_script (b : Builtin) (i : Invocation) : (b.script i).Reads := by
  refine (b.limited_script i).reads ?_
  cases b <;> decide

end Builtin

/-- The outputs at which control passes on. -/
def Outcome.ports : Outcome → List String
  | .idle | .publish _ => []
  | .flow port | .publishThenFlow port _ => [port]
  | .flows ports _ => ports

namespace Builtin

/-- What the built-in nodes call their flow outputs. -/
def flowPorts : List String := ["Exec", "True", "False"] ++ sequencePorts

/-- What the built-in nodes call their data outputs. -/
def dataPorts : List String := ["deltaTime", "otherObject", "Result", "Position", "Value"]

/-- Values go out at data outputs and control passes on at flow outputs. -/
structure Asks (outcome : Outcome) : Prop where
  published : ∀ values, outcome.published = some values → values.keys ⊆ dataPorts
  ports : outcome.ports ⊆ flowPorts

lemma asks_of_none {outcome : Outcome} (h : outcome.published = none)
    (hports : outcome.ports ⊆ flowPorts) : Asks outcome := by
  refine ⟨fun values hv => ?_, hports⟩
  rw [h] at hv
  cases hv

lemma asks_singleton {outcome : Outcome} {port : String} {value : Value}
    (h : outcome.published = some (.ofList [(port, value)])) (hport : port ∈ dataPorts)
    (hports : outcome.ports ⊆ flowPorts) : Asks outcome := by
  refine ⟨fun values hv => ?_, hports⟩
  rw [← Option.some.inj (h.symm.trans hv)]
  exact List.cons_subset.mpr ⟨hport, List.nil_subset _⟩

lemma asks_arithmetic (op : Value → Value → Option Value) (typeName : String) :
    (arithmetic op typeName).Yields Asks := by
  refine .bind fun a => .bind fun b => ?_
  cases op a b with
  | none => exact .fail _
  | some result => exact .done (asks_singleton rfl (by decide) (List.nil_subset _))

theorem asks_script (b : Builtin) (i : Invocation) : (b.script i).Yields Asks := by
  have hnone : ([] : List String) ⊆ flowPorts := List.nil_subset _
  have hexec : ["Exec"] ⊆ flowPorts := by decide
  cases b with
  | onStart =>
    dsimp only [script]
    split
    · exact .done (asks_of_none rfl hexec)
    · exact .done (asks_of_none rfl hnone)
  | onUpdate => exact .done (asks_singleton rfl (by decide) hexec)
  | onCollision =>
    dsimp only [script]
    split
    · exact .done (asks_singleton rfl (by decide) hexec)
    · exact .done (asks_of_none rfl hnone)
  | branch =>
    refine .bind fun condition => .done (asks_of_none rfl ?_)
    cases condition <;> decide
  | sequence => exact .done (asks_of_none rfl (List.subset_append_right _ _))
  | add | multiply => exact asks_arithmetic _ _
  | getPosition => exact .bind fun _ => .bind fun _ => .done (asks_singleton rfl (by decide) hnone)
  | setPosition | applyForce =>
    exact .bind fun _ => .bind fun _ => .bind fun _ => .done (asks_of_none rfl hexec)
  | getVariable =>
    refine .bind fun name => .bind fun vars => ?_
    cases vars.find? name with
    | none => exact .fail _
    | some value => exact .done (asks_singleton rfl (by decide) hnone)
  | setVariable => exact .bind fun _ => .bind fun _ => .bind fun _ => .done (asks_of_none rfl hexec)
  | print => exact .bind fun _ => .bind fun _ => .done (asks_of_none rfl hexec)

lemma isExec_of_mem_flowPorts (b : Builtin) {port : String} (hport : port ∈ flowPorts)
    {output : Port} (ho : b.nodeType.output? port = some output) : output.type = .exec := by
  have hname : output.name = port := by simpa using List.find?_some ho
  have hall : ∀ p ∈ b.nodeType.outputs, p.name ∈ flowPorts → p.type = .exec := by
    cases b <;> decide
  exact hall output (List.mem_of_find?_eq_some ho) (hname ▸ hport)

/-- The only output of a pure node. -/
def outlet : Builtin → String
  | .add | .multiply => "Result"
  | .getPosition => "Position"
  | .getVariable => "Value"
  | _ => ""

lemma pure_cases {b : Builtin} (h : b.nodeType.isPure = true) :
    b = .add ∨ b = .multiply ∨ b = .getPosition ∨ b = .getVariable := by
  cases b <;> revert h <;> decide

lemma isExec_of_output? {b : Builtin} (h : b.nodeType.isPure = true) {port : String}
    {output : Port} (ho : b.nodeType.output? port = some output) : output.type.isExec = false := by
  have hmem := List.mem_of_find?_eq_some ho
  have hall : ∀ p ∈ b.nodeType.outputs, p.type.isExec = false := by
    obtain rfl | rfl | rfl | rfl := pure_cases h <;> decide
  exact hall output hmem

lemma eq_outlet_of_output? {b : Builtin} (h : b.nodeType.isPure = true) {port : String}
    {output : Port} (ho : b.nodeType.output? port = some output) : port = b.outlet := by
  have hname : output.name = port := by simpa using List.find?_some ho
  have hmem := List.mem_of_find?_eq_some ho
  have hall : ∀ p ∈ b.nodeType.outputs, p.name = b.outlet := by
    obtain rfl | rfl | rfl | rfl := pure_cases h <;> decide
  rw [← hname]
  exact hall output hmem

lemma ne_outlet_of_input? {b : Builtin} (h : b.nodeType.isPure = true) {port : String}
    {input : Port} (hi : b.nodeType.input? port = some input) : port ≠ b.outlet := by
  have hname : input.name = port := by simpa using List.find?_some hi
  have hmem := List.mem_of_find?_eq_some hi
  have hall : ∀ p ∈ b.nodeType.inputs, p.name ≠ b.outlet := by
    obtain rfl | rfl | rfl | rfl := pure_cases h <;> decide
  rw [← hname]
  exact hall input hmem

lemma run_arithmetic (op : Value → Value → Option Value) (typeName : String) (w : Workspace σ) :
    (arithmetic op typeName).run w =
      (match w.properties.find? "A", w.properties.find? "B" with
        | none, _ => .error (.missingOperand "A")
        | some _, none => .error (.missingOperand "B")
        | some a, some b =>
          match op a b with
          | some result => .ok (.publishOne "Result" result)
          | none => .error (.cannotCombine a b typeName), w) := by
  unfold arithmetic operand
  cases hA : w.properties.find? "A" with
  | none => simp [Script.run_bind, Script.run, hA]
  | some a =>
    cases hB : w.properties.find? "B" with
    | none => simp [Script.run_bind, Script.run, hA, hB]
    | some b =>
      simp only [Script.run_bind, Script.run, hA, hB]
      cases op a b <;> rfl

lemma run_getPosition (i : Invocation) (w : Workspace σ) :
    (script .getPosition i).run w =
      (match w.properties.find? "Object" with
        | none => .error (.undeclaredProperty "Object")
        | some value =>
          match value.object? with
          | none => .error (.typeMismatch "Object" .object value)
          | some object =>
            match Host.position w.scene (object.getD i.entity) with
            | .ok position => .ok (.publishOne "Position" (.vector position))
            | .error e => .error (.missingCapability e), w) := by
  simp only [script, Script.run_bind, Script.object, Script.run_read]
  cases hO : w.properties.find? "Object" with
  | none => rfl
  | some value =>
    dsimp only
    cases hv : value.object? with
    | none => rfl
    | some object =>
      simp only [Script.run, Script.run_capable]
      cases Host.position w.scene (object.getD i.entity) <;> rfl

lemma run_getVariable (i : Invocation) (w : Workspace σ) :
    (script .getVariable i).run w =
      (match w.properties.find? "Name" with
        | none => .error (.undeclaredProperty "Name")
        | some value =>
          match value.text? with
          | none => .error (.typeMismatch "Name" .text value)
          | some name =>
            match w.vars.find? name with
            | some value => .ok (.publishOne "Value" value)
            | none => .error (.unknownVariable name), w) := by
  simp only [script, Script.run_bind, Script.text, Script.run_read]
  cases hN : w.properties.find? "Name" with
  | none => rfl
  | some value =>
    dsimp only
    cases hv : value.text? with
    | none => rfl
    | some name =>
      simp only [Script.run]
      cases w.vars.find? name <;> rfl

/-- A pure node changes nothing, and what it gives stands on its only output. -/
theorem run_of_pure {b : Builtin} (h : b.nodeType.isPure = true) (i : Invocation)
    (w : Workspace σ) :
    ((b.script i).run w).2 = w ∧ ∀ outcome, ((b.script i).run w).1 = .ok outcome →
      ∃ value, outcome = .publishOne b.outlet value := by
  have harith (op : Value → Value → Option Value) (typeName : String) (outcome : Outcome)
      (ho : ((arithmetic op typeName).run w).1 = .ok outcome) :
      ∃ value, outcome = .publishOne "Result" value := by
    rw [run_arithmetic] at ho
    dsimp only at ho
    split at ho
    · cases ho
    · cases ho
    · split at ho
      · exact ⟨_, (Except.ok.inj ho).symm⟩
      · cases ho
  obtain rfl | rfl | rfl | rfl := pure_cases h
  · exact ⟨congrArg Prod.snd (run_arithmetic ..), harith Value.add i.typeName⟩
  · exact ⟨congrArg Prod.snd (run_arithmetic ..), harith Value.mul i.typeName⟩
  · rw [run_getPosition]
    refine ⟨rfl, fun outcome ho => ?_⟩
    dsimp only at ho
    split at ho
    · cases ho
    · split at ho
      · cases ho
      · split at ho
        · exact ⟨_, (Except.ok.inj ho).symm⟩
        · cases ho
  · rw [run_getVariable]
    refine ⟨rfl, fun outcome ho => ?_⟩
    dsimp only at ho
    split at ho
    · cases ho
    · split at ho
      · cases ho
      · split at ho
        · exact ⟨_, (Except.ok.inj ho).symm⟩
        · cases ho

/-- What a pure node gives depends on the variables, the scene and its properties but the one
behind its output. -/
theorem run_congr_of_pure {b : Builtin} (h : b.nodeType.isPure = true) (i : Invocation)
    {w w' : Workspace σ} (hvars : w.vars = w'.vars) (hscene : w.scene = w'.scene)
    (hprops : ∀ name, name ≠ b.outlet → w.properties.find? name = w'.properties.find? name) :
    ((b.script i).run w).1 = ((b.script i).run w').1 := by
  obtain rfl | rfl | rfl | rfl := pure_cases h
  · have hA := hprops "A" (by decide)
    have hB := hprops "B" (by decide)
    simp only [script, run_arithmetic, hA, hB]
  · have hA := hprops "A" (by decide)
    have hB := hprops "B" (by decide)
    simp only [script, run_arithmetic, hA, hB]
  · have hO := hprops "Object" (by decide)
    simp only [run_getPosition, hO, hscene]
  · have hN := hprops "Name" (by decide)
    simp only [run_getVariable, hN, hvars]

end Builtin

end ScriptGraph
