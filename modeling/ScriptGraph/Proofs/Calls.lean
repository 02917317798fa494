import ScriptGraph.Proofs.Store
import ScriptGraph.Session

/-! The calls that a host makes on a session, and the sessions that any number of them lead to.
`Session.Step` says once what a call can do; every invariant of sessions is derived from it. -/
namespace ScriptGraph

/-- One call. Ids that it would mint are given with it. -/
inductive Call where
  | play
  | pause
  | stop
  | update {σ : Type} [Host σ] (deltaTime : Single) (scene : σ) (collisions : List Collision)
  | register (type : NodeType)
  | setTimeScale (scale : Single)
  | createGraph (id : GraphId) (entity : EntityId)
  | replaceGraph (id : GraphId) (entity : EntityId)
  | detach (entity : EntityId)
  | addNode (entity : EntityId) (typeName : String) (position : Point)
  | removeNode (entity : EntityId) (node : NodeId)
  | connect (id : ConnectionId) (entity : EntityId) (source : NodeId) (sourcePort : String)
      (target : NodeId) (targetPort : String)
  | disconnect (entity : EntityId) (id : ConnectionId)
  | setProperty (entity : EntityId) (node : NodeId) (name : String) (value : Value)
  | setVariable (entity : EntityId) (name : String) (value : Value)
  | save (entity : EntityId)
  | load (p : Snapshot)

namespace Call

def isUpdate : Call → Bool
  | @update .. => true
  | _ => false

def isRegister : Call → Bool
  | .register _ => true
  | _ => false

end Call

namespace Session

/-- The session after a request, which a refusal leaves as it was. -/
def granted (s : Session) : Except GraphError Session → Session
  | .ok t => t
  | .error _ => s

/-- The session after a call. -/
def call (s : Session) : Call → Session
  | .play => (s.after s.play).1
  | .pause => (s.after s.pause).1
  | .stop => (s.after s.stop).1
  | @Call.update _ _ deltaTime scene collisions => (s.update deltaTime scene collisions).session
  | .register type => s.register type
  | .setTimeScale scale => s.setTimeScale scale
  | .createGraph id entity => s.granted (s.createGraph id entity)
  | .replaceGraph id entity => s.replaceGraph id entity
  | .detach entity => s.detach entity
  | .addNode entity typeName position =>
    s.granted ((s.addNode entity typeName position).map Prod.snd)
  | .removeNode entity node => s.granted ((s.removeNode entity node).map Prod.snd)
  | .connect id entity source sourcePort target targetPort =>
    s.granted (s.connect id entity source sourcePort target targetPort)
  | .disconnect entity id => s.granted ((s.disconnect entity id).map Prod.snd)
  | .setProperty entity node name value => s.granted (s.setProperty entity node name value)
  | .setVariable entity name value => s.granted ((s.setVariable entity name value).map Prod.snd)
  | .save _ => s
  | .load p => s.granted ((s.load p).1.map Prod.snd)

def perform (s : Session) (calls : List Call) : Session := calls.foldl call s

/-- The session that is opened with a registry and settings and then gets the calls. -/
def reached (registry : Registry) (settings : Settings) (calls : List Call) : Session :=
  (start registry settings).1.perform calls

@[simp] lemma perform_nil (s : Session) : s.perform [] = s := rfl

@[simp] lemma perform_cons (s : Session) (c : Call) (calls : List Call) :
    s.perform (c :: calls) = (s.call c).perform calls := rfl

lemma perform_append (s : Session) (xs ys : List Call) :
    s.perform (xs ++ ys) = (s.perform xs).perform ys := List.foldl_append

lemma perform_concat (s : Session) (calls : List Call) (c : Call) :
    s.perform (calls ++ [c]) = (s.perform calls).call c := s.perform_append calls [c]

/-- What a call can do to a session. -/
inductive Step (s : Session) : Call → Session → Prop
  | begins (stopped : s.mode = .stopped) :
      Step s .play
        { s with backup := some s.store, mode := .playing, frame := 0, elapsed := .zero }
  | resumes (paused : s.mode = .paused) : Step s .play { s with mode := .playing }
  | pauses (playing : s.mode = .playing) : Step s .pause { s with mode := .paused }
  | stops (active : s.mode ≠ .stopped) :
      Step s .stop {
        s with
        mode := .stopped
        store := s.backup.getD s.store
        backup := none
        frame := 0
        elapsed := .zero }
  | ticks {σ : Type} [Host σ] {deltaTime : Single} {scene : σ} {collisions : List Collision}
      (playing : s.mode = .playing) :
      Step s (.update deltaTime scene collisions) (s.update deltaTime scene collisions).session
  | registers (type : NodeType) : Step s (.register type) (s.register type)
  | rescales (scale : Single) : Step s (.setTimeScale scale) (s.setTimeScale scale)
  | changes {c : Call} {store : Store} (plain : c.isUpdate = false ∧ c.isRegister = false)
      (change : s.store.Change s.registry store) : Step s c { s with store := store }
  /-- The call was refused or had nothing to do. -/
  | nothing {c : Call} (waits : c.isUpdate = true → s.mode ≠ .playing)
      (plain : c.isRegister = false) : Step s c s

variable {s t : Session} {c : Call}

lemma edit_eq_ok {α : Type} {entity : EntityId} {f : Graph → Except GraphError (α × Graph)} {a : α}
    (ok : s.edit entity f = .ok (a, t)) :
    ∃ g h, s.store.get? entity = some g ∧ f g = .ok (a, h) ∧
      t = { s with store := s.store.modify entity fun _ => h } := by
  unfold edit Store.edit Store.require at ok
  obtain ⟨⟨b, store⟩, hstore, heq⟩ := bind_eq_ok.mp ok
  obtain ⟨rfl, rfl⟩ := Prod.mk.inj (Except.ok.inj heq)
  obtain ⟨g, hg, hrest⟩ := bind_eq_ok.mp hstore
  obtain ⟨⟨b, h⟩, hf, heq⟩ := bind_eq_ok.mp hrest
  obtain ⟨rfl, rfl⟩ := Prod.mk.inj (Except.ok.inj heq)
  split at hg
  · next found =>
    cases hg
    exact ⟨g, h, found, hf, rfl⟩
  · cases hg

lemma amend_eq_ok {entity : EntityId} {f : Graph → Except GraphError Graph}
    (ok : s.amend entity f = .ok t) :
    ∃ g h, s.store.get? entity = some g ∧ f g = .ok h ∧
      t = { s with store := s.store.modify entity fun _ => h } := by
  obtain ⟨⟨_, u⟩, he, heq⟩ := bind_eq_ok.mp ok
  obtain rfl := Except.ok.inj heq
  obtain ⟨g, h, found, hf, rfl⟩ := edit_eq_ok he
  obtain ⟨h', hf', heq⟩ := map_eq_ok_iff.mp hf
  obtain ⟨-, rfl⟩ := Prod.mk.inj heq
  exact ⟨g, h', found, hf', rfl⟩

lemma createGraph_eq_ok {id : GraphId} {entity : EntityId} (ok : s.createGraph id entity = .ok t) :
    ∃ store, s.store.create id entity = .ok store ∧ t = { s with store := store } := by
  obtain ⟨store, hstore, heq⟩ := bind_eq_ok.mp ok
  exact ⟨store, hstore, (Except.ok.inj heq).symm⟩

lemma step_self (plain : c.isUpdate = false ∧ c.isRegister = false) : s.Step c s :=
  .nothing (by simp [plain.1]) plain.2

/-- A call that asks for a change of the store makes that change or none. -/
lemma step_granted {x : Except GraphError Session}
    (plain : c.isUpdate = false ∧ c.isRegister = false)
    (hx : ∀ t, x = .ok t →
      ∃ store, s.store.Change s.registry store ∧ t = { s with store := store }) :
    s.Step c (s.granted x) := by
  cases x with
  | error e => exact step_self plain
  | ok t =>
    obtain ⟨store, change, rfl⟩ := hx t rfl
    exact .changes plain change

lemma step_edit {α : Type} {entity : EntityId} {f : Graph → Except GraphError (α × Graph)}
    (plain : c.isUpdate = false ∧ c.isRegister = false) (e : Edit) (uses : e.Uses s.registry)
    (hf : ∀ g, (f g).map Prod.snd = e.apply g) :
    s.Step c (s.granted ((s.edit entity f).map Prod.snd)) := by
  refine step_granted plain fun t ht => ?_
  obtain ⟨⟨a, t⟩, ok, rfl⟩ := map_eq_ok_iff.mp ht
  obtain ⟨g, h, found, hg, rfl⟩ := edit_eq_ok ok
  exact ⟨_, .edit found e uses (by rw [← hf, hg]; rfl), rfl⟩

lemma step_amend {entity : EntityId} (plain : c.isUpdate = false ∧ c.isRegister = false) (e : Edit)
    (uses : e.Uses s.registry) : s.Step c (s.granted (s.amend entity fun g => e.apply g)) := by
  refine step_granted plain fun t ht => ?_
  obtain ⟨g, h, found, ok, rfl⟩ := amend_eq_ok ht
  exact ⟨_, .edit found e uses ok, rfl⟩

/-- Every call does one of the things listed. -/
theorem step_call (s : Session) (c : Call) : s.Step c (s.call c) := by
  cases c with
  | play =>
    cases hm : s.mode with
    | stopped => simpa [call, after, Session.play, hm] using Step.begins hm
    | playing => simpa [call, after, Session.play, hm] using step_self ⟨rfl, rfl⟩
    | paused => simpa [call, after, Session.play, hm] using Step.resumes hm
  | pause =>
    cases hm : s.mode with
    | playing => simpa [call, after, Session.pause, hm] using Step.pauses hm
    | stopped | paused => simpa [call, after, Session.pause, hm] using step_self ⟨rfl, rfl⟩
  | stop =>
    cases hm : s.mode with
    | stopped => simpa [call, after, Session.stop, hm] using step_self ⟨rfl, rfl⟩
    | playing | paused =>
      have active : s.mode ≠ .stopped := by simp [hm]
      simpa [call, after, Session.stop, hm] using Step.stops active
  | update deltaTime scene collisions =>
    by_cases hm : s.mode = .playing
    · exact .ticks hm
    · simpa [call, Session.update, PlayMode.isPlaying, hm] using Step.nothing (fun _ => hm) rfl
  | register type => exact .registers type
  | setTimeScale scale => exact .rescales scale
  | createGraph id entity =>
    refine step_granted ⟨rfl, rfl⟩ fun t ok => ?_
    obtain ⟨store, hstore, rfl⟩ := createGraph_eq_ok ok
    exact ⟨store, .create hstore, rfl⟩
  | replaceGraph id entity => exact .changes ⟨rfl, rfl⟩ (.replace id entity)
  | detach entity => exact .changes ⟨rfl, rfl⟩ (.detach entity)
  | addNode entity typeName position =>
    exact step_edit ⟨rfl, rfl⟩ (.addNode s.registry typeName position) rfl fun _ => rfl
  | removeNode entity node => exact step_edit ⟨rfl, rfl⟩ (.removeNode node) trivial fun _ => rfl
  | connect id entity source sourcePort target targetPort =>
    exact step_amend ⟨rfl, rfl⟩ (.connect s.registry id source sourcePort target targetPort) rfl
  | disconnect entity id => exact step_edit ⟨rfl, rfl⟩ (.disconnect id) trivial fun _ => rfl
  | setProperty entity node name value =>
    exact step_amend ⟨rfl, rfl⟩ (.setProperty node name value) trivial
  | setVariable entity name value =>
    exact step_edit ⟨rfl, rfl⟩ (.setVariable name value) trivial fun _ => rfl
  | save entity => exact step_self ⟨rfl, rfl⟩
  | load p =>
    refine step_granted ⟨rfl, rfl⟩ fun t ok => ?_
    unfold Session.load at ok
    split at ok
    · cases ok
    · next loaded log hl =>
      cases ok
      exact ⟨_, .load hl, rfl⟩

/-- What holds of every newly opened session and is kept by every step holds of all sessions. -/
lemma reached_induction {I : Session → Prop} {registry : Registry} {settings : Settings}
    (hstart : I (start registry settings).1) (hstep : ∀ s c t, I s → s.Step c t → I t)
    (calls : List Call) : I (reached registry settings calls) := by
  have hperform (s : Session) (hs : I s) : I (s.perform calls) := by
    induction calls generalizing s with
    | nil => exact hs
    | cons c calls ih => exact ih (s.call c) (hstep s c _ hs (s.step_call c))
  exact hperform _ hstart

/-- The property holds of the session's graphs and of those in its copy. -/
def Holds (P : Graph → Prop) (s : Session) : Prop :=
  s.store.Holds P ∧ ∀ backup, s.backup = some backup → backup.Holds P

lemma holds_start (P : Graph → Prop) (registry : Registry) (settings : Settings) :
    (start registry settings).1.Holds P := by
  unfold start
  split
  · refine ⟨.empty, ?_⟩
    rintro backup ⟨⟩
    exact .empty
  · exact ⟨.empty, nofun⟩

end Session

end ScriptGraph
