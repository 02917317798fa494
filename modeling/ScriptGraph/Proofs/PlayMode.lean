import Mathlib.Data.List.Induction
import ScriptGraph.Proofs.StoredGraphs

/-! Play from its beginning to its end. Play begins with a call that finds the session stopped and
leaves it playing; from then on until play ends the session holds the graphs that this call found
and counts the updates that find it playing, whatever else it is asked to do. -/
namespace ScriptGraph

variable {σ : Type} [Host σ]

namespace Session

/-- Play begins with the call. -/
def Begins (s : Session) (c : Call) : Prop := s.mode = .stopped ∧ (s.call c).mode = .playing

/-- Play began last with the call after `before`: none of the calls since has begun it anew. -/
structure LastBegan (s : Session) (before : List Call) (c : Call) (since : List Call) : Prop where
  begins : (s.perform before).Begins c
  latest : ∀ mid d rest, since = mid ++ d :: rest → ¬ (s.perform (before ++ c :: mid)).Begins d

/-- The call is an update that finds the session playing. -/
def ticksOn (s : Session) (c : Call) : Bool := c.isUpdate && s.mode.isPlaying

def playedUpdates (s : Session) : List Call → Nat
  | [] => 0
  | c :: rest => (s.ticksOn c).toNat + (s.call c).playedUpdates rest

/-- The calls that opening a session amounts to. -/
def opening (settings : Settings) : List Call := if settings.startPlaying then [.play] else []

variable {s t : Session} {before since : List Call} {c d : Call}

lemma reached_eq_perform (registry : Registry) (settings : Settings) (calls : List Call) :
    reached registry settings calls =
      (idle registry settings).perform (opening settings ++ calls) := by
  rw [perform_append]
  unfold reached start opening
  split <;> rfl

lemma LastBegan.concat (h : s.LastBegan before c since)
    (hd : ¬ (s.perform (before ++ c :: since)).Begins d) : s.LastBegan before c (since ++ [d]) := by
  refine ⟨h.begins, fun mid e rest heq => ?_⟩
  rcases List.eq_nil_or_concat rest with rfl | ⟨rest, x, rfl⟩
  · obtain ⟨rfl, hde⟩ := List.append_inj' heq rfl
    obtain rfl := List.singleton_inj.mp hde
    exact hd
  · have hsplit : since ++ [d] = (mid ++ e :: rest) ++ [x] := by simpa using heq
    exact h.latest mid e rest (List.append_inj' hsplit rfl).1

lemma playedUpdates_concat (s : Session) (calls : List Call) (d : Call) :
    s.playedUpdates (calls ++ [d]) =
      s.playedUpdates calls + ((s.perform calls).ticksOn d).toNat := by
  induction calls generalizing s with
  | nil => simp [playedUpdates]
  | cons c calls ih =>
    simp only [List.cons_append, playedUpdates, ih, perform_cons]
    omega

theorem Step.control (h : s.Step c t) :
    (s.mode = .stopped ∧ t.mode = .playing ∧ t.backup = some s.store ∧ t.frame = 0) ∨
    (s.mode ≠ .stopped ∧ t.mode = .stopped ∧ t.backup = none ∧ t.frame = 0) ∨
    ((t.mode = .stopped ↔ s.mode = .stopped) ∧ t.backup = s.backup ∧
      t.frame = s.frame + (s.ticksOn c).toNat) := by
  cases h with
  | begins stopped => exact .inl ⟨stopped, rfl, rfl, rfl⟩
  | stops active => exact .inr (.inl ⟨active, rfl, rfl, rfl⟩)
  | resumes paused => exact .inr (.inr ⟨by simp [paused], rfl, rfl⟩)
  | pauses playing => exact .inr (.inr ⟨by simp [playing], rfl, rfl⟩)
  | ticks playing =>
    refine .inr (.inr ⟨by rw [mode_update], backup_update s _ _ _, ?_⟩)
    simp [frame_update, ticksOn, Call.isUpdate, PlayMode.isPlaying, playing]
  | registers | rescales => exact .inr (.inr ⟨.rfl, rfl, rfl⟩)
  | changes plain => exact .inr (.inr ⟨.rfl, rfl, by simp [ticksOn, plain.1]⟩)
  | nothing waits =>
    refine .inr (.inr ⟨.rfl, rfl, ?_⟩)
    have hidle : s.ticksOn c = false := by
      cases hc : c.isUpdate with
      | false => simp [ticksOn, hc]
      | true => simp [ticksOn, hc, PlayMode.isPlaying, waits hc]
    simp [hidle]

/-- A stopped session has no copy and counts nothing. Any other has the graphs that play began with
and counts the updates since. -/
theorem account (registry : Registry) (settings : Settings) (history : List Call) :
    (((idle registry settings).perform history).mode = .stopped →
      ((idle registry settings).perform history).backup = none ∧
        ((idle registry settings).perform history).frame = 0) ∧
    (((idle registry settings).perform history).mode ≠ .stopped →
      ∃ before c since, history = before ++ c :: since ∧
        (idle registry settings).LastBegan before c since ∧
        ((idle registry settings).perform history).backup =
          some ((idle registry settings).perform before).store ∧
        ((idle registry settings).perform history).frame =
          ((idle registry settings).perform (before ++ [c])).playedUpdates since) := by
  generalize hs₀ : idle registry settings = s₀
  -- From the end of the history: the last call begins play, ends it, or does neither, and then the
  -- beginning that accounts for the calls before it also accounts for this one.
  induction history using List.reverseRecOn with
  | nil =>
    subst hs₀
    exact ⟨fun _ => ⟨rfl, rfl⟩, fun h => absurd rfl h⟩
  | append_singleton history c ih =>
    rw [perform_concat]
    obtain ⟨hstopped, hactive⟩ := ih
    rcases ((s₀.perform history).step_call c).control with
      ⟨hm, hplay, hbackup, hframe⟩ | ⟨hm, hstop, hbackup, hframe⟩ | ⟨hmode, hbackup, hframe⟩
    · refine ⟨fun h => by simp [hplay] at h, fun _ => ⟨history, c, [], rfl, ?_, hbackup, hframe⟩⟩
      exact ⟨⟨hm, hplay⟩, by simp⟩
    · exact ⟨fun _ => ⟨hbackup, hframe⟩, fun h => absurd hstop h⟩
    · refine ⟨fun h => ?_, fun h => ?_⟩
      · have hm := hmode.mp h
        obtain ⟨hnone, hzero⟩ := hstopped hm
        exact ⟨hbackup.trans hnone, by simp [hframe, hzero, ticksOn, PlayMode.isPlaying, hm]⟩
      · have hm : (s₀.perform history).mode ≠ .stopped := fun h' => h (hmode.mpr h')
        obtain ⟨before, b, since, rfl, hlast, hb, hf⟩ := hactive hm
        refine ⟨before, b, since ++ [c], by simp, hlast.concat fun hbegins => hm hbegins.1,
          hbackup.trans hb, ?_⟩
        rw [hframe, hf, playedUpdates_concat, ← perform_append, List.append_assoc]
        rfl

lemma backup_eq_none {registry : Registry} {settings : Settings} {calls : List Call}
    (h : (reached registry settings calls).mode = .stopped) :
    (reached registry settings calls).backup = none := by
  rw [reached_eq_perform] at h ⊢
  exact ((account registry settings _).1 h).1

lemma stop_of_active {origin : Store} (hm : s.mode ≠ .stopped) (hb : s.backup = some origin) :
    ∃ t entry, s.stop = some (t, entry) ∧ t.store = origin := by
  unfold stop
  split
  · contradiction
  · exact ⟨_, _, rfl, by simp [hb]⟩

end Session

/-- The node is one that runs as the built-in start event. -/
def Moment.AtStart (r : TickRules) (m : Moment σ) : Prop :=
  ∃ t, m.state.graph.typeOf? r.registry m.node = some t ∧ t.behavior = .builtin .onStart

lemma Moment.AtStart.invoke {r : TickRules} {m : Moment σ} (h : m.AtStart r) :
    (r.invoke m.node m.state).1 = if r.context.frame = 0 then .flow "Exec" else .idle := by
  obtain ⟨t, ht, hb⟩ := h
  obtain ⟨n, hn, hlookup⟩ := Option.bind_eq_some_iff.mp ht
  by_cases hf : r.context.frame = 0
  · have hp : r.perform t n m.state =
        (.ok (.flow "Exec"), ⟨n.properties, m.state.graph.vars, m.state.scene, []⟩) := by
      simp [TickRules.perform, hb, Behavior.script, Builtin.script, hf, pure, Script.run]
    simp [r.invoke_of_ok hn hlookup hp, hf]
  · have hp : r.perform t n m.state =
        (.ok .idle, ⟨n.properties, m.state.graph.vars, m.state.scene, []⟩) := by
      simp [TickRules.perform, hb, Behavior.script, Builtin.script, hf, pure, Script.run]
    simp [r.invoke_of_ok hn hlookup hp, hf]

namespace Session

/-- However a session was opened and whatever calls followed: it holds a copy exactly if it is not
stopped. While it is not stopped, its frame is the number of updates since play last began that
found it playing, a stop gives it the graphs that this beginning found, and the passes that an
update makes let start events continue only if it is the first of those updates. -/
theorem reached_plays_since (registry : Registry) (settings : Settings) (calls : List Call)
    {s : Session} (hs : s = reached registry settings calls) :
    (s.backup.isSome = true ↔ s.mode ≠ .stopped) ∧
    (s.mode = .stopped → s.frame = 0 ∧ s.stop = none) ∧
    (s.mode ≠ .stopped → ∃ before c since, opening settings ++ calls = before ++ c :: since ∧
      (idle registry settings).LastBegan before c since ∧
      s.frame = ((idle registry settings).perform (before ++ [c])).playedUpdates since ∧
      (∃ t entry, s.stop = some (t, entry) ∧
        t.store = ((idle registry settings).perform before).store) ∧
      ∀ (σ : Type) [Host σ] (deltaTime : Single) (scene : σ) (collisions : List Collision),
        let ended := s.update deltaTime scene collisions
        (s.mode = .playing → s.Makes (s.settings.scaled deltaTime) ⟨s.store, scene, .zero, #[]⟩
          (s.updatePasses deltaTime scene collisions)
          ⟨ended.session.store, ended.scene, ended.stats, ended.log⟩) ∧
        ∀ r m, s.GoesThrough deltaTime scene collisions r m → m.phase = .invoked →
          m.AtStart r → (r.invoke m.node m.state).1 ≠ .idle →
            ((idle registry settings).perform (before ++ [c])).playedUpdates since = 0) := by
  have hstore : s.store.Holds Graph.WellFormed :=
    hs ▸ (reached_holds_wellFormed registry settings calls).1
  rw [reached_eq_perform] at hs
  obtain ⟨hstopped, hactive⟩ := account registry settings (opening settings ++ calls)
  rw [← hs] at hstopped hactive
  refine ⟨⟨fun hb hm => ?_, fun hm => ?_⟩, fun hm => ⟨(hstopped hm).2, by simp [stop, hm]⟩,
    fun hm => ?_⟩
  · simp [(hstopped hm).1] at hb
  · obtain ⟨_, _, _, _, _, hb, _⟩ := hactive hm
    simp [hb]
  · obtain ⟨before, c, since, hsplit, hlast, hb, hf⟩ := hactive hm
    refine ⟨before, c, since, hsplit, hlast, hf, stop_of_active hm hb, ?_⟩
    intro σ _ deltaTime scene collisions ended
    refine ⟨fun hplaying => makes_update hstore hplaying deltaTime scene collisions, ?_⟩
    intro r m hmeets _ hstart hflow
    obtain ⟨-, -, hframe⟩ := hmeets.rules
    rw [hstart.invoke, hframe] at hflow
    rw [← hf]
    by_contra hne
    simp [hne] at hflow

/-- A start event is put in place and played, with a halt after the first update and a variable
written during the halt. -/
def rehearsal : List Call :=
  [.createGraph ⟨.ofNat 1⟩ default, .addNode default "OnStart" .zero, .play,
    .update .one Scene.empty [], .pause, .update .one Scene.empty [],
    .setVariable default "score" (.int 1), .play, .update .one Scene.empty []]

theorem rehearsal_plays_since :
    (reached .builtins .initial rehearsal).mode = .playing ∧
    (reached .builtins .initial rehearsal).frame = 2 ∧
    ((reached .builtins .initial (rehearsal.take 3)).update .one Scene.empty []).log =
      #[.nodeRan ⟨.ofNat 1⟩ ⟨0, 0⟩ (.flow "Exec")] ∧
    ((reached .builtins .initial rehearsal).update .one Scene.empty []).log =
      #[.nodeRan ⟨.ofNat 1⟩ ⟨0, 0⟩ .idle] ∧
    ∃ before c since, rehearsal = before ++ c :: since ∧
      (idle .builtins .initial).LastBegan before c since ∧
      2 = ((idle .builtins .initial).perform (before ++ [c])).playedUpdates since ∧
      ∃ t entry, (reached .builtins .initial rehearsal).stop = some (t, entry) ∧
        t.store = ((idle .builtins .initial).perform before).store := by
  have hmode : (reached .builtins .initial rehearsal).mode = .playing := by decide +kernel
  have hframe : (reached .builtins .initial rehearsal).frame = 2 := by decide +kernel
  refine ⟨hmode, hframe, by decide +kernel, by decide +kernel, ?_⟩
  obtain ⟨before, c, since, hsplit, hlast, hupdates, hstop, -⟩ :=
    (reached_plays_since .builtins .initial rehearsal rfl).2.2 (by simp [hmode])
  exact ⟨before, c, since, hsplit, hlast, hframe ▸ hupdates, hstop⟩

end Session

end ScriptGraph
