import ScriptGraph.Proofs.RonReaders
import ScriptGraph.Proofs.Table
import ScriptGraph.Scenario.RonForm
import ScriptGraph.Snapshot.RonForm

/-! Project files and scenarios come back from their documents as they were written, a NaN as a
plain one. For each part of them there is one fact about how it is read, made of those about its own
parts. -/
namespace ScriptGraph

def Vector.mapSingles (f : Single → Single) (v : Vector) : Vector := ⟨f v.x, f v.y, f v.z⟩

def Point.mapSingles (f : Single → Single) (p : Point) : Point := ⟨f p.x, f p.y⟩

def Value.mapSingles (f : Single → Single) : Value → Value
  | .float s => .float (f s)
  | .vector v => .vector (v.mapSingles f)
  | v => v

/-- The same names in the same order. -/
def Properties.mapSingles (f : Single → Single) (t : Properties) : Properties :=
  t.map fun _ v => v.mapSingles f

def Node.mapSingles (f : Single → Single) (n : Node) : Node :=
  { n with position := n.position.mapSingles f, properties := Properties.mapSingles f n.properties }

def Snapshot.mapSingles (f : Single → Single) (p : Snapshot) : Snapshot :=
  { p with
    nodes := p.nodes.map (Node.mapSingles f),
    vars := p.vars.map fun e => (e.1, e.2.mapSingles f) }

def Settings.mapSingles (f : Single → Single) (s : Settings) : Settings :=
  { s with timeScale := f s.timeScale }

namespace Scenario

def EntityPlan.mapSingles (f : Single → Single) (d : EntityPlan) : EntityPlan :=
  { d with position := d.position.mapSingles f, mass := d.mass.map f }

def NodePlan.mapSingles (f : Single → Single) (n : NodePlan) : NodePlan :=
  { n with position := n.position.mapSingles f, properties := Properties.mapSingles f n.properties }

def GraphPlan.mapSingles (f : Single → Single) (g : GraphPlan) : GraphPlan :=
  { g with
    nodes := g.nodes.map (NodePlan.mapSingles f),
    vars := Properties.mapSingles f g.vars }

def mapSingles (f : Single → Single) (s : Scenario) : Scenario :=
  { s with
    settings := s.settings.mapSingles f,
    deltaTime := f s.deltaTime,
    entities := s.entities.map (EntityPlan.mapSingles f),
    graphs := s.graphs.map (GraphPlan.mapSingles f) }

end Scenario

lemma readHex?_hexDigits (count n acc : Nat) :
    ((hexDigits count n).map hexChar).foldlM (fun acc c => (charHex? c).map (acc * 16 + ·)) acc =
      some (acc * 16 ^ count + n % 16 ^ count) := by
  induction count generalizing n with
  | zero => simp [hexDigits, Nat.mod_one]
  | succ count ih =>
    have hdigit := charHex?_hexChar (Nat.mod_lt n (show 0 < 16 by decide))
    rw [hexDigits, List.map_append, List.foldlM_append, ih]
    simp only [List.map_cons, List.map_nil, List.foldlM_cons, List.foldlM_nil, hdigit,
      Option.bind_eq_bind, Option.bind_some, Option.map_some, Option.pure_def, Option.some.injEq]
    have hmod : n % 16 ^ (count + 1) = n % 16 + 16 * (n / 16 % 16 ^ count) := by
      rw [pow_succ, Nat.mul_comm, Nat.mod_mul]
    rw [hmod, pow_succ]
    ring

lemma ungroup?_cons {size next : Nat} {sizes : List Nat} {group rest : List Char}
    (h : group.length = size) :
    Uuid.ungroup? (size :: next :: sizes) (group ++ '-' :: rest) =
      (Uuid.ungroup? (next :: sizes) rest).map (group ++ ·) := by
  subst h
  simp [Uuid.ungroup?]

/-- The hyphenated text of an id is read as the id. -/
theorem Uuid.ofText?_text (u : Uuid) : Uuid.ofText? u.text = some u := by
  have hlen : u.hexChars.length = 32 := by
    rw [hexChars, List.length_map, length_hexDigits]
  have hchars : u.chars.length = 36 := by
    simp only [chars, List.length_append, List.length_cons, List.length_take, List.length_drop]
    omega
  have hgroups : ungroup? [8, 4, 4, 4, 12] u.chars = some u.hexChars := by
    have hsplit : u.chars = u.hexChars.take 8 ++ '-' :: ((u.hexChars.drop 8).take 4 ++
        '-' :: ((u.hexChars.drop 12).take 4 ++ '-' :: ((u.hexChars.drop 16).take 4 ++
          '-' :: u.hexChars.drop 20))) := by
      simp [chars]
    have hjoin (k n : Nat) : (u.hexChars.drop k).take n ++ u.hexChars.drop (k + n) =
        u.hexChars.drop k := by
      rw [← List.drop_drop, List.take_append_drop]
    rw [hsplit, ungroup?_cons (by simp [hlen]), ungroup?_cons (by simp [hlen]),
      ungroup?_cons (by simp [hlen]), ungroup?_cons (by simp [hlen])]
    simp [ungroup?, hlen, hjoin 16 4, hjoin 12 4, hjoin 8 4]
  have hvalue : readHex? u.hexChars = some u.value.toNat := by
    have hbound : u.value.toNat < 16 ^ 32 := u.value.isLt
    rw [hexChars, readHex?, readHex?_hexDigits, Nat.mod_eq_of_lt hbound, Nat.zero_mul, Nat.zero_add]
  have hback : ofNat u.value.toNat = u := by
    simp [ofNat]
  rw [ofText?, text, String.toList_ofList, ofChars?, if_neg (by omega), if_pos hchars]
  simp only [ofHyphenated?, hgroups, hvalue, hback, Option.bind_eq_bind, Option.bind_some,
    Option.pure_def]

namespace RonReader

open Ron RonRecord

lemma reads_uuid (u : Uuid) : Reads uuid 0 (.uuid u) u := by
  refine ⟨(reads_text u.text).opens, fun level ctx rest hfits hrest => ?_⟩
  have htext := (reads_text u.text).takes level ctx rest hfits hrest
  simp only [uuid, Ron.uuid, htext, Uuid.ofText?_text, Option.bind_eq_bind, Option.bind_some,
    Option.pure_def]

lemma reads_named (u : Uuid) (name : String) (hname : isName name = true) :
    Reads (newtype name uuid false) 1 (wrapped name (.uuid u)) u :=
  (reads_uuid u).newtype hname

lemma reads_entityId (id : EntityId) : Reads (entityId false) 1 (.entityId id) id :=
  (reads_named id.uuid "EntityId" rfl).map EntityId.mk

lemma reads_point (p : Point) : Reads point 2 (.point p) (p.mapSingles Single.plainNaN) := by
  refine reads_tupleOf fun level sub rest hfits => ?_
  have hx := reads_single p.x
  have hy := reads_single p.y
  have hinput : itemsInline level [Ron.single p.x, .single p.y] ++ ')' :: rest =
      chars level (.single p.x) ++ ',' :: ' ' :: (chars level (.single p.y) ++ ')' :: rest) := by
    simp [itemsInline]
  simp only [hinput, hx.component (hfits _ (by simp)) ((hy.opens level).append _),
    hy.lastComponent (hfits _ (by simp)), Option.bind_eq_bind, Option.bind_some, Option.pure_def]
  rfl

lemma reads_vector (v : Vector) :
    Reads (vector false) 2 (.vector v) (v.mapSingles Single.plainNaN) := by
  refine reads_tupleOf fun level sub rest hfits => ?_
  have hx := reads_single v.x
  have hy := reads_single v.y
  have hz := reads_single v.z
  have hinput : itemsInline level [Ron.single v.x, .single v.y, .single v.z] ++ ')' :: rest =
      chars level (.single v.x) ++ ',' :: ' ' :: (chars level (.single v.y) ++
        ',' :: ' ' :: (chars level (.single v.z) ++ ')' :: rest)) := by
    simp [itemsInline]
  simp only [hinput, hx.component (hfits _ (by simp)) ((hy.opens level).append _),
    hy.component (hfits _ (by simp)) ((hz.opens level).append _),
    hz.lastComponent (hfits _ (by simp)), Option.bind_eq_bind, Option.bind_some, Option.pure_def]
  rfl

lemma isName_kind (k : Kind) : isName k.name = true := by
  cases k <;> rfl

lemma reads_object (o : Option EntityId) :
    Reads (option entityId false) 2 (Ron.option .entityId o) o := by
  have h : Reads (option entityId false) 2 (Ron.option .entityId o) (o.map fun id => id) :=
    reads_option fun id _ => reads_entityId id
  rwa [Option.map_id'] at h

lemma reads_value (v : Value) : Reads value 4 (.value v) (v.mapSingles Single.plainNaN) := by
  have hname := isName_kind v.kind
  cases v with
  | bool b => exact reads_oneOf rfl hname (((reads_bool b).map Value.bool).deeper (by omega))
  | int i => exact reads_oneOf rfl hname (((reads_int64 i).map Value.int).deeper (by omega))
  | float x => exact reads_oneOf rfl hname (((reads_single x).map Value.float).deeper (by omega))
  | vector v => exact reads_oneOf rfl hname ((reads_vector v).map Value.vector)
  | text s => exact reads_oneOf rfl hname (((reads_text s).map Value.text).deeper (by omega))
  | object o => exact reads_oneOf rfl hname ((reads_object o).map Value.object)

lemma reads_properties (t : Properties) :
    Reads (table value) 6 (.table t) (Properties.mapSingles Single.plainNaN t) := by
  have h := reads_table t.entries Ron.value (Value.mapSingles Single.plainNaN)
    fun e _ => reads_value e.2
  have hback : Table.ofList (t.entries.map fun e => (e.1, e.2.mapSingles Single.plainNaN)) =
      Properties.mapSingles Single.plainNaN t :=
    Table.ofList_entries (Properties.mapSingles Single.plainNaN t)
  rwa [hback] at h

lemma reads_texts (t : Table String String) :
    Reads (table text) 2 (.map (t.entries.map fun e => (.string e.1, .string e.2))) t := by
  have h := reads_table t.entries Ron.string (fun s => s) fun e _ => reads_text e.2
  have hback : Table.ofList (t.entries.map fun e => (e.1, e.2)) = t := by
    rw [show t.entries.map (fun e => (e.1, e.2)) = t.entries from List.map_id' _,
      Table.ofList_entries]
  rwa [hback] at h

lemma reads_nodeId (id : NodeId) : Reads nodeId 2 (.nodeId id) id :=
  Holds.reads (.cons (reads_word id.index) <| .one (reads_word id.generation)) (by decide) rfl

lemma reads_node (n : Node) : Reads node 8 (.node n) (n.mapSingles Single.plainNaN) := by
  have hid := (reads_nodeId n.id).deeper (show 2 ≤ 6 by omega)
  have htypeName := (reads_text n.typeName).deeper (show 0 ≤ 6 by omega)
  have hposition := (reads_point n.position).deeper (show 2 ≤ 6 by omega)
  exact Holds.reads (.cons hid <| .cons htypeName <| .cons hposition <|
    .one (reads_properties n.properties)) (by decide) rfl

lemma reads_connection (c : Connection) : Reads connection 4 (.connection c) c := by
  have hid := (reads_named c.id.uuid "ConnectionId" rfl).deeper (show 1 ≤ 2 by omega)
  have hport (port : String) := (reads_text port).deeper (show 0 ≤ 2 by omega)
  exact Holds.reads (.cons hid <| .cons (reads_nodeId c.source) <| .cons (hport c.sourcePort) <|
    .cons (reads_nodeId c.target) <| .one (hport c.targetPort)) (by decide) rfl

lemma reads_binding (e : String × Value) :
    Reads binding 6 (.binding e) (e.1, e.2.mapSingles Single.plainNaN) := by
  refine reads_tupleOf fun level sub rest hfits => ?_
  have hname := (reads_text e.1).deeper (show 0 ≤ 4 by omega)
  have hvalue := reads_value e.2
  have hinput : itemsInline level [Ron.string e.1, .value e.2] ++ ')' :: rest =
      chars level (.string e.1) ++ ',' :: ' ' :: (chars level (.value e.2) ++ ')' :: rest) := by
    simp [itemsInline]
  simp only [hinput, hname.component (hfits _ (by simp)) ((hvalue.opens level).append _),
    hvalue.lastComponent (hfits _ (by simp)), Option.bind_eq_bind, Option.bind_some,
    Option.pure_def]

lemma reads_snapshot (p : Snapshot) : Reads snapshot 12 p.ron (p.mapSingles Single.plainNaN) := by
  have hversion := (reads_word p.version).deeper (show 0 ≤ 10 by omega)
  have hid := (reads_named p.id.uuid "GraphId" rfl).deeper (show 1 ≤ 10 by omega)
  have hentity := (reads_entityId p.entity).deeper (show 1 ≤ 10 by omega)
  have hnodes := reads_list p.nodes fun n _ => reads_node n
  have hconnections := (reads_same_list p.connections fun c _ => reads_connection c).deeper
    (show 6 ≤ 10 by omega)
  have hvars := (reads_list p.vars fun e _ => reads_binding e).deeper (show 8 ≤ 10 by omega)
  have hvacant := (reads_same_list p.vacant fun id _ => reads_nodeId id).deeper
    (show 4 ≤ 10 by omega)
  exact Holds.reads (.cons hversion <| .cons hid <| .cons hentity <| .cons hnodes <|
    .cons hconnections <| .cons hvars <| .one hvacant) (by decide) rfl

lemma reads_settings (s : Settings) :
    Reads Settings.reader 2 s.ron (s.mapSingles Single.plainNaN) :=
  Holds.reads (.cons (reads_word s.version) <| .cons (reads_bool s.startPlaying) <|
    .cons (reads_single s.timeScale) <| .cons (reads_longWord s.maxDepth) <|
    .one (reads_text s.logLevel)) (by decide) rfl

open Scenario

lemma reads_entityPlan (e : EntityPlan) :
    Reads EntityPlan.reader 4 e.ron (e.mapSingles Single.plainNaN) := by
  have hname := (reads_text e.name).deeper (show 0 ≤ 2 by omega)
  have hmass : Reads (option (fun _ => single) false) 1 (Ron.option .single e.mass)
      (e.mass.map Single.plainNaN) := reads_option fun x _ => reads_single x
  exact Holds.reads (.cons hname <| .cons (reads_vector e.position) <|
    .one (hmass.deeper (show 1 ≤ 2 by omega))) (by decide) rfl

lemma reads_nodePlan (n : NodePlan) :
    Reads NodePlan.reader 8 n.ron (n.mapSingles Single.plainNaN) := by
  have hkey := (reads_text n.key).deeper (show 0 ≤ 6 by omega)
  have htypeName := (reads_text n.typeName).deeper (show 0 ≤ 6 by omega)
  have hposition := (reads_point n.position).deeper (show 2 ≤ 6 by omega)
  have hobjects := (reads_texts n.objects).deeper (show 2 ≤ 6 by omega)
  exact Holds.reads (.cons hkey <| .cons htypeName <| .cons hposition <|
    .cons (reads_properties n.properties) <| .one hobjects) (by decide) rfl

lemma reads_linkPlan (l : LinkPlan) : Reads LinkPlan.reader 2 l.ron l :=
  Holds.reads (.cons (reads_text l.source) <| .cons (reads_text l.sourcePort) <|
    .cons (reads_text l.target) <| .one (reads_text l.targetPort)) (by decide) rfl

lemma reads_graphPlan (g : GraphPlan) :
    Reads GraphPlan.reader 12 g.ron (g.mapSingles Single.plainNaN) := by
  have hentity := (reads_text g.entity).deeper (show 0 ≤ 10 by omega)
  have hnodes := reads_list g.nodes fun n _ => reads_nodePlan n
  have hlinks := (reads_same_list g.links fun l _ => reads_linkPlan l).deeper
    (show 4 ≤ 10 by omega)
  have hvars := (reads_properties g.vars).deeper (show 6 ≤ 10 by omega)
  exact Holds.reads (.cons hentity <| .cons hnodes <| .cons hlinks <| .one hvars) (by decide) rfl

lemma reads_collisionPlan (c : CollisionPlan) : Reads CollisionPlan.reader 2 c.ron c :=
  Holds.reads (.cons (reads_word c.tick) <| .cons (reads_text c.a) <|
    .one (reads_text c.b)) (by decide) rfl

lemma reads_scenario (s : Scenario) :
    Reads Scenario.reader 16 s.ron (s.mapSingles Single.plainNaN) := by
  have hsettings := (reads_settings s.settings).deeper (show 2 ≤ 14 by omega)
  have hticks := (reads_word s.ticks).deeper (show 0 ≤ 14 by omega)
  have hdeltaTime := (reads_single s.deltaTime).deeper (show 0 ≤ 14 by omega)
  have hentities := (reads_list s.entities fun e _ => reads_entityPlan e).deeper
    (show 6 ≤ 14 by omega)
  have hgraphs := reads_list s.graphs fun g _ => reads_graphPlan g
  have hcollisions := (reads_same_list s.collisions fun c _ => reads_collisionPlan c).deeper
    (show 4 ≤ 14 by omega)
  exact Holds.reads (.cons hsettings <| .cons hticks <| .cons hdeltaTime <| .cons hentities <|
    .cons hgraphs <| .one hcollisions) (by decide) rfl

end RonReader

/-- Every snapshot and every scenario comes back from its document. Floats come back bit for bit,
but for a NaN, which comes back as the plain NaN of its sign. -/
theorem ofRonText?_toRonText :
    (∀ p : Snapshot, Snapshot.ofRonText? p.toRonText = some (p.mapSingles Single.plainNaN)) ∧
    (∀ s : Scenario, Scenario.ofRonText? s.toRonText = some (s.mapSingles Single.plainNaN)) ∧
    ∀ x : Single, if x.isNaN then x.plainNaN.isNaN = true else x.plainNaN = x := by
  refine ⟨fun p => ?_, fun s => ?_, fun x => ?_⟩
  · exact Ron.document?_render (RonReader.reads_snapshot p) (Nat.le_of_ble_eq_true rfl)
  · exact Ron.document?_render (RonReader.reads_scenario s) (Nat.le_of_ble_eq_true rfl)
  · unfold Single.plainNaN
    split
    · split <;> rfl
    · rfl

end ScriptGraph
