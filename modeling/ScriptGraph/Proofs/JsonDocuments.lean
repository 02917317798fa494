import ScriptGraph.Proofs.Documents
import ScriptGraph.Proofs.JsonText
import ScriptGraph.Snapshot.JsonForm

/-! A snapshot and its JSON document. Every snapshot is written, but a float that is not finite is
written as `null`, which no reader of floats accepts. So a snapshot comes back from its document if
and only if all its floats are finite. For each part of a snapshot there is one fact about how it is
read, made of those about its own parts. -/
namespace ScriptGraph

/-- Neither infinite nor no number. -/
def Single.isFinite (x : Single) : Bool :=
  BinaryFormat.single.magnitude x.pattern < BinaryFormat.single.infinity

def Vector.singles (v : Vector) : List Single := [v.x, v.y, v.z]

def Point.singles (p : Point) : List Single := [p.x, p.y]

def Value.singles : Value → List Single
  | .float s => [s]
  | .vector v => v.singles
  | _ => []

def Properties.singles (t : Properties) : List Single := t.entries.flatMap fun e => e.2.singles

def Node.singles (n : Node) : List Single := n.position.singles ++ Properties.singles n.properties

def Snapshot.singles (p : Snapshot) : List Single :=
  p.nodes.flatMap Node.singles ++ p.vars.flatMap fun e => e.2.singles

namespace Single

/-- If the float is finite, the decimal written for it is read as the same float. -/
def ReadsBack (x : Single) : Prop := x.isFinite = true → (Json.single x).single? = some x

instance (x : Single) : Decidable x.ReadsBack :=
  inferInstanceAs (Decidable (x.isFinite = true → (Json.single x).single? = some x))

/-- The thing itself, provided that all the floats are finite. -/
def guarded {α : Type} (xs : List Single) (a : α) : Option α :=
  if xs.all isFinite then some a else none

section Guarded

variable {α β : Type} {xs ys : List Single} {a : α} {b : β}

@[simp] lemma guarded_nil (a : α) : guarded [] a = some a := rfl

@[simp] lemma map_guarded (f : α → β) : (guarded xs a).map f = guarded xs (f a) := by
  unfold guarded
  split <;> rfl

lemma bind_some_guarded (f : α → β) :
    ((guarded xs a).bind fun a => some (f a)) = guarded xs (f a) := by
  rw [← map_guarded, Option.map_eq_bind]
  rfl

/-- What is read after it has floats of its own. -/
lemma bind_guarded {f : α → Option β} (h : f a = guarded ys b) :
    (guarded xs a).bind f = guarded (xs ++ ys) b := by
  unfold guarded at h ⊢
  rw [List.all_append]
  cases xs.all isFinite with
  | false => rfl
  | true => exact h

lemma mapM_guarded {l : List α} {f : α → Option β} {g : α → β} {xs : α → List Single}
    (h : ∀ a ∈ l, f a = guarded (xs a) (g a)) : l.mapM f = guarded (l.flatMap xs) (l.map g) := by
  induction l with
  | nil => rfl
  | cons a l ih =>
    obtain ⟨ha, hl⟩ := List.forall_mem_cons.mp h
    rw [List.mapM_cons, ha, ih hl]
    exact bind_guarded (bind_some_guarded (g a :: ·))

end Guarded

lemma write_of_not_finite {x : Single} (h : x.isFinite = false) :
    x.write Json.singleLayout = "null" := by
  have hsize : BinaryFormat.single.infinity ≤ BinaryFormat.single.magnitude x.pattern := by
    simpa [isFinite] using h
  unfold write FloatLayout.write BinaryFormat.decode
  rcases Nat.lt_or_eq_of_le hsize with hlarge | heq
  · simp only [hlarge, if_true]
    split <;> rfl
  · simp only [heq, Nat.lt_irrefl, if_true, if_false]
    split <;> rfl

end Single

namespace Json

/-- The document is sound, and it is read as `a` if the floats are all finite, and not at all
otherwise. -/
structure Yields {α : Type} (read : Json → Option α) (j : Json) (xs : List Single) (a : α) :
    Prop where
  sound : j.Sound
  reads : read j = Single.guarded xs a

lemma yields_single {x : Single} (h : x.ReadsBack) : Yields single? (single x) [x] x := by
  cases hx : x.isFinite with
  | false =>
    have hnull : single x = .null := by
      rw [single, Single.write_of_not_finite hx]
      rfl
    rw [hnull]
    exact ⟨.null, by simp [Single.guarded, hx, single?]⟩
  | true =>
    have hread := h hx
    refine ⟨?_, by simp [Single.guarded, hx, hread]⟩
    cases hj : single x with
    | number token =>
      rw [hj] at hread
      obtain ⟨parts, hparts, -⟩ := Option.bind_eq_some_iff.mp hread
      exact .number (by rw [hparts]; rfl)
    | _ =>
      rw [hj] at hread
      cases hread

lemma head?_decimalDigits {n : Nat} (h : (decimalDigits n).head? = some 0) : n = 0 := by
  fun_induction decimalDigits n with
  | case1 n => simpa using h
  | case2 n hn ih =>
    rw [List.head?_append_of_ne_nil _ (decimalDigits_ne_nil _)] at h
    have hzero := ih h
    omega

lemma natChars_whole (n : Nat) :
    (natChars n).takeWhile isDigit = natChars n ∧ (natChars n).dropWhile isDigit = [] ∧
      natChars n ≠ [] ∧ ¬ ((natChars n).head? = some '0' ∧ 1 < (natChars n).length) := by
  have hdigits : ∀ c ∈ natChars n, isDigit c = true := fun c hc =>
    isDigit_of_mem_digitChars (decimalDigits_lt_ten n) hc
  obtain ⟨htake, hdrop⟩ : (natChars n ++ []).takeWhile isDigit = natChars n ∧
      (natChars n ++ []).dropWhile isDigit = [] := span_of_stop hdigits rfl
  rw [List.append_nil] at htake hdrop
  refine ⟨htake, hdrop, by simp [natChars, decimalDigits_ne_nil], ?_⟩
  rintro ⟨hhead, hlength⟩
  rw [natChars, List.head?_map, Option.map_eq_some_iff] at hhead
  obtain ⟨d, hd, hzero⟩ := hhead
  have hten : d < 10 := decimalDigits_lt_ten n d (List.mem_of_mem_head? hd)
  have hd0 : some d = some 0 := by
    rw [← charDigit?_digitChar hten, hzero]
    rfl
  rw [Option.some.inj hd0] at hd
  rw [head?_decimalDigits hd] at hlength
  simp [natChars, decimalDigits] at hlength

lemma numberParts?_nat (n : Nat) :
    numberParts? (natChars n) = some ⟨false, natChars n, [], none⟩ := by
  obtain ⟨htake, hdrop, hne, hzero⟩ := natChars_whole n
  have hsign : (natChars n).head? ≠ some '-' := fun hhead => by
    have hdigit := isDigit_of_mem_digitChars (decimalDigits_lt_ten n) (List.mem_of_mem_head? hhead)
    cases hdigit
  simp [numberParts?, hsign, htake, hdrop, hne, hzero, readExponent?]

lemma numberParts?_neg (n : Nat) :
    numberParts? ('-' :: natChars n) = some ⟨true, natChars n, [], none⟩ := by
  obtain ⟨htake, hdrop, hne, hzero⟩ := natChars_whole n
  simp [numberParts?, htake, hdrop, hne, hzero, readExponent?]

lemma sound_nat (n : Nat) : (nat n).Sound := .number (by rw [numberParts?_nat]; rfl)

lemma sound_int (i : Int) : (int i).Sound := by
  refine .number ?_
  split
  · rw [numberParts?_neg]
    rfl
  · rw [numberParts?_nat]
    rfl

lemma int?_int {low high i : Int} (hlow : low ≤ i) (hhigh : i ≤ high) :
    int? low high (int i) = some i := by
  have hwhole : (numberParts? (if i < 0 then '-' :: natChars i.natAbs
      else natChars i.natAbs)).bind whole? = some i := by
    split
    · next hneg =>
      rw [numberParts?_neg, Option.bind_some, whole?, charsValue_natChars]
      have hne : i.natAbs ≠ 0 := by omega
      simp [hne, abs_of_neg hneg]
    · next hpos =>
      rw [numberParts?_nat, Option.bind_some, whole?, charsValue_natChars]
      simp [abs_of_nonneg (Int.not_lt.mp hpos)]
  rw [int, int?, hwhole]
  simp [hlow, hhigh]

lemma yields_word (w : UInt32) : Yields word? (nat w.toNat) [] w := by
  refine ⟨sound_nat _, ?_⟩
  have hnat : nat w.toNat = int w.toNat := by simp [nat, int]
  have hbound := w.toNat_lt
  rw [word?, hnat, int?_int (by omega) (by omega)]
  simp

lemma int?_int64 (i : Int64) :
    (int i.toInt).int? Int64.minValue.toInt Int64.maxValue.toInt = some i.toInt :=
  int?_int i.minValue_le_toInt i.toInt_le

lemma yields_text (s : String) : Yields text? (.text s) [] s := ⟨.text s, rfl⟩

lemma yields_uuid (u : Uuid) : Yields uuid? (uuid u) [] u := by
  refine ⟨.text _, ?_⟩
  simp [uuid, uuid?, text, text?, Uuid.ofText?_text]

lemma yields_point {p : Point} (h : ∀ x ∈ p.singles, x.ReadsBack) :
    Yields point? (point p) p.singles p := by
  have hx := yields_single (h p.x (by simp [Point.singles]))
  have hy := yields_single (h p.y (by simp [Point.singles]))
  refine ⟨.array (by simp [hx.sound, hy.sound]), ?_⟩
  simp only [point, point?, hx.reads, hy.reads]
  exact Single.bind_guarded (Single.bind_guarded rfl)

lemma yields_vector {v : Vector} (h : ∀ x ∈ v.singles, x.ReadsBack) :
    Yields vector? (vector v) v.singles v := by
  have hx := yields_single (h v.x (by simp [Vector.singles]))
  have hy := yields_single (h v.y (by simp [Vector.singles]))
  have hz := yields_single (h v.z (by simp [Vector.singles]))
  refine ⟨.array (by simp [hx.sound, hy.sound, hz.sound]), ?_⟩
  simp only [vector, vector?, hx.reads, hy.reads, hz.reads]
  exact Single.bind_guarded (Single.bind_guarded (Single.bind_guarded rfl))

lemma yields_entity (e : Option EntityId) : Yields entity? (entity e) [] e := by
  cases e with
  | none => exact ⟨.null, rfl⟩
  | some e =>
    obtain ⟨hsound, hreads⟩ := yields_uuid e.uuid
    have hread : entity? (entity (some e)) =
        (uuid? (uuid e.uuid)).map fun u => some (EntityId.mk u) := rfl
    exact ⟨hsound, by rw [hread, hreads]; rfl⟩

/-- A value stands alone under the word for its kind. -/
lemma yields_tagged {α : Type} {read : Json → Option α} {j : Json} {xs : List Single} {a : α}
    (h : Yields read j xs a) (tag : String) (make : α → Value)
    (hread : value? (.record [(tag, j)]) = (read j).map make) :
    Yields value? (.record [(tag, j)]) xs (make a) := by
  refine ⟨.record (by simp [h.sound]), ?_⟩
  rw [hread, h.reads, Single.map_guarded]

lemma yields_value {v : Value} (h : ∀ x ∈ v.singles, x.ReadsBack) :
    Yields value? (value v) v.singles v := by
  cases v with
  | bool b =>
    have hb : Yields bool? (.bool b) [] b := ⟨.bool b, rfl⟩
    exact yields_tagged hb "Bool" Value.bool rfl
  | int i =>
    refine ⟨.record (by simp [sound_int]), ?_⟩
    have hread : value? (value (.int i)) =
        ((int i.toInt).int? Int64.minValue.toInt Int64.maxValue.toInt).map
          fun i => .int (Int64.ofInt i) := rfl
    rw [hread, int?_int64]
    simp [Value.singles]
  | float s =>
    exact yields_tagged (yields_single (h s (by simp [Value.singles]))) "Float" Value.float rfl
  | vector v => exact yields_tagged (yields_vector h) "Vector3" Value.vector rfl
  | text s => exact yields_tagged (yields_text s) "String" Value.text rfl
  | object e => exact yields_tagged (yields_entity e) "Object" Value.object rfl

lemma yields_list {α : Type} {read : Json → Option α} {write : α → Json} {xs : α → List Single}
    {l : List α} (h : ∀ a ∈ l, Yields read (write a) (xs a) a) :
    Yields (list? read) (.array (l.map write)) (l.flatMap xs) l := by
  refine ⟨.array (by simpa using fun a ha => (h a ha).sound), ?_⟩
  have hreads := Single.mapM_guarded (f := fun a => read (write a)) (g := id) fun a ha =>
    (h a ha).reads
  rw [List.map_id] at hreads
  rw [list?, List.mapM_map]
  exact hreads

lemma yields_binding {e : String × Value} (h : ∀ x ∈ e.2.singles, x.ReadsBack) :
    Yields binding? (binding e) e.2.singles e := by
  have hvalue := yields_value h
  refine ⟨.array (by simp [hvalue.sound, Sound.text]), ?_⟩
  simp only [binding, binding?, (yields_text e.1).reads, hvalue.reads, Single.guarded_nil,
    Option.pure_def, Option.bind_eq_bind, Option.bind_some]
  exact Single.bind_some_guarded (Prod.mk e.1)

lemma yields_table {t : Properties} (h : ∀ x ∈ Properties.singles t, x.ReadsBack) :
    Yields table? (table t) (Properties.singles t) t := by
  have hvalues : ∀ e ∈ t.entries, Yields value? (value e.2) e.2.singles e.2 := fun e he =>
    yields_value fun x hx => h x (List.mem_flatMap.mpr ⟨e, he, hx⟩)
  refine ⟨.record ?_, ?_⟩
  · rintro f hf
    obtain ⟨e, he, rfl⟩ := List.mem_map.mp hf
    exact (hvalues e he).sound
  · have hentry (e : String × Value) (he : e ∈ t.entries) :
        ((value e.2).value?.bind fun v => some (e.1, v)) = Single.guarded e.2.singles (id e) := by
      rw [(hvalues e he).reads]
      exact Single.bind_some_guarded (Prod.mk e.1)
    have hentries := Single.mapM_guarded hentry
    rw [List.map_id] at hentries
    have hread : (table t).table? =
        (t.entries.mapM fun e => (value e.2).value?.bind fun v => some (e.1, v)).bind
          fun pairs => some (.ofList pairs) := by
      simp only [table, record, table?, List.mapM_map]
      rfl
    rw [hread, hentries, Single.bind_some_guarded, Table.ofList_entries]
    rfl

/-- In a record each field is found under its name. -/
lemma fields?_record {fields : List (String × Json)} {names : List String}
    (hnames : fields.map Prod.fst = names) (h : names.Nodup) (spare : Nat) :
    (record fields).fields? names spare =
      some fun name => (fields.find? fun f => f.1 = name).map Prod.snd := by
  subst hnames
  have hkeys : (fields.map known).any (fun f => f.1.isNone) = false := by
    simp [known]
  have honce (name : String) :
      ((fields.map known).filter fun f => f.1 = some name).length ≤ 1 := by
    have hcount : ((fields.map known).filter fun f => f.1 = some name).length =
        (fields.map Prod.fst).count name := by
      rw [← List.countP_eq_length_filter, List.count, List.countP_map, List.countP_map]
      refine congrArg (fun p => fields.countP p) (funext fun f => ?_)
      simp [known, beq_eq_decide]
    rw [hcount]
    exact List.nodup_iff_count_le_one.mp h name
  have hfound (name : String) : ((fields.map known).find? fun f => f.1 = some name).map Prod.snd =
      (fields.find? fun f => f.1 = name).map Prod.snd := by
    rw [List.find?_map, Option.map_map]
    refine congrArg₂ Option.map rfl (congrArg (fun p => fields.find? p) (funext fun f => ?_))
    simp [known]
  have hrepeated : (fields.map Prod.fst).any (fun name =>
      1 < ((fields.map known).filter fun f => f.1 = some name).length) = false := by
    rw [List.any_eq_false]
    exact fun name _ hmany => absurd (of_decide_eq_true hmany) (Nat.not_lt.mpr (honce name))
  rw [show record fields = .object (fields.map known) from rfl]
  simp only [fields?, hkeys, hrepeated, Bool.or_self, hfound]
  rfl

lemma yields_nodeId (id : NodeId) : Yields nodeId? (nodeId id) [] id := by
  have hindex := yields_word id.index
  have hgeneration := yields_word id.generation
  refine ⟨.record (by simp [hindex.sound, hgeneration.sound]), ?_⟩
  rw [nodeId?, nodeId, fields?_record]
  · simp [hindex.reads, hgeneration.reads]
  · rfl
  · decide

lemma yields_node {n : Node} (h : ∀ x ∈ n.singles, x.ReadsBack) :
    Yields node? (node n) n.singles n := by
  have hid := yields_nodeId n.id
  have htypeName := yields_text n.typeName
  have hposition := yields_point fun x hx => h x (List.mem_append_left _ hx)
  have hproperties := yields_table fun x hx => h x (List.mem_append_right _ hx)
  refine ⟨.record (by simp [hid.sound, htypeName.sound, hposition.sound, hproperties.sound]), ?_⟩
  have hread : (node n).node? = (point n.position).point?.bind fun position =>
      (table n.properties).table?.bind fun properties =>
        some ⟨n.id, n.typeName, position, properties⟩ := by
    rw [node?, node, fields?_record]
    · simp [hid.reads, htypeName.reads]
    · rfl
    · decide
  rw [hread, hposition.reads, hproperties.reads]
  exact Single.bind_guarded (Single.bind_some_guarded _)

lemma yields_connection (c : Connection) : Yields connection? (connection c) [] c := by
  have hid := yields_uuid c.id.uuid
  have hsource := yields_nodeId c.source
  have hsourcePort := yields_text c.sourcePort
  have htarget := yields_nodeId c.target
  have htargetPort := yields_text c.targetPort
  refine ⟨.record (by simp [hid.sound, hsource.sound, hsourcePort.sound, htarget.sound,
    htargetPort.sound]), ?_⟩
  rw [connection?, connection, fields?_record]
  · simp [hid.reads, hsource.reads, hsourcePort.reads, htarget.reads, htargetPort.reads]
  · rfl
  · decide

lemma yields_snapshot {p : Snapshot} (h : ∀ x ∈ p.singles, x.ReadsBack) :
    Yields Snapshot.ofJson? p.json p.singles p := by
  have hversion := yields_word p.version
  have hid := yields_uuid p.id.uuid
  have hentity := yields_uuid p.entity.uuid
  have hnodes := yields_list (l := p.nodes) fun n hn => yields_node fun x hx =>
    h x (List.mem_append_left _ (List.mem_flatMap.mpr ⟨n, hn, hx⟩))
  have hconnections := yields_list (l := p.connections) fun c _ => yields_connection c
  have hvars := yields_list (l := p.vars) fun e he => yields_binding fun x hx =>
    h x (List.mem_append_right _ (List.mem_flatMap.mpr ⟨e, he, hx⟩))
  have hvacant := yields_list (l := p.vacant) fun id _ => yields_nodeId id
  have hnone {α : Type} (l : List α) : l.flatMap (fun _ => ([] : List Single)) = [] := by simp
  rw [hnone] at hconnections hvacant
  refine ⟨.record (by simp [hversion.sound, hid.sound, hentity.sound, hnodes.sound,
    hconnections.sound, hvars.sound, hvacant.sound]), ?_⟩
  have hread : Snapshot.ofJson? p.json = (list? node? (.array (p.nodes.map node))).bind fun nodes =>
      (list? binding? (.array (p.vars.map binding))).bind fun vars =>
        some ⟨p.version, p.id, p.entity, nodes, p.connections, vars, p.vacant⟩ := by
    rw [Snapshot.ofJson?, Snapshot.json, fields?_record]
    · simp [hversion.reads, hid.reads, hentity.reads, hconnections.reads, hvacant.reads]
    · rfl
    · decide
  rw [hread, hnodes.reads, hvars.reads]
  exact Single.bind_guarded (Single.bind_some_guarded _)

end Json

/-- A snapshot comes back from its JSON document if all its floats are finite, and a document that
was written for a float that is not finite is refused. Of the decimals that are written for the
finite floats no more is asked than that they are read as the same floats. -/
theorem Snapshot.ofJsonText?_toJsonText (p : Snapshot) (h : ∀ x ∈ p.singles, x.ReadsBack) :
    ofJsonText? p.toJsonText = if p.singles.all Single.isFinite then some p else none := by
  obtain ⟨hsound, hreads⟩ := Json.yields_snapshot h
  rw [ofJsonText?, toJsonText, hsound.parse?_render]
  exact hreads

/-- A snapshot with a negative zero, the least and the largest of the positive floats, the least
integer and texts full of escapes. -/
def Snapshot.extreme : Snapshot where
  version := 1
  id := ⟨.ofNat 1⟩
  entity := ⟨.ofNat 0xffffffffffffffffffffffffffffffff⟩
  nodes := [⟨⟨0, 3⟩, "Печать", ⟨⟨0x80000000⟩, ⟨0x3dcccccd⟩⟩,
    .ofList [("b", .object none), ("\"a\\", .int Int64.minValue), ("", .text "\x00\n🎮")]⟩]
  connections := [⟨⟨.ofNat 5⟩, ⟨0, 3⟩, "Out", ⟨9, 9⟩, "\t"⟩]
  vars := [("hp", .float ⟨1⟩), ("hp", .vector ⟨⟨0x7f7fffff⟩, .one, ⟨0xc2f6e979⟩⟩),
    ("who", .object (some ⟨.ofNat 77⟩)), ("ok", .bool true)]
  vacant := [⟨4294967295, 4294967295⟩]

theorem Snapshot.ofJsonText?_toJsonText_extreme :
    (∀ x ∈ extreme.singles, x.ReadsBack) ∧ ofJsonText? extreme.toJsonText = some extreme := by
  have hread : ∀ x ∈ extreme.singles, x.ReadsBack := by decide +kernel
  exact ⟨hread, (ofJsonText?_toJsonText extreme hread).trans (by decide +kernel)⟩

/-- A snapshot with an infinite variable. -/
def Snapshot.boundless : Snapshot :=
  ⟨1, default, default, [], [], [("speed", .float ⟨0x7f800000⟩)], []⟩

/-- Unlike from its project file, it does not come back from its JSON document. -/
theorem Snapshot.ofJsonText?_toJsonText_boundless :
    ofRonText? boundless.toRonText = some boundless ∧
    ofJsonText? boundless.toJsonText = none ∧
    ¬ ∀ p : Snapshot, ∃ q, ofJsonText? p.toJsonText = some q := by
  have hron (p : Snapshot) : ofRonText? p.toRonText = some (p.mapSingles Single.plainNaN) :=
    Ron.document?_render (RonReader.reads_snapshot p) (Nat.le_of_ble_eq_true rfl)
  have hread : ∀ x ∈ boundless.singles, x.ReadsBack := by decide +kernel
  have hnone : ofJsonText? boundless.toJsonText = none := by
    rw [ofJsonText?, toJsonText, (Json.yields_snapshot hread).sound.parse?_render]
    decide +kernel
  refine ⟨(hron boundless).trans (by decide +kernel), hnone, fun hall => ?_⟩
  obtain ⟨q, hq⟩ := hall boundless
  rw [hnone] at hq
  cases hq

end ScriptGraph
