import Mathlib.Data.List.Infix
import ScriptGraph.Proofs.Table
import ScriptGraph.Snapshot.Bytes

/-! The byte form is read back by its own readers. Nothing in it marks where a part ends, so each
reader has to stop by itself: it takes the bytes of its part off the front whatever follows, and
refuses every input that ends within the part. Both hold of the words and pass from the parts of a
record or a list to the whole. -/
namespace ScriptGraph

/-- The reader takes exactly these bytes for `a`: it leaves what follows them, and it fails where
they are cut short. -/
structure ByteReader.Reads {α : Type} (read : ByteReader α) (a : α) (bytes : List UInt8) :
    Prop where
  whole : ∀ rest, read (bytes ++ rest) = some (a, rest)
  cut : ∀ front, front <+: bytes → front ≠ bytes → read front = none

namespace ByteReader.Reads

variable {α β : Type} {read : ByteReader α} {a : α} {b : β} {bytes more : List UInt8}

/-- A part that is read by its width alone. -/
lemma of_width (whole : ∀ rest, read (bytes ++ rest) = some (a, rest))
    (short : ∀ front : List UInt8, front.length < bytes.length → read front = none) :
    read.Reads a bytes := by
  refine ⟨whole, fun front hpre hne => short front ?_⟩
  exact lt_of_le_of_ne hpre.length_le fun hlen => hne (hpre.eq_of_length hlen)

/-- Two parts in a row. The cut lies within the first, or it leaves the first whole. -/
lemma bind {next : α × List UInt8 → Option (β × List UInt8)} (h : read.Reads a bytes)
    (hnext : ByteReader.Reads (fun bs => next (a, bs)) b more) :
    ByteReader.Reads (fun bs => read bs >>= next) b (bytes ++ more) := by
  constructor
  · intro rest
    simp only [List.append_assoc, h.whole, Option.bind_eq_bind, Option.bind_some, hnext.whole]
  · intro front hpre hne
    by_cases hin : front <+: bytes ∧ front ≠ bytes
    · simp only [h.cut front hin.1 hin.2, Option.bind_eq_bind, Option.bind_none]
    · have hbytes : bytes <+: front := by
        rcases List.prefix_or_prefix_of_prefix hpre (List.prefix_append bytes more) with hle | hge
        · have : front = bytes := not_not.mp fun hn => hin ⟨hle, hn⟩
          rw [this]
        · exact hge
      obtain ⟨tail, rfl⟩ := hbytes
      have htail : tail <+: more := (List.prefix_append_right_inj bytes).mp hpre
      have hcut : tail ≠ more := fun he => hne (by rw [he])
      simp only [h.whole, Option.bind_eq_bind, Option.bind_some]
      exact hnext.cut tail htail hcut

/-- The last part of a record, after which the record is put together. -/
lemma last {next : α × List UInt8 → Option (β × List UInt8)} (h : read.Reads a bytes)
    (hnext : ∀ rest, next (a, rest) = some (b, rest)) :
    ByteReader.Reads (fun bs => read bs >>= next) b bytes := by
  constructor
  · intro rest
    simp only [h.whole, Option.bind_eq_bind, Option.bind_some, hnext]
  · intro front hpre hne
    simp only [h.cut front hpre hne, Option.bind_eq_bind, Option.bind_none]

lemma map (h : read.Reads a bytes) (f : α → β) :
    ByteReader.Reads (fun bs => (read bs).map fun r => (f r.1, r.2)) (f a) bytes := by
  constructor
  · intro rest
    simp only [h.whole, Option.map_some]
  · intro front hpre hne
    simp only [h.cut front hpre hne, Option.map_none]

end ByteReader.Reads

namespace Bytes

@[simp] lemma length_littleEndian (count n : Nat) : (littleEndian count n).length = count := by
  induction count generalizing n with
  | zero => rfl
  | succ count ih => simp [littleEndian, ih]

lemma readLittleEndian_of_short {count : Nat} {bs : List UInt8} (h : bs.length < count) :
    readLittleEndian count bs = none := by
  induction count generalizing bs with
  | zero => omega
  | succ count ih =>
    cases bs with
    | nil => rfl
    | cons b bs =>
      have hlen : bs.length < count := by simpa using h
      simp only [readLittleEndian, ih hlen, Option.map_none]

lemma reads_littleEndian {count n : Nat} (h : n < Nat.pow 256 count) :
    (readLittleEndian count).Reads n (littleEndian count n) := by
  refine .of_width (fun rest => readLittleEndian_append count n rest h) fun front hlen => ?_
  rw [length_littleEndian] at hlen
  exact readLittleEndian_of_short hlen

lemma reads_word (w : UInt32) : readWord.Reads w (word w) := by
  have hbits : w.toNat < Nat.pow 256 4 := w.toNat_lt
  have h := (reads_littleEndian hbits).map UInt32.ofNat
  rwa [UInt32.ofNat_toNat] at h

lemma reads_single (x : Single) : readSingle.Reads x (single x) :=
  (reads_word x.bits).map Single.mk

lemma reads_raw (raw : List UInt8) : (readRaw raw.length).Reads raw raw := by
  refine .of_width (fun rest => ?_) fun front hlen => ?_
  · simp [readRaw]
  · simp [readRaw, hlen]

lemma reads_flag (b : Bool) : readFlag.Reads b [if b then 1 else 0] := by
  refine .of_width (fun rest => ?_) fun front hlen => ?_
  · cases b <;> rfl
  · have : front = [] := List.length_eq_zero_iff.mp (by simpa using hlen)
    rw [this]
    rfl

/-- A count that its eight bytes can hold. -/
def Addressable (n : Nat) : Prop := n < UInt64.size

instance (n : Nat) : Decidable (Addressable n) := inferInstanceAs (Decidable (n < UInt64.size))

lemma reads_length {n : Nat} (h : Addressable n) : readLength.Reads n (length n) :=
  @reads_littleEndian 8 n h

lemma fromUTF8?_toUTF8 (s : String) : String.fromUTF8? ⟨s.toUTF8.data.toList.toArray⟩ = some s := by
  rw [Array.toArray_toList]
  exact dif_pos s.isValidUTF8

lemma reads_text {s : String} (h : Addressable s.toUTF8.size) : readText.Reads s (text s) := by
  refine (reads_length h).bind ?_
  have hraw := reads_raw s.toUTF8.data.toList
  have hsize : s.toUTF8.data.toList.length = s.toUTF8.size := Array.length_toList
  rw [hsize] at hraw
  refine hraw.last fun rest => ?_
  simp only [fromUTF8?_toUTF8]
  rfl

lemma reads_uuid (u : Uuid) : readUuid.Reads u (uuid u) := by
  have hvalue : u.value.toNat < Nat.pow 256 16 := u.value.isLt
  have hread := readLittleEndian_append 16 u.value.toNat [] hvalue
  have hraw := reads_raw (littleEndian 16 u.value.toNat).reverse
  rw [List.length_reverse, length_littleEndian] at hraw
  have hcount : Addressable 16 := by decide
  refine (reads_length hcount).bind (hraw.last fun rest => ?_)
  rw [List.append_nil] at hread
  have hu : Uuid.ofNat u.value.toNat = u := by simp [Uuid.ofNat]
  simp [hread, hu]

lemma reads_many {α : Type} {read : ByteReader α} {item : α → List UInt8} {xs : List α}
    (h : ∀ x ∈ xs, read.Reads x (item x)) :
    (readMany read xs.length).Reads xs (xs.flatMap item) := by
  induction xs with
  | nil => exact .of_width (fun _ => rfl) fun front hlen => by simp at hlen
  | cons x xs ih =>
    have hx : read.Reads x (item x) := h x List.mem_cons_self
    have hxs := ih fun y hy => h y (List.mem_cons_of_mem x hy)
    exact hx.bind (hxs.last fun _ => rfl)

lemma reads_list {α : Type} {read : ByteReader α} {item : α → List UInt8} {xs : List α}
    (hlen : Addressable xs.length) (h : ∀ x ∈ xs, read.Reads x (item x)) :
    (readList read).Reads xs (list item xs) :=
  (reads_length hlen).bind (reads_many h)

lemma reads_nodeId (id : NodeId) : readNodeId.Reads id (nodeId id) :=
  (reads_word id.index).bind ((reads_word id.generation).last fun _ => rfl)

end Bytes

/-- A value whose text, if it is one, has an addressable size. -/
def Value.Addressable : Value → Prop
  | .text s => Bytes.Addressable s.toUTF8.size
  | _ => True

instance : DecidablePred Value.Addressable
  | .text s => inferInstanceAs (Decidable (Bytes.Addressable s.toUTF8.size))
  | .bool _ | .int _ | .float _ | .vector _ | .object _ => .isTrue trivial

namespace Bytes

lemma reads_value {v : Value} (h : v.Addressable) : readValue.Reads v (value v) := by
  cases v with
  | bool b => exact (reads_word 0).bind ((reads_flag b).last fun _ => rfl)
  | int i =>
    have hbits : i.toUInt64.toNat < Nat.pow 256 8 := i.toUInt64.toNat_lt
    refine (reads_word 1).bind ((reads_littleEndian hbits).last fun rest => ?_)
    simp
  | float s => exact (reads_word 2).bind ((reads_single s).last fun _ => rfl)
  | vector v =>
    simp only [value, List.append_assoc]
    exact (reads_word 3).bind ((reads_single v.x).bind ((reads_single v.y).bind
      ((reads_single v.z).last fun _ => rfl)))
  | text s => exact (reads_word 4).bind ((reads_text h).last fun _ => rfl)
  | object e =>
    cases e with
    | none => exact (reads_word 5).bind ((reads_flag false).last fun _ => rfl)
    | some e =>
      exact (reads_word 5).bind ((reads_flag true).bind ((reads_uuid e.uuid).last fun _ => rfl))

/-- An entry of a property table or of the variables, with an addressable name and value. -/
def AddressableEntry (e : String × Value) : Prop := Addressable e.1.toUTF8.size ∧ e.2.Addressable

instance (e : String × Value) : Decidable (AddressableEntry e) :=
  inferInstanceAs (Decidable (Addressable e.1.toUTF8.size ∧ e.2.Addressable))

lemma reads_entry {e : String × Value} (h : AddressableEntry e) : readEntry.Reads e (entry e) :=
  (reads_text h.1).bind ((reads_value h.2).last fun _ => rfl)

end Bytes

/-- A node whose texts and table are addressable. -/
structure Node.Addressable (n : Node) : Prop where
  typeName : Bytes.Addressable n.typeName.toUTF8.size
  size : Bytes.Addressable n.properties.entries.length
  properties : ∀ e ∈ n.properties.entries, Bytes.AddressableEntry e

/-- A connection whose port names are addressable. -/
structure Connection.Addressable (c : Connection) : Prop where
  sourcePort : Bytes.Addressable c.sourcePort.toUTF8.size
  targetPort : Bytes.Addressable c.targetPort.toUTF8.size

namespace Bytes

lemma reads_node {n : Node} (h : n.Addressable) : readNode.Reads n (node n) := by
  simp only [node, List.append_assoc]
  have hproperties := reads_list h.size fun e he => reads_entry (h.properties e he)
  refine (reads_nodeId n.id).bind ((reads_text h.typeName).bind
    ((reads_single n.position.x).bind ((reads_single n.position.y).bind
      (hproperties.last fun rest => ?_))))
  simp only [Table.ofList_entries]
  rfl

lemma reads_connection {c : Connection} (h : c.Addressable) :
    readConnection.Reads c (connection c) := by
  simp only [connection, List.append_assoc]
  exact (reads_uuid c.id.uuid).bind ((reads_nodeId c.source).bind
    ((reads_text h.sourcePort).bind ((reads_nodeId c.target).bind
      ((reads_text h.targetPort).last fun _ => rfl))))

end Bytes

namespace Snapshot

/-- Every list, table and text of the snapshot is shorter than eight bytes can say, as all that
fits in memory is. -/
structure Addressable (p : Snapshot) : Prop where
  nodeCount : Bytes.Addressable p.nodes.length
  nodes : ∀ n ∈ p.nodes, n.Addressable
  connectionCount : Bytes.Addressable p.connections.length
  connections : ∀ c ∈ p.connections, c.Addressable
  varCount : Bytes.Addressable p.vars.length
  vars : ∀ e ∈ p.vars, Bytes.AddressableEntry e
  vacantCount : Bytes.Addressable p.vacant.length

lemma reads_toBytes {p : Snapshot} (h : p.Addressable) : readBytes.Reads p p.toBytes := by
  simp only [toBytes, List.append_assoc]
  have hnodes := Bytes.reads_list h.nodeCount fun n hn => Bytes.reads_node (h.nodes n hn)
  have hconnections := Bytes.reads_list h.connectionCount fun c hc =>
    Bytes.reads_connection (h.connections c hc)
  have hvars := Bytes.reads_list h.varCount fun e he => Bytes.reads_entry (h.vars e he)
  have hvacant := Bytes.reads_list h.vacantCount fun id _ => Bytes.reads_nodeId id
  exact (Bytes.reads_word p.version).bind ((Bytes.reads_uuid p.id.uuid).bind
    ((Bytes.reads_uuid p.entity.uuid).bind (hnodes.bind (hconnections.bind
      (hvars.bind (hvacant.last fun _ => rfl))))))

/-- The bytes of a snapshot read back as that snapshot, whatever is appended to them, and no shorter
start of them reads as a snapshot at all. -/
theorem ofBytes?_toBytes (p : Snapshot) (h : p.Addressable) :
    ofBytes? p.toBytes = some p ∧
      (∀ extra, ofBytes? (p.toBytes ++ extra) = some p) ∧
      ∀ front, front <+: p.toBytes → front ≠ p.toBytes → ofBytes? front = none := by
  have hreads := reads_toBytes h
  have happend : ∀ extra, ofBytes? (p.toBytes ++ extra) = some p := by
    intro extra
    rw [ofBytes?, hreads.whole, Option.map_some]
  refine ⟨?_, happend, ?_⟩
  · rw [← List.append_nil p.toBytes]
    exact happend []
  · intro front hpre hne
    rw [ofBytes?, hreads.cut front hpre hne, Option.map_none]

/-- A snapshot with a signalling NaN, an infinity, the least integer, texts of several bytes a
character, an object of either kind and a version that no loader takes. -/
def unusual : Snapshot where
  version := 7
  id := ⟨.ofNat 1⟩
  entity := ⟨.ofNat 0xffffffffffffffffffffffffffffffff⟩
  nodes := [⟨⟨0, 3⟩, "Печать", ⟨⟨0x7f800001⟩, ⟨0xff800000⟩⟩,
    .ofList [("b", .object none), ("a", .int Int64.minValue), ("", .text "\x00\n🎮")]⟩]
  connections := [⟨⟨.ofNat 5⟩, ⟨0, 3⟩, "Out", ⟨9, 9⟩, "é"⟩]
  vars := [("hp", .float ⟨0xffc00001⟩), ("hp", .vector ⟨⟨0⟩, ⟨0x80000000⟩, ⟨1⟩⟩),
    ("who", .object (some ⟨.ofNat 77⟩)), ("ok", .bool true)]
  vacant := [⟨4294967295, 4294967295⟩]

lemma addressable_unusual : unusual.Addressable where
  nodeCount := by decide
  nodes := by
    intro n hn
    obtain rfl := List.mem_singleton.mp hn
    refine ⟨by decide, by decide, ?_⟩
    decide
  connectionCount := by decide
  connections := by
    intro c hc
    obtain rfl := List.mem_singleton.mp hc
    exact ⟨by decide, by decide⟩
  varCount := by decide
  vars := by decide
  vacantCount := by decide

theorem ofBytes?_toBytes_unusual : unusual.Addressable ∧ ofBytes? unusual.toBytes = some unusual :=
  ⟨addressable_unusual, (ofBytes?_toBytes unusual addressable_unusual).1⟩

end Snapshot

end ScriptGraph
