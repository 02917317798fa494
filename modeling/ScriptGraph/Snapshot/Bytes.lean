import ScriptGraph.Snapshot

/-! The compact byte form of snapshots: little-endian words of fixed width, lengths in eight bytes
before lists, tables, texts and ids, a four-byte tag before a value and a one-byte tag before an
option. Every reader takes what it needs off the front and returns the rest. -/

namespace ScriptGraph

/-- Reads one thing off the front of some bytes. -/
abbrev ByteReader (α : Type) := List UInt8 → Option (α × List UInt8)

namespace Bytes

/-- The lowest `count` bytes of `n`, least significant first. -/
def littleEndian : Nat → Nat → List UInt8
  | 0, _ => []
  | count + 1, n => UInt8.ofNat n :: littleEndian count (n / 256)

def readLittleEndian : Nat → ByteReader Nat
  | 0, bs => some (0, bs)
  | _ + 1, [] => none
  | count + 1, b :: bs => (readLittleEndian count bs).map fun r => (b.toNat + 256 * r.1, r.2)

theorem readLittleEndian_append (count n : Nat) (rest : List UInt8) (h : n < Nat.pow 256 count) :
    readLittleEndian count (littleEndian count n ++ rest) = some (n, rest) := by
  induction count generalizing n with
  | zero => simp at h; simp [littleEndian, readLittleEndian, h]
  | succ count ih =>
    have hn : n < Nat.pow 256 count * 256 := h
    have hd : n / 256 < Nat.pow 256 count := Nat.div_lt_of_lt_mul (by omega)
    have hm : (UInt8.ofNat n).toNat + 256 * (n / 256) = n := by
      rw [UInt8.toNat_ofNat']
      omega
    simp only [littleEndian, List.cons_append, readLittleEndian, ih _ hd, Option.map_some, hm]

def word (w : UInt32) : List UInt8 := littleEndian 4 w.toNat

def readWord : ByteReader UInt32 := fun bs =>
  (readLittleEndian 4 bs).map fun r => (UInt32.ofNat r.1, r.2)

def length (n : Nat) : List UInt8 := littleEndian 8 n

def readLength : ByteReader Nat := readLittleEndian 8

/-- Reads exactly `count` raw bytes. -/
def readRaw (count : Nat) : ByteReader (List UInt8) := fun bs =>
  if bs.length < count then none else some (bs.take count, bs.drop count)

def text (s : String) : List UInt8 := length s.toUTF8.size ++ s.toUTF8.data.toList

/-- Reads a text, which must be valid UTF-8. -/
def readText : ByteReader String := fun bs => do
  let (size, bs) ← readLength bs
  let (raw, bs) ← readRaw size bs
  let s ← String.fromUTF8? ⟨raw.toArray⟩
  return (s, bs)

/-- The bytes of an id, most significant first, behind their number. -/
def uuid (u : Uuid) : List UInt8 := length 16 ++ (littleEndian 16 u.value.toNat).reverse

def readUuid : ByteReader Uuid := fun bs => do
  let (size, bs) ← readLength bs
  if size = 16 then
    let (raw, bs) ← readRaw 16 bs
    let (n, _) ← readLittleEndian 16 raw.reverse
    return (Uuid.ofNat n, bs)
  else none

def list {α : Type} (item : α → List UInt8) (xs : List α) : List UInt8 :=
  length xs.length ++ xs.flatMap item

def readMany {α : Type} (read : ByteReader α) : Nat → ByteReader (List α)
  | 0, bs => some ([], bs)
  | count + 1, bs => do
    let (x, bs) ← read bs
    let (xs, bs) ← readMany read count bs
    return (x :: xs, bs)

def readList {α : Type} (read : ByteReader α) : ByteReader (List α) := fun bs => do
  let (count, bs) ← readLength bs
  readMany read count bs

def single (x : Single) : List UInt8 := word x.bits

def readSingle : ByteReader Single := fun bs => (readWord bs).map fun r => (⟨r.1⟩, r.2)

def nodeId (id : NodeId) : List UInt8 := word id.index ++ word id.generation

def readNodeId : ByteReader NodeId := fun bs => do
  let (index, bs) ← readWord bs
  let (generation, bs) ← readWord bs
  return (⟨index, generation⟩, bs)

def value : Value → List UInt8
  | .bool b => word 0 ++ [if b then 1 else 0]
  | .int i => word 1 ++ littleEndian 8 i.toUInt64.toNat
  | .float s => word 2 ++ single s
  | .vector v => word 3 ++ single v.x ++ single v.y ++ single v.z
  | .text s => word 4 ++ text s
  | .object none => word 5 ++ [0]
  | .object (some e) => word 5 ++ 1 :: uuid e.uuid

/-- Reads a byte that must be zero or one. -/
def readFlag : ByteReader Bool
  | 0 :: bs => some (false, bs)
  | 1 :: bs => some (true, bs)
  | _ => none

def readValue : ByteReader Value := fun bs => do
  let (tag, bs) ← readWord bs
  match tag.toNat with
  | 0 => do
    let (b, bs) ← readFlag bs
    return (.bool b, bs)
  | 1 => do
    let (n, bs) ← readLittleEndian 8 bs
    return (.int (UInt64.ofNat n).toInt64, bs)
  | 2 => do
    let (s, bs) ← readSingle bs
    return (.float s, bs)
  | 3 => do
    let (x, bs) ← readSingle bs
    let (y, bs) ← readSingle bs
    let (z, bs) ← readSingle bs
    return (.vector ⟨x, y, z⟩, bs)
  | 4 => do
    let (s, bs) ← readText bs
    return (.text s, bs)
  | 5 => do
    let (present, bs) ← readFlag bs
    if present then
      let (u, bs) ← readUuid bs
      return (.object (some ⟨u⟩), bs)
    else return (.object none, bs)
  | _ => none

def entry (e : String × Value) : List UInt8 := text e.1 ++ value e.2

def readEntry : ByteReader (String × Value) := fun bs => do
  let (name, bs) ← readText bs
  let (v, bs) ← readValue bs
  return ((name, v), bs)

def node (n : Node) : List UInt8 :=
  nodeId n.id ++ text n.typeName ++ single n.position.x ++ single n.position.y ++
    list entry n.properties.entries

def readNode : ByteReader Node := fun bs => do
  let (id, bs) ← readNodeId bs
  let (typeName, bs) ← readText bs
  let (x, bs) ← readSingle bs
  let (y, bs) ← readSingle bs
  let (properties, bs) ← readList readEntry bs
  return (⟨id, typeName, ⟨x, y⟩, .ofList properties⟩, bs)

def connection (c : Connection) : List UInt8 :=
  uuid c.id.uuid ++ nodeId c.source ++ text c.sourcePort ++ nodeId c.target ++ text c.targetPort

def readConnection : ByteReader Connection := fun bs => do
  let (id, bs) ← readUuid bs
  let (source, bs) ← readNodeId bs
  let (sourcePort, bs) ← readText bs
  let (target, bs) ← readNodeId bs
  let (targetPort, bs) ← readText bs
  return (⟨⟨id⟩, source, sourcePort, target, targetPort⟩, bs)

end Bytes

namespace Snapshot

def toBytes (p : Snapshot) : List UInt8 :=
  Bytes.word p.version ++ Bytes.uuid p.id.uuid ++ Bytes.uuid p.entity.uuid ++
    Bytes.list Bytes.node p.nodes ++ Bytes.list Bytes.connection p.connections ++
    Bytes.list Bytes.entry p.vars ++ Bytes.list Bytes.nodeId p.vacant

def readBytes : ByteReader Snapshot := fun bs => do
  let (version, bs) ← Bytes.readWord bs
  let (id, bs) ← Bytes.readUuid bs
  let (entity, bs) ← Bytes.readUuid bs
  let (nodes, bs) ← Bytes.readList Bytes.readNode bs
  let (connections, bs) ← Bytes.readList Bytes.readConnection bs
  let (vars, bs) ← Bytes.readList Bytes.readEntry bs
  let (vacant, bs) ← Bytes.readList Bytes.readNodeId bs
  return (⟨version, ⟨id⟩, ⟨entity⟩, nodes, connections, vars, vacant⟩, bs)

/-- Reads a snapshot from the front of some bytes; what follows it is ignored. -/
def ofBytes? (bs : List UInt8) : Option Snapshot := (readBytes bs).map Prod.fst

end Snapshot

end ScriptGraph
