import ScriptGraph.Number.Decimal

/-! Single- and double-precision numbers as their bit patterns. Values, positions and times are
singles; the time a session has simulated is summed up as a double. -/

namespace ScriptGraph

/-- A single-precision number, told apart by its 32 bits. -/
structure Single where
  bits : UInt32
deriving DecidableEq, Repr

/-- A double-precision number, told apart by its 64 bits. -/
structure Double where
  bits : UInt64
deriving DecidableEq, Repr

namespace Single

def ofPattern (n : Nat) : Single := ⟨UInt32.ofNat n⟩

def pattern (x : Single) : Nat := x.bits.toNat

def zero : Single := ⟨0⟩

def one : Single := ⟨0x3f800000⟩

instance : Inhabited Single := ⟨zero⟩

def isNaN (x : Single) : Bool := BinaryFormat.single.isNaN x.pattern

def add (x y : Single) : Single := ofPattern (BinaryFormat.single.add x.pattern y.pattern)

def mul (x y : Single) : Single := ofPattern (BinaryFormat.single.mul x.pattern y.pattern)

/-- Equality of numbers, by which no NaN equals itself and the two zeros are equal. -/
def equal (x y : Single) : Bool := BinaryFormat.single.equal x.pattern y.pattern

def less (x y : Single) : Bool := BinaryFormat.single.less x.pattern y.pattern

def ofInt (i : Int) : Single := ofPattern (BinaryFormat.single.round (i < 0) i.natAbs 1)

def ofRatio (negative : Bool) (num den : Nat) : Single :=
  ofPattern (BinaryFormat.single.round negative num den)

def ofDecimal (d : DecimalLiteral) : Single := ofPattern (d.round .single)

/-- Reads a decimal, or a word for infinity or for no number, in any case. -/
def ofChars? (cs : List Char) : Option Single :=
  let signed := DecimalLiteral.takeSign cs
  let withSign (n : Nat) : Single := ofPattern (BinaryFormat.single.withSign signed.1 n)
  match String.ofList (signed.2.map Char.toLower) with
  | "inf" | "infinity" => some (withSign BinaryFormat.single.infinity)
  | "nan" => some (withSign 0x7fc00000)
  | _ => (DecimalLiteral.read? cs).map ofDecimal

/-- The number itself, or the nearer end of the interval it lies outside of. -/
def clamp (x low high : Single) : Single :=
  if x.less low then low else if high.less x then high else x

def toDouble (x : Single) : Double :=
  ⟨UInt64.ofNat (BinaryFormat.single.convert .double x.pattern)⟩

def write (l : FloatLayout) (x : Single) : String := l.write .single x.pattern

end Single

namespace Double

def ofPattern (n : Nat) : Double := ⟨UInt64.ofNat n⟩

def pattern (x : Double) : Nat := x.bits.toNat

def zero : Double := ⟨0⟩

instance : Inhabited Double := ⟨zero⟩

def isNaN (x : Double) : Bool := BinaryFormat.double.isNaN x.pattern

def add (x y : Double) : Double := ofPattern (BinaryFormat.double.add x.pattern y.pattern)

def ofDecimal (d : DecimalLiteral) : Double := ofPattern (d.round .double)

def toSingle (x : Double) : Single :=
  .ofPattern (BinaryFormat.double.convert .single x.pattern)

def write (l : FloatLayout) (x : Double) : String := l.write .double x.pattern

end Double

end ScriptGraph
