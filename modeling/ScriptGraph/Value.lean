import ScriptGraph.Number.Single
import ScriptGraph.Uuid

/-! The dynamic values that flow along data connections and fill property tables, the kinds they
are declared with, and the arithmetic that mixes them. -/

namespace ScriptGraph

/-- What a property or a data port is declared to hold. -/
inductive Kind where
  | bool
  | int
  | float
  | vector
  | text
  | object
  | any
deriving DecidableEq, Repr, Inhabited

/-- Three coordinates in the scene. -/
structure Vector where
  x : Single
  y : Single
  z : Single
deriving DecidableEq, Repr, Inhabited

/-- A place on the editing canvas. -/
structure Point where
  x : Single
  y : Single
deriving DecidableEq, Repr, Inhabited

namespace Vector

def zero : Vector := ⟨.zero, .zero, .zero⟩

/-- The vector with three equal coordinates. -/
def splat (s : Single) : Vector := ⟨s, s, s⟩

def zipWith (f : Single → Single → Single) (v w : Vector) : Vector :=
  ⟨f v.x w.x, f v.y w.y, f v.z w.z⟩

def add (v w : Vector) : Vector := v.zipWith Single.add w

def equal (v w : Vector) : Bool := v.x.equal w.x && v.y.equal w.y && v.z.equal w.z

end Vector

namespace Point

def zero : Point := ⟨.zero, .zero⟩

def equal (p q : Point) : Bool := p.x.equal q.x && p.y.equal q.y

end Point

/-- A dynamic value. An object value without an entity stands for the owner of the graph. -/
inductive Value where
  | bool (b : Bool)
  | int (i : Int64)
  | float (s : Single)
  | vector (v : Vector)
  | text (s : String)
  | object (e : Option EntityId)
deriving DecidableEq, Repr

instance : Inhabited Value := ⟨.float .zero⟩

/-- The exact integer as a 64-bit one, if it is in range. -/
def int64OfInt? (i : Int) : Option Int64 :=
  if Int64.minValue.toInt ≤ i ∧ i ≤ Int64.maxValue.toInt then some (Int64.ofInt i) else none

namespace Kind

/-- Whether an output of the first kind may feed an input of the second. -/
def convertsTo (source target : Kind) : Bool :=
  source = target || source = .any || target = .any ||
    (source = .int && target = .float) || (source = .float && target = .int) ||
    (source = .float && target = .vector)

/-- The value that an output of this kind holds before anything is published on it. -/
def zero : Kind → Value
  | .bool => .bool false
  | .int => .int 0
  | .float => .float .zero
  | .vector => .vector .zero
  | .text => .text ""
  | .object => .object none
  | .any => .float .zero

/-- The word for the kind in messages and documents. -/
def name : Kind → String
  | .bool => "Bool"
  | .int => "Int"
  | .float => "Float"
  | .vector => "Vector3"
  | .text => "String"
  | .object => "Object"
  | .any => "Any"

end Kind

namespace Value

def kind : Value → Kind
  | .bool _ => .bool
  | .int _ => .int
  | .float _ => .float
  | .vector _ => .vector
  | .text _ => .text
  | .object _ => .object

def bool? : Value → Option Bool
  | .bool b => some b
  | _ => none

/-- A float, or an integer rounded to the nearest one. -/
def float? : Value → Option Single
  | .float s => some s
  | .int i => some (Single.ofInt i.toInt)
  | _ => none

/-- A vector, or a number in all three coordinates. -/
def vector? : Value → Option Vector
  | .vector v => some v
  | .float s => some (.splat s)
  | .int i => some (.splat (Single.ofInt i.toInt))
  | _ => none

def text? : Value → Option String
  | .text s => some s
  | _ => none

def object? : Value → Option (Option EntityId)
  | .object e => some e
  | _ => none

/-- Arithmetic on mixed values: integers stay exact or give nothing when out of range, a vector on
either side makes the operation coordinatewise, and other numbers are floats. -/
def combine (onFloats : Single → Single → Single) (onInts : Int → Int → Int) :
    Value → Value → Option Value
  | .int a, .int b => (int64OfInt? (onInts a.toInt b.toInt)).map .int
  | .vector v, b => b.vector?.map fun w => .vector (v.zipWith onFloats w)
  | a, .vector w => a.vector?.map fun v => .vector (v.zipWith onFloats w)
  | a, b => do
    let x ← a.float?
    let y ← b.float?
    return .float (onFloats x y)

def add (a b : Value) : Option Value := combine Single.add (· + ·) a b

def mul (a b : Value) : Option Value := combine Single.mul (· * ·) a b

/-- Values of different kinds differ, and floats compare as numbers: a NaN differs from itself and
the two zeros are equal. -/
def equal : Value → Value → Bool
  | .float a, .float b => a.equal b
  | .vector a, .vector b => a.equal b
  | .float _, _ => false
  | .vector _, _ => false
  | a, b => a = b

/-- Floats in messages: the fewest digits that read back, a tie going up, never an exponent. -/
def floatLayout : FloatLayout where
  tie := .up
  fixedFrom := none
  fixedTo := none
  pointZero := false
  infinity := ("inf", "-inf")
  nan := ("NaN", "NaN")

/-- The text of a value in messages. -/
def display : Value → String
  | .bool b => if b then "true" else "false"
  | .int i => intText i.toInt
  | .float s => s.write floatLayout
  | .vector v =>
    "(" ++ v.x.write floatLayout ++ ", " ++ v.y.write floatLayout ++ ", " ++
      v.z.write floatLayout ++ ")"
  | .text s => s
  | .object (some e) => e.uuid.text
  | .object none => "self"

end Value

end ScriptGraph
