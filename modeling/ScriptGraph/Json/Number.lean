import ScriptGraph.Json.Reader
import ScriptGraph.Number.Single

/-! Numbers in JSON. Floats are written with the fewest digits that read back, a tie going to the
even digit, and with a signed exponent where they are very large or small; what is no number is
`null`. They are read in double precision: as many leading digits as fit into 64 bits, times or over
the nearest double to a power of ten. -/

namespace ScriptGraph

namespace Json

def maxWhole : Nat := 0xffffffffffffffff

def singleLayout : FloatLayout where
  tie := .even
  fixedFrom := some (-6)
  fixedTo := some 12
  pointZero := true
  infinity := ("null", "null")
  nan := ("null", "null")

def doubleLayout : FloatLayout :=
  { singleLayout with fixedFrom := some (-5), fixedTo := some 15 }

/-- The document for a float, `null` if it is not finite. -/
def ofFloatText (text : String) : Json := if text = "null" then .null else .number text.toList

def single (x : Single) : Json := ofFloatText (x.write singleLayout)

def double (x : Double) : Json := ofFloatText (x.write doubleLayout)

def nat (n : Nat) : Json := .number (natChars n)

def int (i : Int) : Json := .number (if i < 0 then '-' :: natChars i.natAbs else natChars i.natAbs)

/-- Appends digits to a number for as long as it stays below 2^64. Yields the number and how many
digits it took up. -/
def absorb (n : Nat) : List Char → Nat × Nat
  | [] => (n, 0)
  | c :: rest =>
    let next := n * 10 + (charDigit? c).getD 0
    if maxWhole < next then (n, 0)
    else
      let r := absorb next rest
      (r.1, r.2 + 1)

def powerOfTen (e : Nat) : Nat := BinaryFormat.double.round false (Nat.pow 10 e) 1

/-- Divides a double by a power of ten, in steps of at most 308 decimal places. -/
def scaleDown (x : Nat) (places : Nat) : Nat :=
  if places ≤ 308 then BinaryFormat.double.div x (powerOfTen places)
  else if x = 0 then x
  else scaleDown (BinaryFormat.double.div x (powerOfTen 308)) (places - 308)
termination_by places
decreasing_by omega

def scaled? (significand : Nat) (exponent : Int) : Option Nat :=
  let x := BinaryFormat.double.round false significand 1
  if exponent < 0 then some (scaleDown x (-exponent).toNat)
  else if exponent ≤ 308 then
    let y := BinaryFormat.double.mul x (powerOfTen exponent.toNat)
    if y = BinaryFormat.double.infinity then none else some y
  else if significand = 0 then some 0
  else none

def maxExponent : Nat := 0x7fffffff

/-- The magnitude of a number that is not a whole number in range. -/
def magnitude? (p : NumberParts) : Option Nat :=
  let whole := absorb 0 p.whole
  let fraction := absorb whole.1 p.fraction
  let exponent : Int := (p.whole.length - whole.2 : Nat) - (fraction.2 : Int)
  match p.exponent with
  | none => scaled? fraction.1 exponent
  | some (negative, digits) =>
    let power := charsValue digits
    if maxExponent < power then
      if fraction.1 ≠ 0 && !negative then none else some 0
    else scaled? fraction.1 (if negative then exponent - power else exponent + power)

/-- The whole number that a token denotes, if it has neither point nor exponent. Zero with a minus
sign is no whole number. -/
def whole? (p : NumberParts) : Option Int :=
  let n := charsValue p.whole
  if p.fraction ≠ [] || p.exponent.isSome || (p.negative && n = 0) then none
  else some (if p.negative then -(n : Int) else n)

/-- The single that a number denotes: whole numbers of up to 64 bits are rounded once, all others
by way of a double. -/
def singleOfParts? (p : NumberParts) : Option Single :=
  let short := (whole? p).filter fun i => Int64.minValue.toInt ≤ i && i ≤ maxWhole
  match short with
  | some i => some (Single.ofInt i)
  | none =>
    (magnitude? p).map fun x =>
      Double.toSingle (.ofPattern (BinaryFormat.double.withSign p.negative x))

def single? : Json → Option Single
  | .number token => (numberParts? token).bind singleOfParts?
  | _ => none

/-- A whole number in a range, ends included. -/
def int? (low high : Int) : Json → Option Int
  | .number token =>
    ((numberParts? token).bind whole?).filter fun i => low ≤ i && i ≤ high
  | _ => none

end Json

end ScriptGraph
