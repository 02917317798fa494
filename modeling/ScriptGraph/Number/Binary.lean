/-! Binary floating-point formats, worked out exactly over the natural numbers.
A bit pattern is taken apart into sign, significand and exponent, an operation is carried out on
exact fractions, and `round` picks the nearest pattern, a tie going to the even one. -/

namespace ScriptGraph

/-- A binary interchange format: a sign bit, a biased exponent and a fraction. The precision counts
the leading one of a significand, and the smallest positive value is two to the least exponent. -/
structure BinaryFormat where
  precision : Nat
  minExponent : Int
  exponentBits : Nat
deriving DecidableEq, Repr

namespace BinaryFormat

def single : BinaryFormat := ⟨24, -149, 8⟩

def double : BinaryFormat := ⟨53, -1074, 11⟩

/-- The first pattern of the next exponent, `2 ^ (precision - 1)`. -/
def binade (f : BinaryFormat) : Nat := Nat.pow 2 (f.precision - 1)

def infinity (f : BinaryFormat) : Nat := (Nat.pow 2 f.exponentBits - 1) * f.binade

def signBit (f : BinaryFormat) : Nat := Nat.pow 2 f.exponentBits * f.binade

def quietBit (f : BinaryFormat) : Nat := f.binade / 2

end BinaryFormat

/-- What a bit pattern stands for. A finite number is `significand * 2 ^ exponent`. -/
inductive FloatParts where
  | nan (negative : Bool) (payload : Nat)
  | infinite (negative : Bool)
  | finite (negative : Bool) (significand : Nat) (exponent : Int)
deriving DecidableEq, Repr

/-- The integer nearest to `num / den`, a tie going to the even one. -/
def roundDiv (num den : Nat) : Nat :=
  let q := num / den
  let r := num % den
  if 2 * r < den then q
  else if 2 * r = den then q + q % 2
  else q + 1

/-- The fraction `num / den * 2 ^ e`, as a numerator and a denominator. -/
def scaleBinary (num den : Nat) (e : Int) : Nat × Nat :=
  if 0 ≤ e then (num * Nat.pow 2 e.toNat, den) else (num, den * Nat.pow 2 (-e).toNat)

def scaleDecimal (num den : Nat) (e : Int) : Nat × Nat :=
  if 0 ≤ e then (num * Nat.pow 10 e.toNat, den) else (num, den * Nat.pow 10 (-e).toNat)

namespace BinaryFormat

def isNegative (f : BinaryFormat) (bits : Nat) : Bool := f.signBit ≤ bits

def magnitude (f : BinaryFormat) (bits : Nat) : Nat := bits % f.signBit

def isNaN (f : BinaryFormat) (bits : Nat) : Bool := f.infinity < f.magnitude bits

def decode (f : BinaryFormat) (bits : Nat) : FloatParts :=
  let negative := f.isNegative bits
  let size := f.magnitude bits
  if f.infinity < size then .nan negative (size - f.infinity)
  else if size = f.infinity then .infinite negative
  else if size < f.binade then .finite negative size f.minExponent
  else .finite negative (size % f.binade + f.binade) (f.minExponent + (size / f.binade : Nat) - 1)

def withSign (f : BinaryFormat) (negative : Bool) (size : Nat) : Nat :=
  if negative then f.signBit + size else size

/-- The exponent at which the nonzero fraction `num / den` has a full significand, or the least
one if the fraction is too small for that. -/
def exponentOf (f : BinaryFormat) (num den : Nat) : Int :=
  let guess : Int := (num.log2 : Int) - den.log2
  let scaled := scaleBinary num den (-guess)
  let leading := if scaled.1 < scaled.2 then guess - 1 else guess
  max (leading - (f.precision - 1 : Nat)) f.minExponent

/-- The pattern nearest to `num / den`; past the largest finite number that is infinity. -/
def roundSize (f : BinaryFormat) (num den : Nat) : Nat :=
  if num = 0 then 0
  else
    let e := f.exponentOf num den
    let scaled := scaleBinary num den (-e)
    min ((e - f.minExponent).toNat * f.binade + roundDiv scaled.1 scaled.2) f.infinity

def round (f : BinaryFormat) (negative : Bool) (num den : Nat) : Nat :=
  f.withSign negative (f.roundSize num den)

def roundBinary (f : BinaryFormat) (negative : Bool) (significand : Nat) (exponent : Int) : Nat :=
  let scaled := scaleBinary significand 1 exponent
  f.round negative scaled.1 scaled.2

/-- The result of an operation on numbers that has no value, such as infinity less infinity. -/
def undefinedResult (f : BinaryFormat) : Nat := f.signBit + f.infinity + f.quietBit

def quiet (f : BinaryFormat) (negative : Bool) (payload : Nat) : Nat :=
  f.withSign negative (f.infinity + payload % f.quietBit + f.quietBit)

/-- The sum. The first NaN operand is handed on, and the sum of two opposite numbers is positive
zero. -/
def add (f : BinaryFormat) (a b : Nat) : Nat :=
  match f.decode a, f.decode b with
  | .nan s p, _ => f.quiet s p
  | _, .nan s p => f.quiet s p
  | .infinite s, .infinite t => if s = t then f.withSign s f.infinity else f.undefinedResult
  | .infinite s, _ => f.withSign s f.infinity
  | _, .infinite t => f.withSign t f.infinity
  | .finite s m p, .finite t n q =>
    let e := min p q
    let x : Int := m * Nat.pow 2 (p - e).toNat
    let y : Int := n * Nat.pow 2 (q - e).toNat
    let sum := (if s then -x else x) + (if t then -y else y)
    if sum = 0 then f.withSign (s && t) 0
    else f.roundBinary (sum < 0) sum.natAbs e

def mul (f : BinaryFormat) (a b : Nat) : Nat :=
  match f.decode a, f.decode b with
  | .nan s p, _ => f.quiet s p
  | _, .nan s p => f.quiet s p
  | .infinite s, .infinite t => f.withSign (s != t) f.infinity
  | .infinite s, .finite t n _ =>
    if n = 0 then f.undefinedResult else f.withSign (s != t) f.infinity
  | .finite s m _, .infinite t =>
    if m = 0 then f.undefinedResult else f.withSign (s != t) f.infinity
  | .finite s m p, .finite t n q => f.roundBinary (s != t) (m * n) (p + q)

def div (f : BinaryFormat) (a b : Nat) : Nat :=
  match f.decode a, f.decode b with
  | .nan s p, _ => f.quiet s p
  | _, .nan s p => f.quiet s p
  | .infinite _, .infinite _ => f.undefinedResult
  | .infinite s, .finite t _ _ => f.withSign (s != t) f.infinity
  | .finite s _ _, .infinite t => f.withSign (s != t) 0
  | .finite s m p, .finite t n q =>
    if n = 0 then if m = 0 then f.undefinedResult else f.withSign (s != t) f.infinity
    else
      let scaled := scaleBinary m n (p - q)
      f.round (s != t) scaled.1 scaled.2

/-- Equality of numbers: a NaN equals nothing and the two zeros are equal. -/
def equal (f : BinaryFormat) (a b : Nat) : Bool :=
  !f.isNaN a && !f.isNaN b &&
    (a = b || (f.magnitude a = 0 && f.magnitude b = 0))

/-- The place of a pattern on the number line, for patterns that are not NaN. -/
def rank (f : BinaryFormat) (bits : Nat) : Int :=
  if f.isNegative bits then -(f.magnitude bits : Int) else f.magnitude bits

def less (f : BinaryFormat) (a b : Nat) : Bool :=
  !f.isNaN a && !f.isNaN b && f.rank a < f.rank b

def convert (f g : BinaryFormat) (bits : Nat) : Nat :=
  match f.decode bits with
  | .nan s p =>
    g.quiet s (if f.binade ≤ g.binade then p * (g.binade / f.binade) else p / (f.binade / g.binade))
  | .infinite s => g.withSign s g.infinity
  | .finite s m e => g.roundBinary s m e

/-- Whether the number has no fractional part; infinities and NaN have none to speak of. -/
def isIntegral (f : BinaryFormat) (bits : Nat) : Bool :=
  match f.decode bits with
  | .finite _ m e => 0 ≤ e || m % Nat.pow 2 (-e).toNat = 0
  | _ => false

end BinaryFormat

end ScriptGraph
