import ScriptGraph.Number.Binary

/-! Decimal text of numbers: digits of naturals, the fewest decimal digits that read back as a
given floating-point number, and the nearest floating-point number to a decimal. -/

namespace ScriptGraph

def decimalDigits (n : Nat) : List Nat :=
  if n < 10 then [n] else decimalDigits (n / 10) ++ [n % 10]

/-- The number that a list of decimal digits denotes, most significant first. -/
def digitsValue (digits : List Nat) : Nat := digits.foldl (fun acc d => acc * 10 + d) 0

theorem digitsValue_append_singleton (digits : List Nat) (d : Nat) :
    digitsValue (digits ++ [d]) = digitsValue digits * 10 + d := by
  simp [digitsValue]

theorem digitsValue_decimalDigits (n : Nat) : digitsValue (decimalDigits n) = n := by
  fun_induction decimalDigits n with
  | case1 n h => simp [digitsValue]
  | case2 n h ih => rw [digitsValue_append_singleton, ih]; omega

theorem decimalDigits_lt_ten (n : Nat) : ∀ d ∈ decimalDigits n, d < 10 := by
  fun_induction decimalDigits n with
  | case1 n h => simpa using h
  | case2 n h ih =>
    intro d hd
    rcases List.mem_append.1 hd with hd | hd
    · exact ih d hd
    · simp only [List.mem_singleton] at hd; omega

theorem decimalDigits_ne_nil (n : Nat) : decimalDigits n ≠ [] := by
  unfold decimalDigits
  split <;> simp

def digitChar (d : Nat) : Char := Char.ofNat (48 + d)

def charDigit? (c : Char) : Option Nat :=
  if '0' ≤ c ∧ c ≤ '9' then some (c.toNat - 48) else none

def isDigit (c : Char) : Bool := (charDigit? c).isSome

theorem charDigit?_digitChar {d : Nat} (h : d < 10) : charDigit? (digitChar d) = some d := by
  match d, h with
  | 0, _ | 1, _ | 2, _ | 3, _ | 4, _ | 5, _ | 6, _ | 7, _ | 8, _ | 9, _ => rfl

def natChars (n : Nat) : List Char := (decimalDigits n).map digitChar

def natText (n : Nat) : String := String.ofList (natChars n)

def intText (i : Int) : String := if i < 0 then "-" ++ natText i.natAbs else natText i.natAbs

/-- The number that a run of digit characters denotes; other characters count as zero. -/
def charsValue (cs : List Char) : Nat := digitsValue (cs.map fun c => (charDigit? c).getD 0)

theorem charsValue_natChars (n : Nat) : charsValue (natChars n) = n := by
  have h : (natChars n).map (fun c => (charDigit? c).getD 0) = decimalDigits n := by
    rw [natChars, List.map_map]
    conv => rhs; rw [← List.map_id (decimalDigits n)]
    apply List.map_congr_left
    intro d hd
    simp [charDigit?_digitChar (decimalDigits_lt_ten n d hd)]
  rw [charsValue, h, digitsValue_decimalDigits]

def readNat? (cs : List Char) : Option Nat :=
  if cs ≠ [] ∧ cs.all isDigit then some (charsValue cs) else none

/-- Digits `d₀ d₁ d₂ …` with the exponent of the first: `d₀.d₁d₂… * 10 ^ exponent`. -/
structure Decimal where
  digits : List Nat
  exponent : Int
deriving DecidableEq, Repr

inductive DecimalTie where
  | up
  | even
deriving DecidableEq, Repr

namespace Decimal

/-- The decimal `significand * 10 ^ unit` without trailing zeros. -/
def ofScaled (significand : Nat) (unit : Int) : Decimal :=
  let digits := decimalDigits significand
  let kept := (digits.reverse.dropWhile (· = 0)).reverse
  ⟨kept, unit + (digits.length - 1 : Nat)⟩

def leadingExponent (num den : Nat) : Int :=
  if den ≤ num then ((decimalDigits (num / den)).length - 1 : Nat)
  else -((decimalDigits ((den - 1) / num)).length : Int)

/-- Of the two multiples of `10 ^ unit` around the number, the one to write: one that lies in the
interval of reals that round to the number, the nearer if both do, none if neither does. The
interval runs from `low` to `high` around `mid`, all in units of `2 ^ scale`. -/
def onGrid (low mid high : Nat) (closed : Bool) (scale unit : Int) (tie : DecimalTie) :
    Option Nat :=
  let binary := scaleBinary 1 1 scale
  let ratio := scaleDecimal binary.1 binary.2 (-unit)
  let below := mid * ratio.1 / ratio.2
  let above := below + 1
  let belowIn := if closed then low * ratio.1 ≤ below * ratio.2 else low * ratio.1 < below * ratio.2
  let aboveIn :=
    if closed then above * ratio.2 ≤ high * ratio.1 else above * ratio.2 < high * ratio.1
  let twice := 2 * mid * ratio.1
  let centre := (below + above) * ratio.2
  if belowIn ∧ aboveIn then
    if twice < centre then some below
    else if centre < twice then some above
    else match tie with
      | .up => some above
      | .even => some (if below % 2 = 0 then below else above)
  else if belowIn then some below
  else if aboveIn then some above
  else none

/-- The fewest digits that read back as the finite number `significand * 2 ^ exponent` of the
format, nearest to it among those. -/
def shortest (f : BinaryFormat) (significand : Nat) (exponent : Int) (tie : DecimalTie) :
    Decimal :=
  if significand = 0 then ⟨[0], 0⟩
  else
    let mid := 4 * significand
    let low := if significand = f.binade ∧ f.minExponent < exponent then mid - 1 else mid - 2
    let high := mid + 2
    let scale := exponent - 2
    let exact := scaleBinary mid 1 scale
    let top := leadingExponent exact.1 exact.2
    let hit := (List.range 17).findSome? fun (n : Nat) =>
      let unit := top - n
      (onGrid low mid high (significand % 2 = 0) scale unit tie).map fun d => ofScaled d unit
    hit.getD (ofScaled mid 0)

def positional (d : Decimal) (pointZero : Bool) : String :=
  let chars := d.digits.map digitChar
  if d.exponent < 0 then
    String.ofList (['0', '.'] ++ List.replicate (-d.exponent - 1).toNat '0' ++ chars)
  else
    let whole := d.exponent.toNat + 1
    let front := chars.take whole ++ List.replicate (whole - chars.length) '0'
    let back := chars.drop whole
    if back.isEmpty then String.ofList (front ++ if pointZero then ['.', '0'] else [])
    else String.ofList (front ++ '.' :: back)

def scientific (d : Decimal) : String :=
  let mantissa := match d.digits.map digitChar with
    | [] => ['0']
    | c :: [] => [c]
    | c :: rest => c :: '.' :: rest
  let power := natText d.exponent.natAbs
  String.ofList mantissa ++ (if d.exponent < 0 then "e-" else "e+") ++ power

end Decimal

/-- How floating-point numbers are written in one kind of text. No exponent is written while that of
the first digit is between `fixedFrom` and `fixedTo`, and `pointZero` tells whether an integral
number ends in `.0`. Infinity and NaN each have a text without and one with the sign bit. -/
structure FloatLayout where
  tie : DecimalTie
  fixedFrom : Option Int
  fixedTo : Option Int
  pointZero : Bool
  infinity : String × String
  nan : String × String

namespace FloatLayout

def isFixed (l : FloatLayout) (exponent : Int) : Bool :=
  l.fixedFrom.all (fun e => e ≤ exponent) && l.fixedTo.all (fun e => exponent ≤ e)

def write (l : FloatLayout) (f : BinaryFormat) (bits : Nat) : String :=
  match f.decode bits with
  | .nan negative _ => if negative then l.nan.2 else l.nan.1
  | .infinite negative => if negative then l.infinity.2 else l.infinity.1
  | .finite negative m e =>
    let d := Decimal.shortest f m e l.tie
    let body := if l.isFixed d.exponent then d.positional l.pointZero else d.scientific
    if negative then "-" ++ body else body

end FloatLayout

/-- A decimal as written: a sign, the digits with the point left out, and the power of ten by
which to scale them. -/
structure DecimalLiteral where
  negative : Bool
  digits : List Char
  power : Int
deriving DecidableEq, Repr

namespace DecimalLiteral

def takeSign : List Char → Bool × List Char
  | '-' :: rest => (true, rest)
  | '+' :: rest => (false, rest)
  | cs => (false, cs)

def readPower? : List Char → Option Int
  | [] => some 0
  | c :: rest =>
    if c = 'e' ∨ c = 'E' then
      let signed := takeSign rest
      (readNat? signed.2).map fun n => if signed.1 then -(n : Int) else n
    else none

/-- Reads `[sign] digits [. digits] [e [sign] digits]`, where digits may be missing on one side of
the point. -/
def read? (cs : List Char) : Option DecimalLiteral :=
  let signed := takeSign cs
  let whole := signed.2.takeWhile isDigit
  let rest := signed.2.dropWhile isDigit
  let fraction := match rest with
    | '.' :: tail => tail.takeWhile isDigit
    | _ => []
  let tail := match rest with
    | '.' :: tail => tail.dropWhile isDigit
    | _ => rest
  if whole ++ fraction = [] then none
  else (readPower? tail).map fun p => ⟨signed.1, whole ++ fraction, p - fraction.length⟩

/-- The nearest bit pattern. Literals whose first digit lies far outside the format's range are
settled by their size alone. -/
def round (f : BinaryFormat) (d : DecimalLiteral) : Nat :=
  let n := charsValue d.digits
  let leading : Int := ((decimalDigits n).length - 1 : Nat) + d.power
  let bound : Int := Nat.pow 2 f.exponentBits
  let size :=
    if n = 0 ∨ leading < -bound then 0
    else if bound < leading then f.infinity
    else
      let ratio := scaleDecimal n 1 d.power
      f.roundSize ratio.1 ratio.2
  f.withSign d.negative size

end DecimalLiteral

end ScriptGraph
