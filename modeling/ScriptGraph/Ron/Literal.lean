import ScriptGraph.Ron.Text

/-! Number literals in RON: integers in four bases, decimal floats and the names of infinity and
NaN, each with an optional suffix that names a type. -/

namespace ScriptGraph

namespace Ron

def isIntChar (c : Char) : Bool := (charHex? c).isSome || c = '_'

def isFloatChar (c : Char) : Bool :=
  isDigit c || c = 'e' || c = 'E' || c = '.' || c = '+' || c = '-' || c = '_'

def takeBase : List Char → Nat × List Char
  | '0' :: 'x' :: rest => (16, rest)
  | '0' :: 'b' :: rest => (2, rest)
  | '0' :: 'o' :: rest => (8, rest)
  | cs => (10, cs)

/-- The number that digits denote in a base; underscores between them are passed over. -/
def digitsInBase? (base : Nat) (cs : List Char) : Option Nat :=
  (cs.filter fun c => c ≠ '_').foldlM
    (fun acc c => ((charHex? c).filter fun d => d < base).map (acc * base + ·)) 0

def readDigits? (cs : List Char) : Option (Nat × List Char) :=
  let based := takeBase cs
  let digits := based.2.takeWhile isIntChar
  if digits = [] || digits.head? = some '_' then none
  else (digitsInBase? based.1 digits).map fun n => (n, based.2.dropWhile isIntChar)

structure IntegerType where
  suffix : String
  low : Int
  high : Int
deriving DecidableEq, Repr

def IntegerType.holds (t : IntegerType) (i : Int) : Bool := t.low ≤ i && i ≤ t.high

def unsigned32 : IntegerType := ⟨"u32", 0, 0xffffffff⟩

def unsigned64 : IntegerType := ⟨"u64", 0, 0xffffffffffffffff⟩

def signed64 : IntegerType := ⟨"i64", -0x8000000000000000, 0x7fffffffffffffff⟩

def integerTypes : List IntegerType :=
  [⟨"i8", -0x80, 0x7f⟩, ⟨"i16", -0x8000, 0x7fff⟩, ⟨"i32", -0x80000000, 0x7fffffff⟩, signed64,
    ⟨"u8", 0, 0xff⟩, ⟨"u16", 0, 0xffff⟩, unsigned32, unsigned64]

def takeSuffix? (cs : List Char) : Option (IntegerType × List Char) :=
  integerTypes.findSome? fun t => (takeName t.suffix cs).map fun rest => (t, rest)

structure IntegerLiteral where
  value : Int
  type? : Option IntegerType
deriving DecidableEq, Repr

/-- Reads `[sign] [0x | 0b | 0o] digits [suffix]`. A suffix is looked for where the first run of
digits, in whatever base, ends, so that none can follow `0x` or `0o`. -/
def readInteger? (cs : List Char) : Option (IntegerLiteral × List Char) := do
  let signed := DecimalLiteral.takeSign cs
  let (n, rest) ← readDigits? signed.2
  let value : Int := if signed.1 then -(n : Int) else n
  match takeSuffix? (signed.2.dropWhile isIntChar) with
  | some (t, rest) => if t.holds value then some (⟨value, some t⟩, rest) else none
  | none => some (⟨value, none⟩, rest)

/-- The integer that a literal stands for where one of a type is asked for; another suffix is
refused. -/
def IntegerLiteral.as? (i : IntegerLiteral) (t : IntegerType) : Option Int :=
  if i.type?.all (· = t) && t.holds i.value then some i.value else none

/-- Drops underscores, which may follow a digit or an exponent mark, directly or not, but neither
begin the literal nor come right after the point. -/
def dropUnderscores (allowed : Bool) : List Char → Option (List Char)
  | [] => some []
  | c :: rest =>
    if c = '_' then if allowed then dropUnderscores true rest else none
    else
      let allowed' :=
        if isDigit c || c = 'e' || c = 'E' then true else if c = '.' then false else allowed
      (dropUnderscores allowed' rest).map (c :: ·)

inductive FloatSuffix where
  | single
  | double
deriving DecidableEq, Repr

def FloatSuffix.text : FloatSuffix → String
  | .single => "f32"
  | .double => "f64"

def takeFloatSuffix? (cs : List Char) : Option (FloatSuffix × List Char) :=
  [FloatSuffix.single, .double].findSome? fun s =>
    (takeName s.text cs).map fun rest => (s, rest)

/-- The names that stand for infinity and NaN, each without and with a sign, and their patterns. -/
def namedFloats : List (String × Single) :=
  [("inf", ⟨0x7f800000⟩), ("+inf", ⟨0x7f800000⟩), ("-inf", ⟨0xff800000⟩),
    ("NaN", ⟨0x7fc00000⟩), ("+NaN", ⟨0x7fc00000⟩), ("-NaN", ⟨0xffc00000⟩)]

structure FloatLiteral where
  value : Single
  suffix : Option FloatSuffix
deriving DecidableEq, Repr

/-- Reads a name of infinity or NaN, which the suffix may follow directly. -/
def readNamedFloat? (cs : List Char) : Option (FloatLiteral × List Char) :=
  namedFloats.findSome? fun n =>
    match takeName n.1 cs with
    | some rest => some (⟨n.2, none⟩, rest)
    | none =>
      [FloatSuffix.single, .double].findSome? fun s =>
        (takeName (n.1 ++ s.text) cs).map fun rest => (⟨n.2, some s⟩, rest)

def readDecimal? (cs : List Char) : Option (FloatLiteral × List Char) := do
  let plain ← dropUnderscores false (cs.takeWhile isFloatChar)
  let d ← DecimalLiteral.read? plain
  let rest := cs.dropWhile isFloatChar
  match takeFloatSuffix? rest with
  | some (s, rest) => some (⟨Single.ofDecimal d, some s⟩, rest)
  | none => some (⟨Single.ofDecimal d, none⟩, rest)

def readFloat? (cs : List Char) : Option (FloatLiteral × List Char) :=
  match readNamedFloat? cs with
  | some r => some r
  | none => readDecimal? cs

/-- Whether a number is surely a float: after the sign, characters of a float go on for longer than
those of an integer. -/
def looksLikeFloat (cs : List Char) : Bool :=
  let unsigned := (DecimalLiteral.takeSign cs).2
  (unsigned.takeWhile isIntChar).length < (unsigned.takeWhile isFloatChar).length

/-- Passes over an integer that some type holds. -/
def skipInteger (cs : List Char) : Option (List Char) := do
  let (i, rest) ← readInteger? cs
  if i.type?.isSome || signed64.holds i.value || unsigned64.holds i.value then some rest else none

/-- Passes over a number of any type. An integer that is too large counts as a float. -/
def skipNumber (cs : List Char) : Option (List Char) :=
  if looksLikeFloat cs then (readFloat? cs).map Prod.snd
  else
    match skipInteger cs with
    | some rest => some rest
    | none => (readFloat? cs).map Prod.snd

end Ron

end ScriptGraph
