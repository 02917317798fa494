import ScriptGraph.Json.Basic

/-! Reading JSON. The reader is strict: no comments, no trailing commas, nothing but blanks after
the document. It recurses on fuel that the length of the input bounds. -/

namespace ScriptGraph

namespace Json

def isBlank (c : Char) : Bool := c = ' ' || c = '\n' || c = '\t' || c = '\r'

def skipBlanks (cs : List Char) : List Char := cs.dropWhile isBlank

def isNumberChar (c : Char) : Bool :=
  isDigit c || c = '+' || c = '-' || c = '.' || c = 'e' || c = 'E'

/-- A number as written: sign, digits before and after the point, and the exponent part. -/
structure NumberParts where
  negative : Bool
  whole : List Char
  fraction : List Char
  /-- The sign and the digits of the exponent. -/
  exponent : Option (Bool × List Char)

/-- Reads an exponent part that makes up the whole text. -/
def readExponent? : List Char → Option (Option (Bool × List Char))
  | [] => some none
  | c :: rest =>
    let signed := DecimalLiteral.takeSign rest
    if (c = 'e' || c = 'E') && signed.2 ≠ [] && signed.2.all isDigit then some (some signed)
    else none

/-- Reads `[-] digits [. digits] [e [sign] digits]` that makes up the whole text; a first digit zero
stands alone before the point. -/
def numberParts? (token : List Char) : Option NumberParts :=
  let negative := token.head? = some '-'
  let body := if negative then token.drop 1 else token
  let whole := body.takeWhile isDigit
  let rest := body.dropWhile isDigit
  let leadingZero := whole.head? = some '0' && 1 < whole.length
  if whole = [] || leadingZero then none
  else
    match rest with
    | '.' :: tail =>
      let fraction := tail.takeWhile isDigit
      if fraction = [] then none
      else (readExponent? (tail.dropWhile isDigit)).map fun e => ⟨negative, whole, fraction, e⟩
    | _ => (readExponent? rest).map fun e => ⟨negative, whole, [], e⟩

/-- The character of a one-letter escape. -/
def simpleEscape? (c : Char) : Option Char :=
  match c with
  | '"' => some '"'
  | '\\' => some '\\'
  | '/' => some '/'
  | 'b' => some (Char.ofNat 8)
  | 'f' => some (Char.ofNat 12)
  | 'n' => some '\n'
  | 'r' => some '\r'
  | 't' => some '\t'
  | _ => none

/-- The first and the second half of a surrogate pair. -/
def isHighSurrogate (n : Nat) : Bool := 0xd800 ≤ n && n ≤ 0xdbff

def isLowSurrogate (n : Nat) : Bool := 0xdc00 ≤ n && n ≤ 0xdfff

/-- Puts a character in front of a string, if the string stands for a text. -/
def consChar (c : Char) (r : Option (List Char) × List Char) : Option (List Char) × List Char :=
  (r.1.map (c :: ·), r.2)

/-- The same rest, for a string that stands for no text. -/
def lost (r : Option (List Char) × List Char) : Option (List Char) × List Char := (none, r.2)

/-- Reads a string up to and with its closing quote. `high` is the first half of a surrogate pair
that has just been read. -/
def stringBody (high : Option Nat) : List Char → Option (Option (List Char) × List Char)
  | [] => none
  | '"' :: rest => some (if high.isSome then none else some [], rest)
  | '\\' :: 'u' :: a :: b :: c :: d :: rest =>
    match readHex? [a, b, c, d] with
    | none => none
    | some n =>
      match high with
      | some h =>
        if isLowSurrogate n then
          (stringBody none rest).map
            (consChar (Char.ofNat ((h - 0xd800) * 0x400 + (n - 0xdc00) + 0x10000)))
        else (stringBody none rest).map lost
      | none =>
        if isHighSurrogate n then stringBody (some n) rest
        else if isLowSurrogate n then (stringBody none rest).map lost
        else (stringBody none rest).map (consChar (Char.ofNat n))
  | '\\' :: c :: rest =>
    match simpleEscape? c with
    | none => none
    | some e =>
      (stringBody none rest).map fun r => if high.isSome then lost r else consChar e r
  | c :: rest =>
    if c.toNat < 32 || c = '\\' then none
    else (stringBody none rest).map fun r => if high.isSome then lost r else consChar c r

def readString (cs : List Char) : Option (Option String × List Char) :=
  (stringBody none cs).map fun r => (r.1.map String.ofList, r.2)

def takeWord (word cs : List Char) : Option (List Char) :=
  if word.isPrefixOf cs then some (cs.drop word.length) else none

mutual

/-- Reads a value at the front, blanks before it included. -/
def readValue (fuel : Nat) (cs : List Char) : Option (Json × List Char) :=
  match fuel with
  | 0 => none
  | fuel + 1 =>
    match skipBlanks cs with
    | [] => none
    | '"' :: rest => (readString rest).map fun r => (.string r.1, r.2)
    | '[' :: rest =>
      match skipBlanks rest with
      | ']' :: rest => some (.array [], rest)
      | _ => (readItems fuel rest).map fun r => (.array r.1, r.2)
    | '\x7b' :: rest =>
      match skipBlanks rest with
      | '\x7d' :: rest => some (.object [], rest)
      | _ => (readFields fuel rest).map fun r => (.object r.1, r.2)
    | 'n' :: rest => (takeWord ['u', 'l', 'l'] rest).map fun rest => (.null, rest)
    | 't' :: rest => (takeWord ['r', 'u', 'e'] rest).map fun rest => (.bool true, rest)
    | 'f' :: rest => (takeWord ['a', 'l', 's', 'e'] rest).map fun rest => (.bool false, rest)
    | c :: rest =>
      let token := (c :: rest).takeWhile isNumberChar
      if (numberParts? token).isSome then some (.number token, (c :: rest).dropWhile isNumberChar)
      else none

/-- Reads the items of an array, of which there is at least one, and the closing bracket. -/
def readItems (fuel : Nat) (cs : List Char) : Option (List Json × List Char) :=
  match fuel with
  | 0 => none
  | fuel + 1 =>
    match readValue fuel cs with
    | none => none
    | some (x, rest) =>
      match skipBlanks rest with
      | ',' :: rest => (readItems fuel rest).map fun r => (x :: r.1, r.2)
      | ']' :: rest => some ([x], rest)
      | _ => none

/-- Reads the fields of an object, of which there is at least one, and the closing brace. -/
def readFields (fuel : Nat) (cs : List Char) :
    Option (List (Option String × Json) × List Char) :=
  match fuel with
  | 0 => none
  | fuel + 1 =>
    match skipBlanks cs with
    | '"' :: rest =>
      match readString rest with
      | none => none
      | some (key, rest) =>
        match skipBlanks rest with
        | ':' :: rest =>
          match readValue fuel rest with
          | none => none
          | some (value, rest) =>
            match skipBlanks rest with
            | ',' :: rest => (readFields fuel rest).map fun r => ((key, value) :: r.1, r.2)
            | '\x7d' :: rest => some ([(key, value)], rest)
            | _ => none
        | _ => none
    | _ => none

end

def parse? (s : String) : Option Json :=
  let cs := s.toList
  match readValue (2 * cs.length + 2) cs with
  | some (j, rest) => if skipBlanks rest = [] then some j else none
  | none => none

end Json

end ScriptGraph
