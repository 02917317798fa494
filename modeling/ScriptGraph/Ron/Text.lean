import ScriptGraph.Ron.Basic

/-! The parts of RON text below values: blanks and comments, identifiers, strings and characters.
Every reader takes what it needs off the front and returns the rest. -/

namespace ScriptGraph

namespace Ron

def isBlank (c : Char) : Bool :=
  c = ' ' || c = '\t' || c = '\n' || c = '\r' || c.toNat = 0x0b || c.toNat = 0x0c ||
    c.toNat = 0x85 || c.toNat = 0x200e || c.toNat = 0x200f || c.toNat = 0x2028 || c.toNat = 0x2029

/-- Where one stands while blanks are skipped: between tokens, in a comment that ends with the
line, or in block comments nested to some depth. -/
inductive BlankState where
  | between
  | line
  | block (depth : Nat)

/-- Skips blanks and comments. A block comment that is not closed, or a lone slash, is an error. -/
def skipFrom : BlankState → List Char → Option (List Char)
  | .between, [] => some []
  | .between, '/' :: '/' :: rest => skipFrom .line rest
  | .between, '/' :: '*' :: rest => skipFrom (.block 0) rest
  | .between, c :: rest =>
    if c = '/' then none else if isBlank c then skipFrom .between rest else some (c :: rest)
  | .line, [] => some []
  | .line, c :: rest => skipFrom (if c = '\n' then .between else .line) rest
  | .block _, [] => none
  | .block depth, '/' :: '*' :: rest => skipFrom (.block (depth + 1)) rest
  | .block depth, '*' :: '/' :: rest =>
    skipFrom (match depth with
      | 0 => .between
      | depth + 1 => .block depth) rest
  | .block depth, _ :: rest => skipFrom (.block depth) rest

def skipBlanks (cs : List Char) : Option (List Char) := skipFrom .between cs

/-- Skips a comma and the blanks around it. Yields whether there was one. -/
def skipComma (cs : List Char) : Option (Bool × List Char) :=
  match skipBlanks cs with
  | some (',' :: rest) => (skipBlanks rest).map fun rest => (true, rest)
  | some rest => some (false, rest)
  | none => none

def takeChar (c : Char) : List Char → Option (List Char)
  | d :: rest => if d = c then some rest else none
  | [] => none

/-- Takes a word off the front that no identifier goes on from. -/
def takeName (name : String) (cs : List Char) : Option (List Char) :=
  let rest := cs.drop name.length
  if name.toList.isPrefixOf cs && !rest.head?.any isIdentifierPart then some rest else none

/-- Whether text that could begin an identifier begins a string or a byte instead. -/
def beginsLiteral : List Char → Bool
  | 'b' :: '"' :: _ => true
  | 'b' :: '\'' :: _ => true
  | 'b' :: 'r' :: '#' :: _ => true
  | 'b' :: 'r' :: '"' :: _ => true
  | 'r' :: '"' :: _ => true
  | 'r' :: '#' :: '"' :: _ => true
  | 'r' :: '#' :: '#' :: _ => true
  | _ => false

def isRawIdentifierPart (c : Char) : Bool :=
  isIdentifierPart c || c = '.' || c = '+' || c = '-'

/-- Reads an identifier as it is written. A raw one, after `r#`, may hold a few characters more. -/
def readIdentifier? (cs : List Char) : Option (String × List Char) :=
  if beginsLiteral cs then none
  else
    match cs with
    | 'r' :: '#' :: rest =>
      let name := rest.takeWhile isRawIdentifierPart
      if name = [] then none
      else some (String.ofList ('r' :: '#' :: name), rest.dropWhile isRawIdentifierPart)
    | c :: rest =>
      if isIdentifierStart c then
        some (String.ofList (c :: rest.takeWhile isIdentifierPart), rest.dropWhile isIdentifierPart)
      else none
    | [] => none

/-- An identifier without the mark of a raw one. -/
def plainName (ident : String) : String :=
  match ident.toList with
  | 'r' :: '#' :: rest => String.ofList rest
  | _ => ident

def simpleEscape? (c : Char) : Option Char :=
  match c with
  | '\'' => some '\''
  | '"' => some '"'
  | '\\' => some '\\'
  | 'n' => some '\n'
  | 'r' => some '\r'
  | 't' => some '\t'
  | '0' => some (Char.ofNat 0)
  | _ => none

def charOfCode? (n : Nat) : Option Char := if n.isValidChar then some (Char.ofNat n) else none

/-- The character that some bytes encode in UTF-8, if they encode one. -/
def charOfBytes? (bytes : List UInt8) : Option Char :=
  (String.fromUTF8? ⟨bytes.toArray⟩).bind fun s => s.toList.head?

/-- Where one stands inside a string: between characters, in the middle of a character that is
given byte by byte, or among the digits of a code point. -/
inductive StringState where
  | plain
  | bytes (pending : List UInt8)
  | code (value digits : Nat)

/-- Why no string can be read: what stands there is none, or the document ends within it. -/
inductive StringFault where
  | malformed
  | unterminated
deriving DecidableEq, Repr

/-- What a string holds, and what stands behind it. -/
abbrev StringResult := Except StringFault (List Char × List Char)

/-- Puts a character in front of what was read. -/
def consChar (c : Char) (r : List Char × List Char) : List Char × List Char := (c :: r.1, r.2)

/-- The fault of a byte escape at the end of the document that has lost a digit or both. -/
def cutByteFault (digits : List Char) : StringFault :=
  if (readHex? digits).isSome then .unterminated else .malformed

/-- Reads a string up to and with its closing quote. In a string of bytes every byte escape stands
for itself; in a text a byte escape past ASCII begins a character that further ones complete. -/
def stringBody (binary : Bool) : StringState → List Char → StringResult
  | .plain, [] => .error .unterminated
  | .bytes _, [] => .error .malformed
  | .code _ digits, [] => .error (if digits < 6 then .unterminated else .malformed)
  | .code value digits, c :: rest =>
    if c = '\x7d' then
      if digits = 0 then .error .malformed
      else
        match charOfCode? value with
        | some e => (stringBody binary .plain rest).map (consChar e)
        | none => .error .malformed
    else
      match charHex? c with
      | some d =>
        if digits < 6 then stringBody binary (.code (value * 16 + d) (digits + 1)) rest
        else .error .malformed
      | none => .error .malformed
  | .bytes pending, '\\' :: 'x' :: a :: b :: rest =>
    match readHex? [a, b] with
    | none => .error .malformed
    | some n =>
      let bytes := pending ++ [UInt8.ofNat n]
      match charOfBytes? bytes with
      | some e => (stringBody binary .plain rest).map (consChar e)
      | none =>
        if bytes.length < 4 then stringBody binary (.bytes bytes) rest else .error .malformed
  | .bytes _, '\\' :: 'x' :: digits => .error (cutByteFault digits)
  | .bytes _, _ :: _ => .error .malformed
  | .plain, '"' :: rest => .ok ([], rest)
  | .plain, '\\' :: 'u' :: '\x7b' :: rest => stringBody binary (.code 0 0) rest
  | .plain, '\\' :: 'x' :: a :: b :: rest =>
    match readHex? [a, b] with
    | none => .error .malformed
    | some n =>
      if n < 128 || binary then (stringBody binary .plain rest).map (consChar (Char.ofNat n))
      else stringBody binary (.bytes [UInt8.ofNat n]) rest
  | .plain, '\\' :: 'x' :: digits => .error (cutByteFault digits)
  | .plain, '\\' :: c :: rest =>
    match simpleEscape? c with
    | some e => (stringBody binary .plain rest).map (consChar e)
    | none => .error .malformed
  | .plain, c :: rest =>
    if c = '\\' then .error .unterminated else (stringBody binary .plain rest).map (consChar c)

/-- Reads a raw string up to and with the quote that as many hashes follow as came before it. -/
def rawBody (hashes : Nat) : List Char → StringResult
  | [] => .error .unterminated
  | c :: rest =>
    if c = '"' && rest.take hashes = List.replicate hashes '#' then .ok ([], rest.drop hashes)
    else (rawBody hashes rest).map (consChar c)

def rawString (cs : List Char) : StringResult :=
  let hashes := (cs.takeWhile (· = '#')).length
  match cs.drop hashes with
  | '"' :: rest => rawBody hashes rest
  | _ => .error .malformed

def readString : List Char → StringResult
  | '"' :: rest => stringBody false .plain rest
  | 'r' :: rest => rawString rest
  | _ => .error .malformed

def readByteString : List Char → StringResult
  | 'b' :: '"' :: rest => stringBody true .plain rest
  | 'b' :: 'r' :: rest => rawString rest
  | _ => .error .malformed

def readString? (cs : List Char) : Option (String × List Char) :=
  (readString cs).toOption.map fun r => (String.ofList r.1, r.2)

def skipByteString (cs : List Char) : Option (List Char) :=
  (readByteString cs).toOption.map Prod.snd

/-- Passes over what follows a backslash in the literal of one character, or of one byte, which
has no name by its code point. -/
def skipEscape (binary : Bool) : List Char → Option (List Char)
  | 'x' :: a :: b :: rest =>
    (readHex? [a, b]).bind fun n => if n < 128 || binary then some rest else none
  | 'u' :: '\x7b' :: rest =>
    let digits := rest.takeWhile fun c => c ≠ '\x7d'
    if binary || digits = [] || 6 < digits.length then none
    else do
      let _ ← (readHex? digits).bind charOfCode?
      takeChar '\x7d' (rest.drop digits.length)
  | c :: rest => (simpleEscape? c).map fun _ => rest
  | [] => none

/-- Passes over the literal of a character. -/
def skipCharacter : List Char → Option (List Char)
  | '\'' :: '\\' :: rest => (skipEscape false rest).bind (takeChar '\'')
  | '\'' :: _ :: rest => takeChar '\'' rest
  | _ => none

/-- Passes over the literal of a byte, which shows an ASCII character. -/
def skipByte : List Char → Option (List Char)
  | 'b' :: '\'' :: '\\' :: rest => (skipEscape true rest).bind (takeChar '\'')
  | 'b' :: '\'' :: c :: rest => if c.toNat < 128 then takeChar '\'' rest else none
  | _ => none

end Ron

end ScriptGraph
