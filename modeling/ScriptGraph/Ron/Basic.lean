import ScriptGraph.Number.Single
import ScriptGraph.Text.Classes
import ScriptGraph.Uuid

/-! RON documents to be written: the tree of values and its indented text. -/

namespace ScriptGraph

inductive Ron where
  | number (token : List Char)
  | string (s : String)
  | list (items : List Ron)
  | map (entries : List (Ron × Ron))
  | name (ident : String)
  /-- Positional items in parentheses, with or without a name before them. -/
  | tuple (label : Option String) (items : List Ron)
  /-- Named fields in parentheses, with or without a name before them. -/
  | record (label : Option String) (fields : List (String × Ron))

namespace Ron

/-- The hexadecimal digits of a number without leading zeros. -/
def hexText (n : Nat) : List Char :=
  if n < 16 then [hexChar n] else hexText (n / 16) ++ [hexChar (n % 16)]

/-- A character inside a string. Quotes of both kinds, backslashes and some controls have escapes
of one letter; all else that has no visible form of its own is written by its code point. -/
def escapeChar (c : Char) : List Char :=
  if c.toNat = 0 then ['\\', '0']
  else if c = '\t' then ['\\', 't']
  else if c = '\r' then ['\\', 'r']
  else if c = '\n' then ['\\', 'n']
  else if c = '\\' then ['\\', '\\']
  else if c = '"' then ['\\', '"']
  else if c = '\'' then ['\\', '\'']
  else if isCombining c || !isPrintable c then
    ['\\', 'u', '\x7b'] ++ hexText c.toNat ++ ['\x7d']
  else [c]

def quoted (s : String) : List Char := '"' :: s.toList.flatMap escapeChar ++ ['"']

/-- Floats in documents: the fewest digits that read back, a tie going up, never an exponent, and
always a point in a finite one. -/
def floatLayout : FloatLayout where
  tie := .up
  fixedFrom := none
  fixedTo := none
  pointZero := true
  infinity := ("inf", "-inf")
  nan := ("NaN", "-NaN")

def single (x : Single) : Ron := .number (x.write floatLayout).toList

def double (x : Double) : Ron := .number (x.write floatLayout).toList

def nat (n : Nat) : Ron := .number (natChars n)

def int (i : Int) : Ron := .number (if i < 0 then '-' :: natChars i.natAbs else natChars i.natAbs)

def bool (b : Bool) : Ron := .name (if b then "true" else "false")

def option {α : Type} (item : α → Ron) : Option α → Ron
  | some a => .tuple (some "Some") [item a]
  | none => .name "None"

/-- One item behind the name of its type or of a case of it. -/
def wrapped (label : String) (item : Ron) : Ron := .tuple (some label) [item]

def newline (level : Nat) : List Char := '\n' :: List.replicate (4 * level) ' '

def nameChars : Option String → List Char
  | some n => n.toList
  | none => []

mutual

/-- The text of a document at the given level. Records, lists and maps put each item on a line of
its own with a comma after it, tuples stay on one line. -/
def chars (level : Nat) : Ron → List Char
  | .number token => token
  | .string s => quoted s
  | .list [] => ['[', ']']
  | .list (x :: xs) => '[' :: itemLines (level + 1) (x :: xs) ++ newline level ++ [']']
  | .map [] => ['\x7b', '\x7d']
  | .map (e :: es) => '\x7b' :: entryLines (level + 1) (e :: es) ++ newline level ++ ['\x7d']
  | .name ident => ident.toList
  | .tuple label items => nameChars label ++ '(' :: itemsInline level items ++ [')']
  | .record label [] => nameChars label ++ ['(', ')']
  | .record label (f :: fs) =>
    nameChars label ++ '(' :: fieldLines (level + 1) (f :: fs) ++ newline level ++ [')']

def itemLines (level : Nat) : List Ron → List Char
  | [] => []
  | x :: xs => newline level ++ chars level x ++ ',' :: itemLines level xs

def entryLines (level : Nat) : List (Ron × Ron) → List Char
  | [] => []
  | e :: es => newline level ++ entryChars level e ++ ',' :: entryLines level es

def entryChars (level : Nat) : Ron × Ron → List Char
  | (key, value) => chars level key ++ [':', ' '] ++ chars level value

def fieldLines (level : Nat) : List (String × Ron) → List Char
  | [] => []
  | f :: fs => newline level ++ fieldChars level f ++ ',' :: fieldLines level fs

def fieldChars (level : Nat) : String × Ron → List Char
  | (key, value) => key.toList ++ [':', ' '] ++ chars level value

/-- Items on one line, parted by commas. -/
def itemsInline (level : Nat) : List Ron → List Char
  | [] => []
  | [x] => chars level x
  | x :: y :: ys => chars level x ++ ',' :: ' ' :: itemsInline level (y :: ys)

end

def render (r : Ron) : String := String.ofList (chars 0 r)

end Ron

end ScriptGraph
