import ScriptGraph.Uuid

/-! JSON documents: the tree of values, its indented text, and the reader. Numbers are kept as they
are written. A string is read whenever it is well formed, but one whose escapes name half of a
surrogate pair stands for no text: such a string can be passed over and not used. -/

namespace ScriptGraph

inductive Json where
  | null
  | bool (b : Bool)
  | number (token : List Char)
  /-- A string, `none` if it stands for no text. -/
  | string (s : Option String)
  | array (items : List Json)
  | object (fields : List (Option String × Json))

namespace Json

def text (s : String) : Json := .string (some s)

def record (fields : List (String × Json)) : Json := .object (fields.map fun f => (some f.1, f.2))

/-- A character inside a string: quotes, backslashes and controls are escaped. -/
def escapeChar (c : Char) : List Char :=
  if c = '"' then ['\\', '"']
  else if c = '\\' then ['\\', '\\']
  else if c = '\n' then ['\\', 'n']
  else if c = '\r' then ['\\', 'r']
  else if c = '\t' then ['\\', 't']
  else if c.toNat = 8 then ['\\', 'b']
  else if c.toNat = 12 then ['\\', 'f']
  else if c.toNat < 32 then ['\\', 'u'] ++ (hexDigits 4 c.toNat).map hexChar
  else [c]

def quoted (s : String) : List Char := '"' :: s.toList.flatMap escapeChar ++ ['"']

def newline (indent : Nat) : List Char := '\n' :: List.replicate indent ' '

mutual

/-- The text of a document at the given indentation: two spaces a level, empty containers closed
at once. -/
def chars (indent : Nat) : Json → List Char
  | .null => ['n', 'u', 'l', 'l']
  | .bool b => if b then ['t', 'r', 'u', 'e'] else ['f', 'a', 'l', 's', 'e']
  | .number token => token
  | .string s => quoted (s.getD "")
  | .array [] => ['[', ']']
  | .array (x :: xs) =>
    '[' :: newline (indent + 2) ++ chars (indent + 2) x ++ itemChars (indent + 2) xs ++
      newline indent ++ [']']
  | .object [] => ['\x7b', '\x7d']
  | .object (f :: fs) =>
    '\x7b' :: newline (indent + 2) ++ fieldChars (indent + 2) f ++ moreFields (indent + 2) fs ++
      newline indent ++ ['\x7d']

def itemChars (indent : Nat) : List Json → List Char
  | [] => []
  | x :: xs => ',' :: newline indent ++ chars indent x ++ itemChars indent xs

def fieldChars (indent : Nat) : Option String × Json → List Char
  | (key, value) => quoted (key.getD "") ++ [':', ' '] ++ chars indent value

def moreFields (indent : Nat) : List (Option String × Json) → List Char
  | [] => []
  | f :: fs => ',' :: newline indent ++ fieldChars indent f ++ moreFields indent fs

end

def render (j : Json) : String := String.ofList (chars 0 j)

end Json

end ScriptGraph
