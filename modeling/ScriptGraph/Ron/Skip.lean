import ScriptGraph.Ron.Context

/-! Passing over values that nobody asked for. Such a value must be well formed all the same. The
skipper recurses on the room that is left for nesting. -/

namespace ScriptGraph

namespace Ron

/-- Passes over a value. It is told whether the value shares the parentheses of the case it belongs
to. -/
abbrev Skipper := Bool → List Char → Option (List Char)

def tooDeep : Skipper := fun _ _ => none

inductive CaseShape where
  | named
  | several
  | single
deriving DecidableEq, Repr

def shapeAfterComma (cs : List Char) : Option CaseShape :=
  (skipBlanks cs).map fun cs => if cs.head? = some ')' then .single else .several

/-- The text without the string at its front, if there is one; none if one begins there that never
ends. -/
def dropString (read : List Char → StringResult) (cs : List Char) : Option (List Char) :=
  match read cs with
  | .ok r => some r.2
  | .error .malformed => some cs
  | .error .unterminated => none

/-- Looks ahead for a comma outside all inner brackets, of which `depth` are open. -/
def scanShape : Nat → Nat → List Char → Option CaseShape
  | 0, _, _ => none
  | fuel + 1, depth, cs => do
    let cs ← skipBlanks cs
    let cs ← dropString readString ((skipCharacter cs).getD cs)
    match ← dropString readByteString cs with
    | [] => none
    | c :: rest =>
      if c = '(' || c = '[' || c = '\x7b' then scanShape fuel (depth + 1) rest
      else if c = ')' || c = ']' || c = '\x7d' then
        if depth = 0 then some .single else scanShape fuel (depth - 1) rest
      else if c = ',' && depth = 0 then shapeAfterComma rest
      else scanShape fuel depth rest

/-- The shape of what the parentheses of a case enclose, decided by looking ahead. -/
def shapeOf? (size : Nat) (cs : List Char) : Option CaseShape := do
  let cs ← skipBlanks cs
  match readIdentifier? cs with
  | none => scanShape (size + 1) 0 cs
  | some (_, rest) =>
    match ← skipBlanks rest with
    | ':' :: _ => some .named
    | ',' :: rest => shapeAfterComma rest
    | ')' :: _ => some .single
    | rest => scanShape (size + 1) 0 rest

/-- What a skipper works with: the extensions and the length of the document, whether brackets may
be entered at all, and the skippers for values one and two levels deeper. -/
structure SkipScope where
  extensions : RonExtensions
  size : Nat
  enter : Bool
  inner : Skipper
  item : Skipper

namespace SkipScope

def skipItem (s : SkipScope) (cs : List Char) : Option (Unit × List Char) :=
  (s.item false cs).map fun rest => ((), rest)

def skipEntry (s : SkipScope) (cs : List Char) : Option (Unit × List Char) :=
  readEntry s.skipItem (fun _ => s.skipItem) cs

def skipField (s : SkipScope) (cs : List Char) : Option (Unit × List Char) :=
  readEntry readIdentifier? (fun _ => s.skipItem) cs

/-- Passes over items up to the closing bracket, which is left in place. -/
def skipItems (s : SkipScope) (item : List Char → Option (Unit × List Char)) (close : Char)
    (cs : List Char) : Option (List Char) :=
  if s.enter then (readItems item close (s.size + 1) true cs).map Prod.snd else none

def skipBracketed (s : SkipScope) (item : List Char → Option (Unit × List Char)) (close : Char)
    (cs : List Char) : Option (List Char) :=
  (s.skipItems item close cs).bind (takeChar close)

def skipBody (s : SkipScope) (cs : List Char) : Option (List Char) := do
  let inner ← skipBlanks cs
  if beginsFields inner then s.skipBracketed s.skipField ')' inner
  else s.skipBracketed s.skipItem ')' inner

/-- Passes over what follows `Some`: an item in parentheses, or one without where that is
enabled. -/
def skipSome (s : SkipScope) (cs : List Char) : Option (List Char) := do
  match ← skipBlanks cs with
  | '(' :: inner =>
    let rest ← (skipBlanks inner).bind (s.inner s.extensions.unwrapCases)
    let (_, rest) ← skipComma rest
    takeChar ')' rest
  | rest => if s.extensions.implicitSome then s.inner false rest else none

def wholeNames : List String :=
  ["true", "false", "None", "inf", "inff32", "inff64", "NaN", "NaNf32", "NaNf64"]

def skipNamed (s : SkipScope) (ident : String) (cs : List Char) : Option (List Char) :=
  if ident ∈ wholeNames then some cs
  else if ident = "Some" then s.skipSome cs
  else do
    match ← skipBlanks cs with
    | '(' :: inner => s.skipBody inner
    | rest => some rest

def skipUnnamed (s : SkipScope) : List Char → Option (List Char)
  | '(' :: ')' :: rest => some rest
  | '(' :: inner => s.skipBody inner
  | '[' :: inner => s.skipBracketed s.skipItem ']' inner
  | '\x7b' :: inner => s.skipBracketed s.skipEntry '\x7d' inner
  | 'b' :: '\'' :: rest => skipByte ('b' :: '\'' :: rest)
  | 'b' :: rest => skipByteString ('b' :: rest)
  | '\'' :: rest => skipCharacter ('\'' :: rest)
  | c :: rest =>
    if c = '"' || c = 'r' then (readString? (c :: rest)).map Prod.snd
    else if isDigit c || c = '+' || c = '-' || c = '.' then skipNumber (c :: rest)
    else none
  | [] => none

def skipWhole (s : SkipScope) (cs : List Char) : Option (List Char) :=
  match readIdentifier? cs with
  | some (ident, rest) => s.skipNamed ident rest
  | none => s.skipUnnamed cs

/-- Passes over a value. One that shares the parentheses of its case may be empty, may consist of
fields or of several items, or else stands there as it would anywhere. -/
def skip (s : SkipScope) : Skipper := fun shared cs =>
  if shared && cs.head? ≠ some ')' then do
    match ← shapeOf? s.size cs with
    | .named => s.skipItems s.skipField ')' cs
    | .several => s.skipItems s.skipItem ')' cs
    | .single => s.skipWhole cs
  else if shared then some cs
  else s.skipWhole cs

end SkipScope

def skipValue (e : RonExtensions) (size : Nat) : Nat → Skipper
  | 0 => SkipScope.skip ⟨e, size, false, tooDeep, tooDeep⟩
  | 1 => SkipScope.skip ⟨e, size, true, skipValue e size 0, tooDeep⟩
  | room + 2 =>
    SkipScope.skip ⟨e, size, true, skipValue e size (room + 1), skipValue e size room⟩

end Ron

def RonReader.ignored : RonReader Unit := fun ctx cs =>
  (Ron.skipValue ctx.extensions ctx.size ctx.room false cs).map fun rest => ((), rest)

end ScriptGraph
