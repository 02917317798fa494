import ScriptGraph.Ron.Skip
import ScriptGraph.Table

/-! Reading RON by the types that are asked for. A record is described by its fields, which may
come in any order; fields that the description does not know are passed over. A document may begin
with attributes that enable extensions. -/

namespace ScriptGraph

namespace RonReader

open Ron

variable {α : Type}

def text : RonReader String := fun _ cs => readString? cs

def bool : RonReader Bool := fun _ cs =>
  match takeName "true" cs with
  | some rest => some (true, rest)
  | none => (takeName "false" cs).map fun rest => (false, rest)

def integer (t : IntegerType) : RonReader Int := fun _ cs => do
  let (i, rest) ← readInteger? cs
  let n ← i.as? t
  return (n, rest)

def word : RonReader UInt32 := (integer unsigned32).map fun i => UInt32.ofNat i.toNat

def longWord : RonReader UInt64 := (integer unsigned64).map fun i => UInt64.ofNat i.toNat

def int64 : RonReader Int64 := (integer signed64).map Int64.ofInt

def single : RonReader Single := fun _ cs => do
  let (x, rest) ← readFloat? cs
  if x.suffix = some .double then none else some (x.value, rest)

/-- Reads what stands between an opening and a closing bracket, one level deeper. -/
def enclosed (opening closing : Char) (body : RonReader α) : RonReader α := fun ctx cs => do
  let (a, rest) ← (takeChar opening cs).bind (body.nested ctx)
  let rest ← (skipBlanks rest).bind (takeChar closing)
  return (a, rest)

def list (item : RonReader α) : RonReader (List α) :=
  enclosed '[' ']' fun ctx => readItems (item.nested ctx) ']' (ctx.size + 1) true

/-- Reads the entries of a map with texts for keys; a repeated key overwrites. -/
def table (item : RonReader α) : RonReader (Table String α) :=
  enclosed '\x7b' '\x7d' fun ctx cs =>
    let entry := readEntry (text.nested ctx) fun key => (item.map fun x => (key, x)).nested ctx
    (readItems entry '\x7d' (ctx.size + 1) true cs).map fun r => (.ofList r.1, r.2)

/-- Reads an item of a tuple, and the comma after it. `comma` tells whether one came before. -/
def component (item : RonReader α) (comma : Bool) : RonReader (α × Bool) := fun ctx cs => do
  let cs ← skipBlanks cs
  if comma && cs.head? ≠ some ')' then
    let (a, rest) ← item.nested ctx cs
    let (comma, rest) ← skipComma rest
    return ((a, comma), rest)
  else none

/-- Reads a tuple by a reader of its items. It may share the parentheses of the case it belongs
to. -/
def tupleOf (body : RonReader α) (shared : Bool) : RonReader α :=
  if shared then body.nested else enclosed '(' ')' body

/-- Reads what follows an opening parenthesis: one item, perhaps a comma, and the closing one. -/
def soleItem (item : RonReader α) : RonReader α := fun ctx cs => do
  let (a, rest) ← (skipBlanks cs).bind (item.nested ctx)
  let (_, rest) ← skipComma rest
  let rest ← takeChar ')' rest
  return (a, rest)

/-- Reads what may be missing. The item is told whether it shares the parentheses of the case it
belongs to: those of `Some`, or without it those that were shared before. -/
def option (item : Bool → RonReader α) (shared : Bool) : RonReader (Option α) := fun ctx cs =>
  let bare (rest : List Char) : Option (Option α × List Char) :=
    if ctx.extensions.implicitSome then ((item shared).map some).nested ctx rest else none
  match takeName "None" cs with
  | some rest => some (none, rest)
  | none =>
    match takeName "Some" cs with
    | none => bare cs
    | some rest => do
      match ← skipBlanks rest with
      | '(' :: inner => soleItem ((item ctx.extensions.unwrapCases).map some) ctx inner
      | rest => bare rest

/-- Takes the name of a type off the front. It must be the expected one, and may be left out unless
the document asks for names. -/
def takeTypeName (expected : String) (ctx : RonContext) (cs : List Char) : Option (List Char) :=
  if cs.head?.any isIdentifierPart then do
    let (ident, rest) ← readIdentifier? cs
    if plainName ident = expected then some rest else none
  else if ctx.extensions.explicitNames then none
  else some cs

/-- Reads a type of one item: `Name(item)`, or the bare item where it is unwrapped. -/
def newtype (expected : String) (item : RonReader α) (shared : Bool) : RonReader α := fun ctx cs =>
  if ctx.extensions.unwrapNewtypes || shared then item.nested ctx cs
  else do
    let rest ← (takeTypeName expected ctx cs).bind skipBlanks
    (takeChar '(' rest).bind (soleItem item ctx)

/-- Reads one of some cases, each with one item, which is told whether it shares the parentheses of
the case. -/
def oneOf (item : String → Option (Bool → RonReader α)) : RonReader α := fun ctx cs => do
  let (ident, rest) ← readIdentifier? cs
  let read ← item (plainName ident)
  let inner ← (skipBlanks rest).bind (takeChar '(')
  (soleItem (read ctx.extensions.unwrapCases)).nested ctx inner

end RonReader

/-- How a record of type `α` is read: what is known of it before any field, how a field of a given
name adds to that, and what comes of it in the end. -/
structure RonRecord (σ α : Type) where
  start : σ
  field? : String → Option (σ → RonReader σ)
  finish? : σ → Option α

namespace RonRecord

variable {α β σ τ : Type}

/-- Reads one field, which must not be given twice. -/
def single (name : String) (item : RonReader α) (finish? : Option α → Option β) :
    RonRecord (Option α) β where
  start := none
  field? n :=
    if n = name then some fun given => if given.isSome then fun _ _ => none else item.map some
    else none
  finish? := finish?

def required (name : String) (item : RonReader α) : RonRecord (Option α) α := single name item id

def defaulted (name : String) (item : RonReader α) (fallback : α) : RonRecord (Option α) α :=
  single name item fun given => some (given.getD fallback)

/-- The fields of two records. -/
def and (a : RonRecord σ α) (b : RonRecord τ β) : RonRecord (σ × τ) (α × β) where
  start := (a.start, b.start)
  field? n :=
    match a.field? n with
    | some read => some fun s => (read s.1).map fun x => (x, s.2)
    | none => (b.field? n).map fun read s => (read s.2).map fun y => (s.1, y)
  finish? s := do return (← a.finish? s.1, ← b.finish? s.2)

/-- Reads the value of a field, or passes over it. -/
def readField (r : RonRecord σ α) (s : σ) (ident : String) : RonReader σ :=
  match r.field? (Ron.plainName ident) with
  | some read => read s
  | none => RonReader.ignored.map fun _ => s

/-- Reads fields up to the closing parenthesis, which is left in place. -/
def readFields (r : RonRecord σ α) (ctx : RonContext) :
    Nat → Bool → σ → List Char → Option (σ × List Char)
  | 0, _, _, _ => none
  | fuel + 1, comma, s, cs =>
    match Ron.skipBlanks cs with
    | none => none
    | some cs =>
      if cs.head? = some ')' then some (s, cs)
      else if comma then do
        let value (ident : String) := (r.readField s ident).nested ctx
        let (s, rest) ← Ron.readEntry Ron.readIdentifier? value cs
        let (comma, rest) ← Ron.skipComma rest
        readFields r ctx fuel comma s rest
      else none

/-- Reads a record, with or without the name of its type. -/
def read (r : RonRecord σ α) (typeName : String) : RonReader α := fun ctx cs => do
  let rest ← (RonReader.takeTypeName typeName ctx cs).bind Ron.skipBlanks
  let body : RonReader σ := fun ctx => r.readFields ctx (ctx.size + 1) true r.start
  let (s, rest) ← RonReader.enclosed '(' ')' body ctx rest
  let a ← r.finish? s
  return (a, rest)

end RonRecord

namespace Ron

/-- Takes a word off the front, and blanks after it. -/
def takeWord (word cs : List Char) : Option (List Char) :=
  if word.isPrefixOf cs then skipBlanks (cs.drop word.length) else none

/-- Reads the names of extensions, parted by commas. -/
def readExtensions (fuel : Nat) (e : RonExtensions) (cs : List Char) :
    Option (RonExtensions × List Char) :=
  match fuel, readIdentifier? cs with
  | fuel + 1, some (ident, rest) =>
    match e.enable ident, skipComma rest with
    | some e, some (comma, rest) =>
      if comma && rest.head?.any isIdentifierPart then readExtensions fuel e rest
      else some (e, rest)
    | _, _ => none
  | _, _ => none

/-- Reads the attributes at the front of a document. -/
def readAttributes (fuel : Nat) (e : RonExtensions) (cs : List Char) :
    Option (RonExtensions × List Char) :=
  match fuel, cs with
  | fuel + 1, '#' :: _ => do
    let rest ← takeWord ['#'] cs
    let rest ← takeWord ['!'] rest
    let rest ← takeWord ['['] rest
    let rest ← takeWord ['e', 'n', 'a', 'b', 'l', 'e'] rest
    let rest ← takeWord ['('] rest
    let (e, rest) ← readExtensions fuel e rest
    let rest ← takeWord [')'] rest
    let rest ← takeWord [']'] rest
    readAttributes fuel e rest
  | 0, '#' :: _ => none
  | _, _ => some (e, cs)

def document? {α : Type} (read : RonReader α) (s : String) : Option α := do
  let cs := s.toList
  let size := cs.length
  let front ← skipBlanks cs
  let (e, body) ← readAttributes (size + 1) .none front
  let (a, rest) ← read ⟨e, maxNesting, size⟩ body
  let rest ← skipBlanks rest
  if rest = [] then some a else none

end Ron

end ScriptGraph
