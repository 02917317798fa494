import ScriptGraph.Pattern.Bracket
import ScriptGraph.Uuid

/-! Which texts are well-formed patterns. A pattern is read from left to right; where one stands and
what has been opened is all that is kept, and a character may be judged by those behind it. -/

namespace ScriptGraph

namespace PatternReader

def maxDepth : Nat := 250

def enter (r : PatternReader) (flags : List Char) : PatternReader :=
  { r with
    place := .text
    group := .empty (r.mode.withFlags flags)
    outer := r.group :: r.outer }

def leave (r : PatternReader) : Option PatternReader :=
  match r.outer with
  | g :: outer =>
    some { r with place := .text, group := g.add ⟨r.group.depth + 1, true⟩, outer := outer }
  | [] => none

/-- Switches flags for the rest of the innermost group. -/
def setFlags (r : PatternReader) (flags : List Char) : PatternReader :=
  { r with group := { r.group with mode := r.mode.withFlags flags } }.addItem ⟨0, false⟩

/-- Repeats the latest part. A question mark right behind belongs to the sign of repetition. -/
def repeatLast (r : PatternReader) (rest : List Char) : Option PatternReader :=
  r.group.repeated?.map fun g =>
    { r with group := g, ahead := if rest.head? = some '?' then 1 else 0 }

def textStep (r : PatternReader) (c : Char) (rest : List Char) : Option PatternReader :=
  match c with
  | '*' | '+' | '?' => r.repeatLast rest
  | '\x7b' => none
  | '|' => some { r with group := r.group.alternate }
  | '(' => some (r.moveTo .groupOpened)
  | ')' => r.leave
  | '[' => some r.openSet
  | '\\' => some (r.moveTo (.escape .text))
  | '^' | '$' => some (r.addItem ⟨0, true⟩)
  | '.' => if r.mode.admitsAny then some (r.addItem ⟨0, true⟩) else none
  | _ => r.useChar c false .text

def controlEscape? : Char → Option Char
  | 'a' => some '\x07'
  | 'f' => some '\x0c'
  | 'n' => some '\n'
  | 'r' => some '\r'
  | 't' => some '\t'
  | 'v' => some '\x0b'
  | _ => none

/-- Whether an escaped character stands for itself: any sign of ASCII but the angle brackets. -/
def isEscapable (c : Char) : Bool := c.toNat < 128 && !c.isAlphanum && c ≠ '<' && c ≠ '>'

def classEscape (r : PatternReader) (negated : Bool) (use : EscapeUse) : Option PatternReader :=
  if r.mode.admitsClass negated then
    match use with
    | .text => some (r.addItem ⟨0, true⟩)
    | .member => some (r.addMember 0 .escapedClass)
    | .upTo _ => none
  else none

def anchorEscape (r : PatternReader) (admitted : Bool) (use : EscapeUse) : Option PatternReader :=
  if use = .text && admitted then some (r.addItem ⟨0, true⟩) else none

def escapeStep (r : PatternReader) (use : EscapeUse) (c : Char) : Option PatternReader :=
  match c with
  | 'x' => some (r.moveTo (.code use true 2 0))
  | 'u' => some (r.moveTo (.code use false 4 0))
  | 'U' => some (r.moveTo (.code use false 8 0))
  | 'd' | 's' | 'w' => r.classEscape false use
  | 'D' | 'S' | 'W' => r.classEscape true use
  | 'A' | 'z' => r.anchorEscape true use
  | 'b' | 'B' | '<' | '>' => r.anchorEscape r.mode.admitsWords use
  | _ =>
    match controlEscape? c with
    | some control => r.useChar control false use
    | none => if isEscapable c then r.useChar c false use else none

def codeStep (r : PatternReader) (use : EscapeUse) (byte : Bool) (missing value : Nat) (c : Char) :
    Option PatternReader :=
  match charHex? c with
  | none => none
  | some d =>
    let value := value * 16 + d
    if 1 < missing then some (r.moveTo (.code use byte (missing - 1) value))
    else if value.isValidChar then r.useChar (Char.ofNat value) byte use
    else none

/-- A character among the flags of a group. Flags without a group must not be empty. -/
def flagStep (r : PatternReader) (items : List Char) (c : Char) : Option PatternReader :=
  if c = ':' then
    if items.getLast? = some '-' then none else some (r.enter items)
  else if c = ')' then
    if items = [] || items.getLast? = some '-' then none else some (r.setFlags items)
  else if "-imsUuRx".toList.contains c && !items.contains c then
    some (r.moveTo (.flags (items ++ [c])))
  else none

def isNameChar (first : Bool) (c : Char) : Bool :=
  c = '_' || isAlphabetic c || (!first && (isAlphanumeric c || ".[]".toList.contains c))

/-- A character in the name of a group, which no other group may have. -/
def nameStep (r : PatternReader) (chars : List Char) (c : Char) : Option PatternReader :=
  if c = '>' then
    if chars = [] || r.names.contains chars then none
    else some { r.enter [] with names := chars :: r.names }
  else if isNameChar chars.isEmpty c then some (r.moveTo (.name (chars ++ [c])))
  else none

/-- A character that is neither passed over nor accounted for. -/
def placeStep (r : PatternReader) (c : Char) (rest : List Char) : Option PatternReader :=
  match r.place with
  | .text => r.textStep c rest
  | .escape use => r.escapeStep use c
  | .code use byte missing value => r.codeStep use byte missing value c
  | .bracket place => r.bracketStep c rest place
  | .groupOpened => if c = '?' then some (r.moveTo .groupMarked) else (r.enter []).textStep c rest
  | .groupMarked =>
    match c with
    | 'P' => some (r.moveTo .nameMarked)
    | '<' => some (r.moveTo (.name []))
    | _ => r.flagStep [] c
  | .nameMarked => if c = '<' then some (r.moveTo (.name [])) else none
  | .name chars => r.nameStep chars c
  | .flags items => r.flagStep items c

/-- Reads one more character, of which `rest` stands behind; none if no pattern goes on so. -/
def step (r : PatternReader) (c : Char) (rest : List Char) : Option PatternReader :=
  let passesBlanks := r.mode.spaced && r.place.allowsBlanks
  if 0 < r.ahead then some { r with ahead := r.ahead - 1 }
  else if r.inComment then some { r with inComment := c ≠ '\n' }
  else if passesBlanks && isWhiteSpace c then some r
  else if passesBlanks && c = '#' then some { r with inComment := true }
  else r.placeStep c rest

def readAll (r : PatternReader) : List Char → Option PatternReader
  | [] => some r
  | c :: rest => (r.step c rest).bind fun r => r.readAll rest

def complete (r : PatternReader) : Bool :=
  r.place = .text && r.outer.isEmpty && r.group.depth ≤ maxDepth

end PatternReader

def isPattern (cs : List Char) : Bool := (PatternReader.initial.readAll cs).any (·.complete)

end ScriptGraph
