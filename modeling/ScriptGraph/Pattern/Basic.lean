import ScriptGraph.Text.Classes

/-! Patterns that texts are matched against, as far as it takes to tell which of them are well
formed: the modes in which parts of a pattern are read, and what is kept of the parts that have been
read. No tables stand behind a pattern, so what would need one is refused: classes of characters by
name, words and letter case, all of them unless only bytes are matched. -/

namespace ScriptGraph

/-- How a part of a pattern is read: whether letter case is ignored, whether characters are matched
or bytes, and whether blanks and comments are passed over. -/
structure PatternMode where
  ignoresCase : Bool
  unicode : Bool
  spaced : Bool
deriving DecidableEq, Repr

namespace PatternMode

def initial : PatternMode := ⟨false, true, false⟩

/-- What flags say of one of them: those before a hyphen are set and those behind it unset. -/
def flagState? (items : List Char) (flag : Char) : Option Bool :=
  if flag ∈ items then some (flag ∈ items.takeWhile fun c => c ≠ '-') else none

def withFlags (m : PatternMode) (items : List Char) : PatternMode where
  ignoresCase := (flagState? items 'i').getD m.ignoresCase
  unicode := (flagState? items 'u').getD m.unicode
  spaced := (flagState? items 'x').getD m.spaced

def admitsText (m : PatternMode) (c : Char) (byte : Bool) : Bool :=
  if m.unicode then !m.ignoresCase else !byte || c.toNat < 128

def admitsMember (m : PatternMode) (c : Char) : Bool :=
  if m.unicode then !m.ignoresCase else c.toNat < 128

def admitsNamed (m : PatternMode) (negated : Bool) : Bool :=
  if m.unicode then !m.ignoresCase else !negated

def admitsNegation (m : PatternMode) : Bool := m.unicode

def admitsClass (m : PatternMode) (negated : Bool) : Bool := !m.unicode && !negated

def admitsWords (m : PatternMode) : Bool := !m.unicode

def admitsAny (m : PatternMode) : Bool := m.unicode

end PatternMode

def nesting : List Nat → Nat
  | [] => 0
  -- a single part is no sequence and adds no level
  | [depth] => depth
  | depths => depths.foldl max 0 + 1

structure PatternItem where
  depth : Nat
  repeatable : Bool
deriving DecidableEq, Repr

/-- A group of which some parts have been read, the latest first, and how deep the alternatives nest
that came before. -/
structure PatternGroup where
  mode : PatternMode
  items : List PatternItem
  alternatives : List Nat
deriving DecidableEq, Repr

namespace PatternGroup

def empty (mode : PatternMode) : PatternGroup := ⟨mode, [], []⟩

def add (g : PatternGroup) (item : PatternItem) : PatternGroup :=
  { g with items := item :: g.items }

def alternate (g : PatternGroup) : PatternGroup :=
  { g with items := [], alternatives := nesting (g.items.map (·.depth)) :: g.alternatives }

def repeated? (g : PatternGroup) : Option PatternGroup :=
  match g.items with
  | item :: items =>
    if item.repeatable then some { g with items := ⟨item.depth + 1, true⟩ :: items } else none
  | [] => none

def depth (g : PatternGroup) : Nat := nesting (g.alternate).alternatives

end PatternGroup

/-- A set of characters in brackets of which some members have been read: how deep they nest since
the last operator, and how deep the part before it nests. -/
structure PatternSet where
  members : List Nat
  operand : Option Nat
deriving DecidableEq, Repr

namespace PatternSet

def empty : PatternSet := ⟨[], none⟩

def add (s : PatternSet) (depth : Nat) : PatternSet := { s with members := depth :: s.members }

def depth (s : PatternSet) : Nat :=
  match s.operand with
  | none => nesting s.members
  | some left => max left (nesting s.members) + 1

def operate (s : PatternSet) : PatternSet := ⟨[], some s.depth⟩

end PatternSet

/-- Where one stands in a set: at its beginning, behind the sign that negates it or the hyphens with
which it begins, where a member may begin, behind a member or a letter that stands for a class, or
behind the hyphen of a range. -/
inductive BracketPlace where
  | opened
  | negated
  | hyphens
  | between
  | member (c : Char)
  | escapedClass
  | range (low : Char)
deriving DecidableEq, Repr

/-- What an escaped character is read for; the last is the upper end of a range. -/
inductive EscapeUse where
  | text
  | member
  | upTo (low : Char)
deriving DecidableEq, Repr

inductive PatternPlace where
  | text
  | escape (use : EscapeUse)
  | code (use : EscapeUse) (byte : Bool) (missing value : Nat)
  | bracket (place : BracketPlace)
  | groupOpened
  | groupMarked
  | nameMarked
  | name (chars : List Char)
  | flags (items : List Char)
deriving DecidableEq, Repr

def PatternPlace.allowsBlanks : PatternPlace → Bool
  | .text | .code _ _ _ _ | .bracket _ | .groupOpened => true
  | _ => false

/-- A pattern of which some characters have been read; `ahead` of those to come are accounted for
already. The groups around and the open sets stand innermost first. -/
structure PatternReader where
  place : PatternPlace
  ahead : Nat
  inComment : Bool
  group : PatternGroup
  outer : List PatternGroup
  sets : List PatternSet
  names : List (List Char)
deriving DecidableEq, Repr

namespace PatternReader

def initial : PatternReader := ⟨.text, 0, false, .empty .initial, [], [], []⟩

def mode (r : PatternReader) : PatternMode := r.group.mode

def moveTo (r : PatternReader) (place : PatternPlace) : PatternReader := { r with place := place }

def addItem (r : PatternReader) (item : PatternItem) : PatternReader :=
  { r with place := .text, group := r.group.add item }

def addMember (r : PatternReader) (depth : Nat) (place : BracketPlace) : PatternReader :=
  match r.sets with
  | s :: sets => { r with place := .bracket place, sets := s.add depth :: sets }
  | [] => r

/-- Uses a character that has been read whole, maybe by its code as a byte. -/
def useChar (r : PatternReader) (c : Char) (byte : Bool) : EscapeUse → Option PatternReader
  | .text => if r.mode.admitsText c byte then some (r.addItem ⟨0, true⟩) else none
  | .member => if r.mode.admitsMember c then some (r.addMember 0 (.member c)) else none
  | .upTo low =>
    if low ≤ c && r.mode.admitsMember c then some (r.moveTo (.bracket .between)) else none

end PatternReader

end ScriptGraph
