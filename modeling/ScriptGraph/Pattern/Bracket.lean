import ScriptGraph.Pattern.Basic

/-! Sets of characters in brackets: members, ranges, sets within sets and operators on them. -/

namespace ScriptGraph

def namedClasses : List String :=
  ["alnum", "alpha", "ascii", "blank", "cntrl", "digit", "graph", "lower", "print", "punct",
    "space", "upper", "word", "xdigit"]

/-- Looks for a named class behind an opening bracket: `:name:]`, or `:^name:]` for all but that
class. Yields whether it is negated and how many characters it takes. -/
def namedClass? : List Char → Option (Bool × Nat)
  | ':' :: rest =>
    let negated := rest.head? = some '^'
    let body := if negated then rest.drop 1 else rest
    let name := body.takeWhile fun c => c ≠ ':'
    match body.drop name.length with
    | ':' :: ']' :: _ =>
      if String.ofList name ∈ namedClasses then
        some (negated, name.length + if negated then 4 else 3)
      else none
    | _ => none
  | _ => none

/-- The next character that is no blank and does not begin a comment. What follows a comment's mark
counts as well, and if nothing is found the very next character does. -/
def nextVisible? (cs : List Char) : Option Char :=
  match cs.dropWhile isWhiteSpace with
  | '#' :: comment => (comment.dropWhile isWhiteSpace).head?.or cs.head?
  | c :: _ => some c
  | [] => cs.head?

namespace PatternReader

def openSet (r : PatternReader) : PatternReader :=
  { r with place := .bracket .opened, sets := .empty :: r.sets }

/-- Leaves the innermost set, which is a member of the set around it or a part of the text. -/
def closeSet (r : PatternReader) : PatternReader :=
  match r.sets with
  | s :: t :: sets => { r with place := .bracket .between, sets := t.add (s.depth + 1) :: sets }
  | [s] => { r with sets := [] }.addItem ⟨s.depth + 1, true⟩
  | [] => r

/-- Begins the operand after an operator of two equal characters, the second of which follows. -/
def operate (r : PatternReader) : PatternReader :=
  match r.sets with
  | s :: sets => { r with place := .bracket .between, ahead := 1, sets := s.operate :: sets }
  | [] => r

/-- Takes a set within a set: a named class, or one in brackets of its own. -/
def innerSet (r : PatternReader) (rest : List Char) : Option PatternReader :=
  match namedClass? rest with
  | some (negated, length) =>
    if r.mode.admitsNamed negated then some { r.addMember 0 .between with ahead := length }
    else none
  | none => some r.openSet

def memberStep (r : PatternReader) (c : Char) (rest : List Char) : Option PatternReader :=
  if c = '[' then r.innerSet rest
  else if c = ']' then some r.closeSet
  else if c = '\\' then some (r.moveTo (.escape .member))
  else if (c = '&' || c = '-' || c = '~') && rest.head? = some c then some r.operate
  else r.useChar c false .member

def leadingMember (r : PatternReader) (c : Char) (place : BracketPlace) : Option PatternReader :=
  if r.mode.admitsMember c then some (r.addMember 0 place) else none

/-- A character with which the members of a set begin; hyphens and a closing bracket are members
there. -/
def firstMemberStep (r : PatternReader) (c : Char) (rest : List Char) : Option PatternReader :=
  if c = '-' then r.leadingMember c .hyphens
  else if c = ']' then r.leadingMember c .between
  else r.memberStep c rest

def beginsRange (r : PatternReader) (rest : List Char) : Bool :=
  let next := if r.mode.spaced then nextVisible? rest else rest.head?
  next ≠ some ']' && next ≠ some '-'

def bracketStep (r : PatternReader) (c : Char) (rest : List Char) :
    BracketPlace → Option PatternReader
  | .opened =>
    if c = '^' then
      if r.mode.admitsNegation then some (r.moveTo (.bracket .negated)) else none
    else r.firstMemberStep c rest
  | .negated => r.firstMemberStep c rest
  | .hyphens => if c = '-' then r.leadingMember c .hyphens else r.memberStep c rest
  | .between => r.memberStep c rest
  | .member m =>
    if c = '-' && r.beginsRange rest then some (r.moveTo (.bracket (.range m)))
    else r.memberStep c rest
  | .escapedClass => if c = '-' && r.beginsRange rest then none else r.memberStep c rest
  | .range low =>
    if c = '\\' then some (r.moveTo (.escape (.upTo low))) else r.useChar c false (.upTo low)

end PatternReader

end ScriptGraph
