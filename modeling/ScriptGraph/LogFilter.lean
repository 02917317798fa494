import ScriptGraph.Number.Single
import ScriptGraph.Pattern.Reader

/-! Filters on log lines: directives parted by commas, each a level, a target, or a target and its
level. The directive with the longest target that begins a line's own decides, of two with the same
target the one that asks for a field, and of two alike the later one. -/

namespace ScriptGraph

inductive Verbosity where
  | off
  | error
  | warn
  | info
  | debug
  | trace
deriving DecidableEq, Repr

namespace Verbosity

def word : Verbosity → String
  | .off => "off"
  | .error => "error"
  | .warn => "warn"
  | .info => "info"
  | .debug => "debug"
  | .trace => "trace"

def all : List Verbosity := [.off, .error, .warn, .info, .debug, .trace]

def number? : List Char → Option Nat
  | '+' :: digits => readNat? digits
  | digits => readNat? digits

def ofChars? (cs : List Char) : Option Verbosity :=
  match number? cs with
  -- the levels stand at the places of their numbers
  | some n => all[n]?
  | none => all.find? fun v => v.word.toList = cs.map Char.toLower

end Verbosity

structure FieldCondition where
  name : String
  hasValue : Bool
deriving DecidableEq, Repr

/-- What is shown of the lines of one target, or of all, that stand in a part of the program's run
and have a field. -/
structure LogDirective where
  target : Option String
  scope : Option String
  field : Option FieldCondition
  level : Verbosity
deriving DecidableEq, Repr

/-- Why a filter cannot be read: a directive is malformed, or a part of it begins or ends within a
character. -/
inductive LogFilterError where
  | malformed
  | brokenCharacter
deriving DecidableEq, Repr

def dropBytes? : Nat → List Char → Option (List Char)
  | 0, cs => some cs
  | _, [] => none
  | n, c :: cs => if c.utf8Size ≤ n then dropBytes? (n - c.utf8Size) cs else none

def takeBytes? : Nat → List Char → Option (List Char)
  | 0, _ => some []
  | _, [] => none
  | n, c :: cs =>
    if c.utf8Size ≤ n then (takeBytes? (n - c.utf8Size) cs).map (c :: ·) else none

namespace FieldCondition

def ofChars? (cs : List Char) : Option FieldCondition :=
  let name := String.ofList (cs.takeWhile fun c => c ≠ '=')
  match cs.dropWhile fun c => c ≠ '=' with
  | [] => if cs = [] then none else some ⟨name, false⟩
  | _ :: rest =>
    -- the value must be a number or a pattern
    let value := rest.takeWhile fun c => c ≠ '='
    if (Single.ofChars? value).isSome || isPattern value then some ⟨name, true⟩ else none

end FieldCondition

namespace LogDirective

def upTo (level : Verbosity) : LogDirective := ⟨none, none, none, level⟩

/-- Where one stands in a directive, with the bytes before the part that has begun. -/
inductive Place where
  | start
  | word
  | scope (begun : Nat)
  | field (begun : Nat)
  | fieldClosed
  | scopeClosed
  | level (begun : Nat)
deriving DecidableEq, Repr

structure Draft where
  directive : LogDirective
  place : Place
  offset : Nat
deriving DecidableEq, Repr

def isFirst (c : Char) : Bool := c = '-' || c = ':' || c = '_' || isAlphanumeric c

def part (text : List Char) (begun ended : Nat) : Except LogFilterError (List Char) :=
  match (dropBytes? begun text).bind (takeBytes? (ended - begun)) with
  | some cs => .ok cs
  | none => .error .brokenCharacter

def levelAfter (cs : List Char) : Except LogFilterError Verbosity :=
  -- nothing after the equals sign means everything
  if cs = [] then .ok .trace
  else
    match Verbosity.ofChars? cs with
    | some level => .ok level
    | none => .error .malformed

def next (text : List Char) (d : Draft) (c : Char) : Except LogFilterError (LogDirective × Place) :=
  let behind := d.offset + 1
  match d.place, c with
  | .start, '[' => .ok (d.directive, .scope behind)
  | .start, c => if isFirst c then .ok (d.directive, .word) else .error .malformed
  | .word, '=' => do
    let target ← part text 0 d.offset
    return ({ d.directive with target := some (String.ofList target) }, .level behind)
  | .word, '[' => do
    let target ← part text 0 d.offset
    return ({ d.directive with target := some (String.ofList target) }, .scope behind)
  | .scope begun, ']' => do
    let scope ← part text begun d.offset
    return ({ d.directive with scope := some (String.ofList scope) }, .scopeClosed)
  | .scope begun, '\x7b' => do
    let scope ← part text begun d.offset
    let scope := if scope = [] then none else some (String.ofList scope)
    return ({ d.directive with scope := scope }, .field behind)
  | .field begun, '\x7d' => do
    let chars ← part text begun d.offset
    match FieldCondition.ofChars? chars with
    | some field => return ({ d.directive with field := some field }, .fieldClosed)
    | none => throw .malformed
  | .fieldClosed, ']' => .ok (d.directive, .scopeClosed)
  | .scopeClosed, '=' => .ok (d.directive, .level behind)
  | .fieldClosed, _ => .error .malformed
  | .scopeClosed, _ => .error .malformed
  | place, _ => .ok (d.directive, place)

def step (text : List Char) (d : Draft) (c : Char) : Except LogFilterError Draft :=
  (next text d c).map fun r => ⟨r.1, r.2, d.offset + c.utf8Size⟩

def finish (text : List Char) (d : Draft) : Except LogFilterError LogDirective :=
  match d.place with
  | .word =>
    match Verbosity.ofChars? text with
    | some level => .ok (upTo level)
    -- a word that is no level is a target of which everything is shown
    | none => .ok { upTo .trace with target := some (String.ofList text) }
  | .level begun =>
    match dropBytes? begun text with
    | none => .error .brokenCharacter
    | some rest => (levelAfter rest).map fun level => { d.directive with level := level }
  | .scopeClosed => .ok d.directive
  | _ => .error .malformed

/-- Reads one directive. Its parts are found in the text without the blanks around it, but counted
off from the beginning of the text with them. -/
def ofChars (text : List Char) : Except LogFilterError LogDirective := do
  let read ← (trimBlanks text).foldlM (step text) ⟨upTo .trace, .start, 0⟩
  finish text read

/-- How closely a directive fits a line with the given target and fields; none if it does not. One
about a part of the program's run or about a value speaks of no line by itself. -/
def weight? (d : LogDirective) (source : String) (fields : List String) : Option Nat :=
  let byField := match d.field with
    | none => some 0
    | some f => if !f.hasValue && fields.contains f.name then some 1 else none
  let byTarget := match d.target with
    | none => some 0
    | some t => if t.toList.isPrefixOf source.toList then some (2 * t.length + 2) else none
  if d.scope.isSome then none
  else
    match byTarget, byField with
    | some m, some n => some (m + n)
    | _, _ => none

end LogDirective

structure LogFilter where
  directives : List LogDirective
deriving DecidableEq, Repr

namespace LogFilter

def upTo (level : Verbosity) : LogFilter := ⟨[.upTo level]⟩

def pieces (cs : List Char) : List (List Char) :=
  cs.foldr (fun c acc =>
    match c, acc with
    | ',', acc => [] :: acc
    | c, piece :: rest => (c :: piece) :: rest
    | c, [] => [[c]]) [[]]

def read (s : String) : Except LogFilterError LogFilter := do
  let given := (pieces s.toList).filter fun p => p ≠ []
  return ⟨← given.mapM LogDirective.ofChars⟩

/-- The filter that a text asks for; a malformed one counts as the level `info`. None if a part of
a directive begins or ends within a character. -/
def ofText? (s : String) : Option LogFilter :=
  match read s with
  | .ok filter => some filter
  | .error .malformed => some (upTo .info)
  | .error .brokenCharacter => none

def levelFor (f : LogFilter) (source : String) (fields : List String) : Verbosity :=
  -- of two that fit alike the later one decides
  let better (best : Nat × Verbosity) (d : LogDirective) : Nat × Verbosity :=
    match d.weight? source fields with
    | some w => if best.1 ≤ w + 1 then (w + 1, d.level) else best
    | none => best
  (f.directives.foldl better (0, .off)).2

/-- Whether errors from a source are shown, which have no field but their message. -/
def showsErrors (f : LogFilter) (source : String) : Bool := f.levelFor source ["message"] ≠ .off

end LogFilter

end ScriptGraph
