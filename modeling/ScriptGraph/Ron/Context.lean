import ScriptGraph.Ron.Literal

/-! What readers of RON values share: the extensions that a document enables, how deep values may
nest, and items that commas part. -/

namespace ScriptGraph

/-- The extensions that a document enables: a type of one item goes without its parentheses, what is
present needs no `Some`, a case of one item takes over the parentheses of the item, and records must
carry the names of their types. -/
structure RonExtensions where
  unwrapNewtypes : Bool
  implicitSome : Bool
  unwrapCases : Bool
  explicitNames : Bool
deriving DecidableEq, Repr

namespace RonExtensions

def none : RonExtensions := ⟨false, false, false, false⟩

def enable (e : RonExtensions) (ident : String) : Option RonExtensions :=
  match Ron.plainName ident with
  | "unwrap_newtypes" => some { e with unwrapNewtypes := true }
  | "implicit_some" => some { e with implicitSome := true }
  | "unwrap_variant_newtypes" => some { e with unwrapCases := true }
  | "explicit_struct_names" => some { e with explicitNames := true }
  | _ => Option.none

end RonExtensions

/-- Where a value is read: `room` is how much deeper values may nest, and `size` the length of the
document, which bounds the number of items in any brackets. -/
structure RonContext where
  extensions : RonExtensions
  room : Nat
  size : Nat

abbrev RonReader (α : Type) := RonContext → List Char → Option (α × List Char)

namespace RonReader

variable {α β : Type}

def nested (r : RonReader α) : RonReader α := fun ctx cs =>
  match ctx.room with
  | 0 => none
  | room + 1 => r { ctx with room := room } cs

def map (r : RonReader α) (f : α → β) : RonReader β := fun ctx cs =>
  (r ctx cs).map fun p => (f p.1, p.2)

end RonReader

namespace Ron

/-- How deep values may nest; a bracket and an item in it count one each. -/
def maxNesting : Nat := 128

/-- Reads items up to the closing bracket, which is left in place. `comma` tells whether another
item may follow, and `fuel` how many at most. -/
def readItems {α : Type} (item : List Char → Option (α × List Char)) (close : Char) :
    Nat → Bool → List Char → Option (List α × List Char)
  | 0, _, _ => none
  | fuel + 1, comma, cs =>
    match skipBlanks cs with
    | none => none
    | some cs =>
      if cs.head? = some close then some ([], cs)
      else if comma then do
        let (x, rest) ← item cs
        let (comma, rest) ← skipComma rest
        let (xs, rest) ← readItems item close fuel comma rest
        return (x :: xs, rest)
      else none

def readEntry {α β : Type} (key : List Char → Option (α × List Char))
    (value : α → List Char → Option (β × List Char)) (cs : List Char) :
    Option (β × List Char) := do
  let (k, rest) ← key cs
  let rest ← (skipBlanks rest).bind (takeChar ':')
  let rest ← skipBlanks rest
  value k rest

/-- Whether what follows an opening parenthesis are named fields: an identifier comes first and a
colon after it. -/
def beginsFields (cs : List Char) : Bool :=
  match readIdentifier? cs with
  | some (_, rest) =>
    match skipBlanks rest with
    | some (':' :: _) => true
    | _ => false
  | none => false

end Ron

end ScriptGraph
