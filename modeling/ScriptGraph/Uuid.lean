import ScriptGraph.Number.Decimal

/-! Universally unique ids: 128-bit values, their text forms, the kinds of thing they name, and the
source that new ones are drawn from. -/

namespace ScriptGraph

/-- The lowest `count` hexadecimal digits of `n`, most significant first. -/
def hexDigits : Nat → Nat → List Nat
  | 0, _ => []
  | count + 1, n => hexDigits count (n / 16) ++ [n % 16]

def hexChar (d : Nat) : Char := if d < 10 then Char.ofNat (48 + d) else Char.ofNat (87 + d)

def charHex? (c : Char) : Option Nat :=
  if '0' ≤ c ∧ c ≤ '9' then some (c.toNat - 48)
  else if 'a' ≤ c ∧ c ≤ 'f' then some (c.toNat - 87)
  else if 'A' ≤ c ∧ c ≤ 'F' then some (c.toNat - 55)
  else none

def readHex? (cs : List Char) : Option Nat :=
  cs.foldlM (fun acc c => (charHex? c).map (acc * 16 + ·)) 0

theorem charHex?_hexChar {d : Nat} (h : d < 16) : charHex? (hexChar d) = some d := by
  have all : ∀ d : Fin 16, charHex? (hexChar d) = some d.val := by decide
  exact all ⟨d, h⟩

theorem length_hexDigits (count n : Nat) : (hexDigits count n).length = count := by
  induction count generalizing n with
  | zero => rfl
  | succ count ih => simp [hexDigits, ih]

structure Uuid where
  value : BitVec 128
deriving DecidableEq, Repr

namespace Uuid

instance : Inhabited Uuid := ⟨⟨0⟩⟩

def ofNat (n : Nat) : Uuid := ⟨BitVec.ofNat 128 n⟩

/-- The id of version four whose 122 free bits are the lowest of `n`. -/
def versionFour (n : Nat) : Uuid :=
  ofNat (n / Nat.pow 2 74 % Nat.pow 2 48 * Nat.pow 2 80 + 4 * Nat.pow 2 76 +
    n / Nat.pow 2 62 % Nat.pow 2 12 * Nat.pow 2 64 + 2 * Nat.pow 2 62 + n % Nat.pow 2 62)

def hexChars (u : Uuid) : List Char := (hexDigits 32 u.value.toNat).map hexChar

def chars (u : Uuid) : List Char :=
  let cs := u.hexChars
  cs.take 8 ++ '-' :: (cs.drop 8).take 4 ++ '-' :: (cs.drop 12).take 4 ++
    '-' :: (cs.drop 16).take 4 ++ '-' :: cs.drop 20

def text (u : Uuid) : String := String.ofList u.chars

/-- The characters without the hyphens that must part the given groups. -/
def ungroup? : List Nat → List Char → Option (List Char)
  | [], cs => if cs = [] then some [] else none
  | [size], cs => if cs.length = size then some cs else none
  | size :: sizes, cs =>
    match cs.drop size with
    | '-' :: rest =>
      if size ≤ cs.length then (ungroup? sizes rest).map (cs.take size ++ ·) else none
    | _ => none

def ofHyphenated? (cs : List Char) : Option Uuid := do
  let digits ← ungroup? [8, 4, 4, 4, 12] cs
  let n ← readHex? digits
  return ofNat n

def ofSimple? (cs : List Char) : Option Uuid :=
  if cs.length = 32 then (readHex? cs).map ofNat else none

/-- Reads an id in one of four forms: hyphenated, thirty-two plain digits, hyphenated in braces, or
hyphenated after `urn:uuid:` in any case. -/
def ofChars? (cs : List Char) : Option Uuid :=
  if cs.length = 32 then ofSimple? cs
  else if cs.length = 36 then ofHyphenated? cs
  else if cs.length = 38 then
    if cs.head? = some '\x7b' ∧ cs.getLast? = some '\x7d' then ofHyphenated? (cs.drop 1).dropLast
    else none
  else if cs.length = 45 then
    if (cs.take 9).map Char.toLower = ['u', 'r', 'n', ':', 'u', 'u', 'i', 'd', ':'] then
      ofHyphenated? (cs.drop 9)
    else none
  else none

def ofText? (s : String) : Option Uuid := ofChars? s.toList

end Uuid

structure EntityId where
  uuid : Uuid
deriving DecidableEq, Repr, Inhabited

structure GraphId where
  uuid : Uuid
deriving DecidableEq, Repr, Inhabited

structure ConnectionId where
  uuid : Uuid
deriving DecidableEq, Repr, Inhabited

/-- Where new ids come from: a stream and how much of it has been used. -/
structure IdSource where
  stream : Nat → Uuid
  used : Nat

namespace IdSource

/-- Ids of version four whose free bits count up from a seed. -/
def seeded (seed : Nat) : IdSource where
  stream k := Uuid.versionFour (seed + k)
  used := 0

def counting : IdSource := seeded 1

def next (s : IdSource) : Uuid := s.stream s.used

def advance (s : IdSource) : IdSource := { s with used := s.used + 1 }

/-- Offers the next id to an operation. It is used up only if the operation succeeds. -/
def offer {ε α : Type} (s : IdSource) (f : Uuid → Except ε α) : Except ε α × IdSource :=
  match f s.next with
  | .ok a => (.ok a, s.advance)
  | .error e => (.error e, s)

end IdSource

end ScriptGraph
