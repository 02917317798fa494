/-! Tables that keep the order in which their keys were first written and hold one entry per key.
Overwriting a key leaves its place, erasing one closes the gap. Property tables, variables,
connections, registries, stores and scenes are all tables of this kind. -/

namespace ScriptGraph

/-- The entries after writing `value` under `key`, in place if the key is there, else at the end. -/
def putEntry {κ α : Type} [DecidableEq κ] (key : κ) (value : α) : List (κ × α) → List (κ × α)
  | [] => [(key, value)]
  | (k, v) :: rest => if k = key then (k, value) :: rest else (k, v) :: putEntry key value rest

theorem map_fst_putEntry {κ α : Type} [DecidableEq κ] (key : κ) (value : α) (l : List (κ × α)) :
    (putEntry key value l).map Prod.fst =
      if key ∈ l.map Prod.fst then l.map Prod.fst else l.map Prod.fst ++ [key] := by
  induction l with
  | nil => simp [putEntry]
  | cons e rest ih =>
    obtain ⟨k, v⟩ := e
    by_cases h : k = key
    · simp [putEntry, h]
    · have h' : key ≠ k := fun e => h e.symm
      simp only [putEntry, h, if_false, List.map_cons, ih, List.mem_cons, h', false_or]
      split <;> simp

theorem nodup_putEntry {κ α : Type} [DecidableEq κ] {key : κ} {value : α} {l : List (κ × α)}
    (h : (l.map Prod.fst).Nodup) : ((putEntry key value l).map Prod.fst).Nodup := by
  rw [map_fst_putEntry]
  split
  · exact h
  · next hk =>
    rw [List.nodup_append]
    refine ⟨h, by simp, ?_⟩
    intro a ha b hb e
    simp only [List.mem_singleton] at hb
    exact hk (hb ▸ e ▸ ha)

/-- An ordered table: a list of entries whose keys are pairwise distinct. -/
structure Table (κ α : Type) where
  entries : List (κ × α)
  nodup : (entries.map Prod.fst).Nodup
deriving DecidableEq

namespace Table

variable {κ α β : Type}

/-- The table without entries. -/
def empty : Table κ α := ⟨[], by simp⟩

instance : Inhabited (Table κ α) := ⟨empty⟩

def keys (t : Table κ α) : List κ := t.entries.map Prod.fst

def values (t : Table κ α) : List α := t.entries.map Prod.snd

def size (t : Table κ α) : Nat := t.entries.length

def isEmpty (t : Table κ α) : Bool := t.entries.isEmpty

theorem ext_entries {s t : Table κ α} (h : s.entries = t.entries) : s = t := by
  cases s; cases t; simp_all

theorem nodup_keys (t : Table κ α) : t.keys.Nodup := t.nodup

@[simp] theorem keys_empty : (empty : Table κ α).keys = [] := rfl

/-- The same keys in the same order, each value mapped with its key in view. -/
def map (f : κ → α → β) (t : Table κ α) : Table κ β where
  entries := t.entries.map fun e => (e.1, f e.1 e.2)
  nodup := by simpa [Function.comp_def] using t.nodup

@[simp] theorem keys_map (f : κ → α → β) (t : Table κ α) : (t.map f).keys = t.keys := by
  simp [keys, map, Function.comp_def]

/-- The entries that satisfy `p`, in their old order. -/
def filter (p : κ → α → Bool) (t : Table κ α) : Table κ α where
  entries := t.entries.filter fun e => p e.1 e.2
  nodup := t.nodup.sublist ((List.filter_sublist).map Prod.fst)

variable [DecidableEq κ]

/-- The value stored under `key`. -/
def find? (t : Table κ α) (key : κ) : Option α := (t.entries.find? fun e => e.1 = key).map Prod.snd

def contains (t : Table κ α) (key : κ) : Bool := decide (key ∈ t.keys)

/-- Writes `value` under `key`, in place if the key is there and at the end if not. -/
def insert (t : Table κ α) (key : κ) (value : α) : Table κ α :=
  ⟨putEntry key value t.entries, nodup_putEntry t.nodup⟩

/-- Removes `key` and closes the gap. -/
def erase (t : Table κ α) (key : κ) : Table κ α := t.filter fun k _ => k ≠ key

/-- Changes the value under `key`, if there is one. -/
def modify (t : Table κ α) (key : κ) (f : α → α) : Table κ α :=
  t.map fun k v => if k = key then f v else v

/-- Writes the pairs one after another into `t`. -/
def insertAll (t : Table κ α) (pairs : List (κ × α)) : Table κ α :=
  pairs.foldl (fun t e => t.insert e.1 e.2) t

/-- The table that results from writing the pairs one after another. -/
def ofList (pairs : List (κ × α)) : Table κ α := empty.insertAll pairs

theorem keys_insert (t : Table κ α) (key : κ) (value : α) :
    (t.insert key value).keys = if key ∈ t.keys then t.keys else t.keys ++ [key] :=
  map_fst_putEntry key value t.entries

@[simp] theorem keys_modify (t : Table κ α) (key : κ) (f : α → α) :
    (t.modify key f).keys = t.keys := by
  simp [modify]

theorem find?_eq_some_iff {t : Table κ α} {key : κ} {value : α} :
    t.find? key = some value ↔ (key, value) ∈ t.entries := by
  obtain ⟨l, hl⟩ := t
  simp only [find?]
  induction l with
  | nil => simp
  | cons e rest ih =>
    obtain ⟨k, v⟩ := e
    rw [List.map_cons, List.nodup_cons] at hl
    by_cases h : k = key
    · subst h
      simp only [List.find?_cons, decide_true, Option.map_some, Option.some.injEq, List.mem_cons,
        Prod.mk.injEq, true_and]
      constructor
      · intro hv; exact Or.inl hv.symm
      · rintro (hv | hv)
        · exact hv.symm
        · exact absurd (List.mem_map_of_mem (f := Prod.fst) hv) hl.1
    · have h' : key ≠ k := fun e => h e.symm
      simp [h, h', ih hl.2]

theorem contains_iff_mem_keys {t : Table κ α} {key : κ} : t.contains key = true ↔ key ∈ t.keys := by
  simp [contains]

end Table

end ScriptGraph
