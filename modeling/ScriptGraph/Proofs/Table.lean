import Mathlib.Data.List.Dedup
import Mathlib.Data.List.Induction
import Mathlib.Data.List.Nodup
import ScriptGraph.Table

/-! What reading a table gives after each way of writing it. Two tables with the same entries are
equal, so every result here is about `find?`, the keys or the list of entries. -/
namespace ScriptGraph.Table
variable {κ α β : Type}

@[simp] lemma entries_empty : (empty : Table κ α).entries = [] := rfl

@[simp] lemma entries_map (f : κ → α → β) (t : Table κ α) :
    (t.map f).entries = t.entries.map fun e => (e.1, f e.1 e.2) := rfl

@[simp] lemma entries_filter (p : κ → α → Bool) (t : Table κ α) :
    (t.filter p).entries = t.entries.filter fun e => p e.1 e.2 := rfl

lemma mem_values {t : Table κ α} {v : α} : v ∈ t.values ↔ ∃ k, (k, v) ∈ t.entries := by
  simp [values]

lemma mem_keys {t : Table κ α} {k : κ} : k ∈ t.keys ↔ ∃ v, (k, v) ∈ t.entries := by
  simp [keys]

variable [DecidableEq κ]

lemma mem_keys_iff_find? {t : Table κ α} {k : κ} : k ∈ t.keys ↔ ∃ v, t.find? k = some v := by
  simp only [mem_keys, find?_eq_some_iff]

lemma find?_eq_none_iff {t : Table κ α} {k : κ} : t.find? k = none ↔ k ∉ t.keys := by
  rw [mem_keys_iff_find?]
  cases t.find? k <;> simp

lemma contains_eq_isSome (t : Table κ α) (k : κ) : t.contains k = (t.find? k).isSome := by
  cases h : t.find? k with
  | none =>
    have hk := find?_eq_none_iff.mp h
    simp [contains, hk]
  | some v =>
    have hk : k ∈ t.keys := mem_keys_iff_find?.mpr ⟨v, h⟩
    simp [contains, hk]

@[simp] lemma find?_map (f : κ → α → β) (t : Table κ α) (k : κ) :
    (t.map f).find? k = (t.find? k).map (f k) := by
  cases h : t.find? k with
  | none =>
    rw [find?_eq_none_iff] at h
    rw [Option.map_none, find?_eq_none_iff, keys_map]
    exact h
  | some v =>
    rw [find?_eq_some_iff] at h
    rw [Option.map_some, find?_eq_some_iff, entries_map]
    exact List.mem_map.mpr ⟨(k, v), h, rfl⟩

lemma find?_modify (t : Table κ α) (k : κ) (f : α → α) (j : κ) :
    (t.modify k f).find? j = if j = k then (t.find? j).map f else t.find? j := by
  rw [modify, find?_map]
  by_cases h : j = k
  · simp [h]
  · simp [h]

lemma modify_modify (t : Table κ α) (k : κ) (f g : α → α) :
    (t.modify k f).modify k g = t.modify k (g ∘ f) := by
  apply ext_entries
  simp only [modify, entries_map, List.map_map]
  apply List.map_congr_left
  rintro ⟨j, v⟩ _
  by_cases h : j = k
  · simp [h]
  · simp [h]

/-- Two tables with the same keys are related entry by entry if they are key by key. -/
lemma forall₂_entries {R : α → β → Prop} {s : Table κ α} {t : Table κ β} (hkeys : t.keys = s.keys)
    (hfind : ∀ k a, s.find? k = some a → ∃ b, t.find? k = some b ∧ R a b) :
    List.Forall₂ (fun e f => e.1 = f.1 ∧ R e.2 f.2) s.entries t.entries := by
  have hlen : s.entries.length = t.entries.length := by
    simpa [keys] using congrArg List.length hkeys.symm
  refine List.forall₂_iff_get.mpr ⟨hlen, fun i hi hj => ?_⟩
  have hfst : s.entries[i].1 = t.entries[i].1 := by
    have := congrArg (·[i]?) hkeys.symm
    simpa [keys, hi, hj] using this
  have hs : s.find? s.entries[i].1 = some s.entries[i].2 :=
    find?_eq_some_iff.mpr (List.getElem_mem hi)
  have ht : t.find? t.entries[i].1 = some t.entries[i].2 :=
    find?_eq_some_iff.mpr (List.getElem_mem hj)
  obtain ⟨b, hb, hR⟩ := hfind _ _ hs
  rw [hfst, ht] at hb
  exact ⟨hfst, Option.some.inj hb ▸ hR⟩

lemma forall₂_values {R : α → β → Prop} {s : Table κ α} {t : Table κ β} (hkeys : t.keys = s.keys)
    (hfind : ∀ k a, s.find? k = some a → ∃ b, t.find? k = some b ∧ R a b) :
    List.Forall₂ R s.values t.values := by
  rw [values, values, List.forall₂_map_left_iff, List.forall₂_map_right_iff]
  exact (forall₂_entries hkeys hfind).imp fun _ _ h => h.2

/-- A table is its keys in their order and what it holds under them. -/
theorem ext_find? {s t : Table κ α} (hkeys : s.keys = t.keys)
    (hfind : ∀ k, s.find? k = t.find? k) : s = t := by
  have hentries := forall₂_entries (R := Eq) hkeys.symm fun k a h => ⟨a, hfind k ▸ h, rfl⟩
  refine ext_entries (List.forall₂_eq_eq_eq ▸ hentries.imp fun _ _ h => Prod.ext h.1 h.2)

/-- Looking a key up does not depend on the order of the entries. -/
lemma find?_of_perm {s t : Table κ α} (h : s.entries.Perm t.entries) (k : κ) :
    s.find? k = t.find? k := by
  ext v
  rw [find?_eq_some_iff, find?_eq_some_iff]
  exact h.mem_iff

/-- Writing under a key that is not there appends the entry. -/
lemma entries_insert_of_notMem {t : Table κ α} {k : κ} (h : k ∉ t.keys) (v : α) :
    (t.insert k v).entries = t.entries ++ [(k, v)] := by
  obtain ⟨l, hl⟩ := t
  simp only [keys, insert] at h ⊢
  clear hl
  induction l with
  | nil => rfl
  | cons e rest ih =>
    simp only [List.map_cons, List.mem_cons, not_or] at h
    have hk : e.1 ≠ k := fun he => h.1 he.symm
    simp only [putEntry, hk, if_false, ih h.2, List.cons_append]

/-- What is in a table after a write: the written pair, and the old entries under other keys. -/
lemma mem_entries_insert {t : Table κ α} {k j : κ} {v w : α}
    (h : (j, w) ∈ (t.insert k v).entries) : (j = k ∧ w = v) ∨ (j, w) ∈ t.entries := by
  obtain ⟨l, hl⟩ := t
  simp only [insert] at h ⊢
  clear hl
  induction l with
  | nil =>
    have he : (j, w) = (k, v) := by simpa [putEntry] using h
    exact Or.inl (Prod.mk.inj he)
  | cons e rest ih =>
    by_cases hk : e.1 = k
    · simp only [putEntry, hk, if_true, List.mem_cons, Prod.mk.injEq] at h
      rcases h with h | h
      · exact Or.inl h
      · exact Or.inr (List.mem_cons_of_mem _ h)
    · simp only [putEntry, hk, if_false, List.mem_cons] at h
      rcases h with h | h
      · exact Or.inr (by simp [h])
      · exact (ih h).imp id (List.mem_cons_of_mem _)

lemma find?_insert (t : Table κ α) (k : κ) (v : α) (j : κ) :
    (t.insert k v).find? j = if j = k then some v else t.find? j := by
  obtain ⟨l, hl⟩ := t
  simp only [find?, insert]
  clear hl
  induction l with
  | nil =>
    by_cases hj : j = k
    · simp [putEntry, hj]
    · have hk : k ≠ j := fun he => hj he.symm
      simp [putEntry, hj, hk]
  | cons e rest ih =>
    by_cases hk : e.1 = k
    · by_cases hj : k = j
      · simp [putEntry, hk, hj]
      · have hne : j ≠ k := fun he => hj he.symm
        simp [putEntry, hk, hj, hne]
    · by_cases hj : e.1 = j
      · have hne : j ≠ k := fun he => hk (hj.trans he)
        simp [putEntry, hj, hne]
      · simpa [putEntry, hk, hj] using ih

/-- Pairs that are written one after another leave other keys alone. -/
lemma find?_insertAll_of_notMem {pairs : List (κ × α)} {k : κ} (h : k ∉ pairs.map Prod.fst)
    (t : Table κ α) : (t.insertAll pairs).find? k = t.find? k := by
  induction pairs generalizing t with
  | nil => rfl
  | cons e pairs ih =>
    rw [List.map_cons, List.mem_cons, not_or] at h
    have hrest := ih h.2 (t.insert e.1 e.2)
    rw [find?_insert, if_neg h.1] at hrest
    exact hrest

/-- Under their own keys they leave the same value in every table. -/
lemma exists_find?_insertAll_of_mem {pairs : List (κ × α)} {k : κ} (h : k ∈ pairs.map Prod.fst) :
    ∃ v, ∀ t : Table κ α, (t.insertAll pairs).find? k = some v := by
  induction pairs with
  | nil => cases h
  | cons e pairs ih =>
    by_cases hrest : k ∈ pairs.map Prod.fst
    · obtain ⟨v, hv⟩ := ih hrest
      exact ⟨v, fun t => hv (t.insert e.1 e.2)⟩
    · obtain rfl : k = e.1 := by simpa [hrest] using h
      refine ⟨e.2, fun t => ?_⟩
      have hlast := find?_insertAll_of_notMem hrest (t.insert e.1 e.2)
      rw [find?_insert, if_pos rfl] at hlast
      exact hlast

/-- Writing over what was just written leaves the later value. -/
lemma modify_insert (t : Table κ α) (k : κ) (a b : α) :
    (t.insert k a).modify k (fun _ => b) = t.insert k b := by
  refine ext_find? ?_ fun j => ?_
  · rw [keys_modify, keys_insert, keys_insert]
  · rw [find?_modify, find?_insert, find?_insert]
    by_cases hj : j = k
    · simp [hj]
    · simp [hj]

lemma find?_filter (p : κ → α → Bool) (t : Table κ α) (k : κ) :
    (t.filter p).find? k = (t.find? k).filter (p k) := by
  ext v
  simp only [find?_eq_some_iff, Option.filter_eq_some_iff, entries_filter, List.mem_filter]

omit [DecidableEq κ] in
lemma filter_comm (p q : κ → α → Bool) (t : Table κ α) :
    (t.filter p).filter q = (t.filter q).filter p :=
  ext_entries (List.filter_comm _ _ t.entries)

lemma keys_erase (t : Table κ α) (k : κ) : (t.erase k).keys = t.keys.filter (· ≠ k) := by
  rw [erase, keys, entries_filter, keys, List.filter_map]
  rfl

lemma find?_erase (t : Table κ α) (k j : κ) :
    (t.erase k).find? j = if j = k then none else t.find? j := by
  rw [erase, find?_filter]
  by_cases h : j = k
  · simp [h]
  · cases t.find? j <;> simp [h]

lemma erase_of_notMem {t : Table κ α} {k : κ} (h : k ∉ t.keys) : t.erase k = t := by
  apply ext_entries
  rw [erase, entries_filter, List.filter_eq_self]
  intro e he
  have hne : e.1 ≠ k := fun hk => h (hk ▸ mem_keys.mpr ⟨e.2, he⟩)
  simpa using hne

lemma erase_insert_self {t : Table κ α} {k : κ} (h : k ∉ t.keys) (v : α) :
    (t.insert k v).erase k = t := by
  have herase := congrArg entries (erase_of_notMem h)
  rw [erase, entries_filter] at herase
  apply ext_entries
  rw [erase, entries_filter, entries_insert_of_notMem h, List.filter_append, herase]
  simp

lemma erase_insert_of_ne {t : Table κ α} {j k : κ} (h : j ≠ k) (v : α) :
    (t.insert j v).erase k = (t.erase k).insert j v := by
  refine ext_find? ?_ fun i => ?_
  · rw [keys_erase, keys_insert, keys_insert, keys_erase]
    by_cases hj : j ∈ t.keys
    · simp [hj, h]
    · simp [hj, h]
  · rw [find?_erase, find?_insert, find?_insert, find?_erase]
    by_cases hi : i = j
    · simp [hi, h]
    · simp [hi]

lemma ofList_concat (pairs : List (κ × α)) (e : κ × α) :
    ofList (pairs ++ [e]) = (ofList pairs).insert e.1 e.2 := by
  simp [ofList, insertAll]

/-- Of the pairs written under a key the last one stays. -/
theorem find?_ofList (pairs : List (κ × α)) (k : κ) :
    (ofList pairs).find? k = (pairs.reverse.find? fun e => e.1 = k).map Prod.snd := by
  induction pairs using List.reverseRecOn with
  | nil => rfl
  | append_singleton pairs e ih =>
    rw [ofList_concat, find?_insert, ih, List.reverse_append, List.reverse_singleton,
      List.singleton_append, List.find?_cons]
    by_cases hk : k = e.1
    · simp [hk]
    · have hne : e.1 ≠ k := fun he => hk he.symm
      simp [hk, hne]

lemma mem_keys_ofList {pairs : List (κ × α)} {k : κ} :
    k ∈ (ofList pairs).keys ↔ k ∈ pairs.map Prod.fst := by
  rw [mem_keys_iff_find?, find?_ofList]
  constructor
  · rintro ⟨v, hv⟩
    obtain ⟨e, he, -⟩ := Option.map_eq_some_iff.mp hv
    have hkey : e.1 = k := by simpa using List.find?_some he
    rw [← hkey]
    exact List.mem_map_of_mem (List.mem_reverse.mp (List.mem_of_find?_eq_some he))
  · intro hk
    obtain ⟨v, hv⟩ := exists_find?_insertAll_of_mem hk
    exact ⟨v, by rw [← find?_ofList]; exact hv empty⟩

/-- Nothing is in the table but what was written. -/
lemma mem_of_mem_ofList {pairs : List (κ × α)} {e : κ × α} (h : e ∈ (ofList pairs).entries) :
    e ∈ pairs := by
  have hfind := find?_eq_some_iff.mpr h
  rw [find?_ofList] at hfind
  obtain ⟨f, hf, hv⟩ := Option.map_eq_some_iff.mp hfind
  have hk : f.1 = e.1 := by simpa using List.find?_some hf
  have hfe : f = e := Prod.ext hk hv
  exact hfe ▸ List.mem_reverse.mp (List.mem_of_find?_eq_some hf)

/-- There is one entry for every key that was written. -/
lemma size_ofList (pairs : List (κ × α)) :
    (ofList pairs).size = (pairs.map Prod.fst).dedup.length := by
  have hperm : (ofList pairs).keys.Perm (pairs.map Prod.fst).dedup :=
    (List.perm_ext_iff_of_nodup (ofList pairs).nodup (List.nodup_dedup _)).mpr fun k => by
      rw [List.mem_dedup]
      exact mem_keys_ofList
  rw [← hperm.length_eq, keys, List.length_map, size]

lemma find?_ofList_singleton (k : κ) (a : α) : (ofList [(k, a)]).find? k = some a :=
  find?_eq_some_iff.mpr (List.mem_singleton.mpr rfl)

private lemma insertAll_append (done rest : List (κ × α)) (t : Table κ α)
    (ht : t.entries = done) (h : ((done ++ rest).map Prod.fst).Nodup) :
    (t.insertAll rest).entries = done ++ rest := by
  induction rest generalizing done t with
  | nil => simpa [insertAll] using ht
  | cons e rest ih =>
    have hk : e.1 ∉ t.keys := by
      rw [keys, ht]
      rw [List.map_append, List.map_cons, List.nodup_middle, List.nodup_cons] at h
      exact fun hm => h.1 (List.mem_append_left _ hm)
    have hi := entries_insert_of_notMem hk e.2
    rw [ht] at hi
    have := ih (done ++ [e]) (t.insert e.1 e.2) hi (by simpa using h)
    simpa [insertAll] using this

/-- Pairs whose keys differ stand in the table as they were written. -/
lemma entries_ofList {pairs : List (κ × α)} (h : (pairs.map Prod.fst).Nodup) :
    (ofList pairs).entries = pairs :=
  insertAll_append [] pairs empty rfl h

/-- Writing the entries of a table one after another gives the table back. -/
theorem ofList_entries (t : Table κ α) : ofList t.entries = t :=
  ext_entries (entries_ofList t.nodup)

end ScriptGraph.Table
