import Mathlib.Algebra.Group.Nat.Defs
import Mathlib.Data.List.Nodup
import ScriptGraph.Graph.Arena

/-! The arena of a graph: what an id finds after each operation, and the invariant that every
operation keeps. The invariant ties the four parts of an arena together: nodes carry the id of
their slot, the free stack holds the vacant slots and each of them once, and the count is right. -/
namespace ScriptGraph.Arena

/-- A node stands in the slot that its id names, and the free stack and the count tell the truth
about the slots. -/
structure WellFormed (a : Arena) : Prop where
  ids : ∀ (i : Nat) (s : Slot) (n : Node), a.slots[i]? = some s → s.node = some n →
    n.id = ⟨UInt32.ofNat i, s.generation⟩
  free_nodup : a.free.Nodup
  mem_free : ∀ index, index ∈ a.free ↔ ∃ s, a.slot? index = some s ∧ s.node = none
  count_eq : a.count = a.nodes.length

theorem get?_eq_some_iff {a : Arena} {id : NodeId} {n : Node} :
    a.get? id = some n ↔
      ∃ s, a.slots[id.index.toNat]? = some s ∧ s.generation = id.generation ∧ s.node = some n := by
  unfold get? slot?
  cases a.slots[id.index.toNat]? with
  | none => simp
  | some s => by_cases h : s.generation = id.generation <;> simp [h]

lemma contains_iff {a : Arena} {id : NodeId} : a.contains id = true ↔ ∃ n, a.get? id = some n := by
  simp [contains, Option.isSome_iff_exists]

lemma mem_nodes {a : Arena} {n : Node} : n ∈ a.nodes ↔ ∃ s ∈ a.slots, s.node = some n := by
  simp [nodes]

lemma WellFormed.id_eq {a : Arena} (h : a.WellFormed) {id : NodeId} {n : Node}
    (hn : a.get? id = some n) : n.id = id := by
  obtain ⟨s, hs, hg, hsn⟩ := get?_eq_some_iff.mp hn
  rw [h.ids _ s n hs hsn, hg]
  simp

lemma get?_mem_nodes {a : Arena} {id : NodeId} {n : Node} (h : a.get? id = some n) :
    n ∈ a.nodes := by
  obtain ⟨s, hs, _, hn⟩ := get?_eq_some_iff.mp h
  exact mem_nodes.mpr ⟨s, List.mem_of_getElem? hs, hn⟩

lemma WellFormed.get?_id {a : Arena} (h : a.WellFormed) (hsize : a.slots.length ≤ 2 ^ 32)
    {n : Node} (hn : n ∈ a.nodes) : a.get? n.id = some n := by
  obtain ⟨s, hs, hsn⟩ := mem_nodes.mp hn
  obtain ⟨i, hi, rfl⟩ := List.mem_iff_getElem.mp hs
  have hi' : a.slots[i]? = some a.slots[i] := List.getElem?_eq_getElem hi
  have hid := h.ids i _ n hi' hsn
  have hindex : (UInt32.ofNat i).toNat = i :=
    UInt32.toNat_ofNat_of_lt' (Nat.lt_of_lt_of_le hi hsize)
  refine get?_eq_some_iff.mpr ⟨a.slots[i], ?_, ?_, hsn⟩
  · rw [hid, hindex]
    exact hi'
  · rw [hid]

/-- The generation that a slot has reached. -/
def generation? (a : Arena) (index : UInt32) : Option UInt32 := (a.slot? index).map Slot.generation

lemma generation?_of_get? {a : Arena} {id : NodeId} {n : Node} (h : a.get? id = some n) :
    a.generation? id.index = some id.generation := by
  obtain ⟨s, hs, hg, _⟩ := get?_eq_some_iff.mp h
  rw [generation?, slot?, hs, ← hg]
  rfl

theorem get?_modify (a : Arena) (id : NodeId) (f : Node → Node) (j : NodeId) :
    (a.modify id f).get? j = if j = id then (a.get? j).map f else a.get? j := by
  unfold modify
  by_cases hc : a.contains id
  · rw [if_pos hc]
    obtain ⟨n, hn⟩ := contains_iff.mp hc
    obtain ⟨s, hs, hg, hsn⟩ := get?_eq_some_iff.mp hn
    by_cases hj : j = id
    · subst hj
      rw [if_pos rfl, hn, Option.map_some, get?_eq_some_iff]
      exact ⟨{ s with node := s.node.map f }, by simp [hs], hg, by simp [hsn]⟩
    · rw [if_neg hj]
      by_cases hi : j.index = id.index
      · -- The slot is the same, so the generations differ and neither arena finds a node.
        have hgen : s.generation ≠ j.generation := by
          intro he
          apply hj
          cases j; cases id; simp_all
        simp [get?, slot?, hi, hs, hgen]
      · have hne : id.index.toNat ≠ j.index.toNat := fun he => hi (UInt32.toNat.inj he).symm
        simp [get?, slot?, hne]
  · have hnone : a.get? id = none := by
      rw [contains_iff] at hc
      cases hg : a.get? id with
      | none => rfl
      | some n => exact absurd ⟨n, hg⟩ hc
    rw [if_neg hc]
    by_cases hj : j = id
    · subst hj
      simp [hnone]
    · simp [hj]

theorem get?_map (a : Arena) (f : Node → Node) (j : NodeId) :
    (a.map f).get? j = (a.get? j).map f := by
  unfold get? slot? map
  simp only [List.getElem?_map]
  cases a.slots[j.index.toNat]? with
  | none => rfl
  | some s => by_cases h : s.generation = j.generation <;> simp [h]

/-- What the invariant sees of a slot: its generation and the id of the node in it. -/
def label (s : Slot) : UInt32 × Option NodeId := (s.generation, s.node.map Node.id)

lemma length_nodes (a : Arena) :
    a.nodes.length = (a.slots.map label).countP fun l => l.2.isSome := by
  rw [nodes, List.length_filterMap_eq_countP, List.countP_map]
  congr 1
  funext s
  simp [label]

/-- The invariant is about the labels of the slots, the free stack and the count only. -/
theorem WellFormed.of_labels {a b : Arena} (h : a.WellFormed)
    (hslots : b.slots.map label = a.slots.map label) (hfree : b.free = a.free)
    (hcount : b.count = a.count) : b.WellFormed := by
  have hat (i : Nat) : b.slots[i]?.map label = a.slots[i]?.map label := by
    rw [← List.getElem?_map, ← List.getElem?_map, hslots]
  refine ⟨?_, hfree ▸ h.free_nodup, ?_, ?_⟩
  · intro i s n hs hn
    have hi := hat i
    rw [hs, Option.map_some] at hi
    obtain ⟨t, ht, hl⟩ := Option.map_eq_some_iff.mp hi.symm
    obtain ⟨hg, hid⟩ := Prod.mk.inj hl
    rw [hn, Option.map_some] at hid
    obtain ⟨m, hm, he⟩ := Option.map_eq_some_iff.mp hid
    rw [← he, h.ids i t m ht hm, hg]
  · intro index
    rw [hfree, h.mem_free]
    have hi := hat index.toNat
    unfold slot?
    cases ha : a.slots[index.toNat]? <;> cases hb : b.slots[index.toNat]? <;>
      simp only [ha, hb, Option.map_some, Option.map_none, reduceCtorEq] at hi
    · simp
    · next s t =>
      have hid := congrArg Prod.snd (Option.some.inj hi)
      simp only [label] at hid
      cases hs : s.node <;> cases ht : t.node <;> simp_all
  · rw [hcount, h.count_eq, length_nodes, length_nodes, hslots]

lemma generation?_of_labels {a b : Arena} (hslots : b.slots.map label = a.slots.map label)
    (index : UInt32) : b.generation? index = a.generation? index := by
  have hat := congrArg (fun l => l[index.toNat]?.map Prod.fst) hslots
  simpa [generation?, slot?, label, Function.comp_def] using hat

/-- Whether an id finds a node is a matter of the labels. -/
lemma contains_of_labels {a b : Arena} (hslots : b.slots.map label = a.slots.map label)
    (id : NodeId) : b.contains id = a.contains id := by
  have hat (c : Arena) : c.contains id =
      (c.slots.map label)[id.index.toNat]?.any fun l => l.1 = id.generation && l.2.isSome := by
    unfold contains get? slot?
    rw [List.getElem?_map]
    cases c.slots[id.index.toNat]? with
    | none => rfl
    | some s => by_cases hg : s.generation = id.generation <;> simp [label, hg]
  rw [hat, hat, hslots]

lemma labels_modify (a : Arena) (id : NodeId) {f : Node → Node} (hf : ∀ n, (f n).id = n.id) :
    (a.modify id f).slots.map label = a.slots.map label := by
  unfold modify
  split
  · apply List.ext_getElem?
    intro i
    simp only [List.getElem?_map, List.getElem?_modify]
    cases a.slots[i]? with
    | none => rfl
    | some s =>
      by_cases hi : id.index.toNat = i
      · cases hn : s.node <;> simp [hi, label, hn, hf]
      · simp [hi]
  · rfl

lemma wellFormed_modify {a : Arena} (h : a.WellFormed) (id : NodeId) {f : Node → Node}
    (hf : ∀ n, (f n).id = n.id) : (a.modify id f).WellFormed := by
  apply h.of_labels (labels_modify a id hf)
  · unfold modify; split <;> rfl
  · unfold modify; split <;> rfl

lemma labels_map (a : Arena) {f : Node → Node} (hf : ∀ n, (f n).id = n.id) :
    (a.map f).slots.map label = a.slots.map label := by
  simp only [map, List.map_map]
  apply List.map_congr_left
  intro s _
  cases hn : s.node <;> simp [label, hn, hf]

lemma wellFormed_map {a : Arena} (h : a.WellFormed) {f : Node → Node}
    (hf : ∀ n, (f n).id = n.id) : (a.map f).WellFormed :=
  h.of_labels (a.labels_map hf) rfl rfl

lemma exists_split {l : List Slot} {i : Nat} {s : Slot} (h : l[i]? = some s) (f : Slot → Slot) :
    ∃ l₁ l₂, l = l₁ ++ s :: l₂ ∧ l.modify i f = l₁ ++ f s :: l₂ := by
  have hi : i < l.length := (List.getElem?_eq_some_iff.mp h).1
  obtain ⟨l₁, t, l₂, hl, hlen, hm⟩ := List.exists_of_modify f hi
  have ht : t = s := by
    rw [hl, ← hlen] at h
    simpa using h
  exact ⟨l₁, l₂, ht ▸ hl, ht ▸ hm⟩

lemma wellFormed_empty : empty.WellFormed := by
  refine ⟨?_, List.nodup_nil, ?_, rfl⟩
  · intro i s n hs
    simp [empty] at hs
  · intro index
    simp [empty, slot?]

/-- With no vacant slot, an insertion appends one. -/
lemma insert_of_nil {a : Arena} (hf : a.free = []) (build : NodeId → Node) :
    a.insert build = (⟨UInt32.ofNat a.slots.length, 0⟩,
      ⟨a.slots ++ [⟨0, some (build ⟨UInt32.ofNat a.slots.length, 0⟩)⟩], [], a.count + 1⟩) := by
  simp [insert, hf]

/-- Otherwise it fills the vacant slot on top of the stack. -/
lemma insert_of_cons {a : Arena} {index : UInt32} {free : List UInt32} {s : Slot}
    (hf : a.free = index :: free) (hs : a.slot? index = some s) (build : NodeId → Node) :
    a.insert build = (⟨index, s.generation⟩,
      ⟨a.slots.modify index.toNat fun t => { t with node := some (build ⟨index, s.generation⟩) },
        free, a.count + 1⟩) := by
  simp [insert, hf, hs]

lemma count_insert (a : Arena) (build : NodeId → Node) :
    (a.insert build).2.count = a.count + 1 := by
  unfold insert
  split <;> rfl

lemma count_modify (a : Arena) (id : NodeId) (f : Node → Node) :
    (a.modify id f).count = a.count := by
  unfold modify
  split <;> rfl

lemma getElem?_modify_eq_ite (l : List Slot) (f : Slot → Slot) (i j : Nat) :
    (l.modify i f)[j]? = if i = j then l[j]?.map f else l[j]? := by
  by_cases h : i = j
  · subst h
    simp
  · simp [h]

lemma getElem?_concat_eq_ite (l : List Slot) (s : Slot) (j : Nat) :
    (l ++ [s])[j]? = if j = l.length then some s else l[j]? := by
  rcases Nat.lt_trichotomy j l.length with h | h | h
  · rw [List.getElem?_append_left h, if_neg (by omega)]
  · simp [h]
  · have hout : (l ++ [s]).length ≤ j := by
      simp only [List.length_append, List.length_singleton]
      omega
    rw [if_neg (by omega), List.getElem?_eq_none hout, List.getElem?_eq_none (by omega)]

lemma get?_insert_of_nil {a : Arena} (hf : a.free = []) (hsize : a.slots.length < 2 ^ 32)
    (build : NodeId → Node) :
    (a.insert build).2.get? (a.insert build).1 = some (build (a.insert build).1) := by
  have hindex : (UInt32.ofNat a.slots.length).toNat = a.slots.length :=
    UInt32.toNat_ofNat_of_lt' hsize
  rw [insert_of_nil hf, get?_eq_some_iff, hindex]
  simp

lemma modify_insert_of_nil {a : Arena} (hf : a.free = []) (hsize : a.slots.length < 2 ^ 32)
    (build : NodeId → Node) (f : Node → Node) :
    (a.insert build).2.modify (a.insert build).1 f = (a.insert fun id => f (build id)).2 := by
  have hindex : (UInt32.ofNat a.slots.length).toNat = a.slots.length :=
    UInt32.toNat_ofNat_of_lt' hsize
  have hlive := contains_iff.mpr ⟨_, get?_insert_of_nil hf hsize build⟩
  rw [modify, if_pos hlive, insert_of_nil hf, insert_of_nil hf, hindex]
  simp only [mk.injEq, and_self, and_true]
  apply List.ext_getElem?
  intro i
  rw [getElem?_modify_eq_ite, getElem?_concat_eq_ite, getElem?_concat_eq_ite]
  by_cases hi : i = a.slots.length
  · simp [hi]
  · have hne : a.slots.length ≠ i := fun he => hi he.symm
    simp [hi, hne]

/-- The id that an insertion issues finds the new node, unless the arena has run out of indices. -/
theorem get?_insert_self {a : Arena} (h : a.WellFormed) (hsize : a.slots.length < 2 ^ 32)
    (build : NodeId → Node) :
    (a.insert build).2.get? (a.insert build).1 = some (build (a.insert build).1) := by
  cases hf : a.free with
  | nil => exact get?_insert_of_nil hf hsize build
  | cons index free =>
    obtain ⟨s, hs, _⟩ := (h.mem_free index).mp (by simp [hf])
    have hs' : a.slots[index.toNat]? = some s := hs
    rw [insert_of_cons hf hs, get?_eq_some_iff]
    simp [hs']

/-- Other ids find what they found before. -/
theorem get?_insert_of_ne {a : Arena} (h : a.WellFormed) {build : NodeId → Node} {j : NodeId}
    (hj : j ≠ (a.insert build).1) : (a.insert build).2.get? j = a.get? j := by
  cases hf : a.free with
  | nil =>
    rw [insert_of_nil hf] at hj ⊢
    simp only [get?, slot?, getElem?_concat_eq_ite]
    by_cases hi : j.index.toNat = a.slots.length
    · have hgen : (0 : UInt32) ≠ j.generation := by
        intro he
        apply hj
        rw [← hi, he, UInt32.ofNat_toNat]
      simp [hi, hgen]
    · simp [hi]
  | cons index free =>
    obtain ⟨s, hs, _⟩ := (h.mem_free index).mp (by simp [hf])
    have hs' : a.slots[index.toNat]? = some s := hs
    rw [insert_of_cons hf hs] at hj ⊢
    simp only [get?, slot?, getElem?_modify_eq_ite]
    by_cases hi : j.index = index
    · have hgen : s.generation ≠ j.generation := by
        intro he
        apply hj
        cases j; simp_all
      simp [hi, hs', hgen]
    · have hne : index.toNat ≠ j.index.toNat := fun he => hi (UInt32.toNat.inj he).symm
      simp [hne]

lemma get?_issued {a : Arena} (h : a.WellFormed) (hsize : a.slots.length < 2 ^ 32)
    (build : NodeId → Node) : a.get? (a.insert build).1 = none := by
  cases hf : a.free with
  | nil =>
    have hindex : (UInt32.ofNat a.slots.length).toNat = a.slots.length :=
      UInt32.toNat_ofNat_of_lt' hsize
    simp [insert_of_nil hf, get?, slot?, hindex]
  | cons index free =>
    obtain ⟨s, hs, hvacant⟩ := (h.mem_free index).mp (by simp [hf])
    simp [insert_of_cons hf hs, get?, hs, hvacant]

/-- The issued id carries the generation of its slot; a slot that is new is in its first. -/
lemma generation_issued {a : Arena} (h : a.WellFormed) (hsize : a.slots.length < 2 ^ 32)
    (build : NodeId → Node) :
    (a.insert build).1.generation = (a.generation? (a.insert build).1.index).getD 0 := by
  cases hf : a.free with
  | nil =>
    have hindex : (UInt32.ofNat a.slots.length).toNat = a.slots.length :=
      UInt32.toNat_ofNat_of_lt' hsize
    simp [insert_of_nil hf, generation?, slot?, hindex]
  | cons index free =>
    obtain ⟨s, hs, _⟩ := (h.mem_free index).mp (by simp [hf])
    simp [insert_of_cons hf hs, generation?, hs]

lemma generation?_insert {a : Arena} (h : a.WellFormed) (hsize : a.slots.length < 2 ^ 32)
    (build : NodeId → Node) (index : UInt32) :
    (a.insert build).2.generation? index =
      if index = (a.insert build).1.index then some (a.insert build).1.generation
      else a.generation? index := by
  cases hf : a.free with
  | nil =>
    have hindex : (UInt32.ofNat a.slots.length).toNat = a.slots.length :=
      UInt32.toNat_ofNat_of_lt' hsize
    have hiff : index.toNat = a.slots.length ↔ index = UInt32.ofNat a.slots.length := by
      rw [← UInt32.toNat_inj, hindex]
    simp only [insert_of_nil hf, generation?, slot?, getElem?_concat_eq_ite, hiff]
    split <;> rfl
  | cons top free =>
    obtain ⟨s, hs, _⟩ := (h.mem_free top).mp (by simp [hf])
    have hs' : a.slots[top.toNat]? = some s := hs
    simp only [insert_of_cons hf hs, generation?, slot?, getElem?_modify_eq_ite]
    by_cases hi : index = top
    · subst hi
      simp [hs']
    · have hne : top.toNat ≠ index.toNat := fun he => hi (UInt32.toNat.inj he).symm
      simp [hi, hne]

lemma nodes_map (a : Arena) (f : Node → Node) : (a.map f).nodes = a.nodes.map f := by
  rw [nodes, nodes, map, List.filterMap_map, List.map_filterMap]
  rfl

lemma mem_nodes_modify {a : Arena} {id : NodeId} {f : Node → Node} {n : Node}
    (h : n ∈ (a.modify id f).nodes) : n ∈ a.nodes ∨ ∃ m, a.get? id = some m ∧ n = f m := by
  unfold modify at h
  split at h
  · next hc =>
    obtain ⟨m, hm⟩ := contains_iff.mp hc
    obtain ⟨s, hs, _, hsm⟩ := get?_eq_some_iff.mp hm
    obtain ⟨t, ht, htn⟩ := mem_nodes.mp h
    obtain ⟨i, hi⟩ := List.mem_iff_getElem?.mp ht
    rw [getElem?_modify_eq_ite] at hi
    split at hi
    · next heq =>
      subst heq
      rw [hs] at hi
      obtain rfl := Option.some.inj hi
      simp only [hsm, Option.map_some, Option.some.injEq] at htn
      exact Or.inr ⟨m, hm, htn.symm⟩
    · exact Or.inl (mem_nodes.mpr ⟨t, List.mem_of_getElem? hi, htn⟩)
  · exact Or.inl h

lemma mem_nodes_insert {a : Arena} {build : NodeId → Node} {n : Node}
    (h : n ∈ (a.insert build).2.nodes) : n ∈ a.nodes ∨ ∃ id, n = build id := by
  obtain ⟨s, hs, hn⟩ := mem_nodes.mp h
  unfold insert at hs
  split at hs
  · next index free _ =>
    obtain ⟨i, hi⟩ := List.mem_iff_getElem?.mp hs
    rw [getElem?_modify_eq_ite] at hi
    split at hi
    · obtain ⟨t, _, rfl⟩ := Option.map_eq_some_iff.mp hi
      exact Or.inr ⟨_, (Option.some.inj hn).symm⟩
    · exact Or.inl (mem_nodes.mpr ⟨s, List.mem_of_getElem? hi, hn⟩)
  · rcases List.mem_append.mp hs with hs | hs
    · exact Or.inl (mem_nodes.mpr ⟨s, hs, hn⟩)
    · rw [List.mem_singleton.mp hs] at hn
      exact Or.inr ⟨_, (Option.some.inj hn).symm⟩

lemma get?_insert_of_some {a : Arena} (h : a.WellFormed) {build : NodeId → Node} {j : NodeId}
    {n : Node} (hn : a.get? j = some n) : (a.insert build).2.get? j = some n := by
  obtain ⟨s, hs, hg, hsn⟩ := get?_eq_some_iff.mp hn
  cases hf : a.free with
  | nil =>
    have hi : j.index.toNat ≠ a.slots.length := by
      have := (List.getElem?_eq_some_iff.mp hs).1
      omega
    rw [insert_of_nil hf, get?_eq_some_iff]
    exact ⟨s, by rw [getElem?_concat_eq_ite, if_neg hi, hs], hg, hsn⟩
  | cons index free =>
    rw [get?_insert_of_ne h, hn]
    rintro rfl
    obtain ⟨t, ht, hvacant⟩ := (h.mem_free index).mp (by simp [hf])
    rw [insert_of_cons hf ht] at hs
    rw [slot?] at ht
    rw [ht] at hs
    simp [← Option.some.inj hs, hvacant] at hsn

theorem wellFormed_insert {a : Arena} (h : a.WellFormed) {build : NodeId → Node}
    (hb : ∀ id, (build id).id = id) : (a.insert build).2.WellFormed := by
  cases hf : a.free with
  | nil =>
    rw [insert_of_nil hf]
    refine ⟨?_, List.nodup_nil, ?_, ?_⟩
    · intro i s n hs hn
      rw [getElem?_concat_eq_ite] at hs
      split at hs
      · next hi =>
        subst hi
        rw [← Option.some.inj hs] at hn ⊢
        rw [← Option.some.inj hn, hb]
      · exact h.ids i s n hs hn
    · intro index
      have hold := h.mem_free index
      rw [hf] at hold
      simp only [slot?, getElem?_concat_eq_ite] at hold ⊢
      split
      · simp
      · exact hold
    · simp [nodes, h.count_eq]
  | cons index free =>
    obtain ⟨s, hs, hvacant⟩ := (h.mem_free index).mp (by simp [hf])
    have hs' : a.slots[index.toNat]? = some s := hs
    have hfree := h.free_nodup
    rw [hf, List.nodup_cons] at hfree
    rw [insert_of_cons hf hs]
    refine ⟨?_, hfree.2, ?_, ?_⟩
    · intro i t n ht hn
      rw [getElem?_modify_eq_ite] at ht
      split at ht
      · next hi =>
        subst hi
        rw [hs', Option.map_some] at ht
        rw [← Option.some.inj ht] at hn ⊢
        rw [← Option.some.inj hn, hb]
        simp
      · exact h.ids i t n ht hn
    · intro j
      have hold := h.mem_free j
      rw [hf, List.mem_cons] at hold
      simp only [slot?, getElem?_modify_eq_ite] at hold ⊢
      by_cases hj : j = index
      · subst hj
        simp [hs', hfree.1]
      · have hne : index.toNat ≠ j.toNat := fun he => hj (UInt32.toNat.inj he).symm
        simpa [hj, hne] using hold
    · obtain ⟨l₁, l₂, hl, hm⟩ := exists_split hs'
        fun t => { t with node := some (build ⟨index, s.generation⟩) }
      have hcount := h.count_eq
      simp only [nodes] at hcount ⊢
      rw [hm, hcount, hl]
      simp [hvacant]
      omega

lemma remove_eq_some {a b : Arena} {id : NodeId} {n : Node} (h : a.remove id = some (n, b)) :
    a.get? id = some n ∧ b = ⟨a.slots.modify id.index.toNat fun s => ⟨s.generation + 1, none⟩,
      id.index :: a.free, a.count - 1⟩ := by
  obtain ⟨m, hm, he⟩ := Option.map_eq_some_iff.mp h
  obtain ⟨rfl, rfl⟩ := Prod.mk.inj he
  exact ⟨hm, rfl⟩

lemma generation?_remove {a b : Arena} {id : NodeId} {n : Node} (h : a.remove id = some (n, b))
    (index : UInt32) :
    b.generation? index =
      if index = id.index then some (id.generation + 1) else a.generation? index := by
  obtain ⟨hn, rfl⟩ := remove_eq_some h
  obtain ⟨s, hs, hg, _⟩ := get?_eq_some_iff.mp hn
  simp only [generation?, slot?, getElem?_modify_eq_ite]
  by_cases hi : index = id.index
  · subst hi
    simp [hs, hg]
  · have hne : id.index.toNat ≠ index.toNat := fun he => hi (UInt32.toNat.inj he).symm
    simp [hi, hne]

lemma mem_nodes_remove {a b : Arena} {id : NodeId} {m n : Node} (h : a.remove id = some (m, b))
    (hn : n ∈ b.nodes) : n ∈ a.nodes := by
  obtain ⟨_, rfl⟩ := remove_eq_some h
  obtain ⟨s, hs, hsn⟩ := mem_nodes.mp hn
  obtain ⟨i, hi⟩ := List.mem_iff_getElem?.mp hs
  rw [getElem?_modify_eq_ite] at hi
  split at hi
  · obtain ⟨t, _, rfl⟩ := Option.map_eq_some_iff.mp hi
    cases hsn
  · exact mem_nodes.mpr ⟨s, List.mem_of_getElem? hi, hsn⟩

lemma get?_remove_self {a b : Arena} {id : NodeId} {n : Node} (h : a.remove id = some (n, b)) :
    b.get? id = none := by
  obtain ⟨hn, rfl⟩ := remove_eq_some h
  obtain ⟨s, hs, _, _⟩ := get?_eq_some_iff.mp hn
  simp [get?, slot?, hs]

/-- Other ids find what they found before. -/
theorem get?_remove_of_ne {a b : Arena} {id j : NodeId} {n : Node}
    (h : a.remove id = some (n, b)) (hj : j ≠ id) : b.get? j = a.get? j := by
  obtain ⟨hn, rfl⟩ := remove_eq_some h
  obtain ⟨s, hs, hg, _⟩ := get?_eq_some_iff.mp hn
  simp only [get?, slot?, getElem?_modify_eq_ite]
  by_cases hi : j.index = id.index
  · have hgen : s.generation ≠ j.generation := by
      intro he
      apply hj
      cases j; cases id; simp_all
    simp [hi, hs, hgen]
  · have hne : id.index.toNat ≠ j.index.toNat := fun he => hi (UInt32.toNat.inj he).symm
    simp [hne]

theorem wellFormed_remove {a b : Arena} (h : a.WellFormed) {id : NodeId} {n : Node}
    (hr : a.remove id = some (n, b)) : b.WellFormed := by
  obtain ⟨hn, rfl⟩ := remove_eq_some hr
  obtain ⟨s, hs, hg, hsn⟩ := get?_eq_some_iff.mp hn
  have hfresh : id.index ∉ a.free := by
    intro hm
    obtain ⟨t, ht, hvacant⟩ := (h.mem_free id.index).mp hm
    rw [slot?, hs] at ht
    rw [← Option.some.inj ht, hsn] at hvacant
    cases hvacant
  refine ⟨?_, List.nodup_cons.mpr ⟨hfresh, h.free_nodup⟩, ?_, ?_⟩
  · intro i t m ht hm
    rw [getElem?_modify_eq_ite] at ht
    split at ht
    · obtain ⟨u, _, hu⟩ := Option.map_eq_some_iff.mp ht
      rw [← hu] at hm
      cases hm
    · exact h.ids i t m ht hm
  · intro index
    have hold := h.mem_free index
    simp only [slot?, getElem?_modify_eq_ite, List.mem_cons] at hold ⊢
    by_cases hi : index = id.index
    · subst hi
      simp [hs]
    · have hne : id.index.toNat ≠ index.toNat := fun he => hi (UInt32.toNat.inj he).symm
      simpa [hi, hne] using hold
  · obtain ⟨l₁, l₂, hl, hm⟩ := exists_split hs fun s => (⟨s.generation + 1, none⟩ : Slot)
    have hcount := h.count_eq
    simp only [nodes] at hcount ⊢
    rw [hm, hcount, hl]
    simp [hsn]

end ScriptGraph.Arena
