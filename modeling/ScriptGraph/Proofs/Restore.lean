import Mathlib.Data.List.Perm.Lattice
import ScriptGraph.Proofs.Arena

/-! Rebuilding an arena from stored nodes and vacant ids. A restore succeeds exactly when no stored
index is too large and no two nodes claim one slot, and then the arena is well formed and holds the
stored nodes. What a well-formed arena lists about itself restores to its own slots. -/
namespace ScriptGraph.Arena

/-- The slots that stored ids ask for. -/
def slotCount (ids : List NodeId) : Nat := ids.foldl (fun m id => max m (id.index.toNat + 1)) 0

/-- The generation at which slots start that no stored id mentions. -/
def generationFloor (ids : List NodeId) : UInt32 :=
  ids.foldl (fun m id => max m (nextGeneration id.generation)) 0

/-- The slots that a restore makes. -/
def restoredSlots (nodes : List Node) (vacant : List NodeId) : List Slot :=
  let ids := nodes.map Node.id ++ vacant
  (List.range (slotCount ids)).map (restoredSlot nodes vacant (generationFloor ids))

/-- The vacant slots among `slots`, the lowest first. -/
def vacantIndices (slots : List Slot) : List UInt32 :=
  slots.zipIdx.filterMap fun e => if e.1.node.isNone then some (UInt32.ofNat e.2) else none

lemma firstClash_eq_none_iff {taken : List UInt32} {nodes : List Node} :
    firstClash taken nodes = none ↔
      (nodes.map fun n => n.id.index).Nodup ∧ ∀ n ∈ nodes, n.id.index ∉ taken := by
  induction nodes generalizing taken with
  | nil => simp [firstClash]
  | cons n rest ih =>
    by_cases hn : n.id.index ∈ taken
    · simp [firstClash, hn]
    · simp only [firstClash, hn, if_false, ih, List.map_cons, List.nodup_cons, List.mem_map,
        List.mem_cons, not_or, not_exists, not_and, forall_eq_or_imp, not_false_eq_true, true_and]
      constructor
      · intro h
        exact ⟨⟨fun m hm he => (h.2 m hm).1 he, h.1⟩, fun m hm => (h.2 m hm).2⟩
      · intro h
        exact ⟨h.1.2, fun m hm => ⟨h.1.1 m hm, h.2 m hm⟩⟩

/-- A restore succeeds exactly if every index is below the limit and the slots of the nodes are
distinct, and this is what it gives. -/
theorem restore_eq_ok_iff {nodes : List Node} {vacant : List NodeId} {a : Arena} :
    restore nodes vacant = .ok a ↔
      (∀ id ∈ nodes.map Node.id ++ vacant,
        id.index.toNat < nodes.length + vacant.length + maxGap) ∧
      (nodes.map fun n => n.id.index).Nodup ∧
      a = ⟨restoredSlots nodes vacant, vacantIndices (restoredSlots nodes vacant),
        nodes.length⟩ := by
  unfold restore
  cases hl : (nodes.map Node.id ++ vacant).find? fun id =>
      nodes.length + vacant.length + maxGap ≤ id.index.toNat with
  | some id =>
    have hm := List.mem_of_find?_eq_some hl
    have hp := List.find?_some hl
    simp only [decide_eq_true_eq] at hp
    simp only [hl, reduceCtorEq, false_iff, not_and]
    intro h
    have := h id hm
    omega
  | none =>
    have hp := List.find?_eq_none.mp hl
    simp only [decide_eq_true_eq, Nat.not_le] at hp
    cases hc : firstClash [] nodes with
    | some n =>
      have hnot : ¬ (nodes.map fun n => n.id.index).Nodup := by
        intro hn
        have := firstClash_eq_none_iff.mpr ⟨hn, fun m _ => List.not_mem_nil⟩
        rw [hc] at this
        cases this
      simp only [hl, reduceCtorEq, false_iff, not_and]
      exact fun _ hn => absurd hn hnot
    | none =>
      have hn := (firstClash_eq_none_iff.mp hc).1
      simp only [hl, Except.ok.injEq]
      constructor
      · intro he
        exact ⟨hp, hn, he.symm⟩
      · intro he
        exact he.2.2.symm

lemma foldl_max_le_iff {f : NodeId → Nat} {ids : List NodeId} {start bound : Nat} :
    ids.foldl (fun m id => max m (f id)) start ≤ bound ↔
      start ≤ bound ∧ ∀ id ∈ ids, f id ≤ bound := by
  induction ids generalizing start with
  | nil => simp
  | cons id rest ih => rw [List.foldl_cons, ih, Nat.max_le, and_assoc, List.forall_mem_cons]

lemma slotCount_le_iff {ids : List NodeId} {bound : Nat} :
    slotCount ids ≤ bound ↔ ∀ id ∈ ids, id.index.toNat < bound := by
  rw [slotCount, foldl_max_le_iff]
  exact and_iff_right (Nat.zero_le bound)

lemma lt_slotCount {ids : List NodeId} {id : NodeId} (h : id ∈ ids) :
    id.index.toNat < slotCount ids :=
  slotCount_le_iff.mp (Nat.le_refl _) id h

lemma slotCount_le_indices (ids : List NodeId) : slotCount ids ≤ 2 ^ 32 :=
  slotCount_le_iff.mpr fun id _ => id.index.toNat_lt

lemma getElem?_restoredSlots (nodes : List Node) (vacant : List NodeId) (i : Nat) :
    (restoredSlots nodes vacant)[i]? =
      if i < slotCount (nodes.map Node.id ++ vacant) then
        some (restoredSlot nodes vacant (generationFloor (nodes.map Node.id ++ vacant)) i)
      else none := by
  simp only [restoredSlots, List.getElem?_map]
  by_cases h : i < slotCount (nodes.map Node.id ++ vacant)
  · simp [h]
  · simp [h]

lemma node_restoredSlot (nodes : List Node) (vacant : List NodeId) (floor : UInt32) (i : Nat) :
    (restoredSlot nodes vacant floor i).node = nodes.find? fun n => n.id.index.toNat = i := by
  unfold restoredSlot
  cases nodes.find? fun n => n.id.index.toNat = i with
  | some n => rfl
  | none =>
    dsimp only
    cases vacant.find? fun id => id.index.toNat = i <;> rfl

lemma generation_restoredSlot {nodes : List Node} {vacant : List NodeId} {floor : UInt32} {i : Nat}
    {n : Node} (h : (restoredSlot nodes vacant floor i).node = some n) :
    n.id.index.toNat = i ∧ (restoredSlot nodes vacant floor i).generation = n.id.generation := by
  rw [node_restoredSlot] at h
  refine ⟨by simpa using List.find?_some h, ?_⟩
  simp [restoredSlot, h]

lemma pairwise_zipIdx (slots : List Slot) : slots.zipIdx.Pairwise fun d e => d.2 < e.2 := by
  have h : (slots.zipIdx.map Prod.snd).Pairwise (· < ·) := by
    rw [List.zipIdx_map_snd]
    exact List.pairwise_lt_range'
  exact List.pairwise_map.mp h

lemma toNat_ofNat_of_mem {slots : List Slot} (hsize : slots.length ≤ 2 ^ 32) {e : Slot × Nat}
    (he : e ∈ slots.zipIdx) : (UInt32.ofNat e.2).toNat = e.2 := by
  have hlt := List.snd_lt_of_mem_zipIdx he
  exact UInt32.toNat_ofNat_of_lt' (Nat.lt_of_lt_of_le hlt hsize)

lemma mem_vacantIndices {slots : List Slot} (hsize : slots.length ≤ 2 ^ 32) {index : UInt32} :
    index ∈ vacantIndices slots ↔ ∃ s, slots[index.toNat]? = some s ∧ s.node = none := by
  simp only [vacantIndices, List.mem_filterMap]
  constructor
  · rintro ⟨e, he, hi⟩
    by_cases hv : e.1.node.isNone
    · rw [if_pos hv, Option.some.injEq] at hi
      have hn := toNat_ofNat_of_mem hsize he
      rw [hi] at hn
      exact ⟨e.1, hn ▸ List.mem_zipIdx_iff_getElem?.mp he, Option.isNone_iff_eq_none.mp hv⟩
    · rw [if_neg hv] at hi
      cases hi
  · rintro ⟨s, hs, hv⟩
    exact ⟨(s, index.toNat), List.mk_mem_zipIdx_iff_getElem?.mpr hs, by simp [hv]⟩

lemma nodup_vacantIndices {slots : List Slot} (hsize : slots.length ≤ 2 ^ 32) :
    (vacantIndices slots).Nodup := by
  unfold vacantIndices List.Nodup
  rw [List.pairwise_filterMap]
  apply (pairwise_zipIdx slots).imp_of_mem
  intro d e hd he hlt i hi j hj hij
  have hdn := toNat_ofNat_of_mem hsize hd
  have hen := toNat_ofNat_of_mem hsize he
  split at hi <;> split at hj <;> simp only [Option.some.injEq, reduceCtorEq] at hi hj
  rw [hi, hij, ← hj, hen] at hdn
  omega

lemma find?_index_eq {nodes : List Node} (hnodup : (nodes.map fun n => n.id.index).Nodup) {n : Node}
    (hn : n ∈ nodes) : (nodes.find? fun m => m.id.index.toNat = n.id.index.toNat) = some n := by
  induction nodes with
  | nil => cases hn
  | cons m rest ih =>
    rw [List.map_cons, List.nodup_cons] at hnodup
    rcases List.mem_cons.mp hn with rfl | hn'
    · simp
    · have hne : m.id.index.toNat ≠ n.id.index.toNat := by
        intro he
        apply hnodup.1
        rw [UInt32.toNat.inj he]
        exact List.mem_map.mpr ⟨n, hn', rfl⟩
      rw [List.find?_cons_of_neg (by simpa using hne)]
      exact ih hnodup.2 hn'

/-- The nodes of a restored arena are the stored ones, brought into slot order. -/
theorem perm_filterMap_restoredSlots {nodes : List Node} (vacant : List NodeId)
    (hnodup : (nodes.map fun n => n.id.index).Nodup) :
    ((restoredSlots nodes vacant).filterMap Slot.node).Perm nodes := by
  have hat : (restoredSlots nodes vacant).filterMap Slot.node =
      (List.range (slotCount (nodes.map Node.id ++ vacant))).filterMap fun i =>
        nodes.find? fun n => n.id.index.toNat = i := by
    rw [restoredSlots, List.filterMap_map]
    congr 1
    funext i
    exact node_restoredSlot nodes vacant _ i
  rw [hat, List.perm_ext_iff_of_nodup]
  · intro n
    simp only [List.mem_filterMap, List.mem_range]
    constructor
    · rintro ⟨i, _, hi⟩
      exact List.mem_of_find?_eq_some hi
    · intro hn
      refine ⟨n.id.index.toNat, ?_, find?_index_eq hnodup hn⟩
      exact lt_slotCount (List.mem_append_left _ (List.mem_map_of_mem hn))
  · unfold List.Nodup
    rw [List.pairwise_filterMap]
    apply List.nodup_range.imp
    rintro i j hij n hn m hm rfl
    have hi : n.id.index.toNat = i := by simpa using List.find?_some hn
    have hj : n.id.index.toNat = j := by simpa using List.find?_some hm
    exact hij (hi ▸ hj)
  · exact List.Nodup.of_map _ hnodup

theorem wellFormed_restore {nodes : List Node} {vacant : List NodeId} {a : Arena}
    (h : restore nodes vacant = .ok a) : a.WellFormed := by
  obtain ⟨_, hnodup, rfl⟩ := restore_eq_ok_iff.mp h
  have hsize : (restoredSlots nodes vacant).length ≤ 2 ^ 32 := by
    simpa [restoredSlots] using slotCount_le_indices (nodes.map Node.id ++ vacant)
  refine ⟨?_, nodup_vacantIndices hsize, fun index => mem_vacantIndices hsize, ?_⟩
  · intro i s n hs hn
    rw [getElem?_restoredSlots] at hs
    split at hs
    · rw [← Option.some.inj hs] at hn ⊢
      obtain ⟨hi, hg⟩ := generation_restoredSlot hn
      rw [hg, ← hi, UInt32.ofNat_toNat]
    · cases hs
  · exact (perm_filterMap_restoredSlots vacant hnodup).length_eq.symm

section Listing

variable {a : Arena}

lemma mem_vacancies (hsize : a.slots.length ≤ 2 ^ 32) {id : NodeId} :
    id ∈ a.vacancies ↔
      ∃ s, a.slots[id.index.toNat]? = some s ∧ s.node = none ∧ s.generation = id.generation := by
  simp only [vacancies, List.mem_filterMap]
  constructor
  · rintro ⟨e, he, hi⟩
    by_cases hv : e.1.node.isNone
    · rw [if_pos hv, Option.some.injEq] at hi
      subst hi
      rw [toNat_ofNat_of_mem hsize he]
      exact ⟨e.1, List.mem_zipIdx_iff_getElem?.mp he, Option.isNone_iff_eq_none.mp hv, rfl⟩
    · rw [if_neg hv] at hi
      cases hi
  · rintro ⟨s, hs, hv, hg⟩
    exact ⟨(s, id.index.toNat), List.mk_mem_zipIdx_iff_getElem?.mpr hs, by simp [hv, hg]⟩

lemma WellFormed.slot_of_mem (h : a.WellFormed) (hsize : a.slots.length ≤ 2 ^ 32) {n : Node}
    (hn : n ∈ a.nodes) :
    ∃ s, a.slots[n.id.index.toNat]? = some s ∧ s.node = some n ∧
      s.generation = n.id.generation := by
  obtain ⟨s, hs, hg, hsn⟩ := get?_eq_some_iff.mp (h.get?_id hsize hn)
  exact ⟨s, hs, hsn, hg⟩

lemma WellFormed.nodup_indices (h : a.WellFormed) (hsize : a.slots.length ≤ 2 ^ 32) :
    (a.nodes.map fun n => n.id.index).Nodup := by
  have hzip : a.nodes = a.slots.zipIdx.filterMap fun e => e.1.node := by
    have := List.filterMap_map (f := Prod.fst) (g := Slot.node) (l := a.slots.zipIdx)
    rw [List.zipIdx_map_fst] at this
    exact this
  unfold List.Nodup
  rw [List.pairwise_map, hzip, List.pairwise_filterMap]
  apply (pairwise_zipIdx a.slots).imp_of_mem
  intro d e hd he hlt n hn m hm hnm
  rw [h.ids d.2 d.1 n (List.mem_zipIdx_iff_getElem?.mp hd) hn,
    h.ids e.2 e.1 m (List.mem_zipIdx_iff_getElem?.mp he) hm] at hnm
  have hdn := toNat_ofNat_of_mem hsize hd
  have hen := toNat_ofNat_of_mem hsize he
  simp only at hnm
  rw [hnm, hen] at hdn
  omega

lemma length_nodes_add_length_vacancies (a : Arena) :
    a.nodes.length + a.vacancies.length = a.slots.length := by
  have hv : a.vacancies.length = a.slots.countP fun s => s.node.isNone := by
    have hz := List.countP_map (p := fun s : Slot => s.node.isNone) (f := Prod.fst)
      (l := a.slots.zipIdx)
    rw [List.zipIdx_map_fst] at hz
    rw [vacancies, List.length_filterMap_eq_countP, hz]
    congr 1
    funext e
    by_cases he : e.1.node.isNone <;> simp [he]
  rw [hv, nodes, List.length_filterMap_eq_countP, List.length_eq_countP_add_countP
    (fun s : Slot => s.node.isSome) (l := a.slots)]
  congr 2
  funext s
  cases s.node <;> rfl

/-- The ids that an arena lists, nodes before vacant slots. -/
def listedIds (a : Arena) : List NodeId := a.nodes.map Node.id ++ a.vacancies

lemma WellFormed.index_lt_of_listed (h : a.WellFormed) (hsize : a.slots.length ≤ 2 ^ 32)
    {id : NodeId} (hid : id ∈ a.listedIds) : id.index.toNat < a.slots.length := by
  rcases List.mem_append.mp hid with hn | hv
  · obtain ⟨n, hmem, rfl⟩ := List.mem_map.mp hn
    obtain ⟨s, hs, _⟩ := h.slot_of_mem hsize hmem
    exact (List.getElem?_eq_some_iff.mp hs).1
  · obtain ⟨s, hs, _⟩ := (mem_vacancies hsize).mp hv
    exact (List.getElem?_eq_some_iff.mp hs).1

lemma WellFormed.slotCount_listedIds (h : a.WellFormed) (hsize : a.slots.length ≤ 2 ^ 32) :
    slotCount a.listedIds = a.slots.length := by
  apply Nat.le_antisymm
  · exact slotCount_le_iff.mpr fun id hid => h.index_lt_of_listed hsize hid
  · rcases Nat.eq_zero_or_pos a.slots.length with h0 | hpos
    · omega
    · have hi : a.slots.length - 1 < a.slots.length := by omega
      have hindex : (UInt32.ofNat (a.slots.length - 1)).toNat = a.slots.length - 1 :=
        UInt32.toNat_ofNat_of_lt' (Nat.lt_of_lt_of_le hi hsize)
      let last := a.slots[a.slots.length - 1]
      have hlast : a.slots[a.slots.length - 1]? = some last := List.getElem?_eq_getElem hi
      have hlisted : ⟨UInt32.ofNat (a.slots.length - 1), last.generation⟩ ∈ a.listedIds := by
        cases hn : last.node with
        | none =>
          apply List.mem_append_right
          refine (mem_vacancies hsize).mpr ⟨last, ?_, hn, rfl⟩
          rw [hindex]
          exact hlast
        | some n =>
          apply List.mem_append_left
          rw [← h.ids _ last n hlast hn]
          exact List.mem_map_of_mem (mem_nodes.mpr ⟨last, List.mem_of_getElem? hlast, hn⟩)
      have := lt_slotCount hlisted
      rw [hindex] at this
      omega

lemma WellFormed.restoredSlot_listing (h : a.WellFormed) (hsize : a.slots.length ≤ 2 ^ 32)
    {f : Node → Node} (hf : ∀ n, (f n).id = n.id)
    (hnodup : ((a.nodes.map f).map fun n => n.id.index).Nodup) {floor : UInt32} {i : Nat}
    (hi : i < a.slots.length) :
    restoredSlot (a.nodes.map f) a.vacancies floor i =
      { a.slots[i] with node := a.slots[i].node.map f } := by
  have hs : a.slots[i]? = some a.slots[i] := List.getElem?_eq_getElem hi
  have hindex : (UInt32.ofNat i).toNat = i :=
    UInt32.toNat_ofNat_of_lt' (Nat.lt_of_lt_of_le hi hsize)
  generalize a.slots[i] = s at hs
  cases hn : s.node with
  | some n =>
    have hid := h.ids i s n hs hn
    have hmem : f n ∈ a.nodes.map f :=
      List.mem_map_of_mem (mem_nodes.mpr ⟨s, List.mem_of_getElem? hs, hn⟩)
    have hfind := find?_index_eq hnodup hmem
    rw [hf, hid] at hfind
    simp only [hindex] at hfind
    simp [restoredSlot, hfind, hf, hid]
  | none =>
    have hnodes : ((a.nodes.map f).find? fun m => m.id.index.toNat = i) = none := by
      rw [List.find?_eq_none]
      intro m hm hmi
      obtain ⟨n, hn', rfl⟩ := List.mem_map.mp hm
      obtain ⟨t, ht, htn, _⟩ := h.slot_of_mem hsize hn'
      rw [hf, decide_eq_true_eq] at hmi
      rw [hmi, hs] at ht
      rw [← Option.some.inj ht, hn] at htn
      cases htn
    have hmem : ⟨UInt32.ofNat i, s.generation⟩ ∈ a.vacancies :=
      (mem_vacancies hsize).mpr ⟨s, by rw [hindex]; exact hs, hn, rfl⟩
    cases hv : a.vacancies.find? fun id => id.index.toNat = i with
    | none =>
      have := List.find?_eq_none.mp hv _ hmem
      simp [hindex] at this
    | some id =>
      have hmem := List.mem_of_find?_eq_some hv
      obtain ⟨t, ht, _, hg⟩ := (mem_vacancies hsize).mp hmem
      have hii : id.index.toNat = i := by simpa using List.find?_some hv
      rw [hii, hs] at ht
      simp [restoredSlot, hnodes, hv, ← hg, ← Option.some.inj ht]

/-- What an arena lists about itself, its nodes possibly changed but for their ids, restores to
the same slots in the same generations. -/
theorem WellFormed.restore_listing (h : a.WellFormed) (hsize : a.slots.length ≤ 2 ^ 32)
    {f : Node → Node} (hf : ∀ n, (f n).id = n.id) :
    restore (a.nodes.map f) a.vacancies =
      .ok ⟨(a.map f).slots, vacantIndices (a.map f).slots, a.nodes.length⟩ := by
  have hids : (a.nodes.map f).map Node.id = a.nodes.map Node.id := by
    rw [List.map_map]
    exact List.map_congr_left fun n _ => hf n
  have hindex : (a.nodes.map f).map (fun n => n.id.index) = a.nodes.map fun n => n.id.index := by
    rw [List.map_map]
    exact List.map_congr_left fun n _ => congrArg NodeId.index (hf n)
  have hnodup : ((a.nodes.map f).map fun n => n.id.index).Nodup :=
    hindex ▸ h.nodup_indices hsize
  have hslots : restoredSlots (a.nodes.map f) a.vacancies = (a.map f).slots := by
    apply List.ext_getElem?
    intro i
    rw [getElem?_restoredSlots, hids,
      show a.nodes.map Node.id ++ a.vacancies = a.listedIds from rfl, h.slotCount_listedIds hsize]
    simp only [map, List.getElem?_map]
    by_cases hi : i < a.slots.length
    · rw [if_pos hi, List.getElem?_eq_getElem hi, Option.map_some, Option.some.injEq]
      exact h.restoredSlot_listing hsize hf hnodup hi
    · rw [if_neg hi, List.getElem?_eq_none (by omega), Option.map_none]
  rw [restore_eq_ok_iff]
  refine ⟨?_, hnodup, ?_⟩
  · intro id hid
    rw [hids] at hid
    have := h.index_lt_of_listed hsize hid
    have := length_nodes_add_length_vacancies a
    simp only [List.length_map]
    omega
  · rw [hslots, List.length_map]

end Listing

end ScriptGraph.Arena
