import Mathlib.Data.Finset.Card
import Mathlib.Data.Finset.Range
import ScriptGraph.Proofs.Restore

/-! The slots that a stored arena leaves out. A restore counts the stored ids, not the slots that
they mention, to see whether too many are left out: ids that mention one slot again let as many more
slots be missing. A slot that was left out starts past the generations of all stored ids, unless one
of them has the last generation there is. -/
namespace ScriptGraph.Arena

/-- The slots that ids mention. -/
def mentioned (ids : List NodeId) : Finset ℕ := (ids.map fun id => id.index.toNat).toFinset

/-- The slots below the last one mentioned that no id mentions. -/
def unlisted (ids : List NodeId) : Finset ℕ := Finset.range (slotCount ids) \ mentioned ids

/-- How many ids mention a slot that an earlier one has mentioned. -/
def repeats (ids : List NodeId) : ℕ := ids.length - (mentioned ids).card

variable {ids vacant : List NodeId} {nodes : List Node} {a : Arena}

lemma mem_mentioned {i : ℕ} : i ∈ mentioned ids ↔ ∃ id ∈ ids, id.index.toNat = i := by
  simp [mentioned]

lemma lt_slotCount_iff {i : ℕ} : i < slotCount ids ↔ ∃ id ∈ ids, i ≤ id.index.toNat := by
  rw [← Nat.not_le, slotCount_le_iff]
  push Not
  rfl

lemma mem_unlisted {i : ℕ} :
    i ∈ unlisted ids ↔ (∃ id ∈ ids, i < id.index.toNat) ∧ ∀ id ∈ ids, id.index.toNat ≠ i := by
  simp only [unlisted, Finset.mem_sdiff, Finset.mem_range, lt_slotCount_iff, mem_mentioned,
    not_exists, not_and]
  constructor
  · rintro ⟨⟨id, hid, hle⟩, hnot⟩
    have hne := hnot id hid
    exact ⟨⟨id, hid, by omega⟩, hnot⟩
  · rintro ⟨⟨id, hid, hlt⟩, hnot⟩
    exact ⟨⟨id, hid, by omega⟩, hnot⟩

lemma card_unlisted_add_card_mentioned (ids : List NodeId) :
    (unlisted ids).card + (mentioned ids).card = slotCount ids := by
  -- Every slot is left out or mentioned.
  have hsub : mentioned ids ⊆ Finset.range (slotCount ids) := by
    intro i hi
    obtain ⟨id, hid, rfl⟩ := mem_mentioned.mp hi
    exact Finset.mem_range.mpr (lt_slotCount hid)
  rw [unlisted, Finset.card_sdiff_add_card_eq_card hsub, Finset.card_range]

lemma card_mentioned_add_repeats (ids : List NodeId) :
    (mentioned ids).card + repeats ids = ids.length := by
  have hle : (mentioned ids).card ≤ ids.length := by
    simpa [mentioned] using List.toFinset_card_le (ids.map fun id => id.index.toNat)
  unfold repeats
  omega

lemma repeats_eq_zero_iff : repeats ids = 0 ↔ (ids.map NodeId.index).Nodup := by
  have hsum := card_mentioned_add_repeats ids
  have hcard : (mentioned ids).card = (ids.map fun id => id.index.toNat).length ↔
      (ids.map fun id => id.index.toNat).Nodup :=
    Multiset.toFinset_card_eq_card_iff_nodup
  have hcomp : (ids.map fun id => id.index.toNat) = (ids.map NodeId.index).map UInt32.toNat := by
    rw [List.map_map]
    rfl
  rw [List.length_map] at hcard
  rw [← List.nodup_map_iff (f := UInt32.toNat) fun _ _ => UInt32.toNat.inj, ← hcomp, ← hcard]
  omega

lemma slotCount_le_limit_iff (ids : List NodeId) :
    slotCount ids ≤ ids.length + maxGap ↔ (unlisted ids).card ≤ maxGap + repeats ids := by
  have hslots := card_unlisted_add_card_mentioned ids
  have hids := card_mentioned_add_repeats ids
  omega

/-- A restore refuses for the first stored id whose index is too large, whatever the nodes are. -/
lemma exists_restore_eq_indexOutOfRange_iff :
    (∃ id limit, restore nodes vacant = .error (.indexOutOfRange id limit)) ↔
      nodes.length + vacant.length + maxGap < slotCount (nodes.map Node.id ++ vacant) := by
  rw [← Nat.not_le, slotCount_le_iff]
  unfold restore
  cases hl : (nodes.map Node.id ++ vacant).find? fun id =>
      nodes.length + vacant.length + maxGap ≤ id.index.toNat with
  | some id =>
    have hlarge : nodes.length + vacant.length + maxGap ≤ id.index.toNat := by
      simpa using List.find?_some hl
    constructor
    · intro _ hall
      have := hall id (List.mem_of_find?_eq_some hl)
      omega
    · exact fun _ => ⟨id, nodes.length + vacant.length + maxGap, by simp only [hl]⟩
  | none =>
    have hsmall : ∀ id ∈ nodes.map Node.id ++ vacant,
        id.index.toNat < nodes.length + vacant.length + maxGap := by
      simpa using List.find?_eq_none.mp hl
    constructor
    · rintro ⟨id, limit, h⟩
      cases hc : firstClash [] nodes <;> simp [hl, hc] at h
    · exact fun hlarge => absurd hsmall hlarge

/-- Stored ids, the nodes of which do not share a slot, are refused exactly if they leave out more
slots than allowed, where every id that mentions a slot again allows for one more, and else they are
restored. So the allowance is what it should be exactly if no slot is mentioned twice. -/
theorem restore_refuses_iff (hnodup : (nodes.map fun n => n.id.index).Nodup) :
    ((∃ id limit, restore nodes vacant = .error (.indexOutOfRange id limit)) ↔
      maxGap + repeats (nodes.map Node.id ++ vacant) <
        (unlisted (nodes.map Node.id ++ vacant)).card) ∧
    ((∃ a, restore nodes vacant = .ok a) ↔
      (unlisted (nodes.map Node.id ++ vacant)).card ≤
        maxGap + repeats (nodes.map Node.id ++ vacant)) ∧
    (repeats (nodes.map Node.id ++ vacant) = 0 ↔
      ((nodes.map Node.id ++ vacant).map NodeId.index).Nodup) := by
  have hlimit := slotCount_le_limit_iff (nodes.map Node.id ++ vacant)
  rw [List.length_append, List.length_map] at hlimit
  refine ⟨?_, ?_, repeats_eq_zero_iff⟩
  · rw [exists_restore_eq_indexOutOfRange_iff, ← Nat.not_le, hlimit, Nat.not_le]
  · rw [← hlimit, slotCount_le_iff]
    constructor
    · rintro ⟨a, ha⟩
      exact (restore_eq_ok_iff.mp ha).1
    · intro hsmall
      exact ⟨_, restore_eq_ok_iff.mpr ⟨hsmall, hnodup, rfl⟩⟩

/-- The vacant slot 4096 is the last that may be stored alone. -/
theorem restore_far_refuses :
    (∃ id limit, restore [] [⟨4097, 0⟩] = .error (.indexOutOfRange id limit)) ∧
      ∃ a, restore [] [⟨4096, 0⟩] = .ok a := by
  have hcard (index : UInt32) : (unlisted [⟨index, 0⟩]).card = index.toNat := by
    have hslots := card_unlisted_add_card_mentioned [⟨index, 0⟩]
    have hcount : slotCount [⟨index, 0⟩] = index.toNat + 1 := Nat.zero_max _
    have hone : (mentioned [⟨index, 0⟩]).card = 1 := rfl
    omega
  have hrepeats (index : UInt32) : repeats [⟨index, 0⟩] = 0 := rfl
  have hdistinct : (([] : List Node).map fun n => n.id.index).Nodup := List.nodup_nil
  refine ⟨(restore_refuses_iff hdistinct).1.mpr ?_, (restore_refuses_iff hdistinct).2.1.mpr ?_⟩
  · rw [List.map_nil, List.nil_append, hcard, hrepeats]
    decide
  · rw [List.map_nil, List.nil_append, hcard, hrepeats]
    decide

/-- Stored twice, the slot 4097 is restored, and more slots are left out than allowed. -/
theorem restore_repeated_leaves_gap :
    (∃ a, restore [] [⟨4097, 0⟩, ⟨4097, 0⟩] = .ok a) ∧
      maxGap < (unlisted [⟨4097, 0⟩, ⟨4097, 0⟩]).card := by
  constructor
  · refine ⟨_, restore_eq_ok_iff.mpr ⟨?_, List.nodup_nil, rfl⟩⟩
    decide
  · have hslots := card_unlisted_add_card_mentioned [⟨4097, 0⟩, ⟨4097, 0⟩]
    have hcount : slotCount [⟨4097, 0⟩, ⟨4097, 0⟩] = 4098 := by decide
    have hone : (mentioned [⟨4097, 0⟩, ⟨4097, 0⟩]).card = 1 := by decide
    have hgap : maxGap = 4096 := rfl
    omega

/-- The slot that the next insertion fills. -/
def nextSlot (a : Arena) : ℕ :=
  match a.free with
  | index :: _ => index.toNat
  | [] => a.slots.length

/-- The slots that insertions fill one after another, each with the id that is issued for it. -/
def insertions (a : Arena) : List (NodeId → Node) → List (ℕ × NodeId)
  | [] => []
  | build :: rest => (a.nextSlot, (a.insert build).1) :: (a.insert build).2.insertions rest

/-- The largest generation. -/
def lastGeneration : UInt32 := 4294967295

lemma index_insert (a : Arena) (build : NodeId → Node) :
    (a.insert build).1.index = UInt32.ofNat a.nextSlot := by
  unfold insert nextSlot
  cases a.free with
  | nil => rfl
  | cons index free => exact UInt32.ofNat_toNat.symm

/-- The id that is issued for a slot carries the generation of the slot. -/
lemma generation_nextSlot {s : Slot} (hs : a.slots[a.nextSlot]? = some s)
    (build : NodeId → Node) : (a.insert build).1.generation = s.generation := by
  unfold nextSlot at hs
  unfold insert
  cases hf : a.free with
  | nil => simp [hf] at hs
  | cons index free =>
    rw [hf] at hs
    simp [slot?, hs]

/-- An insertion leaves the generations of the slots that are there. -/
lemma generation_insert {i : ℕ} {s : Slot} (hs : a.slots[i]? = some s) (build : NodeId → Node) :
    ∃ t, (a.insert build).2.slots[i]? = some t ∧ t.generation = s.generation := by
  unfold insert
  cases a.free with
  | nil =>
    have hi := (List.getElem?_eq_some_iff.mp hs).1
    refine ⟨s, ?_, rfl⟩
    rw [getElem?_concat_eq_ite, if_neg (by omega), hs]
  | cons index free =>
    simp only [getElem?_modify_eq_ite, hs, Option.map_some]
    by_cases hi : index.toNat = i
    · simp [hi]
    · simp [hi]

/-- However many insertions there are, each issues an id with the index of the slot that it fills,
and, if the slot was there at the start, with the generation that the slot had then. -/
theorem id_of_mem_insertions {builds : List (NodeId → Node)} {slot : ℕ} {id : NodeId}
    (h : (slot, id) ∈ a.insertions builds) :
    id.index = UInt32.ofNat slot ∧
      ∀ s, a.slots[slot]? = some s → id.generation = s.generation := by
  induction builds generalizing a with
  | nil => cases h
  | cons build rest ih =>
    rcases List.mem_cons.mp h with hfirst | hrest
    · obtain ⟨rfl, rfl⟩ := Prod.mk.inj hfirst
      exact ⟨index_insert a build, fun s hs => generation_nextSlot hs build⟩
    · obtain ⟨hindex, hlater⟩ := ih hrest
      refine ⟨hindex, fun s hs => ?_⟩
      obtain ⟨t, ht, hgen⟩ := generation_insert hs build
      rw [hlater t ht, hgen]

lemma restoredSlot_of_unlisted {i : ℕ} (hi : i ∈ unlisted (nodes.map Node.id ++ vacant)) :
    (restoredSlots nodes vacant)[i]? =
      some ⟨generationFloor (nodes.map Node.id ++ vacant), none⟩ := by
  obtain ⟨⟨id, hid, hlt⟩, hnot⟩ := mem_unlisted.mp hi
  have hnode : (nodes.find? fun n => n.id.index.toNat = i) = none := by
    rw [List.find?_eq_none]
    intro n hn hni
    exact hnot n.id (List.mem_append_left _ (List.mem_map_of_mem hn)) (of_decide_eq_true hni)
  have hvacant : (vacant.find? fun id => id.index.toNat = i) = none := by
    rw [List.find?_eq_none]
    intro j hj hji
    exact hnot j (List.mem_append_right _ hj) (of_decide_eq_true hji)
  rw [getElem?_restoredSlots, if_pos (lt_slotCount_iff.mpr ⟨id, hid, hlt.le⟩), restoredSlot, hnode,
    hvacant]

lemma toNat_nextGeneration (g : UInt32) :
    (nextGeneration g).toNat = if g = lastGeneration then g.toNat else g.toNat + 1 := by
  have hlt := g.toNat_lt
  have hadd : (g + 1).toNat = (g.toNat + 1) % 2 ^ 32 := UInt32.toNat_add g 1
  have hlast : g = lastGeneration ↔ g.toNat = 4294967295 := UInt32.toNat_inj.symm
  have hzero : g + 1 = 0 ↔ (g + 1).toNat = 0 := UInt32.toNat_inj.symm
  unfold nextGeneration
  by_cases hg : g.toNat = 4294967295
  · rw [if_pos (hzero.mpr (by omega)), if_pos (hlast.mpr hg)]
  · rw [if_neg (mt hzero.mp (by omega)), if_neg (mt hlast.mp hg)]
    omega

lemma toNat_generationFloor (ids : List NodeId) :
    (generationFloor ids).toNat =
      ids.foldl (fun m id => max m (nextGeneration id.generation).toNat) 0 :=
  (List.foldl_hom UInt32.toNat fun _ _ => (UInt32.toNat_max _ _).symm).symm

lemma toNat_nextGeneration_le {id : NodeId} (h : id ∈ ids) :
    (nextGeneration id.generation).toNat ≤ (generationFloor ids).toNat := by
  have hbounds := (toNat_generationFloor ids).ge
  rw [foldl_max_le_iff] at hbounds
  exact hbounds.2 id h

/-- A slot below the last one stored that was left out is filled with an id whose generation is past
those of all stored ids, unless one of them has the last generation. Then the slot starts at that
generation too. -/
theorem generation_of_unlisted {builds : List (NodeId → Node)} {slot : ℕ} {id : NodeId}
    (ok : restore nodes vacant = .ok a) (issued : (slot, id) ∈ a.insertions builds)
    (left_out : slot ∈ unlisted (nodes.map Node.id ++ vacant)) :
    id.index.toNat = slot ∧
    (∀ stored ∈ nodes.map Node.id ++ vacant, stored.generation ≤ id.generation) ∧
    ((∀ stored ∈ nodes.map Node.id ++ vacant, stored.generation < id.generation) ↔
      ∀ stored ∈ nodes.map Node.id ++ vacant, stored.generation ≠ lastGeneration) := by
  obtain ⟨_, _, rfl⟩ := restore_eq_ok_iff.mp ok
  obtain ⟨hindex, hfound⟩ := id_of_mem_insertions issued
  have hgen := hfound _ (restoredSlot_of_unlisted left_out)
  have hpast (stored) (hs : stored ∈ nodes.map Node.id ++ vacant) :
      (if stored.generation = lastGeneration then stored.generation.toNat
        else stored.generation.toNat + 1) ≤ id.generation.toNat := by
    rw [← toNat_nextGeneration, hgen]
    exact toNat_nextGeneration_le hs
  refine ⟨?_, ?_, ?_⟩
  · obtain ⟨⟨last, -, hlt⟩, -⟩ := mem_unlisted.mp left_out
    rw [hindex, UInt32.toNat_ofNat_of_lt' (hlt.trans last.index.toNat_lt)]
  · intro stored hs
    have := hpast stored hs
    rw [UInt32.le_iff_toNat_le]
    split at this <;> omega
  · constructor
    · intro hall stored hs hlast
      have hlt := UInt32.lt_iff_toNat_lt.mp (hall stored hs)
      have hbound := id.generation.toNat_lt
      rw [hlast] at hlt
      have : lastGeneration.toNat = 4294967295 := rfl
      omega
    · intro hall stored hs
      have := hpast stored hs
      rw [if_neg (hall stored hs)] at this
      exact UInt32.lt_iff_toNat_lt.mpr this

/-- What a print in slot 3 and a vacant slot 1 are restored to. -/
def gapped : Arena :=
  ⟨[⟨8, none⟩, ⟨2, none⟩, ⟨8, none⟩, ⟨7, some ⟨⟨3, 7⟩, "Print", .zero, .empty⟩⟩], [0, 1, 2], 1⟩

/-- The slots 0 and 2 were left out. -/
theorem restore_gapped_issues_past :
    restore [⟨⟨3, 7⟩, "Print", .zero, .empty⟩] [⟨1, 2⟩] = .ok gapped ∧
      gapped.insertions (List.replicate 4 fun id => ⟨id, "Add", .zero, .empty⟩) =
        [(0, ⟨0, 8⟩), (1, ⟨1, 2⟩), (2, ⟨2, 8⟩), (4, ⟨4, 0⟩)] ∧
      ∀ stored ∈ [(⟨3, 7⟩ : NodeId), ⟨1, 2⟩], stored.generation < 8 := by
  have ok : restore [⟨⟨3, 7⟩, "Print", .zero, .empty⟩] [⟨1, 2⟩] = .ok gapped := by rfl
  have hissued : gapped.insertions (List.replicate 4 fun id => ⟨id, "Add", .zero, .empty⟩) =
      [(0, ⟨0, 8⟩), (1, ⟨1, 2⟩), (2, ⟨2, 8⟩), (4, ⟨4, 0⟩)] := by rfl
  have issued : (2, ⟨2, 8⟩) ∈
      gapped.insertions (List.replicate 4 fun id => ⟨id, "Add", .zero, .empty⟩) := by
    rw [hissued]
    simp
  have hpast := (generation_of_unlisted ok issued (mem_unlisted.mpr (by decide))).2.2
  exact ⟨ok, hissued, hpast.mpr (by decide)⟩

/-- A vacant slot is stored with the last generation. The slot before it starts there too. -/
theorem restore_last_generation_reissues :
    ∃ a, restore [] [⟨1, lastGeneration⟩] = .ok a ∧
      (0, ⟨0, lastGeneration⟩) ∈ a.insertions [fun id => ⟨id, "Add", .zero, .empty⟩] ∧
      0 ∈ unlisted [⟨1, lastGeneration⟩] ∧ ¬ lastGeneration < lastGeneration := by
  refine ⟨⟨[⟨lastGeneration, none⟩, ⟨lastGeneration, none⟩], [0, 1], 0⟩, rfl, ?_, ?_, ?_⟩
  · exact List.mem_singleton.mpr rfl
  · exact mem_unlisted.mpr (by decide)
  · decide

end ScriptGraph.Arena
