import Worksheet.Graph.Basic
import Worksheet.Proofs.Grid.AddressMap

/-!
# The edges of a graph

`Mirrored` says that the two directions of a graph hold the same edges and no empty entry.  Writes
keep it (`Mirrored.dropReads`, `Mirrored.setReads`), and it is what `directionsAgree` tests.
-/

namespace Worksheet.Graph

/-- The cell `a` reads the cell `b`. -/
def Reads (g : Graph) (a b : Address) : Prop :=
  b ∈ g.readsOf a

/-- Both directions hold the same edges, and no entry is empty. -/
structure Mirrored (g : Graph) : Prop where
  mem_readersOf : ∀ {a b : Address}, a ∈ g.readersOf b ↔ g.Reads a b
  reads_ne_empty : ∀ {a : Address} {cells : AddressSet}, g.reads[a]? = some cells → cells ≠ ∅
  readers_ne_empty : ∀ {a : Address} {cells : AddressSet}, g.readers[a]? = some cells → cells ≠ ∅

theorem readsOf_empty (a : Address) : (∅ : Graph).readsOf a = ∅ := by
  show (∅ : AddressMap AddressSet)[a]?.getD ∅ = ∅
  simp

theorem readersOf_empty (a : Address) : (∅ : Graph).readersOf a = ∅ := by
  show (∅ : AddressMap AddressSet)[a]?.getD ∅ = ∅
  simp

theorem mirrored_empty : (∅ : Graph).Mirrored where
  mem_readersOf {a b} := by
    rw [Reads, readsOf_empty, readersOf_empty]
    simp
  reads_ne_empty {a cells} h := by
    rw [show (∅ : Graph).reads = ∅ from rfl] at h
    simp at h
  readers_ne_empty {a cells} h := by
    rw [show (∅ : Graph).readers = ∅ from rfl] at h
    simp at h

/-- Edges that are set and dropped again leave nothing behind. -/
theorem readsOf_dropReads_setReads (g : Graph) (a b : Address) (cells : AddressSet) :
    ((g.setReads a cells).dropReads a).readsOf b = if a = b then ∅ else g.readsOf b := by
  rw [readsOf_dropReads]
  split
  · rfl
  · next hab => rw [readsOf_setReads, if_neg hab]

/-! ### The entry of one cell in the readers -/

theorem mem_dropReader {a b : Address} {entry : Option AddressSet} :
    a ∈ (dropReader b entry).getD ∅ ↔ a ≠ b ∧ a ∈ entry.getD ∅ := by
  cases entry with
  | none => simp [dropReader]
  | some readers =>
    have hmem : a ∈ readers.erase b ↔ a ≠ b ∧ a ∈ readers := by
      rw [Std.ExtTreeSet.mem_erase, ne_eq, Std.LawfulEqCmp.compare_eq_iff_eq, eq_comm]
    unfold dropReader
    dsimp only
    split
    · next h =>
      rw [Std.ExtTreeSet.isEmpty_iff.1 h] at hmem
      simpa using hmem
    · simpa using hmem

theorem dropReader_ne_empty {b : Address} {entry : Option AddressSet} {readers : AddressSet}
    (h : dropReader b entry = some readers) : readers ≠ ∅ := by
  cases entry with
  | none => cases h
  | some old =>
    unfold dropReader at h
    dsimp only at h
    split at h
    · cases h
    · next hne =>
      cases h
      exact Std.ExtTreeSet.isEmpty_eq_false_iff.1 (Bool.eq_false_iff.2 hne)

theorem mem_addReader {a b : Address} {entry : Option AddressSet} :
    a ∈ (addReader b entry).getD ∅ ↔ a = b ∨ a ∈ entry.getD ∅ := by
  cases entry with
  | none =>
    rw [addReader, Option.getD_some, Option.getD_none, Std.ExtTreeSet.singleton_eq_insert,
      Std.ExtTreeSet.mem_insert, Std.LawfulEqCmp.compare_eq_iff_eq, eq_comm]
  | some readers =>
    rw [addReader, Option.getD_some, Option.getD_some, Std.ExtTreeSet.mem_insert,
      Std.LawfulEqCmp.compare_eq_iff_eq, eq_comm]

theorem addReader_ne_empty {b : Address} {entry : Option AddressSet} {readers : AddressSet}
    (h : addReader b entry = some readers) : readers ≠ ∅ := by
  rintro rfl
  have hb : b ∈ (addReader b entry).getD ∅ := mem_addReader.2 (Or.inl rfl)
  rw [h] at hb
  simp at hb

theorem getElem?_foldl_alter (f : Option AddressSet → Option AddressSet) (cells : AddressSet)
    (m : AddressMap AddressSet) (b : Address) :
    (cells.foldl (fun m d => m.alter d f) m)[b]? = if b ∈ cells then f m[b]? else m[b]? := by
  refine AddressMap.getElem?_foldl_of_pointwise (fun m d b => ?_) cells m b
  rw [Std.ExtTreeMap.getElem?_alter]
  simp only [Std.LawfulEqCmp.compare_eq_iff_eq]
  split
  · next h => rw [h]
  · rfl

/-! ### Writes keep the directions mirrored -/

theorem readers_dropReads {g : Graph} {a : Address} {cells : AddressSet}
    (h : g.reads[a]? = some cells) (b : Address) :
    (g.dropReads a).readers[b]? =
      if b ∈ cells then dropReader a g.readers[b]? else g.readers[b]? := by
  unfold dropReads
  rw [h]
  exact getElem?_foldl_alter _ cells g.readers b

theorem Mirrored.dropReads {g : Graph} (hg : g.Mirrored) (a : Address) :
    (g.dropReads a).Mirrored := by
  cases h : g.reads[a]? with
  | none =>
    have hsame : g.dropReads a = g := by
      unfold Graph.dropReads
      rw [h]
    rwa [hsame]
  | some cells =>
    have hcells : g.readsOf a = cells := by rw [readsOf, h, Option.getD_some]
    refine ⟨fun {c b} => ?_, fun {c s} hs => ?_, fun {b s} hs => ?_⟩
    · have hold := hg.mem_readersOf (a := c) (b := b)
      rw [Reads] at hold ⊢
      rw [readsOf_dropReads, readersOf, readers_dropReads h]
      by_cases hb : b ∈ cells
      · rw [if_pos hb, mem_dropReader, ← readersOf, hold]
        by_cases hac : a = c
        · simp [hac]
        · simp [hac, Ne.symm hac]
      · rw [if_neg hb, ← readersOf, hold]
        by_cases hac : a = c
        · subst hac
          simp [hcells, hb]
        · simp [hac]
    · unfold Graph.dropReads at hs
      rw [h] at hs
      dsimp only at hs
      rw [Std.ExtTreeMap.getElem?_erase] at hs
      split at hs
      · cases hs
      · exact hg.reads_ne_empty hs
    · rw [readers_dropReads h] at hs
      split at hs
      · exact dropReader_ne_empty hs
      · exact hg.readers_ne_empty hs

theorem readers_setReads (g : Graph) (a b : Address) (cells : AddressSet) :
    (g.setReads a cells).readers[b]? =
      if b ∈ cells then addReader a (g.dropReads a).readers[b]?
      else (g.dropReads a).readers[b]? := by
  unfold setReads
  dsimp only
  split
  · next hempty =>
    rw [Std.ExtTreeSet.isEmpty_iff.1 hempty, if_neg Std.ExtTreeSet.not_mem_empty]
  · exact getElem?_foldl_alter _ cells (g.dropReads a).readers b

theorem reads_setReads_ne_empty {g : Graph} (hg : g.Mirrored) {a c : Address}
    {cells reads : AddressSet} (h : (g.setReads a cells).reads[c]? = some reads) : reads ≠ ∅ := by
  unfold setReads at h
  dsimp only at h
  split at h
  · exact (hg.dropReads a).reads_ne_empty h
  · next hempty =>
    rw [Std.ExtTreeMap.getElem?_insert] at h
    split at h
    · cases h
      exact Std.ExtTreeSet.isEmpty_eq_false_iff.1 (Bool.eq_false_iff.2 hempty)
    · exact (hg.dropReads a).reads_ne_empty h

theorem Mirrored.setReads {g : Graph} (hg : g.Mirrored) (a : Address) (cells : AddressSet) :
    (g.setReads a cells).Mirrored := by
  have hdrop := hg.dropReads a
  refine ⟨fun {c b} => ?_, reads_setReads_ne_empty hg, fun {b s} hs => ?_⟩
  · have hold := hdrop.mem_readersOf (a := c) (b := b)
    rw [Reads, readsOf_dropReads] at hold
    rw [Reads, readsOf_setReads, readersOf, readers_setReads]
    by_cases hac : a = c
    · subst hac
      rw [if_pos rfl] at hold ⊢
      by_cases hb : b ∈ cells
      · simp [hb, mem_addReader]
      · rw [if_neg hb, ← readersOf, hold]
        simp [hb]
    · rw [if_neg hac] at hold ⊢
      by_cases hb : b ∈ cells
      · rw [if_pos hb, mem_addReader, ← readersOf, hold]
        simp [Ne.symm hac]
      · rw [if_neg hb, ← readersOf, hold]
  · rw [readers_setReads] at hs
    split at hs
    · exact addReader_ne_empty hs
    · exact hdrop.readers_ne_empty hs

/-! ### The test for mirrored directions -/

theorem Mirrored.mem_reads {g : Graph} (hg : g.Mirrored) {a : Address} :
    a ∈ g.reads ↔ g.readsOf a ≠ ∅ := by
  rw [AddressMap.mem_iff, readsOf]
  cases h : g.reads[a]? with
  | none => simp
  | some cells => simpa using hg.reads_ne_empty h

theorem Mirrored.mem_reads_of_mem {g : Graph} (hg : g.Mirrored) {a b : Address}
    (h : a ∈ g.readersOf b) : a ∈ g.reads := by
  refine hg.mem_reads.2 fun hnone => ?_
  have hmem : b ∈ g.readsOf a := hg.mem_readersOf.1 h
  rw [hnone] at hmem
  simp at hmem

theorem directionsAgree_iff {g : Graph} : g.directionsAgree = true ↔ g.Mirrored := by
  unfold directionsAgree
  rw [Bool.and_eq_true, AddressMap.all_iff, AddressMap.all_iff]
  simp only [Bool.and_eq_true, Bool.not_eq_true', Std.ExtTreeSet.isEmpty_eq_false_iff,
    AddressSet.all_iff, Std.ExtTreeSet.contains_iff_mem]
  constructor
  · rintro ⟨hreads, hreaders⟩
    refine ⟨fun {a b} => ⟨fun h => ?_, fun h => ?_⟩, fun h => (hreads _ _ h).1,
      fun h => (hreaders _ _ h).1⟩
    · cases hb : g.readers[b]? with
      | none => simp [readersOf, hb] at h
      | some readers =>
        refine (hreaders b readers hb).2 a ?_
        rwa [readersOf, hb] at h
    · cases ha : g.reads[a]? with
      | none => simp [Reads, readsOf, ha] at h
      | some cells =>
        refine (hreads a cells ha).2 b ?_
        rwa [Reads, readsOf, ha] at h
  · intro hg
    refine ⟨fun a cells h => ⟨hg.reads_ne_empty h, fun b hb => ?_⟩,
      fun b readers h => ⟨hg.readers_ne_empty h, fun a ha => ?_⟩⟩
    · refine hg.mem_readersOf.2 ?_
      rwa [Reads, readsOf, h]
    · refine hg.mem_readersOf.1 ?_
      rwa [readersOf, h]

end Worksheet.Graph
