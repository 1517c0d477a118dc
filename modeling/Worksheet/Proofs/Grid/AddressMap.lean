import Mathlib.Data.Set.Card
import Worksheet.Grid.Address

/-!
# Maps and sets of addresses

What the library leaves open about `AddressMap` and `AddressSet`: testing all entries (`all_iff`) or
looking for one (`any_iff`), changing the entries at several addresses one by one
(`getElem?_foldl_of_pointwise`), comparing keys and sizes through membership
(`keys_eq_of_mem_iff`), and counting entries (`size_eq_ncard`).
-/

namespace Worksheet

variable {β γ : Type}

theorem AddressSet.nodup_toList (s : AddressSet) : s.toList.Nodup := by
  refine (Std.ExtTreeSet.distinct_toList (t := s)).imp fun h hab => h ?_
  rw [hab, Std.LawfulEqCmp.compare_eq_iff_eq]

namespace AddressMap

theorem all_eq_all_toList (m : AddressMap β) (p : Address → β → Bool) :
    m.all p = m.toList.all fun x => p x.1 x.2 := by
  have hloop : m.all p = Id.run (do
      for x in m do
        if p x.1 x.2 = false then return false
      return true) := by
    obtain ⟨⟨q⟩⟩ := m
    induction q using Quotient.inductionOn with
    | _ m => rfl
  rw [hloop]
  simp only [Std.ExtTreeMap.forIn_eq_forIn_toList]
  induction m.toList with
  | nil => rfl
  | cons x l ih =>
    simp only [List.forIn_cons]
    cases h : p x.1 x.2 with
    | true => simp [h, ih]
    | false => simp [h]

theorem all_iff {m : AddressMap β} {p : Address → β → Bool} :
    m.all p = true ↔ ∀ a v, m[a]? = some v → p a v = true := by
  rw [all_eq_all_toList, List.all_eq_true]
  constructor
  · intro h a v hav
    exact h (a, v) (Std.ExtTreeMap.mem_toList_iff_getElem?_eq_some.2 hav)
  · rintro h ⟨a, v⟩ hav
    exact h a v (Std.ExtTreeMap.mem_toList_iff_getElem?_eq_some.1 hav)

theorem any_eq_any_toList (m : AddressMap β) (p : Address → β → Bool) :
    m.any p = m.toList.any fun x => p x.1 x.2 := by
  have hloop : m.any p = Id.run (do
      for x in m do
        if p x.1 x.2 = true then return true
      return false) := by
    obtain ⟨⟨q⟩⟩ := m
    induction q using Quotient.inductionOn with
    | _ m => rfl
  rw [hloop]
  simp only [Std.ExtTreeMap.forIn_eq_forIn_toList]
  induction m.toList with
  | nil => rfl
  | cons x l ih =>
    simp only [List.forIn_cons]
    cases h : p x.1 x.2 with
    | true => simp [h]
    | false => simp [h, ih]

theorem any_iff {m : AddressMap β} {p : Address → β → Bool} :
    m.any p = true ↔ ∃ a v, m[a]? = some v ∧ p a v = true := by
  rw [any_eq_any_toList, List.any_eq_true]
  constructor
  · rintro ⟨⟨a, v⟩, hav, hp⟩
    exact ⟨a, v, Std.ExtTreeMap.mem_toList_iff_getElem?_eq_some.1 hav, hp⟩
  · rintro ⟨a, v, hav, hp⟩
    exact ⟨(a, v), Std.ExtTreeMap.mem_toList_iff_getElem?_eq_some.2 hav, hp⟩

theorem mem_iff {m : AddressMap β} {a : Address} : a ∈ m ↔ ∃ v, m[a]? = some v := by
  rw [Std.ExtTreeMap.mem_iff_isSome_getElem?, Option.isSome_iff_exists]

theorem nodup_keys (m : AddressMap β) : m.keys.Nodup := by
  refine (Std.ExtTreeMap.distinct_keys (t := m)).imp fun h hab => h ?_
  rw [hab, Std.LawfulEqCmp.compare_eq_iff_eq]

/-- The keys of a map are determined by the addresses that have entries. -/
theorem keys_eq_of_mem_iff {m : AddressMap β} {m' : AddressMap γ} (h : ∀ a, a ∈ m ↔ a ∈ m') :
    m.keys = m'.keys := by
  have hunit : (m.map fun _ _ => ()) = m'.map fun _ _ => () := by
    refine Std.ExtTreeMap.ext_mem_unit fun a => ?_
    rw [Std.ExtTreeMap.mem_map, Std.ExtTreeMap.mem_map]
    exact h a
  have hkeys := congrArg Std.ExtTreeMap.keys hunit
  rwa [Std.ExtTreeMap.keys_map, Std.ExtTreeMap.keys_map] at hkeys

/-- Two maps in which the same addresses have entries are of one size. -/
theorem size_eq_of_mem_iff {m : AddressMap β} {m' : AddressMap γ} (h : ∀ a, a ∈ m ↔ a ∈ m') :
    m.size = m'.size := by
  rw [← Std.ExtTreeMap.length_keys, keys_eq_of_mem_iff h, Std.ExtTreeMap.length_keys]

theorem coe_toFinset_keys (m : AddressMap β) : (↑m.keys.toFinset : Set Address) = {a | a ∈ m} := by
  ext a
  rw [List.coe_toFinset]
  exact Std.ExtTreeMap.mem_keys

theorem finite_mem (m : AddressMap β) : {a | a ∈ m}.Finite := by
  rw [← coe_toFinset_keys]
  exact m.keys.toFinset.finite_toSet

/-- The size is the number of addresses that have an entry. -/
theorem size_eq_ncard (m : AddressMap β) : m.size = {a | a ∈ m}.ncard := by
  rw [← coe_toFinset_keys, Set.ncard_coe_finset, List.toFinset_card_of_nodup (nodup_keys m),
    Std.ExtTreeMap.length_keys]

section Fold

variable {op : AddressMap β → Address → AddressMap β} {f : Option β → Option β}
  (hop : ∀ m d b, (op m d)[b]? = if d = b then f m[b]? else m[b]?)
include hop

theorem getElem?_foldl_list {cells : List Address} (hcells : cells.Nodup) (m : AddressMap β)
    (b : Address) : (cells.foldl op m)[b]? = if b ∈ cells then f m[b]? else m[b]? := by
  induction cells generalizing m with
  | nil => simp
  | cons d rest ih =>
    obtain ⟨hd, hrest⟩ := List.nodup_cons.1 hcells
    rw [List.foldl_cons, ih hrest, hop]
    by_cases hdb : d = b
    · subst hdb
      simp [hd]
    · simp [hdb, Ne.symm hdb]

/-- Changing the entries at the addresses of a set one by one changes each of them once. -/
theorem getElem?_foldl_of_pointwise (cells : AddressSet) (m : AddressMap β) (b : Address) :
    (cells.foldl op m)[b]? = if b ∈ cells then f m[b]? else m[b]? := by
  rw [Std.ExtTreeSet.foldl_eq_foldl_toList, getElem?_foldl_list hop (AddressSet.nodup_toList cells)]
  simp only [Std.ExtTreeSet.mem_toList]

end Fold

end AddressMap

theorem AddressSet.all_iff {s : AddressSet} {p : Address → Bool} :
    s.all p = true ↔ ∀ a ∈ s, p a = true := by
  refine AddressMap.all_iff.trans ?_
  constructor
  · intro h a ha
    obtain ⟨v, hv⟩ := AddressMap.mem_iff.1 (show a ∈ s.inner from ha)
    exact h a v hv
  · intro h a v hv
    exact h a (show a ∈ s.inner from AddressMap.mem_iff.2 ⟨v, hv⟩)

theorem AddressSet.any_iff {s : AddressSet} {p : Address → Bool} :
    s.any p = true ↔ ∃ a ∈ s, p a = true := by
  refine AddressMap.any_iff.trans ?_
  constructor
  · rintro ⟨a, v, hv, hp⟩
    exact ⟨a, show a ∈ s.inner from AddressMap.mem_iff.2 ⟨v, hv⟩, hp⟩
  · rintro ⟨a, ha, hp⟩
    obtain ⟨v, hv⟩ := AddressMap.mem_iff.1 (show a ∈ s.inner from ha)
    exact ⟨a, v, hv, hp⟩

end Worksheet
