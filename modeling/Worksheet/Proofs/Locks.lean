import Worksheet.Locks
import Worksheet.Proofs.Grid.AddressMap

/-!
# Locks exclude

What matters of a history of requests is which locks have been granted and not released since
(`Held`).  A request makes an owner hold a cell only by granting the lock, and ends it only by
releasing it (`owner?_perform_iff`), so after every history the table names exactly those who hold
(`owner?_after_iff`).  A cell that is held is refused to all others, and a cell that is not is there
for anyone (`held_excludes`).
-/

namespace Worksheet.Locks

/-- What an owner asks of a table of locks. -/
inductive Request where
  | lock (a : Address) (owner : String)
  | unlock (a : Address) (owner : String)
  | releaseAll (owner : String)

/-- The request ends the hold of this owner on the cell, if there is one. -/
def Request.Releases (a : Address) (owner : String) : Request → Prop
  | lock _ _ => False
  | unlock b p => b = a ∧ p = owner
  | releaseAll p => p = owner

/-- The table after a request. -/
def perform (l : Locks) : Request → Locks
  | .lock a owner => (l.lock a owner).2
  | .unlock a owner => (l.unlock a owner).2
  | .releaseAll owner => (l.releaseAll owner).2

/-- The table after some requests to a table without locks. -/
def after (requests : List Request) : Locks :=
  requests.foldl perform ∅

theorem after_concat (requests : List Request) (r : Request) :
    after (requests ++ [r]) = (after requests).perform r :=
  List.foldl_concat ..

/-! ### One request -/

section Answers

variable (l : Locks) {a : Address} {owner other : String}

/-- A lock is granted unless somebody else holds the cell. -/
theorem lock_granted_iff :
    (l.lock a owner).1 = true ↔ l.owner? a = none ∨ l.owner? a = some owner := by
  unfold lock
  cases l.owner? a with
  | none => simp
  | some holder => simp

/-- Another owner is refused, and the table stays as it is. -/
theorem refused_of_owner? (h : l.owner? a = some owner) (hother : other ≠ owner) :
    l.lock a other = (false, l) ∧ l.unlock a other = (false, l) := by
  have hholder : (owner == other) = false := beq_eq_false_iff_ne.2 hother.symm
  have hunlock : l.owner? a ≠ some other := by
    rw [h]
    exact fun heq => hother (Option.some.inj heq).symm
  constructor
  · rw [lock, h]
    exact congrArg (·, l) hholder
  · rw [unlock, if_neg hunlock]

/-- **One request.**  An owner holds a cell after it if the lock has been granted, or if the owner
held it before and has not released it. -/
theorem owner?_perform_iff (r : Request) :
    (l.perform r).owner? a = some owner ↔
      r = .lock a owner ∧ (l.lock a owner).1 = true ∨
        l.owner? a = some owner ∧ ¬ r.Releases a owner := by
  cases r with
  | lock b p =>
    rw [perform, owner?_lock, lock_granted_iff]
    by_cases hb : b = a
    · subst hb
      cases hholder : l.owner? b with
      | none => simp [Request.Releases]
      | some holder => simp +contextual [Request.Releases]
    · simp [hb, Request.Releases]
  | unlock b p =>
    rw [perform, owner?_unlock]
    by_cases hb : b = a
    · subst hb
      by_cases hp : l.owner? b = some p
      · simp +contextual [hp, Request.Releases]
      · have hne : l.owner? b = some owner → p ≠ owner := by
          rintro h rfl
          exact hp h
        simpa [hp, Request.Releases] using hne
    · simp [hb, Request.Releases]
  | releaseAll p =>
    have hne : (owner != p) = true ↔ ¬ (Request.releaseAll p).Releases a owner := by
      rw [bne_iff_ne]
      exact not_congr eq_comm
    rw [perform, owner?_releaseAll, Option.filter_eq_some_iff, hne]
    simp

/-- Releasing all cells of an owner tells how many they were. -/
theorem releaseAll_fst (owner : String) :
    (l.releaseAll owner).1 = {a | l.owner? a = some owner}.ncard := by
  have hothers : ∀ a, a ∈ (l.owners.filter fun _ holder => holder != owner) ↔
      ∃ holder, l.owner? a = some holder ∧ holder ≠ owner := by
    intro a
    rw [AddressMap.mem_iff]
    simp [owner?, Std.ExtTreeMap.getElem?_filter, Option.filter_eq_some_iff]
  have hsub : {a | a ∈ (l.owners.filter fun _ holder => holder != owner)} ⊆ {a | a ∈ l.owners} := by
    intro a ha
    obtain ⟨holder, hholder, -⟩ := (hothers a).1 ha
    exact AddressMap.mem_iff.2 ⟨holder, hholder⟩
  have hdiff : {a | l.owner? a = some owner} =
      {a | a ∈ l.owners} \ {a | a ∈ (l.owners.filter fun _ holder => holder != owner)} := by
    ext a
    show l.owner? a = some owner ↔ a ∈ l.owners ∧ ¬ a ∈ (l.owners.filter _)
    rw [hothers, AddressMap.mem_iff]
    show l.owner? a = some owner ↔ (∃ holder, l.owner? a = some holder) ∧ _
    cases l.owner? a with
    | none => simp
    | some holder => simp
  rw [hdiff, Set.ncard_sdiff hsub (AddressMap.finite_mem _), ← AddressMap.size_eq_ncard,
    ← AddressMap.size_eq_ncard]
  rfl

end Answers

/-! ### All requests -/

/-- The owner has been granted the lock and has not released it since. -/
def Held (requests : List Request) (a : Address) (owner : String) : Prop :=
  ∃ before since, requests = before ++ .lock a owner :: since ∧
    ((after before).lock a owner).1 = true ∧ ∀ r ∈ since, ¬ r.Releases a owner

theorem held_concat_iff {requests : List Request} {r : Request} {a : Address} {owner : String} :
    Held (requests ++ [r]) a owner ↔
      r = .lock a owner ∧ ((after requests).lock a owner).1 = true ∨
        Held requests a owner ∧ ¬ r.Releases a owner := by
  constructor
  · rintro ⟨before, since, heq, hgranted, hsince⟩
    rcases since.eq_nil_or_concat with rfl | ⟨since, r', rfl⟩
    · obtain ⟨rfl, hr⟩ := List.append_inj' heq rfl
      exact Or.inl ⟨List.singleton_inj.1 hr, hgranted⟩
    · rw [List.concat_eq_append, ← List.cons_append, ← List.append_assoc] at heq
      obtain ⟨rfl, hr⟩ := List.append_inj' heq rfl
      obtain rfl := List.singleton_inj.1 hr
      refine Or.inr ⟨⟨before, since, rfl, hgranted, fun d hd => hsince d (by simp [hd])⟩, ?_⟩
      exact hsince r (by simp)
  · rintro (⟨rfl, hgranted⟩ | ⟨⟨before, since, rfl, hgranted, hsince⟩, hr⟩)
    · exact ⟨requests, [], rfl, hgranted, fun _ => nofun⟩
    · refine ⟨before, since ++ [r], by simp, hgranted, ?_⟩
      simpa [or_imp, forall_and] using ⟨hsince, hr⟩

/-- **After every history the table names those who hold**, and no others. -/
theorem owner?_after_iff {requests : List Request} {a : Address} {owner : String} :
    (after requests).owner? a = some owner ↔ Held requests a owner := by
  induction requests using List.reverseRecOn with
  | nil =>
    refine iff_of_false ?_ ?_
    · rw [after, List.foldl_nil, owner?_empty]
      exact nofun
    · rintro ⟨before, since, heq, -⟩
      exact absurd heq (by simp)
  | append_singleton requests r ih =>
    rw [after_concat, owner?_perform_iff, held_concat_iff, ih]

theorem owner?_after_eq_none_iff {requests : List Request} {a : Address} :
    (after requests).owner? a = none ↔ ∀ owner, ¬ Held requests a owner := by
  rw [Option.eq_none_iff_forall_ne_some]
  exact forall_congr' fun owner => not_congr owner?_after_iff

theorem mem_locked_iff {l : Locks} {a : Address} : a ∈ l.locked ↔ l.isLocked a = true := by
  rw [locked, isLocked, Std.ExtTreeMap.mem_keys, Std.ExtTreeMap.contains_iff_mem]

/-- What the table answers about a cell that this owner holds. -/
structure Excludes (l : Locks) (a : Address) (owner : String) : Prop where
  isLocked : l.isLocked a = true
  owner? : l.owner? a = some owner
  mem_locked : a ∈ l.locked
  /-- The owner can take the cell again. -/
  relock : (l.lock a owner).1 = true
  /-- All others are refused, and the table stays as it is. -/
  refused : ∀ other, other ≠ owner → l.lock a other = (false, l) ∧ l.unlock a other = (false, l)

/-- What the table answers about a cell that nobody holds. -/
structure Free (l : Locks) (a : Address) : Prop where
  isLocked : l.isLocked a = false
  owner? : l.owner? a = none
  not_mem_locked : a ∉ l.locked
  granted : ∀ owner, (l.lock a owner).1 = true

theorem excludes_of_owner? {l : Locks} {a : Address} {owner : String}
    (h : l.owner? a = some owner) : Excludes l a owner where
  isLocked := by rw [isLocked_eq, h, Option.isSome_some]
  owner? := h
  mem_locked := by rw [mem_locked_iff, isLocked_eq, h, Option.isSome_some]
  relock := (lock_granted_iff l).2 (Or.inr h)
  refused _ := refused_of_owner? l h

theorem free_of_owner? {l : Locks} {a : Address} (h : l.owner? a = none) : Free l a where
  isLocked := by rw [isLocked_eq, h, Option.isSome_none]
  owner? := h
  not_mem_locked := by
    rw [mem_locked_iff, isLocked_eq, h, Option.isSome_none]
    exact Bool.false_ne_true
  granted _ := (lock_granted_iff l).2 (Or.inl h)

/-- **Locks exclude.**  Take any history of requests.  A cell is locked for an owner from the moment
the lock is granted until this owner releases it, and all that time it is refused to others; else
it is not locked, and anyone can take it.  Releasing all cells of an owner frees the cells that the
owner holds, tells how many they are, and leaves the locks of others alone. -/
theorem held_excludes (requests : List Request) :
    (∀ a owner, Held requests a owner → Excludes (after requests) a owner) ∧
    (∀ a, (∀ owner, ¬ Held requests a owner) → Free (after requests) a) ∧
    ∀ owner,
      ((after requests).releaseAll owner).1 = {a | Held requests a owner}.ncard ∧
      (∀ a, Held requests a owner → Free ((after requests).releaseAll owner).2 a) ∧
      ∀ a, ¬ Held requests a owner →
        ((after requests).releaseAll owner).2.owner? a = (after requests).owner? a := by
  refine ⟨fun a owner h => excludes_of_owner? (owner?_after_iff.2 h),
    fun a h => free_of_owner? (owner?_after_eq_none_iff.2 h), fun owner => ⟨?_, ?_, ?_⟩⟩
  · rw [releaseAll_fst]
    exact congrArg Set.ncard (Set.ext fun a => owner?_after_iff)
  · intro a h
    refine free_of_owner? ?_
    rw [owner?_releaseAll, owner?_after_iff.2 h]
    simp
  · intro a h
    rw [← owner?_after_iff] at h
    rw [owner?_releaseAll]
    cases hholder : (after requests).owner? a with
    | none => rfl
    | some holder =>
      have hne : holder ≠ owner := by
        rintro rfl
        exact h hholder
      simp [hne]

/-- Two owners are after the first cell, and the second one does not get it. -/
def competing : List Request :=
  [.lock ⟨0, 0⟩ "alice", .lock ⟨0, 0⟩ "bob", .lock ⟨0, 1⟩ "bob", .unlock ⟨0, 0⟩ "bob"]

/-- The first owner holds it all the same, also when everything is taken from the second one. -/
theorem held_excludes_of_competing :
    Held competing ⟨0, 0⟩ "alice" ∧ Excludes (after competing) ⟨0, 0⟩ "alice" ∧
      ((after competing).releaseAll "bob").2.owner? ⟨0, 0⟩ = (after competing).owner? ⟨0, 0⟩ := by
  have hheld : Held competing ⟨0, 0⟩ "alice" := by
    refine ⟨[], competing.tail, rfl, (lock_granted_iff _).2 (Or.inl (owner?_empty _)), ?_⟩
    simp [competing, Request.Releases]
  have hother : ¬ Held competing ⟨0, 0⟩ "bob" := by
    rw [← owner?_after_iff, owner?_after_iff.2 hheld]
    decide
  obtain ⟨hexcludes, -, hreleases⟩ := held_excludes competing
  exact ⟨hheld, hexcludes _ _ hheld, (hreleases "bob").2.2 _ hother⟩

end Worksheet.Locks
