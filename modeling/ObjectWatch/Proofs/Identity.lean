import Mathlib.Data.List.Nodup
import ObjectWatch.Identity

/-! Lists of identities: sorting one reorders it, and listing its different members keeps exactly these,
    each once. The order is strict and total, so identities that differ have one sorted list only. -/

namespace ObjectWatch.Identity

variable {n : Identity} {ns : List Identity}

theorem insertSorted_perm : (insertSorted n ns).Perm (n :: ns) := by
  induction ns with
  | nil => exact List.Perm.refl _
  | cons m rest ih =>
    rw [insertSorted]
    split
    · exact (ih.cons m).trans (List.Perm.swap n m rest)
    · exact List.Perm.refl _

theorem sorted_perm : (sorted ns).Perm ns := by
  induction ns with
  | nil => exact List.Perm.refl _
  | cons m rest ih => exact insertSorted_perm.trans (ih.cons m)

theorem mem_sorted : n ∈ sorted ns ↔ n ∈ ns :=
  sorted_perm.mem_iff

theorem nodup_sorted : (sorted ns).Nodup ↔ ns.Nodup :=
  sorted_perm.nodup_iff

theorem mem_distinct : n ∈ distinct ns ↔ n ∈ ns := by
  induction ns with
  | nil => simp [distinct]
  | cons m rest ih =>
    by_cases hm : n = m
    · simp [distinct, hm]
    · simp [distinct, hm, ih]

theorem nodup_distinct : (distinct ns).Nodup := by
  induction ns with
  | nil => exact List.nodup_nil
  | cons m rest ih => exact List.nodup_cons.mpr ⟨by simp, ih.filter _⟩

/-! ### The order -/

section Order
variable {a b c : Identity} {ms : List Identity}

theorem before_iff : a.before b = true ↔ a.ns < b.ns ∨ a.ns = b.ns ∧ a.name < b.name := by
  simp [before]

theorem before_trans (h : a.before b = true) (h' : b.before c = true) : a.before c = true := by
  rw [before_iff] at *
  rcases h with hlt | ⟨heq, hlt⟩ <;> rcases h' with hlt' | ⟨heq', hlt'⟩
  · exact .inl (String.lt_trans hlt hlt')
  · exact .inl (heq' ▸ hlt)
  · exact .inl (heq ▸ hlt')
  · exact .inr ⟨heq.trans heq', String.lt_trans hlt hlt'⟩

theorem before_irrefl : ¬ a.before a = true := by
  simp [before_iff]

theorem before_of_not_before (h : ¬ a.before b = true) (hne : a ≠ b) : b.before a = true := by
  rw [before_iff, not_or, String.not_lt] at h
  obtain ⟨hns, hname⟩ := h
  rw [before_iff]
  by_cases heq : a.ns = b.ns
  · refine .inr ⟨heq.symm, ?_⟩
    by_contra hlt
    have hle : b.name ≤ a.name := String.not_lt.mp fun h => hname ⟨heq, h⟩
    have hsame : a.name = b.name := String.le_antisymm (String.not_lt.mp hlt) hle
    cases a
    cases b
    simp_all
  · left
    by_contra hlt
    exact heq (String.le_antisymm (String.not_lt.mp hlt) hns)

theorem pairwise_insertSorted (hn : n ∉ ns) (h : ns.Pairwise fun a b => a.before b = true) :
    (insertSorted n ns).Pairwise fun a b => a.before b = true := by
  induction ns with
  | nil => simp [insertSorted]
  | cons m rest ih =>
    obtain ⟨hm, hrest⟩ := List.pairwise_cons.mp h
    rw [List.mem_cons, not_or] at hn
    rw [insertSorted]
    split
    · rename_i hbefore
      refine List.pairwise_cons.mpr ⟨?_, ih hn.2 hrest⟩
      intro x hx
      rcases List.mem_cons.mp (insertSorted_perm.mem_iff.mp hx) with rfl | hx
      · exact hbefore
      · exact hm x hx
    · rename_i hbefore
      have hfirst : n.before m = true := before_of_not_before hbefore (Ne.symm hn.1)
      refine List.pairwise_cons.mpr ⟨?_, h⟩
      intro x hx
      rcases List.mem_cons.mp hx with rfl | hx
      · exact hfirst
      · exact before_trans hfirst (hm x hx)

/-- Different identities in order increase strictly. -/
theorem pairwise_sorted (h : ns.Nodup) : (sorted ns).Pairwise fun a b => a.before b = true := by
  induction ns with
  | nil => exact .nil
  | cons m rest ih =>
    obtain ⟨hm, hrest⟩ := List.nodup_cons.mp h
    exact pairwise_insertSorted (fun hmem => hm (mem_sorted.mp hmem)) (ih hrest)

/-- The order in which different identities are given makes no difference to their sorted list. -/
theorem sorted_eq_of_perm (h : ns.Nodup) (hperm : ns.Perm ms) : sorted ns = sorted ms := by
  have hms : ms.Nodup := hperm.nodup_iff.mp h
  refine List.Perm.eq_of_pairwise ?_ (pairwise_sorted h) (pairwise_sorted hms)
    (sorted_perm.trans (hperm.trans sorted_perm.symm))
  intro a b _ _ hab hba
  exact absurd (before_trans hab hba) before_irrefl

/-- The sorted list of the different members is one of the set of members alone. -/
theorem sorted_distinct_congr (h : ∀ n, n ∈ ns ↔ n ∈ ms) : sorted (distinct ns) = sorted (distinct ms) := by
  refine sorted_eq_of_perm nodup_distinct ?_
  rw [List.perm_ext_iff_of_nodup nodup_distinct nodup_distinct]
  intro n
  rw [mem_distinct, mem_distinct, h]

end Order

end ObjectWatch.Identity
