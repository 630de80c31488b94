import Mathlib.Data.List.Basic
import Mathlib.Data.List.Induction

set_option autoImplicit false

/-! # Lists without repetitions

`List.eraseDups` keeps the first appearance of each member of a list. It is defined from the front;
most facts about it are seen from the back, where a new member either has appeared before or is
kept as the last one (`eraseDups_concat`). -/

namespace DeviceSplit

variable {α : Type} [DecidableEq α]

/-- The last member of a list is kept exactly when it has not appeared before. -/
theorem eraseDups_concat (l : List α) (a : α) :
    (l ++ [a]).eraseDups = if a ∈ l then l.eraseDups else l.eraseDups ++ [a] := by
  rw [List.eraseDups_append, List.removeAll]
  by_cases ha : a ∈ l
  · rw [if_pos ha, List.filter_cons_of_neg (by simpa using ha)]
    simp
  · rw [if_neg ha, List.filter_cons_of_pos (by simpa using ha)]
    simp [List.eraseDups_cons]

theorem nodup_eraseDups (l : List α) : l.eraseDups.Nodup := by
  induction l using List.reverseRecOn with
  | nil => exact List.nodup_nil
  | append_singleton l a ih =>
    rw [eraseDups_concat]
    split
    · exact ih
    · next ha =>
      have hnew : a ∉ l.eraseDups := fun h => ha (List.mem_eraseDups.1 h)
      rw [List.nodup_append]
      refine ⟨ih, List.pairwise_singleton _ _, ?_⟩
      rintro b hb c hc rfl
      exact hnew (List.mem_singleton.1 hc ▸ hb)

theorem eraseDups_eq_self {l : List α} (h : l.Nodup) : l.eraseDups = l := by
  induction l using List.reverseRecOn with
  | nil => rfl
  | append_singleton l a ih =>
    obtain ⟨hl, -, hne⟩ := List.nodup_append.1 h
    have ha : a ∉ l := fun hmem => hne a hmem a (List.mem_singleton_self a) rfl
    rw [eraseDups_concat, if_neg ha, ih hl]

/-- Members can be left out before or after repetitions are removed. -/
theorem eraseDups_filter (p : α → Bool) (l : List α) :
    (l.filter p).eraseDups = l.eraseDups.filter p := by
  induction l using List.reverseRecOn with
  | nil => rfl
  | append_singleton l a ih =>
    rw [eraseDups_concat, List.filter_append]
    by_cases hp : p a
    · have hmem : a ∈ l.filter p ↔ a ∈ l := by simp [hp]
      have hkept : [a].filter p = [a] := by simp [hp]
      rw [hkept, eraseDups_concat, ih]
      by_cases ha : a ∈ l
      · rw [if_pos (hmem.2 ha), if_pos ha]
      · rw [if_neg (fun h => ha (hmem.1 h)), if_neg ha, List.filter_append, hkept]
    · have hnone : [a].filter p = [] := by simp [hp]
      rw [hnone, List.append_nil, ih]
      by_cases ha : a ∈ l
      · rw [if_pos ha]
      · rw [if_neg ha, List.filter_append, hnone, List.append_nil]

/-- Members that have all appeared before can be left out. -/
theorem eraseDups_append_of_subset {l m : List α} (r : List α) (h : ∀ a ∈ m, a ∈ l) :
    (l ++ (m ++ r)).eraseDups = (l ++ r).eraseDups := by
  have hm : m.removeAll l = [] := by
    rw [List.removeAll, List.filter_eq_nil_iff]
    intro a ha
    simp [h a ha]
  have hmr : (m ++ r).removeAll l = r.removeAll l := by
    change (m ++ r).filter _ = _
    rw [List.filter_append]
    change m.removeAll l ++ r.removeAll l = r.removeAll l
    rw [hm, List.nil_append]
  rw [List.eraseDups_append, List.eraseDups_append, hmr]

/-- The members of a list, each once, stand in the order of their first appearances. -/
theorem pairwise_idxOf_eraseDups (l : List α) :
    l.eraseDups.Pairwise fun a b => l.idxOf a < l.idxOf b := by
  induction l using List.reverseRecOn with
  | nil => exact List.Pairwise.nil
  | append_singleton l c ih =>
    have hkept : l.eraseDups.Pairwise fun a b => (l ++ [c]).idxOf a < (l ++ [c]).idxOf b := by
      refine List.Pairwise.imp_of_mem ?_ ih
      intro a b ha hb hab
      rw [List.idxOf_append_of_mem (List.mem_eraseDups.1 ha),
        List.idxOf_append_of_mem (List.mem_eraseDups.1 hb)]
      exact hab
    rw [eraseDups_concat]
    by_cases hc : c ∈ l
    · rw [if_pos hc]
      exact hkept
    · rw [if_neg hc, List.pairwise_append]
      refine ⟨hkept, List.pairwise_singleton _ _, ?_⟩
      intro a ha b hb
      obtain rfl := List.mem_singleton.1 hb
      have hal := List.mem_eraseDups.1 ha
      rw [List.idxOf_append_of_mem hal, List.idxOf_append_of_notMem hc]
      exact Nat.lt_of_lt_of_le (List.idxOf_lt_length_of_mem hal) (Nat.le_add_right _ _)

/-- The members of a list without repetitions stand in the order of their positions. -/
theorem pairwise_idxOf {l : List α} (hl : l.Nodup) : l.Pairwise fun a b => l.idxOf a < l.idxOf b := by
  have hpairwise := pairwise_idxOf_eraseDups l
  rw [eraseDups_eq_self hl] at hpairwise
  exact hpairwise

end DeviceSplit
