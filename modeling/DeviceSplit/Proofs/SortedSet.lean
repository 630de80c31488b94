import Mathlib.Data.String.Basic
import DeviceSplit.SortedSet

set_option autoImplicit false

/-! # Sets and the lists that they come from -/

namespace DeviceSplit

theorem map_toNat_lt_iff {l m : List Char} : l.map Char.toNat < m.map Char.toNat ↔ l < m := by
  induction l generalizing m with
  | nil => cases m <;> simp
  | cons b r ih =>
    cases m with
    | nil => simp
    | cons c s =>
      rw [List.map_cons, List.map_cons, List.cons_lt_cons_iff, List.cons_lt_cons_iff, ih,
        Char.toNat_inj]
      rfl

/-- Texts rank as they compare. -/
theorem rank_lt_rank_iff {s t : String} : rank s < rank t ↔ s < t := by
  rw [String.lt_iff_toList_lt]
  exact map_toNat_lt_iff

namespace SortedSet

variable {α : Type} [Ranked α]

theorem single_inj {a b : α} (h : single a = single b) : a = b :=
  mem_single.1 (h ▸ mem_single.2 rfl)

/-- Making a set of a list without repetitions only rearranges it. -/
theorem toList_ofList_perm {l : List α} (hl : l.Nodup) : (ofList l).toList.Perm l := by
  rw [List.perm_ext_iff_of_nodup (ofList l).nodup hl]
  intro a
  exact mem_def.symm.trans mem_ofList

/-- The union of sets that are all the same, if there is at least one. -/
theorem unions_map_eq {β : Type} {l : List β} {f : β → SortedSet α} {s : SortedSet α}
    (hl : l ≠ []) (hf : ∀ b ∈ l, f b = s) : unions (l.map f) = s := by
  refine ext fun a => ?_
  rw [mem_unions_map]
  constructor
  · rintro ⟨b, hb, ha⟩
    exact hf b hb ▸ ha
  · intro ha
    obtain ⟨b, hb⟩ := List.exists_mem_of_ne_nil l hl
    exact ⟨b, hb, (hf b hb).symm ▸ ha⟩

end SortedSet

end DeviceSplit
