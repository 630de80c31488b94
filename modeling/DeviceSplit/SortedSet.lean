set_option autoImplicit false

/-! # Finite sets in a fixed order

Sets of targeting values have one order in which they are written out. `Ranked` gives each value
a list of numbers, and values are ordered as those lists are. A `SortedSet` is a list that ascends
strictly in this order, so two sets with the same members are the same list (`SortedSet.ext`) and
equality of records that hold sets is plain equality. -/

namespace DeviceSplit

/-- A type whose values are told apart, and ordered, by a list of numbers. -/
class Ranked (α : Type) where
  rank : α → List Nat
  rank_inj : ∀ {a b : α}, rank a = rank b → a = b

export Ranked (rank rank_inj)

variable {α : Type} [Ranked α]

theorem eq_of_not_rank_lt {a b : α} (hab : ¬rank a < rank b) (hba : ¬rank b < rank a) : a = b :=
  rank_inj (List.le_antisymm (List.not_lt.1 hba) (List.not_lt.1 hab))

/-- The order of texts: character by character, by code point. -/
instance : Ranked String where
  rank s := s.toList.map Char.toNat
  rank_inj h := String.toList_inj.1
    ((List.map_inj_right fun _ _ hc => Char.toNat_inj.1 hc).1 h)

/-! ## Ascending lists -/

/-- Put a value into its place in an ascending list, unless it is there already. -/
def insertSorted (a : α) : List α → List α
  | [] => [a]
  | b :: r =>
    if rank a < rank b then a :: b :: r
    else if rank b < rank a then b :: insertSorted a r
    else b :: r

theorem mem_insertSorted {a x : α} {l : List α} : x ∈ insertSorted a l ↔ x = a ∨ x ∈ l := by
  induction l with
  | nil => simp [insertSorted]
  | cons b r ih =>
    rw [insertSorted]
    split
    · simp
    · next hab =>
      split
      · simp only [List.mem_cons, ih]
        exact or_left_comm
      · next hba =>
        obtain rfl := eq_of_not_rank_lt hab hba
        simp

theorem pairwise_insertSorted {a : α} {l : List α} (h : l.Pairwise fun a b => rank a < rank b) :
    (insertSorted a l).Pairwise fun a b => rank a < rank b := by
  induction l with
  | nil => simp [insertSorted]
  | cons b r ih =>
    obtain ⟨hb, hr⟩ := List.pairwise_cons.1 h
    rw [insertSorted]
    split
    · next hab =>
      refine List.pairwise_cons.2 ⟨fun x hx => ?_, h⟩
      rcases List.mem_cons.1 hx with rfl | hx
      · exact hab
      · exact List.lt_trans hab (hb x hx)
    · split
      · next hba =>
        refine List.pairwise_cons.2 ⟨fun x hx => ?_, ih hr⟩
        rcases mem_insertSorted.1 hx with rfl | hx
        · exact hba
        · exact hb x hx
      · exact h

/-- Two strictly ascending lists with the same members are equal. -/
theorem eq_of_ascending {l m : List α} (hl : l.Pairwise fun a b => rank a < rank b)
    (hm : m.Pairwise fun a b => rank a < rank b) (h : ∀ x, x ∈ l ↔ x ∈ m) : l = m := by
  induction l generalizing m with
  | nil =>
    cases m with
    | nil => rfl
    | cons b s => exact absurd ((h b).2 List.mem_cons_self) List.not_mem_nil
  | cons a r ih =>
    cases m with
    | nil => exact absurd ((h a).1 List.mem_cons_self) List.not_mem_nil
    | cons b s =>
      obtain ⟨ha, hr⟩ := List.pairwise_cons.1 hl
      obtain ⟨hb, hs⟩ := List.pairwise_cons.1 hm
      have hab : a = b := by
        rcases List.mem_cons.1 ((h a).1 List.mem_cons_self) with rfl | has
        · rfl
        rcases List.mem_cons.1 ((h b).2 List.mem_cons_self) with rfl | hbr
        · rfl
        exact absurd (hb a has) (List.lt_asymm (ha b hbr))
      subst hab
      refine congrArg (a :: ·) (ih hr hs fun x => ?_)
      have hx := h x
      simp only [List.mem_cons] at hx
      constructor
      · intro hxr
        rcases hx.1 (Or.inr hxr) with rfl | hxs
        · exact absurd (ha x hxr) (List.lt_irrefl _)
        · exact hxs
      · intro hxs
        rcases hx.2 (Or.inr hxs) with rfl | hxr
        · exact absurd (hb x hxs) (List.lt_irrefl _)
        · exact hxr

/-! ## Sets -/

/-- A finite set: its members in ascending order, each once. -/
structure SortedSet (α : Type) [Ranked α] where
  toList : List α
  ascending : toList.Pairwise fun a b => rank a < rank b

namespace SortedSet

instance : Membership α (SortedSet α) where
  mem s a := a ∈ s.toList

theorem mem_def {s : SortedSet α} {a : α} : a ∈ s ↔ a ∈ s.toList := Iff.rfl

theorem toList_inj {s t : SortedSet α} (h : s.toList = t.toList) : s = t := by
  cases s; cases t; cases h; rfl

/-- A set is determined by its members. -/
theorem ext {s t : SortedSet α} (h : ∀ a, a ∈ s ↔ a ∈ t) : s = t :=
  toList_inj (eq_of_ascending s.ascending t.ascending h)

instance [DecidableEq α] : DecidableEq (SortedSet α) := fun s t =>
  decidable_of_iff (s.toList = t.toList) ⟨toList_inj, fun h => h ▸ rfl⟩

instance [DecidableEq α] (s : SortedSet α) (a : α) : Decidable (a ∈ s) :=
  inferInstanceAs (Decidable (a ∈ s.toList))

instance (s : SortedSet α) (p : α → Prop) [DecidablePred p] : Decidable (∀ a ∈ s, p a) :=
  inferInstanceAs (Decidable (∀ a ∈ s.toList, p a))

theorem nodup (s : SortedSet α) : s.toList.Nodup := by
  refine s.ascending.imp ?_
  rintro a b h rfl
  exact List.lt_irrefl _ h

/-- The set without members. -/
def empty : SortedSet α := ⟨[], .nil⟩

instance : EmptyCollection (SortedSet α) := ⟨empty⟩

@[simp] theorem not_mem_empty (a : α) : a ∉ (∅ : SortedSet α) := List.not_mem_nil

/-- Whether a set has no members. -/
def isEmpty (s : SortedSet α) : Bool := s.toList.isEmpty

theorem isEmpty_iff {s : SortedSet α} : s.isEmpty = true ↔ s = ∅ :=
  ⟨fun h => toList_inj (List.isEmpty_iff.1 h), fun h => h ▸ rfl⟩

theorem isEmpty_iff_forall {s : SortedSet α} : s.isEmpty = true ↔ ∀ a, a ∉ s :=
  List.isEmpty_iff.trans List.eq_nil_iff_forall_not_mem

/-- Add a member. -/
def insert (a : α) (s : SortedSet α) : SortedSet α :=
  ⟨insertSorted a s.toList, pairwise_insertSorted s.ascending⟩

@[simp] theorem mem_insert {a x : α} {s : SortedSet α} : x ∈ s.insert a ↔ x = a ∨ x ∈ s :=
  mem_insertSorted

/-- The members of a list. -/
def ofList : List α → SortedSet α
  | [] => ∅
  | a :: r => (ofList r).insert a

@[simp] theorem mem_ofList {l : List α} {x : α} : x ∈ ofList l ↔ x ∈ l := by
  induction l with
  | nil => simp [ofList]
  | cons a r ih => simp [ofList, ih]

/-- The set with one member. -/
def single (a : α) : SortedSet α := ⟨[a], List.pairwise_singleton _ _⟩

@[simp] theorem mem_single {a x : α} : x ∈ single a ↔ x = a := List.mem_singleton

/-- The members of either set. -/
def union (s t : SortedSet α) : SortedSet α := ofList (s.toList ++ t.toList)

instance : Union (SortedSet α) := ⟨union⟩

@[simp] theorem mem_union {s t : SortedSet α} {x : α} : x ∈ s ∪ t ↔ x ∈ s ∨ x ∈ t :=
  mem_ofList.trans List.mem_append

/-- The members of any of the sets. -/
def unions (ss : List (SortedSet α)) : SortedSet α := ofList (ss.flatMap toList)

@[simp] theorem mem_unions {ss : List (SortedSet α)} {x : α} :
    x ∈ unions ss ↔ ∃ s ∈ ss, x ∈ s :=
  mem_ofList.trans List.mem_flatMap

theorem mem_unions_map {β : Type} {f : β → SortedSet α} {l : List β} {x : α} :
    x ∈ unions (l.map f) ↔ ∃ b ∈ l, x ∈ f b := by
  rw [mem_unions]
  constructor
  · rintro ⟨s, hs, hx⟩
    obtain ⟨b, hb, rfl⟩ := List.mem_map.1 hs
    exact ⟨b, hb, hx⟩
  · rintro ⟨b, hb, hx⟩
    exact ⟨f b, List.mem_map_of_mem hb, hx⟩

/-- The members that pass a test. -/
def filter (p : α → Bool) (s : SortedSet α) : SortedSet α :=
  ⟨s.toList.filter p, s.ascending.filter p⟩

@[simp] theorem mem_filter {p : α → Bool} {s : SortedSet α} {x : α} :
    x ∈ s.filter p ↔ x ∈ s ∧ p x = true :=
  List.mem_filter

variable [DecidableEq α]

/-- The members of the first set that are not in the second. -/
def diff (s t : SortedSet α) : SortedSet α := s.filter (· ∉ t)

instance : SDiff (SortedSet α) := ⟨diff⟩

@[simp] theorem mem_diff {s t : SortedSet α} {x : α} : x ∈ s \ t ↔ x ∈ s ∧ x ∉ t :=
  mem_filter.trans (by simp)

/-- The members of both sets. -/
def inter (s t : SortedSet α) : SortedSet α := s.filter (· ∈ t)

instance : Inter (SortedSet α) := ⟨inter⟩

@[simp] theorem mem_inter {s t : SortedSet α} {x : α} : x ∈ s ∩ t ↔ x ∈ s ∧ x ∈ t :=
  mem_filter.trans (by simp)

end SortedSet

end DeviceSplit
