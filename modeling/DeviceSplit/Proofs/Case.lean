import Mathlib.Data.List.Forall2
import DeviceSplit.Text.Case

set_option autoImplicit false

/-! # Comparing with ASCII words after a change of case

A full change of case follows long tables, and what becomes of a character may depend on the
characters around it. A comparison with an ASCII word needs none of that: it comes out the same for
all changes of case that have the same forms in ASCII (`Recased.eq_iff`). So `upper` and `lower`, which
leave other characters alone, stand for the full changes of case (`upper_eq_iff`, `lower_eq_iff`). A
word without a k, in lower case, is matched by its own letters and their capitals and by nothing else
(`lower_eq_iff_inAnyCase`). -/

namespace DeviceSplit.Text

variable {c l : Char} {s t word : String}

/-! ## ASCII characters -/

def IsAscii (c : Char) : Prop := c.toNat < 128

instance (c : Char) : Decidable (IsAscii c) := inferInstanceAs (Decidable (c.toNat < 128))

/-- All characters of a text are ASCII characters. -/
def InAscii (s : String) : Prop := ∀ c ∈ s.toList, IsAscii c

-- Without this instance, all characters there are would be tried.
instance (s : String) : Decidable (InAscii s) := List.decidableBAll IsAscii s.toList

/-- What holds of the first 128 characters holds of all ASCII characters. -/
theorem forall_isAscii {P : Char → Prop} (h : ∀ n < 128, P (Char.ofNat n)) (hc : IsAscii c) :
    P c := by
  have hn := h c.toNat hc
  rwa [Char.ofNat_toNat] at hn

theorem isAscii_toUpper (hc : IsAscii c) : IsAscii c.toUpper :=
  forall_isAscii (P := fun c => IsAscii c.toUpper) (by decide) hc

theorem isAscii_of_val_le {d : Char} (hd : IsAscii d) (hle : c.val ≤ d.val) : IsAscii c :=
  Nat.lt_of_le_of_lt (UInt32.le_iff_toNat_le.1 hle) hd

theorem toUpper_of_not_isAscii (hc : ¬IsAscii c) : c.toUpper = c :=
  dif_neg fun h => hc (isAscii_of_val_le (d := 'z') (by decide) h.2)

theorem toLower_of_not_isAscii (hc : ¬IsAscii c) : c.toLower = c :=
  dif_neg fun h => hc (isAscii_of_val_le (d := 'Z') (by decide) h.2)

/-! ## Full changes of case -/

/-- The second text is the first one after a change of case of which only the forms in ASCII are known.
A character without such a form may be turned into anything with a character beyond ASCII in it, and
not always into the same. -/
inductive Recased (form? : Char → Option (List Char)) : List Char → List Char → Prop
  | nil : Recased form? [] []
  | ascii {c : Char} {form cs ds : List Char} (h : form? c = some form)
      (rest : Recased form? cs ds) : Recased form? (c :: cs) (form ++ ds)
  | foreign {c : Char} {form cs ds : List Char} (h : form? c = none)
      (hform : ∃ x ∈ form, ¬IsAscii x) (rest : Recased form? cs ds) :
      Recased form? (c :: cs) (form ++ ds)

namespace Recased

variable {form? : Char → Option (List Char)} {cs ds es w : List Char}

/-- If one change of case ends in ASCII, all of them end in the same. -/
theorem eq_of_isAscii (hd : Recased form? cs ds) (he : Recased form? cs es)
    (hascii : ∀ x ∈ ds, IsAscii x) : es = ds := by
  induction hd generalizing es with
  | nil =>
    cases he with
    | nil => rfl
  | ascii h _ ih =>
    have hrest := (List.forall_mem_append.1 hascii).2
    cases he with
    | ascii h' rest' =>
      obtain rfl := Option.some.inj (h.symm.trans h')
      rw [ih rest' hrest]
    | foreign h' _ _ => exact absurd (h.symm.trans h') (Option.some_ne_none _)
  | foreign _ hform _ _ =>
    -- Here the first text would leave ASCII.
    obtain ⟨x, hx, hnot⟩ := hform
    exact absurd (hascii x (List.mem_append_left _ hx)) hnot

theorem eq_iff (hd : Recased form? cs ds) (he : Recased form? cs es)
    (hw : ∀ x ∈ w, IsAscii x) : ds = w ↔ es = w := by
  constructor
  · rintro rfl
    exact hd.eq_of_isAscii he hw
  · rintro rfl
    exact he.eq_of_isAscii hd hw

/-- A change of case that goes by characters alone. -/
theorem of_flatMap {form : Char → List Char}
    (h : ∀ c, form? c = some (form c) ∨ form? c = none ∧ ∃ x ∈ form c, ¬IsAscii x)
    (cs : List Char) : Recased form? cs (cs.flatMap form) := by
  induction cs with
  | nil => exact .nil
  | cons c cs ih =>
    rw [List.flatMap_cons]
    rcases h c with hc | ⟨hc, hform⟩
    · exact .ascii hc ih
    · exact .foreign hc hform ih

end Recased

/-! ## Upper case -/

/-- The upper case form of a character, if it lies in ASCII. -/
def upperForm? (c : Char) : Option (List Char) :=
  if IsAscii c then some [c.toUpper] else upperToAscii.lookup c

/-- The second text is the first one in full upper case. -/
def Uppercased (s t : String) : Prop := Recased upperForm? s.toList t.toList

theorem lookup_upperToAscii_of_isAscii (hc : IsAscii c) : upperToAscii.lookup c = none :=
  forall_isAscii (P := fun c => upperToAscii.lookup c = none) (by decide) hc

theorem uppercased_upper (s : String) : Uppercased s (upper s) := by
  rw [Uppercased, upper, String.toList_ofList]
  refine Recased.of_flatMap (fun c => ?_) s.toList
  rw [upperForm?, upperChar]
  by_cases hc : IsAscii c
  · rw [if_pos hc, lookup_upperToAscii_of_isAscii hc]
    exact Or.inl rfl
  · rw [if_neg hc]
    cases hform : upperToAscii.lookup c with
    | some form => exact Or.inl rfl
    | none =>
      refine Or.inr ⟨rfl, c, ?_, hc⟩
      rw [toUpper_of_not_isAscii hc]
      exact List.mem_singleton_self c

theorem upper_eq_iff (ht : Uppercased s t) (hword : InAscii word) : upper s = word ↔ t = word := by
  rw [← String.toList_inj, ← String.toList_inj]
  exact (uppercased_upper s).eq_iff ht hword

/-! ## Lower case -/

/-- The lower case form of a character, if it lies in ASCII. -/
def lowerForm? (c : Char) : Option (List Char) :=
  if IsAscii c then some [c.toLower] else if c = '\u212A' then some ['k'] else none

/-- The second text is the first one in full lower case. -/
def Lowercased (s t : String) : Prop := Recased lowerForm? s.toList t.toList

theorem lowerChar_of_isAscii (hc : IsAscii c) : lowerChar c = c.toLower := by
  refine if_neg ?_
  rintro rfl
  exact absurd hc (by decide)

theorem lowercased_lower (s : String) : Lowercased s (lower s) := by
  rw [Lowercased, lower, String.toList_ofList, List.map_eq_flatMap]
  refine Recased.of_flatMap (fun c => ?_) s.toList
  rw [lowerForm?]
  by_cases hc : IsAscii c
  · rw [if_pos hc, lowerChar_of_isAscii hc]
    exact Or.inl rfl
  · rw [if_neg hc, lowerChar]
    split
    · exact Or.inl rfl
    · refine Or.inr ⟨rfl, c, ?_, hc⟩
      rw [toLower_of_not_isAscii hc]
      exact List.mem_singleton_self c

theorem lower_eq_iff (ht : Lowercased s t) (hword : InAscii word) : lower s = word ↔ t = word := by
  rw [← String.toList_inj, ← String.toList_inj]
  exact (lowercased_lower s).eq_iff ht hword

theorem lower_mem_iff (ht : Lowercased s t) {words : List String}
    (hwords : ∀ w ∈ words, InAscii w) : lower s ∈ words ↔ t ∈ words := by
  constructor
  · intro hmem
    rwa [(lower_eq_iff ht (hwords _ hmem)).1 rfl]
  · intro hmem
    rwa [(lower_eq_iff ht (hwords t hmem)).2 rfl]

/-! ## Words in any mixture of cases -/

/-- A text spells a word, with each letter as it is or as a capital. -/
def InAnyCase (word s : String) : Prop :=
  List.Forall₂ (fun l c => c = l ∨ c = l.toUpper) word.toList s.toList

/-- A word in lower case whose letters are the forms of no character beyond ASCII. -/
def IsPlain (word : String) : Prop :=
  ∀ l ∈ word.toList, IsAscii l ∧ l.toLower = l ∧ l ≠ 'k'

instance (word : String) : Decidable (IsPlain word) :=
  List.decidableBAll (fun l => IsAscii l ∧ l.toLower = l ∧ l ≠ 'k') word.toList

theorem IsPlain.inAscii (hword : IsPlain word) : InAscii word := fun l hl => (hword l hl).1

theorem inAnyCase_singleton :
    InAnyCase (String.ofList [l]) s ↔ s = String.ofList [l] ∨ s = String.ofList [l.toUpper] := by
  simp [InAnyCase, ← String.toList_inj, List.forall₂_cons_left_iff]

theorem lowerChar_eq_iff (hascii : IsAscii l) (hlower : l.toLower = l) (hk : l ≠ 'k') :
    lowerChar c = l ↔ c = l ∨ c = l.toUpper := by
  by_cases hc : IsAscii c
  · rw [lowerChar_of_isAscii hc]
    constructor
    · rintro rfl
      exact forall_isAscii (P := fun c => c = c.toLower ∨ c = c.toLower.toUpper) (by decide) hc
    · rintro (rfl | rfl)
      · exact hlower
      · exact forall_isAscii (P := fun l => l.toLower = l → l.toUpper.toLower = l) (by decide)
          hascii hlower
  · constructor
    · intro h
      rw [lowerChar] at h
      split at h
      · exact absurd h.symm hk
      · rw [toLower_of_not_isAscii hc] at h
        exact Or.inl h
    · rintro (rfl | rfl)
      · exact absurd hascii hc
      · exact absurd (isAscii_toUpper hascii) hc

theorem map_lowerChar_eq_iff {cs w : List Char}
    (hw : ∀ l ∈ w, IsAscii l ∧ l.toLower = l ∧ l ≠ 'k') :
    cs.map lowerChar = w ↔ List.Forall₂ (fun l c => c = l ∨ c = l.toUpper) w cs := by
  induction w generalizing cs with
  | nil => simp
  | cons l w ih =>
    obtain ⟨⟨hascii, hlower, hk⟩, hw⟩ := List.forall_mem_cons.1 hw
    cases cs with
    | nil => simp
    | cons c cs =>
      rw [List.map_cons, List.cons.injEq, lowerChar_eq_iff hascii hlower hk, ih hw,
        List.forall₂_cons]

theorem lower_eq_iff_inAnyCase (hword : IsPlain word) : lower s = word ↔ InAnyCase word s := by
  rw [← String.toList_inj, lower, String.toList_ofList]
  exact map_lowerChar_eq_iff hword

theorem lower_mem_iff_exists {words : List String} (hwords : ∀ w ∈ words, IsPlain w) :
    lower s ∈ words ↔ ∃ w ∈ words, InAnyCase w s := by
  constructor
  · intro hmem
    exact ⟨lower s, hmem, (lower_eq_iff_inAnyCase (hwords _ hmem)).1 rfl⟩
  · rintro ⟨w, hw, hcase⟩
    rw [(lower_eq_iff_inAnyCase (hwords w hw)).2 hcase]
    exact hw

/-- A text spells one plain word at most. -/
theorem InAnyCase.exists_mem_iff (hcase : InAnyCase word s) (hword : IsPlain word)
    {words : List String} (hwords : ∀ w ∈ words, IsPlain w) :
    (∃ w ∈ words, InAnyCase w s) ↔ word ∈ words := by
  rw [← lower_mem_iff_exists hwords, (lower_eq_iff_inAnyCase hword).2 hcase]

end DeviceSplit.Text
