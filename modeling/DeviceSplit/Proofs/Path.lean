import Mathlib.Data.List.DropRight
import Mathlib.Data.List.Infix
import DeviceSplit.Path

set_option autoImplicit false

/-! # Directories inside each other

The directories of a module form a forest under containment: what lies below a directory that lies
below another one lies below the other one too (`contains_trans`), and two directories that have a
path in common lie one below the other (`contains_or_contains`). Spelling a path normally can be done
again without effect (`normalize_normalize`). -/

namespace DeviceSplit.Path

variable {a b path : List Char}

theorem contains_iff :
    contains a path = true ↔ a = [] ∨ path = a ∨ a ++ ['/'] <+: path := by
  simp only [contains, Bool.or_eq_true, List.isEmpty_iff, beq_iff_eq, List.isPrefixOf_iff_prefix,
    or_assoc]

theorem contains_trans (hab : contains a b = true) (hb : contains b path = true) :
    contains a path = true := by
  rw [contains_iff] at hab hb ⊢
  rcases hab with hroot | rfl | hab
  · exact Or.inl hroot
  · exact hb
  · rcases hb with rfl | rfl | hb
    · have hempty : a ++ ['/'] = [] := List.prefix_nil.1 hab
      simp at hempty
    · exact Or.inr (Or.inr hab)
    · exact Or.inr (Or.inr (hab.trans ((List.prefix_append b ['/']).trans hb)))

/-- Of two names with the slash that ends them, the shorter one contains the longer one. -/
theorem contains_of_prefix (h : a ++ ['/'] <+: b ++ ['/']) : contains a b = true := by
  rw [contains_iff]
  rcases List.prefix_concat_iff.1 h with heq | hab
  · exact Or.inr (Or.inl (List.append_cancel_right heq).symm)
  · exact Or.inr (Or.inr hab)

theorem contains_or_contains (ha : contains a path = true) (hb : contains b path = true) :
    contains a b = true ∨ contains b a = true := by
  have ha' := ha
  have hb' := hb
  rw [contains_iff] at ha' hb'
  rcases ha' with hroot | rfl | ha'
  · exact Or.inl (contains_iff.2 (Or.inl hroot))
  · exact Or.inr hb
  · rcases hb' with hroot | rfl | hb'
    · exact Or.inr (contains_iff.2 (Or.inl hroot))
    · exact Or.inl ha
    · exact (List.prefix_or_prefix_of_prefix ha' hb').imp contains_of_prefix contains_of_prefix

/-! ## Normal spelling -/

theorem head?_trimBy_not {p : Char → Bool} {cs : List Char} {c : Char}
    (h : (Text.trimBy p cs).head? = some c) : p c = false := by
  -- Trimming at the right keeps the first character, if it keeps any.
  have hprefix : Text.trimBy p cs <+: cs.dropWhile p := List.rdropWhile_prefix p _
  obtain ⟨r, hr⟩ := hprefix
  have hnot := List.head?_dropWhile_not p cs
  rw [← hr, List.head?_append, h] at hnot
  exact hnot

theorem getLast?_trimBy_not {p : Char → Bool} {cs : List Char} {c : Char}
    (h : (Text.trimBy p cs).getLast? = some c) : p c = false := by
  have hnot := List.head?_dropWhile_not p (cs.dropWhile p).reverse
  rw [Text.trimBy, List.getLast?_reverse] at h
  rw [h] at hnot
  exact hnot

/-- What is left has nothing more to trim at either end. -/
theorem trimBy_trimBy (p : Char → Bool) (cs : List Char) :
    Text.trimBy p (Text.trimBy p cs) = Text.trimBy p cs :=
  Text.trimBy_eq_self (fun _ => head?_trimBy_not) fun _ => getLast?_trimBy_not

/-- Characters of the class at the ends make no difference. -/
theorem trimBy_append {p : Char → Bool} {before cs after : List Char}
    (hbefore : ∀ c ∈ before, p c = true) (hafter : ∀ c ∈ after, p c = true) :
    Text.trimBy p (before ++ cs ++ after) = Text.trimBy p cs := by
  rw [Text.trimBy, List.append_assoc, List.dropWhile_append_of_pos hbefore, List.dropWhile_append]
  split
  · next hempty =>
    rw [List.isEmpty_iff] at hempty
    have hdrop : after.dropWhile p = [] := by simpa using hafter
    rw [hdrop, Text.trimBy, hempty]
  · rw [List.reverse_append, List.dropWhile_append_of_pos (by simpa using hafter), Text.trimBy]

/-- Only characters of the class are trimmed. -/
theorem exists_trimBy (p : Char → Bool) (cs : List Char) :
    ∃ before after, cs = before ++ Text.trimBy p cs ++ after ∧ (∀ c ∈ before, p c = true) ∧
      ∀ c ∈ after, p c = true := by
  refine ⟨cs.takeWhile p, (cs.dropWhile p).rtakeWhile p, ?_, fun c => List.mem_takeWhile_imp,
    fun c => List.mem_rtakeWhile_imp⟩
  have hright : Text.trimBy p cs ++ (cs.dropWhile p).rtakeWhile p = cs.dropWhile p :=
    List.rdropWhile_append_rtakeWhile ..
  rw [List.append_assoc, hright, List.takeWhile_append_dropWhile]

theorem mem_of_mem_trimBy {p : Char → Bool} {cs : List Char} {c : Char}
    (h : c ∈ Text.trimBy p cs) : c ∈ cs := by
  rw [Text.trimBy, List.mem_reverse] at h
  have hleft := List.mem_reverse.1 (List.dropWhile_subset p h)
  exact List.dropWhile_subset p hleft

theorem forward_forward (c : Char) : forward (forward c) = forward c := by
  by_cases hc : c = '\\'
  · rw [hc]
    rfl
  · have hforward : forward c = c := if_neg hc
    rw [hforward, hforward]

theorem normalizeChars_normalizeChars (cs : List Char) :
    normalizeChars (normalizeChars cs) = normalizeChars cs := by
  have hforward : ∀ c ∈ normalizeChars cs, forward c = id c := by
    intro c hc
    obtain ⟨b, -, rfl⟩ := List.mem_map.1 (mem_of_mem_trimBy hc)
    exact forward_forward b
  have hmap : (normalizeChars cs).map forward = normalizeChars cs :=
    (List.map_congr_left hforward).trans (List.map_id _)
  rw [normalizeChars, hmap, normalizeChars, trimBy_trimBy]

/-- A normal spelling is its own normal spelling. -/
theorem normalize_normalize (s : String) : normalize (normalize s) = normalize s := by
  rw [normalize, toList_normalize, normalizeChars_normalizeChars, normalize]

end DeviceSplit.Path
