import Mathlib.Data.List.DropRight
import DeviceSplit.Proofs.Targeting.Merge
import DeviceSplit.Targeting.Edit

set_option autoImplicit false

/-! # Runs of edits

Each merge forgets the alternatives that are values of another record, and so a record that is edited
again and again seems to lose something with every edit. It does not: along a dimension, what is left
after a run is the join of all that counts (`Targeting.counting`), which is what the last replacement
put there and everything that was merged since (`edits_settle`). One edit keeps this up
(`apply_eq_join`), since joins can be joined in groups. -/

namespace DeviceSplit

namespace Targeting

open DimensionTargeting

namespace Edit

variable {d : Dimension}

/-- What an edit puts in the place of a dimension, if it replaces it. -/
def replacement? (d : Dimension) : Edit → Option (DimensionTargeting d)
  | .replace part => if h : part.1 = d then some (h ▸ part.2) else none
  | .merge _ | .mergeUnder _ => none

/-- The records that an edit merges with the record that it changes. -/
def others : Edit → List Targeting
  | .replace _ => []
  | .merge ts | .mergeUnder ts => ts

/-- Whether an edit merges, from either side. -/
def IsMerge : Edit → Prop
  | .replace _ => False
  | .merge _ | .mergeUnder _ => True

/-- The same edit, with all merging done from above. -/
def fromAbove : Edit → Edit
  | .replace part => .replace part
  | .merge ts | .mergeUnder ts => .merge ts

/-- The arguments of an edit could have been read from plain data. -/
def Valid : Edit → Prop
  | .replace part => part.2.Disjoint ∧ part.2.Admissible
  | .merge ts | .mergeUnder ts => ∀ t ∈ ts, t.WellFormed

instance : (e : Edit) → Decidable e.Valid
  | .replace part => inferInstanceAs (Decidable (part.2.Disjoint ∧ part.2.Admissible))
  | .merge ts | .mergeUnder ts => inferInstanceAs (Decidable (∀ t ∈ ts, t.WellFormed))

/-- What counts along a dimension after an edit, given what counted before it. -/
def carryOn (e : Edit) (xs : List (DimensionTargeting d)) : List (DimensionTargeting d) :=
  match e.replacement? d with
  | some x => [x]
  | none => xs ++ partsAlong d e.others

/-- Whether what counted before an edit is joined already does not matter. -/
theorem join_carryOn_join (e : Edit) (xs : List (DimensionTargeting d)) :
    join (e.carryOn (join xs).toList) = join (e.carryOn xs) := by
  unfold carryOn
  split
  · rfl
  · exact join_flatten [] xs _

end Edit

variable {t u : Targeting} {d : Dimension} {edits : List Edit}

/-! ## What counts -/

/-- What the last replacement of a dimension put there, or else what the record had there. -/
def lastReplaced (t : Targeting) (d : Dimension) (edits : List Edit) :
    Option (DimensionTargeting d) :=
  (edits.filterMap (·.replacement? d)).getLast?.or (t.get d)

/-- The edits after the last replacement of a dimension. -/
def sinceReplaced (d : Dimension) (edits : List Edit) : List Edit :=
  edits.rtakeWhile fun e => (e.replacement? d).isNone

/-- All that counts along a dimension after some edits: what was last put there, and what records
that were merged since say about it. -/
def counting (t : Targeting) (d : Dimension) (edits : List Edit) : List (DimensionTargeting d) :=
  (t.lastReplaced d edits).toList ++ partsAlong d ((sinceReplaced d edits).flatMap Edit.others)

theorem counting_nil (t : Targeting) (d : Dimension) : t.counting d [] = (t.get d).toList :=
  List.append_nil _

theorem counting_concat (t : Targeting) (d : Dimension) (edits : List Edit) (e : Edit) :
    t.counting d (edits ++ [e]) = e.carryOn (t.counting d edits) := by
  rw [Edit.carryOn]
  cases he : e.replacement? d with
  | some x =>
    have hlast : t.lastReplaced d (edits ++ [e]) = some x := by
      simp [lastReplaced, he]
    have hsince : sinceReplaced d (edits ++ [e]) = [] :=
      List.rtakeWhile_concat_neg _ _ _ (by simp [he])
    rw [counting, hlast, hsince]
    rfl
  | none =>
    have hlast : t.lastReplaced d (edits ++ [e]) = t.lastReplaced d edits := by
      simp [lastReplaced, he]
    have hsince : sinceReplaced d (edits ++ [e]) = sinceReplaced d edits ++ [e] :=
      List.rtakeWhile_concat_pos _ _ _ (by simp [he])
    rw [counting, hlast, hsince, List.flatMap_append, partsAlong_append, ← List.append_assoc,
      List.flatMap_singleton]
    rfl

/-- As long as a dimension is not replaced, nothing that counts is lost. -/
theorem subset_counting_append (t : Targeting) (before : List Edit) {after : List Edit}
    (hafter : ∀ e ∈ after, e.replacement? d = none) :
    t.counting d before ⊆ t.counting d (before ++ after) := by
  induction after using List.reverseRecOn with
  | nil =>
    rw [List.append_nil]
    exact List.Subset.refl _
  | append_singleton r e ih =>
    have hr := ih fun e' he' => hafter e' (List.mem_append_left _ he')
    have he := hafter e (by simp)
    rw [← List.append_assoc, counting_concat, Edit.carryOn, he]
    exact List.subset_append_of_subset_left _ hr

/-! ## One edit -/

/-- An edit of a well-formed record never fails. Along each dimension the new record is the join of
what counts, if the old one is taken for all that counted before. -/
theorem apply_eq_join (hu : u.WellFormed) {e : Edit} (he : e.Valid) :
    ∃ u', u.apply e = .ok u' ∧ u'.WellFormed ∧
      ∀ d, u'.get d = join (e.carryOn (u.get d).toList) := by
  cases e with
  | replace part =>
    obtain ⟨c, x⟩ := part
    obtain ⟨hdisjoint, hadmissible⟩ := he
    refine ⟨u.withDimension x, rfl, hu.withDimension hdisjoint hadmissible, fun d => ?_⟩
    by_cases hd : c = d
    · subst hd
      have hcarry : (Edit.replace ⟨c, x⟩).carryOn (u.get c).toList = [x] := by
        simp [Edit.carryOn, Edit.replacement?]
      rw [get_withDimension_self, hcarry, join_singleton hdisjoint]
    · have hcarry : (Edit.replace ⟨c, x⟩).carryOn (u.get d).toList = (u.get d).toList := by
        simp [Edit.carryOn, Edit.replacement?, hd, Edit.others, partsAlong]
      rw [get_withDimension_of_ne _ _ hd, hcarry, join_toList_get (hu d)]
  | merge ts =>
    have hall : ∀ t ∈ u :: ts, t.WellFormed := List.forall_mem_cons.2 ⟨hu, he⟩
    refine ⟨merge (u :: ts), makeMerged_eq _, WellFormed.merge hall, fun d => ?_⟩
    have hparts : partsAlong d (u :: ts) = (u.get d).toList ++ partsAlong d ts := by
      rw [← List.singleton_append, partsAlong_append, partsAlong_singleton]
    rw [get_merge_eq_join, hparts]
    rfl
  | mergeUnder ts =>
    have hall : ∀ t ∈ ts ++ [u], t.WellFormed := by
      intro t ht
      rcases List.mem_append.1 ht with ht | ht
      · exact he t ht
      · exact List.mem_singleton.1 ht ▸ hu
    refine ⟨merge (ts ++ [u]), makeMerged_eq _, WellFormed.merge hall, fun d => ?_⟩
    rw [get_merge_eq_join, partsAlong_append, partsAlong_singleton]
    refine join_congr_of_mem_iff fun x => ?_
    exact List.mem_append.trans (or_comm.trans List.mem_append.symm)

/-- From which side records are merged does not matter. -/
theorem apply_fromAbove (u : Targeting) (e : Edit) : u.apply e.fromAbove = u.apply e := by
  cases e with
  | replace part => rfl
  | merge ts => rfl
  | mergeUnder ts =>
    change makeMerged (u :: ts) = makeMerged (ts ++ [u])
    rw [makeMerged_eq, makeMerged_eq]
    refine congrArg Except.ok (merge_congr_of_mem_iff fun t _ => ?_)
    simp [or_comm]

/-! ## A run of edits -/

theorem applyAll_append (t : Targeting) (before after : List Edit) :
    t.applyAll (before ++ after) = t.applyAll before >>= fun u => u.applyAll after :=
  List.foldlM_append

theorem applyAll_concat {before : List Edit} (h : t.applyAll before = .ok u) (e : Edit) :
    t.applyAll (before ++ [e]) = u.apply e := by
  rw [applyAll_append, h]
  exact bind_pure (u.apply e)

/-- A run of edits never fails, and leaves along each dimension the join of what counts. -/
theorem applyAll_eq_join (ht : t.WellFormed) (hedits : ∀ e ∈ edits, e.Valid) :
    ∃ u, t.applyAll edits = .ok u ∧ u.WellFormed ∧ ∀ d, u.get d = join (t.counting d edits) := by
  induction edits using List.reverseRecOn with
  | nil =>
    refine ⟨t, rfl, ht, fun d => ?_⟩
    rw [counting_nil, join_toList_get (ht d)]
  | append_singleton r e ih =>
    obtain ⟨u, hu, hwell, hget⟩ := ih fun e' he' => hedits e' (List.mem_append_left _ he')
    obtain ⟨u', hu', hwell', hget'⟩ := apply_eq_join hwell (hedits e (by simp))
    refine ⟨u', (applyAll_concat hu e).trans hu', hwell', fun d => ?_⟩
    rw [hget', hget, Edit.join_carryOn_join, counting_concat]

theorem get_eq_join_of_applyAll (ht : t.WellFormed) (hedits : ∀ e ∈ edits, e.Valid)
    (hu : t.applyAll edits = .ok u) : u.get d = join (t.counting d edits) := by
  obtain ⟨u', hu', -, hget⟩ := applyAll_eq_join ht hedits
  obtain rfl : u' = u := Except.ok.inj (hu'.symm.trans hu)
  exact hget d

theorem applyAll_map_fromAbove (t : Targeting) (edits : List Edit) :
    t.applyAll (edits.map Edit.fromAbove) = t.applyAll edits := by
  unfold applyAll
  rw [List.foldlM_map]
  simp only [apply_fromAbove]

/-- Merging step by step is merging once. -/
theorem applyAll_merges (hu : u.WellFormed) {merges : List Edit}
    (hmerges : ∀ e ∈ merges, e.IsMerge) :
    u.applyAll merges = .ok (merge (u :: merges.flatMap Edit.others)) := by
  induction merges using List.reverseRecOn with
  | nil => exact congrArg Except.ok (merge_singleton hu).symm
  | append_singleton r e ih =>
    have hr := ih fun e' he' => hmerges e' (List.mem_append_left _ he')
    rw [applyAll_concat hr, ← apply_fromAbove, List.flatMap_append, List.flatMap_singleton]
    cases e with
    | replace part => exact absurd (hmerges (.replace part) (by simp)) id
    | merge ts | mergeUnder ts =>
      change makeMerged ([] ++ [merge (u :: r.flatMap Edit.others)] ++ ts) = _
      rw [makeMerged_eq, merge_flatten]
      rfl

/-- Merges that bring the same records can stand for each other. -/
theorem applyAll_merges_congr (hu : u.WellFormed) {merges merges' : List Edit}
    (hmerges : ∀ e ∈ merges ++ merges', e.IsMerge)
    (hothers : ∀ r, r ∈ merges.flatMap Edit.others ↔ r ∈ merges'.flatMap Edit.others) :
    u.applyAll merges = u.applyAll merges' := by
  rw [applyAll_merges hu fun e he => hmerges e (List.mem_append_left _ he),
    applyAll_merges hu fun e he => hmerges e (List.mem_append_right _ he)]
  refine congrArg Except.ok (merge_congr_of_mem_iff fun r _ => ?_)
  rw [List.mem_cons, List.mem_cons, hothers]

/-- Merges in a row that bring the same records can stand for each other anywhere in a run. -/
theorem applyAll_rearrange (ht : t.WellFormed) {before merges merges' after : List Edit}
    (hbefore : ∀ e ∈ before, e.Valid) (hmerges : ∀ e ∈ merges ++ merges', e.IsMerge)
    (hothers : ∀ r, r ∈ merges.flatMap Edit.others ↔ r ∈ merges'.flatMap Edit.others) :
    t.applyAll (before ++ (merges ++ after)) = t.applyAll (before ++ (merges' ++ after)) := by
  obtain ⟨mid, hmid, hmidwell, -⟩ := applyAll_eq_join ht hbefore
  rw [applyAll_append, applyAll_append, hmid]
  change mid.applyAll (merges ++ after) = mid.applyAll (merges' ++ after)
  rw [applyAll_append, applyAll_append, applyAll_merges_congr hmidwell hmerges hothers]

/-- As long as a dimension is not replaced, its values stay values and do not become alternatives. -/
theorem values_stay (ht : t.WellFormed) {before after : List Edit} {mid : Targeting} {v : d.Value}
    (hedits : ∀ e ∈ before ++ after, e.Valid) (hafter : ∀ e ∈ after, e.replacement? d = none)
    (hmid : t.applyAll before = .ok mid) (hu : t.applyAll (before ++ after) = .ok u)
    (hv : v ∈ valuesOf (mid.get d)) : v ∈ valuesOf (u.get d) ∧ v ∉ alternativesOf (u.get d) := by
  have hbefore : ∀ e ∈ before, e.Valid := fun e he => hedits e (List.mem_append_left _ he)
  rw [get_eq_join_of_applyAll ht hbefore hmid, mem_valuesOf_join] at hv
  obtain ⟨x, hx, hvx⟩ := hv
  have hcounts : ∃ x ∈ t.counting d (before ++ after), v ∈ x.values :=
    ⟨x, subset_counting_append t before hafter hx, hvx⟩
  rw [get_eq_join_of_applyAll ht hedits hu, mem_valuesOf_join, mem_alternativesOf_join]
  exact ⟨hcounts, fun h => h.2 hcounts⟩

/-- What a run of edits of a well-formed record leaves. It never fails, and along each dimension
there are all values of what counts, as alternatives those that are none of these values, and nothing
exactly if there are neither. It does not matter from which side records are merged, and merges in a
row can be rearranged, grouped or repeated as long as they bring the same records. An alternative
that is forgotten because it has become a value never comes back: until the dimension is replaced,
values stay values. -/
theorem edits_settle (ht : t.WellFormed) (hedits : ∀ e ∈ edits, e.Valid) :
    ∃ u, t.applyAll edits = .ok u ∧ u.WellFormed ∧
      (∀ d, valuesOf (u.get d) = .unions ((t.counting d edits).map (·.values)) ∧
        alternativesOf (u.get d) = SortedSet.unions ((t.counting d edits).map (·.alternatives)) \
          SortedSet.unions ((t.counting d edits).map (·.values)) ∧
        (u.get d = none ↔ valuesOf (u.get d) = ∅ ∧ alternativesOf (u.get d) = ∅)) ∧
      (∀ edits', edits'.map Edit.fromAbove = edits.map Edit.fromAbove →
        t.applyAll edits' = .ok u) ∧
      (∀ before merges merges' after, edits = before ++ (merges ++ after) →
        (∀ e ∈ merges ++ merges', e.IsMerge) →
        (∀ r, r ∈ merges.flatMap Edit.others ↔ r ∈ merges'.flatMap Edit.others) →
        t.applyAll (before ++ (merges' ++ after)) = .ok u) ∧
      ∀ before after mid d, edits = before ++ after → t.applyAll before = .ok mid →
        (∀ e ∈ after, e.replacement? d = none) →
        ∀ v ∈ valuesOf (mid.get d), v ∈ valuesOf (u.get d) ∧ v ∉ alternativesOf (u.get d) := by
  obtain ⟨u, hu, hwell, hget⟩ := applyAll_eq_join ht hedits
  refine ⟨u, hu, hwell, fun d => ?_, ?_, ?_, ?_⟩
  · rw [hget]
    exact ⟨valuesOf_join _, alternativesOf_join _, join_eq_none_iff⟩
  · intro edits' hsides
    rw [← applyAll_map_fromAbove, hsides, applyAll_map_fromAbove, hu]
  · intro before merges merges' after hsplit hmerges hothers
    have hbefore : ∀ e ∈ before, e.Valid := fun e he => hedits e (by simp [hsplit, he])
    rw [← applyAll_rearrange ht hbefore hmerges hothers, ← hsplit, hu]
  · intro before after mid d hsplit hmid hafter v hv
    subst hsplit
    exact values_stay ht hedits hafter hmid hu hv

/-! ## A run to look at -/

/-- A record whose only alternative becomes a value in the run. -/
def settledStart : Targeting := { abi := some ⟨.single .x86, .single .mips⟩ }

/-- A record for another architecture. -/
def settledOther : Targeting := { abi := some ⟨.single .mips, .ofList [.x86, .mips64]⟩ }

/-- A record that only says which levels others are for. -/
def settledLevels : Targeting := { sdkVersion := some ⟨∅, .single ⟨30⟩⟩ }

/-- Levels are set, merged, cleared and merged again, and architectures only merged. -/
def settledEdits (third : Edit) : List Edit :=
  [.merge [settledOther], .replace ⟨.sdkVersion, ⟨.single ⟨21⟩, .single ⟨30⟩⟩⟩, third,
    .replace ⟨.sdkVersion, ⟨∅, ∅⟩⟩, .merge [settledLevels]]

/-- The alternatives `mips` and `x86` are forgotten, and the cleared levels leave nothing but what was
merged after them. -/
theorem edits_settle_cleared :
    settledStart.WellFormed ∧
      (∀ e ∈ settledEdits (.mergeUnder [settledStart, settledLevels]), e.Valid) ∧
      settledStart.counting .sdkVersion
          (settledEdits (.mergeUnder [settledStart, settledLevels])) =
        [⟨∅, ∅⟩, ⟨∅, .single ⟨30⟩⟩] ∧
      ∃ u, u = { settledLevels with abi := some ⟨.ofList [.mips, .x86], .single .mips64⟩ } ∧
        settledStart.applyAll (settledEdits (.mergeUnder [settledStart, settledLevels])) = .ok u ∧
        settledStart.applyAll (settledEdits (.merge [settledLevels, settledStart])) = .ok u := by
  have ht : settledStart.WellFormed := by decide
  have hedits : ∀ e ∈ settledEdits (.mergeUnder [settledStart, settledLevels]), e.Valid := by decide
  obtain ⟨u, hu, -, -, -, hblock, -⟩ := edits_settle ht hedits
  refine ⟨ht, hedits, rfl, u, Except.ok.inj (hu.symm.trans rfl), hu, ?_⟩
  refine hblock [_, _] [.mergeUnder [settledStart, settledLevels]]
    [.merge [settledLevels, settledStart]] [_, _] rfl ?_ ?_
  · intro e he
    rcases List.mem_cons.1 he with rfl | he
    · trivial
    · rw [List.mem_singleton.1 he]
      trivial
  · intro r
    simp [Edit.others, or_comm]

end Targeting

end DeviceSplit
