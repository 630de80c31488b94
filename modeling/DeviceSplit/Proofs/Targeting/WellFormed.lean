import DeviceSplit.Proofs.AbiSplit.Refusals
import DeviceSplit.Proofs.ReadBack.Targeting
import DeviceSplit.Proofs.Targeting.Merge
import DeviceSplit.Proofs.Targeting.Variants

set_option autoImplicit false

/-! # Records stay well formed

A record that is read from plain data is well formed, and says what the data list: in which order and
how often is forgotten, and so is the difference between a dimension that is null, one that is not
there and one that lists nothing (`mem_sides_iff_lists`). The operations on records keep them well
formed, also those that put targetings into records without a check. So two records are equal whenever
they have the same members along each dimension, no matter how they were made. The main statement is
`records_closed`. -/

namespace DeviceSplit

/-! ## What data list -/

/-- What a record has in a field; other data have no fields. -/
def Data.field? (name : String) : Data → Option Data
  | .record fields => fields.lookup name
  | _ => none

/-- Data list a value for one side of a dimension: in the field of the dimension there is a record, in
which the field of the side has the value among its items. -/
def Data.Lists (data : Data) (d : Dimension) (side : String) (v : d.Value) : Prop :=
  ∃ part items, data.field? d.fieldName = some part ∧ part.field? side = some (.list items) ∧
    ∃ x ∈ items, read x = Checked.ok v

/-- Items are read one for one, so the values are those that some item stands for. -/
theorem mem_of_readItems {α : Type} {read : Data → Checked α} {items : List Data} {l : List α}
    {a : α} (h : readItems read 0 items = .ok l) : a ∈ l ↔ ∃ x ∈ items, read x = .ok a :=
  mem_iff_of_forall₂ (fun _ _ _ ha hb => Checked.ok.inj (ha.symm.trans hb)) (readItems_eq_ok_iff.1 h)

theorem mem_of_readSet {α : Type} [Ranked α] {read : Data → Checked α} {fields : Fields}
    {name : String} {s : SortedSet α} {a : α}
    (h : fields.withDefault name ∅ (readSet read) = .ok s) :
    a ∈ s ↔ ∃ items, fields.lookup name = some (.list items) ∧ ∃ x ∈ items, read x = .ok a := by
  rw [Fields.withDefault] at h
  cases hname : fields.lookup name with
  | none =>
    rw [hname] at h
    obtain rfl := Checked.ok.inj h
    simp
  | some set =>
    rw [hname, Checked.below_eq_ok] at h
    cases set with
    | list items =>
      obtain ⟨l, hl, rfl⟩ := Checked.map_eq_ok.1 h
      rw [SortedSet.mem_ofList, mem_of_readItems hl]
      simp
    | _ => exact absurd h (Checked.reject_ne_ok _ _)

namespace Targeting

open DimensionTargeting

variable {d : Dimension} {v : d.Value} {data : Data} {t u : Targeting} {ts : List Targeting}

/-- Both sides of a targeting are read from fields of their own. -/
theorem sides_of_read {fields : Fields} {x : DimensionTargeting d}
    (h : read (.record fields) = Checked.ok x) :
    fields.withDefault "value" ∅ (readSet read) = .ok x.values ∧
      fields.withDefault "alternatives" ∅ (readSet read) = .ok x.alternatives := by
  obtain ⟨sets, hsets, hx⟩ := Checked.andThen_eq_ok.1 h
  obtain ⟨_, others, hmap, hothers, rfl⟩ := Checked.seq_eq_ok.1 hsets
  obtain ⟨values, hvalues, rfl⟩ := Checked.map_eq_ok.1 hmap
  obtain ⟨rfl, -⟩ := check_eq_ok_iff.1 hx
  exact ⟨hvalues, hothers⟩

/-- A side of a dimension that may be null or absent has the values that are listed for it. -/
theorem exists_mem_side_iff {fields : Fields} {o : Option (DimensionTargeting d)} {side : String}
    {members : DimensionTargeting d → SortedSet d.Value}
    (hside : ∀ (inner : Fields) (x : DimensionTargeting d), read (.record inner) = Checked.ok x →
      inner.withDefault side ∅ (readSet read) = .ok (members x))
    (h : fields.optional d.fieldName read = .ok o) :
    (∃ x ∈ o.toList, v ∈ members x) ↔ (Data.record fields).Lists d side v := by
  rw [Data.Lists, Data.field?]
  rw [Fields.optional, Fields.withDefault] at h
  cases hpart : fields.lookup d.fieldName with
  | none =>
    rw [hpart] at h
    obtain rfl := Checked.ok.inj h
    simp
  | some part =>
    rw [hpart, Checked.below_eq_ok] at h
    cases part with
    | null =>
      obtain rfl := Checked.ok.inj h
      simp [Data.field?]
    | record inner =>
      obtain ⟨x, hx, rfl⟩ := Checked.map_eq_ok.1 h
      simp only [Option.toList_some, List.mem_singleton, exists_eq_left,
        mem_of_readSet (hside inner x hx)]
      constructor
      · rintro ⟨items, hitems⟩
        exact ⟨_, items, rfl, hitems⟩
      · rintro ⟨_, items, hinner, hitems⟩
        obtain rfl := Option.some.inj hinner
        exact ⟨items, hitems⟩
    | _ =>
      obtain ⟨x, hx, -⟩ := Checked.map_eq_ok.1 h
      exact absurd hx (Checked.reject_ne_ok _ _)

/-- Dropping a targeting that says nothing does not change what a dimension says. -/
theorem sides_bind_nonDefault (o : Option (DimensionTargeting d)) :
    valuesOf (o.bind nonDefault) = valuesOf o ∧
      alternativesOf (o.bind nonDefault) = alternativesOf o := by
  cases o with
  | none => exact ⟨rfl, rfl⟩
  | some x => exact ⟨valuesOf_nonDefault x, alternativesOf_nonDefault x⟩

/-- A record that is read has the members that the data list. -/
theorem mem_sides_iff_lists (h : read data = Checked.ok t) (d : Dimension) (v : d.Value) :
    (v ∈ valuesOf (t.get d) ↔ data.Lists d "value" v) ∧
      (v ∈ alternativesOf (t.get d) ↔ data.Lists d "alternatives" v) := by
  cases data with
  | record fields =>
    obtain ⟨o, ho, hget⟩ := Checked.map_eq_ok.1 ((read_record_eq_ok_iff fields t).1 h d)
    obtain ⟨hvalues, halternatives⟩ := sides_bind_nonDefault o
    rw [← hget, hvalues, halternatives, mem_valuesOf, mem_alternativesOf]
    exact ⟨exists_mem_side_iff (fun _ _ hx => (sides_of_read hx).1) ho,
      exists_mem_side_iff (fun _ _ hx => (sides_of_read hx).2) ho⟩
  | _ => exact nomatch h

/-! ## Operations -/

theorem WellFormed.ofParts {parts : List Part} (h : ∀ p ∈ parts, p.2.Disjoint ∧ p.2.Admissible) :
    (ofParts parts).WellFormed := by
  have hstep (start : Targeting) (hstart : start.WellFormed) :
      (parts.foldl (fun t p => t.withDimension p.2) start).WellFormed := by
    induction parts generalizing start with
    | nil => exact hstart
    | cons p r ih =>
      obtain ⟨hdisjoint, hadmissible⟩ := h p List.mem_cons_self
      exact ih (fun q hq => h q (List.mem_cons_of_mem p hq)) _
        (hstart.withDimension hdisjoint hadmissible)
  exact hstep {} wellFormed_default

theorem admissible_of_mem_valuesAlong (hts : ∀ t ∈ ts, t.WellFormed)
    (hv : v ∈ valuesAlong d ts) : d.Admissible v := by
  obtain ⟨t, ht, hvt⟩ := mem_valuesAlong.1 hv
  obtain ⟨x, hx, hvx⟩ := mem_valuesOf.1 hvt
  exact (hts t ht d x (Option.mem_toList.1 hx)).2.2.1 v hvx

theorem WellFormed.of_mem_variants (hts : ∀ t ∈ ts, t.WellFormed) {r : Targeting}
    (hr : r ∈ variants d ts) : r.WellFormed := by
  obtain ⟨v, hv, rfl⟩ := mem_variants.1 hr
  refine wellFormed_default.withDimension (disjoint_favouring _ _) ⟨?_, ?_⟩
  · intro w hw
    obtain rfl := SortedSet.mem_single.1 hw
    exact admissible_of_mem_valuesAlong hts hv
  · intro w hw
    exact admissible_of_mem_valuesAlong hts (SortedSet.mem_diff.1 hw).1

/-! ## Equality -/

/-- Well-formed records are equal exactly if they have the same members along each dimension. -/
theorem WellFormed.eq_iff (ht : t.WellFormed) (hu : u.WellFormed) :
    t = u ↔ ∀ d, ∀ v, (v ∈ valuesOf (t.get d) ↔ v ∈ valuesOf (u.get d)) ∧
      (v ∈ alternativesOf (t.get d) ↔ v ∈ alternativesOf (u.get d)) := by
  constructor
  · rintro rfl d v
    exact ⟨Iff.rfl, Iff.rfl⟩
  · intro h
    exact ext_of_wellFormed ht hu (fun d => SortedSet.ext fun v => (h d v).1)
      fun d => SortedSet.ext fun v => (h d v).2

/-- Records that are read are well formed, and so are those that are made of well-formed ones: by
replacing a dimension, from single targetings, by merging, as variants, or as the targetings of the
splits of a module. Well-formed records are equal exactly if they have the same values and the same
alternatives along each dimension, and so records that are read are equal exactly if the data list the
same members, in any order, any number of times, and with or without dimensions that list none. -/
theorem records_closed :
    (∀ data, ∀ t : Targeting, read data = Checked.ok t → t.WellFormed) ∧
    (∀ t : Targeting, t.WellFormed → ∀ d, ∀ x : DimensionTargeting d, x.Disjoint → x.Admissible →
      (t.withDimension x).WellFormed) ∧
    (∀ parts : List Part, (∀ p ∈ parts, p.2.Disjoint ∧ p.2.Admissible) →
      (ofParts parts).WellFormed) ∧
    (∀ ts : List Targeting, (∀ t ∈ ts, t.WellFormed) →
      (∃ merged, makeMerged ts = .ok merged ∧ merged.WellFormed) ∧
      ∀ d, ∃ records, makeVariants d ts = .ok records ∧ ∀ r ∈ records, r.WellFormed) ∧
    (∀ m : ModuleSplit, m.Valid → ∀ policy splits, (m.splitByAbi policy).outcome = .ok splits →
      ∀ s ∈ splits, s.apkTargeting.WellFormed) ∧
    (∀ t u : Targeting, t.WellFormed → u.WellFormed →
      (t = u ↔ ∀ d, ∀ v, (v ∈ valuesOf (t.get d) ↔ v ∈ valuesOf (u.get d)) ∧
        (v ∈ alternativesOf (t.get d) ↔ v ∈ alternativesOf (u.get d)))) ∧
    ∀ data data', ∀ t u : Targeting, read data = Checked.ok t → read data' = Checked.ok u →
      (t = u ↔ ∀ d, ∀ v, (data.Lists d "value" v ↔ data'.Lists d "value" v) ∧
        (data.Lists d "alternatives" v ↔ data'.Lists d "alternatives" v)) := by
  refine ⟨fun _ _ => readsBack.sound_of_read, fun t ht d x => ht.withDimension,
    fun _ => WellFormed.ofParts, fun ts hts => ⟨⟨_, makeMerged_eq ts, .merge hts⟩, fun d =>
      ⟨_, makeVariants_eq d ts, fun r hr => .of_mem_variants hts hr⟩⟩, ?_,
    fun t u => WellFormed.eq_iff, ?_⟩
  · intro m hm policy splits hs s hsplit
    exact (hm.of_mem_splits hs hsplit).targeting
  · intro data data' t u ht hu
    rw [WellFormed.eq_iff (readsBack.sound_of_read ht) (readsBack.sound_of_read hu)]
    refine forall_congr' fun d => forall_congr' fun v => ?_
    rw [(mem_sides_iff_lists ht d v).1, (mem_sides_iff_lists ht d v).2,
      (mem_sides_iff_lists hu d v).1, (mem_sides_iff_lists hu d v).2]

/-- Two ways to ask for the same devices: with architectures that are repeated, in another order, and
with dimensions that are null or list nothing. Replacing a dimension by nothing unsets it. -/
theorem records_closed_respelled :
    let abis : List Data := [write Abi.x86, write Abi.mips]
    let data : Data := .record
      [("abi_targeting", .record [("value", .list (abis ++ abis))]), ("language_targeting", .null)]
    let data' : Data := .record
      [("sdk_version_targeting", .record [("value", .list [])]),
        ("abi_targeting", .record [("alternatives", .list []), ("value", .list abis.reverse)])]
    let t : Targeting := { abi := some ⟨.ofList [.mips, .x86], ∅⟩ }
    read data = Checked.ok t ∧ read data' = Checked.ok t ∧ t.WellFormed ∧
      (∀ v : Abi, data.Lists .abi "value" v ↔ data'.Lists .abi "value" v) ∧
      (t.withDimension (⟨∅, ∅⟩ : DimensionTargeting .abi)).WellFormed ∧
      t.withDimension (⟨∅, ∅⟩ : DimensionTargeting .abi) = {} ∧
      ∃ merged, makeMerged [t, t] = .ok merged ∧ merged.WellFormed := by
  intro abis data data' t
  have hread : read data = Checked.ok t := by rfl
  have hread' : read data' = Checked.ok t := by rfl
  obtain ⟨hsound, hwith, -, hmade, -, -, hlists⟩ := records_closed
  have ht : t.WellFormed := hsound data t hread
  have hunset := hwith t ht .abi ⟨∅, ∅⟩ (by decide) (by decide)
  obtain ⟨hmerged, -⟩ := hmade [t, t] (by simp [ht])
  exact ⟨hread, hread', ht, fun v => ((hlists data data' t t hread hread').1 rfl .abi v).1, hunset,
    rfl, hmerged⟩

end Targeting

end DeviceSplit
