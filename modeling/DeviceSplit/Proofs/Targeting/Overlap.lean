import Mathlib.Data.List.Nodup
import Mathlib.Data.List.Perm.Basic
import Mathlib.Data.Option.Basic
import DeviceSplit.Proofs.ReadBack.Device
import DeviceSplit.Proofs.Shown
import DeviceSplit.Proofs.SortedSet

set_option autoImplicit false

/-! # Values that are alternatives as well

A targeting of one dimension is refused exactly if a value is listed among the alternatives too, and
members are compared after they have been read, so another spelling, another order or a repetition
makes no difference (`read_record_eq_check`). The refusal names each common member once, by its text,
and the texts ascend strictly: a set has no member twice, and different members have different texts
(`Dimension.text_inj`). If one of them has a number with too many digits, the refusal says so instead
(`overlapTexts_eq_none_iff`). The main statement is `overlap_refused`. -/

namespace DeviceSplit

/-- In a field there is a list whose items are read as the members of `l`, one for one. -/
def Fields.Members {α : Type} [PlainForm α] (fields : Fields) (name : String) (l : List α) : Prop :=
  ∃ items, fields.lookup name = some (.list items) ∧
    List.Forall₂ (fun a x => read x = Checked.ok a) l items

theorem Fields.Members.withDefault {α : Type} [PlainForm α] [Ranked α] {fields : Fields}
    {name : String} {l : List α} (h : fields.Members name l) (default : SortedSet α) :
    fields.withDefault name default (readSet read) = .ok (.ofList l) := by
  obtain ⟨items, hname, hitems⟩ := h
  rw [Fields.withDefault, hname, Checked.below_eq_ok, readSet, readItems_eq_ok_iff.2 hitems,
    Checked.map_ok]

/-- Values are read from their plain forms. -/
theorem Dimension.forall₂_read_map_write {d : Dimension} {l : List d.Value}
    (hl : ∀ v ∈ l, d.Admissible v) :
    List.Forall₂ (fun v x => read x = Checked.ok v) l (l.map write) := by
  rw [List.forall₂_map_right_iff, List.forall₂_same]
  exact fun v hv => d.readsBack.read_of_written (hl v hv) (written_write v)

namespace DimensionTargeting

variable {d : Dimension}

/-! ## The texts of common members -/

theorem mem_overlap {t : DimensionTargeting d} {v : d.Value} :
    v ∈ t.overlap ↔ v ∈ t.values ∧ v ∈ t.alternatives :=
  SortedSet.mem_inter

/-- The texts of common members are missing if one of them has too long a number. -/
theorem overlapTexts_eq_none_iff {t : DimensionTargeting d} : t.overlapTexts = none ↔
    ∃ v ∈ t.overlap, ∃ n ∈ d.numbers v, Text.digitLimit < (toString n).length := by
  rw [overlapTexts, Option.map_eq_none_iff, mapM_eq_none_iff]
  simp only [d.text_eq_none_iff, SortedSet.mem_def]

theorem overlapTexts_perm {t : DimensionTargeting d} {texts : List String}
    (h : t.overlapTexts = some texts) :
    (texts.map some).Perm (t.overlap.toList.map Shown.text) := by
  obtain ⟨shown, hshown, rfl⟩ := Option.map_eq_some_iff.1 h
  rw [mapM_eq_some_iff.1 hshown]
  exact (List.mergeSort_perm shown _).map some

/-- Sorting puts the texts into ascending order, and no text occurs twice. -/
theorem pairwise_overlapTexts {t : DimensionTargeting d} {texts : List String}
    (h : t.overlapTexts = some texts) : texts.Pairwise (· < ·) := by
  have hperm := overlapTexts_perm h
  have hsorted : texts.Pairwise (· ≤ ·) := by
    obtain ⟨shown, -, rfl⟩ := Option.map_eq_some_iff.1 h
    refine (List.pairwise_mergeSort ?_ ?_ _).imp of_decide_eq_true
    · intro a b c hab hbc
      exact decide_eq_true (String.le_trans (of_decide_eq_true hab) (of_decide_eq_true hbc))
    · intro a b
      simpa using String.le_total a b
  have hnodup : texts.Nodup := by
    refine List.Nodup.of_map some (hperm.nodup_iff.2 ?_)
    refine List.Nodup.map_on (fun v hv w _ hvw => ?_) t.overlap.nodup
    obtain ⟨s, -, hs⟩ := List.mem_map.1 (hperm.mem_iff.2 (List.mem_map_of_mem hv))
    exact d.text_inj hs.symm (hvw.symm.trans hs.symm)
  exact hsorted.imp₂ (fun a b hle hne => lt_of_le_of_ne hle hne) hnodup

theorem check_of_not_disjoint {values alternatives : SortedSet d.Value}
    (h : ¬(DimensionTargeting.mk values alternatives).Disjoint) :
    check values alternatives =
      .reject (.broken (DimensionTargeting.mk values alternatives).overlapRule) := by
  rw [check, if_neg]
  exact mt disjoint_iff_overlap.2 h

/-! ## Reading lists of members -/

variable {fields : Fields} {values alternatives : List d.Value}

theorem read_record_eq_check (hvalues : fields.Members "value" values)
    (halternatives : fields.Members "alternatives" alternatives) :
    read (.record fields) = check (d := d) (.ofList values) (.ofList alternatives) := by
  change Checked.andThen (Prod.mk <$> fields.withDefault "value" ∅ (readSet read) <*>
    fields.withDefault "alternatives" ∅ (readSet read)) (fun sets => check sets.1 sets.2) = _
  rw [hvalues.withDefault, halternatives.withDefault]
  rfl

theorem disjoint_ofList_iff :
    (DimensionTargeting.mk (d := d) (.ofList values) (.ofList alternatives)).Disjoint ↔
      ∀ v ∈ values, v ∉ alternatives := by
  simp only [Disjoint, SortedSet.mem_ofList]

theorem exists_read_iff (hvalues : fields.Members "value" values)
    (halternatives : fields.Members "alternatives" alternatives) :
    (∃ t : DimensionTargeting d, read (.record fields) = Checked.ok t) ↔
      ∀ v ∈ values, v ∉ alternatives := by
  rw [read_record_eq_check hvalues halternatives, ← disjoint_ofList_iff]
  simp only [check_eq_ok_iff, exists_eq_left]

/-- A list of values and a list of alternatives, whose items can be read one by one, make a targeting
exactly if no value is an alternative. It then holds the members of the lists. Otherwise the only
fault is that of the targeting as a whole. Its message has the text of each common member once, as a
literal and in the ascending order of the texts, unless a common member has a number with more digits
than are written: the message then says just that. In which order and how often the lists have their
members makes no difference. -/
theorem overlap_refused (hvalues : fields.Members "value" values)
    (halternatives : fields.Members "alternatives" alternatives) :
    ((∃ t : DimensionTargeting d, read (.record fields) = Checked.ok t) ↔
      ¬∃ v ∈ values, v ∈ alternatives) ∧
    (∀ t : DimensionTargeting d, read (.record fields) = Checked.ok t →
      (∀ v, v ∈ t.values ↔ v ∈ values) ∧ ∀ v, v ∈ t.alternatives ↔ v ∈ alternatives) ∧
    ((∃ v ∈ values, v ∈ alternatives) → ∃ common : List d.Value,
      common.Nodup ∧ (∀ v, v ∈ common ↔ v ∈ values ∧ v ∈ alternatives) ∧
      ((¬∃ v ∈ common, ∃ n ∈ d.numbers v, Text.digitLimit < (toString n).length) →
        ∃ texts : List String, (texts.map some).Perm (common.map Shown.text) ∧
          texts.Pairwise (· < ·) ∧ read (.record fields) =
            (.faulty [⟨[], .broken (.overlap texts)⟩] : Checked (DimensionTargeting d)) ∧
          (Rule.overlap texts).message = "values " ++ Literal.list (texts.map Text.quote) ++
            " are also listed as alternatives") ∧
      ((∃ v ∈ common, ∃ n ∈ d.numbers v, Text.digitLimit < (toString n).length) →
        read (.record fields) =
          (.faulty [⟨[], .broken .tooLongToShow⟩] : Checked (DimensionTargeting d)) ∧
        Rule.tooLongToShow.message = "Exceeds the limit (4300 digits) for integer string " ++
          "conversion; use sys.set_int_max_str_digits() to increase the limit")) ∧
    ∀ (fields' : Fields) (values' alternatives' : List d.Value),
      fields'.Members "value" values' → fields'.Members "alternatives" alternatives' →
      (∀ v, v ∈ values' ↔ v ∈ values) → (∀ v, v ∈ alternatives' ↔ v ∈ alternatives) →
      read (.record fields') = (read (.record fields) : Checked (DimensionTargeting d)) := by
  have hread := read_record_eq_check hvalues halternatives
  refine ⟨?_, ?_, ?_, ?_⟩
  · rw [exists_read_iff hvalues halternatives]
    simp
  · intro t ht
    rw [hread] at ht
    obtain ⟨rfl, -⟩ := check_eq_ok_iff.1 ht
    exact ⟨fun _ => SortedSet.mem_ofList, fun _ => SortedSet.mem_ofList⟩
  · rintro ⟨v, hv, hmem⟩
    let t : DimensionTargeting d := ⟨.ofList values, .ofList alternatives⟩
    have ht : ¬t.Disjoint := fun h => disjoint_ofList_iff.1 h v hv hmem
    have hcommon (v : d.Value) : v ∈ t.overlap ↔ v ∈ values ∧ v ∈ alternatives := by
      rw [mem_overlap, SortedSet.mem_ofList, SortedSet.mem_ofList]
    have hrefused := hread.trans (check_of_not_disjoint ht)
    refine ⟨t.overlap.toList, t.overlap.nodup, hcommon, fun hshort => ?_, fun hlong => ?_⟩
    · obtain ⟨texts, htexts⟩ := Option.ne_none_iff_exists'.1 (mt overlapTexts_eq_none_iff.1 hshort)
      have hrule : t.overlapRule = .overlap texts := by rw [overlapRule, htexts]
      exact ⟨texts, overlapTexts_perm htexts, pairwise_overlapTexts htexts, hrule ▸ hrefused, rfl⟩
    · have hrule : t.overlapRule = .tooLongToShow := by
        rw [overlapRule, overlapTexts_eq_none_iff.2 hlong]
      exact ⟨hrule ▸ hrefused, by decide⟩
  · intro fields' values' alternatives' hvalues' halternatives' hv ha
    have hsets : SortedSet.ofList values' = SortedSet.ofList values ∧
        SortedSet.ofList alternatives' = SortedSet.ofList alternatives :=
      ⟨SortedSet.ext (by simpa using hv), SortedSet.ext (by simpa using ha)⟩
    rw [hread, read_record_eq_check hvalues' halternatives', hsets.1, hsets.2]

/-- Two levels are listed on both sides, one of them as a number, as text and as a floating-point
number. Their texts are in the order of texts, not of numbers. -/
theorem overlap_refused_respelled :
    let level (n : Data) : Data := .record [("min", n)]
    let twentyOne : Data := .floating (.finite false ⟨21 * Nat.pow 2 48, -48⟩)
    let values := [level (.int 21), level (.text "21"), level (.int 7), level (.int 100)]
    let others := [level twentyOne, level (.int 100)]
    let fields : Fields := [("value", .list values), ("alternatives", .list others)]
    let rearranged : Fields :=
      [("alternatives", .list (others ++ others)), ("value", .list values.reverse)]
    let disjoint : Fields := [("value", .list values), ("alternatives", .list [level (.int 30)])]
    (¬∃ t : DimensionTargeting .sdkVersion, read (.record fields) = Checked.ok t) ∧
    read (.record fields) = (.faulty [⟨[], .broken (.overlap ["min=100", "min=21"])⟩] :
      Checked (DimensionTargeting .sdkVersion)) ∧
    read (.record rearranged) =
      (read (.record fields) : Checked (DimensionTargeting .sdkVersion)) ∧
    ∃ t : DimensionTargeting .sdkVersion, read (.record disjoint) = Checked.ok t ∧
      (∀ v, v ∈ t.values ↔ v ∈ [⟨21⟩, ⟨21⟩, ⟨7⟩, ⟨100⟩]) ∧ ∀ v, v ∈ t.alternatives ↔ v ∈ [⟨30⟩] := by
  intro level twentyOne values others fields rearranged disjoint
  let vs : List SdkVersion := [⟨21⟩, ⟨21⟩, ⟨7⟩, ⟨100⟩]
  let os : List SdkVersion := [⟨21⟩, ⟨100⟩]
  have hread : List.Forall₂ (fun v x => read x = Checked.ok v) vs values :=
    .cons rfl (.cons rfl (.cons rfl (.cons rfl .nil)))
  have hvalues : fields.Members "value" vs := ⟨values, rfl, hread⟩
  have hreadOthers : List.Forall₂ (fun v x => read x = Checked.ok v) os others :=
    .cons rfl (.cons rfl .nil)
  have hothers : fields.Members "alternatives" os := ⟨others, rfl, hreadOthers⟩
  have hvalues' : rearranged.Members "value" vs.reverse :=
    ⟨values.reverse, rfl, List.rel_reverse hread⟩
  have hothers' : rearranged.Members "alternatives" (os ++ os) :=
    ⟨others ++ others, rfl, List.rel_append hreadOthers hreadOthers⟩
  have hvalues'' : disjoint.Members "value" vs := ⟨values, rfl, hread⟩
  have hothers'' : disjoint.Members "alternatives" ([⟨30⟩] : List SdkVersion) :=
    ⟨[level (.int 30)], rfl, .cons rfl .nil⟩
  obtain ⟨hok, -, hfaulty, hsame⟩ := overlap_refused (d := .sdkVersion) hvalues hothers
  obtain ⟨hmade, hmembers, -⟩ := overlap_refused (d := .sdkVersion) hvalues'' hothers''
  have hcommon : ∃ v ∈ vs, v ∈ os := ⟨⟨21⟩, by decide⟩
  obtain ⟨common, hnodup, hmem, hshort, -⟩ := hfaulty hcommon
  have hperm : common.Perm os.reverse := by
    refine (List.perm_ext_iff_of_nodup hnodup (by decide)).2 fun v => ?_
    rw [hmem, List.mem_reverse]
    exact and_iff_right_of_imp fun hv => (by decide : ∀ v ∈ os, v ∈ vs) v hv
  obtain ⟨texts, htexts, hascending, hrefused, -⟩ := hshort <| by
    simp only [hperm.mem_iff]
    decide
  have hshown : texts.Perm ["min=100", "min=21"] :=
    (List.map_perm_map_iff (Option.some_injective _)).1 (htexts.trans (hperm.map _))
  have hsorted : texts = ["min=100", "min=21"] :=
    hshown.eq_of_pairwise (fun _ _ _ _ hab hba => absurd hba (lt_asymm hab)) hascending (by decide)
  obtain ⟨t, ht⟩ := hmade.2 (by decide)
  exact ⟨fun h => hok.1 h hcommon, hsorted ▸ hrefused,
    hsame rearranged _ _ hvalues' hothers' (by simp) (by simp), t, ht, hmembers t ht⟩

/-- One value on both sides is named by its text, if it has one. -/
theorem read_both_eq {v : d.Value} (hv : d.Admissible v) :
    read (.record [("value", .list [write v]), ("alternatives", .list [write v])]) =
      (.faulty [⟨[], .broken ((Shown.text v).elim .tooLongToShow fun s => .overlap [s])⟩] :
        Checked (DimensionTargeting d)) := by
  let t : DimensionTargeting d := ⟨.ofList [v], .ofList [v]⟩
  have hread := Dimension.forall₂_read_map_write (l := [v]) (by simpa using hv)
  have ht : ¬t.Disjoint := by simp [t, disjoint_ofList_iff]
  have hsingle : t.overlap = .single v := SortedSet.ext fun w => by simp [t, mem_overlap]
  have hoverlap : t.overlap.toList = [v] := congrArg SortedSet.toList hsingle
  have hrule : t.overlapRule = (Shown.text v).elim .tooLongToShow fun s => .overlap [s] := by
    rw [overlapRule, overlapTexts, hoverlap]
    cases h : Shown.text v <;> simp [h]
  rw [read_record_eq_check ⟨_, rfl, hread⟩ ⟨_, rfl, hread⟩, check_of_not_disjoint ht, hrule]
  rfl

/-- A level with more digits than are written has no text, and when it is listed on both sides, the
message does not name it. A language with a line break is named, but by its literal: its text is not
in the message. -/
theorem overlap_not_listed :
    let level : SdkVersion := ⟨Nat.pow 10 Text.digitLimit⟩
    let levels : Fields := [("value", .list [write level]), ("alternatives", .list [write level])]
    let language : Dimension.Value .language := "a\nb"
    let languages : Fields :=
      [("value", .list [write language]), ("alternatives", .list [write language])]
    levels.Members "value" [level] ∧ levels.Members "alternatives" [level] ∧
    (∃ rule, read (.record levels) =
        (.faulty [⟨[], .broken rule⟩] : Checked (DimensionTargeting .sdkVersion)) ∧
      ¬"min=".toList <:+: rule.message.toList) ∧
    languages.Members "value" [language] ∧ languages.Members "alternatives" [language] ∧
    ∃ rule, read (.record languages) =
        (.faulty [⟨[], .broken rule⟩] : Checked (DimensionTargeting .language)) ∧
      ¬"a\nb".toList <:+: rule.message.toList := by
  have hdigits : Text.digitLimit < (toString (Nat.pow 10 Text.digitLimit)).length :=
    Text.length_toString_pow (by decide)
  -- Nothing but the number of its digits counts.
  generalize Nat.pow 10 Text.digitLimit = n at hdigits ⊢
  intro level levels language languages
  have hlevel : Dimension.Admissible .sdkVersion level := by
    refine Nat.pos_of_ne_zero fun h => ?_
    rw [show n = 0 from h] at hdigits
    exact absurd hdigits (by decide)
  have hnone : Shown.text level = none :=
    (Dimension.text_eq_none_iff .sdkVersion).2 ⟨n, List.mem_singleton_self n, hdigits⟩
  have hread := Dimension.forall₂_read_map_write (d := .sdkVersion) (l := [level])
    (by simpa using hlevel)
  refine ⟨⟨_, rfl, hread⟩, ⟨_, rfl, hread⟩, ⟨.tooLongToShow, ?_, ?_⟩, ⟨_, rfl, .cons rfl .nil⟩,
    ⟨_, rfl, .cons rfl .nil⟩, .overlap ["a\nb"], read_both_eq (d := .language) trivial, ?_⟩
  · rw [read_both_eq (d := .sdkVersion) hlevel, hnone]
    rfl
  · exact fun h => absurd (h.subset (by decide : '=' ∈ "min=".toList)) (by decide +kernel)
  · have hmessage : (Rule.overlap ["a\nb"]).message =
        "values ['a\\nb'] are also listed as alternatives" := by decide
    rw [hmessage]
    exact fun h => absurd (h.subset (by decide : '\n' ∈ "a\nb".toList)) (by decide)

-- A text that holds a quote is put in the other quotes.
example : (Rule.overlap ["de", "l'it"]).message =
    "values ['de', \"l'it\"] are also listed as alternatives" := by decide

end DimensionTargeting

end DeviceSplit
