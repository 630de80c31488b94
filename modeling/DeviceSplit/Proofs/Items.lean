import Mathlib.Data.List.Forall2
import DeviceSplit.Factory
import DeviceSplit.Proofs.ReadBack.Schema
import DeviceSplit.Proofs.Targeting.Overlap

set_option autoImplicit false

/-! # Loose items stand for values

A targeting that a factory makes of loose items is the one that is read from a record with the values
that the items stand for. The items are converted one after another, so the first one that stands for
no value decides the refusal (`mapM_eq_error`), and nothing is compared before all of them are
converted. After that only the sets of values count: it makes no difference in which order, how often
and in which form values are given (`Item.Rearranged`). The main statement is
`items_stand_for_values`. -/

namespace DeviceSplit

/-! ## One conversion after another -/

section Conversions

variable {ε α β : Type} {f : α → Except ε β} {l : List α}

theorem mapM_eq_ok {bs : List β} (h : List.Forall₂ (fun b a => f a = .ok b) bs l) :
    l.mapM f = .ok bs := by
  induction h with
  | nil => rfl
  | cons hb _ ih =>
    rw [List.mapM_cons, hb]
    change List.mapM f _ >>= _ = _
    rw [ih]
    rfl

/-- The first item that cannot be converted decides. -/
theorem mapM_eq_error {before : List α} {a : α} {e : ε} (after : List α)
    (hbefore : ∀ b ∈ before, ∃ v, f b = .ok v) (ha : f a = .error e) :
    (before ++ a :: after).mapM f = .error e := by
  induction before with
  | nil =>
    rw [List.nil_append, List.mapM_cons, ha]
    rfl
  | cons b r ih =>
    obtain ⟨v, hv⟩ := hbefore b List.mem_cons_self
    rw [List.cons_append, List.mapM_cons, hv]
    change List.mapM f _ >>= _ = _
    rw [ih fun c hc => hbefore c (List.mem_cons_of_mem b hc)]
    rfl

theorem exists_forall₂_iff :
    (∃ bs, List.Forall₂ (fun b a => f a = .ok b) bs l) ↔ ∀ a ∈ l, ∃ b, f a = .ok b := by
  constructor
  · rintro ⟨bs, hbs⟩
    have hboth : List.Forall₂ (fun a b => (∃ b, f a = .ok b) ∧ f a = .ok b) l bs :=
      hbs.flip.imp fun a b hab => ⟨⟨b, hab⟩, hab⟩
    exact ((List.forall₂_and_left _ _).1 hboth).1
  · intro h
    induction l with
    | nil => exact ⟨[], .nil⟩
    | cons a r ih =>
      obtain ⟨b, hb⟩ := h a List.mem_cons_self
      obtain ⟨bs, hbs⟩ := ih fun c hc => h c (List.mem_cons_of_mem a hc)
      exact ⟨b :: bs, .cons hb hbs⟩

end Conversions

theorem Checked.orRefuse_eq_ok_iff {α : Type} {schema : Schema} {x : Checked α} {a : α} :
    x.orRefuse schema = .ok a ↔ x = .ok a := by
  cases x <;> simp [orRefuse]

theorem Schema.sound_of_parse {s : Schema} {data : Data} {x : s.Carrier}
    (h : s.parse data = .ok x) : s.Sound x := by
  rw [parse] at h
  cases hprepared : s.prepare data with
  | error r =>
    rw [hprepared] at h
    exact nomatch h
  | ok prepared =>
    rw [hprepared] at h
    exact s.readsBack.sound_of_read (Checked.orRefuse_eq_ok_iff.1 h)

namespace Item

variable {d : Dimension} {i j : Item} {items items' : List Item} {values : List d.Value}

/-! ## Arguments -/

/-- One item by itself. Texts and records are single items, although they have parts. -/
def IsSingle : Item → Prop
  | plain (.bool _) | plain (.int _) | plain (.floating _) | plain (.text _) | record _ _ => True
  | plain .null | plain (.bytes _) | plain (.list _) | plain (.record _) | list _ => False

/-- The items of an argument: null has none, and a single item is the only one. -/
inductive Gives : Item → List Item → Prop
  | nothing : Gives (plain .null) []
  | single {i : Item} (h : i.IsSingle) : Gives i [i]
  | several (items : List Item) : Gives (list items) items
  | severalPlain (ds : List Data) : Gives (plain (.list ds)) (ds.map plain)

theorem members_of_isSingle (h : i.IsSingle) : i.members = [i] := by
  cases i with
  | record s v => rfl
  | list items => exact h.elim
  | plain x =>
    cases x with
    | bool b => rfl
    | int n => rfl
    | floating x => rfl
    | text s => rfl
    | _ => exact h.elim

theorem members_of_gives (h : i.Gives items) : i.members = items := by
  cases h with
  | nothing => rfl
  | single h => exact members_of_isSingle h
  | several items => rfl
  | severalPlain ds => rfl

/-! ## Values as items -/

/-- A value as an item: a record, or a text along the dimension of languages. -/
def ofValue : (d : Dimension) → d.Value → Item
  | .abi, a => record .abi a
  | .language, s => plain (.text s)
  | .textureFormat, f => record .textureFormat f
  | .graphicsApi, g => record .graphicsApi g
  | .sdkVersion, v => record .sdkVersion v
  | .screenDensity, s => record .screenDensity s

theorem toValue_ofValue (d : Dimension) (v : d.Value) : (ofValue d v).toValue d = .ok v := by
  cases d <;> rfl

/-- The values of items are those that some item is converted to. -/
theorem mem_values_iff (h : List.Forall₂ (fun v i => i.toValue d = .ok v) values items)
    {v : d.Value} : v ∈ values ↔ ∃ i ∈ items, i.toValue d = .ok v :=
  mem_iff_of_forall₂ (fun _ _ _ hv hw => Except.ok.inj (hv.symm.trans hw)) h

/-- An item in the place of another one: the same, or the value that the other one is converted to. -/
def StandsIn (d : Dimension) (j i : Item) : Prop :=
  j = i ∨ ∃ v, i.toValue d = .ok v ∧ j = ofValue d v

theorem StandsIn.toValue_eq (h : StandsIn d j i) : j.toValue d = i.toValue d := by
  rcases h with rfl | ⟨v, hv, rfl⟩
  · rfl
  · rw [toValue_ofValue, hv]

/-- The same items in any order and any number, some of them replaced by the values that they are
converted to. -/
structure Rearranged (d : Dimension) (items items' : List Item) : Prop where
  standsIn : ∀ j ∈ items', ∃ i ∈ items, StandsIn d j i
  covers : ∀ i ∈ items, ∃ j ∈ items', StandsIn d j i

/-- Rearranged items are converted to the same values. -/
theorem Rearranged.exists_toValue_eq_iff (h : Rearranged d items items') (v : d.Value) :
    (∃ j ∈ items', j.toValue d = .ok v) ↔ ∃ i ∈ items, i.toValue d = .ok v := by
  constructor
  · rintro ⟨j, hj, hv⟩
    obtain ⟨i, hi, hji⟩ := h.standsIn j hj
    exact ⟨i, hi, hji.toValue_eq.symm.trans hv⟩
  · rintro ⟨i, hi, hv⟩
    obtain ⟨j, hj, hji⟩ := h.covers i hi
    exact ⟨j, hj, hji.toValue_eq.trans hv⟩

/-- Rearranged items make the same set of values. -/
theorem Rearranged.exists_values (h : Rearranged d items items')
    (hvalues : List.Forall₂ (fun v i => i.toValue d = .ok v) values items) :
    ∃ values', List.Forall₂ (fun v i => i.toValue d = .ok v) values' items' ∧
      SortedSet.ofList values' = SortedSet.ofList values := by
  have hitems := exists_forall₂_iff.1 ⟨values, hvalues⟩
  have hitems' : ∀ j ∈ items', ∃ v, j.toValue d = .ok v := by
    intro j hj
    obtain ⟨i, hi, hji⟩ := h.standsIn j hj
    rw [hji.toValue_eq]
    exact hitems i hi
  obtain ⟨values', hvalues'⟩ := exists_forall₂_iff.2 hitems'
  refine ⟨values', hvalues', SortedSet.ext fun v => ?_⟩
  rw [SortedSet.mem_ofList, SortedSet.mem_ofList, mem_values_iff hvalues', mem_values_iff hvalues,
    h.exists_toValue_eq_iff]

/-! ## Sound items make sound values -/

/-- An item that is no record, or a record that could have been read. -/
def Sound : Item → Prop
  | record s x => s.Sound x
  | plain _ | list _ => True

theorem admissible_of_toValue {v : d.Value} (hi : i.Sound) (h : i.toValue d = .ok v) :
    d.Admissible v := by
  cases d with
  | sdkVersion =>
    change i.toSdkVersion = .ok v at h
    unfold toSdkVersion at h
    split at h
    · obtain rfl := Except.ok.inj h
      exact hi
    · exact Schema.sound_of_parse h
  | screenDensity =>
    change i.toScreenDensity = .ok v at h
    unfold toScreenDensity at h
    split at h
    · obtain rfl := Except.ok.inj h
      exact hi
    · exact Schema.sound_of_parse h
    · exact Schema.sound_of_parse h
    · cases hb : i.toMember DensityBucket with
      | error r =>
        rw [hb] at h
        exact nomatch h
      | ok b =>
        rw [hb] at h
        obtain rfl := Except.ok.inj h
        trivial
  | abi | language | textureFormat | graphicsApi => trivial

/-! ## Screen densities -/

/-- Items that are taken for a number of dots per inch: whole numbers and truth values. -/
inductive IsNumber : Item → Int → Prop
  | int (n : Int) : IsNumber (plain (.int n)) n
  | bool (b : Bool) : IsNumber (plain (.bool b)) (if b then 1 else 0)

theorem read_dpi {data : Data} {n : Int} (hdata : readInteger data = .ok n) :
    (read (.record [("density_dpi", data)]) : Checked ScreenDensity) =
      if 0 < n then .ok (.dpi n.toNat) else .faulty [⟨[.field "density_dpi"], .notAbove 0⟩] := by
  have hnull : data ≠ .null := by
    rintro rfl
    exact absurd hdata (Checked.reject_ne_ok _ _)
  have hread : readAbove 0 data = if n ≤ 0 then .reject (.notAbove 0) else .ok n.toNat := by
    rw [readAbove, hdata]
    rfl
  have hfields : (read (.record [("density_dpi", data)]) : Checked ScreenDensity) =
      (Prod.mk none <$> (readNullable (readAbove 0) data).below (.field "density_dpi")).andThen
        ScreenDensity.ofForms := by
    change Checked.andThen (Prod.mk <$> Checked.ok none <*> _) _ = _
    rw [Checked.map_ok, Checked.seq_ok]
    rfl
  rw [hfields, readNullable_of_ne_null hnull, hread]
  by_cases hn : 0 < n
  · rw [if_pos hn, if_neg (not_le.2 hn)]
    rfl
  · rw [if_neg hn, if_pos (not_lt.1 hn)]
    rfl

theorem toValue_of_isNumber {n : Int} (h : i.IsNumber n) :
    i.toValue .screenDensity =
      if 0 < n then .ok (.dpi n.toNat)
      else .error (.invalid .screenDensity [⟨[.field "density_dpi"], .notAbove 0⟩]) := by
  obtain ⟨data, hdata, hi⟩ : ∃ data, readInteger data = .ok n ∧ i.toValue .screenDensity =
      (read (.record [("density_dpi", data)]) : Checked ScreenDensity).orRefuse .screenDensity := by
    cases h with
    | int n => exact ⟨.int n, rfl, rfl⟩
    | bool b => exact ⟨.bool b, rfl, rfl⟩
  rw [hi, read_dpi hdata]
  split
  · rfl
  · rfl

/-- Only the words of an enumeration stand for its values. -/
theorem toMember_cases (α : Type) [Vocabulary α] (i : Item) :
    (∃ a : α, i = plain (.text (Vocabulary.word a)) ∧ i.toMember α = .ok a) ∨
      (∀ a : α, i ≠ plain (.text (Vocabulary.word a))) ∧
        i.toMember α = .error (.notAMember i.literal (Vocabulary.family α)) := by
  cases i with
  | record s x => exact Or.inr ⟨by simp, rfl⟩
  | list items => exact Or.inr ⟨by simp, rfl⟩
  | plain x =>
    cases x with
    | text s =>
      cases hs : Vocabulary.find? (α := α) s with
      | some a =>
        obtain rfl := Vocabulary.find?_eq_some_iff.1 hs
        exact Or.inl ⟨a, rfl, by simp [toMember, Vocabulary.parse, hs]⟩
      | none =>
        refine Or.inr ⟨?_, by simp [toMember, Vocabulary.parse, hs, literal]⟩
        intro a h
        obtain rfl : s = Vocabulary.word a := by simpa using h
        rw [Vocabulary.find?_word] at hs
        exact absurd hs (Option.some_ne_none a)
    | _ => exact Or.inr ⟨by simp, rfl⟩

theorem toValue_of_not_isNumber (hnumber : ∀ n, ¬i.IsNumber n)
    (hrecord : ∀ s, i ≠ record .screenDensity s) :
    i.toValue .screenDensity = ScreenDensity.bucket <$> i.toMember DensityBucket := by
  change i.toScreenDensity = _
  unfold toScreenDensity
  split
  · next s => exact absurd rfl (hrecord s)
  · next n => exact absurd (IsNumber.int n) (hnumber n)
  · next b => exact absurd (IsNumber.bool b) (hnumber _)
  · rfl

end Item

/-! ## Targetings of items -/

namespace DimensionTargeting

open Item

variable {d : Dimension} {first second : Item} {items others : List Item}
  {values alternatives : List d.Value}

theorem ofItems_congr {first' second' : Item} (hfirst : first'.members = first.members)
    (hsecond : second'.members = second.members) :
    ofItems d first' second' = ofItems d first second := by
  rw [ofItems, hfirst, hsecond, ofItems]

theorem ofItems_eq_error {before after : List Item} {i : Item} {r : Refusal}
    (hitems : first.members ++ second.members = before ++ i :: after)
    (hbefore : ∀ j ∈ before, ∃ v, j.toValue d = .ok v) (hi : i.toValue d = .error r) :
    ofItems d first second = .error r := by
  -- Converting both lists at once stops at the same item as converting one after the other.
  have hall := mapM_eq_error after hbefore hi
  rw [← hitems, List.mapM_append] at hall
  rw [ofItems]
  cases hvalues : first.members.mapM (toValue d) with
  | error r' =>
    rw [hvalues] at hall
    obtain rfl : r' = r := Except.error.inj hall
    rfl
  | ok values =>
    rw [hvalues] at hall
    change second.members.mapM (toValue d) >>= _ = _ at hall
    change second.members.mapM (toValue d) >>= _ = _
    cases halternatives : second.members.mapM (toValue d) with
    | error r' =>
      rw [halternatives] at hall
      obtain rfl : r' = r := Except.error.inj hall
      rfl
    | ok alternatives =>
      rw [halternatives] at hall
      exact nomatch hall

theorem ofItems_eq_check
    (hvalues : List.Forall₂ (fun v i => i.toValue d = .ok v) values first.members)
    (halternatives : List.Forall₂ (fun v i => i.toValue d = .ok v) alternatives second.members) :
    ofItems d first second =
      (check (.ofList values) (.ofList alternatives)).orRefuse (.dimensionTargeting d) := by
  rw [ofItems, mapM_eq_ok hvalues, mapM_eq_ok halternatives]
  rfl

/-- The plain forms of the values of sound items are read as these values. -/
theorem read_write_of_sound (hsound : ∀ i ∈ items, i.Sound)
    (hvalues : List.Forall₂ (fun v i => i.toValue d = .ok v) values items) :
    List.Forall₂ (fun v x => read x = Checked.ok v) values (values.map write) := by
  refine Dimension.forall₂_read_map_write fun v hv => ?_
  obtain ⟨i, hi, hiv⟩ := (mem_values_iff hvalues).1 hv
  exact admissible_of_toValue (hsound i hi) hiv

/-- A factory makes of loose items what is read from a record that lists their values. -/
theorem ofItems_eq_parse (hsound : ∀ i ∈ first.members ++ second.members, i.Sound)
    (hvalues : List.Forall₂ (fun v i => i.toValue d = .ok v) values first.members)
    (halternatives : List.Forall₂ (fun v i => i.toValue d = .ok v) alternatives second.members) :
    ofItems d first second = (Schema.dimensionTargeting d).parse (.record
      [("value", .list (values.map write)), ("alternatives", .list (alternatives.map write))]) := by
  obtain ⟨hfirst, hsecond⟩ := List.forall_mem_append.1 hsound
  let fields : Fields :=
    [("value", .list (values.map write)), ("alternatives", .list (alternatives.map write))]
  have hlisted : fields.Members "value" values := ⟨_, rfl, read_write_of_sound hfirst hvalues⟩
  have hlisted' : fields.Members "alternatives" alternatives :=
    ⟨_, rfl, read_write_of_sound hsecond halternatives⟩
  rw [ofItems_eq_check hvalues halternatives, ← read_record_eq_check hlisted hlisted']
  rfl

/-- Only the sets of the values count. -/
theorem ofItems_rearranged {items' others' : List Item}
    (hvalues : List.Forall₂ (fun v i => i.toValue d = .ok v) values first.members)
    (halternatives : List.Forall₂ (fun v i => i.toValue d = .ok v) alternatives second.members)
    (hfirst : Rearranged d first.members items') (hsecond : Rearranged d second.members others') :
    ofItems d (.list items') (.list others') = ofItems d first second := by
  obtain ⟨values', hvalues', heq⟩ := hfirst.exists_values hvalues
  obtain ⟨alternatives', halternatives', heq'⟩ := hsecond.exists_values halternatives
  have hcheck : ofItems d (.list items') (.list others') =
      (check (.ofList values') (.ofList alternatives')).orRefuse (.dimensionTargeting d) :=
    ofItems_eq_check hvalues' halternatives'
  rw [hcheck, heq, heq', ofItems_eq_check hvalues halternatives]

/-- What a factory makes of two arguments for values and alternatives of a dimension, unless that is
the dimension of graphics interfaces. It does not matter whether items come in a list, alone, or not
at all. The first item that stands for no value decides, those for values coming first; nothing else
is checked before. If all of them stand for values, the outcome is that of checking these values, as
when a record is read that lists them, and it stays the same when items are moved, repeated, or
replaced by their values. Along screen densities, whole numbers and truth values stand for numbers of
dots per inch and everything else for buckets, and no bucket is a number. -/
theorem items_stand_for_values (hd : d ≠ .graphicsApi) (hfirst : first.Gives items)
    (hsecond : second.Gives others) :
    (Factory.dimensionTargeting d).make [first, second] = write <$> ofItems d first second ∧
    ofItems d (.list items) (.list others) = ofItems d first second ∧
    (∀ before i after r, items ++ others = before ++ i :: after →
      (∀ j ∈ before, ∃ v, j.toValue d = .ok v) → i.toValue d = .error r →
      ofItems d first second = .error r) ∧
    (∀ values alternatives, List.Forall₂ (fun v i => i.toValue d = .ok v) values items →
      List.Forall₂ (fun v i => i.toValue d = .ok v) alternatives others →
      ofItems d first second =
        (check (.ofList values) (.ofList alternatives)).orRefuse (.dimensionTargeting d) ∧
      ((∀ i ∈ items ++ others, i.Sound) →
        ofItems d first second = (Schema.dimensionTargeting d).parse (.record
          [("value", .list (values.map write)),
            ("alternatives", .list (alternatives.map write))])) ∧
      ∀ items' others', Rearranged d items items' → Rearranged d others others' →
        ofItems d (.list items') (.list others') = ofItems d first second) ∧
    (∀ i n, IsNumber i n → i.toValue .screenDensity =
      if 0 < n then .ok (.dpi n.toNat)
      else .error (.invalid .screenDensity [⟨[.field "density_dpi"], .notAbove 0⟩])) ∧
    (∀ i : Item, (∀ n, ¬i.IsNumber n) → (∀ s, i ≠ .record .screenDensity s) →
      (∃ b : DensityBucket, i = .plain (.text (Vocabulary.word b)) ∧
        i.toValue .screenDensity = .ok (.bucket b)) ∨
      (∀ b : DensityBucket, i ≠ .plain (.text (Vocabulary.word b))) ∧
        i.toValue .screenDensity = .error (.notAMember i.literal "DensityAlias")) ∧
    ∀ b n, ScreenDensity.bucket b ≠ .dpi n := by
  obtain rfl := members_of_gives hfirst
  obtain rfl := members_of_gives hsecond
  refine ⟨?_, ofItems_congr rfl rfl, fun _ _ _ _ hitems hbefore hi =>
    ofItems_eq_error hitems hbefore hi, ?_, fun _ _ => toValue_of_isNumber, ?_, ?_⟩
  · cases d with
    | graphicsApi => exact absurd rfl hd
    | _ => rfl
  · intro values alternatives hvalues halternatives
    exact ⟨ofItems_eq_check hvalues halternatives,
      fun hsound => ofItems_eq_parse hsound hvalues halternatives,
      fun _ _ => ofItems_rearranged hvalues halternatives⟩
  · intro i hnumber hrecord
    rw [toValue_of_not_isNumber hnumber hrecord]
    rcases toMember_cases DensityBucket i with ⟨b, hb, hmember⟩ | ⟨hb, hmember⟩
    · rw [hmember]
      exact Or.inl ⟨b, hb, rfl⟩
    · rw [hmember]
      exact Or.inr ⟨hb, rfl⟩
  · intro b n h
    exact nomatch h

/-- Levels are given as text, as a number and as a truth value. The targeting is the same when they are
moved, repeated and replaced by records. Of two items at fault the first one is reported, although a
level is given on both sides as well. -/
theorem items_stand_for_values_mixed :
    let items : List Item := [.plain (.text "21"), .plain (.int 30)]
    let moved : List Item := [.plain (.int 30), .record .sdkVersion ⟨30⟩, .record .sdkVersion ⟨21⟩]
    let one : Item := .plain (.bool true)
    let faulty : List Item := items ++ [.plain (.text "x"), .plain (.int 0)]
    (Item.list items).Gives items ∧ one.Gives [one] ∧ (∀ i ∈ items ++ [one], i.Sound) ∧
      (Factory.dimensionTargeting .sdkVersion).make [.list items, one] =
        .ok (write (⟨.ofList [⟨21⟩, ⟨30⟩], .single ⟨1⟩⟩ : DimensionTargeting .sdkVersion)) ∧
      ofItems .sdkVersion (.list items) one = (Schema.dimensionTargeting .sdkVersion).parse (.record
        [("value", .list ([(⟨21⟩ : SdkVersion), ⟨30⟩].map write)),
          ("alternatives", .list ([(⟨1⟩ : SdkVersion)].map write))]) ∧
      Rearranged .sdkVersion items moved ∧ Rearranged .sdkVersion [one] [one, one] ∧
      ofItems .sdkVersion (.list moved) (.list [one, one]) = ofItems .sdkVersion (.list items) one ∧
      ofItems .sdkVersion (.list faulty) (.plain (.int 30)) =
        .error (.invalid .sdkVersion [⟨[.field "min"], .unreadableInteger⟩]) := by
  intro items moved one faulty
  have hone : one.Gives [one] := .single trivial
  have hsound : ∀ i ∈ items ++ [one], i.Sound := by simp [items, one, Sound]
  have hmoved : Rearranged .sdkVersion items moved := by
    constructor
    · simp only [moved, items, List.forall_mem_cons, List.exists_mem_cons_iff]
      exact ⟨.inr (.inl (.inl rfl)), .inr (.inl (.inr ⟨⟨30⟩, rfl, rfl⟩)), .inl (.inr ⟨⟨21⟩, rfl, rfl⟩),
        by simp⟩
    · simp only [moved, items, List.forall_mem_cons, List.exists_mem_cons_iff]
      exact ⟨.inr (.inr (.inl (.inr ⟨⟨21⟩, rfl, rfl⟩))), .inl (.inl rfl), by simp⟩
  have htwice : Rearranged .sdkVersion [one] [one, one] := by
    constructor
    · simp [StandsIn]
    · simp [StandsIn]
  have hvalues : List.Forall₂ (fun v i => i.toValue .sdkVersion = .ok v) [⟨21⟩, ⟨30⟩] items :=
    .cons rfl (.cons rfl .nil)
  have hothers : List.Forall₂ (fun v i => i.toValue .sdkVersion = .ok v) [⟨1⟩] [one] :=
    .cons rfl .nil
  obtain ⟨hmake, -, -, hvalid, -, -, -⟩ :=
    items_stand_for_values (d := .sdkVersion) (by decide) (.several items) hone
  obtain ⟨hcheck, hread, hrearranged⟩ := hvalid _ _ hvalues hothers
  obtain ⟨-, -, hfaulty, -⟩ := items_stand_for_values (d := .sdkVersion) (by decide)
    (.several faulty) (.single (i := .plain (.int 30)) trivial)
  refine ⟨.several items, hone, hsound, ?_, hread hsound, hmoved, htwice,
    hrearranged _ _ hmoved htwice, ?_⟩
  · rw [hmake, hcheck]
    rfl
  · refine hfaulty items (.plain (.text "x")) [.plain (.int 0), .plain (.int 30)] _ rfl ?_ rfl
    exact exists_forall₂_iff.1 ⟨_, hvalues⟩

end DimensionTargeting

end DeviceSplit
