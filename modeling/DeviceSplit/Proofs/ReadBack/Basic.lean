import DeviceSplit.Proofs.Written

set_option autoImplicit false

/-! # Reading back what is written

A reader is faithful to a way of writing when all that it reads is sound and each sound value is read
back from whatever it is written as (`ReadsBack`). Readers are put together from smaller ones, and
what is put together of faithful readers is faithful: one lemma for each way of putting readers
together says so. A value does not have to be read back from where it was read, only from where it is
written; this is where readers that tidy up have to leave tidy values alone (`ReadsBack.andThen`). -/

namespace DeviceSplit

/-- What is read is `sound`, and a sound value is read from everything that it is `written` as. -/
structure ReadsBack {σ α : Type} (read : σ → Checked α) (sound : α → Prop)
    (written : α → σ → Prop) : Prop where
  sound_of_read : ∀ {x a}, read x = .ok a → sound a
  read_of_written : ∀ {x a}, sound a → written a x → read x = .ok a

/-- Items are read one for one. -/
theorem readItems_eq_ok_iff {α : Type} {read : Data → Checked α} {i : Nat} {l : List α}
    {ds : List Data} :
    readItems read i ds = .ok l ↔ List.Forall₂ (fun a d => read d = .ok a) l ds := by
  constructor
  · intro h
    induction ds generalizing i l with
    | nil =>
      obtain rfl := Checked.ok.inj h
      exact .nil
    | cons d r ih =>
      obtain ⟨g, as, hg, has, rfl⟩ := Checked.seq_eq_ok.1 h
      obtain ⟨a, ha, rfl⟩ := Checked.map_eq_ok.1 hg
      exact .cons (Checked.below_eq_ok.1 ha) (ih has)
  · intro h
    induction h generalizing i with
    | nil => rfl
    | cons ha _ ih =>
      rw [readItems, ha, ih, Checked.below_ok, Checked.map_ok, Checked.seq_ok, Checked.map_ok]

/-- Where lists agree one for one, and only one value agrees with each item, the values are those that
agree with some item. -/
theorem mem_iff_of_forall₂ {α β : Type} {R : α → β → Prop}
    (hunique : ∀ a a' b, R a b → R a' b → a = a') {l : List α} {ds : List β}
    (h : List.Forall₂ R l ds) {a : α} : a ∈ l ↔ ∃ d ∈ ds, R a d := by
  induction h with
  | nil => simp
  | cons hb _ ih =>
    rw [List.mem_cons, List.exists_mem_cons_iff, ih]
    exact or_congr_left ⟨fun ha => ha ▸ hb, fun ha => hunique _ _ _ ha hb⟩

namespace ReadsBack

variable {σ α β γ : Type}

/-! ## Readers in general -/

section General

variable {read : σ → Checked α} {sound : α → Prop} {written : α → σ → Prop}

theorem congr_sound (h : ReadsBack read sound written) {sound' : α → Prop}
    (hsound : ∀ a, sound a ↔ sound' a) : ReadsBack read sound' written where
  sound_of_read hr := (hsound _).1 (h.sound_of_read hr)
  read_of_written ha hw := h.read_of_written ((hsound _).2 ha) hw

/-- A check or a change after reading leaves sound values alone. -/
theorem andThen (h : ReadsBack read sound written) (f : α → Checked β) (back : β → α)
    {sound' : β → Prop} (hsound : ∀ a b, sound a → f a = .ok b → sound' b)
    (hback : ∀ b, sound' b → sound (back b) ∧ f (back b) = .ok b) :
    ReadsBack (fun x => (read x).andThen f) sound' (fun b x => written (back b) x) where
  sound_of_read hr := by
    obtain ⟨a, ha, hb⟩ := Checked.andThen_eq_ok.1 hr
    exact hsound a _ (h.sound_of_read ha) hb
  read_of_written hb hw := by
    obtain ⟨hsoundBack, hf⟩ := hback _ hb
    rw [h.read_of_written hsoundBack hw]
    exact hf

theorem map (h : ReadsBack read sound written) (f : α → β) (back : β → α) {sound' : β → Prop}
    (hsound : ∀ a, sound a → sound' (f a))
    (hback : ∀ b, sound' b → sound (back b) ∧ f (back b) = b) :
    ReadsBack (fun x => f <$> read x) sound' (fun b x => written (back b) x) where
  sound_of_read hr := by
    obtain ⟨a, ha, rfl⟩ := Checked.map_eq_ok.1 hr
    exact hsound a (h.sound_of_read ha)
  read_of_written hb hw := by
    obtain ⟨hsoundBack, hf⟩ := hback _ hb
    rw [h.read_of_written hsoundBack hw, Checked.map_ok, hf]

/-- A record of two values, each of which has a reader of its own. -/
theorem map₂ {read' : σ → Checked β} {sound' : β → Prop} {written' : β → σ → Prop}
    (h : ReadsBack read sound written) (h' : ReadsBack read' sound' written')
    (make : α → β → γ) (first : γ → α) (second : γ → β) (hfirst : ∀ a b, first (make a b) = a)
    (hsecond : ∀ a b, second (make a b) = b) (hmake : ∀ c, make (first c) (second c) = c) :
    ReadsBack (fun x => make <$> read x <*> read' x) (fun c => sound (first c) ∧ sound' (second c))
      (fun c x => written (first c) x ∧ written' (second c) x) where
  sound_of_read hr := by
    obtain ⟨g, b, hg, hb, rfl⟩ := Checked.seq_eq_ok.1 hr
    obtain ⟨a, ha, rfl⟩ := Checked.map_eq_ok.1 hg
    rw [hfirst, hsecond]
    exact ⟨h.sound_of_read ha, h'.sound_of_read hb⟩
  read_of_written hc hw := by
    rw [h.read_of_written hc.1 hw.1, h'.read_of_written hc.2 hw.2, Checked.map_ok, Checked.seq_ok,
      Checked.map_ok, hmake]

/-- A record that is read part by part. -/
theorem parts {ι : Type} {τ : ι → Type} {get : α → (i : ι) → τ i}
    {readPart : (i : ι) → σ → Checked (τ i)} {soundPart : (i : ι) → τ i → Prop}
    {writtenPart : (i : ι) → τ i → σ → Prop}
    (h : ∀ i, ReadsBack (readPart i) (soundPart i) (writtenPart i))
    (hread : ∀ x a, read x = .ok a ↔ ∀ i, readPart i x = .ok (get a i)) :
    ReadsBack read (fun a => ∀ i, soundPart i (get a i))
      (fun a x => ∀ i, writtenPart i (get a i) x) where
  sound_of_read hr i := (h i).sound_of_read ((hread _ _).1 hr i)
  read_of_written ha hw := (hread _ _).2 fun i => (h i).read_of_written (ha i) (hw i)

end General

/-! ## Single values -/

theorem text : ReadsBack readText (fun _ => True) (WrittenAs .text) where
  sound_of_read _ := trivial
  read_of_written := by
    rintro d s - rfl
    rfl

theorem bytes : ReadsBack readBytes (fun _ => True) (WrittenAs .bytes) where
  sound_of_read _ := trivial
  read_of_written := by
    rintro d b - rfl
    rfl

theorem flag : ReadsBack readFlag (fun _ => True) (WrittenAs .bool) where
  sound_of_read _ := trivial
  read_of_written := by
    rintro d b - rfl
    rfl

theorem word [Vocabulary α] (problem : Problem) :
    ReadsBack (readWord (α := α) problem) (fun _ => True) (WrittenAs writeWord) where
  sound_of_read _ := trivial
  read_of_written := by
    rintro d a - rfl
    exact readWord_writeWord problem a

theorem atLeast (least : Nat) :
    ReadsBack (readAtLeast least) (least ≤ ·) (WrittenAs fun n : Nat => .int n) where
  sound_of_read := le_of_readAtLeast
  read_of_written := by
    rintro d n hn rfl
    exact readAtLeast_int hn

theorem above (bound : Nat) :
    ReadsBack (readAbove bound) (bound < ·) (WrittenAs fun n : Nat => .int n) where
  sound_of_read := lt_of_readAbove
  read_of_written := by
    rintro d n hn rfl
    exact readAbove_int hn

/-! ## Several values -/

section Several

variable {read : Data → Checked α} {sound : α → Prop} {written : α → Data → Prop}

theorem nullable (h : ReadsBack read sound written) (hnull : ∀ a, read .null ≠ .ok a) :
    ReadsBack (readNullable read) (fun o => ∀ a, o = some a → sound a) (WrittenNullable written) where
  sound_of_read := by
    rintro d o hr a rfl
    cases d with
    | null => exact nomatch hr
    | _ =>
      obtain ⟨b, hb, hba⟩ := Checked.map_eq_ok.1 hr
      exact Option.some.inj hba ▸ h.sound_of_read hb
  read_of_written := by
    rintro d o ho hw
    cases o with
    | none =>
      obtain rfl : d = .null := hw
      rfl
    | some a =>
      have hr := h.read_of_written (ho a rfl) hw
      have hd : d ≠ .null := by
        rintro rfl
        exact hnull a hr
      rw [readNullable_of_ne_null hd, hr, Checked.map_ok]

/-- A sequence is read back if its items are. -/
theorem items (h : ReadsBack read sound written) {l : List α} {ds : List Data}
    (hl : ∀ a ∈ l, sound a) (hw : List.Forall₂ written l ds) : readItems read 0 ds = .ok l := by
  rw [readItems_eq_ok_iff]
  have hboth : List.Forall₂ (fun a d => sound a ∧ written a d) l ds :=
    (List.forall₂_and_left _ _).2 ⟨hl, hw⟩
  exact hboth.imp fun a d had => h.read_of_written had.1 had.2

theorem sound_of_mem (h : ReadsBack read sound written) {l : List α} {ds : List Data}
    (hr : readItems read 0 ds = .ok l) : ∀ a ∈ l, sound a := by
  have hboth : List.Forall₂ (fun a d => sound a ∧ read d = .ok a) l ds :=
    (readItems_eq_ok_iff.1 hr).imp fun a d had => ⟨h.sound_of_read had, had⟩
  exact ((List.forall₂_and_left _ _).1 hboth).1

theorem sequence (h : ReadsBack read sound written) :
    ReadsBack (readSequence read) (fun l => ∀ a ∈ l, sound a) (WrittenSequence written) where
  sound_of_read := by
    intro d l hr
    cases d with
    | list ds => exact h.sound_of_mem hr
    | _ => exact nomatch hr
  read_of_written := by
    rintro d l hl ⟨ds, rfl, hw⟩
    exact h.items hl hw

/-- The order and the repetitions of members do not matter to a set. -/
theorem set [Ranked α] (h : ReadsBack read sound written) :
    ReadsBack (readSet read) (fun s => ∀ a ∈ s, sound a) (WrittenSet written) where
  sound_of_read := by
    intro d s hr
    cases d with
    | list ds =>
      obtain ⟨l, hl, rfl⟩ := Checked.map_eq_ok.1 hr
      intro a ha
      exact h.sound_of_mem hl a (SortedSet.mem_ofList.1 ha)
    | _ => exact nomatch hr
  read_of_written := by
    rintro d s hs ⟨l, hmem, ds, rfl, hw⟩
    have hl : readItems read 0 ds = .ok l := h.items (fun a ha => hs a ((hmem a).1 ha)) hw
    have hset : SortedSet.ofList l = s :=
      SortedSet.ext fun a => SortedSet.mem_ofList.trans (hmem a)
    rw [readSet, hl, Checked.map_ok, hset]

/-! ## Records and their fields -/

theorem required (h : ReadsBack read sound written) (name : String) :
    ReadsBack (Fields.required name read) sound (fun a fields => fields.Holds name written a) where
  sound_of_read := by
    intro fields a hr
    rw [Fields.required, Checked.below_eq_ok] at hr
    split at hr
    · exact h.sound_of_read hr
    · exact nomatch hr
  read_of_written := by
    rintro fields a ha ⟨d, hd, hw⟩
    rw [Fields.required, hd, Checked.below_eq_ok]
    exact h.read_of_written ha hw

theorem withDefault (h : ReadsBack read sound written) (name : String) (default : α)
    (hdefault : sound default) :
    ReadsBack (Fields.withDefault name default read) sound
      (fun a fields => fields.Holds name written a) where
  sound_of_read := by
    intro fields a hr
    rw [Fields.withDefault] at hr
    split at hr
    · exact h.sound_of_read (Checked.below_eq_ok.1 hr)
    · exact Checked.ok.inj hr ▸ hdefault
  read_of_written := by
    rintro fields a ha ⟨d, hd, hw⟩
    rw [Fields.withDefault, hd]
    exact Checked.below_eq_ok.2 (h.read_of_written ha hw)

theorem optional (h : ReadsBack read sound written) (hnull : ∀ a, read .null ≠ .ok a)
    (name : String) :
    ReadsBack (Fields.optional name read) (fun o => ∀ a, o = some a → sound a)
      (fun o fields => fields.Holds name (WrittenNullable written) o) :=
  (h.nullable hnull).withDefault name none (fun _ ha => nomatch ha)

theorem record {readFields : Fields → Checked α} {writtenFields : α → Fields → Prop}
    (h : ReadsBack readFields sound writtenFields) :
    ReadsBack (readRecord readFields) sound (fun a => Data.IsRecord (writtenFields a)) where
  sound_of_read := by
    intro d a hr
    cases d with
    | record fields => exact h.sound_of_read hr
    | _ => exact nomatch hr
  read_of_written := by
    rintro d a ha ⟨fields, rfl, hw⟩
    exact h.read_of_written ha hw

end Several

end ReadsBack

end DeviceSplit
