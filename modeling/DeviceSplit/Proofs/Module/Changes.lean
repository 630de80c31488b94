import DeviceSplit.AbiSplit.Basic
import DeviceSplit.Proofs.ReadBack.Module

set_option autoImplicit false

/-! # Runs of changes

Each change reads the whole module split again, also the fields that it does not name. Nothing drifts:
an unnamed field is read back from what the module split has there (`readFrom_of_not_named`), so one
change after another is the same as both at once, faults included (`withChanges_withChanges`). After a
run, in which changes with faults are passed over, all that counts are the changes that succeeded
(`withChanges_succeeding`), and for each field the last one of them that names it. The main statement
is `changes_settle`.

A pass over a module makes its splits by changes too, but of values that have been read before. All
that such a change has to check is the list of entries as a whole (`withChanges_eq_checked`). -/

namespace DeviceSplit

namespace ModuleSplit

variable {m m' : ModuleSplit} {changes a b c : Fields} {f : ModuleField} {d : Data}

/-! ## One change -/

theorem readFrom_of_named (rest : Fields) (h : changes.lookup f.name = some d) :
    f.readFrom (changes ++ rest) = (f.readValue d).below (.field f.name) := by
  apply ModuleField.readFrom_of_lookup
  rw [List.lookup_append, h, Option.some_or]

/-- A field that a change does not name is read back. -/
theorem readFrom_of_not_named (hm : m.Valid) (h : changes.lookup f.name = none) :
    f.readFrom (changes ++ m.fields) = .ok (m.value f) := by
  have hlookup : (changes ++ m.fields).lookup f.name = some (f.writeValue (m.value f)) := by
    rw [List.lookup_append, h, Option.none_or, m.lookup_fields]
  rw [ModuleField.readFrom_of_lookup hlookup, Checked.below_eq_ok]
  exact f.readsBack.read_of_written (valid_iff.1 hm f) (f.writtenValue_writeValue _)

/-- A change succeeds exactly if the values that it names can be read. -/
theorem withChanges_eq_ok_iff (hm : m.Valid) :
    m.withChanges changes = .ok m' ↔ ∀ f : ModuleField,
      (∀ d, changes.lookup f.name = some d → f.readValue d = .ok (m'.value f)) ∧
        (changes.lookup f.name = none → m'.value f = m.value f) := by
  rw [withChanges, readFields_eq_ok_iff]
  refine forall_congr' fun f => ?_
  cases h : changes.lookup f.name with
  | some d =>
    rw [readFrom_of_named _ h, Checked.below_eq_ok]
    simp
  | none =>
    rw [readFrom_of_not_named hm h, Checked.ok.injEq]
    simp [eq_comm]

theorem Valid.of_withChanges (h : m.withChanges changes = .ok m') : m'.Valid :=
  readsBack_readFields.sound_of_read h

/-- Only what has the name of a field counts. -/
theorem withChanges_congr (h : ∀ f : ModuleField, a.lookup f.name = b.lookup f.name) :
    m.withChanges a = m.withChanges b := by
  refine readFields_congr fun f => ModuleField.readFrom_congr ?_
  rw [List.lookup_append, List.lookup_append, h f]

theorem withChanges_nil (hm : m.Valid) : m.withChanges [] = .ok m :=
  (withChanges_eq_ok_iff hm).2 fun _ => ⟨fun _ h => by simp at h, fun _ => rfl⟩

/-- Two changes one after another are one change, in which the second overrides the first. -/
theorem withChanges_withChanges (ha : m.withChanges a = .ok m') :
    m'.withChanges b = m.withChanges (b ++ a) := by
  refine readFields_congr fun f => ?_
  cases hb : b.lookup f.name with
  | some d =>
    apply ModuleField.readFrom_congr
    simp only [List.lookup_append, hb, Option.some_or]
  | none =>
    have hsame : f.readFrom (b ++ a ++ m.fields) = f.readFrom (a ++ m.fields) := by
      apply ModuleField.readFrom_congr
      simp only [List.lookup_append, hb, Option.none_or]
    rw [readFrom_of_not_named (Valid.of_withChanges ha) hb, hsame]
    exact ((readFields_eq_ok_iff _ _).1 ha f).symm

theorem applyChanges_of_ok (h : m.withChanges changes = .ok m') : m.applyChanges changes = m' := by
  rw [applyChanges, h]

theorem applyChanges_of_faulty {faults : List Fault} (h : m.withChanges changes = .faulty faults) :
    m.applyChanges changes = m := by
  rw [applyChanges, h]

/-! ## Runs -/

/-- The changes of a run that succeed, each on what the ones before it left. -/
def succeeding (m : ModuleSplit) : List Fields → List Fields
  | [] => []
  | c :: run =>
    match m.withChanges c with
    | .ok m' => c :: succeeding m' run
    | .faulty _ => succeeding m run

/-- A run does what the changes do that succeed, with later ones overriding earlier ones. -/
theorem withChanges_succeeding (hm : m.Valid) (run : List Fields) :
    m.withChanges (m.succeeding run).reverse.flatten = .ok (run.foldl applyChanges m) := by
  induction run generalizing m with
  | nil => exact withChanges_nil hm
  | cons c run ih =>
    rw [List.foldl_cons, succeeding]
    cases hc : m.withChanges c with
    | ok m' =>
      rw [applyChanges_of_ok hc, List.reverse_cons, List.flatten_append, List.flatten_singleton,
        ← withChanges_withChanges hc]
      exact ih (Valid.of_withChanges hc)
    | faulty faults =>
      rw [applyChanges_of_faulty hc]
      exact ih hm

/-- A name is looked up in several changes by looking it up in one after another. -/
theorem lookup_flatten (changes : List Fields) (name : String) :
    changes.flatten.lookup name = changes.findSome? (·.lookup name) := by
  induction changes with
  | nil => rfl
  | cons c r ih =>
    rw [List.flatten_cons, List.lookup_append, List.findSome?_cons, ih]
    cases c.lookup name with
    | none => rfl
    | some d => rfl

/-- After a run of changes, in which those with faults are passed over, the module split is valid.
Each field has what the last successful change that names it gives there, or what it had at the
beginning if there is none. Names of no fields have no effect on a change, one that names nothing
changes nothing, and a change after another one has the outcome of both at once, where the second one
overrides the first. -/
theorem changes_settle (hm : m.Valid) :
    (∀ run : List Fields, (run.foldl applyChanges m).Valid ∧
      (∀ f : ModuleField, ∀ before c after d, m.succeeding run = before ++ c :: after →
        c.lookup f.name = some d → (∀ c' ∈ after, c'.lookup f.name = none) →
        f.readValue d = .ok ((run.foldl applyChanges m).value f)) ∧
      ∀ f : ModuleField, (∀ c ∈ m.succeeding run, c.lookup f.name = none) →
        (run.foldl applyChanges m).value f = m.value f) ∧
    (∀ a b, (∀ f : ModuleField, a.lookup f.name = b.lookup f.name) →
      m.withChanges a = m.withChanges b) ∧
    m.withChanges [] = .ok m ∧
    ∀ a m', m.withChanges a = .ok m' → ∀ b c,
      (∀ f : ModuleField, c.lookup f.name = (b.lookup f.name).or (a.lookup f.name)) →
      m'.withChanges b = m.withChanges c := by
  refine ⟨fun run => ?_, fun a b hab => withChanges_congr hab, withChanges_nil hm, ?_⟩
  · have hrun := withChanges_succeeding hm run
    have hvalues := (withChanges_eq_ok_iff hm).1 hrun
    refine ⟨Valid.of_withChanges hrun, ?_, ?_⟩
    · intro f before c after d hsplit hc hafter
      -- From the end of the run, the changes after `c` are passed by first.
      have hpassed : after.reverse.findSome? (·.lookup f.name) = none :=
        List.findSome?_eq_none_iff.2 fun c' hc' => hafter c' (List.mem_reverse.1 hc')
      refine (hvalues f).1 d ?_
      rw [lookup_flatten, hsplit, List.reverse_append, List.reverse_cons, List.append_assoc,
        List.findSome?_append, hpassed, Option.none_or, List.singleton_append, List.findSome?_cons,
        hc]
    · intro f hnone
      refine (hvalues f).2 ?_
      rw [lookup_flatten, List.findSome?_eq_none_iff]
      exact fun c hc => hnone c (List.mem_reverse.1 hc)
  · intro a m' ha b c hc
    rw [withChanges_withChanges ha]
    refine withChanges_congr fun f => ?_
    rw [List.lookup_append, hc f]

/-- The second change gives two contents for one path, so that its name does not count either. The
third one gives an entry twice, in two spellings. -/
theorem changes_settle_conflict :
    let m : ModuleSplit := { entries := [⟨"lib/a.so", [1]⟩] }
    let entry (path : String) (content : List UInt8) : Data :=
      .record [("path", .text path), ("content", .bytes content)]
    let rename : Fields := [("colour", .null), ("module_name", .text "feature")]
    let conflict : Fields :=
      [("module_name", .text "other"), ("entries", .list [entry "b" [], entry "/b" [7]])]
    let finish : Fields := [("entries", .list [entry "b\\" [7], entry "/b" [7]])]
    let final := [rename, conflict, finish].foldl applyChanges m
    m.Valid ∧ m.succeeding [rename, conflict, finish] = [rename, finish] ∧ final.Valid ∧
      final.moduleName = "feature" ∧ final.entries = [⟨"b", [7]⟩] ∧ final.apkTargeting = {} ∧
      m.withChanges [("colour", .null)] = .ok m := by
  intro m entry rename conflict finish final
  have hm : m.Valid :=
    ⟨Targeting.wellFormed_default,
      show ∀ e ∈ m.entries, e.path ≠ "" ∧ Path.normalize e.path = e.path by decide, by decide⟩
  have hkept : m.succeeding [rename, conflict, finish] = [rename, finish] := rfl
  obtain ⟨hruns, hnames, hnothing, -⟩ := changes_settle hm
  obtain ⟨hvalid, hgiven, hother⟩ := hruns [rename, conflict, finish]
  have hname := hgiven .moduleName [] rename [finish] _ hkept rfl (by decide)
  have hentries := hgiven .entries [rename] finish [] _ hkept rfl (by simp)
  have htargeting := hother .apkTargeting (by rw [hkept]; decide)
  refine ⟨hm, hkept, hvalid, (Checked.ok.inj hname).symm, (Checked.ok.inj hentries).symm,
    htargeting, ?_⟩
  rw [hnames [("colour", .null)] [] fun f => by cases f <;> rfl, hnothing]

/-! ## Changes to values that have been read -/

/-- A change to the written forms of values that could have been read has no faults but those of the
list of entries as a whole. -/
theorem withChanges_eq_checked (hm : m.Valid)
    (hwritten : ∀ f : ModuleField, changes.Holds f.name f.WrittenValue (m'.value f) ∨
      changes.lookup f.name = none ∧ m'.value f = m.value f)
    (htargeting : m'.apkTargeting.WellFormed) (hentries : ∀ e ∈ m'.entries, e.Valid) :
    m.withChanges changes = m'.checked := by
  have hread (f : ModuleField) (hf : f.Sound (m'.value f)) :
      f.readFrom (changes ++ m.fields) = .ok (m'.value f) := by
    rcases hwritten f with ⟨d, hd, hvalue⟩ | ⟨hnone, hsame⟩
    · rw [readFrom_of_named _ hd, f.readsBack.read_of_written hf hvalue]
      rfl
    · rw [readFrom_of_not_named hm hnone, hsame]
  have hlist : ModuleField.entries.readFrom (changes ++ m.fields) =
      (ModuleEntry.distinct m'.entries).below (.field "entries") := by
    rcases hwritten .entries with ⟨d, hd, hvalue⟩ | ⟨hnone, hsame⟩
    · have hitems : readSequence read d = .ok m'.entries :=
        ModuleEntry.readsBack.sequence.read_of_written hentries hvalue
      rw [readFrom_of_named _ hd]
      change ((readSequence read d).andThen ModuleEntry.distinct).below _ = _
      rw [hitems]
      rfl
    · have hentriesSame : m'.entries = m.entries := hsame
      rw [readFrom_of_not_named hm hnone, hentriesSame, ModuleEntry.distinct_eq_ok hm.distinctPaths]
      rfl
  rw [withChanges, readFields_eq, hlist, hread .moduleName trivial, hread .apkTargeting htargeting,
    hread .masterSplit trivial, hread .nativeConfig trivial, hread .masterManifestMutators trivial,
    checked]
  cases (ModuleEntry.distinct m'.entries).below (.field "entries") <;> rfl

/-- The split with the entries that are left over is made by a change of the entries. -/
theorem withChanges_entries (hm : m.Valid) {es : List ModuleEntry} (hes : ∀ e ∈ es, e.Valid) :
    m.withChanges [("entries", .list (es.map write))] = { m with entries := es }.checked := by
  refine withChanges_eq_checked hm (fun f => ?_) hm.targeting hes
  cases f with
  | entries => exact Or.inl ⟨_, rfl, ModuleField.entries.writtenValue_writeValue es⟩
  | _ => exact Or.inr ⟨rfl, rfl⟩

/-- The split of an architecture is made by a change of its targeting, its entries, and what makes the
module depend on its splits. -/
theorem withChanges_forAbi (hm : m.Valid) {targeting : DimensionTargeting .abi}
    (htargeting : targeting.Disjoint) {es : List ModuleEntry} (hes : ∀ e ∈ es, e.Valid) :
    m.withChanges [("apk_targeting", write (m.apkTargeting.withDimension targeting)),
      ("master_split", .bool false),
      ("master_manifest_mutators",
        .list ((m.masterManifestMutators ++ [ManifestMutator.splitsRequired]).map writeWord)),
      ("entries", .list (es.map write))] = (m.forAbi targeting es).checked := by
  have hadmissible : targeting.Admissible := ⟨fun _ _ => trivial, fun _ _ => trivial⟩
  refine withChanges_eq_checked hm (fun f => ?_)
    (hm.targeting.withDimension htargeting hadmissible) hes
  have hwritten := f.writtenValue_writeValue ((m.forAbi targeting es).value f)
  cases f with
  | moduleName | nativeConfig => exact Or.inr ⟨rfl, rfl⟩
  | _ => exact Or.inl ⟨_, rfl, hwritten⟩

end ModuleSplit

end DeviceSplit
