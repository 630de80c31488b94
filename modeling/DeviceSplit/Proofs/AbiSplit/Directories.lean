import Mathlib.Data.List.Find
import DeviceSplit.Proofs.AbiSplit.Division
import DeviceSplit.Proofs.Path

set_option autoImplicit false

/-! # Which directories matter

Two configurations of native libraries can differ and still divide every module alike. Spellings of
paths do not matter, nor does a directory below an earlier one of the same architecture: such
configurations are `Interchangeable`, and a pass does the same under both. The order of directories
can matter, because an entry goes to the first architecture that has a directory over it. It does
not matter to the owners if the architectures still appear in the same order, or if directories of
different architectures have no place in common (`Separated`). The main statement is
`directories_rearranged`. -/

namespace DeviceSplit

/-! ## Directories over directories -/

namespace NativeDirectory

/-- Whether a directory is another one, in any spelling, or lies below it. -/
def isUnder (d d' : NativeDirectory) : Bool :=
  Path.contains (Path.normalizeChars d'.path.toList) (Path.normalizeChars d.path.toList)

/-- The directory with its path in normal spelling. -/
def normalized (d : NativeDirectory) : NativeDirectory := { d with path := Path.normalize d.path }

end NativeDirectory

namespace ModuleEntry

variable {e : ModuleEntry} {d d' : NativeDirectory}

/-- A directory is over all that a directory below it is over. -/
theorem isUnder_of_isUnder (hd : d.isUnder d' = true) (he : e.isUnder d.path = true) :
    e.isUnder d'.path = true :=
  Path.contains_trans hd he

/-- Of two directories over one entry, one lies below the other. -/
theorem isUnder_or_isUnder (hd : e.isUnder d.path = true) (hd' : e.isUnder d'.path = true) :
    d.isUnder d' = true ∨ d'.isUnder d = true :=
  Path.contains_or_contains hd' hd

end ModuleEntry

/-- What lies under directories depends only on the normal spelling of their paths. -/
theorem entriesUnderAny_eq_normalize (directories : List String) (es : List ModuleEntry) :
    entriesUnderAny directories es =
      ((directories.map Path.normalize).flatMap fun p =>
        es.filter fun e => Path.contains p.toList e.path.toList).eraseDups := by
  rw [entriesUnderAny, List.flatMap_map]
  simp only [Path.toList_normalize]
  rfl

/-- A directory below an earlier one adds nothing. -/
theorem entriesUnderAny_insert {before after : List String} {d d₀ : NativeDirectory}
    (hd₀ : d₀.path ∈ before) (hunder : d.isUnder d₀ = true) (es : List ModuleEntry) :
    entriesUnderAny (before ++ d.path :: after) es = entriesUnderAny (before ++ after) es := by
  rw [entriesUnderAny, entriesUnderAny, List.flatMap_append, List.flatMap_append, List.flatMap_cons]
  apply eraseDups_append_of_subset
  intro e he
  obtain ⟨hmem, hed⟩ := List.mem_filter.1 he
  exact List.mem_flatMap.2
    ⟨d₀.path, hd₀, List.mem_filter.2 ⟨hmem, ModuleEntry.isUnder_of_isUnder hunder hed⟩⟩

theorem mem_entriesUnderAny_singleton {e : ModuleEntry} {directories : List String} :
    e ∈ entriesUnderAny directories [e] ↔ e.isUnderAny directories = true := by
  rw [mem_entriesUnderAny]
  exact and_iff_right (List.mem_singleton_self e)

namespace NativeLibraries

variable {n n' : NativeLibraries} {a : Abi} {e : ModuleEntry}

/-- The owner of an entry depends on the order of the architectures and on what each has a directory
over. -/
theorem owner_congr (habis : n'.abis = n.abis)
    (hunder : ∀ a, e.isUnderAny (n'.pathsOf a) = e.isUnderAny (n.pathsOf a)) :
    n'.owner e = n.owner e := by
  rw [owner, owner, habis]
  exact List.find?_congr fun a _ => hunder a

/-! ## Interchangeable configurations -/

/-- The configuration with all paths in normal spelling. -/
def normalized (n : NativeLibraries) : NativeLibraries :=
  ⟨n.directories.map NativeDirectory.normalized⟩

/-- The second configuration has one more directory, which lies under an earlier one for the same
architecture. -/
def Inserted (n n' : NativeLibraries) : Prop :=
  ∃ before d after, n.directories = before ++ after ∧ n'.directories = before ++ d :: after ∧
    ∃ d₀ ∈ before, d₀.abi = d.abi ∧ d.isUnder d₀ = true

/-- Two configurations have the same architectures, in the same order, and each of them finds the
same entries, in the same order. -/
structure Interchangeable (n n' : NativeLibraries) : Prop where
  abis : n'.abis = n.abis
  entriesUnder : ∀ a es, entriesUnderAny (n'.pathsOf a) es = entriesUnderAny (n.pathsOf a) es

theorem abis_normalized (n : NativeLibraries) : n.normalized.abis = n.abis := by
  rw [abis, normalized, List.map_map]
  rfl

theorem pathsOf_normalized (n : NativeLibraries) (a : Abi) :
    n.normalized.pathsOf a = (n.pathsOf a).map Path.normalize := by
  rw [pathsOf, pathsOf, normalized, List.filter_map, List.map_map, List.map_map]
  rfl

theorem Interchangeable.of_normalized_eq (h : n'.normalized = n.normalized) :
    n.Interchangeable n' where
  abis := by rw [← abis_normalized, h, abis_normalized]
  entriesUnder a es := by
    rw [entriesUnderAny_eq_normalize, entriesUnderAny_eq_normalize, ← pathsOf_normalized,
      ← pathsOf_normalized, h]

theorem Interchangeable.of_inserted (h : n.Inserted n') : n.Interchangeable n' := by
  obtain ⟨before, d, after, hn, hn', d₀, hd₀, habi, hunder⟩ := h
  constructor
  · rw [NativeLibraries.abis, NativeLibraries.abis, hn, hn', List.map_append, List.map_append,
      List.map_cons]
    apply eraseDups_append_of_subset (m := [d.abi])
    intro b hb
    rw [List.mem_singleton.1 hb, ← habi]
    exact List.mem_map_of_mem hd₀
  · intro a es
    rw [pathsOf, pathsOf, hn, hn', List.filter_append, List.filter_append, List.map_append,
      List.map_append]
    -- Only the architecture of `d` has another list of paths than before.
    by_cases ha : d.abi = a
    · rw [List.filter_cons_of_pos (by simpa using ha), List.map_cons]
      have hmem : d₀ ∈ before.filter (·.abi == a) :=
        List.mem_filter.2 ⟨hd₀, by simpa using habi.trans ha⟩
      exact entriesUnderAny_insert (List.mem_map_of_mem hmem) hunder es
    · rw [List.filter_cons_of_neg (by simpa using ha)]

theorem Interchangeable.owner (h : n.Interchangeable n') (e : ModuleEntry) :
    n'.owner e = n.owner e := by
  apply owner_congr h.abis
  intro a
  rw [Bool.eq_iff_iff, ← mem_entriesUnderAny_singleton, ← mem_entriesUnderAny_singleton,
    h.entriesUnder]

theorem Interchangeable.ownEntries (h : n.Interchangeable n') (a : Abi) (es : List ModuleEntry) :
    n'.ownEntries a es = n.ownEntries a es := by
  rw [NativeLibraries.ownEntries, NativeLibraries.ownEntries, h.entriesUnder]
  simp only [h.owner]

/-! ## Directories in another order -/

/-- No directory for one architecture is, contains or lies under a directory for another one. -/
def Separated (n : NativeLibraries) : Prop :=
  ∀ d ∈ n.directories, ∀ d' ∈ n.directories, d.abi ≠ d'.abi → d.isUnder d' = false

theorem Separated.perm (h : n.Separated) (hperm : n'.directories.Perm n.directories) :
    n'.Separated := by
  intro d hd d' hd' hne
  exact h d (hperm.mem_iff.1 hd) d' (hperm.mem_iff.1 hd') hne

theorem isUnderAny_pathsOf_perm (hperm : n'.directories.Perm n.directories) (a : Abi)
    (e : ModuleEntry) : e.isUnderAny (n'.pathsOf a) = e.isUnderAny (n.pathsOf a) := by
  rw [Bool.eq_iff_iff, isUnderAny_pathsOf_iff, isUnderAny_pathsOf_iff]
  simp only [hperm.mem_iff]

/-- If directories of different architectures have no place in common, an entry can have only one
owner, whatever the order of the turns. -/
theorem Separated.owner_eq_some_iff (h : n.Separated) :
    n.owner e = some a ↔ e.isUnderAny (n.pathsOf a) = true := by
  constructor
  · exact isUnderAny_of_ownerAmong
  · intro ha
    obtain ⟨d, hd, rfl, hed⟩ := isUnderAny_pathsOf_iff.1 ha
    cases howner : n.owner e with
    | none =>
      rw [owner_eq_none_iff.1 howner d hd] at hed
      exact nomatch hed
    | some b =>
      obtain ⟨d', hd', rfl, hed'⟩ := isUnderAny_pathsOf_iff.1 (isUnderAny_of_ownerAmong howner)
      by_contra hne
      have habi : d.abi ≠ d'.abi := fun habi => hne (congrArg some habi.symm)
      -- Both directories are over `e`, so one would have to lie under the other.
      rcases ModuleEntry.isUnder_or_isUnder hed hed' with hunder | hunder
      · rw [h d hd d' hd' habi] at hunder
        exact nomatch hunder
      · rw [h d' hd' d hd habi.symm] at hunder
        exact nomatch hunder

/-- Reordering directories keeps all owners if it keeps the order of the architectures or if that
order does not matter. -/
theorem owner_perm (hperm : n'.directories.Perm n.directories)
    (horder : n'.abis = n.abis ∨ n.Separated) (e : ModuleEntry) : n'.owner e = n.owner e := by
  rcases horder with habis | hseparated
  · exact owner_congr habis fun a => isUnderAny_pathsOf_perm hperm a e
  · apply Option.ext
    intro a
    rw [(hseparated.perm hperm).owner_eq_some_iff, hseparated.owner_eq_some_iff,
      isUnderAny_pathsOf_perm hperm]

theorem generated_perm (hperm : n'.directories.Perm n.directories) (policy : SplitPolicy) :
    (n'.generated policy).Perm (n.generated policy) := by
  rw [List.perm_ext_iff_of_nodup (n'.nodup_generated policy) (n.nodup_generated policy)]
  intro a
  simp only [mem_generated, mem_abis, hperm.mem_iff]

theorem divisible_perm_iff (hperm : n'.directories.Perm n.directories) (policy : SplitPolicy) :
    n'.Divisible policy ↔ n.Divisible policy := by
  rw [← not_iff_not, not_divisible_iff, not_divisible_iff]
  simp only [hperm.mem_iff]

/-! ## Configurations with the same owners -/

theorem unowned_of_owner_eq (h : ∀ e, n'.owner e = n.owner e) (es : List ModuleEntry) :
    n'.unowned es = n.unowned es := by
  rw [unowned, unowned]
  simp only [h]

theorem ownEntries_perm_of_owner_eq (h : ∀ e, n'.owner e = n.owner e) (a : Abi)
    (es : List ModuleEntry) : (n'.ownEntries a es).Perm (n.ownEntries a es) := by
  rw [List.perm_ext_iff_of_nodup (n'.nodup_ownEntries a es) (n.nodup_ownEntries a es)]
  intro e
  rw [mem_ownEntries, mem_ownEntries, h]

end NativeLibraries

namespace ModuleSplit

variable {m : ModuleSplit} {n n' : NativeLibraries} {policy : SplitPolicy}

/-- The module split with another configuration of native libraries. -/
def carrying (s : ModuleSplit) (n : NativeLibraries) : ModuleSplit :=
  { s with nativeConfig := some n }

theorem Valid.carrying (hm : m.Valid) (n : NativeLibraries) : (m.carrying n).Valid where
  targeting := hm.targeting
  entries := hm.entries
  distinctPaths := hm.distinctPaths

/-- With the same owners, the same is left over. -/
theorem leftOverSplit_carrying (howner : ∀ e, n'.owner e = n.owner e) (m : ModuleSplit) :
    (m.carrying n').leftOverSplit n' = (m.leftOverSplit n).map (·.carrying n') := by
  have hunowned : n'.unowned (m.carrying n').entries = n.unowned m.entries :=
    NativeLibraries.unowned_of_owner_eq howner m.entries
  rw [leftOverSplit, leftOverSplit, hunowned]
  split
  · rfl
  · rfl

/-! ## The same pass -/

section Interchangeable

variable (h : n.Interchangeable n')
include h

theorem generated_of_interchangeable (policy : SplitPolicy) :
    n'.generated policy = n.generated policy := by
  rw [NativeLibraries.generated, NativeLibraries.generated, h.abis]

theorem abiSplits_carrying (m : ModuleSplit) (policy : SplitPolicy) :
    (m.carrying n').abiSplits n' policy = (m.abiSplits n policy).map (·.carrying n') := by
  rw [abiSplits, abiSplits, generated_of_interchangeable h, List.map_map]
  apply List.map_congr_left
  intro a _
  rw [h.ownEntries]
  rfl

/-- A pass under an interchangeable configuration is the same, except that the splits carry the
other configuration along. -/
theorem outcome_carrying (hm : m.Valid) (hn : m.nativeConfig = some n) (policy : SplitPolicy) :
    ((m.carrying n').splitByAbi policy).outcome =
      (m.splitByAbi policy).outcome.map (·.map (·.carrying n')) := by
  have hdivisible_iff : n'.Divisible policy ↔ n.Divisible policy := by
    rw [NativeLibraries.Divisible, NativeLibraries.Divisible, generated_of_interchangeable h]
  by_cases hdivisible : n.Divisible policy
  · have hs := (outcome_eq_ok_iff hm hn).2 ⟨hdivisible, rfl⟩
    have hs' := (outcome_eq_ok_iff (hm.carrying n') rfl).2 ⟨hdivisible_iff.2 hdivisible, rfl⟩
    rw [hs, hs', abiSplits_carrying h, leftOverSplit_carrying h.owner, Option.toList_map,
      ← List.map_append]
    rfl
  · rw [splitByAbi_of_not_divisible hn hdivisible,
      splitByAbi_of_not_divisible rfl (mt hdivisible_iff.1 hdivisible)]
    rfl

end Interchangeable

/-! ## The same entries -/

/-- Two divisions hand out the same entries: the same architectures get the same entries each, in
any order, and the same entries are left over, in the same order. -/
structure SameContents (abiSplits : List ModuleSplit) (leftOver : Option ModuleSplit)
    (abiSplits' : List ModuleSplit) (leftOver' : Option ModuleSplit) : Prop where
  abis : (abiSplits'.map ModuleSplit.abis).Perm (abiSplits.map ModuleSplit.abis)
  entries : ∀ s ∈ abiSplits, ∀ s' ∈ abiSplits', s'.abis = s.abis → s'.entries.Perm s.entries
  leftOver : leftOver'.map (·.entries) = leftOver.map (·.entries)

theorem sameContents_of_perm (m : ModuleSplit) (policy : SplitPolicy)
    (hperm : n'.directories.Perm n.directories) (howner : ∀ e, n'.owner e = n.owner e) :
    SameContents (m.abiSplits n policy) (m.leftOverSplit n)
      ((m.carrying n').abiSplits n' policy) ((m.carrying n').leftOverSplit n') where
  abis := by
    rw [(m.isDivision n policy).abis_eq, ((m.carrying n').isDivision n' policy).abis_eq]
    exact (NativeLibraries.generated_perm hperm policy).map _
  entries := by
    intro s hs s' hs' habis
    obtain ⟨a, -, rfl⟩ := mem_abiSplits.1 hs
    -- Both splits hold what their architecture owns, and it is the same architecture.
    rw [eq_abiSplit_of_mem hs' (habis.trans (abis_abiSplit m _ a _))]
    exact NativeLibraries.ownEntries_perm_of_owner_eq howner a m.entries
  leftOver := by
    rw [leftOverSplit_carrying howner, Option.map_map]
    rfl

/-- Modules that differ only in their directories. If paths are spelled otherwise, or a directory is
added below an earlier one of the same architecture, a pass has the same outcome, except for the
configuration that splits carry along. If the directories come in another order, and the
architectures still appear in the same order or have no place in common, then a pass succeeds as
before, each architecture gets the same entries, and the same entries are left over in the same
order. -/
theorem directories_rearranged (hm : m.Valid) (hn : m.nativeConfig = some n) (n' : NativeLibraries)
    (policy : SplitPolicy) :
    (n'.normalized = n.normalized ∨ n.Inserted n' →
      ((m.carrying n').splitByAbi policy).outcome =
        (m.splitByAbi policy).outcome.map (·.map (·.carrying n'))) ∧
    (n'.directories.Perm n.directories → n'.abis = n.abis ∨ n.Separated →
      ((∃ splits', ((m.carrying n').splitByAbi policy).outcome = .ok splits') ↔
        ∃ splits, (m.splitByAbi policy).outcome = .ok splits) ∧
      ∀ splits splits', (m.splitByAbi policy).outcome = .ok splits →
        ((m.carrying n').splitByAbi policy).outcome = .ok splits' →
        ∃ abiSplits leftOver abiSplits' leftOver',
          IsDivision n policy abiSplits leftOver splits ∧
          IsDivision n' policy abiSplits' leftOver' splits' ∧
          SameContents abiSplits leftOver abiSplits' leftOver') := by
  have hm' : (m.carrying n').Valid := hm.carrying n'
  have hn' : (m.carrying n').nativeConfig = some n' := rfl
  constructor
  · intro hsame
    have h : n.Interchangeable n' := by
      rcases hsame with hnormalized | hinserted
      · exact .of_normalized_eq hnormalized
      · exact .of_inserted hinserted
    exact outcome_carrying h hm hn policy
  · intro hperm horder
    constructor
    · rw [exists_outcome_eq_ok_iff hm' hn', exists_outcome_eq_ok_iff hm hn]
      exact NativeLibraries.divisible_perm_iff hperm policy
    · intro splits splits' hs hs'
      obtain ⟨-, rfl⟩ := (outcome_eq_ok_iff hm hn).1 hs
      obtain ⟨-, rfl⟩ := (outcome_eq_ok_iff hm' hn').1 hs'
      exact ⟨_, _, _, _, m.isDivision n policy, (m.carrying n').isDivision n' policy,
        sameContents_of_perm m policy hperm (NativeLibraries.owner_perm hperm horder)⟩

/-- The directories of `nestedModule`, spelled otherwise. -/
def respelledLibraries : NativeLibraries :=
  ⟨[⟨"/lib\\x86", ⟨.x86⟩⟩, ⟨"lib//", ⟨.arm64V8a⟩⟩, ⟨"lib/arm64/compat", ⟨.x86⟩⟩]⟩

/-- The directories of `nestedModule`, with one more below the second. -/
def refinedLibraries : NativeLibraries :=
  ⟨[⟨"lib/x86", ⟨.x86⟩⟩, ⟨"lib", ⟨.arm64V8a⟩⟩, ⟨"lib/arm64", ⟨.arm64V8a⟩⟩,
    ⟨"lib\\arm64/compat/", ⟨.x86⟩⟩]⟩

/-- The directories of `nestedModule` in another order, with `x86` still first. -/
def turnedLibraries : NativeLibraries :=
  ⟨[⟨"lib\\arm64/compat/", ⟨.x86⟩⟩, ⟨"lib/x86", ⟨.x86⟩⟩, ⟨"lib", ⟨.arm64V8a⟩⟩]⟩

/-- Two architectures whose directories are apart. -/
def separateLibraries : NativeLibraries :=
  ⟨[⟨"lib/x86", ⟨.x86⟩⟩, ⟨"lib/arm64", ⟨.arm64V8a⟩⟩]⟩

/-- Spelling and refinement change nothing. With the directories turned, `x86` finds its two entries
in the other order, and with separate directories even the architectures can change places. -/
theorem directories_rearranged_nestedModule :
    nestedModule.Valid ∧ (nestedModule.carrying separateLibraries).Valid ∧
      ((nestedModule.carrying respelledLibraries).splitByAbi {}).outcome =
        (nestedModule.splitByAbi {}).outcome.map (·.map (·.carrying respelledLibraries)) ∧
      ((nestedModule.carrying refinedLibraries).splitByAbi {}).outcome =
        (nestedModule.splitByAbi {}).outcome.map (·.map (·.carrying refinedLibraries)) ∧
      (∃ splits splits', (nestedModule.splitByAbi {}).outcome = .ok splits ∧
        ((nestedModule.carrying turnedLibraries).splitByAbi {}).outcome = .ok splits' ∧
        splits.map (·.entries.map (·.path)) =
          [["lib/x86/a.so", "lib/arm64/compat/b.so"], ["lib/arm64/c.so"], ["assets/icon"]] ∧
        splits'.map (·.entries.map (·.path)) =
          [["lib/arm64/compat/b.so", "lib/x86/a.so"], ["lib/arm64/c.so"], ["assets/icon"]] ∧
        ∃ abiSplits leftOver abiSplits' leftOver',
          IsDivision nestedLibraries {} abiSplits leftOver splits ∧
          IsDivision turnedLibraries {} abiSplits' leftOver' splits' ∧
          SameContents abiSplits leftOver abiSplits' leftOver') ∧
      ∃ splits, ((nestedModule.carrying ⟨separateLibraries.directories.reverse⟩).splitByAbi
        {}).outcome = .ok splits := by
  have hm := valid_nestedModule
  have hm' := hm.carrying separateLibraries
  have hrefined : nestedLibraries.Inserted refinedLibraries :=
    ⟨nestedLibraries.directories.take 2, ⟨"lib/arm64", ⟨.arm64V8a⟩⟩,
      nestedLibraries.directories.drop 2, rfl, rfl, ⟨"lib", ⟨.arm64V8a⟩⟩, by decide, rfl,
      by decide⟩
  have hturned : turnedLibraries.directories.Perm nestedLibraries.directories := by decide
  have hseparate : separateLibraries.Separated := by
    unfold NativeLibraries.Separated
    decide
  have hs : (nestedModule.splitByAbi {}).outcome = .ok _ := rfl
  have hs' : ((nestedModule.carrying turnedLibraries).splitByAbi {}).outcome = .ok _ := rfl
  refine ⟨hm, hm', (directories_rearranged hm rfl respelledLibraries {}).1 (.inl (by decide)),
    (directories_rearranged hm rfl refinedLibraries {}).1 (.inr hrefined),
    ⟨_, _, hs, hs', by decide, by decide, ?_⟩, ?_⟩
  · exact ((directories_rearranged hm rfl turnedLibraries {}).2 hturned (.inl (by decide))).2 _ _
      hs hs'
  · exact ((directories_rearranged hm' rfl ⟨separateLibraries.directories.reverse⟩ {}).2
      (List.reverse_perm _) (.inr hseparate)).1.2 ⟨_, rfl⟩

end ModuleSplit

end DeviceSplit
