import DeviceSplit.Proofs.AbiSplit.Division

set_option autoImplicit false

/-! # What the splits of a module look like

A split for an architecture keeps what its module says, apart from the architecture that it is for
and the marks of a split that is not for every device (`IsSplitFor`). Its entries come by the
directories of the architecture, and within one directory as they stand in the module
(`pairwise_entriesUnderAny`). What is left over looks like the module with fewer entries. The main
statement is `division_shape`. -/

namespace DeviceSplit

/-! ## The order of entries -/

/-- The position of the first of some directories that an entry lies under. -/
def ModuleEntry.firstUnder (e : ModuleEntry) (directories : List String) : Nat :=
  directories.findIdx e.isUnder

theorem ModuleEntry.firstUnder_cons_of_isUnder {e : ModuleEntry} {p : String}
    (directories : List String) (he : e.isUnder p = true) :
    e.firstUnder (p :: directories) = 0 := by
  rw [firstUnder, List.findIdx_cons, he]
  rfl

theorem ModuleEntry.firstUnder_cons_of_not_isUnder {e : ModuleEntry} {p : String}
    (directories : List String) (he : e.isUnder p = false) :
    e.firstUnder (p :: directories) = e.firstUnder directories + 1 := by
  rw [firstUnder, List.findIdx_cons, he]
  rfl

/-- Entries under several directories come by the first directory that they lie under. Within one
directory they keep any order `R` that they had. -/
theorem pairwise_entriesUnderAny {R : ModuleEntry → ModuleEntry → Prop} (directories : List String)
    {es : List ModuleEntry} (hnodup : es.Nodup) (hR : es.Pairwise R) :
    (entriesUnderAny directories es).Pairwise fun e f =>
      e.firstUnder directories < f.firstUnder directories ∨
        e.firstUnder directories = f.firstUnder directories ∧ R e f := by
  induction directories generalizing es with
  | nil => exact List.Pairwise.nil
  | cons p r ih =>
    have hhere : (es.filter (·.isUnder p)).eraseDups = es.filter (·.isUnder p) :=
      eraseDups_eq_self (hnodup.filter _)
    rw [entriesUnderAny_cons, hhere, List.pairwise_append]
    refine ⟨?_, ?_, ?_⟩
    · -- Under `p` itself only the order of the module counts.
      refine List.Pairwise.imp_of_mem ?_ (hR.filter _)
      intro e f he hf hef
      have he0 := ModuleEntry.firstUnder_cons_of_isUnder r (List.mem_filter.1 he).2
      have hf0 := ModuleEntry.firstUnder_cons_of_isUnder r (List.mem_filter.1 hf).2
      exact Or.inr ⟨he0.trans hf0.symm, hef⟩
    · refine List.Pairwise.imp_of_mem ?_ (ih (hnodup.filter fun e => !e.isUnder p) (hR.filter _))
      intro e f he hf hef
      have hep : e.isUnder p = false := by
        simpa using (List.mem_filter.1 (mem_entriesUnderAny.1 he).1).2
      have hfp : f.isUnder p = false := by
        simpa using (List.mem_filter.1 (mem_entriesUnderAny.1 hf).1).2
      rw [ModuleEntry.firstUnder_cons_of_not_isUnder r hep,
        ModuleEntry.firstUnder_cons_of_not_isUnder r hfp]
      rcases hef with hlt | ⟨heq, hef⟩
      · exact Or.inl (Nat.succ_lt_succ hlt)
      · exact Or.inr ⟨congrArg (· + 1) heq, hef⟩
    · intro e he f hf
      have hep := (List.mem_filter.1 he).2
      have hfp : f.isUnder p = false := by
        simpa using (List.mem_filter.1 (mem_entriesUnderAny.1 hf).1).2
      rw [ModuleEntry.firstUnder_cons_of_isUnder r hep,
        ModuleEntry.firstUnder_cons_of_not_isUnder r hfp]
      exact Or.inl (Nat.succ_pos _)

namespace ModuleSplit

variable {m s : ModuleSplit} {n : NativeLibraries} {policy : SplitPolicy}
  {splits : List ModuleSplit} {a : Abi}

/-- A split for one architecture, as it is made from a module. -/
structure IsSplitFor (s m : ModuleSplit) (n : NativeLibraries) (policy : SplitPolicy) (a : Abi) :
    Prop where
  moduleName : s.moduleName = m.moduleName
  nativeConfig : s.nativeConfig = m.nativeConfig
  masterSplit : s.masterSplit = false
  mutators : s.masterManifestMutators = m.masterManifestMutators ++ [.splitsRequired]
  otherDimensions : ∀ d, d ≠ .abi → s.apkTargeting.get d = m.apkTargeting.get d
  /-- Whatever the module said about architectures is replaced. -/
  abiDimension : s.apkTargeting.get .abi =
    some ⟨.single a, SortedSet.ofList (n.generated policy) \ SortedSet.single a⟩
  mem_entries : ∀ e, e ∈ s.entries ↔ e ∈ m.entries ∧ n.owner e = some a
  /-- By the first directory of the architecture, and within a directory as in the module. -/
  entries_order : s.entries.Pairwise fun e f =>
    e.firstUnder (n.pathsOf a) < f.firstUnder (n.pathsOf a) ∨
      e.firstUnder (n.pathsOf a) = f.firstUnder (n.pathsOf a) ∧
        m.entries.idxOf e < m.entries.idxOf f

theorem isSplitFor_abiSplit (hm : m.Valid) (n : NativeLibraries) (policy : SplitPolicy) (a : Abi) :
    (m.abiSplit (.ofList (n.generated policy)) a (n.ownEntries a m.entries)).IsSplitFor
      m n policy a where
  moduleName := rfl
  nativeConfig := rfl
  masterSplit := rfl
  mutators := rfl
  otherDimensions := fun _ hd => get_abiSplit_of_ne m _ a _ hd
  abiDimension := get_abi_abiSplit m _ a _
  mem_entries := fun _ => NativeLibraries.mem_ownEntries
  entries_order := pairwise_entriesUnderAny _ (hm.nodup_entries.filter _)
    ((pairwise_idxOf hm.nodup_entries).filter _)

/-! ## What is left over -/

theorem unowned_eq_filter (n : NativeLibraries) (es : List ModuleEntry) :
    n.unowned es = es.filter fun e => n.directories.all fun d => !e.isUnder d.path := by
  refine List.filter_congr fun e _ => ?_
  rw [Bool.eq_iff_iff, decide_eq_true_eq, NativeLibraries.owner_eq_none_iff]
  simp

theorem isSome_leftOverSplit_iff :
    (m.leftOverSplit n).isSome = true ↔
      ∃ e ∈ m.entries, ∀ d ∈ n.directories, e.isUnder d.path = false := by
  rw [Option.isSome_iff_exists]
  constructor
  · rintro ⟨l, hl⟩
    obtain ⟨hne, -⟩ := leftOverSplit_eq_some_iff.1 hl
    obtain ⟨e, he⟩ := List.exists_mem_of_ne_nil _ hne
    obtain ⟨hmem, howner⟩ := NativeLibraries.mem_unowned.1 he
    exact ⟨e, hmem, NativeLibraries.owner_eq_none_iff.1 howner⟩
  · rintro ⟨e, hmem, houtside⟩
    have he := NativeLibraries.mem_unowned.2 ⟨hmem, NativeLibraries.owner_eq_none_iff.2 houtside⟩
    exact ⟨_, leftOverSplit_eq_some_iff.2 ⟨List.ne_nil_of_mem he, rfl⟩⟩

/-! ## The whole result -/

/-- Nothing comes out only if nothing goes in: without directories there are no architectures, and
then every entry is left over. -/
theorem splits_eq_nil_iff (h : n.Divisible policy) :
    m.abiSplits n policy ++ (m.leftOverSplit n).toList = [] ↔
      n.directories = [] ∧ m.entries = [] := by
  rw [List.append_eq_nil_iff, Option.toList_eq_nil_iff, abiSplits, List.map_eq_nil_iff]
  constructor
  · rintro ⟨hgenerated, hleft⟩
    -- Since nothing is generated and yet the pass is not refused, nothing is ruled out.
    have hon : policy.include64Bit = true := h.resolve_right fun hne => hne hgenerated
    have hdirectories : n.directories = [] := by
      rw [List.eq_nil_iff_forall_not_mem]
      intro d hd
      have hmem : d.abi ∈ n.generated policy :=
        NativeLibraries.mem_generated.2
          ⟨NativeLibraries.mem_abis.2 ⟨d, hd, rfl⟩, by simp [SplitPolicy.generates, hon]⟩
      rw [hgenerated] at hmem
      exact List.not_mem_nil hmem
    refine ⟨hdirectories, ?_⟩
    rw [List.eq_nil_iff_forall_not_mem]
    intro e he
    have hsome : (m.leftOverSplit n).isSome = true :=
      isSome_leftOverSplit_iff.2 ⟨e, he, by simp [hdirectories]⟩
    simp [hleft] at hsome
  · rintro ⟨hdirectories, hentries⟩
    have habis : n.abis = [] := by rw [NativeLibraries.abis, hdirectories]; rfl
    have hunowned : n.unowned m.entries = [] := by rw [hentries]; rfl
    exact ⟨by rw [NativeLibraries.generated, habis]; rfl, if_pos hunowned⟩

/-- What a pass gives. A module without native libraries is given back. Otherwise there is one split
for each generated architecture, in the order in which the architectures first appear, also for one
whose entries all went to others; then the left-over, exactly if some entry lies under no directory,
which is the module with these entries in their order. There are no splits at all only for a module
without directories and without entries. -/
theorem division_shape (hm : m.Valid) (hs : (m.splitByAbi policy).outcome = .ok splits) :
    (m.nativeConfig = none → splits = [m]) ∧
    (∀ n, m.nativeConfig = some n →
      ∃ abiSplits leftOver, IsDivision n policy abiSplits leftOver splits ∧
        (∀ s ∈ abiSplits, ∀ a, s.abis = .single a → s.IsSplitFor m n policy a) ∧
        (leftOver.isSome = true ↔
          ∃ e ∈ m.entries, ∀ d ∈ n.directories, e.isUnder d.path = false) ∧
        ∀ l, leftOver = some l →
          l = { m with
            entries := m.entries.filter fun e => n.directories.all fun d => !e.isUnder d.path }) ∧
    (splits = [] ↔ ∃ n, m.nativeConfig = some n ∧ n.directories = [] ∧ m.entries = []) := by
  rcases m.nativeConfig.eq_none_or_eq_some with hn | ⟨n, hn⟩
  · rw [splitByAbi_of_none hn] at hs
    obtain rfl := Except.ok.inj hs
    refine ⟨fun _ => rfl, ?_, ?_⟩
    · intro n hn'
      exact nomatch hn.symm.trans hn'
    · simp [hn]
  · obtain ⟨hdivisible, rfl⟩ := (outcome_eq_ok_iff hm hn).1 hs
    refine ⟨?_, ?_, ?_⟩
    · intro hnone
      exact nomatch hn.symm.trans hnone
    · intro n' hn'
      obtain rfl := Option.some.inj (hn.symm.trans hn')
      refine ⟨m.abiSplits n policy, m.leftOverSplit n, m.isDivision n policy, ?_,
        isSome_leftOverSplit_iff, ?_⟩
      · intro s hsmem a ha
        rw [eq_abiSplit_of_mem hsmem ha]
        exact isSplitFor_abiSplit hm n policy a
      · intro l hl
        obtain ⟨-, rfl⟩ := leftOverSplit_eq_some_iff.1 hl
        rw [unowned_eq_filter]
    · rw [splits_eq_nil_iff hdivisible]
      simp [hn]

/-- A module that names an architecture itself, with a directory below that of another one. -/
def shadowedModule : ModuleSplit where
  apkTargeting := { abi := some ⟨.single .mips64, ∅⟩ }
  entries := [⟨"lib/mips/b.so", []⟩, ⟨"res/icon", [7]⟩, ⟨"lib/a.so", [1]⟩]
  nativeConfig := some ⟨[⟨"lib", ⟨.x86⟩⟩, ⟨"lib/mips", ⟨.mips⟩⟩]⟩

theorem valid_shadowedModule : shadowedModule.Valid where
  targeting := by
    intro d x hx
    cases d with
    | abi =>
      obtain rfl := Option.some.inj hx
      exact ⟨rfl, by decide, fun _ _ => trivial, fun _ _ => trivial⟩
    | _ => exact nomatch hx
  entries := show ∀ e ∈ shadowedModule.entries, e.path ≠ "" ∧ Path.normalize e.path = e.path by decide
  distinctPaths := by decide

/-- The split for `mips` has no entries and is made all the same; the one for `x86` has its entries
in the order of the module and forgets `mips64`. Without a configuration the module is given back. -/
theorem division_shape_shadowedModule :
    shadowedModule.Valid ∧
      (∃ n splits, shadowedModule.nativeConfig = some n ∧
        (shadowedModule.splitByAbi {}).outcome = .ok splits ∧
        splits.map (·.entries.map (·.path)) =
          [["lib/mips/b.so", "lib/a.so"], [], ["res/icon"]] ∧
        ∃ abiSplits leftOver, IsDivision n {} abiSplits leftOver splits ∧
          (∀ s ∈ abiSplits, ∀ a, s.abis = .single a → s.IsSplitFor shadowedModule n {} a) ∧
          leftOver.isSome = true) ∧
      ({ shadowedModule with nativeConfig := none }.splitByAbi {}).outcome =
        .ok [{ shadowedModule with nativeConfig := none }] := by
  have hs : (shadowedModule.splitByAbi {}).outcome = .ok _ := rfl
  have hshape := division_shape valid_shadowedModule hs
  obtain ⟨abiSplits, leftOver, hdivision, hfor, hsome, -⟩ := hshape.2.1 _ rfl
  have hm : { shadowedModule with nativeConfig := none }.Valid :=
    ⟨valid_shadowedModule.targeting, valid_shadowedModule.entries,
      valid_shadowedModule.distinctPaths⟩
  have hs' : ({ shadowedModule with nativeConfig := none }.splitByAbi {}).outcome = .ok _ := rfl
  have hback := (division_shape hm hs').1 rfl
  refine ⟨valid_shadowedModule,
    ⟨_, _, rfl, hs, by decide, abiSplits, leftOver, hdivision, hfor, ?_⟩,
    hs'.trans (congrArg Except.ok hback)⟩
  exact hsome.2 ⟨⟨"res/icon", [7]⟩, by decide, by decide⟩

end ModuleSplit

end DeviceSplit
