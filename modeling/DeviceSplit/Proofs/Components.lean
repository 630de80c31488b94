import DeviceSplit.Proofs.ReadBack.Module

set_option autoImplicit false

/-! # Containment, name by name

`Path.contains` compares texts, and a path is a list of names. The two agree: a directory contains a
path exactly if the names of the directory come first among those of the path
(`contains_iff_components`). What the names of a text are is said without trimming or splitting, by
the texts that spell them (`Spells`), and every text spells exactly one list of names
(`components_eq_iff`). So containment is the prefix order of lists, and the way in which a path is
spelled does not matter to it. The main statement is `ModuleEntry.isUnder_componentwise`. -/

namespace DeviceSplit

namespace Path

/-! ## Names and separators -/

section Separated

variable {sep : Char} {a b : List Char} {names rest : List (List Char)}

theorem intercalate_append (hnames : names ≠ []) (hrest : rest ≠ []) :
    [sep].intercalate (names ++ rest) =
      [sep].intercalate names ++ sep :: [sep].intercalate rest := by
  induction names with
  | nil => exact absurd rfl hnames
  | cons n r ih =>
    cases r with
    | nil => simp [List.intercalate_cons_of_ne_nil hrest]
    | cons n' r' =>
      have happend := ih (List.cons_ne_nil n' r')
      rw [List.cons_append] at happend
      simp [happend]

theorem not_mem_of_mem_splitOn {name : List Char} (h : name ∈ a.splitOn sep) : sep ∉ name := by
  induction a generalizing name with
  | nil =>
    obtain rfl : name = [] := by simpa using h
    exact List.not_mem_nil
  | cons c r ih =>
    rw [List.splitOn_cons_eq_if_modifyHead] at h
    split at h
    · rcases List.mem_cons.1 h with rfl | h
      · exact List.not_mem_nil
      · exact ih h
    · next hc =>
      -- The character goes to the front of the first name, and the other names stay.
      obtain ⟨first, others, hsplit⟩ := List.exists_cons_of_ne_nil (List.splitOn_ne_nil sep r)
      rw [hsplit, List.modifyHead_cons] at h
      rcases List.mem_cons.1 h with rfl | h
      · have hfirst : sep ∉ first := ih (hsplit ▸ List.mem_cons_self)
        rw [List.mem_cons, not_or]
        exact ⟨fun hsep => hc (by simp [hsep]), hfirst⟩
      · exact ih (hsplit ▸ List.mem_cons_of_mem first h)

/-- The names in one text come first among those in another exactly if the other is the same, or goes
on with a separator. -/
theorem splitOn_prefix_splitOn_iff :
    a.splitOn sep <+: b.splitOn sep ↔ b = a ∨ a ++ [sep] <+: b := by
  constructor
  · rintro ⟨rest, hrest⟩
    have hb : [sep].intercalate (b.splitOn sep) = b := List.intercalate_splitOn sep
    rw [← hrest] at hb
    by_cases hnil : rest = []
    · rw [hnil, List.append_nil, List.intercalate_splitOn] at hb
      exact Or.inl hb.symm
    · rw [intercalate_append (List.splitOn_ne_nil sep a) hnil, List.intercalate_splitOn] at hb
      exact Or.inr ⟨[sep].intercalate rest, by rw [← hb, List.append_assoc, List.singleton_append]⟩
  · rintro (rfl | ⟨rest, rfl⟩)
    · exact List.prefix_refl _
    · rw [List.append_assoc, List.singleton_append, List.splitOn_append_cons_self]
      exact List.prefix_append _ _

/-- The first name is not empty exactly if something else than a separator comes first. -/
theorem head?_ne_some_nil_iff (hnames : names ≠ []) (hsep : ∀ n ∈ names, sep ∉ n) :
    names.head? ≠ some [] ↔ ∃ c, ([sep].intercalate names).head? = some c ∧ c ≠ sep := by
  cases names with
  | nil => exact absurd rfl hnames
  | cons n r =>
    cases n with
    | nil => cases r <;> simp
    | cons c n' =>
      have hc : c ≠ sep := by
        rintro rfl
        exact hsep _ List.mem_cons_self List.mem_cons_self
      cases r <;> simpa

theorem getLast?_ne_some_nil_iff (hnames : names ≠ []) (hsep : ∀ n ∈ names, sep ∉ n) :
    names.getLast? ≠ some [] ↔ ∃ c, ([sep].intercalate names).getLast? = some c ∧ c ≠ sep := by
  obtain ⟨init, n, rfl⟩ := (List.eq_nil_or_concat' names).resolve_left hnames
  have hwhole : ∃ start, [sep].intercalate (init ++ [n]) = start ++ n ∧
      (start = [] ∨ start.getLast? = some sep) := by
    by_cases hinit : init = []
    · exact ⟨[], by simp [hinit], Or.inl rfl⟩
    · exact ⟨[sep].intercalate init ++ [sep], by simp [intercalate_append hinit], Or.inr (by simp)⟩
  obtain ⟨start, hwhole, hstart⟩ := hwhole
  rcases List.eq_nil_or_concat' n with rfl | ⟨m, c, rfl⟩
  · rcases hstart with rfl | hstart <;> simp_all
  · have hc : c ≠ sep := by
      rintro rfl
      exact hsep (m ++ [c]) (by simp) (by simp)
    simp [hwhole, ← List.append_assoc, hc]

end Separated

/-! ## The names that a text spells -/

/-- A text spells some names: slashes of either kind stand between them, and any number of slashes at
the ends. A name is empty where slashes follow each other, but never at the ends. -/
structure Spells (s : String) (names : List (List Char)) : Prop where
  slashFree : ∀ n ∈ names, '/' ∉ n
  first : names.head? ≠ some []
  last : names.getLast? ≠ some []
  text : ∃ before after, s.toList.map forward =
    List.replicate before '/' ++ ['/'].intercalate names ++ List.replicate after '/'

variable {s path directory : String} {names : List (List Char)}

theorem Spells.normalizeChars_eq (h : Spells s names) :
    normalizeChars s.toList = ['/'].intercalate names := by
  obtain ⟨before, after, htext⟩ := h.text
  rw [normalizeChars, htext, trimBy_append (by simp) (by simp)]
  by_cases hnames : names = []
  · rw [hnames]
    rfl
  obtain ⟨c, hc, hslash⟩ := (head?_ne_some_nil_iff hnames h.slashFree).1 h.first
  obtain ⟨c', hc', hslash'⟩ := (getLast?_ne_some_nil_iff hnames h.slashFree).1 h.last
  apply Text.trimBy_eq_self
  · rw [hc]
    rintro _ ⟨⟩
    exact beq_eq_false_iff_ne.2 hslash
  · rw [hc']
    rintro _ ⟨⟩
    exact beq_eq_false_iff_ne.2 hslash'

theorem components_of_eq_nil (h : normalizeChars s.toList = []) : components s = [] := by
  rw [components, h]

theorem components_of_ne_nil (h : normalizeChars s.toList ≠ []) :
    components s = (normalizeChars s.toList).splitOn '/' := by
  unfold components
  split
  · contradiction
  · rfl

theorem components_eq_nil_iff : components s = [] ↔ normalizeChars s.toList = [] := by
  constructor
  · intro h
    by_contra hne
    rw [components_of_ne_nil hne] at h
    exact List.splitOn_ne_nil _ _ h
  · exact components_of_eq_nil

/-- The slashes that are trimmed off stand at the ends, and the names in between are free of them. -/
theorem spells_components (s : String) : Spells s (components s) := by
  obtain ⟨before, after, htext, hbefore, hafter⟩ :=
    exists_trimBy (· == '/') (s.toList.map forward)
  have hslashes {cs : List Char} (h : ∀ c ∈ cs, (c == '/') = true) :
      cs = List.replicate cs.length '/' :=
    List.eq_replicate_of_mem fun c hc => beq_iff_eq.1 (h c hc)
  have hspelled : s.toList.map forward = List.replicate before.length '/' ++
      normalizeChars s.toList ++ List.replicate after.length '/' := by
    rw [← hslashes hbefore, ← hslashes hafter]
    exact htext
  by_cases hnil : normalizeChars s.toList = []
  · rw [components_of_eq_nil hnil]
    exact ⟨by simp, by simp, by simp, _, _, by rw [hspelled, hnil]; rfl⟩
  have hne : components s ≠ [] := mt components_eq_nil_iff.1 hnil
  have hjoin : ['/'].intercalate (components s) = normalizeChars s.toList := by
    rw [components_of_ne_nil hnil, List.intercalate_splitOn]
  have hfree : ∀ n ∈ components s, '/' ∉ n := by
    rw [components_of_ne_nil hnil]
    exact fun n => not_mem_of_mem_splitOn
  refine ⟨hfree, ?_, ?_, _, _, hjoin ▸ hspelled⟩
  · rw [head?_ne_some_nil_iff hne hfree, hjoin]
    obtain ⟨c, hc⟩ := Option.isSome_iff_exists.1 (List.isSome_head?.2 hnil)
    exact ⟨c, hc, beq_eq_false_iff_ne.1 (head?_trimBy_not (p := (· == '/')) hc)⟩
  · rw [getLast?_ne_some_nil_iff hne hfree, hjoin]
    have hc := List.getLast?_eq_some_getLast hnil
    exact ⟨_, hc, beq_eq_false_iff_ne.1 (getLast?_trimBy_not (p := (· == '/')) hc)⟩

/-- The names that a text goes through are those that it spells. -/
theorem components_eq_iff : components s = names ↔ Spells s names := by
  constructor
  · rintro rfl
    exact spells_components s
  · intro h
    by_cases hnames : names = []
    · rw [hnames, components_eq_nil_iff, h.normalizeChars_eq, hnames]
      rfl
    · obtain ⟨c, hc, -⟩ := (head?_ne_some_nil_iff hnames h.slashFree).1 h.first
      have hne : normalizeChars s.toList ≠ [] := by
        rw [h.normalizeChars_eq]
        rintro hempty
        simp [hempty] at hc
      rw [components_of_ne_nil hne, h.normalizeChars_eq,
        List.splitOn_intercalate '/' h.slashFree hnames]

theorem normalize_eq_of_components_eq (h : components s = components path) :
    normalize s = normalize path := by
  have hs := (spells_components s).normalizeChars_eq
  rw [normalize, normalize, hs, h, (spells_components path).normalizeChars_eq]

/-! ## Containment -/

/-- Whether a path is a directory or lies below it, both in any spelling. -/
def isUnder (path directory : String) : Bool :=
  contains (normalizeChars directory.toList) (normalizeChars path.toList)

/-- A directory is over the paths whose names begin with its own. -/
theorem isUnder_iff : isUnder path directory = true ↔ components directory <+: components path := by
  rw [isUnder, contains_iff]
  by_cases hd : normalizeChars directory.toList = []
  · rw [components_of_eq_nil hd]
    exact iff_of_true (Or.inl hd) List.nil_prefix
  by_cases hp : normalizeChars path.toList = []
  · rw [components_of_eq_nil hp, List.prefix_nil, components_eq_nil_iff, hp]
    simp only [hd, false_or, iff_false, not_or]
    exact ⟨Ne.symm hd, by simp⟩
  · rw [components_of_ne_nil hd, components_of_ne_nil hp, splitOn_prefix_splitOn_iff]
    exact or_iff_right hd

theorem eq_of_isUnder (h : isUnder s path = true) (h' : isUnder path s = true) :
    normalize s = normalize path := by
  rw [isUnder_iff] at h h'
  exact normalize_eq_of_components_eq
    (h'.eq_of_length (Nat.le_antisymm h'.length_le h.length_le))

end Path

namespace ModuleEntry

open DeviceSplit.Path

theorem readPath_eq_ok_iff {s p : String} :
    readPath (.text s) = .ok p ↔ p ≠ "" ∧ p = normalize s := by
  rw [readPath, readText, Checked.andThen_ok]
  split
  · next hempty => simp [hempty, Checked.reject]
  · next hempty =>
    rw [Checked.ok.injEq]
    constructor
    · rintro rfl
      exact ⟨hempty, rfl⟩
    · exact fun h => h.2.symm

/-- An entry lies where the path lies that it was given. -/
theorem isUnder_of_readPath {e : ModuleEntry} {p : String} (h : readPath (.text p) = .ok e.path)
    (directory : String) : e.isUnder directory = Path.isUnder p directory := by
  rw [ModuleEntry.isUnder, Path.isUnder, (readPath_eq_ok_iff.1 h).2, toList_normalize]

theorem Valid.isUnder_eq {e : ModuleEntry} (he : e.Valid) (directory : String) :
    e.isUnder directory = Path.isUnder e.path directory :=
  isUnder_of_readPath (readPath_eq_ok_iff.2 ⟨he.1, he.2.symm⟩) directory

/-- An entry is under a directory exactly if the names that the directory spells come first among
those that the path of the entry spells. It does not matter how the directory or the path that the
entry was given are spelled. Paths are ordered in this way: each is under itself, two that are under
each other have one normal spelling, and what is under a directory is under the directories over it.
Of two directories over one entry, one is under the other. -/
theorem isUnder_componentwise :
    (∀ s names, components s = names ↔ Spells s names) ∧
    (∀ e : ModuleEntry, e.Valid → ∀ directory,
      (e.isUnder directory = true ↔ components directory <+: components e.path)) ∧
    (∀ e : ModuleEntry, ∀ p, readPath (.text p) = .ok e.path → ∀ directory,
      e.isUnder directory = Path.isUnder p directory) ∧
    (∀ p, Path.isUnder p p = true) ∧
    (∀ p q, Path.isUnder p q = true → Path.isUnder q p = true → normalize p = normalize q) ∧
    (∀ p q r, Path.isUnder p q = true → Path.isUnder q r = true → Path.isUnder p r = true) ∧
    (∀ p p' q q' names names', Spells p names → Spells p' names → Spells q names' →
      Spells q' names' → Path.isUnder p q = Path.isUnder p' q') ∧
    ∀ e : ModuleEntry, ∀ p q, e.isUnder p = true → e.isUnder q = true →
      Path.isUnder p q = true ∨ Path.isUnder q p = true := by
  refine ⟨fun _ _ => components_eq_iff, ?_, fun _ _ => isUnder_of_readPath, ?_,
    fun _ _ => eq_of_isUnder, ?_, ?_, ?_⟩
  · intro e he directory
    rw [he.isUnder_eq, isUnder_iff]
  · intro p
    exact isUnder_iff.2 (List.prefix_refl _)
  · intro p q r hpq hqr
    rw [isUnder_iff] at hpq hqr ⊢
    exact hqr.trans hpq
  · intro p p' q q' names names' hp hp' hq hq'
    rw [Path.isUnder, Path.isUnder, hp.normalizeChars_eq, hp'.normalizeChars_eq,
      hq.normalizeChars_eq, hq'.normalizeChars_eq]
  · intro e p q hp hq
    exact contains_or_contains hq hp

/-- Empty names count as names, and a name that begins like another one is another name. -/
theorem isUnder_componentwise_respelled :
    let e : ModuleEntry := ⟨"lib/x86//a.so", []⟩
    let given := "/lib\\x86//a.so\\"
    readPath (.text given) = .ok e.path ∧
      Spells given [['l', 'i', 'b'], ['x', '8', '6'], [], ['a', '.', 's', 'o']] ∧
      (e.isUnder "\\lib/x86/" = true ∧ e.isUnder "//" = true ∧ e.isUnder "lib/x8" = false ∧
        e.isUnder "lib/x86/a.so" = false) ∧
      (Path.isUnder "\\lib/x86/" "//" = true ∨ Path.isUnder "//" "\\lib/x86/" = true) := by
  intro e given
  have hread : readPath (.text "/lib\\x86//a.so\\") = .ok "lib/x86//a.so" := by decide
  have hvalid : e.Valid :=
    show "lib/x86//a.so" ≠ "" ∧ normalize "lib/x86//a.so" = "lib/x86//a.so" by decide
  obtain ⟨hnames, hunder, hgiven, -, -, -, -, hforest⟩ := isUnder_componentwise
  have hfirst : e.isUnder "\\lib/x86/" = true := (hunder e hvalid _).2 (by decide)
  have hroot : e.isUnder "//" = true := (hunder e hvalid _).2 (by decide)
  have hnot : ¬e.isUnder "lib/x8" = true := mt (hunder e hvalid _).1 (by decide)
  refine ⟨hread, (hnames _ _).1 (by decide), ⟨hfirst, hroot, Bool.eq_false_iff.2 hnot, ?_⟩,
    hforest e _ _ hfirst hroot⟩
  rw [hgiven e given hread]
  decide

end ModuleEntry

end DeviceSplit
