import DeviceSplit.AbiSplit.Claim
import DeviceSplit.Proofs.FirstAppearance

set_option autoImplicit false

/-! # Who owns an entry

Claiming goes turn by turn and remembers what is claimed; ownership is a property of a single
entry. This file shows that they agree: after all turns an architecture has got exactly the entries
that it owns (`owned_claims`), and what nobody has claimed is what nobody owns
(`leftOver_claims`). The invariant of the turns is `Claims.HandedOut`: the claimed entries are those
with an owner among the architectures that had their turn. -/

namespace DeviceSplit

/-! ## Entries under directories -/

/-- Whether an entry lies under one of several directories. -/
def ModuleEntry.isUnderAny (e : ModuleEntry) (directories : List String) : Bool :=
  directories.any e.isUnder

theorem mem_entriesUnderAny {directories : List String} {es : List ModuleEntry} {e : ModuleEntry} :
    e ∈ entriesUnderAny directories es ↔ e ∈ es ∧ e.isUnderAny directories = true := by
  simp only [entriesUnderAny, List.mem_eraseDups, List.mem_flatMap, List.mem_filter,
    ModuleEntry.isUnderAny, List.any_eq_true]
  constructor
  · rintro ⟨p, hp, he, hunder⟩
    exact ⟨he, p, hp, hunder⟩
  · rintro ⟨he, p, hp, hunder⟩
    exact ⟨p, hp, he, hunder⟩

theorem nodup_entriesUnderAny (directories : List String) (es : List ModuleEntry) :
    (entriesUnderAny directories es).Nodup :=
  nodup_eraseDups _

/-- Looking under directories commutes with leaving entries out. -/
theorem entriesUnderAny_filter (q : ModuleEntry → Bool) (directories : List String)
    (es : List ModuleEntry) :
    entriesUnderAny directories (es.filter q) = (entriesUnderAny directories es).filter q := by
  rw [entriesUnderAny, entriesUnderAny, ← eraseDups_filter, List.filter_flatMap]
  refine congrArg (fun f => (directories.flatMap f).eraseDups) ?_
  funext p
  rw [List.filter_filter, List.filter_filter]
  exact List.filter_congr fun e _ => Bool.and_comm _ _

/-- The first directory gives what lies under it; the others give only what does not. -/
theorem entriesUnderAny_cons (p : String) (directories : List String) (es : List ModuleEntry) :
    entriesUnderAny (p :: directories) es =
      (es.filter (·.isUnder p)).eraseDups ++
        entriesUnderAny directories (es.filter fun e => !e.isUnder p) := by
  -- An entry of a later directory repeats one of `p` exactly when it lies under `p` too.
  have hrest : (directories.flatMap fun q => es.filter (·.isUnder q)).removeAll
      (es.filter (·.isUnder p)) =
        (directories.flatMap fun q => es.filter (·.isUnder q)).filter fun e => !e.isUnder p := by
    rw [List.removeAll]
    refine List.filter_congr fun e he => ?_
    obtain ⟨q, -, heq⟩ := List.mem_flatMap.1 he
    have hmem : e ∈ es := (List.mem_filter.1 heq).1
    simp [hmem]
  rw [entriesUnderAny_filter, entriesUnderAny, entriesUnderAny, List.flatMap_cons,
    List.eraseDups_append, hrest, eraseDups_filter fun e : ModuleEntry => !e.isUnder p]

/-- Entries in the order of the directories stay in that order when they are looked up again. -/
theorem entriesUnderAny_self (directories : List String) (es : List ModuleEntry) :
    entriesUnderAny directories (entriesUnderAny directories es) =
      entriesUnderAny directories es := by
  induction directories generalizing es with
  | nil => rfl
  | cons p r ih =>
    -- The result has what lies under `p` in front and nothing under `p` after that, so looking
    -- under `p` again finds the front, and the rest is left to the other directories.
    let here := (es.filter (·.isUnder p)).eraseDups
    let below := entriesUnderAny r (es.filter fun e => !e.isUnder p)
    have hhere : ∀ e ∈ here, e.isUnder p = true := fun e he =>
      (List.mem_filter.1 (List.mem_eraseDups.1 he)).2
    have hbelow : ∀ e ∈ below, e.isUnder p = false := fun e he => by
      simpa using (List.mem_filter.1 (mem_entriesUnderAny.1 he).1).2
    have hunder : (here ++ below).filter (·.isUnder p) = here := by
      rw [List.filter_append, List.filter_eq_self.2 hhere,
        List.filter_eq_nil_iff.2 fun e he => by simp [hbelow e he], List.append_nil]
    have hother : (here ++ below).filter (fun e => !e.isUnder p) = below := by
      rw [List.filter_append, List.filter_eq_nil_iff.2 fun e he => by simp [hhere e he],
        List.filter_eq_self.2 fun e he => by simp [hbelow e he], List.nil_append]
    rw [entriesUnderAny_cons p r es]
    change entriesUnderAny (p :: r) (here ++ below) = here ++ below
    rw [entriesUnderAny_cons, hunder, hother, eraseDups_eq_self (nodup_eraseDups _), ih]

/-! ## Ownership -/

namespace NativeLibraries

variable {n : NativeLibraries} {a : Abi} {e : ModuleEntry} {es : List ModuleEntry}

theorem nodup_abis (n : NativeLibraries) : n.abis.Nodup := nodup_eraseDups _

/-- The first architecture that has a directory over an entry. -/
def owner (n : NativeLibraries) (e : ModuleEntry) : Option Abi :=
  n.abis.find? fun a => e.isUnderAny (n.pathsOf a)

/-- The first of some architectures that has a directory over an entry. -/
def ownerAmong (n : NativeLibraries) (abis : List Abi) (e : ModuleEntry) : Option Abi :=
  abis.find? fun a => e.isUnderAny (n.pathsOf a)

theorem mem_of_ownerAmong {abis : List Abi} (h : n.ownerAmong abis e = some a) : a ∈ abis :=
  List.mem_of_find?_eq_some h

theorem isUnderAny_of_ownerAmong {abis : List Abi} (h : n.ownerAmong abis e = some a) :
    e.isUnderAny (n.pathsOf a) = true := by
  have hunder := List.find?_some h
  exact hunder

theorem isUnderAny_pathsOf_iff :
    e.isUnderAny (n.pathsOf a) = true ↔ ∃ d ∈ n.directories, d.abi = a ∧ e.isUnder d.path = true := by
  simp only [ModuleEntry.isUnderAny, List.any_eq_true, mem_pathsOf]
  constructor
  · rintro ⟨p, ⟨d, hd, ha, rfl⟩, hunder⟩
    exact ⟨d, hd, ha, hunder⟩
  · rintro ⟨d, hd, ha, hunder⟩
    exact ⟨d.path, ⟨d, hd, ha, rfl⟩, hunder⟩

/-- An entry has no owner exactly if it lies under no directory at all. -/
theorem owner_eq_none_iff : n.owner e = none ↔ ∀ d ∈ n.directories, e.isUnder d.path = false := by
  rw [owner, List.find?_eq_none]
  constructor
  · intro hnone d hd
    rw [← Bool.not_eq_true]
    intro hunder
    exact hnone d.abi (mem_abis.2 ⟨d, hd, rfl⟩) (isUnderAny_pathsOf_iff.2 ⟨d, hd, rfl, hunder⟩)
  · intro hall a _ hunder
    obtain ⟨d, hd, -, hd'⟩ := isUnderAny_pathsOf_iff.1 hunder
    rw [hall d hd] at hd'
    exact nomatch hd'

/-- One more architecture owns what lies under its directories and had no owner before. -/
theorem ownerAmong_concat (n : NativeLibraries) (abis : List Abi) (a : Abi) (e : ModuleEntry) :
    n.ownerAmong (abis ++ [a]) e =
      (n.ownerAmong abis e).or (if e.isUnderAny (n.pathsOf a) then some a else none) := by
  rw [ownerAmong, ownerAmong, List.find?_append, List.find?_singleton]

/-- The entries that an architecture owns, in the order of its directories. -/
def ownEntries (n : NativeLibraries) (a : Abi) (es : List ModuleEntry) : List ModuleEntry :=
  entriesUnderAny (n.pathsOf a) (es.filter fun e => n.owner e = some a)

/-- The entries that no architecture owns. -/
def unowned (n : NativeLibraries) (es : List ModuleEntry) : List ModuleEntry :=
  es.filter fun e => n.owner e = none

theorem mem_ownEntries : e ∈ n.ownEntries a es ↔ e ∈ es ∧ n.owner e = some a := by
  rw [ownEntries, mem_entriesUnderAny, List.mem_filter, decide_eq_true_eq]
  constructor
  · exact fun h => h.1
  · exact fun h => ⟨h, isUnderAny_of_ownerAmong h.2⟩

theorem nodup_ownEntries (n : NativeLibraries) (a : Abi) (es : List ModuleEntry) :
    (n.ownEntries a es).Nodup :=
  nodup_entriesUnderAny _ _

theorem mem_unowned : e ∈ n.unowned es ↔ e ∈ es ∧ n.owner e = none := by
  rw [unowned, List.mem_filter, decide_eq_true_eq]

end NativeLibraries

/-! ## Turns -/

namespace Claims

open NativeLibraries

variable {n : NativeLibraries} {es : List ModuleEntry} {c : Claims} {done : List Abi} {a : Abi}

/-- Some architectures have had their turn: each has got what it owns among them, and the entries
with an owner among them are claimed. -/
structure HandedOut (c : Claims) (n : NativeLibraries) (es : List ModuleEntry) (done : List Abi) :
    Prop where
  owned : c.owned = done.map fun b =>
    (b, entriesUnderAny (n.pathsOf b) (es.filter fun e => n.ownerAmong done e = some b))
  mem_claimed : ∀ e, e ∈ c.claimed ↔ e ∈ es ∧ n.ownerAmong done e ≠ none

theorem handedOut_nil (n : NativeLibraries) (es : List ModuleEntry) : HandedOut {} n es [] := by
  refine ⟨rfl, fun e => ?_⟩
  simp [ownerAmong]

/-- What an architecture takes in its turn is what it owns among those that had a turn by then. -/
theorem HandedOut.taken (h : HandedOut c n es done) (ha : a ∉ done) :
    entriesUnderAny (n.pathsOf a) (es.filter (· ∉ c.claimed)) =
      entriesUnderAny (n.pathsOf a)
        (es.filter fun e => n.ownerAmong (done ++ [a]) e = some a) := by
  rw [entriesUnderAny_filter, entriesUnderAny_filter]
  refine List.filter_congr fun e he => ?_
  obtain ⟨hmem, hunder⟩ := mem_entriesUnderAny.1 he
  -- Under the directories of `a`, not to be claimed yet is to become an entry of `a`.
  rw [decide_eq_decide, h.mem_claimed, ownerAmong_concat, if_pos hunder]
  cases hdone : n.ownerAmong done e with
  | none => simp
  | some b =>
    have hb : b ≠ a := fun hba => ha (hba ▸ mem_of_ownerAmong hdone)
    simp [hmem, hb]

/-- A turn leaves what others have got as it is. -/
theorem ownerAmong_concat_eq_some_iff {b : Abi} (hb : b ∈ done) (ha : a ∉ done) (e : ModuleEntry) :
    n.ownerAmong (done ++ [a]) e = some b ↔ n.ownerAmong done e = some b := by
  have hba : a ≠ b := fun hab => ha (hab ▸ hb)
  rw [ownerAmong_concat]
  cases n.ownerAmong done e with
  | none =>
    split
    · simp [hba]
    · rfl
  | some b' => rfl

/-- One turn keeps the invariant. -/
theorem HandedOut.turn (h : HandedOut c n es done) (ha : a ∉ done) :
    HandedOut (c.turn a (n.pathsOf a) es) n es (done ++ [a]) := by
  constructor
  · rw [Claims.turn, h.taken ha, h.owned, List.map_append, List.map_singleton]
    refine congrArg (· ++ _) (List.map_congr_left fun b hb => ?_)
    simp only [ownerAmong_concat_eq_some_iff hb ha]
  · intro e
    rw [Claims.turn, h.taken ha, List.mem_append, h.mem_claimed, mem_entriesUnderAny,
      List.mem_filter, decide_eq_true_eq, ownerAmong_concat]
    by_cases hunder : e.isUnderAny (n.pathsOf a)
    · cases n.ownerAmong done e with
      | none => simp [hunder]
      | some b =>
        simp only [hunder, Option.some_or, ne_eq, reduceCtorEq, not_false_eq_true, and_true]
        exact or_iff_left_of_imp fun h => h.1
    · simp [hunder]

/-- The invariant holds after any number of turns. -/
theorem HandedOut.turns (todo : List Abi) (h : HandedOut c n es done)
    (hnodup : (done ++ todo).Nodup) :
    HandedOut (todo.foldl (fun c a => c.turn a (n.pathsOf a) es) c) n es (done ++ todo) := by
  induction todo generalizing c done with
  | nil => simpa using h
  | cons a r ih =>
    have ha : a ∉ done := fun hmem =>
      (List.nodup_append.1 hnodup).2.2 a hmem a List.mem_cons_self rfl
    have hassoc : done ++ a :: r = done ++ [a] ++ r := by simp
    rw [hassoc] at hnodup ⊢
    exact ih (h.turn ha) hnodup

end Claims

namespace NativeLibraries

theorem handedOut_claims (n : NativeLibraries) (es : List ModuleEntry) :
    (n.claims es).HandedOut n es n.abis :=
  (Claims.handedOut_nil n es).turns n.abis n.nodup_abis

/-- After all turns each architecture has got what it owns. -/
theorem owned_claims (n : NativeLibraries) (es : List ModuleEntry) :
    (n.claims es).owned = n.abis.map fun a => (a, n.ownEntries a es) :=
  (n.handedOut_claims es).owned

/-- What is left over is what nobody owns. -/
theorem leftOver_claims (n : NativeLibraries) (es : List ModuleEntry) :
    (n.claims es).leftOver es = n.unowned es := by
  refine List.filter_congr fun e he => ?_
  rw [decide_eq_decide, (n.handedOut_claims es).mem_claimed]
  change ¬(e ∈ es ∧ n.owner e ≠ none) ↔ n.owner e = none
  simp [he]

end NativeLibraries

end DeviceSplit
