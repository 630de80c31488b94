import Mathlib.Data.List.Perm.Basic
import DeviceSplit.Proofs.Components

set_option autoImplicit false

/-! # Entries at one path

A module may be given an entry more than once, but not two different entries at one path. The check
compares each entry with the first one at its path only, and yet it finds a conflict exactly if there
are two entries anywhere in the list that do not agree (`firstConflict?_eq_none_iff`); what it reports
is the earliest entry that disagrees with one before it (`firstConflict?_of_conflictsWith`). The check
can be made while the entries are collected, in one pass over the list (`collect_eq_distinct`). The
main statement is `ModuleSplit.entries_kept_once`. -/

namespace DeviceSplit

namespace ModuleEntry

/-- There is another content at the path of an entry. -/
def ConflictsWith (e : ModuleEntry) (es : List ModuleEntry) : Prop :=
  ∃ f ∈ es, f.path = e.path ∧ f.content ≠ e.content

variable {es before after done : List ModuleEntry} {e f : ModuleEntry}

theorem agree_concat_iff : Agree (es ++ [e]) ↔ Agree es ∧ ¬e.ConflictsWith es := by
  simp only [Agree, ConflictsWith, List.mem_append, List.mem_singleton]
  constructor
  · intro h
    refine ⟨fun x hx y hy => h x (Or.inl hx) y (Or.inl hy), ?_⟩
    rintro ⟨f, hf, hpath, hcontent⟩
    exact hcontent (h f (Or.inl hf) e (Or.inr rfl) hpath)
  · rintro ⟨hes, hnot⟩ x hx y hy hpath
    rcases hx with hx | rfl <;> rcases hy with hy | rfl
    · exact hes x hx y hy hpath
    · exact by_contra fun hcontent => hnot ⟨x, hx, hpath, hcontent⟩
    · exact by_contra fun hcontent => hnot ⟨y, hy, hpath.symm, fun h => hcontent h.symm⟩
    · rfl

/-- Entries agree exactly if none of them conflicts with those before it. -/
theorem agree_iff_forall_not_conflictsWith :
    Agree es ↔ ∀ before e after, es = before ++ e :: after → ¬e.ConflictsWith before := by
  constructor
  · rintro h before e after rfl ⟨f, hf, hpath, hcontent⟩
    exact hcontent (h f (by simp [hf]) e (by simp) hpath)
  · intro h
    induction es using List.reverseRecOn with
    | nil => exact agree_nil
    | append_singleton l a ih =>
      refine agree_concat_iff.2 ⟨ih fun before e after hl => ?_, h l a [] rfl⟩
      exact h before e (after ++ [a]) (by rw [hl]; simp)

/-- A list without agreement has an earliest entry that conflicts with those before it. -/
theorem exists_conflict (h : ¬Agree es) : ∃ before e after, es = before ++ e :: after ∧
    Agree before ∧ e.ConflictsWith before := by
  induction es using List.reverseRecOn with
  | nil => exact absurd agree_nil h
  | append_singleton l a ih =>
    by_cases hl : Agree l
    · exact ⟨l, a, [], rfl, hl, by_contra fun hnot => h (agree_concat_iff.2 ⟨hl, hnot⟩)⟩
    · obtain ⟨before, e, after, rfl, hconflict⟩ := ih hl
      exact ⟨before, e, after ++ [a], by simp, hconflict⟩

/-! ## The check -/

/-- The entry that is reported is the earliest one that conflicts with an entry before it. -/
theorem firstConflict?_of_conflictsWith (hbefore : Agree before) (he : e.ConflictsWith before) :
    firstConflict? (before ++ e :: after) = some e := by
  have hfirst {x : ModuleEntry} {p : String} (hx : before.find? (·.path == p) = some x) :
      (before ++ e :: after).find? (·.path == p) = some x := by
    rw [List.find?_append, hx, Option.some_or]
  rw [firstConflict?, List.find?_eq_some_iff_append]
  constructor
  · obtain ⟨f, hf, hpath, hcontent⟩ := he
    have hfound := find?_path hbefore hf
    rw [hpath] at hfound
    rw [hfirst hfound, bne_iff_ne, ne_eq, Option.some.injEq]
    rintro rfl
    exact hcontent rfl
  · refine ⟨before, after, rfl, fun x hx => ?_⟩
    rw [hfirst (find?_path hbefore hx)]
    simp

theorem distinct_of_conflictsWith (hbefore : Agree before) (he : e.ConflictsWith before) :
    distinct (before ++ e :: after) = .reject (.broken (.conflictingEntries e.path)) := by
  rw [distinct, firstConflict?_of_conflictsWith hbefore he]

/-! ## What is kept -/

theorem mem_iff_path_mem (h : Agree (es ++ [e])) : e ∈ es ↔ e.path ∈ es.map (·.path) := by
  rw [List.mem_map]
  constructor
  · exact fun he => ⟨e, he, rfl⟩
  · rintro ⟨f, hf, hpath⟩
    have hcontent := h f (by simp [hf]) e (by simp) hpath
    exact ext hpath hcontent ▸ hf

/-- The paths that are kept are those of the list, in the order of their first appearances. -/
theorem map_path_eraseDups (h : Agree es) :
    es.eraseDups.map (·.path) = (es.map (·.path)).eraseDups := by
  induction es using List.reverseRecOn with
  | nil => rfl
  | append_singleton l a ih =>
    have hl := ih (agree_concat_iff.1 h).1
    rw [List.map_append, List.map_singleton, eraseDups_concat, eraseDups_concat]
    by_cases ha : a ∈ l
    · rw [if_pos ha, if_pos ((mem_iff_path_mem h).1 ha), hl]
    · rw [if_neg ha, if_neg (mt (mem_iff_path_mem h).2 ha), List.map_append, hl,
        List.map_singleton]

/-! ## One pass -/

/-- Collect the entries of a list, with those `kept` so far: an entry at a new path is kept, one that
is there already is passed over, and one with another content ends the pass. -/
def collect (kept : List ModuleEntry) : List ModuleEntry → Checked (List ModuleEntry)
  | [] => .ok kept
  | e :: r =>
    match kept.find? (·.path == e.path) with
    | none => collect (kept ++ [e]) r
    | some f => if f = e then collect kept r else .reject (.broken (.conflictingEntries e.path))

/-- After a part of the list without conflicts, the entries of that part have been kept. -/
theorem collect_eraseDups (hdone : Agree done) (rest : List ModuleEntry) :
    collect done.eraseDups rest = distinct (done ++ rest) := by
  induction rest generalizing done with
  | nil => rw [collect, List.append_nil, distinct_of_agree hdone]
  | cons e r ih =>
    have hnext (hagree : Agree (done ++ [e])) :
        collect (done ++ [e]).eraseDups r = distinct (done ++ e :: r) := by
      rw [ih hagree, List.append_assoc, List.singleton_append]
    rw [collect]
    cases hfind : done.eraseDups.find? (·.path == e.path) with
    | none =>
      have hnew : ∀ f ∈ done, f.path ≠ e.path := by
        intro f hf
        simpa using List.find?_eq_none.1 hfind f (List.mem_eraseDups.2 hf)
      have he : e ∉ done := fun he => hnew e he rfl
      have hagree : Agree (done ++ [e]) :=
        agree_concat_iff.2 ⟨hdone, fun ⟨f, hf, hpath, _⟩ => hnew f hf hpath⟩
      rw [← hnext hagree, eraseDups_concat, if_neg he]
    | some f =>
      have hf : f ∈ done := List.mem_eraseDups.1 (List.mem_of_find?_eq_some hfind)
      have hpath : f.path = e.path := by simpa using List.find?_some hfind
      by_cases hfe : f = e
      · have hagree : Agree (done ++ [e]) := by
          refine agree_concat_iff.2 ⟨hdone, ?_⟩
          rintro ⟨x, hx, hxpath, hxcontent⟩
          exact hxcontent (hdone x hx e (hfe ▸ hf) hxpath)
        rw [← hnext hagree, eraseDups_concat, if_pos (hfe ▸ hf)]
        exact if_pos hfe
      · have hconflict : e.ConflictsWith done :=
          ⟨f, hf, hpath, fun hcontent => hfe (ext hpath hcontent)⟩
        rw [distinct_of_conflictsWith hdone hconflict]
        exact if_neg hfe

theorem collect_eq_distinct (es : List ModuleEntry) : collect [] es = distinct es :=
  collect_eraseDups agree_nil es

/-! ## Entries as they are given -/

/-- An entry that is read has the normal spelling of the path that it was given. -/
theorem of_read {d : Data} (h : read d = Checked.ok e) : ∃ (fields : Fields) (p : String),
    d = .record fields ∧ fields.lookup "path" = some (.text p) ∧ e.path = Path.normalize p ∧
    fields.withDefault "content" [] readBytes = .ok e.content := by
  cases d with
  | record fields =>
    obtain ⟨_, content, hmap, hcontent, rfl⟩ := Checked.seq_eq_ok.1 h
    obtain ⟨path, hpath, rfl⟩ := Checked.map_eq_ok.1 hmap
    rw [Fields.required, Checked.below_eq_ok] at hpath
    split at hpath
    · next d hd =>
      cases d with
      | text p => exact ⟨fields, p, rfl, hd, (readPath_eq_ok_iff.1 hpath).2, hcontent⟩
      | _ => exact absurd hpath (Checked.reject_ne_ok _ _)
    · exact absurd hpath (Checked.reject_ne_ok _ _)
  | _ => exact absurd h (Checked.reject_ne_ok _ _)

theorem Agree.of_perm {es es' : List ModuleEntry} (hperm : es'.Perm es) (h : Agree es) : Agree es' :=
  fun e he f hf => h e (hperm.mem_iff.1 he) f (hperm.mem_iff.1 hf)

end ModuleEntry

namespace ModuleSplit

open ModuleEntry

variable {fields : Fields} {items : List Data} {es : List ModuleEntry}

/-- Entries that can be read one by one only have to pass the check of the list. -/
theorem readFrom_entries (hfield : fields.lookup "entries" = some (.list items))
    (hitems : List.Forall₂ (fun e d => read d = Checked.ok e) es items) :
    ModuleField.entries.readFrom fields = (distinct es).below (.field "entries") := by
  have hread : readItems read 0 items = .ok es := readItems_eq_ok_iff.2 hitems
  have hvalue : ModuleField.entries.readValue (.list items) = distinct es := by
    change (readItems read 0 items).andThen distinct = distinct es
    rw [hread, Checked.andThen_ok]
  have hown : fields.lookup ModuleField.entries.name = some (.list items) := hfield
  rw [ModuleField.readFrom_of_lookup hown, hvalue]
  rfl

theorem exists_read_iff_agree (hfield : fields.lookup "entries" = some (.list items))
    (hitems : List.Forall₂ (fun e d => read d = Checked.ok e) es items) :
    (∃ m : ModuleSplit, read (.record fields) = Checked.ok m) ↔
      (∀ f : ModuleField, f ≠ .entries → ∃ x, f.readFrom fields = .ok x) ∧ Agree es := by
  have hentries : (∃ x, ModuleField.entries.readFrom fields = .ok x) ↔ Agree es := by
    rw [readFrom_entries hfield hitems]
    constructor
    · rintro ⟨x, hx⟩
      by_contra hnot
      obtain ⟨before, e, after, rfl, hbefore, he⟩ := exists_conflict hnot
      rw [distinct_of_conflictsWith hbefore he] at hx
      exact nomatch hx
    · intro h
      rw [distinct_of_agree h]
      exact ⟨_, rfl⟩
  change (∃ m, readFields fields = .ok m) ↔ _
  rw [exists_readFields_eq_ok_iff, ← hentries]
  constructor
  · exact fun h => ⟨fun f _ => h f, h .entries⟩
  · rintro ⟨hothers, hown⟩ f
    by_cases hf : f = .entries
    · exact hf ▸ hown
    · exact hothers f hf

/-- A module split given entries that can be read one by one is read exactly if its other fields are
and entries at one path have one content. It then has the first entry at each path, in the order of
the list, and reading these again changes nothing. Otherwise there is one fault in the field: the
conflict at the path of the earliest entry that has another content than one before it at its path.
The order of the list does not decide whether there is a conflict, and one pass over the list, which
compares each entry with the one kept at its path, comes to the same. -/
theorem entries_kept_once (hfield : fields.lookup "entries" = some (.list items))
    (hitems : List.Forall₂ (fun e d => read d = Checked.ok e) es items) :
    List.Forall₂ (fun e d => ∃ (inner : Fields) (p : String), d = .record inner ∧
      inner.lookup "path" = some (.text p) ∧ e.path = Path.normalize p ∧
      inner.withDefault "content" [] readBytes = .ok e.content) es items ∧
    ((∃ m : ModuleSplit, read (.record fields) = Checked.ok m) ↔
      (∀ f : ModuleField, f ≠ .entries → ∃ x, f.readFrom fields = .ok x) ∧ Agree es) ∧
    (∀ m : ModuleSplit, read (.record fields) = Checked.ok m →
      m.entries.map (·.path) = (es.map (·.path)).eraseDups ∧
      (∀ e ∈ m.entries, es.find? (·.path == e.path) = some e) ∧
      (m.entries.map (·.path)).Nodup ∧ (∀ e ∈ es, e ∈ m.entries) ∧
      ∀ d, WrittenSequence Written m.entries d → readEntries d = .ok m.entries) ∧
    (¬Agree es → ∃ before e after, es = before ++ e :: after ∧ e.ConflictsWith before ∧
      (∀ b x a, before = b ++ x :: a → ¬x.ConflictsWith b) ∧
      ∃ faults, read (.record fields) = (.faulty faults : Checked ModuleSplit) ∧
        faults.filter (·.isIn "entries") =
          [⟨[.field "entries"], .broken (.conflictingEntries e.path)⟩] ∧
        (Rule.conflictingEntries e.path).message =
          "conflicting entries for path '" ++ e.path ++ "'") ∧
    (∀ items', items'.Perm items →
      ((∃ m : ModuleSplit, read (.record (("entries", .list items') :: fields)) = Checked.ok m) ↔
        ∃ m : ModuleSplit, read (.record fields) = Checked.ok m)) ∧
    collect [] es = distinct es := by
  refine ⟨hitems.imp fun _ _ => of_read, exists_read_iff_agree hfield hitems, ?_, ?_, ?_,
    collect_eq_distinct es⟩
  · intro m hm
    have hagree : Agree es := ((exists_read_iff_agree hfield hitems).1 ⟨m, hm⟩).2
    have hentries : m.entries = es.eraseDups := by
      have hown := (readFields_eq_ok_iff fields m).1 hm .entries
      rw [readFrom_entries hfield hitems, distinct_of_agree hagree] at hown
      exact (Checked.ok.inj hown).symm
    have hvalid : m.Valid := readsBack.sound_of_read hm
    refine ⟨hentries ▸ map_path_eraseDups hagree, ?_, hvalid.distinctPaths, ?_, ?_⟩
    · intro e he
      exact find?_path hagree (List.mem_eraseDups.1 (hentries ▸ he))
    · intro e he
      exact hentries ▸ List.mem_eraseDups.2 he
    · intro d hd
      exact readsBack_readEntries.read_of_written ⟨hvalid.entries, hvalid.distinctPaths⟩ hd
  · intro hnot
    obtain ⟨before, e, after, rfl, hbefore, he⟩ := exists_conflict hnot
    have hfaults : (readFields fields).faults.filter (·.isIn "entries") =
        [⟨[.field "entries"], .broken (.conflictingEntries e.path)⟩] := by
      have hown := filter_faults_readFields fields .entries
      rw [readFrom_entries hfield hitems, distinct_of_conflictsWith hbefore he] at hown
      exact hown
    have hne : (readFields fields).faults ≠ [] := by
      intro hnone
      rw [hnone] at hfaults
      exact nomatch hfaults
    exact ⟨before, e, after, rfl, he, agree_iff_forall_not_conflictsWith.1 hbefore, _,
      Checked.eq_faulty_of_faults_ne_nil hne, hfaults, rfl⟩
  · intro items' hperm
    obtain ⟨es', hitems', hes'⟩ := List.perm_comp_forall₂ hperm hitems.flip
    have hfield' : (("entries", .list items') :: fields : Fields).lookup "entries" =
        some (.list items') := List.lookup_cons_self
    rw [exists_read_iff_agree hfield' hitems'.flip, exists_read_iff_agree hfield hitems]
    refine and_congr (forall₂_congr fun f hf => ?_) ⟨.of_perm hes'.symm, .of_perm hes'⟩
    have hname : (f.name == "entries") = false :=
      beq_eq_false_iff_ne.2 (mt (ModuleField.name_inj (g := .entries)) hf)
    have hsame : (("entries", .list items') :: fields : Fields).lookup f.name =
        fields.lookup f.name := by
      rw [List.lookup_cons, hname]
    rw [ModuleField.readFrom_congr hsame]

/-- An entry is given three times, in three spellings: as text, as the same bytes, and with other
bytes. The conflict is reported for it, and not for the path that comes later in the list, together
with the fault of another field. -/
theorem entries_kept_once_respelled :
    let entry (path : String) (content : Data) : Data :=
      .record [("content", content), ("path", .text path)]
    let items :=
      [entry "lib\\a.so" (.text "x"), entry "b" (.bytes []), entry "/lib/a.so" (.bytes [120])]
    let more := [entry "lib/a.so//" (.bytes [7]), entry "b" (.bytes [1])]
    let es : List ModuleEntry := [⟨"lib/a.so", [120]⟩, ⟨"b", []⟩, ⟨"lib/a.so", [120]⟩]
    let others : List ModuleEntry := [⟨"lib/a.so", [7]⟩, ⟨"b", [1]⟩]
    let faulty : Fields := [("master_split", .null), ("entries", .list (items ++ more))]
    (∃ m : ModuleSplit, read (.record [("entries", .list items)]) = Checked.ok m ∧
      m.entries = [⟨"lib/a.so", [120]⟩, ⟨"b", []⟩]) ∧
    (¬∃ m : ModuleSplit, read (.record faulty) = Checked.ok m) ∧
    (∃ before e after, es ++ others = before ++ e :: after ∧ e.ConflictsWith before ∧
      ∃ faults, read (.record faulty) = (.faulty faults : Checked ModuleSplit) ∧
        faults.filter (·.isIn "entries") =
          [⟨[.field "entries"], .broken (.conflictingEntries e.path)⟩]) ∧
    read (.record faulty) = (.faulty [⟨[.field "master_split"], .notFlag⟩,
      ⟨[.field "entries"], .broken (.conflictingEntries "lib/a.so")⟩] : Checked ModuleSplit) := by
  intro entry items more es others faulty
  have hitems : List.Forall₂ (fun e d => read d = Checked.ok e) es items :=
    .cons rfl (.cons rfl (.cons rfl .nil))
  have hmore : List.Forall₂ (fun e d => read d = Checked.ok e) (es ++ others) (items ++ more) :=
    .cons rfl (.cons rfl (.cons rfl (.cons rfl (.cons rfl .nil))))
  have hfield : ([("entries", .list items)] : Fields).lookup "entries" = some (.list items) := rfl
  have hfield' : faulty.lookup "entries" = some (.list (items ++ more)) := rfl
  obtain ⟨-, hread, -⟩ := entries_kept_once hfield hitems
  obtain ⟨-, hrefused, -, hconflict, -⟩ := entries_kept_once hfield' hmore
  have hagree : Agree [⟨"lib/a.so", [120]⟩, ⟨"b", []⟩, ⟨"lib/a.so", [120]⟩] := by decide
  have hdisagree : ¬Agree [⟨"lib/a.so", [120]⟩, ⟨"b", []⟩, ⟨"lib/a.so", [120]⟩,
    ⟨"lib/a.so", [7]⟩, ⟨"b", [1]⟩] := by decide
  have hothers (f : ModuleField) (hf : f ≠ .entries) :
      ∃ x, f.readFrom [("entries", .list items)] = .ok x := by
    cases f with
    | entries => exact absurd rfl hf
    | _ => exact ⟨_, rfl⟩
  obtain ⟨m, hm⟩ := hread.2 ⟨hothers, hagree⟩
  obtain ⟨before, e, after, hsplit, he, -, faults, hfaulty, hfaults, -⟩ := hconflict hdisagree
  exact ⟨⟨m, hm, (congrArg entries (Checked.ok.inj hm)).symm⟩, fun h => hdisagree (hrefused.1 h).2,
    ⟨before, e, after, hsplit, he, faults, hfaulty, hfaults⟩, rfl⟩

end ModuleSplit

end DeviceSplit
