import Mathlib.Data.List.Nodup
import DeviceSplit.Module.ModuleSplit
import DeviceSplit.Proofs.FirstAppearance

set_option autoImplicit false

/-! # Lists of entries

A list of entries passes its check if entries at one path have one content (`Agree`). The entries of a
module even have pairwise distinct paths. Any selection of them, in any order, has so too, and is kept
as it is by the check. -/

namespace DeviceSplit

theorem ModuleSplit.Valid.nodup_entries {m : ModuleSplit} (h : m.Valid) : m.entries.Nodup :=
  List.Nodup.of_map _ h.distinctPaths

namespace ModuleEntry

variable {es fs : List ModuleEntry} {e f : ModuleEntry}

theorem ext (hpath : e.path = f.path) (hcontent : e.content = f.content) : e = f := by
  cases e; cases f; cases hpath; cases hcontent; rfl

/-! ## Entries that agree -/

/-- Entries at one path have one content. -/
def Agree (es : List ModuleEntry) : Prop :=
  ∀ e ∈ es, ∀ f ∈ es, e.path = f.path → e.content = f.content

instance (es : List ModuleEntry) : Decidable (Agree es) :=
  inferInstanceAs (Decidable (∀ e ∈ es, ∀ f ∈ es, e.path = f.path → e.content = f.content))

theorem agree_nil : Agree [] := fun _ he => absurd he List.not_mem_nil

/-- Among entries that agree, an entry is found by its path. -/
theorem find?_path (h : Agree es) (he : e ∈ es) : es.find? (·.path == e.path) = some e := by
  have hsome : (es.find? (·.path == e.path)).isSome := by
    rw [List.find?_isSome]
    exact ⟨e, he, beq_self_eq_true _⟩
  obtain ⟨f, hf⟩ := Option.isSome_iff_exists.1 hsome
  have hpath : f.path = e.path := by simpa using List.find?_some hf
  rw [hf, ext hpath (h f (List.mem_of_find?_eq_some hf) e he hpath)]

theorem firstConflict?_eq_none_iff : firstConflict? es = none ↔ Agree es := by
  rw [firstConflict?, List.find?_eq_none]
  constructor
  · intro h e he f hf hpath
    have hfirst {x : ModuleEntry} (hx : x ∈ es) : es.find? (·.path == x.path) = some x := by
      simpa using h x hx
    have hef := hfirst he
    rw [hpath, hfirst hf] at hef
    exact congrArg content (Option.some.inj hef).symm
  · intro h e he
    simp [find?_path h he]

theorem distinct_of_agree (h : Agree es) : distinct es = .ok es.eraseDups := by
  rw [distinct, firstConflict?_eq_none_iff.2 h]

/-! ## Entries with distinct paths -/

theorem agree_of_nodup_paths (hes : (es.map (·.path)).Nodup) : Agree es :=
  fun _ he _ hf hpath => congrArg content (List.inj_on_of_nodup_map hes he hf hpath)

/-- Some entries, each once, of a list with distinct paths have distinct paths. -/
theorem nodup_paths_of_subset (hes : (es.map (·.path)).Nodup) (hsub : ∀ e ∈ fs, e ∈ es)
    (hfs : fs.Nodup) : (fs.map (·.path)).Nodup := by
  refine hfs.map_on fun e he f hf hpath => ?_
  exact List.inj_on_of_nodup_map hes (hsub e he) (hsub f hf) hpath

/-- Entries with distinct paths pass the check of a list of entries unchanged. -/
theorem distinct_eq_ok (hes : (es.map (·.path)).Nodup) : distinct es = .ok es := by
  rw [distinct_of_agree (agree_of_nodup_paths hes), eraseDups_eq_self (List.Nodup.of_map _ hes)]

/-- What passes the check of a list of entries has distinct paths and comes from the list. -/
theorem of_distinct_eq_ok (h : distinct es = .ok fs) :
    (fs.map (·.path)).Nodup ∧ ∀ e ∈ fs, e ∈ es := by
  rw [distinct] at h
  split at h
  · exact nomatch h
  · next hnone =>
    have hagree := firstConflict?_eq_none_iff.1 hnone
    obtain rfl := Checked.ok.inj h
    refine ⟨(nodup_eraseDups es).map_on fun e he f hf hpath => ?_,
      fun e he => List.mem_eraseDups.1 he⟩
    exact ext hpath (hagree e (List.mem_eraseDups.1 he) f (List.mem_eraseDups.1 hf) hpath)

end ModuleEntry

theorem ModuleSplit.checked_eq_ok {m : ModuleSplit} (h : (m.entries.map (·.path)).Nodup) :
    m.checked = .ok m := by
  rw [checked, ModuleEntry.distinct_eq_ok h]
  rfl

end DeviceSplit
