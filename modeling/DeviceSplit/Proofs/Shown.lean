import Mathlib.Data.List.Basic
import DeviceSplit.Dimension

set_option autoImplicit false

/-! # What the text of a value tells

A value of a dimension has a text unless one of its numbers has too many digits
(`Dimension.text_eq_none_iff`). Different values have different texts (`Dimension.text_inj`), so a
message that names values by their texts leaves no doubt which ones it means. A text is taken apart
from the front: the names of the fields are the same for all values, and what stands for a number or
for an enumerated value ends at a character that it does not hold itself (`append_cons_inj`). Where
values come in two forms, the field of the form that a value does not have says `None`, and the first
letter of a field tells the forms apart (`head_eq_of_assignments`). -/

namespace DeviceSplit

/-- Two texts that have their first `c` in one text have the same before it and after it. -/
theorem append_cons_inj {c : Char} {l l' r r' : List Char} (hl : c ∉ l) (hl' : c ∉ l')
    (h : l ++ c :: r = l' ++ c :: r') : l = l' ∧ r = r' := by
  -- one of the two beginnings continues the other; a continuation would hold the `c`
  rcases List.append_eq_append_iff.1 h with ⟨m, rfl, hm⟩ | ⟨m, rfl, hm⟩
  · cases m with
    | nil => exact ⟨(List.append_nil l).symm, (List.cons.inj hm).2⟩
    | cons a s =>
      obtain rfl := (List.cons.inj hm).1
      exact absurd (List.mem_append_right l List.mem_cons_self) hl'
  · cases m with
    | nil => exact ⟨List.append_nil l', (List.cons.inj hm).2.symm⟩
    | cons a s =>
      obtain rfl := (List.cons.inj hm).1
      exact absurd (List.mem_append_right l' List.mem_cons_self) hl

/-! ## Lists of texts -/

section Texts

variable {α β : Type} {f : α → Option β} {l : List α}

theorem mapM_eq_some_iff {bs : List β} : l.mapM f = some bs ↔ l.map f = bs.map some := by
  induction l generalizing bs with
  | nil => cases bs <;> simp
  | cons a r ih =>
    rw [List.mapM_cons, List.map_cons]
    cases ha : f a with
    | none => cases bs <;> simp
    | some b =>
      cases bs with
      | nil => cases hr : r.mapM f <;> simp
      | cons c s =>
        rw [List.map_cons, List.cons.injEq, Option.some.injEq, ← ih]
        cases hr : r.mapM f <;> simp

theorem mapM_eq_none_iff : l.mapM f = none ↔ ∃ a ∈ l, f a = none := by
  induction l with
  | nil => simp
  | cons a r ih =>
    rw [List.mapM_cons, List.exists_mem_cons_iff, ← ih]
    cases ha : f a with
    | none => simp
    | some b => cases hr : r.mapM f <;> simp

end Texts

/-! ## Numbers -/

namespace Text

variable {n : Nat} {s : String}

theorem writeNatural?_eq_some_iff :
    writeNatural? n = some s ↔ (toString n).length ≤ digitLimit ∧ toString n = s := by
  rw [writeNatural?]
  split
  · next h => rw [Option.some.injEq, and_iff_right h]
  · next h => exact iff_of_false (Option.some_ne_none s).symm fun hs => h hs.1

theorem writeNatural?_eq_none_iff :
    writeNatural? n = none ↔ digitLimit < (toString n).length := by
  rw [writeNatural?]
  split
  · next h => exact iff_of_false (Option.some_ne_none _) (Nat.not_lt.2 h)
  · next h => exact iff_of_true rfl (Nat.lt_of_not_le h)

/-- The first number that has too many digits. -/
theorem length_toString_pow {k : Nat} (hk : 0 < k) : k < (toString (Nat.pow 10 k)).length := by
  rw [Nat.toString_eq_repr, ← Nat.not_le, Nat.length_repr_le_iff hk]
  exact Nat.lt_irrefl _

end Text

theorem toString_nat_inj {m n : Nat} (h : toString m = toString n) : m = n := by
  have hdigits : Nat.toDigits 10 m = Nat.toDigits 10 n := by
    rw [← Nat.toList_repr, ← Nat.toList_repr]
    exact congrArg String.toList h
  rw [← Nat.ofDigitChars_ten_toDigits (n := m), hdigits, Nat.ofDigitChars_ten_toDigits]

/-- A number is written with digits only. -/
theorem not_mem_toString_nat {c : Char} (hc : c.isDigit = false) (n : Nat) :
    c ∉ (toString n).toList := by
  intro hmem
  rw [Nat.toString_eq_repr, Nat.toList_repr] at hmem
  have hdigit := Nat.isDigit_of_mem_toDigits (by decide) (by decide) hmem
  exact absurd (hc.symm.trans hdigit) Bool.false_ne_true

/-! ## Literals -/

namespace Literal

section Complete

variable {β : Type} {g : List (String × String) → β} {b : β} {name name' : String}
  {o o' : Option String}

theorem map_complete_single_eq_some_iff :
    (complete [(name, o)]).map g = some b ↔ ∃ x, o = some x ∧ g [(name, x)] = b := by
  cases o <;> simp [complete]

theorem map_complete_pair_eq_some_iff :
    (complete [(name, o), (name', o')]).map g = some b ↔
      ∃ x x', o = some x ∧ o' = some x' ∧ g [(name, x), (name', x')] = b := by
  cases o <;> cases o' <;> simp [complete]

/-- A text is missing if the literal of a field is. -/
theorem map_complete_eq_none_iff {fields : List (String × Option String)} :
    (complete fields).map g = none ↔ ∃ f ∈ fields, f.2 = none := by
  rw [Option.map_eq_none_iff, complete, mapM_eq_none_iff]
  simp only [Option.map_eq_none_iff]

end Complete

theorem assignments_single (separator name x : String) :
    assignments separator [(name, x)] = name ++ "=" ++ x :=
  String.intercalate_singleton

theorem assignments_pair (separator name name' x x' : String) :
    assignments separator [(name, x), (name', x')] =
      name ++ "=" ++ x ++ separator ++ (name' ++ "=" ++ x') := by
  rw [assignments, List.map_cons, List.map_cons, List.map_nil, String.intercalate_cons_cons,
    String.intercalate_singleton]

section Fields

variable {separator name name' x y x' y' : String}

theorem eq_of_assignments (h : assignments separator [(name, x)] =
    assignments separator [(name, y)]) : x = y := by
  rw [assignments_single, assignments_single] at h
  exact (String.append_right_inj _).1 h

theorem eq_of_assignments_first (h : assignments separator [(name, x), (name', x')] =
    assignments separator [(name, y), (name', x')]) : x = y := by
  rw [assignments_pair, assignments_pair] at h
  simpa only [String.append_left_inj, String.append_right_inj] using h

theorem eq_of_assignments_second (h : assignments separator [(name, x), (name', x')] =
    assignments separator [(name, x), (name', y')]) : x' = y' := by
  rw [assignments_pair, assignments_pair] at h
  simpa only [String.append_right_inj] using h

/-- The first of two fields begins with the same character on both sides. -/
theorem head_eq_of_assignments {c c' : Char} (hx : x.toList.head? = some c)
    (hy : y.toList.head? = some c') (h : assignments separator [(name, x), (name', x')] =
      assignments separator [(name, y), (name', y')]) : c = c' := by
  rw [assignments_pair, assignments_pair] at h
  simp only [String.append_assoc, String.append_right_inj] at h
  have hhead := congrArg (fun s => s.toList.head?) h
  simpa [String.toList_append, List.head?_append, hx, hy] using hhead

end Fields

/-- The name of an enumerated value ends at the colon. -/
theorem member_inj {α : Type} [Vocabulary α] {label : α → String}
    (hcolon : ∀ a, ':' ∉ (label a).toList) (hlabel : ∀ {a b}, label a = label b → a = b) {a b : α}
    (h : member (label a) a = member (label b) b) : a = b := by
  simp only [member, String.append_assoc, String.append_right_inj] at h
  have hlists := congrArg String.toList h
  simp only [String.toList_append] at hlists
  exact hlabel (String.toList_inj.1 (append_cons_inj (hcolon a) (hcolon b) hlists).1)

end Literal

/-! ## Enumerated values -/

section Values

variable {s : String}

theorem Abi.colon_not_mem_label (a : Abi) : ':' ∉ a.label.toList := by cases a <;> decide

theorem Abi.label_inj {a b : Abi} (h : a.label = b.label) : a = b := by
  cases a <;> cases b <;> simp [label] at h ⊢

theorem Abi.text_inj {a b : Abi} (ha : Shown.text a = some s) (hb : Shown.text b = some s) :
    a = b :=
  Literal.member_inj colon_not_mem_label label_inj
    (Literal.eq_of_assignments (Option.some.inj (ha.trans hb.symm)))

theorem TextureFormat.colon_not_mem_label (f : TextureFormat) : ':' ∉ f.label.toList := by
  cases f <;> decide

theorem TextureFormat.label_inj {f g : TextureFormat} (h : f.label = g.label) : f = g := by
  cases f <;> cases g <;> simp [label] at h ⊢

theorem TextureFormat.text_inj {f g : TextureFormat} (hf : Shown.text f = some s)
    (hg : Shown.text g = some s) : f = g :=
  Literal.member_inj colon_not_mem_label label_inj
    (Literal.eq_of_assignments (Option.some.inj (hf.trans hg.symm)))

theorem DensityBucket.colon_not_mem_label (b : DensityBucket) : ':' ∉ b.label.toList := by
  cases b <;> decide

theorem DensityBucket.label_inj {b c : DensityBucket} (h : b.label = c.label) : b = c := by
  cases b <;> cases c <;> simp [label] at h ⊢

/-! ## Values with numbers -/

namespace SdkVersion

variable {v w : SdkVersion}

theorem text_eq_some_iff : Shown.text v = some s ↔
    (toString v.min).length ≤ Text.digitLimit ∧
      Literal.assignments " " [("min", toString v.min)] = s := by
  change (Literal.complete _).map _ = _ ↔ _
  rw [Literal.map_complete_single_eq_some_iff]
  simp [Text.writeNatural?_eq_some_iff, and_assoc]

theorem text_inj (hv : Shown.text v = some s) (hw : Shown.text w = some s) : v = w := by
  obtain ⟨-, rfl⟩ := text_eq_some_iff.1 hv
  obtain ⟨-, h⟩ := text_eq_some_iff.1 hw
  exact congrArg SdkVersion.mk (toString_nat_inj (Literal.eq_of_assignments h)).symm

end SdkVersion

namespace ScreenDensity

variable {b : DensityBucket} {n : Nat} {d e : ScreenDensity}

theorem text_dpi_eq_some_iff : Shown.text (dpi n) = some s ↔
    (toString n).length ≤ Text.digitLimit ∧ Literal.assignments " "
      [("density_alias", "None"), ("density_dpi", toString n)] = s := by
  change (Literal.complete [(_, some "None"), (_, Text.writeNatural? n)]).map _ = _ ↔ _
  rw [Literal.map_complete_pair_eq_some_iff]
  simp [Text.writeNatural?_eq_some_iff, and_assoc]

theorem text_bucket_ne_text_dpi (hb : Shown.text (bucket b) = some s) :
    Shown.text (dpi n) ≠ some s := by
  intro hn
  obtain rfl := Option.some.inj hb
  obtain ⟨-, h⟩ := text_dpi_eq_some_iff.1 hn
  have hmember : (Literal.member b.label b).toList.head? = some '<' := by simp [Literal.member]
  have hnone : "None".toList.head? = some 'N' := by decide
  exact absurd (Literal.head_eq_of_assignments hnone hmember h) (by decide)

theorem text_inj (hd : Shown.text d = some s) (he : Shown.text e = some s) : d = e := by
  cases d with
  | bucket b =>
    cases e with
    | bucket c =>
      have hbuckets := Literal.eq_of_assignments_first (Option.some.inj (hd.trans he.symm))
      exact congrArg bucket
        (Literal.member_inj DensityBucket.colon_not_mem_label DensityBucket.label_inj hbuckets)
    | dpi n => exact absurd he (text_bucket_ne_text_dpi hd)
  | dpi m =>
    cases e with
    | bucket c => exact absurd hd (text_bucket_ne_text_dpi he)
    | dpi n =>
      obtain ⟨-, rfl⟩ := text_dpi_eq_some_iff.1 hd
      obtain ⟨-, h⟩ := text_dpi_eq_some_iff.1 he
      exact congrArg dpi (toString_nat_inj (Literal.eq_of_assignments_second h)).symm

end ScreenDensity

namespace ApiVersion

variable {name : String} {v w : ApiVersion}

theorem literal_eq_some_iff : v.literal name = some s ↔
    ((toString v.major).length ≤ Text.digitLimit ∧ (toString v.minor).length ≤ Text.digitLimit) ∧
      Literal.construct name [("major", toString v.major), ("minor", toString v.minor)] = s := by
  rw [literal, shownFields, Literal.map_complete_pair_eq_some_iff]
  constructor
  · rintro ⟨x, y, hx, hy, h⟩
    obtain ⟨hmajor, rfl⟩ := Text.writeNatural?_eq_some_iff.1 hx
    obtain ⟨hminor, rfl⟩ := Text.writeNatural?_eq_some_iff.1 hy
    exact ⟨⟨hmajor, hminor⟩, h⟩
  · rintro ⟨⟨hmajor, hminor⟩, h⟩
    exact ⟨_, _, Text.writeNatural?_eq_some_iff.2 ⟨hmajor, rfl⟩,
      Text.writeNatural?_eq_some_iff.2 ⟨hminor, rfl⟩, h⟩

theorem literal_eq_none_iff : v.literal name = none ↔
    Text.digitLimit < (toString v.major).length ∨ Text.digitLimit < (toString v.minor).length := by
  rw [literal, shownFields, Literal.map_complete_eq_none_iff]
  simp [Text.writeNatural?_eq_none_iff]

/-- The first number of a version ends at the comma. -/
theorem literal_inj (hv : v.literal name = some s) (hw : w.literal name = some s) : v = w := by
  have hcomma (n : Nat) : ',' ∉ (toString n).toList := not_mem_toString_nat (by decide) n
  obtain ⟨-, rfl⟩ := literal_eq_some_iff.1 hv
  obtain ⟨-, h⟩ := literal_eq_some_iff.1 hw
  simp only [Literal.construct, Literal.assignments_pair, String.append_assoc,
    String.append_right_inj] at h
  have hlists := congrArg String.toList h
  simp only [String.toList_append] at hlists
  have hmajor : w.major = v.major := toString_nat_inj
    (String.toList_inj.1 (append_cons_inj (hcomma w.major) (hcomma v.major) hlists).1)
  rw [hmajor] at h
  simp only [String.append_right_inj, String.append_left_inj] at h
  exact congrArg₂ ApiVersion.mk hmajor.symm (toString_nat_inj h).symm

end ApiVersion

namespace GraphicsApi

variable {v w : ApiVersion} {g k : GraphicsApi}

theorem text_openGl_eq_some_iff : Shown.text (openGl v) = some s ↔
    ∃ x, v.literal "OpenGlVersion" = some x ∧ Literal.assignments " "
      [("min_open_gl_version", x), ("min_vulkan_version", "None")] = s := by
  change (Literal.complete [(_, ApiVersion.literal _ v), (_, some "None")]).map _ = _ ↔ _
  rw [Literal.map_complete_pair_eq_some_iff]
  simp

theorem text_vulkan_eq_some_iff : Shown.text (vulkan v) = some s ↔
    ∃ x, v.literal "VulkanVersion" = some x ∧ Literal.assignments " "
      [("min_open_gl_version", "None"), ("min_vulkan_version", x)] = s := by
  change (Literal.complete [(_, some "None"), (_, ApiVersion.literal _ v)]).map _ = _ ↔ _
  rw [Literal.map_complete_pair_eq_some_iff]
  simp

theorem text_openGl_ne_text_vulkan (hv : Shown.text (openGl v) = some s) :
    Shown.text (vulkan w) ≠ some s := by
  intro hw
  obtain ⟨x, hx, rfl⟩ := text_openGl_eq_some_iff.1 hv
  obtain ⟨y, -, h⟩ := text_vulkan_eq_some_iff.1 hw
  obtain ⟨-, hconstruct⟩ := ApiVersion.literal_eq_some_iff.1 hx
  have hversion : x.toList.head? = some 'O' := by simp [← hconstruct, Literal.construct]
  have hnone : "None".toList.head? = some 'N' := by decide
  exact absurd (Literal.head_eq_of_assignments hnone hversion h) (by decide)

theorem text_inj (hg : Shown.text g = some s) (hk : Shown.text k = some s) : g = k := by
  cases g with
  | openGl v =>
    cases k with
    | openGl w =>
      obtain ⟨x, hx, rfl⟩ := text_openGl_eq_some_iff.1 hg
      obtain ⟨y, hy, h⟩ := text_openGl_eq_some_iff.1 hk
      obtain rfl := Literal.eq_of_assignments_first h
      exact congrArg openGl (ApiVersion.literal_inj hx hy)
    | vulkan w => exact absurd hk (text_openGl_ne_text_vulkan hg)
  | vulkan v =>
    cases k with
    | openGl w => exact absurd hg (text_openGl_ne_text_vulkan hk)
    | vulkan w =>
      obtain ⟨x, hx, rfl⟩ := text_vulkan_eq_some_iff.1 hg
      obtain ⟨y, hy, h⟩ := text_vulkan_eq_some_iff.1 hk
      obtain rfl := Literal.eq_of_assignments_second h
      exact congrArg vulkan (ApiVersion.literal_inj hx hy)

end GraphicsApi

end Values

/-! ## All dimensions -/

namespace Dimension

/-- The numbers in a value. -/
def numbers : (d : Dimension) → d.Value → List Nat
  | sdkVersion, v => [v.min]
  | screenDensity, .dpi n => [n]
  | graphicsApi, .openGl v | graphicsApi, .vulkan v => [v.major, v.minor]
  | screenDensity, .bucket _ | abi, _ | language, _ | textureFormat, _ => []

/-- A text is missing exactly if a number has too many digits. -/
theorem text_eq_none_iff (d : Dimension) {v : d.Value} :
    Shown.text v = none ↔ ∃ n ∈ d.numbers v, Text.digitLimit < (toString n).length := by
  cases d with
  | abi => exact iff_of_false (Option.some_ne_none _) (by simp [numbers])
  | language => exact iff_of_false (Option.some_ne_none _) (by simp [numbers])
  | textureFormat => exact iff_of_false (Option.some_ne_none _) (by simp [numbers])
  | sdkVersion =>
    change (Literal.complete _).map _ = _ ↔ _
    rw [Literal.map_complete_eq_none_iff]
    simp [numbers, Text.writeNatural?_eq_none_iff]
  | screenDensity =>
    cases v with
    | bucket b => exact iff_of_false (Option.some_ne_none _) (by simp [numbers])
    | dpi n =>
      change (Literal.complete [(_, some "None"), (_, Text.writeNatural? n)]).map _ = _ ↔ _
      rw [Literal.map_complete_eq_none_iff]
      simp [numbers, Text.writeNatural?_eq_none_iff]
  | graphicsApi =>
    cases v with
    | openGl v =>
      change (Literal.complete [(_, v.literal _), (_, some "None")]).map _ = _ ↔ _
      rw [Literal.map_complete_eq_none_iff]
      simp [numbers, ApiVersion.literal_eq_none_iff]
    | vulkan v =>
      change (Literal.complete [(_, some "None"), (_, v.literal _)]).map _ = _ ↔ _
      rw [Literal.map_complete_eq_none_iff]
      simp [numbers, ApiVersion.literal_eq_none_iff]

/-- Values of a dimension with the same text are the same value. -/
theorem text_inj (d : Dimension) {v w : d.Value} {s : String} (hv : Shown.text v = some s)
    (hw : Shown.text w = some s) : v = w := by
  cases d with
  | abi => exact Abi.text_inj hv hw
  | language => exact Option.some.inj (hv.trans hw.symm)
  | textureFormat => exact TextureFormat.text_inj hv hw
  | graphicsApi => exact GraphicsApi.text_inj hv hw
  | sdkVersion => exact SdkVersion.text_inj hv hw
  | screenDensity => exact ScreenDensity.text_inj hv hw

end Dimension

end DeviceSplit
