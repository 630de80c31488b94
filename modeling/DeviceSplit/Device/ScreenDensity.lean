import DeviceSplit.PlainForm

set_option autoImplicit false

/-! # Screen densities

A screen density is one of the named buckets, or a number of dots per inch. A bucket and a number
are never the same density. -/

namespace DeviceSplit

/-- The named densities. -/
inductive DensityBucket where
  | nodpi
  | ldpi
  | mdpi
  | tvdpi
  | hdpi
  | xhdpi
  | xxhdpi
  | xxxhdpi
deriving DecidableEq

namespace DensityBucket

instance : Vocabulary DensityBucket where
  family := "DensityAlias"
  all := [nodpi, ldpi, mdpi, tvdpi, hdpi, xhdpi, xxhdpi, xxxhdpi]
  word
    | nodpi => "nodpi"
    | ldpi => "ldpi"
    | mdpi => "mdpi"
    | tvdpi => "tvdpi"
    | hdpi => "hdpi"
    | xhdpi => "xhdpi"
    | xxhdpi => "xxhdpi"
    | xxxhdpi => "xxxhdpi"
  mem_all a := by cases a <;> simp
  word_inj {a b} := by cases a <;> cases b <;> simp

/-- The name of a bucket in messages. -/
def label : DensityBucket → String
  | nodpi => "NODPI"
  | ldpi => "LDPI"
  | mdpi => "MDPI"
  | tvdpi => "TVDPI"
  | hdpi => "HDPI"
  | xhdpi => "XHDPI"
  | xxhdpi => "XXHDPI"
  | xxxhdpi => "XXXHDPI"

end DensityBucket

inductive ScreenDensity where
  | bucket (b : DensityBucket)
  /-- A number of dots per inch. -/
  | dpi (n : Nat)
deriving DecidableEq

namespace ScreenDensity

/-- A number of dots per inch is positive. -/
def Admissible : ScreenDensity → Prop
  | bucket _ => True
  | dpi n => 0 < n

instance : (d : ScreenDensity) → Decidable d.Admissible
  | bucket _ => inferInstanceAs (Decidable True)
  | dpi n => inferInstanceAs (Decidable (0 < n))

/-- The density in one of its two forms, given exactly one of them. -/
def ofForms : Option DensityBucket × Option Nat → Checked ScreenDensity
  | (some b, none) => .ok (bucket b)
  | (none, some n) => .ok (dpi n)
  | (some _, some _) | (none, none) => .reject (.broken .oneDensityForm)

/-- The bucket and the number. -/
def forms : ScreenDensity → Option DensityBucket × Option Nat
  | bucket b => (some b, none)
  | dpi n => (none, some n)

theorem ofForms_forms (d : ScreenDensity) : ofForms d.forms = .ok d := by
  cases d <;> rfl

/-- Buckets come first, in the order of their words, then numbers. -/
instance : Ranked ScreenDensity where
  rank
    | bucket b => 0 :: rank (Vocabulary.word b)
    | dpi n => [1, n]
  rank_inj {a b} h := by
    cases a <;> cases b <;> simp at h
    · rw [Vocabulary.word_inj (rank_inj h)]
    · rw [h]

instance : PlainForm ScreenDensity where
  read := readRecord fun fields =>
    Checked.andThen
      (Prod.mk <$> fields.optional "density_alias" (readWord .unknownWord) <*>
        fields.optional "density_dpi" (readAbove 0))
      ofForms
  write d :=
    .record [("density_alias", writeNullable writeWord d.forms.1),
      ("density_dpi", writeNullable (fun n : Nat => .int n) d.forms.2)]

instance : Shown ScreenDensity := Shown.ofFields "ScreenDensity" fun d =>
  [("density_alias", Shown.nullable (fun b => some (Literal.member b.label b)) d.forms.1),
    ("density_dpi", Shown.nullable Text.writeNatural? d.forms.2)]

end ScreenDensity

end DeviceSplit
