import DeviceSplit.Proofs.ReadBack.Basic

set_option autoImplicit false

/-! # Reading back the values of dimensions -/

namespace DeviceSplit

theorem Abi.readsBack : ReadsBack (read : Data → Checked Abi) (fun _ => True) Written :=
  ((ReadsBack.word .unknownWord).required "alias").record

theorem TextureFormat.readsBack :
    ReadsBack (read : Data → Checked TextureFormat) (fun _ => True) Written :=
  ((ReadsBack.word .unknownWord).required "alias").record

theorem ApiVersion.readsBack :
    ReadsBack (read : Data → Checked ApiVersion) (fun _ => True) Written := by
  have hmajor := (ReadsBack.atLeast 0).withDefault "major" 0 (Nat.zero_le 0)
  have hminor := (ReadsBack.atLeast 0).withDefault "minor" 0 (Nat.zero_le 0)
  have hfields := hmajor.map₂ hminor ApiVersion.mk ApiVersion.major ApiVersion.minor
    (fun _ _ => rfl) (fun _ _ => rfl) (fun _ => rfl)
  exact hfields.record.congr_sound fun v => iff_of_true ⟨v.major.zero_le, v.minor.zero_le⟩ trivial

theorem GraphicsApi.readsBack :
    ReadsBack (read : Data → Checked GraphicsApi) (fun _ => True) Written := by
  have hversion (name : String) := ApiVersion.readsBack.optional (fun _ h => nomatch h) name
  have hversions := (hversion "min_open_gl_version").map₂ (hversion "min_vulkan_version")
    Prod.mk Prod.fst Prod.snd (fun _ _ => rfl) (fun _ _ => rfl) (fun _ => rfl)
  refine (hversions.andThen ofVersions versions (fun _ _ _ _ => trivial) fun g _ => ?_).record
  exact ⟨⟨fun _ _ => trivial, fun _ _ => trivial⟩, ofVersions_versions g⟩

theorem SdkVersion.readsBack :
    ReadsBack (read : Data → Checked SdkVersion) SdkVersion.Admissible Written := by
  have hmin := (ReadsBack.atLeast 1).required "min"
  exact (hmin.map SdkVersion.mk SdkVersion.min (fun _ h => h) fun _ h => ⟨h, rfl⟩).record

theorem ScreenDensity.ofForms_eq_ok_iff {p : Option DensityBucket × Option Nat}
    {s : ScreenDensity} : ofForms p = .ok s ↔ p = s.forms := by
  constructor
  · intro h
    rcases p with ⟨_ | b, _ | n⟩
    · exact nomatch h
    · obtain rfl := Checked.ok.inj h
      rfl
    · obtain rfl := Checked.ok.inj h
      rfl
    · exact nomatch h
  · rintro rfl
    exact ofForms_forms s

theorem ScreenDensity.readsBack :
    ReadsBack (read : Data → Checked ScreenDensity) ScreenDensity.Admissible Written := by
  have hbucket := (ReadsBack.word (α := DensityBucket) .unknownWord).optional
    (fun _ h => nomatch h) "density_alias"
  have hdpi := (ReadsBack.above 0).optional (fun _ h => nomatch h) "density_dpi"
  have hforms := hbucket.map₂ hdpi Prod.mk Prod.fst Prod.snd (fun _ _ => rfl) (fun _ _ => rfl)
    (fun _ => rfl)
  refine (hforms.andThen ofForms forms ?_ ?_).record
  · rintro p s ⟨-, hpos⟩ hs
    obtain rfl := ofForms_eq_ok_iff.1 hs
    cases s with
    | bucket b => trivial
    | dpi n => exact hpos n rfl
  · intro s hs
    refine ⟨⟨fun _ _ => trivial, fun n hn => ?_⟩, ofForms_forms s⟩
    cases s with
    | bucket b => exact nomatch hn
    | dpi k => exact Option.some.inj hn ▸ hs

theorem Dimension.readsBack (d : Dimension) :
    ReadsBack (read : Data → Checked d.Value) d.Admissible Written := by
  cases d with
  | abi => exact Abi.readsBack
  | language => exact ReadsBack.text
  | textureFormat => exact TextureFormat.readsBack
  | graphicsApi => exact GraphicsApi.readsBack
  | sdkVersion => exact SdkVersion.readsBack
  | screenDensity => exact ScreenDensity.readsBack

end DeviceSplit
