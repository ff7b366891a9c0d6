import CqlWire.Context
import CqlWire.Proofs.Config.Consistency
import CqlWire.Proofs.Reason

/-!
# Settings that a profile does not give

Every request carries a consistency level, a level for its conditional part and a page size.  What
can be wrong with each of them is listed in the order in which they are read (`Profile.defects`),
and reading them fails exactly for the first thing that is wrong (`Profile.failsBy_ofProfile`).  It
succeeds exactly for the profiles that give all three (`Profile.exists_ofProfile_eq_ok_iff`).
-/

namespace CqlWire

/-- The type of a setting. -/
def Setting.type : Setting → SettingType
  | string _ => .string
  | int _ => .int
  | duration _ => .duration

namespace Profile

variable {profile : Profile} {option : ConfigOption} {type : SettingType} {error : ConfigError}

/-- Why a profile has no setting of a type under an option. -/
inductive Lacks (profile : Profile) (option : ConfigOption) (type : SettingType) :
    ConfigError → Prop
  | missing (hsetting : profile.setting? option = none) :
    Lacks profile option type (.missing option)
  | wrongType {setting : Setting} (hsetting : profile.setting? option = some setting)
      (htype : setting.type ≠ type) :
    Lacks profile option type (.wrongType option type)

/-- Why a text under an option does not name a consistency level. -/
inductive NamesNoLevel (profile : Profile) (option : ConfigOption) : ConfigError → Prop
  | unknown {text : String} (hsetting : profile.setting? option = some (.string text))
      (hlevel : ∀ level : Consistency, ¬ level.IsSpelledBy text) :
    NamesNoLevel profile option (.unknownConsistencyName text)

/-- Why a profile does not give the settings that every request carries. -/
def defects (profile : Profile) : List (ConfigError → Prop) :=
  [profile.Lacks .requestConsistency .string, profile.NamesNoLevel .requestConsistency,
    profile.Lacks .requestSerialConsistency .string,
    profile.NamesNoLevel .requestSerialConsistency,
    profile.Lacks .requestPageSize .int]

/-- An option is refused if it is not set, or if what reads it takes no setting of its type. -/
theorem get_eq_error_iff {α : Type} {select : Setting → Option α}
    (hselect : ∀ setting, select setting = none ↔ setting.type ≠ type) :
    profile.get option type select = .error error ↔ profile.Lacks option type error := by
  unfold get
  cases hsetting : profile.setting? option with
  | none =>
    constructor
    · rintro ⟨⟩
      exact .missing hsetting
    · rintro (_ | ⟨hother, _⟩)
      · rfl
      · exact nomatch hsetting.symm.trans hother
  | some setting =>
    have hlacks : profile.Lacks option type error ↔
        setting.type ≠ type ∧ .wrongType option type = error := by
      constructor
      · rintro (hother | ⟨hother, htype⟩)
        · exact nomatch hsetting.symm.trans hother
        · obtain rfl := Option.some.inj (hsetting.symm.trans hother)
          exact ⟨htype, rfl⟩
      · rintro ⟨htype, rfl⟩
        exact .wrongType hsetting htype
    rw [hlacks, ← hselect]
    cases hselected : select setting <;> simp [hselected]

theorem getString_eq_error_iff :
    profile.getString option = .error error ↔ profile.Lacks option .string error :=
  get_eq_error_iff fun setting => by cases setting <;> simp [Setting.type]

theorem getInt_eq_error_iff :
    profile.getInt option = .error error ↔ profile.Lacks option .int error :=
  get_eq_error_iff fun setting => by cases setting <;> simp [Setting.type]

/-- An option is read as what its setting gives. -/
theorem get_eq_ok_iff {α : Type} {select : Setting → Option α} {value : α} :
    profile.get option type select = .ok value ↔
      ∃ setting, profile.setting? option = some setting ∧ select setting = some value := by
  unfold get
  cases hsetting : profile.setting? option with
  | none => simp
  | some setting => cases hselected : select setting <;> simp [hselected]

theorem getString_eq_ok_iff {text : String} :
    profile.getString option = .ok text ↔ profile.setting? option = some (.string text) := by
  rw [getString, get_eq_ok_iff]
  constructor
  · rintro ⟨setting, hsetting, hselected⟩
    cases setting with
    | string found => rw [hsetting, Option.some.inj hselected]
    | int number => exact nomatch hselected
    | duration span => exact nomatch hselected
  · exact fun hsetting => ⟨_, hsetting, rfl⟩

theorem getInt_eq_ok_iff {number : Int32} :
    profile.getInt option = .ok number ↔ profile.setting? option = some (.int number) := by
  rw [getInt, get_eq_ok_iff]
  constructor
  · rintro ⟨setting, hsetting, hselected⟩
    cases setting with
    | string text => exact nomatch hselected
    | int found => rw [hsetting, Option.some.inj hselected]
    | duration span => exact nomatch hselected
  · exact fun hsetting => ⟨_, hsetting, rfl⟩

/-- Two checks are made of a level: whether there is a text, and whether it names a level. -/
theorem failsBy_level {β : Type} {next : Consistency → Except ConfigError β}
    {reasons : List (ConfigError → Prop)} (hnext : ∀ level, FailsBy (next level) reasons) :
    FailsBy (do next (← Consistency.ofName (← profile.getString option)))
      (profile.Lacks option .string :: profile.NamesNoLevel option :: reasons) := by
  refine (FailsBy.of_eq_error_iff fun _ => getString_eq_error_iff).bind fun text htext => ?_
  have hsetting := getString_eq_ok_iff.mp htext
  have hname (error : ConfigError) :
      Consistency.ofName text = .error error ↔ profile.NamesNoLevel option error := by
    rw [Consistency.ofName_eq_error_iff]
    constructor
    · rintro ⟨hlevel, rfl⟩
      exact .unknown hsetting hlevel
    · rintro ⟨hother, hlevel⟩
      obtain rfl := Setting.string.inj (Option.some.inj (hsetting.symm.trans hother))
      exact ⟨hlevel, rfl⟩
  exact (FailsBy.of_eq_error_iff hname).bind fun level _ => hnext level

theorem failsBy_ofProfile (profile : Profile) :
    FailsBy (RequestSettings.ofProfile profile) profile.defects := by
  refine failsBy_level fun consistency => failsBy_level fun serialConsistency => ?_
  exact (FailsBy.of_eq_error_iff fun _ => getInt_eq_error_iff).map _

/-! ### Complete profiles -/

/-- Whether a profile gives all settings that every request carries. -/
structure IsComplete (profile : Profile) : Prop where
  consistency : ∃ text level, profile.setting? .requestConsistency = some (.string text) ∧
    Consistency.IsSpelledBy level text
  serialConsistency : ∃ text level,
    profile.setting? .requestSerialConsistency = some (.string text) ∧
      Consistency.IsSpelledBy level text
  pageSize : ∃ size, profile.setting? .requestPageSize = some (.int size)

/-- Exactly the complete profiles give the settings of a request. -/
theorem exists_ofProfile_eq_ok_iff :
    (∃ settings, RequestSettings.ofProfile profile = .ok settings) ↔ profile.IsComplete := by
  constructor
  · rintro ⟨settings, h⟩
    obtain ⟨text, htext, h⟩ := bind_eq_ok_iff.mp h
    obtain ⟨level, hlevel, h⟩ := bind_eq_ok_iff.mp h
    obtain ⟨text', htext', h⟩ := bind_eq_ok_iff.mp h
    obtain ⟨level', hlevel', h⟩ := bind_eq_ok_iff.mp h
    obtain ⟨size, hsize, -⟩ := bind_eq_ok_iff.mp h
    exact ⟨⟨text, level, getString_eq_ok_iff.mp htext, Consistency.ofName_eq_ok_iff.mp hlevel⟩,
      ⟨text', level', getString_eq_ok_iff.mp htext', Consistency.ofName_eq_ok_iff.mp hlevel'⟩,
      size, getInt_eq_ok_iff.mp hsize⟩
  · rintro ⟨⟨text, level, htext, hlevel⟩, ⟨text', level', htext', hlevel'⟩, size, hsize⟩
    exact ⟨_, bind_eq_ok_iff.mpr ⟨text, getString_eq_ok_iff.mpr htext,
      bind_eq_ok_iff.mpr ⟨level, Consistency.ofName_eq_ok_iff.mpr hlevel,
      bind_eq_ok_iff.mpr ⟨text', getString_eq_ok_iff.mpr htext',
      bind_eq_ok_iff.mpr ⟨level', Consistency.ofName_eq_ok_iff.mpr hlevel',
      bind_eq_ok_iff.mpr ⟨size, getInt_eq_ok_iff.mpr hsize, rfl⟩⟩⟩⟩⟩⟩

end Profile

end CqlWire
