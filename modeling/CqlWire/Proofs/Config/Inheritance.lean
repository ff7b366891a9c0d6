import CqlWire.Proofs.Config.Profile
import Mathlib.Data.List.Induction
import Std.Data.ExtTreeMap.Lemmas

/-!
# Profiles of a configuration

A configuration is built from a default profile by adding others.  Of the profiles that were added
under a name only the last one counts, and it takes what it does not define from the default
profile, which never changes (`Configuration.getElem?_named_built`).  So what is found under a name
depends on nothing but the profiles of this name, in their order
(`Configuration.profile_of_built`).

The name of the default profile is special.  It always means the default profile, so that an added
profile of this name can not be found, but is listed all the same
(`Configuration.profileNames_of_built`).
-/

namespace CqlWire

/-! ### Reading an option -/

namespace Profile

variable {profile base other : Profile} {option : ConfigOption} {setting : Setting}

/-- What is read of an option that has to be of a type. -/
def read (profile : Profile) (option : ConfigOption) : SettingType → Except ConfigError Setting
  | .string => (profile.getString option).map .string
  | .int => (profile.getInt option).map .int
  | .duration => (profile.getDuration option).map .duration

/-- A setting is read as it is, and refused where another type is asked for. -/
theorem read_of_some (h : profile.setting? option = some setting) (type : SettingType) :
    profile.read option type
      = if setting.type = type then .ok setting else .error (.wrongType option type) := by
  cases type <;> cases setting <;>
    simp [read, getString, getInt, getDuration, get, h, Setting.type, Except.map]

theorem read_of_none (h : profile.setting? option = none) (type : SettingType) :
    profile.read option type = .error (.missing option) := by
  cases type <;> simp [read, getString, getInt, getDuration, get, h, Except.map]

/-- Profiles with the same setting under an option are read alike. -/
theorem read_congr (h : other.setting? option = profile.setting? option) (type : SettingType) :
    other.read option type = profile.read option type := by
  cases hsetting : profile.setting? option with
  | none => rw [read_of_none (h.trans hsetting), read_of_none hsetting]
  | some setting => rw [read_of_some (h.trans hsetting), read_of_some hsetting]

theorem read_eq_missing_iff {type : SettingType} :
    profile.read option type = .error (.missing option) ↔ profile.setting? option = none := by
  refine ⟨fun h => ?_, fun h => read_of_none h type⟩
  cases hsetting : profile.setting? option with
  | none => rfl
  | some setting =>
    rw [read_of_some hsetting] at h
    split_ifs at h
    exact nomatch h

/-! ### Inheriting -/

theorem setting?_inherit_of_some (h : profile.setting? option = some setting) :
    (profile.inherit base).setting? option = profile.setting? option := by
  show (profile.setting? option).or (base.setting? option) = _
  rw [h, Option.some_or]

theorem setting?_inherit_of_none (h : profile.setting? option = none) :
    (profile.inherit base).setting? option = base.setting? option := by
  show (profile.setting? option).or (base.setting? option) = _
  rw [h, Option.none_or]

theorem setting?_inherit_eq_none_iff :
    (profile.inherit base).setting? option = none ↔
      profile.setting? option = none ∧ base.setting? option = none :=
  Option.or_eq_none_iff

end Profile

namespace Configuration

variable {configuration : Configuration} {default : Profile} {added other : List Profile}
  {name : String}

/-! ### Adding profiles -/

/-- The configuration with a default profile after others were added. -/
def built (default : Profile) (added : List Profile) : Configuration :=
  added.foldl add { default }

theorem built_concat (default : Profile) (added : List Profile) (last : Profile) :
    built default (added ++ [last]) = (built default added).add last :=
  List.foldl_concat ..

@[simp] theorem default_built (default : Profile) (added : List Profile) :
    (built default added).default = default := by
  induction added using List.reverseRecOn with
  | nil => rfl
  | append_singleton added last ih => rw [built_concat, add, ih]

theorem getElem?_named_add (configuration : Configuration) (profile : Profile) (name : String) :
    (configuration.add profile).named[name]? =
      if profile.name = name then some (profile.inherit configuration.default)
      else configuration.named[name]? := by
  rw [add, Std.ExtTreeMap.getElem?_insert]
  simp only [Std.LawfulEqCmp.compare_eq_iff_eq]

/-- Of the profiles of a name the last one is kept, with what it takes from the default profile. -/
theorem getElem?_named_built (default : Profile) (added : List Profile) (name : String) :
    (built default added).named[name]? =
      (added.filter fun profile => profile.name = name).getLast?.map (·.inherit default) := by
  induction added using List.reverseRecOn with
  | nil => exact Std.ExtTreeMap.getElem?_empty
  | append_singleton added last ih =>
    rw [built_concat, getElem?_named_add, default_built, ih, List.filter_append]
    by_cases hname : last.name = name
    · simp [hname]
    · simp [hname]

theorem getElem?_named_built_eq_none_iff :
    (built default added).named[name]? = none ↔ ∀ profile ∈ added, profile.name ≠ name := by
  rw [getElem?_named_built, Option.map_eq_none_iff, List.getLast?_eq_none_iff,
    List.filter_eq_nil_iff]
  simp only [decide_eq_true_eq, ne_eq]

theorem mem_named_built_iff :
    name ∈ (built default added).named ↔ ∃ profile ∈ added, profile.name = name := by
  rw [Std.ExtTreeMap.mem_iff_isSome_getElem?, ← Option.ne_none_iff_isSome, ne_eq,
    getElem?_named_built_eq_none_iff]
  simp only [ne_eq, not_forall, not_not, exists_prop]

/-- The last profile of a name is the one that is kept. -/
theorem getElem?_named_built_of_last {before after : List Profile} {last : Profile}
    (hafter : ∀ profile ∈ after, profile.name ≠ last.name) :
    (built default (before ++ last :: after)).named[last.name]? = some (last.inherit default) := by
  have hnone : (after.filter fun profile => profile.name = last.name) = [] := by
    rw [List.filter_eq_nil_iff]
    simpa only [decide_eq_true_eq] using hafter
  rw [getElem?_named_built, List.filter_append, List.filter_cons_of_pos (by simp), hnone,
    List.getLast?_concat, Option.map_some]

/-! ### Finding a profile -/

theorem profile_defaultName (configuration : Configuration) :
    configuration.profile Profile.defaultName = .ok configuration.default :=
  if_pos rfl

theorem profile_eq_ok_iff {found : Profile} (hname : name ≠ Profile.defaultName) :
    configuration.profile name = .ok found ↔ configuration.named[name]? = some found := by
  rw [profile, if_neg hname]
  cases configuration.named[name]? <;> simp

theorem profile_eq_error_iff {error : ConfigError} (hname : name ≠ Profile.defaultName) :
    configuration.profile name = .error error ↔
      configuration.named[name]? = none ∧ error = .unknownProfile name := by
  rw [profile, if_neg hname]
  cases configuration.named[name]? <;> simp [eq_comm]

/-! ### Names -/

theorem mem_profileNames_iff :
    name ∈ configuration.profileNames ↔ ∃ found, configuration.profile name = .ok found := by
  rw [profileNames, List.mem_cons, Std.ExtTreeMap.mem_keys]
  by_cases hname : name = Profile.defaultName
  · rw [hname, profile_defaultName]
    exact iff_of_true (.inl rfl) ⟨_, rfl⟩
  · rw [or_iff_right hname, Std.ExtTreeMap.mem_iff_isSome_getElem?, Option.isSome_iff_exists]
    simp only [profile_eq_ok_iff hname]

theorem nodup_keys_named (configuration : Configuration) : configuration.named.keys.Nodup := by
  refine configuration.named.distinct_keys.imp fun hdistinct hsame => hdistinct ?_
  rw [hsame, Std.LawfulEqCmp.compare_eq_iff_eq]

/-- **All names that are listed can be found, and the other way round.**  Behind the name of the
default profile stand the names of the profiles that were added, each once.  So no name is listed
twice unless a profile with the name of the default profile was added.  A profile that is added can
be found under its name, and is read as it is wherever it defines an option; but under the name of
the default profile the default profile is found. -/
theorem profileNames_of_built (default : Profile) (added : List Profile) :
    let configuration := built default added
    (∀ name, name ∈ configuration.profileNames ↔
      ∃ found, configuration.profile name = .ok found) ∧
    (∃ names, configuration.profileNames = Profile.defaultName :: names ∧ names.Nodup ∧
      ∀ name, name ∈ names ↔ ∃ profile ∈ added, profile.name = name) ∧
    (configuration.profileNames.Nodup ↔
      ∀ profile ∈ added, profile.name ≠ Profile.defaultName) ∧
    ∀ profile,
      (profile.name ≠ Profile.defaultName →
        ∃ found, (configuration.add profile).profile profile.name = .ok found ∧
          found.name = profile.name ∧
          ∀ option, profile.isDefined option → found.isDefined option ∧
            ∀ type, found.read option type = profile.read option type) ∧
      (profile.name = Profile.defaultName →
        (configuration.add profile).profile profile.name = .ok default) := by
  intro configuration
  have hnames (name : String) :
      name ∈ configuration.named.keys ↔ ∃ profile ∈ added, profile.name = name := by
    rw [Std.ExtTreeMap.mem_keys, mem_named_built_iff]
  refine ⟨fun name => mem_profileNames_iff,
    ⟨_, rfl, nodup_keys_named configuration, hnames⟩, ?_, fun profile => ⟨fun hname => ?_, ?_⟩⟩
  · rw [profileNames, List.nodup_cons, and_iff_left (nodup_keys_named configuration), hnames]
    simp only [not_exists, not_and, ne_eq]
  · have hfound : (configuration.add profile).named[profile.name]?
        = some (profile.inherit configuration.default) := by
      rw [getElem?_named_add, if_pos rfl]
    refine ⟨_, (profile_eq_ok_iff hname).mpr hfound, rfl, fun option hdefined => ?_⟩
    obtain ⟨setting, hsetting⟩ := Option.isSome_iff_exists.mp hdefined
    have hsame : (profile.inherit configuration.default).setting? option
        = profile.setting? option := Profile.setting?_inherit_of_some hsetting
    exact ⟨(congrArg Option.isSome hsame).trans hdefined, Profile.read_congr hsame⟩
  · intro hname
    rw [hname, profile_defaultName]
    exact congrArg Except.ok (default_built default added)

/-- A profile of the name of the default profile is listed as a second one of that name, and is not
found.  What is added after it under another name is found. -/
theorem profileNames_of_built_of_defaultName :
    let hidden := (Profile.empty "default").set .requestPageSize (.int 1)
    let later := (Profile.empty "a").set .requestPageSize (.int 2)
    ¬ (built .standard [hidden]).profileNames.Nodup ∧
      (built .standard [hidden]).profile hidden.name = .ok .standard ∧
      Profile.standard.read .requestPageSize .int ≠ hidden.read .requestPageSize .int ∧
      ∃ found, ((built .standard [hidden]).add later).profile "a" = .ok found ∧
        found.read .requestPageSize .int = .ok (.int 2) := by
  intro hidden later
  obtain ⟨-, -, hnodup, hadd⟩ := profileNames_of_built .standard [hidden]
  obtain ⟨-, -, -, hfirst⟩ := profileNames_of_built .standard []
  obtain ⟨found, hfound, -, hread⟩ := (hadd later).1 (by decide)
  refine ⟨fun h => hnodup.mp h hidden List.mem_cons_self rfl, (hfirst hidden).2 rfl, by decide,
    found, hfound, ?_⟩
  exact ((hread .requestPageSize rfl).2 .int).trans rfl

/-! ### What is inherited -/

/-- Whether two lists have the same profiles of each name, in the same order. -/
def SameByName (added other : List Profile) : Prop :=
  ∀ name, (other.filter fun profile => profile.name = name)
    = added.filter fun profile => profile.name = name

/-- Profiles of different names may be added the other way round. -/
theorem sameByName_swap {first second : Profile} (h : first.name ≠ second.name)
    (before after : List Profile) :
    SameByName (before ++ first :: second :: after) (before ++ second :: first :: after) := by
  intro name
  rw [List.filter_append, List.filter_append]
  congr 1
  by_cases hfirst : first.name = name
  · have hsecond : second.name ≠ name := fun hsecond => h (hfirst.trans hsecond.symm)
    simp [hfirst, hsecond]
  · simp [List.filter_cons, hfirst]

theorem named_built_eq_of_sameByName (h : SameByName added other) :
    (built default other).named = (built default added).named := by
  refine Std.ExtTreeMap.ext_getElem? fun name => ?_
  rw [getElem?_named_built, getElem?_named_built, h name]

/-- **A profile inherits from the default profile and from nothing else.**  The default profile
never changes, and its name always means it.  Under another name nothing is found exactly if no
profile of the name was added.  Otherwise the last one of the name is found: each option that it
defines is read as its own setting, also where that has the wrong type, each other option as the
default profile gives it, and an option is missing exactly if neither of the two defines it.
Profiles may be added in any order that keeps the order of those of one name: the same profiles are
found under all names, and the same names are listed. -/
theorem profile_of_built (default : Profile) (added : List Profile) :
    let configuration := built default added
    configuration.default = default ∧
    configuration.profile Profile.defaultName = .ok default ∧
    (∀ name, name ≠ Profile.defaultName → ∀ error, configuration.profile name = .error error ↔
      (∀ profile ∈ added, profile.name ≠ name) ∧ error = .unknownProfile name) ∧
    (∀ before last after, added = before ++ last :: after → last.name ≠ Profile.defaultName →
      (∀ profile ∈ after, profile.name ≠ last.name) →
      ∃ found, configuration.profile last.name = .ok found ∧ found.name = last.name ∧
        ∀ option type,
          (∀ setting, last.setting? option = some setting → found.read option type
            = if setting.type = type then .ok setting else .error (.wrongType option type)) ∧
          (last.setting? option = none → found.read option type = default.read option type) ∧
          (found.read option type = .error (.missing option) ↔
            last.setting? option = none ∧ default.setting? option = none)) ∧
    ∀ other, SameByName added other →
      (∀ name, (built default other).profile name = configuration.profile name) ∧
      (built default other).profileNames = configuration.profileNames := by
  intro configuration
  have hdefault : configuration.default = default := default_built default added
  refine ⟨hdefault, ?_, fun name hname error => ?_, fun before last after hadded hname hafter => ?_,
    fun other hother => ⟨fun name => ?_, ?_⟩⟩
  · rw [profile_defaultName, hdefault]
  · rw [profile_eq_error_iff hname, getElem?_named_built_eq_none_iff]
  · have hfound : configuration.named[last.name]? = some (last.inherit default) := by
      rw [← getElem?_named_built_of_last hafter, ← hadded]
    refine ⟨_, (profile_eq_ok_iff hname).mpr hfound, rfl, fun option type => ⟨?_, ?_, ?_⟩⟩
    · intro setting hsetting
      exact Profile.read_of_some ((Profile.setting?_inherit_of_some hsetting).trans hsetting) type
    · intro hnone
      exact Profile.read_congr (Profile.setting?_inherit_of_none hnone) type
    · rw [Profile.read_eq_missing_iff, Profile.setting?_inherit_eq_none_iff]
  · rw [profile, profile, default_built, hdefault, named_built_eq_of_sameByName hother]
  · rw [profileNames, profileNames, named_built_eq_of_sameByName hother]

/-- Three profiles, two of one name.  The last one gives a text for the size of a page. -/
def threeProfiles : List Profile := [
  (Profile.empty "a").set .requestTimeout (.duration (.ofSeconds 1)),
  (Profile.empty "b").set .requestPageSize (.int 7),
  (Profile.empty "a").set .requestPageSize (.string "two")]

/-- The text hides the number of the default profile, and the time span of the first profile is
gone.  It does not matter when the profile of the other name was added. -/
theorem profile_of_built_of_threeProfiles :
    ∃ found, (built .standard threeProfiles).profile "a" = .ok found ∧
      found.read .requestPageSize .int = .error (.wrongType .requestPageSize .int) ∧
      found.read .requestTimeout .duration = .ok (.duration (.ofSeconds 2)) ∧
      found.read .protocolVersion .int = .error (.missing .protocolVersion) ∧
      (built .standard threeProfiles).profile "c" = .error (.unknownProfile "c") ∧
      (built .standard [threeProfiles[1], threeProfiles[0], threeProfiles[2]]).profile "a"
        = .ok found := by
  obtain ⟨-, -, hunknown, hlast, horder⟩ := profile_of_built .standard threeProfiles
  obtain ⟨found, hfound, -, hread⟩ :=
    hlast [threeProfiles[0], threeProfiles[1]] threeProfiles[2] [] rfl (by decide) (by simp)
  have hnone : (built .standard threeProfiles).profile "c" = .error (.unknownProfile "c") :=
    (hunknown "c" (by decide) _).mpr ⟨by decide, rfl⟩
  have hswapped := (horder [threeProfiles[1], threeProfiles[0], threeProfiles[2]]
    (sameByName_swap (by decide) [] _)).1 "a"
  refine ⟨found, hfound, (hread .requestPageSize .int).1 _ rfl, ?_,
    (hread .protocolVersion .int).2.2.mpr ⟨rfl, rfl⟩, hnone, hswapped.trans hfound⟩
  exact ((hread .requestTimeout .duration).2.1 rfl).trans (by decide)

end Configuration

end CqlWire
