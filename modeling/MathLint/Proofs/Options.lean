import MathLint.CommandLine.Basic
import MathLint.Proofs.Value
import MathLint.Service

/-!
# Options that choose a profile

Options choose a profile by a value that is put into text. An integer that is too long to be written
chooses none; every other value chooses a profile of the registry. So does whatever a text names:
what comes from the settings, from the arguments of the program, or from a request.

* `ProfileChoice.exists_profile_iff`: the values that choose a profile.
* `Options.profile_ofSettings`, `CommandLine.profile_optionsOf`,
  `Service.exists_profile_optionFields`: the options that always choose one.
* `Settings.ofEnvironment_of_unset`: what is chosen where nothing is set.
-/

namespace MathLint

/-- A profile that has a name is one of the registry. -/
theorem Profile.resolve_mem_registry (name : String) : Profile.resolve name ∈ Profile.registry := by
  unfold Profile.resolve
  dsimp only
  cases h : Profile.registry.find? _ with
  | none => exact List.mem_cons_self
  | some p => exact List.mem_of_find?_eq_some h

namespace ProfileChoice

variable {v : Value}

theorem profile_str (s : String) : (named (.str s)).profile = .ok (Profile.resolve s) := by
  rw [profile, Profile.ofLoose, Loose.label_str]
  rfl

/-- A value that has a text chooses a profile of the registry. -/
theorem exists_profile (h : v.IsWritable) :
    ∃ p ∈ Profile.registry, (named v).profile = .ok p := by
  obtain ⟨s, hs⟩ := Loose.exists_label h
  refine ⟨Profile.resolve s, Profile.resolve_mem_registry s, ?_⟩
  rw [profile, Profile.ofLoose, hs]
  rfl

/-- A value that has no text chooses no profile. -/
theorem profile_of_not_isWritable (h : ¬ v.IsWritable) :
    (named v).profile = .error (.integer .unwritable) := by
  rw [profile, Profile.ofLoose, Loose.label_of_not_isWritable h]
  rfl

theorem exists_profile_iff : (∃ p, (named v).profile = .ok p) ↔ v.IsWritable := by
  constructor
  · rintro ⟨p, hp⟩
    by_contra h
    rw [profile_of_not_isWritable h] at hp
    cases hp
  · intro h
    obtain ⟨p, -, hp⟩ := exists_profile h
    exact ⟨p, hp⟩

end ProfileChoice

/-! ## Options that come from texts -/

theorem Options.profile_ofSettings (s : Settings) :
    (ofSettings s).profile.profile = .ok (Profile.resolve s.defaultProfile) :=
  ProfileChoice.profile_str _

theorem CommandLine.profile_optionsOf (s : Settings) (job : Arguments.Job) :
    (optionsOf s job).profile.profile = .ok (Profile.resolve job.profile) :=
  ProfileChoice.profile_str _

/-- The options in the body of a request choose a profile of the registry. -/
theorem Service.exists_profile_optionFields (s : Settings) (body : List (String × Value)) :
    ∃ p ∈ Profile.registry, (optionFields s body).2.profile.profile = .ok p := by
  unfold optionFields
  dsimp only
  cases (profileField body).2 with
  | none => exact ⟨_, Profile.resolve_mem_registry _, Options.profile_ofSettings s⟩
  | some name => exact ⟨_, Profile.resolve_mem_registry _, ProfileChoice.profile_str name⟩

/-! ## Where nothing is set -/

/-- Where no variable of the environment is set, the settings are the usual ones, but for the place
of the log file. -/
theorem Settings.ofEnvironment_of_unset {env : Environment}
    (h : ∀ name ∈ variableNames, env.lookup name = none) (bundled : Option String) :
    ofEnvironment env bundled = .ok { usual with logFile := logPath env bundled } := by
  have hget : ∀ name ∈ variableNames, ∀ otherwise, get env name otherwise = otherwise := by
    intro name hname otherwise
    rw [get, h name hname]
    rfl
  simp only [variableNames, List.forall_mem_cons] at hget
  obtain ⟨hhost, hport, hlevel, hprofile, hignore, hprefixes, -⟩ := hget
  unfold ofEnvironment
  rw [hhost, hport, hlevel, hprofile, hignore, hprefixes]
  rfl

/-- A caller who chooses nothing then gets the default profile, and the metadata that options and
contexts pass over of themselves. -/
theorem Options.ofSettings_usual :
    ofSettings .usual = {} ∧ (ofSettings .usual).profile.profile = .ok Profile.default ∧
      ∀ p, Context.ofProfile p (ofSettings .usual) =
        { profile := p, rules := RuleSet.ofName p.version } :=
  ⟨rfl, (profile_ofSettings _).trans (congrArg Except.ok (by decide)), fun _ => rfl⟩

end MathLint
