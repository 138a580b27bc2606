import Firewall.Settings.Findings

/-!
Which settings keep an instance from starting. A finding is printed as one line, and a line that
begins with the mark of fatal findings is what stops a start. The lines quote settings, but only
behind their marks, so that nothing that is quoted can make a line look more or less serious.

Proved here:

* `Finding.marked_message_iff`: the line of a finding has the mark exactly if the finding is fatal;
* `Settings.hasFatal_iff`, `Settings.marked_iff`: settings have a fatal finding, and a marked
  line, exactly if they are unfit;
* `StoreSettings.pause_ne_zero`: the pause between two polls is only zero where it is set to zero.
-/

namespace Firewall

namespace Finding

/-- A line that begins with the mark of fatal findings. -/
def Marked (line : String) : Prop := "[X]".toList <+: line.toList

/-- **The mark of a line says how much its finding weighs**, whatever the line quotes. -/
theorem marked_message_iff (f : Finding) : Marked f.message ↔ f.weight = .fatal := by
  unfold Marked message
  rw [String.toList_append]
  cases f.weight <;> simp [Weight.sign]

end Finding

namespace StoreSettings

theorem kind?_eq_none_iff (s : StoreSettings) :
    s.kind? = none ↔ s.backend ≠ "memory" ∧ s.backend ≠ "redis" := by
  unfold kind? Backend.ofName?
  by_cases hmemory : s.backend = "memory"
  · simp [hmemory]
  · by_cases hshared : s.backend = "redis" <;> simp [hmemory, hshared]

theorem pause_ne_zero {s : StoreSettings} (h : s.pollMillis ≠ 0) : s.pause ≠ (0, 0) := by
  intro hpause
  obtain ⟨hseconds, hnanos⟩ := Prod.mk.inj hpause
  have hseconds := congrArg UInt64.toNat hseconds
  have hnanos := congrArg UInt32.toNat hnanos
  refine h (UInt64.toNat_inj.1 ?_)
  simp at hseconds hnanos ⊢
  omega

end StoreSettings

namespace Settings

/-- Settings with which an instance cannot do its work. -/
inductive Unfit (s : Settings) : Prop
  | level (h : s.logging.level ∉ ["trace", "debug", "info", "warn", "error"])
  | format (h : s.logging.format ∉ ["json", "pretty", "text"])
  | backend (hmemory : s.store.backend ≠ "memory") (hshared : s.store.backend ≠ "redis")
  | neverPolls (h : s.store.pollMillis = 0)
  | noTimeout (henable : s.countries.enable = true) (htimeout : s.countries.timeout = 0)
  | template {cause : BadOutput} (h : Template.parse s.audit.format = .error cause)

theorem kind_of_fit {s : Settings} (h : ¬ s.Unfit) : s.store.kind? ≠ none := by
  intro hkind
  obtain ⟨hmemory, hshared⟩ := s.store.kind?_eq_none_iff.1 hkind
  exact h (.backend hmemory hshared)

theorem template_of_fit {s : Settings} (h : ¬ s.Unfit) :
    ∃ template, Template.parse s.audit.format = .ok template := by
  cases ht : Template.parse s.audit.format with
  | error cause => exact absurd (.template ht) h
  | ok template => exact ⟨template, rfl⟩

/-! ## The findings -/

theorem hasFatal_append (fs gs : List Finding) :
    hasFatal (fs ++ gs) = (hasFatal fs || hasFatal gs) :=
  List.any_append

theorem hasFatal_found (is : Bool) (f : Finding) :
    hasFatal (found is f) = (is && f.weight == .fatal) := by
  cases is <;> simp [found, hasFatal]

theorem hasFatal_templateFindings (format : String) :
    hasFatal (templateFindings format) = true ↔ ∃ cause, Template.parse format = .error cause := by
  unfold templateFindings
  cases Template.parse format with
  | ok template => simp [hasFatal]
  | error cause => simp [hasFatal, Finding.weight]

/-- What is said about country databases stops no start. -/
theorem hasFatal_countryFindings (d : Disk) (c : CountrySettings) :
    hasFatal (countryFindings d c) = false := by
  unfold countryFindings
  cases c.enable with
  | false => rfl
  | true => simp [hasFatal_append, hasFatal_found, Finding.weight]

/-- **Settings have a fatal finding exactly if they are unfit.** -/
theorem hasFatal_iff (s : Settings) (d : Disk) : hasFatal (s.findings d) = true ↔ s.Unfit := by
  have hall : hasFatal (s.findings d) = true ↔
      s.logging.level ∉ levels ∨ s.logging.format ∉ formats ∨ s.store.kind? = none ∨
        s.store.pollMillis = 0 ∨ (s.countries.enable = true ∧ s.countries.timeout = 0) ∨
        ∃ cause, Template.parse s.audit.format = .error cause := by
    unfold findings
    simp [hasFatal_append, hasFatal_found, hasFatal_countryFindings, hasFatal_templateFindings,
      Finding.weight]
  rw [hall, s.store.kind?_eq_none_iff]
  constructor
  · rintro (h | h | ⟨hmemory, hshared⟩ | h | ⟨henable, htimeout⟩ | ⟨cause, h⟩)
    · exact .level h
    · exact .format h
    · exact .backend hmemory hshared
    · exact .neverPolls h
    · exact .noTimeout henable htimeout
    · exact .template h
  · rintro (h | h | ⟨hmemory, hshared⟩ | h | ⟨henable, htimeout⟩ | h)
    · exact .inl h
    · exact .inr (.inl h)
    · exact .inr (.inr (.inl ⟨hmemory, hshared⟩))
    · exact .inr (.inr (.inr (.inl h)))
    · exact .inr (.inr (.inr (.inr (.inl ⟨henable, htimeout⟩))))
    · exact .inr (.inr (.inr (.inr (.inr ⟨_, h⟩))))

/-- A printed line has the mark exactly if the settings are unfit, whatever the lines quote. -/
theorem marked_iff (s : Settings) (d : Disk) :
    (∃ line ∈ (s.findings d).map Finding.message, Finding.Marked line) ↔ s.Unfit := by
  rw [← hasFatal_iff s d, hasFatal, List.any_eq_true]
  constructor
  · rintro ⟨line, hline, hmarked⟩
    obtain ⟨f, hf, rfl⟩ := List.mem_map.1 hline
    exact ⟨f, hf, beq_iff_eq.2 (f.marked_message_iff.1 hmarked)⟩
  · rintro ⟨f, hf, hfatal⟩
    exact ⟨f.message, List.mem_map_of_mem hf, f.marked_message_iff.2 (beq_iff_eq.1 hfatal)⟩

end Settings

end Firewall
