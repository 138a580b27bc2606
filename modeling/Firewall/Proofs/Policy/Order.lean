import Firewall.Proofs.Policy.Instruction
import Firewall.Scan

/-!
The order of the settings. A store tells its settings in whatever order it keeps them, and a policy
is read from them one after the other. No two keys are about the same part of a policy, so that
the order shows in nothing but the order in which the switches of plugins came in.

Proved here:

* `Policy.Agrees.decide_eq`: policies that agree decide every request alike;
* `Policy.readSetting_comm`, `Policy.readSetting_again`: settings of different keys can be read in
  either order, and reading a setting twice comes to reading it once;
* `Policy.readAll_perm`: all settings can be read in any order;
* `Policy.current_ofSettings_of_read`: each part of the policy is what its own setting is read as;
* `Policy.follows_ofSettings`: what they say in the end, part by part;
* `Site.starts_alike_in_any_order`: the same of the policy that an instance starts with.
-/

namespace Firewall

namespace Policy

variable {p q : Policy}

/-! ## Policies that agree -/

theorem Agrees.current (h : p.Agrees q) (a : Aspect) : p.current a = q.current a := by
  cases a with
  | mode => rw [Policy.current, Policy.current, h.mode]
  | allowed => rw [Policy.current, Policy.current, h.allowed]
  | denied => rw [Policy.current, Policy.current, h.denied]
  | toggle plugin => rw [Policy.current, Policy.current, h.toggles]

theorem Agrees.refl (p : Policy) : p.Agrees p := ⟨rfl, rfl, rfl, fun _ => rfl⟩

theorem Agrees.trans {r : Policy} (h : p.Agrees q) (h' : q.Agrees r) : p.Agrees r where
  mode := h.mode.trans h'.mode
  allowed := h.allowed.trans h'.allowed
  denied := h.denied.trans h'.denied
  toggles plugin := (h.toggles plugin).trans (h'.toggles plugin)

/-- **Policies that agree decide alike**, whatever plugins there are. -/
theorem Agrees.decide_eq {π : Type} (h : p.Agrees q) (remote : Option Address) (name : π → String)
    (ask : π → Verdict) (chain : List π) :
    Scan.decide p remote name ask chain = Scan.decide q remote name ask chain := by
  have hon : p.isOn = q.isOn := funext fun plugin => by rw [isOn, isOn, h.toggles]
  have hallows : p.allows = q.allows := funext fun a => by rw [allows, allows, h.allowed]
  have hdenies : p.denies = q.denies := funext fun a => by rw [denies, denies, h.denied]
  simp only [Scan.decide, Scan.byPlugins, h.mode, hon, hallows, hdenies]

/-! ## One setting after the other -/

theorem Agrees.readSetting (h : p.Agrees q) (key value : String) :
    (p.readSetting key value).Agrees (q.readSetting key value) := by
  apply agrees_of_current
  intro a
  rw [current_readSetting, current_readSetting, h.current a]

/-- **Settings of different keys** can be read in either order. -/
theorem readSetting_comm (p : Policy) {key other : String} (h : key ≠ other)
    (value otherValue : String) :
    ((p.readSetting key value).readSetting other otherValue).Agrees
      ((p.readSetting other otherValue).readSetting key value) := by
  apply agrees_of_current
  intro a
  simp only [current_readSetting]
  by_cases hkey : a.key = key
  · -- the aspect is that of the one key, and so not that of the other
    have hother : a.key ≠ other := fun ho => h (hkey.symm.trans ho)
    rw [if_neg hother, if_neg hother]
  · rw [if_neg hkey, if_neg hkey]

/-- **Reading a setting twice** comes to reading it once. -/
theorem readSetting_again (p : Policy) (key value : String) :
    (p.readSetting key value).readSetting key value = p.readSetting key value := by
  cases h : Edit.ofSetting? key value with
  | none => simp [readSetting, h]
  | some e => simp [readSetting, h, edit_again]

/-! ## All settings -/

def readAll (p : Policy) (rows : List (String × String)) : Policy :=
  rows.foldl (fun p r => p.readSetting r.1 r.2) p

theorem Agrees.readAll (h : p.Agrees q) (rows : List (String × String)) :
    (p.readAll rows).Agrees (q.readAll rows) := by
  induction rows generalizing p q with
  | nil => exact h
  | cons r rows ih => exact ih (h.readSetting r.1 r.2)

/-- **All settings can be read in any order**, as long as no key has two of them. -/
theorem readAll_perm {rows others : List (String × String)} (h : rows.Perm others)
    (distinct : (rows.map Prod.fst).Nodup) (p : Policy) :
    (p.readAll rows).Agrees (p.readAll others) := by
  induction h generalizing p with
  | nil => exact .refl p
  | cons r _ ih =>
    rw [List.map_cons, List.nodup_cons] at distinct
    exact ih distinct.2 (p.readSetting r.1 r.2)
  | swap r r' rows =>
    rw [List.map_cons, List.map_cons, List.nodup_cons, List.mem_cons, not_or] at distinct
    exact (readSetting_comm p distinct.1.1 r'.2 r.2).readAll rows
  | trans h _ ih ih' =>
    have hdistinct := (h.map Prod.fst).nodup_iff.mp distinct
    exact (ih distinct p).trans (ih' hdistinct p)

/-- A policy is what settings say: the mode that they name, if they name one, the lists of
networks that they give, and a switch for those plugins that they switch on or off. -/
structure Follows (settings : Dict String String) (p : Policy) : Prop where
  mode (m : Mode) : settings.get? modeKey = some m.name → p.mode = m
  noMode : (∀ m : Mode, settings.get? modeKey ≠ some m.name) → p.mode = .enabled
  allowed : p.allowed = ((settings.get? allowedKey).map Networks.parseLenient).getD []
  denied : p.denied = ((settings.get? deniedKey).map Networks.parseLenient).getD []
  toggle (plugin : String) (on : Bool) : p.toggles.get? plugin = some on ↔
    settings.get? (pluginKey plugin) = some (switchName on)

theorem Agrees.follows {settings : Dict String String} (h : p.Agrees q) (hq : q.Follows settings) :
    p.Follows settings where
  mode m hm := h.mode.trans (hq.mode m hm)
  noMode hm := h.mode.trans (hq.noMode hm)
  allowed := h.allowed.trans hq.allowed
  denied := h.denied.trans hq.denied
  toggle plugin on := by rw [h.toggles, hq.toggle]

end Policy

theorem Mode.ofName?_eq_some_iff {s : String} {m : Mode} : ofName? s = some m ↔ s = m.name := by
  constructor
  · intro h
    unfold ofName? at h
    split at h
    · next hs => cases h; exact hs
    · split at h
      · next hs => cases h; exact hs
      · split at h
        · next hs => cases h; exact hs
        · cases h
  · rintro rfl
    exact ofName?_name m

theorem switch?_eq_some_iff {s : String} {on : Bool} : switch? s = some on ↔ s = switchName on := by
  constructor
  · intro h
    unfold switch? at h
    split at h
    · next hs => cases h; exact hs
    · split at h
      · next hs => cases h; exact hs
      · cases h
  · rintro rfl
    exact switch?_switchName on

namespace Policy

/-- An aspect is what its setting is read as, or else what it is at the beginning. -/
theorem current_ofSettings_of_read {β : Type} (a : Aspect) (edit : β → Edit)
    (read : String → Option β) (atFirst : Option β)
    (hread : ∀ value, Edit.ofSetting? a.key value = (read value).map edit)
    (hfirst : initial.current a = atFirst.map edit) (settings : Dict String String) :
    (ofSettings settings.rows).current a =
      (((settings.get? a.key).bind read).or atFirst).map edit := by
  have hstored : a.stored settings = ((settings.get? a.key).bind read).map edit := by
    rw [Aspect.stored, Option.map_bind]
    exact congrArg _ (funext hread)
  rw [current_ofSettings, hstored, hfirst]
  cases (settings.get? a.key).bind read <;> rfl

theorem mode_ofSettings (settings : Dict String String) :
    (ofSettings settings.rows).mode =
      ((settings.get? modeKey).bind Mode.ofName?).getD .enabled := by
  have h := current_ofSettings_of_read .mode .mode Mode.ofName? (some .enabled)
    Edit.ofSetting?_modeKey rfl settings
  rw [Option.or_some, Option.map_some] at h
  exact Edit.mode.inj (Option.some.inj h)

theorem allowed_ofSettings (settings : Dict String String) :
    (ofSettings settings.rows).allowed =
      ((settings.get? allowedKey).map Networks.parseLenient).getD [] := by
  have h := current_ofSettings_of_read .allowed .allowed (some ∘ Networks.parseLenient) (some [])
    Edit.ofSetting?_allowedKey rfl settings
  rw [Option.or_some, Option.map_some, ← Option.map_eq_bind] at h
  exact Edit.allowed.inj (Option.some.inj h)

theorem denied_ofSettings (settings : Dict String String) :
    (ofSettings settings.rows).denied =
      ((settings.get? deniedKey).map Networks.parseLenient).getD [] := by
  have h := current_ofSettings_of_read .denied .denied (some ∘ Networks.parseLenient) (some [])
    Edit.ofSetting?_deniedKey rfl settings
  rw [Option.or_some, Option.map_some, ← Option.map_eq_bind] at h
  exact Edit.denied.inj (Option.some.inj h)

theorem get?_toggles_ofSettings (settings : Dict String String) (plugin : String) :
    (ofSettings settings.rows).toggles.get? plugin =
      (settings.get? (pluginKey plugin)).bind switch? := by
  have h := current_ofSettings_of_read (.toggle plugin) (.toggle plugin) switch? none
    (Edit.ofSetting?_pluginKey plugin) rfl settings
  rw [Option.or_none] at h
  exact Option.map_injective (fun _ _ he => (Edit.toggle.inj he).2) h

/-- **What settings say in the end.** -/
theorem follows_ofSettings (settings : Dict String String) :
    (ofSettings settings.rows).Follows settings where
  mode m hm := by rw [mode_ofSettings, hm, Option.bind_some, Mode.ofName?_name, Option.getD_some]
  noMode hm := by
    have hnone : (settings.get? modeKey).bind Mode.ofName? = none := by
      rw [Option.bind_eq_none_iff]
      intro value hvalue
      rw [Option.eq_none_iff_forall_ne_some]
      intro m hname
      exact hm m (Mode.ofName?_eq_some_iff.mp hname ▸ hvalue)
    rw [mode_ofSettings, hnone, Option.getD_none]
  allowed := allowed_ofSettings settings
  denied := denied_ofSettings settings
  toggle plugin on := by
    rw [get?_toggles_ofSettings, Option.bind_eq_some_iff]
    simp only [switch?_eq_some_iff, exists_eq_right]

/-- **All settings of a store**, told in any order. -/
theorem ofSettings_perm {settings : Dict String String} {rows : List (String × String)}
    (h : rows.Perm settings.rows) : (ofSettings rows).Agrees (ofSettings settings.rows) := by
  have distinct : (rows.map Prod.fst).Nodup := (h.map Prod.fst).nodup_iff.mpr settings.distinct
  exact readAll_perm h distinct initial

end Policy

/-! ## Starts -/

namespace Site

/-- **What an instance starts with does not depend on the order** in which its store tells the
settings, for any keys and values. Settings of different keys can be read in either order, whatever
was read before, and reading one again changes nothing. All settings together come to the same
policy in every order: it has the mode that they name, or else is in force, it has the networks of
their lists that make sense, and it has a switch for just the plugins that they switch on or off.
Policies that agree like this decide every request alike. -/
theorem starts_alike_in_any_order :
    (∀ (p : Policy) (key other value otherValue : String), key ≠ other →
      ((p.readSetting key value).readSetting other otherValue).Agrees
        ((p.readSetting other otherValue).readSetting key value)) ∧
    (∀ (p : Policy) (key value : String),
      (p.readSetting key value).readSetting key value = p.readSetting key value) ∧
    (∀ (settings : Dict String String) (rows : List (String × String)),
      rows.Perm settings.rows →
      (Policy.ofSettings rows).Agrees (Policy.ofSettings settings.rows) ∧
        (Policy.ofSettings rows).Follows settings) ∧
    (∀ (p q : Policy) {π : Type} (remote : Option Address) (name : π → String)
      (ask : π → Verdict) (chain : List π), p.Agrees q →
      Scan.decide p remote name ask chain = Scan.decide q remote name ask chain) ∧
    ∀ {σ : Type} [RecordStore σ] (s : Site σ) (settings : Dict String String)
      (rows : List (String × String)), rows.Perm settings.rows →
      (ask RecordStore.settings s).1 = .ok rows →
      ∃ p s', startPolicy.run s = (.ok s.self.policies.length, s') ∧
        s'.self.policies = s.self.policies ++ [p] ∧
        p.Agrees (Policy.ofSettings settings.rows) ∧ p.Follows settings := by
  have hany (settings : Dict String String) (rows : List (String × String))
      (h : rows.Perm settings.rows) :
      (Policy.ofSettings rows).Agrees (Policy.ofSettings settings.rows) ∧
        (Policy.ofSettings rows).Follows settings :=
    have hagrees := Policy.ofSettings_perm h
    ⟨hagrees, hagrees.follows (Policy.follows_ofSettings settings)⟩
  refine ⟨fun p key other value otherValue h => p.readSetting_comm h value otherValue,
    Policy.readSetting_again, hany, fun p q _ remote name ask chain h =>
    h.decide_eq remote name ask chain, ?_⟩
  intro σ _ s settings rows h htold
  have hself := ask_self RecordStore.settings s
  have hrun := startPolicy_run s
  rcases hask : ask RecordStore.settings s with ⟨answer, t⟩
  rw [hask] at htold hself hrun
  obtain rfl : answer = .ok rows := htold
  rw [← hself]
  exact ⟨Policy.ofSettings rows, _, hrun, rfl, hany settings rows h⟩

/-- Settings of which one makes no sense. -/
def mixedSettings : Dict String String :=
  Dict.ofList [("mode", "dryrun"), ("plugin_axsi", "maybe"), ("plugin_geoip", "enabled")]

/-- A site whose store keeps the same settings in another order. -/
def shuffledSite : Site Tables where
  world := .around ⟨[],
    Dict.ofList [("plugin_geoip", "enabled"), ("mode", "dryrun"), ("plugin_axsi", "maybe")], [], none⟩
  self := Instance.fresh

/-- What such a site starts with, also against the plugin that has the name of the mode. -/
theorem starts_alike_in_any_order_shuffled :
    ((Policy.initial.readSetting "mode" "dryrun").readSetting "plugin_mode" "enabled").Agrees
        ((Policy.initial.readSetting "plugin_mode" "enabled").readSetting "mode" "dryrun") ∧
      ∃ p s', startPolicy.run shuffledSite = (.ok 0, s') ∧ s'.self.policies = [p] ∧
        p.Agrees (Policy.ofSettings mixedSettings.rows) ∧ p.mode = .dryrun ∧
        p.toggles.get? "geoip" = some true ∧ p.toggles.get? "axsi" ≠ some true ∧
        Scan.decide p none id (fun _ => .block) ["axsi", "geoip"] =
          Scan.decide (Policy.ofSettings mixedSettings.rows) none id (fun _ => .block)
            ["axsi", "geoip"] := by
  obtain ⟨hcomm, -, -, hdecide, hstart⟩ := starts_alike_in_any_order
  obtain ⟨p, s', hrun, hpolicies, hagrees, hfollows⟩ := hstart shuffledSite mixedSettings _
    (List.isPerm_iff.mp rfl) rfl
  refine ⟨hcomm _ "mode" "plugin_mode" "dryrun" "enabled" (by decide), p, s', hrun, hpolicies,
    hagrees, hfollows.mode .dryrun (by decide), (hfollows.toggle "geoip" true).mpr (by decide),
    fun h => ?_, hdecide p _ none id _ _ hagrees⟩
  exact absurd ((hfollows.toggle "axsi" true).mp h) (by decide)

end Site

end Firewall
