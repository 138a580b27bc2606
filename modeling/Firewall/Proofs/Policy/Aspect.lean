import Firewall.Policy.Change
import Firewall.Proofs.Dict

/-!
The aspects of a policy: the mode, the two lists of networks, and the switch of
each plugin. Every aspect has one setting, different aspects have different ones.

Proved here:

* `current_readSetting`: reading a stored setting changes at most the aspect of
  that setting;
* `current_ofSettings`: what all stored settings together say of an aspect is what
  the setting of that aspect says, wherever it stands among the others;
* `Change.Setting.reads_back`: each change that an operator makes stores a value
  that reads back as the edit which the change publishes.
-/

namespace Firewall

/-- A part of a policy that changes on its own. -/
inductive Aspect
  | mode
  | allowed
  | denied
  | toggle (plugin : String)
  deriving DecidableEq, Repr

namespace Aspect

/-- The setting that an aspect is stored under. -/
def key : Aspect → String
  | mode => modeKey
  | allowed => allowedKey
  | denied => deniedKey
  | toggle plugin => pluginKey plugin

end Aspect

def Edit.aspect : Edit → Aspect
  | .mode _ => .mode
  | .allowed _ => .allowed
  | .denied _ => .denied
  | .toggle plugin _ => .toggle plugin

namespace Policy

/-- What a policy says of an aspect, as the edit that makes it say so. A plugin
that was never switched has none. -/
def current (p : Policy) : Aspect → Option Edit
  | .mode => some (.mode p.mode)
  | .allowed => some (.allowed p.allowed)
  | .denied => some (.denied p.denied)
  | .toggle plugin => (p.toggles.get? plugin).map (.toggle plugin)

/-- Two policies decide alike: they differ at most in the order in which the
switches of plugins came in. -/
structure Agrees (p q : Policy) : Prop where
  mode : p.mode = q.mode
  allowed : p.allowed = q.allowed
  denied : p.denied = q.denied
  toggles : ∀ plugin, p.toggles.get? plugin = q.toggles.get? plugin

theorem agrees_of_current {p q : Policy} (h : ∀ a, p.current a = q.current a) :
    p.Agrees q := by
  constructor
  · have := h .mode
    simpa [current] using this
  · have := h .allowed
    simpa [current] using this
  · have := h .denied
    simpa [current] using this
  · intro plugin
    have := h (.toggle plugin)
    simp only [current] at this
    cases hp : p.toggles.get? plugin <;> cases hq : q.toggles.get? plugin <;> simp_all

/-- An edit changes its own aspect and no other. -/
theorem current_edit (p : Policy) (e : Edit) (a : Aspect) :
    (p.edit e).current a = if e.aspect = a then some e else p.current a := by
  cases e with
  | toggle plugin on =>
    cases a with
    | toggle other =>
      by_cases h : plugin = other
      · subst h
        simp [edit, current, Edit.aspect]
      · simp [edit, current, Edit.aspect, h, Ne.symm h]
    | _ => simp [edit, current, Edit.aspect]
  | _ => cases a <;> simp [edit, current, Edit.aspect]

end Policy

/-! ## Settings and aspects -/

theorem pluginKey_toList (plugin : String) :
    (pluginKey plugin).toList = pluginRoot.toList ++ plugin.toList :=
  String.toList_append

theorem pluginOf?_eq_some_iff (key plugin : String) :
    pluginOf? key = some plugin ↔ key = pluginKey plugin := by
  unfold pluginOf?
  rw [Option.map_eq_some_iff]
  constructor
  · rintro ⟨rest, hrest, rfl⟩
    rw [Text.after?_eq_some_iff] at hrest
    apply String.toList_inj.mp
    rw [hrest, pluginKey_toList, String.toList_ofList]
  · rintro rfl
    refine ⟨plugin.toList, ?_, String.ofList_toList⟩
    rw [Text.after?_eq_some_iff, pluginKey_toList]

theorem pluginOf?_pluginKey (plugin : String) : pluginOf? (pluginKey plugin) = some plugin :=
  (pluginOf?_eq_some_iff _ _).mpr rfl

theorem pluginKey_injective {p q : String} (h : pluginKey p = pluginKey q) : p = q := by
  have hp := pluginOf?_pluginKey p
  rw [h, pluginOf?_pluginKey] at hp
  exact (Option.some.inj hp).symm

/-- The setting of a plugin is none of the other three. -/
theorem pluginKey_ne (plugin : String) :
    pluginKey plugin ≠ modeKey ∧ pluginKey plugin ≠ allowedKey ∧
      pluginKey plugin ≠ deniedKey := by
  refine ⟨?_, ?_, ?_⟩ <;> intro h <;> have h := congrArg String.toList h <;>
    simp [pluginKey_toList, pluginRoot, modeKey, allowedKey, deniedKey] at h

theorem Aspect.key_injective {a b : Aspect} (h : a.key = b.key) : a = b := by
  have hn := pluginKey_ne
  cases a with
  | toggle p =>
    cases b with
    | toggle q => rw [pluginKey_injective h]
    | mode => exact absurd h (hn p).1
    | allowed => exact absurd h (hn p).2.1
    | denied => exact absurd h (hn p).2.2
  | _ =>
    cases b with
    | toggle q =>
      first
      | exact absurd h.symm (hn q).1
      | exact absurd h.symm (hn q).2.1
      | exact absurd h.symm (hn q).2.2
    | _ => first | rfl | simp [Aspect.key, modeKey, allowedKey, deniedKey] at h

/-- A stored setting stands for an edit of the aspect that it is the setting of. -/
theorem Edit.key_aspect_of_ofSetting? {key value : String} {e : Edit}
    (h : Edit.ofSetting? key value = some e) : e.aspect.key = key := by
  unfold Edit.ofSetting? at h
  split at h
  · next hk =>
    obtain ⟨m, -, rfl⟩ := Option.map_eq_some_iff.mp h
    exact hk.symm
  · split at h
    · next hk => cases h; exact hk.symm
    · split at h
      · next hk => cases h; exact hk.symm
      · split at h
        · next plugin hp =>
          obtain ⟨on, -, rfl⟩ := Option.map_eq_some_iff.mp h
          exact ((pluginOf?_eq_some_iff _ _).mp hp).symm
        · cases h

/-- **Reading a setting changes its own aspect only**, and that one only if the
value makes sense. -/
theorem Policy.current_readSetting (p : Policy) (key value : String) (a : Aspect) :
    (p.readSetting key value).current a =
      if a.key = key then (Edit.ofSetting? key value).or (p.current a) else p.current a := by
  unfold Policy.readSetting
  cases h : Edit.ofSetting? key value with
  | none => simp
  | some e =>
    have hk := Edit.key_aspect_of_ofSetting? h
    simp only [Policy.current_edit]
    by_cases ha : a.key = key
    · have he : e.aspect = a := Aspect.key_injective (hk.trans ha.symm)
      simp [ha, he]
    · have he : e.aspect ≠ a := by
        rintro rfl
        exact ha hk
      simp [ha, he]

/-! ## All settings together -/

def Aspect.stored (a : Aspect) (settings : Dict String String) : Option Edit :=
  (settings.get? a.key).bind (Edit.ofSetting? a.key)

theorem current_foldl_readSetting (rows : List (String × String)) (p : Policy) (a : Aspect)
    (distinct : (rows.map Prod.fst).Nodup) :
    (rows.foldl (fun p r => p.readSetting r.1 r.2) p).current a =
      ((Dict.lookup a.key rows).bind (Edit.ofSetting? a.key)).or (p.current a) := by
  induction rows generalizing p with
  | nil => rfl
  | cons r rows ih =>
    rw [List.map_cons, List.nodup_cons] at distinct
    rw [List.foldl_cons, ih _ distinct.2, Policy.current_readSetting]
    by_cases h : a.key = r.1
    · -- no later row has the key, so that this one decides
      rw [Dict.lookup_eq_none (h ▸ distinct.1)]
      simp [Dict.lookup, h]
    · simp [Dict.lookup, h, Ne.symm h]

/-- **Each aspect is decided by its own setting**; one without a setting that makes
sense is as at the beginning. -/
theorem Policy.current_ofSettings (settings : Dict String String) (a : Aspect) :
    (Policy.ofSettings settings.rows).current a =
      (a.stored settings).or (Policy.initial.current a) :=
  current_foldl_readSetting settings.rows .initial a settings.distinct

/-- Storing a setting changes what is said of its own aspect only. -/
theorem Aspect.stored_insert (a : Aspect) (settings : Dict String String) (key value : String) :
    a.stored (settings.insert key value) =
      if a.key = key then Edit.ofSetting? key value else a.stored settings := by
  unfold Aspect.stored
  rw [Dict.get?_insert]
  by_cases h : a.key = key
  · simp [h]
  · simp [h]

/-! ## The changes of an operator -/

theorem filterMap_toOption_of_mapM {α β ε : Type} (f : α → Except ε β) (xs : List α)
    {ys : List β} (h : xs.mapM f = .ok ys) : xs.filterMap (fun x => (f x).toOption) = ys := by
  induction xs generalizing ys with
  | nil =>
    cases h
    rfl
  | cons x xs ih =>
    rw [List.mapM_cons] at h
    cases hx : f x with
    | error e => simp [hx, bind, Except.bind] at h
    | ok y =>
      cases hxs : xs.mapM f with
      | error e => simp [hx, hxs, bind, Except.bind] at h
      | ok zs =>
        simp only [hx, hxs, bind, Except.bind, pure, Except.pure, Except.ok.injEq] at h
        subst h
        rw [List.filterMap_cons, ih hxs, hx]
        rfl

/-- A list that the strict reading takes is read alike by the lenient one. -/
theorem Networks.parseLenient_of_parse {list : String} {networks : List Network}
    (h : Networks.parse list = .ok networks) : Networks.parseLenient list = networks :=
  filterMap_toOption_of_mapM _ _ h

theorem switch?_switchName (on : Bool) : switch? (switchName on) = some on := by
  cases on <;> rfl

theorem Edit.ofSetting?_modeKey (value : String) :
    Edit.ofSetting? modeKey value = (Mode.ofName? value).map .mode := by
  simp [Edit.ofSetting?]

theorem Edit.ofSetting?_allowedKey (value : String) :
    Edit.ofSetting? allowedKey value = some (.allowed (Networks.parseLenient value)) := by
  simp [Edit.ofSetting?, allowedKey, modeKey]

theorem Edit.ofSetting?_deniedKey (value : String) :
    Edit.ofSetting? deniedKey value = some (.denied (Networks.parseLenient value)) := by
  simp [Edit.ofSetting?, allowedKey, modeKey, deniedKey]

theorem Edit.ofSetting?_pluginKey (plugin value : String) :
    Edit.ofSetting? (pluginKey plugin) value = (switch? value).map (.toggle plugin) := by
  have hn := pluginKey_ne plugin
  simp [Edit.ofSetting?, hn.1, hn.2.1, hn.2.2, pluginOf?_pluginKey]

/-- A change of a setting that an operator can make: the steps of one of the four
kinds of it. -/
inductive Change.Setting : List Step → Prop
  | mode (text : String) (steps : List Step) (h : Change.setMode text = .ok steps) :
    Setting steps
  | allowed (list : String) (steps : List Step) (h : Change.setAllowed list = .ok steps) :
    Setting steps
  | denied (list : String) (steps : List Step) (h : Change.setDenied list = .ok steps) :
    Setting steps
  | plugin (name : String) (on : Bool) : Setting (Change.setPlugin name on)

theorem Except.map_eq_ok {ε α β : Type} {f : α → β} {x : Except ε α} {b : β}
    (h : x.map f = .ok b) : ∃ a, x = .ok a ∧ f a = b := by
  cases x with
  | error e => cases h
  | ok a => exact ⟨a, rfl, Except.ok.inj h⟩

/-- **What a change stores reads back as what it publishes.** -/
theorem Change.Setting.reads_back {steps : List Step} (h : Change.Setting steps) :
    ∃ e key value, steps = Change.ofSetting e key value ∧
      Edit.ofSetting? key value = some e := by
  cases h with
  | mode text _ h =>
    obtain ⟨m, hm, rfl⟩ := Except.map_eq_ok h
    refine ⟨.mode m, modeKey, m.name, rfl, ?_⟩
    rw [Edit.ofSetting?_modeKey, Mode.ofName?_name]
    rfl
  | allowed list _ h =>
    obtain ⟨networks, hn, rfl⟩ := Except.map_eq_ok h
    refine ⟨.allowed networks, allowedKey, list, rfl, ?_⟩
    rw [Edit.ofSetting?_allowedKey, Networks.parseLenient_of_parse hn]
  | denied list _ h =>
    obtain ⟨networks, hn, rfl⟩ := Except.map_eq_ok h
    refine ⟨.denied networks, deniedKey, list, rfl, ?_⟩
    rw [Edit.ofSetting?_deniedKey, Networks.parseLenient_of_parse hn]
  | plugin name on =>
    refine ⟨.toggle name on, pluginKey name, switchName on, rfl, ?_⟩
    rw [Edit.ofSetting?_pluginKey, switch?_switchName]
    rfl

end Firewall
