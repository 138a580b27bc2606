import Firewall.Proofs.Fleet.Moves
import Firewall.Proofs.Policy.Networks

/-!
What an instruction of an operator comes to, on any store that shows tables and whichever calls on
it fail. A bad argument is refused before anything happens. Everything else is in force in the own
process at once, then it is stored, then it is announced; the first call that fails ends it, and
nothing is taken back.

Proved here:

* `Site.performAll_performed`: how far the steps of a change get;
* `Site.obey_cases`: what an instruction can come to;
* `Site.obey_error`: what one that fails leaves behind;
* `Site.obey_reads_back`: one that succeeds is read again as what it published, by those who
  reload it and by those who start with it.
-/

namespace Firewall

inductive Instruction
  | mode (text : String)
  | allowed (list : String)
  | denied (list : String)
  | plugin (name : String) (on : Bool)
  deriving DecidableEq, Repr

namespace Instruction

def plan : Instruction → Except BadArgument (List Step)
  | mode text => Change.setMode text
  | allowed list => Change.setAllowed list
  | denied list => Change.setDenied list
  | plugin name on => .ok (Change.setPlugin name on)

theorem plan_setting {o : Instruction} {steps : List Step} (h : o.plan = .ok steps) :
    Change.Setting steps := by
  cases o with
  | mode text => exact .mode text steps h
  | allowed list => exact .allowed list steps h
  | denied list => exact .denied list steps h
  | plugin name on =>
    cases h
    exact .plugin name on

end Instruction

/-! ## Steps -/

/-- How far the steps of a change get on a store that shows tables, in some weather: the result,
and the tables and the instance after them. -/
inductive Site.Performed (failing : Failing) (n : Nat) :
    Tables → Instance → List Step → Except Error Unit → Tables → Instance → Prop
  | complete {t : Tables} {i : Instance} : Performed failing n t i [] (.ok ()) t i
  | stopped {t : Tables} {i : Instance} {step : Step} {steps : List Step} (cause : Error)
      (hkind : cause.kind = .persistence) (hstops : step.stopped failing = true) :
    Performed failing n t i (step :: steps) (.error cause) t i
  | step {t u v : Tables} {i j : Instance} {step : Step} {steps : List Step}
      {result : Except Error Unit} (hruns : step.stopped failing = false) (heffect : step.Effect t u)
      (hrest : Performed failing n u (i.perform n step) steps result v j) :
    Performed failing n t i (step :: steps) result v j

namespace Site

variable {σ : Type} [RecordStore σ] [LawfulStore σ]

theorem performAll_performed {s : Site (Faulty σ)} {t : Tables} (hs : s.world.store.Shows t)
    (n : Nat) (steps : List Step) :
    ∃ (result : Except Error Unit) (store : Faulty σ) (i : Instance) (u : Tables), store.Shows u ∧
      Performed s.world.store.failing n t s.self steps result u i ∧
      (performAll n steps).run s = (result, ⟨{ s.world with store }, i⟩) := by
  induction steps generalizing s t with
  | nil => exact ⟨.ok (), s.world.store, s.self, t, hs, .complete, rfl⟩
  | cons step steps ih =>
    rw [performAll_cons_run]
    rcases perform_cases hs n step with
      ⟨hstops, cause, hkind, hrun⟩ | ⟨hruns, store, u, hu, hf, heffect, hrun⟩
    · rw [hrun]
      exact ⟨.error cause, s.world.store, s.self, t, hs, .stopped cause hkind hstops, rfl⟩
    · obtain ⟨result, store', i, v, hv, hrest, hrun'⟩ :=
        ih (s := ⟨{ s.world with store }, s.self.perform n step⟩) hu
      rw [hrun]
      exact ⟨result, store', i, v, hv, .step hruns heffect (hf ▸ hrest), hrun'⟩

end Site

/-- How far a change of a setting gets in some weather: its result, and the tables after it. -/
inductive Change.Outcome (t : Tables) (failing : Failing) (key value : String) :
    Except Error Unit → Tables → Prop
  | unstored (cause : Error) (hkind : cause.kind = .persistence)
      (hstops : failing.stops .putSetting = true) : Outcome t failing key value (.error cause) t
  | unannounced (cause : Error) (hkind : cause.kind = .persistence)
      (hstored : failing.stops .putSetting = false) (hstops : failing.stops .append = true) :
    Outcome t failing key value (.error cause)
      { t with settings := t.settings.insert key value }
  | complete :
    Outcome t failing key value (.ok ())
      (Tables.logged { t with settings := t.settings.insert key value } .config key)

/-- **The steps of a setting**: the edit is in force however far the others get. -/
theorem Site.Performed.ofSetting {failing : Failing} {n : Nat} {t u : Tables} {i j : Instance}
    {e : Edit} {key value : String} {result : Except Error Unit}
    (h : Performed failing n t i (Change.ofSetting e key value) result u j) :
    j = i.perform n (.publish e) ∧ Change.Outcome t failing key value result u := by
  cases h with
  | stopped _ _ hstops => cases hstops
  | step _ heffect hrest =>
    cases heffect
    cases hrest with
    | stopped cause hkind hstops => exact ⟨rfl, .unstored cause hkind hstops⟩
    | step hstored heffect hrest =>
      cases heffect
      cases hrest with
      | stopped cause hkind hstops => exact ⟨rfl, .unannounced cause hkind hstored hstops⟩
      | step _ heffect hrest =>
        cases heffect
        cases hrest
        exact ⟨rfl, .complete⟩

/-! ## Instructions -/

namespace Site

variable {σ : Type} [RecordStore σ] [LawfulStore σ]

/-- **What an instruction comes to.** -/
theorem obey_cases {s : Site (Faulty σ)} {t : Tables} (hs : s.world.store.Shows t) (n : Nat)
    (o : Instruction) :
    (∃ cause, o.plan = .error cause ∧ (change n o.plan).run s = (.error (.argument cause), s)) ∨
    ∃ e key value result store u, o.plan = .ok (Change.ofSetting e key value) ∧
      Edit.ofSetting? key value = some e ∧ Faulty.Shows store u ∧
      Change.Outcome t s.world.store.failing key value result u ∧
      (change n o.plan).run s =
        (result, ⟨{ s.world with store }, s.self.perform n (.publish e)⟩) := by
  cases hplan : o.plan with
  | error cause => exact .inl ⟨cause, rfl, rfl⟩
  | ok steps =>
    obtain ⟨e, key, value, rfl, hreads⟩ := (Instruction.plan_setting hplan).reads_back
    obtain ⟨result, store, i, u, hu, hperformed, hrun⟩ :=
      performAll_performed hs n (Change.ofSetting e key value)
    obtain ⟨rfl, houtcome⟩ := hperformed.ofSetting
    exact .inr ⟨e, key, value, result, store, u, rfl, hreads, hu, houtcome, hrun⟩

/-- **An instruction that fails** with a bad argument leaves everything as it was. If the store
fails, the edit stays in force in the own policy and nothing else of the instance has changed. The
records are as they were if the setting could not be stored; if it could not be announced, the
setting has the new value and all else is as it was. -/
theorem obey_error {s s' : Site (Faulty σ)} {t : Tables} (hs : s.world.store.Shows t) (n : Nat)
    (o : Instruction) {err : Error} (herr : (change n o.plan).run s = (.error err, s')) :
    (err.kind = .invalidArgument ∧ s' = s) ∨
    (err.kind = .persistence ∧ ∃ e key value u, o.plan = .ok (Change.ofSetting e key value) ∧
      s'.self = { s.self with policies := s.self.policies.modify n (·.edit e) } ∧
      s'.world.store.Shows u ∧
      (s.world.store.failing.stops .putSetting = true → u = t) ∧
      (s.world.store.failing.stops .putSetting = false →
        s.world.store.failing.stops .append = true ∧
          u = { t with settings := t.settings.insert key value })) := by
  rcases obey_cases hs n o with
    ⟨cause, -, hrun⟩ | ⟨e, key, value, result, store, u, hplan, -, hu, houtcome, hrun⟩
  · rw [hrun] at herr
    cases herr
    exact .inl ⟨rfl, rfl⟩
  · rw [hrun] at herr
    cases herr
    cases houtcome with
    | unstored _ hkind hstops =>
      refine .inr ⟨hkind, e, key, value, t, hplan, rfl, hu, fun _ => rfl, fun hstored => ?_⟩
      rw [hstops] at hstored
      cases hstored
    | unannounced _ hkind hstored hstops =>
      refine .inr ⟨hkind, e, key, value, _, hplan, rfl, hu, fun hfails => ?_,
        fun _ => ⟨hstops, rfl⟩⟩
      rw [hstored] at hfails
      cases hfails

/-- An instance with one live policy, on an empty store in some weather. -/
def lone (failing : Failing) : Site (Faulty Tables) where
  world := .around ⟨.empty, failing⟩
  self := { Instance.fresh with policies := [.initial] }

abbrev muted : Site (Faulty Tables) := lone ⟨[StoreCall.append.name], none⟩

theorem obey_error_muted :
    ((change 0 (Instruction.mode "dryrun").plan).run muted).2.self.policies =
        [{ Policy.initial with mode := .dryrun }] ∧
      ((change 0 (Instruction.mode "dryrun").plan).run muted).2.world.store.store =
        { Tables.empty with settings := Tables.empty.settings.insert "mode" "dryrun" } := by
  have hshows : muted.world.store.Shows .empty := rfl
  rcases obey_error hshows 0 (.mode "dryrun") (Prod.ext rfl rfl) with
    ⟨hkind, -⟩ | ⟨-, e, key, value, u, hplan, hself, hu, -, hstored⟩
  · cases hkind
  · cases hplan
    obtain ⟨-, rfl⟩ := hstored rfl
    exact ⟨congrArg Instance.policies hself, hu⟩

/-- An instruction that cannot be announced is not taken back, neither in the policy nor in the
store. -/
theorem unannounced_stays :
    ¬ ∀ (s s' : Site (Faulty Tables)) (n : Nat) (o : Instruction) (err : Error),
      (change n o.plan).run s = (.error err, s') →
      s'.self.policies = s.self.policies ∧
        s'.world.store.store.settings = s.world.store.store.settings ∧
        s'.world.store.store.log = s.world.store.store.log := by
  intro h
  obtain ⟨hpolicies, -, -⟩ := h muted _ 0 (.mode "dryrun") _ (Prod.ext rfl rfl)
  exact absurd hpolicies (by decide)

end Site

/-! ## Reading again -/

/-- A setting stands for an edit, whichever way it is read: by a policy before or after the edit,
by a live policy that hears of the setting, and by an instance that starts with it. -/
structure Edit.ReadFrom (σ : Type) [RecordStore σ] [LawfulStore σ] (e : Edit) (key value : String) :
    Prop where
  before (p : Policy) : p.readSetting key value = p.edit e
  after (p : Policy) : (p.edit e).readSetting key value = p.edit e
  heard {x : Site (Faulty σ)} {v : Tables} (hx : x.world.store.Shows v)
    (hv : v.settings.get? key = some value) (hruns : x.world.store.failing.stops .setting = false)
    (n : Nat) : (Site.hear key (.policy n) x).2.self =
      { x.self with policies := x.self.policies.modify n (·.edit e) }
  started {x : Site (Faulty σ)} {v : Tables} (hx : x.world.store.Shows v)
    (hv : v.settings.get? key = some value)
    (hruns : x.world.store.failing.stops .settings = false) :
    ∃ p x', Site.startPolicy.run x = (.ok x.self.policies.length, x') ∧
      x'.self.policies = x.self.policies ++ [p] ∧ p.current e.aspect = some e

theorem Policy.edit_again (p : Policy) (e : Edit) : (p.edit e).edit e = p.edit e := by
  cases e with
  | toggle plugin on => exact congrArg ({ p with toggles := · }) (Dict.insert_again ..)
  | _ => rfl

theorem Edit.readFrom_of_ofSetting? (σ : Type) [RecordStore σ] [LawfulStore σ] {key value : String}
    {e : Edit} (h : Edit.ofSetting? key value = some e) : e.ReadFrom σ key value := by
  have hread (p : Policy) : p.readSetting key value = p.edit e := by rw [Policy.readSetting, h]
  refine ⟨hread, fun p => ?_, fun hx hv hruns n => ?_, fun hx hv hruns => ?_⟩
  · rw [hread, Policy.edit_again]
  · obtain ⟨store, -, -, hask⟩ := Site.ask_reads (·.stops .setting) .setting hx
      (LawfulStore.setting key hx)
    rw [hruns, Tables.setting?, hv] at hask
    rw [Site.hear_policy_run, show Site.ask (RecordStore.setting key) _ = _ from hask]
    simp only [Bool.false_eq_true, if_false, Site.applySetting, hread]
    rfl
  · obtain ⟨store, -, -, hask⟩ := Site.ask_reads (·.stops .settings) .settings hx
      (LawfulStore.settings hx)
    rw [hruns] at hask
    rw [Site.startPolicy_run, show Site.ask RecordStore.settings _ = _ from hask]
    refine ⟨_, _, rfl, rfl, ?_⟩
    have hkey : e.aspect.key = key := Edit.key_aspect_of_ofSetting? h
    rw [Policy.current_ofSettings, Aspect.stored, hkey, hv, Option.bind_some, h, Option.some_or]

/-- **Those who read a setting again agree with whoever set it.** An instruction that succeeds has
published the edit of its plan and stored the value of its plan at the key there. Reading the value
comes to the edit, for every policy and at every start; and the edit makes its own part of a policy
what it says and leaves the other parts as they were. Lists of networks are among these values: the
strict reading of the instruction takes those that are blank or consist of networks only, as the
lenient one reads them, and the lenient one goes piece by piece. -/
theorem Site.obey_reads_back {σ : Type} [RecordStore σ] [LawfulStore σ] :
    (∀ (s s' : Site (Faulty σ)) (t : Tables) (n : Nat) (o : Instruction),
      s.world.store.Shows t → (change n o.plan).run s = (.ok (), s') →
      ∃ e key value u, o.plan = .ok (Change.ofSetting e key value) ∧
        s'.self = { s.self with policies := s.self.policies.modify n (·.edit e) } ∧
        s'.world.store.Shows u ∧ u.settings.get? key = some value ∧ e.ReadFrom σ key value ∧
        ∀ (p : Policy) (a : Aspect),
          (p.edit e).current a = if e.aspect = a then some e else p.current a) ∧
    (∀ list : String,
      ((∃ networks, Networks.parse list = .ok networks) ↔
        Text.trim list.toList = [] ∨
          ∀ piece ∈ Text.pieces ',' list.toList, Networks.IsNetwork (Text.trim piece)) ∧
      ∀ networks, Networks.parse list = .ok networks → Networks.parseLenient list = networks) ∧
    ∀ a b : String, Networks.parseLenient (a ++ "," ++ b) =
      Networks.parseLenient a ++ Networks.parseLenient b := by
  refine ⟨fun s s' t n o hs hok => ?_, fun list => ⟨Networks.parse_ok_iff list, fun _ =>
    Networks.parseLenient_of_parse⟩, Networks.parseLenient_comma⟩
  rcases obey_cases hs n o with
    ⟨cause, -, hrun⟩ | ⟨e, key, value, result, store, u, hplan, hreads, hu, houtcome, hrun⟩
  · rw [hrun] at hok
    cases hok
  · rw [hrun] at hok
    cases hok
    cases houtcome
    refine ⟨e, key, value, _, hplan, rfl, hu, ?_, Edit.readFrom_of_ofSetting? σ hreads,
      fun p a => p.current_edit e a⟩
    exact (Dict.get?_insert ..).trans (if_pos rfl)

theorem Site.obey_reads_back_plugin :
    ((change 0 (Instruction.plugin "geoip" true).plan).run (lone .none)).2.self.policies =
        [Policy.initial.edit (.toggle "geoip" true)] ∧
      ((change 0 (Instruction.plugin "geoip" true).plan).run
        (lone .none)).2.world.store.store.settings.get? "plugin_geoip" = some "enabled" ∧
      (Edit.toggle "geoip" true).ReadFrom Tables "plugin_geoip" "enabled" := by
  have hshows : (lone .none).world.store.Shows .empty := rfl
  obtain ⟨e, key, value, u, hplan, hself, rfl, hstored, hread, -⟩ := obey_reads_back.1 (lone .none)
    _ .empty 0 (.plugin "geoip" true) hshows (Prod.ext rfl rfl)
  cases hplan
  exact ⟨congrArg Instance.policies hself, hstored, hread⟩

end Firewall
