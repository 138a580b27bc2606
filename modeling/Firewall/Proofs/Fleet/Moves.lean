import Firewall.Proofs.Fleet
import Firewall.Proofs.Site
import Firewall.Proofs.Store.Lawful

/-!
What each action in a fleet can do, said once. The store of a fleet shows tables;
`PollMove` lists the steps of a poll by what they find in them, `Carried`, `Loaded`
and `Connected` do the same for changes and starts. Everything about the runs of a
fleet is derived from these, so that nothing else looks into the store.

Main statements: `pollStep_move`, `Node.carry_carried`, `Node.load_loaded` and
`Node.connect_connected`.
-/

namespace Firewall

variable {σ : Type}

/-! ## Store calls -/

section

variable [RecordStore σ] [LawfulStore σ]

/-- **A store call of an instance** fails and does nothing if the weather stops it;
otherwise it answers from the tables and leaves a store that shows the new ones. -/
theorem Site.ask_guarded {α : Type} (stops : Failing → Bool) (call : StoreCall)
    {inner : Access σ α} {s : Site (Faulty σ)} {answer : Except StoreError α} {t : Tables}
    (h : inner.Gives LawfulStore.Shows s.world.store.store answer t) :
    (stops s.world.store.failing = true ∧
      Site.ask (Faulty.guarded stops call inner) s =
        (.error (.fault (.injected call.name)), s)) ∨
    (stops s.world.store.failing = false ∧ ∃ store : Faulty σ, store.Shows t ∧
      store.failing = s.world.store.failing ∧
      Site.ask (Faulty.guarded stops call inner) s =
        (answer, { s with world := { s.world with store } })) := by
  rcases Faulty.guarded_on stops call h with ⟨hs, ho⟩ | ⟨hs, store, ht, ho⟩
  · refine Or.inl ⟨hs, ?_⟩
    simp [Site.ask, ho]
  · refine Or.inr ⟨hs, ⟨store, s.world.store.failing⟩, ht, rfl, ?_⟩
    simp [Site.ask, ho]

/-- **A reading call of an instance** leaves the tables and the weather as they are,
whether it fails or not. -/
theorem Site.ask_reads {α : Type} (stops : Failing → Bool) (call : StoreCall)
    {inner : Access σ α} {s : Site (Faulty σ)} {answer : Except StoreError α} {t : Tables}
    (ht : s.world.store.Shows t)
    (h : inner.Gives LawfulStore.Shows s.world.store.store answer t) :
    ∃ store : Faulty σ, store.Shows t ∧ store.failing = s.world.store.failing ∧
      Site.ask (Faulty.guarded stops call inner) s =
        (if stops s.world.store.failing then .error (.fault (.injected call.name)) else answer,
          { s with world := { s.world with store } }) := by
  rcases Site.ask_guarded stops call h with ⟨hs, ho⟩ | ⟨hs, store, hst, hf, ho⟩
  · exact ⟨s.world.store, ht, rfl, by rw [ho, hs]; rfl⟩
  · exact ⟨store, hst, hf, by rw [ho, hs]; rfl⟩

end

/-! ## Polls -/

def Instance.listeners (i : Instance) (table : Table) : List Listener :=
  match i.feed with
  | some f => f.listeners table
  | none => []

def Instance.apply (i : Instance) : News → Instance
  | .setting n key value =>
    { i with policies := i.policies.modify n (·.readSetting key value) }
  | .rules n rules =>
    { i with guards := i.guards.modify n fun g => { g with table := .ofRules rules } }

def Instance.record (i : Instance) (name key : String) : Instance :=
  { i with recorders := i.recorders.insert name ((i.recorders.get? name).getD [] ++ [key]) }

def Instance.advance (i : Instance) : Instance := { i with feed := i.feed.map Feed.advance }

/-- What a step of a poll can be on a store that shows tables, in some weather: the
phase of an instance before and after it, what there is to note, and the instance
after it. -/
inductive PollMove (t : Tables) (failing : Failing) (i : Instance) :
    Phase → Phase → Option Note → Instance → Prop
  | noHead (cause : StoreError) :
    PollMove t failing i .idle .idle (some (.ended ⟨i.last, i.last, .noHead cause⟩)) i
  | head : PollMove t failing i .idle (.catching ⟨i.last, t.log.length, 0⟩) none i
  | noEntry (p : Progress) (cause : StoreError) (h : p.last < p.head) :
    PollMove t failing i (.catching p) .idle
      (some (.ended ⟨p.start, i.last, .noEntry p.head (p.last + 1) cause⟩)) i
  | fetched (p : Progress) (table : Table) (key : String) (h : p.last < p.head)
      (logged : t.log[p.last]? = some (table, key)) :
    PollMove t failing i (.catching p)
      (.delivering p ⟨p.last + 1, table, key⟩ (i.listeners table)) none i
  | complete (p : Progress) (h : ¬ p.last < p.head) :
    PollMove t failing i (.catching p) .idle
      (some (.ended ⟨p.start, i.last, .complete p.head p.done⟩)) i
  | unread (p : Progress) (e : LogEntry) (who : Listener) (todo : List Listener)
      (h : (∃ n, who = .policy n ∧ (failing.stops .setting = true ∨
          ∃ cause, t.setting? e.key = .error cause)) ∨
        (∃ n, who = .guard n ∧ failing.stops .rules = true)) :
    PollMove t failing i (.delivering p e (who :: todo)) (.delivering p e todo)
      (some (.heard ⟨who, e, false⟩)) i
  | readSetting (p : Progress) (e : LogEntry) (n : Nat) (value : String) (todo : List Listener)
      (h : t.setting? e.key = .ok value) :
    PollMove t failing i (.delivering p e (.policy n :: todo))
      (.applying p e (.setting n e.key value) todo) (some (.heard ⟨.policy n, e, true⟩)) i
  | readRules (p : Progress) (e : LogEntry) (n : Nat) (todo : List Listener) :
    PollMove t failing i (.delivering p e (.guard n :: todo))
      (.applying p e (.rules n t.rules) todo) (some (.heard ⟨.guard n, e, true⟩)) i
  | recorded (p : Progress) (e : LogEntry) (name : String) (todo : List Listener) :
    PollMove t failing i (.delivering p e (.recorder name :: todo)) (.delivering p e todo)
      (some (.heard ⟨.recorder name, e, true⟩)) (i.record name e.key)
  | applied (p : Progress) (e : LogEntry) (news : News) (todo : List Listener) :
    PollMove t failing i (.applying p e news todo) (.delivering p e todo) none (i.apply news)
  | moved (p : Progress) (e : LogEntry) :
    PollMove t failing i (.delivering p e []) (.catching { p with done := p.done + 1 }) none
      i.advance

theorem Feed.headOf_head? (t : Tables) : Feed.headOf t.head? = .ok t.log.length := by
  unfold Tables.head?
  cases h : t.log with
  | nil => rfl
  | cons e log => rfl

theorem Tables.entryAt?_succ (t : Tables) (n : Nat) :
    (∃ table key, t.log[n]? = some (table, key) ∧
      t.entryAt? (n + 1) = .ok ⟨n + 1, table, key⟩) ∨
    (t.log[n]? = none ∧ t.entryAt? (n + 1) = .error (.absent (.logEntry (n + 1)))) := by
  unfold Tables.entryAt?
  cases h : t.log[n]? with
  | none => exact Or.inr ⟨rfl, by simp [h]⟩
  | some e => exact Or.inl ⟨e.1, e.2, rfl, by simp [h]⟩

section

variable [RecordStore σ] [LawfulStore σ]

/-- **Every step of a poll is a `PollMove`**, and none changes what the store shows. -/
theorem pollStep_move {s : Site (Faulty σ)} {t : Tables} (ht : s.world.store.Shows t)
    (phase : Phase) :
    (s.pollStep phase).site.world.store.Shows t ∧
    (s.pollStep phase).site.world.store.failing = s.world.store.failing ∧
    PollMove t s.world.store.failing s.self phase (s.pollStep phase).phase
      (s.pollStep phase).note (s.pollStep phase).site.self := by
  cases phase with
  | idle =>
    obtain ⟨store, hst, hf, ho⟩ :=
      Site.ask_reads (·.stops .latest) .latest ht (LawfulStore.latest ht)
    change Site.ask RecordStore.latest s = _ at ho
    simp only [Site.pollStep, Site.begin, ho]
    cases hs : s.world.store.failing.stops .latest with
    | true => exact ⟨hst, hf, .noHead _⟩
    | false =>
      simp only [Bool.false_eq_true, ↓reduceIte, Feed.headOf_head?]
      exact ⟨hst, hf, .head⟩
  | catching p =>
    simp only [Site.pollStep, Site.fetch]
    by_cases hp : p.last < p.head
    · obtain ⟨store, hst, hf, ho⟩ :=
        Site.ask_reads (·.stopsEntry (p.last + 1)) .entry ht (LawfulStore.entry (p.last + 1) ht)
      change Site.ask (RecordStore.entry (p.last + 1)) s = _ at ho
      simp only [hp, ↓reduceIte, ho]
      cases hs : s.world.store.failing.stopsEntry (p.last + 1) with
      | true => exact ⟨hst, hf, .noEntry p _ hp⟩
      | false =>
        rcases t.entryAt?_succ p.last with ⟨table, key, hl, he⟩ | ⟨hl, he⟩
        · simp only [Bool.false_eq_true, ↓reduceIte, he]
          exact ⟨hst, hf, .fetched p table key hp hl⟩
        · simp only [Bool.false_eq_true, ↓reduceIte, he]
          exact ⟨hst, hf, .noEntry p _ hp⟩
    · simp only [hp, ↓reduceIte]
      exact ⟨ht, trivial, .complete p hp⟩
  | delivering p e todo =>
    cases todo with
    | nil => exact ⟨ht, rfl, .moved p e⟩
    | cons who todo =>
      simp only [Site.pollStep]
      cases who with
      | policy n =>
        obtain ⟨store, hst, hf, ho⟩ :=
          Site.ask_reads (·.stops .setting) .setting ht (LawfulStore.setting e.key ht)
        change Site.ask (RecordStore.setting e.key) s = _ at ho
        simp only [Site.tell, ho]
        cases hs : s.world.store.failing.stops .setting with
        | true => exact ⟨hst, hf, .unread p e _ todo (Or.inl ⟨n, rfl, Or.inl hs⟩)⟩
        | false =>
          cases hv : t.setting? e.key with
          | error cause =>
            exact ⟨hst, hf, .unread p e _ todo (Or.inl ⟨n, rfl, Or.inr ⟨cause, hv⟩⟩)⟩
          | ok value => exact ⟨hst, hf, .readSetting p e n value todo hv⟩
      | guard n =>
        obtain ⟨store, hst, hf, ho⟩ :=
          Site.ask_reads (·.stops .rules) .rules ht (LawfulStore.rules ht)
        change Site.ask RecordStore.rules s = _ at ho
        simp only [Site.tell, ho]
        cases hs : s.world.store.failing.stops .rules with
        | true => exact ⟨hst, hf, .unread p e _ todo (Or.inr ⟨n, rfl, hs⟩)⟩
        | false => exact ⟨hst, hf, .readRules p e n todo⟩
      | recorder name => exact ⟨ht, rfl, .recorded p e name todo⟩
  | applying p e news todo =>
    cases news with
    | setting n key value => exact ⟨ht, rfl, .applied p e _ todo⟩
    | rules n rules => exact ⟨ht, rfl, .applied p e _ todo⟩

/-- What a node does about its poll: nothing as long as it may not begin one, and one
step otherwise. -/
theorem Node.poll_cases {w : World (Faulty σ)} {t : Tables} (ht : w.store.Shows t) (n : Node) :
    n.poll w = (w, n) ∨
    (n.boot = none ∧ (∃ f, n.self.feed = some f) ∧ ∃ w' phase note self,
      w'.store.Shows t ∧ w'.store.failing = w.store.failing ∧
      PollMove t w.store.failing n.self n.phase phase note self ∧
      n.poll w = (w', { n with self, phase, polling := true }.note note)) := by
  unfold Node.poll
  cases hf : n.self.feed with
  | none => exact Or.inl (by simp)
  | some f =>
    cases hb : n.boot with
    | some b => exact Or.inl (by simp)
    | none =>
      obtain ⟨hst, hw, hm⟩ := pollStep_move (s := ⟨w, n.self⟩) ht n.phase
      exact Or.inr ⟨rfl, ⟨f, rfl⟩, _, _, _, _, hst, hw, hm, by simp⟩

/-! ## Starts -/

/-- A node that was not started may have got a feed that begins at the end of the log. -/
inductive Connected (t : Tables) (failing : Failing) (n : Node) : Node → Prop
  | same (h : n.self.feed = none → failing.stops .latest = true) : Connected t failing n n
  | started (h : n.self.feed = none) :
    Connected t failing n { n with self := { n.self with feed := some (.startAt t.log.length) } }

/-- A starting node may have read what the store shows. -/
inductive Loaded (t : Tables) (n : Node) : Node → Prop
  | same : Loaded t n n
  | settings (h : n.polling = false) (f : Feed Listener) (hf : n.self.feed = some f) :
    Loaded t n { n with boot := some (.settings t.settings.rows) }
  | rules (h : n.polling = false) (f : Feed Listener) (hf : n.self.feed = some f)
      (lookup : Geo.Lookup) :
    Loaded t n { n with boot := some (.rules t.rules lookup) }

theorem Node.connect_connected {w : World (Faulty σ)} {t : Tables} (ht : w.store.Shows t)
    (n : Node) :
    (n.connect w).1.store.Shows t ∧ (n.connect w).1.store.failing = w.store.failing ∧
      Connected t w.store.failing n (n.connect w).2 := by
  unfold Node.connect
  cases hf : n.self.feed with
  | some f => exact ⟨ht, rfl, .same fun h => by rw [hf] at h; cases h⟩
  | none =>
    obtain ⟨store, hst, hw, ho⟩ := Site.ask_reads (s := ⟨w, n.self⟩) (·.stops .latest) .latest ht
      (LawfulStore.latest ht)
    change Site.ask RecordStore.latest _ = _ at ho
    simp only [Site.startFeed_run, ho]
    cases hs : w.store.failing.stops .latest with
    | true => exact ⟨hst, hw, .same fun _ => hs⟩
    | false =>
      simp only [Bool.false_eq_true, ↓reduceIte, Feed.headOf_head?]
      exact ⟨hst, hw, .started hf⟩

theorem Node.load_loaded {w : World (Faulty σ)} {t : Tables} (ht : w.store.Shows t)
    (n : Node) (part : Part) :
    (n.load w part).1.store.Shows t ∧ (n.load w part).1.store.failing = w.store.failing ∧
      Loaded t n (n.load w part).2 := by
  unfold Node.load
  by_cases h : n.self.feed.isNone || n.polling || n.boot.isSome
  · rw [if_pos h]
    exact ⟨ht, rfl, .same⟩
  rw [if_neg h]
  simp only [Bool.or_eq_true, not_or, Bool.not_eq_true] at h
  obtain ⟨⟨hf, hp⟩, -⟩ := h
  have hsome : n.self.feed ≠ none := by
    rintro hnone
    rw [hnone] at hf
    cases hf
  obtain ⟨f, hf⟩ := Option.ne_none_iff_exists'.mp hsome
  cases part with
  | settings =>
    obtain ⟨store, hst, hw, ho⟩ := Site.ask_reads (s := ⟨w, n.self⟩) (·.stops .settings)
      .settings ht (LawfulStore.settings ht)
    change Site.ask RecordStore.settings _ = _ at ho
    simp only [ho]
    cases w.store.failing.stops .settings with
    | true => exact ⟨hst, hw, .same⟩
    | false => exact ⟨hst, hw, .settings hp f hf⟩
  | rules lookup =>
    obtain ⟨store, hst, hw, ho⟩ := Site.ask_reads (s := ⟨w, n.self⟩) (·.stops .rules)
      .rules ht (LawfulStore.rules ht)
    change Site.ask RecordStore.rules _ = _ at ho
    simp only [ho]
    cases w.store.failing.stops .rules with
    | true => exact ⟨hst, hw, .same⟩
    | false => exact ⟨hst, hw, .rules hp f hf lookup⟩

/-- What a starting node has read may have become a listener. -/
inductive Joined (n : Node) : Node → Prop
  | same (h : n.boot = none) : Joined n n
  | begun (b : Boot) (h : n.boot = some b) :
    Joined n (Node.subscribe { n with self := n.self.equip b, boot := none } b.table
      (b.listener n.self))

theorem Node.join_joined (n : Node) : Joined n n.join := by
  unfold Node.join
  cases hb : n.boot with
  | none => exact .same hb
  | some b => exact .begun b hb

/-! ## Changes -/

/-- The instance after a step of a change, which goes to the policy of a number. -/
def Instance.perform (i : Instance) (policy : Nat) : Step → Instance
  | .publish e => { i with policies := i.policies.modify policy (·.edit e) }
  | _ => i

/-- What the store shows after a step of a change that did not fail. -/
inductive Step.Effect (t : Tables) : Step → Tables → Prop
  | publish (e : Edit) : Effect t (.publish e) t
  | putSetting (key value : String) :
    Effect t (.putSetting key value) { t with settings := t.settings.insert key value }
  | putRules (rules kept : List CountryRule) (h : SameRules kept rules) :
    Effect t (.putRules rules) { t with rules := kept }
  | announce (table : Table) (key : String) : Effect t (.announce table key) (t.logged table key)

def Step.stopped (failing : Failing) : Step → Bool
  | .publish _ => false
  | .putSetting _ _ => failing.stops .putSetting
  | .putRules _ => failing.stops .putRules
  | .announce _ _ => failing.stops .append

/-- What carrying on with a change can be: the node and the tables after it. -/
inductive Carried (t : Tables) (failing : Failing) (n : Node) (j : Nat) : Node → Tables → Prop
  | none (h : n.changes[j]? = none) : Carried t failing n j n t
  | ended (policy : Nat) (h : n.changes[j]? = some (policy, [])) :
    Carried t failing n j { n with changes := n.changes.eraseIdx j } t
  | failed (policy : Nat) (step : Step) (rest : List Step)
      (h : n.changes[j]? = some (policy, step :: rest)) (hs : step.stopped failing = true) :
    Carried t failing n j { n with changes := n.changes.eraseIdx j } t
  | done (policy : Nat) (step : Step) (rest : List Step) (t' : Tables)
      (h : n.changes[j]? = some (policy, step :: rest)) (he : step.Effect t t') :
    Carried t failing n j
      ({ n with self := n.self.perform policy step }.proceed j policy rest) t'

theorem Site.perform_cases {s : Site (Faulty σ)} {t : Tables} (ht : s.world.store.Shows t)
    (policy : Nat) (step : Step) :
    (step.stopped s.world.store.failing = true ∧ ∃ cause : Error, cause.kind = .persistence ∧
      (Site.perform policy step).run s = (.error cause, s)) ∨
    step.stopped s.world.store.failing = false ∧
      ∃ (store : Faulty σ) (t' : Tables), store.Shows t' ∧
        store.failing = s.world.store.failing ∧ step.Effect t t' ∧
        (Site.perform policy step).run s =
          (.ok (), ⟨{ s.world with store }, s.self.perform policy step⟩) := by
  cases step with
  | publish e =>
    refine Or.inr ⟨rfl, s.world.store, t, ht, rfl, .publish e, ?_⟩
    rw [Site.perform_publish_run]
    rfl
  | putSetting key value =>
    rcases Site.ask_guarded (·.stops .putSetting) .putSetting
      (LawfulStore.putSetting key value ht) with ⟨hs, ho⟩ | ⟨hs, store, hst, hf, ho⟩
    · change Site.ask (RecordStore.putSetting key value) s = _ at ho
      exact Or.inl ⟨hs, .store (.fault (.injected StoreCall.putSetting.name)), rfl,
        by rw [Site.perform_putSetting_run, ho]⟩
    · change Site.ask (RecordStore.putSetting key value) s = _ at ho
      refine Or.inr ⟨hs, store, _, hst, hf, .putSetting key value, ?_⟩
      rw [Site.perform_putSetting_run, ho]
      rfl
  | putRules rules =>
    obtain ⟨kept, hk, hg⟩ := LawfulStore.putRules rules ht
    rcases Site.ask_guarded (·.stops .putRules) .putRules hg with
      ⟨hs, ho⟩ | ⟨hs, store, hst, hf, ho⟩
    · change Site.ask (RecordStore.putRules rules) s = _ at ho
      exact Or.inl ⟨hs, .store (.fault (.injected StoreCall.putRules.name)), rfl,
        by rw [Site.perform_putRules_run, ho]⟩
    · change Site.ask (RecordStore.putRules rules) s = _ at ho
      refine Or.inr ⟨hs, store, _, hst, hf, .putRules rules kept hk, ?_⟩
      rw [Site.perform_putRules_run, ho]
      rfl
  | announce table key =>
    rcases Site.ask_guarded (·.stops .append) .append (LawfulStore.append table key ht) with
      ⟨hs, ho⟩ | ⟨hs, store, hst, hf, ho⟩
    · change Site.ask (RecordStore.append table key) s = _ at ho
      exact Or.inl ⟨hs, .store (.fault (.injected StoreCall.append.name)), rfl,
        by rw [Site.perform_announce_run, ho]⟩
    · change Site.ask (RecordStore.append table key) s = _ at ho
      refine Or.inr ⟨hs, store, _, hst, hf, .announce table key, ?_⟩
      rw [Site.perform_announce_run, ho]
      rfl

theorem Node.carry_carried {w : World (Faulty σ)} {t : Tables} (ht : w.store.Shows t)
    (n : Node) (j : Nat) :
    ∃ t', (n.carry w j).1.store.Shows t' ∧ (n.carry w j).1.store.failing = w.store.failing ∧
      Carried t w.store.failing n j (n.carry w j).2 t' := by
  unfold Node.carry
  cases hj : n.changes[j]? with
  | none => exact ⟨t, ht, rfl, .none hj⟩
  | some change =>
    obtain ⟨policy, steps⟩ := change
    cases steps with
    | nil => exact ⟨t, ht, rfl, .ended policy hj⟩
    | cons step rest =>
      rcases Site.perform_cases (s := ⟨w, n.self⟩) ht policy step with
        ⟨hs, cause, -, ho⟩ | ⟨-, store, t', hst, hf, he, ho⟩
      · simp only [ho]
        exact ⟨t, ht, trivial, .failed policy step rest hj hs⟩
      · simp only [ho]
        exact ⟨t', hst, hf, .done policy step rest t' hj he⟩

end

/-! ## Fleets -/

/-- What an action can do in the node that it is about, in some weather: the tables
and the node after it. -/
inductive Turn {ι : Type} (t : Tables) (failing : Failing) (n : Node) :
    Action ι → Tables → Node → Prop
  | connected (i : ι) (n' : Node) (h : Connected t failing n n') :
    Turn t failing n (.connect i) t n'
  | loaded (i : ι) (part : Part) (n' : Node) (h : Loaded t n n') :
    Turn t failing n (.load i part) t n'
  | joined (i : ι) (n' : Node) (h : Joined n n') : Turn t failing n (.join i) t n'
  | subscribed (i : ι) (table : Table) (who : Listener) (h : n.phase = .idle) :
    Turn t failing n (.subscribe i table who) t (n.subscribe table who)
  | busy (i : ι) (table : Table) (who : Listener) : Turn t failing n (.subscribe i table who) t n
  | submitted (i : ι) (policy : Nat) (steps : List Step) :
    Turn t failing n (.submit i policy steps) t { n with changes := n.changes ++ [(policy, steps)] }
  | carried (i : ι) (j : Nat) (t' : Tables) (n' : Node) (h : Carried t failing n j n' t') :
    Turn t failing n (.carry i j) t' n'
  | waiting (i : ι) : Turn t failing n (.poll i) t n
  | polled (i : ι) (f : Feed Listener) (phase : Phase) (note : Option Note) (self : Instance)
      (hb : n.boot = none) (hf : n.self.feed = some f)
      (h : PollMove t failing n.self n.phase phase note self) :
    Turn t failing n (.poll i) t ({ n with self, phase, polling := true }.note note)

/-- Entries are only added to the log. -/
theorem Turn.log_grows {ι : Type} {t t' : Tables} {failing : Failing} {n n' : Node}
    {a : Action ι} (h : Turn t failing n a t' n') : ∃ more, t'.log = t.log ++ more := by
  cases h with
  | carried i j _ _ h =>
    cases h with
    | done policy step rest _ h he =>
      cases he with
      | announce table key => exact ⟨[(table, key)], rfl⟩
      | _ => exact ⟨[], (List.append_nil _).symm⟩
    | _ => exact ⟨[], (List.append_nil _).symm⟩
  | _ => exact ⟨[], (List.append_nil _).symm⟩

def Action.node? {ι : Type} : Action ι → Option ι
  | .weather _ => none
  | .connect i | .load i _ | .join i | .subscribe i _ _ | .submit i _ _ | .carry i _
  | .poll i => some i

namespace Fleet

variable {ι : Type} [DecidableEq ι] [RecordStore σ] [LawfulStore σ]

/-- **Each action is a turn of one node**, or a change of the weather. -/
theorem step_turn {c : Fleet ι σ} {t : Tables} (ht : c.world.store.Shows t) (a : Action ι) :
    (∃ failing, a = .weather failing ∧ (c.step a).nodes = c.nodes ∧
      (c.step a).world.store.Shows t ∧ (c.step a).world.store.failing = failing) ∨
    ∃ i t' n', a.node? = some i ∧ (c.step a).world.store.Shows t' ∧
      (c.step a).world.store.failing = c.world.store.failing ∧
      (c.step a).nodes = Function.update c.nodes i n' ∧
      Turn t c.world.store.failing (c.nodes i) a t' n' := by
  cases a with
  | weather failing => exact Or.inl ⟨failing, rfl, rfl, ht, rfl⟩
  | connect i =>
    obtain ⟨hst, hf, h⟩ := Node.connect_connected ht (c.nodes i)
    exact Or.inr ⟨i, t, _, rfl, hst, hf, rfl, .connected i _ h⟩
  | load i part =>
    obtain ⟨hst, hf, h⟩ := Node.load_loaded ht (c.nodes i) part
    exact Or.inr ⟨i, t, _, rfl, hst, hf, rfl, .loaded i part _ h⟩
  | join i => exact Or.inr ⟨i, t, _, rfl, ht, rfl, rfl, .joined i _ (Node.join_joined _)⟩
  | subscribe i table who =>
    refine Or.inr ⟨i, t, _, rfl, ht, rfl, rfl, ?_⟩
    dsimp only
    by_cases h : (c.nodes i).phase = .idle
    · rw [if_pos h]
      exact .subscribed i table who h
    · rw [if_neg h]
      exact .busy i table who
  | submit i policy steps => exact Or.inr ⟨i, t, _, rfl, ht, rfl, rfl, .submitted i policy steps⟩
  | carry i j =>
    obtain ⟨t', hst, hf, h⟩ := Node.carry_carried ht (c.nodes i) j
    exact Or.inr ⟨i, t', _, rfl, hst, hf, rfl, .carried i j t' _ h⟩
  | poll i =>
    rcases Node.poll_cases ht (c.nodes i) with h |
      ⟨hb, ⟨f, hf⟩, w', phase, note, self, hst, hw, hm, h⟩
    · refine Or.inr ⟨i, t, _, rfl, ?_, ?_, rfl, ?_⟩
      · show ((c.nodes i).poll c.world).1.store.Shows t
        rw [h]
        exact ht
      · show ((c.nodes i).poll c.world).1.store.failing = _
        rw [h]
      · rw [h]
        exact .waiting i
    · refine Or.inr ⟨i, t, _, rfl, ?_, ?_, rfl, ?_⟩
      · show ((c.nodes i).poll c.world).1.store.Shows t
        rw [h]
        exact hst
      · show ((c.nodes i).poll c.world).1.store.failing = _
        rw [h]
        exact hw
      · rw [h]
        exact .polled i f phase note self hb hf hm

end Fleet

end Firewall
