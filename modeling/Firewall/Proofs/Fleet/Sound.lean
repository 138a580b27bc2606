import Firewall.Proofs.Fleet.Moves
import Mathlib.Data.List.Nodup

/-!
Where the feeds of a fleet stand. Whatever happens, a feed is not behind its own poll
and not ahead of the log, the entry being delivered is the next one of the log, and
no poll goes on while a listener is being prepared.

Proved here:

* `Node.Sound.turn`: what an action does to a node keeps the node sound;
* `Fleet.run_sound`: every node of every run is sound;
* `Fleet.last_mono`: the feed of a node never moves back.
-/

namespace Firewall

/-! ## What the parts of an instance say about its feed -/

@[simp] theorem Instance.feed_apply (i : Instance) (news : News) :
    (i.apply news).feed = i.feed := by
  cases news <;> rfl

@[simp] theorem Instance.feed_perform (i : Instance) (policy : Nat) (step : Step) :
    (i.perform policy step).feed = i.feed := by
  cases step <;> rfl

@[simp] theorem Instance.feed_equip (i : Instance) (b : Boot) : (i.equip b).feed = i.feed := by
  cases b <;> rfl

theorem Instance.last_of_feed {i j : Instance} (h : i.feed = j.feed) : i.last = j.last := by
  unfold Instance.last
  rw [h]

theorem Instance.listeners_of_feed {i j : Instance} (h : i.feed = j.feed) (table : Table) :
    i.listeners table = j.listeners table := by
  unfold Instance.listeners
  rw [h]

theorem Instance.last_eq {i : Instance} {f : Feed Listener} (h : i.feed = some f) :
    i.last = f.last := by
  unfold Instance.last
  rw [h]
  rfl

theorem Instance.last_advance {i : Instance} {f : Feed Listener} (h : i.feed = some f) :
    i.advance.last = i.last + 1 := by
  unfold Instance.last Instance.advance
  rw [h]
  rfl

@[simp] theorem Feed.last_subscribe (f : Feed Listener) (table : Table) (who : Listener) :
    (f.subscribe table who).last = f.last := by
  unfold Feed.subscribe
  split <;> rfl

theorem Feed.mem_subscribe (f : Feed Listener) (table : Table) (who : Listener)
    (s : Table × Listener) :
    s ∈ (f.subscribe table who).subscribers ↔ s = (table, who) ∨ s ∈ f.subscribers := by
  unfold Feed.subscribe
  by_cases h : (table, who) ∈ f.subscribers
  · rw [if_pos h]
    constructor
    · exact Or.inr
    · rintro (rfl | hs)
      · exact h
      · exact hs
  · rw [if_neg h]
    simp only [List.mem_append, List.mem_singleton]
    exact or_comm

theorem Feed.nodup_subscribe {f : Feed Listener} (h : f.subscribers.Nodup) (table : Table)
    (who : Listener) : (f.subscribe table who).subscribers.Nodup := by
  unfold Feed.subscribe
  by_cases hs : (table, who) ∈ f.subscribers
  · rw [if_pos hs]
    exact h
  · rw [if_neg hs]
    simp only
    rw [List.nodup_append]
    refine ⟨h, List.nodup_singleton _, ?_⟩
    intro a ha b hb
    rw [List.mem_singleton] at hb
    rintro rfl
    exact hs (hb ▸ ha)

theorem Feed.mem_listeners {f : Feed Listener} {table : Table} {who : Listener} :
    who ∈ f.listeners table ↔ (table, who) ∈ f.subscribers := by
  unfold Feed.listeners
  simp only [List.mem_map, List.mem_filter, decide_eq_true_eq]
  constructor
  · rintro ⟨⟨_, _⟩, ⟨hs, rfl⟩, rfl⟩
    exact hs
  · intro hs
    exact ⟨(table, who), ⟨hs, rfl⟩, rfl⟩

theorem Feed.nodup_listeners {f : Feed Listener} (h : f.subscribers.Nodup) (table : Table) :
    (f.listeners table).Nodup := by
  unfold Feed.listeners
  refine List.Nodup.map_on ?_ (h.filter _)
  intro x hx y hy hxy
  simp only [List.mem_filter, decide_eq_true_eq] at hx hy
  exact Prod.ext (hx.2.trans hy.2.symm) hxy

/-- No listener of a table is told twice of an entry. -/
theorem Instance.once {i : Instance} {f : Feed Listener} (hf : i.feed = some f)
    (distinct : f.subscribers.Nodup) {who : Listener} {todo : List Listener} {table : Table}
    (h : who :: todo <:+ i.listeners table) : (who :: todo).Nodup := by
  have hl : i.listeners table = f.listeners table := by
    unfold Instance.listeners
    rw [hf]
  rw [hl] at h
  exact (Feed.nodup_listeners distinct table).sublist h.sublist

theorem Instance.listeners_advance {i : Instance} {f : Feed Listener} (hf : i.feed = some f)
    (table : Table) : i.advance.listeners table = i.listeners table := by
  unfold Instance.listeners Instance.advance
  rw [hf]
  rfl

/-- A subscription gives the instance one listener, unless it has it already. -/
theorem Instance.mem_listeners_subscribe {i : Instance} {f : Feed Listener}
    (hf : i.feed = some f) (table : Table) (who : Listener) (table' : Table) (other : Listener) :
    other ∈ Instance.listeners { i with feed := some (f.subscribe table who) } table' ↔
      (table', other) = (table, who) ∨ other ∈ i.listeners table' := by
  refine Feed.mem_listeners.trans ((Feed.mem_subscribe _ _ _ _).trans ?_)
  rw [← Feed.mem_listeners]
  unfold Instance.listeners
  rw [hf]

/-! ## Taking note -/

def Note.hearings : Option Note → List Hearing
  | none => []
  | some (.heard h) => [h]
  | some (.ended _) => []

def Note.reports : Option Note → List Report
  | none => []
  | some (.heard _) => []
  | some (.ended r) => [r]

namespace Node

variable (n : Node) (note : Option Note)

@[simp] theorem note_self : (n.note note).self = n.self := by
  rcases note with _ | _ | _ <;> rfl

@[simp] theorem note_boot : (n.note note).boot = n.boot := by
  rcases note with _ | _ | _ <;> rfl

@[simp] theorem note_phase : (n.note note).phase = n.phase := by
  rcases note with _ | _ | _ <;> rfl

@[simp] theorem note_polling : (n.note note).polling = n.polling := by
  rcases note with _ | _ | _ <;> rfl

@[simp] theorem note_heard : (n.note note).heard = n.heard ++ Note.hearings note := by
  rcases note with _ | _ | _
  · exact (List.append_nil _).symm
  · rfl
  · exact (List.append_nil _).symm

@[simp] theorem note_reports : (n.note note).reports = n.reports ++ Note.reports note := by
  rcases note with _ | _ | _
  · exact (List.append_nil _).symm
  · exact (List.append_nil _).symm
  · rfl

@[simp] theorem note_changes : (n.note note).changes = n.changes := by
  rcases note with _ | _ | _ <;> rfl

@[simp] theorem note_joined : (n.note note).joined = n.joined := by
  rcases note with _ | _ | _ <;> rfl

end Node

theorem Node.subscribe_of_feed {n : Node} {f : Feed Listener} (h : n.self.feed = some f)
    (table : Table) (who : Listener) :
    n.subscribe table who =
      { n with
        self := { n.self with feed := some (f.subscribe table who) }
        joined := if n.joined.contains (table, who) then n.joined
          else n.joined.insert (table, who) f.last } := by
  unfold Node.subscribe
  rw [h]

section

variable (n : Node) (table : Table) (who : Listener)

@[simp] theorem Node.phase_subscribe : (n.subscribe table who).phase = n.phase := by
  unfold Node.subscribe
  cases n.self.feed <;> rfl

@[simp] theorem Node.reports_subscribe : (n.subscribe table who).reports = n.reports := by
  unfold Node.subscribe
  cases n.self.feed <;> rfl

@[simp] theorem Node.changes_subscribe : (n.subscribe table who).changes = n.changes := by
  unfold Node.subscribe
  cases n.self.feed <;> rfl

@[simp] theorem Node.policies_subscribe :
    (n.subscribe table who).self.policies = n.self.policies := by
  unfold Node.subscribe
  cases n.self.feed <;> rfl

@[simp] theorem Node.guards_subscribe :
    (n.subscribe table who).self.guards = n.self.guards := by
  unfold Node.subscribe
  cases n.self.feed <;> rfl

end

/-! ## Soundness -/

/-- An entry is the next one for a feed, in a log that reaches up to a head. -/
structure Progress.Handles (p : Progress) (e : LogEntry) (last : Nat)
    (log : List (Table × String)) : Prop where
  here : p.last = last
  next : e.id = last + 1
  room : last < p.head
  head : p.head ≤ log.length
  logged : log[last]? = some (e.table, e.key)

/-- What the phase of an instance says about its feed and the log. -/
def Phase.Sound (i : Instance) (log : List (Table × String)) : Phase → Prop
  | .idle => True
  | .catching p => p.last = i.last ∧ p.head ≤ log.length ∧ (p.done = 0 ∨ p.last ≤ p.head)
  | .delivering p e todo => p.Handles e i.last log ∧ todo <:+ i.listeners e.table
  | .applying p e news todo =>
    p.Handles e i.last log ∧ news.who :: todo <:+ i.listeners e.table

/-- A node whose feed and poll fit together and fit the log. -/
structure Node.Sound (t : Tables) (n : Node) : Prop where
  /-- Nothing is prepared, and no poll goes on, before the feed is there. -/
  asleep : n.self.feed = none → n.boot = none ∧ n.polling = false
  /-- No poll goes on before polls have begun. -/
  resting : n.polling = false → n.phase = .idle
  /-- Polls begin only when nothing is being prepared any more. -/
  ready : n.boot ≠ none → n.polling = false
  behind : n.self.last ≤ t.log.length
  once : ∀ f, n.self.feed = some f → f.subscribers.Nodup
  phase : n.phase.Sound n.self t.log

theorem Phase.Sound.grow {i : Instance} {log : List (Table × String)} {phase : Phase}
    (h : phase.Sound i log) (more : List (Table × String)) : phase.Sound i (log ++ more) := by
  have handles : ∀ {p : Progress} {e : LogEntry}, p.Handles e i.last log →
      p.Handles e i.last (log ++ more) := by
    intro p e h
    refine ⟨h.here, h.next, h.room, ?_, ?_⟩
    · have := h.head
      rw [List.length_append]
      omega
    · rw [List.getElem?_append_left (Nat.lt_of_lt_of_le h.room h.head)]
      exact h.logged
  cases phase with
  | idle => trivial
  | catching p =>
    obtain ⟨hl, hh, hd⟩ := h
    refine ⟨hl, ?_, hd⟩
    rw [List.length_append]
    omega
  | delivering p e todo => exact ⟨handles h.1, h.2⟩
  | applying p e news todo => exact ⟨handles h.1, h.2⟩

theorem Phase.Sound.of_feed {i j : Instance} {log : List (Table × String)} {phase : Phase}
    (h : phase.Sound i log) (hf : j.feed = i.feed) : phase.Sound j log := by
  have hl := Instance.last_of_feed hf
  cases phase with
  | idle => trivial
  | catching p =>
    show _ ∧ _
    rw [hl]
    exact h
  | delivering p e todo =>
    show _ ∧ _
    rw [hl, Instance.listeners_of_feed hf]
    exact h
  | applying p e news todo =>
    show _ ∧ _
    rw [hl, Instance.listeners_of_feed hf]
    exact h

namespace Node.Sound

variable {t : Tables} {n : Node}

theorem fresh (t : Tables) : Node.fresh.Sound t where
  asleep _ := ⟨rfl, rfl⟩
  resting _ := rfl
  ready h := absurd rfl h
  behind := Nat.zero_le _
  once _ h := by cases h
  phase := trivial

theorem grow (h : n.Sound t) {t' : Tables} {more : List (Table × String)}
    (ht : t'.log = t.log ++ more) : n.Sound t' := by
  refine ⟨h.asleep, h.resting, h.ready, ?_, h.once, ?_⟩
  · have := h.behind
    rw [ht, List.length_append]
    omega
  · rw [ht]
    exact h.phase.grow more

/-- A node with a feed that is not ahead of the log and with no poll under way. -/
theorem of_idle {f : Feed Listener} (hf : n.self.feed = some f) (hlast : f.last ≤ t.log.length)
    (once : f.subscribers.Nodup) (hphase : n.phase = .idle)
    (ready : n.boot ≠ none → n.polling = false) : n.Sound t where
  asleep h := by rw [hf] at h; cases h
  resting _ := hphase
  ready := ready
  behind := by rw [Instance.last_eq hf]; exact hlast
  once g hg := by rw [hf] at hg; cases hg; exact once
  phase := by rw [hphase]; trivial

/-- Nothing is being prepared without a feed. -/
theorem awake_of_boot (h : n.Sound t) {b : Boot} (hb : n.boot = some b) :
    ∃ f, n.self.feed = some f := by
  rw [← Option.ne_none_iff_exists']
  intro hf
  rw [(h.asleep hf).1] at hb
  cases hb

theorem subscribe (h : n.Sound t) (hn : n.phase = .idle) (table : Table) (who : Listener) :
    (n.subscribe table who).Sound t := by
  unfold Node.subscribe
  cases hf : n.self.feed with
  | none => exact h
  | some f =>
    refine of_idle rfl ?_ (Feed.nodup_subscribe (h.once f hf) table who) hn h.ready
    rw [Feed.last_subscribe, ← Instance.last_eq hf]
    exact h.behind

theorem joined (h : n.Sound t) {n' : Node} (hj : Joined n n') : n'.Sound t := by
  cases hj with
  | same => exact h
  | begun b hb =>
    have hp := h.ready (by rw [hb]; exact Option.some_ne_none _)
    obtain ⟨f, hf⟩ := h.awake_of_boot hb
    have hl : f.last ≤ t.log.length := Instance.last_eq hf ▸ h.behind
    apply subscribe
    · exact of_idle ((n.self.feed_equip b).trans hf) hl (h.once f hf) (h.resting hp) fun _ => hp
    · exact h.resting hp

theorem connected (h : n.Sound t) {failing : Failing} {n' : Node}
    (hc : Connected t failing n n') : n'.Sound t := by
  cases hc with
  | same => exact h
  | started hf =>
    obtain ⟨hb, hp⟩ := h.asleep hf
    exact of_idle rfl (Nat.le_refl _) List.nodup_nil (h.resting hp) h.ready

theorem loaded (h : n.Sound t) {n' : Node} (hl : Loaded t n n') : n'.Sound t := by
  cases hl with
  | same => exact h
  | settings hp f hf =>
    exact of_idle hf (Instance.last_eq hf ▸ h.behind) (h.once f hf) (h.resting hp) fun _ => hp
  | rules hp f hf lookup =>
    exact of_idle hf (Instance.last_eq hf ▸ h.behind) (h.once f hf) (h.resting hp) fun _ => hp

theorem carried (h : n.Sound t) {failing : Failing} {j : Nat} {n' : Node} {t' : Tables}
    (hc : Carried t failing n j n' t') : n'.Sound t := by
  cases hc with
  | none _ => exact h
  | ended policy _ => exact ⟨h.asleep, h.resting, h.ready, h.behind, h.once, h.phase⟩
  | failed policy step rest _ _ => exact ⟨h.asleep, h.resting, h.ready, h.behind, h.once, h.phase⟩
  | done policy step rest _ _ _ =>
    have hf := n.self.feed_perform policy step
    refine ⟨?_, h.resting, h.ready, ?_, ?_, ?_⟩
    · intro hn
      exact h.asleep (hf.symm.trans hn)
    · exact Instance.last_of_feed hf ▸ h.behind
    · intro f hn
      exact h.once f (hf.symm.trans hn)
    · exact h.phase.of_feed hf

/-- A step of a poll keeps a feed and its poll together. -/
theorem polled (h : n.Sound t) {failing : Failing} {f : Feed Listener} (hf : n.self.feed = some f)
    {phase : Phase} {note : Option Note} {self : Instance}
    (hm : PollMove t failing n.self n.phase phase note self) :
    self.last ≤ t.log.length ∧ phase.Sound self t.log ∧
      ∃ g, self.feed = some g ∧ g.subscribers = f.subscribers := by
  have hs := h.phase
  have hb := h.behind
  generalize n.phase = before at hm hs
  cases hm with
  | noHead cause => exact ⟨hb, trivial, f, hf, rfl⟩
  | head => exact ⟨hb, ⟨rfl, Nat.le_refl _, Or.inl rfl⟩, f, hf, rfl⟩
  | noEntry p cause hp => exact ⟨hb, trivial, f, hf, rfl⟩
  | fetched p table key hp logged =>
    obtain ⟨hl, hh, -⟩ := hs
    refine ⟨hb, ⟨⟨hl, by rw [hl], hl ▸ hp, hh, hl ▸ logged⟩, List.suffix_rfl⟩, f, hf, rfl⟩
  | complete p hp => exact ⟨hb, trivial, f, hf, rfl⟩
  | unread p e who todo hu =>
    exact ⟨hb, ⟨hs.1, (List.suffix_cons _ _).trans hs.2⟩, f, hf, rfl⟩
  | readSetting p e k value todo hv => exact ⟨hb, hs, f, hf, rfl⟩
  | readRules p e k todo => exact ⟨hb, hs, f, hf, rfl⟩
  | recorded p e name todo =>
    exact ⟨hb, ⟨hs.1, (List.suffix_cons _ _).trans hs.2⟩, f, hf, rfl⟩
  | applied p e news todo =>
    have hlast := Instance.last_of_feed (n.self.feed_apply news)
    have hlist := Instance.listeners_of_feed (n.self.feed_apply news) e.table
    refine ⟨hlast ▸ hb, ⟨hlast ▸ hs.1, ?_⟩, f, (n.self.feed_apply news).trans hf, rfl⟩
    rw [hlist]
    exact (List.suffix_cons _ _).trans hs.2
  | moved p e =>
    have hlast := Instance.last_advance hf
    have hp := hs.1
    have := hp.here
    have := hp.room
    have := hp.head
    refine ⟨by omega, ⟨?_, hp.head, Or.inr ?_⟩, f.advance, ?_, rfl⟩
    · rw [hlast]
      show p.start + (p.done + 1) = _
      unfold Progress.last at *
      omega
    · show p.start + (p.done + 1) ≤ p.head
      unfold Progress.last at *
      omega
    · unfold Instance.advance
      rw [hf]
      rfl

theorem turn_before (h : n.Sound t) {ι : Type} {failing : Failing} {a : Action ι} {t' : Tables}
    {n' : Node} (ht : Turn t failing n a t' n') : n'.Sound t := by
  cases ht with
  | connected i _ hc => exact h.connected hc
  | loaded i part _ hl => exact h.loaded hl
  | joined i _ hj => exact h.joined hj
  | subscribed i table who hn => exact h.subscribe hn table who
  | busy i table who => exact h
  | submitted i policy steps => exact ⟨h.asleep, h.resting, h.ready, h.behind, h.once, h.phase⟩
  | carried i j _ _ hc => exact h.carried hc
  | waiting i => exact h
  | polled i f phase note self hb hf hm =>
    obtain ⟨hl, hp, g, hg, hsub⟩ := h.polled hf hm
    refine ⟨?_, ?_, ?_, ?_, ?_, ?_⟩
    · intro hn
      rw [Node.note_self] at hn
      rw [hg] at hn
      cases hn
    · intro hn
      rw [Node.note_polling] at hn
      cases hn
    · intro hn
      rw [Node.note_boot] at hn
      exact absurd hb hn
    · rw [Node.note_self]
      exact hl
    · intro g' hg'
      rw [Node.note_self] at hg'
      rw [hg] at hg'
      cases hg'
      rw [hsub]
      exact h.once f hf
    · rw [Node.note_self, Node.note_phase]
      exact hp

theorem turn (h : n.Sound t) {ι : Type} {failing : Failing} {a : Action ι} {t' : Tables}
    {n' : Node} (ht : Turn t failing n a t' n') : n'.Sound t' := by
  obtain ⟨more, hmore⟩ := ht.log_grows
  exact (h.turn_before ht).grow hmore

end Node.Sound

theorem PollMove.last_le {t : Tables} {failing : Failing} {i self : Instance}
    {phase phase' : Phase} {note : Option Note} (h : PollMove t failing i phase phase' note self) :
    i.last ≤ self.last := by
  cases h with
  | applied p e news todo => exact Nat.le_of_eq (Instance.last_of_feed (i.feed_apply news)).symm
  | moved p e =>
    unfold Instance.last Instance.advance
    cases i.feed with
    | none => exact Nat.le_refl _
    | some f => exact Nat.le_succ _
  | _ => exact Nat.le_refl _

theorem Node.last_subscribe (n : Node) (table : Table) (who : Listener) :
    (n.subscribe table who).self.last = n.self.last := by
  unfold Node.subscribe
  cases hf : n.self.feed with
  | none => rfl
  | some f =>
    rw [Instance.last_eq hf]
    exact f.last_subscribe table who

theorem PollMove.feed_none {t : Tables} {failing : Failing} {i self : Instance}
    {phase phase' : Phase} {note : Option Note} (h : PollMove t failing i phase phase' note self)
    (hn : self.feed = none) : i.feed = none := by
  cases h with
  | applied p e news todo => exact (i.feed_apply news).symm.trans hn
  | moved p e => exact Option.map_eq_none_iff.mp hn
  | _ => exact hn

theorem Node.feed_subscribe_none {n : Node} {table : Table} {who : Listener}
    (h : (n.subscribe table who).self.feed = none) : n.self.feed = none := by
  unfold Node.subscribe at h
  cases hf : n.self.feed with
  | none => rfl
  | some f =>
    rw [hf] at h
    cases h

/-- A feed that is there stays. -/
theorem Turn.feed_none {ι : Type} {t t' : Tables} {failing : Failing} {n n' : Node}
    {a : Action ι} (ht : Turn t failing n a t' n') (hn : n'.self.feed = none) :
    n.self.feed = none := by
  cases ht with
  | connected i _ hc =>
    cases hc with
    | same _ => exact hn
    | started hf => exact hf
  | loaded i part _ hl => cases hl <;> exact hn
  | joined i _ hj =>
    cases hj with
    | same _ => exact hn
    | begun b hb => exact (n.self.feed_equip b).symm.trans (Node.feed_subscribe_none hn)
  | subscribed i table who _ => exact Node.feed_subscribe_none hn
  | carried i j _ _ hc =>
    cases hc with
    | done policy step rest _ _ _ => exact (n.self.feed_perform policy step).symm.trans hn
    | _ => exact hn
  | polled i f phase note self hb hf hm =>
    rw [Node.note_self] at hn
    exact hm.feed_none hn
  | _ => exact hn

/-- The feed of a node is moved by polls only, and only forwards. -/
theorem Turn.last_le {ι : Type} {t t' : Tables} {failing : Failing} {n n' : Node} {a : Action ι}
    (ht : Turn t failing n a t' n') : n.self.last ≤ n'.self.last := by
  cases ht with
  | connected i _ hc =>
    cases hc with
    | same => exact Nat.le_refl _
    | started hf =>
      unfold Instance.last
      rw [hf]
      exact Nat.zero_le _
  | loaded i part _ hl => cases hl <;> exact Nat.le_refl _
  | joined i _ hj =>
    cases hj with
    | same => exact Nat.le_refl _
    | begun b hb =>
      rw [Node.last_subscribe]
      exact Nat.le_of_eq (Instance.last_of_feed (n.self.feed_equip b)).symm
  | subscribed i table who hn => exact Nat.le_of_eq (Node.last_subscribe _ _ _).symm
  | busy i table who => exact Nat.le_refl _
  | submitted i policy steps => exact Nat.le_refl _
  | carried i j _ _ hc =>
    cases hc with
    | done policy step rest _ _ _ =>
      exact Nat.le_of_eq (Instance.last_of_feed (n.self.feed_perform policy step)).symm
    | _ => exact Nat.le_refl _
  | waiting i => exact Nat.le_refl _
  | polled i f phase note self hb hf hm =>
    rw [Node.note_self]
    exact hm.last_le

namespace Fleet

variable {ι σ : Type} [DecidableEq ι] [RecordStore σ] [LawfulStore σ]

/-- A property of nodes on tables that every turn keeps, also the turns of other
nodes, holds of all nodes of a run if it holds of all nodes before it. -/
theorem run_induction (P : Tables → Node → Prop)
    (turn : ∀ {t t' : Tables} {failing : Failing} {n n' : Node} {a : Action ι},
      P t n → Turn t failing n a t' n' → P t' n')
    (grow : ∀ {t t' : Tables} {n : Node} {more : List (Table × String)},
      P t n → t'.log = t.log ++ more → P t' n)
    (actions : List (Action ι)) {c : Fleet ι σ} {t : Tables} (ht : c.world.store.Shows t)
    (h : ∀ i, P t (c.nodes i)) :
    ∃ t', (c.run actions).world.store.Shows t' ∧ (∃ more, t'.log = t.log ++ more) ∧
      ∀ i, P t' ((c.run actions).nodes i) := by
  induction actions generalizing c t with
  | nil => exact ⟨t, ht, ⟨[], (List.append_nil _).symm⟩, h⟩
  | cons a actions ih =>
    rcases step_turn ht a with ⟨failing, -, hn, hst, -⟩ | ⟨i, t', n', -, hst, -, hn, hturn⟩
    · exact ih hst fun i => by rw [hn]; exact h i
    · obtain ⟨more, hmore⟩ := hturn.log_grows
      obtain ⟨t'', hst', ⟨more', hmore'⟩, hall⟩ := ih hst fun k => by
        rw [hn]
        by_cases hk : k = i
        · subst hk
          rw [Function.update_self]
          exact turn (h k) hturn
        · rw [Function.update_of_ne hk]
          exact grow (h k) hmore
      refine ⟨t'', hst', ⟨more ++ more', ?_⟩, hall⟩
      rw [hmore', hmore, List.append_assoc]

/-- **Every node of every run is sound.** -/
theorem run_sound (w : World (Faulty σ)) {t : Tables} (ht : w.store.Shows t)
    (actions : List (Action ι)) :
    ∃ t', ((start w : Fleet ι σ).run actions).world.store.Shows t' ∧
      (∃ more, t'.log = t.log ++ more) ∧
      ∀ i, (((start w : Fleet ι σ).run actions).nodes i).Sound t' :=
  run_induction (fun t n => n.Sound t) (fun h => h.turn) (fun h => h.grow) actions ht
    fun _ => .fresh t

/-- **No feed moves back** in a run. -/
theorem last_mono (actions : List (Action ι)) {c : Fleet ι σ} {t : Tables}
    (ht : c.world.store.Shows t) (i : ι) :
    (c.nodes i).self.last ≤ ((c.run actions).nodes i).self.last := by
  induction actions generalizing c t with
  | nil => exact Nat.le_refl _
  | cons a actions ih =>
    rcases step_turn ht a with ⟨failing, -, hn, hst, -⟩ | ⟨k, t', n', -, hst, -, hn, hturn⟩
    · rw [← hn]
      exact ih hst
    · refine Nat.le_trans ?_ (ih hst)
      rw [hn]
      by_cases hk : i = k
      · subst hk
        rw [Function.update_self]
        exact hturn.last_le
      · exact Nat.le_of_eq (by rw [Function.update_of_ne hk])

end Fleet

end Firewall
