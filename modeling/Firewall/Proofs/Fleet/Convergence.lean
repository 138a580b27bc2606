import Firewall.Proofs.Fleet.Upkeep

/-!
Instances come to agree with the store. Once no change is half done, the next poll of an
instance that ends well leaves in its memory what the store says, whatever has happened
before and whatever happens meanwhile.

Proved here:

* `Fleet.Kept.caught_up`: an instance that has caught up with the log reflects the store
  in everything that it has not missed;
* `Fleet.converges`: an instance whose listeners could always read the store agrees with
  the store after a poll;
* `Fleet.applies_unless_missed`: one whose listeners could not does so in all they did
  not miss, and never catches up on what they missed.
-/

namespace Firewall

/-! ## Without new changes -/

/-- An action that begins no change. -/
def Action.Still {ι : Type} : Action ι → Prop
  | .submit _ _ _ => False
  | _ => True

/-- What a turn does to the phase, the reports and the policies of a node, if it is not
a step of a poll and no change is on its way. -/
theorem Turn.poll_or_still {ι : Type} {t t' : Tables} {failing : Failing} {n n' : Node}
    {a : Action ι} (ht : Turn t failing n a t' n') (still : a.Still) (quiet : n.changes = []) :
    t' = t ∧ n'.changes = [] ∧
      ((∃ phase note self, PollMove t failing n.self n.phase phase note self ∧
        n' = { n with self, phase, polling := true }.note note) ∨
      (n'.phase = n.phase ∧ n'.reports = n.reports ∧
        (∃ more, n'.self.policies = n.self.policies ++ more) ∧
        ∃ more, n'.self.guards = n.self.guards ++ more)) := by
  have same : ∀ m : Node, m.phase = n.phase → m.reports = n.reports →
      m.self.policies = n.self.policies → m.self.guards = n.self.guards →
      m.phase = n.phase ∧ m.reports = n.reports ∧
        (∃ more, m.self.policies = n.self.policies ++ more) ∧
        ∃ more, m.self.guards = n.self.guards ++ more := by
    intro m hp hr hpol hg
    refine ⟨hp, hr, ⟨[], ?_⟩, ⟨[], ?_⟩⟩
    · rw [hpol, List.append_nil]
    · rw [hg, List.append_nil]
  cases ht with
  | connected i _ hc => cases hc <;> exact ⟨rfl, quiet, Or.inr (same _ rfl rfl rfl rfl)⟩
  | loaded i part _ hl => cases hl <;> exact ⟨rfl, quiet, Or.inr (same _ rfl rfl rfl rfl)⟩
  | joined i _ hj =>
    cases hj with
    | same _ => exact ⟨rfl, quiet, Or.inr (same _ rfl rfl rfl rfl)⟩
    | begun b hb =>
      refine ⟨rfl, (Node.changes_subscribe _ _ _).trans quiet, Or.inr ⟨?_, ?_, ?_, ?_⟩⟩
      · exact Node.phase_subscribe _ _ _
      · exact Node.reports_subscribe _ _ _
      · rw [Node.policies_subscribe]
        cases b with
        | settings rows => exact ⟨[_], rfl⟩
        | rules rules lookup => exact ⟨[], (List.append_nil _).symm⟩
      · rw [Node.guards_subscribe]
        cases b with
        | settings rows => exact ⟨[], (List.append_nil _).symm⟩
        | rules rules lookup => exact ⟨[_], rfl⟩
  | subscribed i table who hn =>
    refine ⟨rfl, (Node.changes_subscribe _ _ _).trans quiet, Or.inr (same _ ?_ ?_ ?_ ?_)⟩
    · exact Node.phase_subscribe _ _ _
    · exact Node.reports_subscribe _ _ _
    · exact Node.policies_subscribe _ _ _
    · exact Node.guards_subscribe _ _ _
  | busy i table who => exact ⟨rfl, quiet, Or.inr (same _ rfl rfl rfl rfl)⟩
  | submitted i policy steps => cases still
  | carried i j _ _ hc =>
    cases hc with
    | none _ => exact ⟨rfl, quiet, Or.inr (same _ rfl rfl rfl rfl)⟩
    | ended policy hj => rw [quiet] at hj; cases hj
    | failed policy step rest hj hs => rw [quiet] at hj; cases hj
    | done policy step rest _ hj he => rw [quiet] at hj; cases hj
  | waiting i => exact ⟨rfl, quiet, Or.inr (same _ rfl rfl rfl rfl)⟩
  | polled i f phase note self hb hf hm =>
    exact ⟨rfl, (Node.note_changes _ _).trans quiet, Or.inl ⟨phase, note, self, hm, rfl⟩⟩

def Report.Well (r : Report) : Prop := ∃ head count, r.ending = .complete head count

def Phase.progress? : Phase → Option Progress
  | .idle => none
  | .catching p => some p
  | .delivering p _ _ => some p
  | .applying p _ _ _ => some p

/-- Polls go up to the end of the log, and those that ended well, after the first so many,
have brought the feed there. -/
structure Node.Settles (t : Tables) (old : Nat) (n : Node) : Prop where
  head : ∀ p, n.phase.progress? = some p → p.head = t.log.length
  well : ∀ r ∈ n.reports.drop old, r.Well → t.log.length ≤ n.self.last

/-- A step of a poll on a log that does not grow. -/
theorem Node.Settles.polled {t : Tables} {old : Nat} {n : Node} (h : n.Settles t old)
    (hs : n.phase.Sound n.self t.log) {failing : Failing} {phase : Phase} {note : Option Note}
    {self : Instance} (hm : PollMove t failing n.self n.phase phase note self) :
    (Node.note { n with self, phase, polling := true } note).Settles t old := by
  have hlast := hm.last_le
  have keep : ∀ r ∈ n.reports.drop old, r.Well → t.log.length ≤ self.last :=
    fun r hr hw => Nat.le_trans (h.well r hr hw) hlast
  have hhead := h.head
  refine ⟨?_, ?_⟩
  · rw [Node.note_phase]
    intro p hp
    dsimp only at hp
    generalize n.phase = before at hm hhead
    cases hm with
    | head =>
      cases hp
      rfl
    | moved p' e =>
      cases hp
      exact hhead p' rfl
    | _ => first | exact hhead p hp | cases hp
  · intro r hr hw
    rw [Node.note_reports, List.drop_append] at hr
    rw [Node.note_self]
    rcases List.mem_append.mp hr with hr | hr
    · exact keep r hr hw
    · -- a new report tells of a poll that was at its head, and this is the end of the log
      have hnew : r ∈ Note.reports note := List.mem_of_mem_drop hr
      generalize n.phase = before at hm hhead hs
      cases hm with
      | complete p hp =>
        have hl : p.last = n.self.last := hs.1
        have := hhead p rfl
        show t.log.length ≤ n.self.last
        omega
      | noHead cause =>
        rw [List.mem_singleton.mp hnew] at hw
        obtain ⟨head, count, hw⟩ := hw
        cases hw
      | noEntry p cause hp =>
        rw [List.mem_singleton.mp hnew] at hw
        obtain ⟨head, count, hw⟩ := hw
        cases hw
      | _ => cases hnew

/-! ## Caught up -/

theorem Phase.le_reached (who : Listener) (last : Nat) (phase : Phase) :
    last ≤ phase.reached who last := by
  cases phase with
  | delivering p e todo =>
    simp only [Phase.reached]
    split <;> omega
  | applying p e news todo =>
    simp only [Phase.reached]
    split <;> omega
  | _ => exact Nat.le_refl _

/-- A step of a poll at the end of the log leaves policies and guards alone. -/
theorem PollMove.at_end {t : Tables} {failing : Failing} {i i' : Instance}
    {phase phase' : Phase} {note : Option Note}
    (hm : PollMove t failing i phase phase' note i') (hs : phase.Sound i t.log)
    (hl : t.log.length ≤ i.last) : i'.policies = i.policies ∧ i'.guards = i.guards := by
  cases hm with
  | applied p e news todo =>
    have := hs.1.room
    have := hs.1.head
    omega
  | _ => exact ⟨rfl, rfl⟩

/-- An instance has in memory what the tables say. -/
structure Instance.InStep (i : Instance) (t : Tables) : Prop where
  policies : ∀ (k : Nat) (p : Policy), i.policies[k]? = some p →
    p.Agrees (.ofSettings t.settings.rows)
  guards : ∀ (k : Nat) (g : Guard), i.guards[k]? = some g → g.table = .ofRules t.rules

namespace Fleet

variable {ι σ : Type} [DecidableEq ι] [RecordStore σ] [LawfulStore σ]

omit [DecidableEq ι] in
/-- **An instance that has caught up with the log** reflects the store in everything that
it has not missed, if no change is half done. -/
theorem Kept.caught_up {c : Fleet ι σ} {t : Tables} (h : c.Kept t) (quiet : c.Quiet) {i : ι}
    (hl : t.log.length ≤ (c.nodes i).self.last) (who : Listener) (x : Topic) :
    Reflects t (c.nodes i).self who x ∨ Missed (c.nodes i).heard who x := by
  rcases (h.fresh i).held who x with hr | ha | hm | hp
  · exact Or.inl hr
  · rcases ha with ⟨k, change, hc, -⟩ | ⟨n, entry, hn, hentry, -⟩
    · rw [quiet k] at hc
      cases hc
    · have hlt := (List.getElem?_eq_some_iff.mp hentry).1
      have := Phase.le_reached who (c.nodes i).self.last (c.nodes i).phase
      omega
  · exact Or.inr hm
  · have hs := (h.sound i).phase
    generalize (c.nodes i).phase = phase at hp hs
    cases phase with
    | applying p e news todo =>
      have := hs.1.room
      have := hs.1.head
      omega
    | _ => cases hp

/-- Without new changes a quiet fleet stays quiet, and its tables stay as they are. -/
theorem Kept.still {c : Fleet ι σ} {t : Tables} (h : c.Kept t) (quiet : c.Quiet) {a : Action ι}
    (ord : a.Ordinary) (still : a.Still) :
    (c.step a).Kept t ∧ (c.step a).Quiet ∧ ∀ i, (c.step a).nodes i = c.nodes i ∨
      ∃ failing, Turn t failing (c.nodes i) a t ((c.step a).nodes i) := by
  rcases step_turn h.shows a with ⟨failing, rfl, hn, hst, hf⟩ | ⟨i, t', n', -, hst, hf, hn, ht⟩
  · refine ⟨h.weather hst (hf ▸ ord) hn, ?_, fun i => Or.inl (by rw [hn])⟩
    unfold Quiet
    rw [hn]
    exact quiet
  · obtain ⟨rfl, hchanges, -⟩ := ht.poll_or_still still (quiet i)
    refine ⟨h.turn hst hf hn ord ht, ?_, ?_⟩
    · intro k
      rw [hn, Function.update_apply]
      by_cases hk : k = i
      · rw [if_pos hk]
        exact hchanges
      · rw [if_neg hk]
        exact quiet k
    · intro k
      rw [hn, Function.update_apply]
      by_cases hk : k = i
      · subst hk
        rw [if_pos rfl]
        exact Or.inr ⟨_, ht⟩
      · rw [if_neg hk]
        exact Or.inl rfl

/-- What every turn of a node keeps while no change is on its way, a run keeps in which
none begins. -/
theorem Kept.run_still (P : Node → Prop) {t : Tables} {i : ι} (actions : List (Action ι))
    (turn : ∀ {failing n n'} {a : Action ι}, n.Sound t → n.changes = [] → a.Still → P n →
      Turn t failing n a t n' → P n')
    (ord : ∀ a ∈ actions, a.Ordinary) (still : ∀ a ∈ actions, a.Still)
    {c : Fleet ι σ} (h : c.Kept t) (quiet : c.Quiet) (hP : P (c.nodes i)) :
    (c.run actions).Kept t ∧ (c.run actions).Quiet ∧ P ((c.run actions).nodes i) := by
  induction actions generalizing c with
  | nil => exact ⟨h, quiet, hP⟩
  | cons a actions ih =>
    have hs := still a List.mem_cons_self
    obtain ⟨h', quiet', hnodes⟩ := h.still quiet (ord a List.mem_cons_self) hs
    refine ih (fun b hb => ord b (List.mem_cons_of_mem a hb))
      (fun b hb => still b (List.mem_cons_of_mem a hb)) h' quiet' ?_
    rcases hnodes i with heq | ⟨failing, ht⟩
    · rw [heq]
      exact hP
    · exact turn (h.sound i) (quiet i) hs hP ht

/-- A poll that begins when no change is half done and ends well brings the feed to the
end of the log. -/
theorem Kept.run_settles {c : Fleet ι σ} {t : Tables} (h : c.Kept t) (quiet : c.Quiet) {i : ι}
    (idle : (c.nodes i).phase = .idle) (actions : List (Action ι))
    (ord : ∀ a ∈ actions, a.Ordinary) (still : ∀ a ∈ actions, a.Still)
    (well : ∃ r ∈ ((c.run actions).nodes i).reports.drop (c.nodes i).reports.length, r.Well) :
    (c.run actions).Kept t ∧ (c.run actions).Quiet ∧
      t.log.length ≤ ((c.run actions).nodes i).self.last := by
  have start : (c.nodes i).Settles t (c.nodes i).reports.length := by
    refine ⟨?_, ?_⟩
    · intro p hp
      rw [idle] at hp
      cases hp
    · intro r hr
      rw [List.drop_length] at hr
      cases hr
  have turn : ∀ {failing : Failing} {n n' : Node} {a : Action ι}, n.Sound t → n.changes = [] →
      a.Still → n.Settles t (c.nodes i).reports.length → Turn t failing n a t n' →
      n'.Settles t (c.nodes i).reports.length := by
    intro failing n n' a hs hq hst hP ht
    obtain ⟨-, -, ⟨phase, note, self, hm, rfl⟩ | ⟨hp, hr, -⟩⟩ := ht.poll_or_still hst hq
    · exact hP.polled hs.phase hm
    · refine ⟨?_, ?_⟩
      · rw [hp]
        exact hP.head
      · rw [hr]
        exact fun r hr hw => Nat.le_trans (hP.well r hr hw) ht.last_le
  obtain ⟨h', quiet', hset⟩ := h.run_still (fun n => n.Settles t (c.nodes i).reports.length)
    actions turn ord still quiet start
  obtain ⟨r, hr, hw⟩ := well
  exact ⟨h', quiet', hset.well r hr hw⟩

/-- **What has been missed is never caught up on**: the policies and guards of an instance
that has caught up with the log stay as they are, however many polls there are, until a
change begins. -/
theorem Kept.stays {c : Fleet ι σ} {t : Tables} (h : c.Kept t) (quiet : c.Quiet) {i : ι}
    (hl : t.log.length ≤ (c.nodes i).self.last) (actions : List (Action ι))
    (ord : ∀ a ∈ actions, a.Ordinary) (still : ∀ a ∈ actions, a.Still) :
    (c.run actions).world.store.Shows t ∧
      (∃ more, ((c.run actions).nodes i).self.policies = (c.nodes i).self.policies ++ more) ∧
      ∃ more, ((c.run actions).nodes i).self.guards = (c.nodes i).self.guards ++ more := by
  let P : Node → Prop := fun n => t.log.length ≤ n.self.last ∧
    (∃ more, n.self.policies = (c.nodes i).self.policies ++ more) ∧
    ∃ more, n.self.guards = (c.nodes i).self.guards ++ more
  have turn : ∀ {failing : Failing} {n n' : Node} {a : Action ι}, n.Sound t → n.changes = [] →
      a.Still → P n → Turn t failing n a t n' → P n' := by
    rintro failing n n' a hs hq hst ⟨hl, ⟨ps, hp⟩, gs, hg⟩ ht
    refine ⟨Nat.le_trans hl ht.last_le, ?_⟩
    obtain ⟨-, -, ⟨phase, note, self, hm, rfl⟩ | ⟨-, -, ⟨ps', hp'⟩, gs', hg'⟩⟩ :=
      ht.poll_or_still hst hq
    · obtain ⟨hp', hg'⟩ := hm.at_end hs.phase hl
      rw [Node.note_self]
      exact ⟨⟨ps, hp'.trans hp⟩, gs, hg'.trans hg⟩
    · refine ⟨⟨ps ++ ps', ?_⟩, gs ++ gs', ?_⟩
      · rw [hp', hp, List.append_assoc]
      · rw [hg', hg, List.append_assoc]
  have hP : P (c.nodes i) :=
    ⟨hl, ⟨[], (List.append_nil _).symm⟩, [], (List.append_nil _).symm⟩
  obtain ⟨h', -, -, hp, hg⟩ := h.run_still P actions turn ord still quiet hP
  exact ⟨h'.shows, hp, hg⟩

/-- What a run has come to that goes on without new changes until a poll of an instance
has ended well: the instance reflects the store in everything it has not missed. -/
theorem run_caught_up {w : World (Faulty σ)} {t₀ : Tables} (ht : w.store.Shows t₀)
    (spares : w.store.failing.Spares) {before after : List (Action ι)} {i : ι}
    (ordinary : ∀ a ∈ before ++ after, a.Ordinary)
    (quiet : ((start w : Fleet ι σ).run before).Quiet)
    (idle : (((start w : Fleet ι σ).run before).nodes i).phase = .idle)
    (still : ∀ a ∈ after, a.Still)
    (well : ∃ r ∈ ((((start w : Fleet ι σ).run before).run after).nodes i).reports.drop
      (((start w : Fleet ι σ).run before).nodes i).reports.length, r.Well) :
    ∃ t, (((start w : Fleet ι σ).run before).run after).Kept t ∧
      (((start w : Fleet ι σ).run before).run after).Quiet ∧
      t.log.length ≤ ((((start w : Fleet ι σ).run before).run after).nodes i).self.last := by
  obtain ⟨t, hk⟩ := (Kept.start (ι := ι) w ht spares).run before
    fun a ha => ordinary a (List.mem_append_left _ ha)
  exact ⟨t, hk.run_settles quiet idle after
    (fun a ha => ordinary a (List.mem_append_right _ ha)) still well⟩

/-- **Instances converge.** Let any instances start, change settings and countries, and
poll, step by step and in any order, where the store may fail to be read but takes what
is written to it. Once no change is half done, an instance that polls, that could read
the store each time one of its listeners heard of a change, and whose poll ends well has
in memory what the store says: its policies decide as the stored settings do, its guards
have the stored rules. -/
theorem converges (w : World (Faulty σ)) {t₀ : Tables} (ht : w.store.Shows t₀)
    (spares : w.store.failing.Spares) (before after : List (Action ι)) (i : ι)
    (ordinary : ∀ a ∈ before ++ after, a.Ordinary) (still : ∀ a ∈ after, a.Still) :
    let c := (start w : Fleet ι σ).run before
    let c' := c.run after
    c.Quiet → (c.nodes i).phase = .idle →
    (∃ r ∈ (c'.nodes i).reports.drop (c.nodes i).reports.length, r.Well) →
    (∀ h ∈ (c'.nodes i).heard, h.read = true) →
    ∃ t, c'.world.store.Shows t ∧ (c'.nodes i).self.InStep t := by
  intro c c' quiet idle well read
  obtain ⟨t, hk, hq, hl⟩ := run_caught_up ht spares ordinary quiet idle still well
  have reflects : ∀ who x, Reflects t (c'.nodes i).self who x := by
    intro who x
    rcases hk.caught_up hq hl who x with hr | ⟨h, hlast, hread⟩
    · exact hr
    · have hmem := List.mem_of_mem_filter (List.mem_of_getLast? hlast)
      rw [read h hmem] at hread
      cases hread
  refine ⟨t, hk.shows, ?_, ?_⟩
  · intro k p hp
    exact Policy.agrees_of_current fun a => reflects (.policy k) (.setting a) p hp
  · exact fun k g hg => reflects (.guard k) .countries g hg

def emptyWorld : World (Faulty Tables) := .around ⟨.empty, .none⟩

def toDryrun : List Step := Change.ofSetting (.mode .dryrun) modeKey "dryrun"

theorem toDryrun_made : Change.Made toDryrun := Or.inl (.mode "dryrun" _ rfl)

/-- One instance changes the mode while another one starts and polls: it publishes the
mode before the other one reads the settings, stores it before the poll and announces it
after the poll. -/
def overlap : List (Action Bool) :=
  [.connect true, .load true .settings, .join true, .submit true 0 toDryrun, .carry true 0,
    .connect false, .load false .settings, .join false, .carry true 0,
    .poll false, .poll false, .carry true 0]

theorem converges_after_overlap :
    let c := (start emptyWorld : Fleet Bool Tables).run overlap
    let c' := c.run (List.replicate 6 (.poll false))
    (c.nodes false).self.policies.map (·.mode) = [.enabled] ∧
      (c'.nodes false).self.policies.map (·.mode) = [.dryrun] ∧
      ∃ t, c'.world.store.Shows t ∧ (c'.nodes false).self.InStep t := by
  have ordinary : ∀ a ∈ overlap ++ List.replicate 6 (.poll false), a.Ordinary := by
    simp [overlap, Action.Ordinary, toDryrun_made, List.replicate]
  have still : ∀ a ∈ List.replicate 6 (Action.poll false), a.Still := by
    intro a ha
    rw [List.eq_of_mem_replicate ha]
    trivial
  refine ⟨by decide, by decide, ?_⟩
  refine converges emptyWorld rfl ⟨rfl, rfl, rfl⟩ overlap _ false ordinary still ?_ ?_ ?_ ?_
  · intro i
    cases i <;> decide
  · decide
  · exact ⟨⟨0, 1, .complete 1 1⟩, by decide, 1, 1, rfl⟩
  · decide

/-! ## Changes that are missed -/

/-- **A change is applied unless it was missed.** Let also the listeners of an instance
fail to read the store when they hear of a change. Once no change is half done and a poll
of the instance has ended well, each of its policies says about each aspect what the
store says, if the policy could read the store the last time it heard of this aspect;
and each of its guards has the stored rules, if it could read them the last time. What
was missed then stays missed: until a change begins, no further action leads to another
policy or guard. -/
theorem applies_unless_missed (w : World (Faulty σ)) {t₀ : Tables} (ht : w.store.Shows t₀)
    (spares : w.store.failing.Spares) (before after : List (Action ι)) (i : ι)
    (ordinary : ∀ a ∈ before ++ after, a.Ordinary) (still : ∀ a ∈ after, a.Still) :
    let c := (start w : Fleet ι σ).run before
    let c' := c.run after
    c.Quiet → (c.nodes i).phase = .idle →
    (∃ r ∈ (c'.nodes i).reports.drop (c.nodes i).reports.length, r.Well) →
    ∃ t, c'.world.store.Shows t ∧
      (∀ (k : Nat) (p : Policy) (a : Aspect), (c'.nodes i).self.policies[k]? = some p →
        ¬ Missed (c'.nodes i).heard (.policy k) (.setting a) →
        p.current a = (Policy.ofSettings t.settings.rows).current a) ∧
      (∀ (k : Nat) (g : Guard), (c'.nodes i).self.guards[k]? = some g →
        ¬ Missed (c'.nodes i).heard (.guard k) .countries →
        g.table = .ofRules t.rules) ∧
      ∀ more, (∀ a ∈ more, a.Ordinary) → (∀ a ∈ more, a.Still) →
        (c'.run more).world.store.Shows t ∧
        (∃ policies, ((c'.run more).nodes i).self.policies =
          (c'.nodes i).self.policies ++ policies) ∧
        ∃ guards, ((c'.run more).nodes i).self.guards = (c'.nodes i).self.guards ++ guards := by
  intro c c' quiet idle well
  obtain ⟨t, hk, hq, hl⟩ := run_caught_up ht spares ordinary quiet idle still well
  have reflects : ∀ who x, ¬ Missed (c'.nodes i).heard who x →
      Reflects t (c'.nodes i).self who x := by
    intro who x read
    rcases hk.caught_up hq hl who x with hr | hm
    · exact hr
    · exact absurd hm read
  refine ⟨t, hk.shows, ?_, ?_, ?_⟩
  · exact fun k p a hp read => reflects (.policy k) (.setting a) read p hp
  · exact fun k g hg read => reflects (.guard k) .countries read g hg
  · exact fun more ord still => hk.stays hq hl more ord still

/-- Two instances start, one changes the mode, and the other one hears of it while
settings cannot be read. -/
def missing : List (Action Bool) :=
  [.connect true, .load true .settings, .join true,
    .connect false, .load false .settings, .join false,
    .submit true 0 toDryrun, .carry true 0, .carry true 0, .carry true 0,
    .weather ⟨["config_entry"], none⟩,
    .poll false, .poll false, .poll false, .poll false, .poll false,
    .weather .none]

/-- The instance that could read the store has the stored mode after its next poll. -/
theorem applies_after_missing :
    let c := (start emptyWorld : Fleet Bool Tables).run missing
    let c' := c.run (List.replicate 6 (.poll true))
    ¬ Missed (c'.nodes true).heard (.policy 0) (.setting .mode) ∧
      ∃ t, c'.world.store.Shows t ∧ ∀ (p : Policy), (c'.nodes true).self.policies[0]? = some p →
        p.current .mode = (Policy.ofSettings t.settings.rows).current .mode := by
  have ordinary : ∀ a ∈ missing ++ List.replicate 6 (.poll true), a.Ordinary := by
    have spares : Failing.Spares ⟨["config_entry"], none⟩ := ⟨rfl, rfl, rfl⟩
    have calm : Failing.Spares .none := ⟨rfl, rfl, rfl⟩
    simp [missing, Action.Ordinary, toDryrun_made, List.replicate, spares, calm]
  have still : ∀ a ∈ List.replicate 6 (Action.poll true), a.Still := by
    intro a ha
    rw [List.eq_of_mem_replicate ha]
    trivial
  have quiet : ((start emptyWorld : Fleet Bool Tables).run missing).Quiet := by
    intro i
    cases i <;> decide
  have read : ¬ Missed ((((start emptyWorld : Fleet Bool Tables).run missing).run
      (List.replicate 6 (.poll true))).nodes true).heard (.policy 0) (.setting .mode) := by
    decide
  obtain ⟨t, ht, hp, -⟩ := applies_unless_missed emptyWorld rfl ⟨rfl, rfl, rfl⟩ missing _ true
    ordinary still quiet (by decide) ⟨⟨0, 1, .complete 1 1⟩, by decide, 1, 1, rfl⟩
  exact ⟨read, t, ht, fun p h => hp 0 p .mode h read⟩

/-- **A change that was missed is not made up for**: the poll ends well, no call fails in
it and no change is half done, the entry of the mode has been delivered, and the policy
has not the stored mode. -/
theorem missed_change_stays_missed :
    let c := (start emptyWorld : Fleet Bool Tables).run missing
    let c' := c.run (List.replicate 2 (.poll false))
    c.world.store.failing = .none ∧ c'.Quiet ∧
      (c'.nodes false).reports = [⟨0, 1, .complete 1 1⟩, ⟨1, 1, .complete 1 0⟩] ∧
      c'.world.store.store.log = [(.config, modeKey)] ∧
      c'.world.store.store.settings.get? modeKey = some "dryrun" ∧
      (c'.nodes false).self.policies.map (·.mode) = [.enabled] := by
  refine ⟨by decide, ?_, by decide, by decide, by decide, by decide⟩
  intro i
  cases i <;> decide

end Fleet

end Firewall
