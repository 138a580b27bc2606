import Firewall.Proofs.Fleet
import Firewall.Proofs.Site

/-!
An instance that nobody disturbs. The steps of a fleet, taken one after the other by one
instance, add up to what the instance does in one go.

Proved here:

* `Node.connect_alone`, `Node.start_alone`: a start is `Site.startFeed`, `Site.startPolicy`
  and `Site.startGuard`;
* `Node.carry_alone`: a change is `Site.performAll`;
* `Node.poll_alone`: a poll is `Site.poll`, and its report says what that gives.
-/

namespace Firewall

variable {σ : Type} [RecordStore σ]

namespace Node

/-! ## Starts -/

theorem connect_alone (w : World σ) (n : Node) (hf : n.self.feed = none) :
    n.connect w = ((Site.startFeed.run ⟨w, n.self⟩).2.world,
      { n with self := (Site.startFeed.run ⟨w, n.self⟩).2.self }) := by
  unfold connect
  rw [hf]
  rfl

/-- What `Site.startPolicy` and `Site.startGuard` leave behind. -/
def startOf (s : Site σ) : Part → Site σ
  | .settings => (Site.startPolicy.run s).2
  | .rules lookup => ((Site.startGuard lookup).run s).2

theorem subscribe_self (n : Node) (table : Table) (who : Listener) :
    (n.subscribe table who).self =
      { n.self with feed := n.self.feed.map (·.subscribe table who) } := by
  obtain ⟨⟨feed, policies, guards, recorders, engine⟩, boot, phase⟩ := n
  cases feed <;> rfl

/-- **A listener that is loaded and joins** has been started. -/
theorem start_alone (w : World σ) (n : Node) (part : Part) {f : Feed Listener}
    (hf : n.self.feed = some f) (hp : n.polling = false) (hb : n.boot = none) :
    (n.load w part).1 = (startOf ⟨w, n.self⟩ part).world ∧
      (n.load w part).2.join.self = (startOf ⟨w, n.self⟩ part).self := by
  have hgate : ¬ (n.self.feed.isNone || n.polling || n.boot.isSome) = true := by
    rw [hf, hp, hb]
    exact Bool.false_ne_true
  unfold load
  rw [if_neg hgate]
  cases part with
  | settings =>
    simp only [startOf, Site.startPolicy_run]
    rcases ho : Site.ask RecordStore.settings ⟨w, n.self⟩ with ⟨e | rows, s⟩
    · have hs : s.self = n.self := by
        rw [show s = (Site.ask RecordStore.settings ⟨w, n.self⟩).2 by rw [ho]]
        rfl
      refine ⟨rfl, ?_⟩
      dsimp only
      unfold join
      rw [hb, hs]
    · have hs : s.self = n.self := by
        rw [show s = (Site.ask RecordStore.settings ⟨w, n.self⟩).2 by rw [ho]]
        rfl
      refine ⟨rfl, ?_⟩
      simp only [join, subscribe_self, hs]
      rfl
  | rules lookup =>
    simp only [startOf, Site.startGuard_run]
    rcases ho : Site.ask RecordStore.rules ⟨w, n.self⟩ with ⟨e | rules, s⟩
    · have hs : s.self = n.self := by
        rw [show s = (Site.ask RecordStore.rules ⟨w, n.self⟩).2 by rw [ho]]
        rfl
      refine ⟨rfl, ?_⟩
      dsimp only
      unfold join
      rw [hb, hs]
    · have hs : s.self = n.self := by
        rw [show s = (Site.ask RecordStore.rules ⟨w, n.self⟩).2 by rw [ho]]
        rfl
      refine ⟨rfl, ?_⟩
      simp only [join, subscribe_self, hs]
      rfl

/-! ## Changes -/

def carries : Nat → World σ → Node → World σ × Node
  | 0, w, n => (w, n)
  | k + 1, w, n => carries k (n.carry w 0).1 (n.carry w 0).2

theorem carries_over (k : Nat) (w : World σ) (n : Node) (h : n.changes = []) :
    n.carries k w = (w, n) := by
  have hc : n.carry w 0 = (w, n) := by
    unfold carry
    rw [h]
    rfl
  induction k with
  | zero => rfl
  | succ k ih =>
    unfold carries
    rw [hc]
    exact ih

/-- **A change that is carried on as often as it has steps** has been carried out, up to
the first step that fails. -/
theorem carry_alone (policy : Nat) (steps : List Step) (w : World σ) (n : Node)
    (hs : steps ≠ []) (h : n.changes = [(policy, steps)]) :
    n.carries steps.length w =
      (((Site.performAll policy steps).run ⟨w, n.self⟩).2.world,
        { n with
          self := ((Site.performAll policy steps).run ⟨w, n.self⟩).2.self, changes := [] }) := by
  induction steps generalizing w n with
  | nil => exact absurd rfl hs
  | cons step rest ih =>
    rw [Site.performAll_cons_run, List.length_cons, carries]
    have hj : n.changes[0]? = some (policy, step :: rest) := by
      rw [h]
      rfl
    have herase : n.changes.eraseIdx 0 = [] := by
      rw [h]
      rfl
    unfold carry
    rw [hj]
    dsimp only
    rcases (Site.perform policy step).run ⟨w, n.self⟩ with ⟨e | u, s⟩
    · dsimp only
      rw [carries_over _ _ _ herase, herase]
    · dsimp only
      cases rest with
      | nil =>
        unfold proceed
        rw [carries_over _ _ _ (by exact herase)]
        show (s.world, { n with self := s.self, changes := n.changes.eraseIdx 0 }) = _
        rw [herase]
        rfl
      | cons step' rest =>
        rw [ih _ _ (List.cons_ne_nil _ _) (by unfold proceed; rw [h]; rfl)]
        rfl

/-! ## Polls -/

/-- Steps of polls, one after the other, lead from a world and a node to others. -/
inductive Polls : World σ → Node → World σ → Node → Prop
  | refl (w : World σ) (n : Node) : Polls w n w n
  | step {w w' : World σ} {n n' : Node} (h : Polls (n.poll w).1 (n.poll w).2 w' n') :
    Polls w n w' n'

theorem Polls.trans {w₁ w₂ w₃ : World σ} {n₁ n₂ n₃ : Node} (h : Polls w₁ n₁ w₂ n₂)
    (h' : Polls w₂ n₂ w₃ n₃) : Polls w₁ n₁ w₃ n₃ := by
  induction h with
  | refl w n => exact h'
  | step h ih => exact .step (ih h')

theorem poll_eq {w : World σ} {n : Node} (hf : n.self.feed.isSome) (hb : n.boot = none) :
    n.poll w = ((Site.pollStep ⟨w, n.self⟩ n.phase).site.world,
      Node.note { n with
        self := (Site.pollStep ⟨w, n.self⟩ n.phase).site.self
        phase := (Site.pollStep ⟨w, n.self⟩ n.phase).phase
        polling := true } (Site.pollStep ⟨w, n.self⟩ n.phase).note) := by
  unfold poll
  have hg : ¬ (n.self.feed.isNone || n.boot.isSome) = true := by
    rw [hb, Option.isNone_eq_false_iff.mpr hf]
    exact Bool.false_ne_true
  rw [if_neg hg]

theorem Polls.cons {w w₁ w₂ : World σ} {n n₁ n₂ : Node} (h : n.poll w = (w₁, n₁))
    (h' : Polls w₁ n₁ w₂ n₂) : Polls w n w₂ n₂ := by
  refine .step ?_
  rw [h]
  exact h'

def midway (i : Instance) (phase : Phase) (n : Node) : Node :=
  { n with self := i, boot := none, phase, polling := true }

theorem poll_midway {s : Site σ} (hf : s.self.feed.isSome) (phase : Phase) (n : Node) :
    (midway s.self phase n).poll s.world = ((s.pollStep phase).site.world,
      midway (s.pollStep phase).site.self (s.pollStep phase).phase
        (n.note (s.pollStep phase).note)) := by
  rw [poll_eq hf rfl]
  refine Prod.ext rfl ?_
  show Node.note _ (s.pollStep phase).note = midway _ _ (n.note (s.pollStep phase).note)
  rcases (s.pollStep phase).note with _ | _ | _ <;> rfl

/-- A listener hears of an entry in one step or two. -/
theorem hear_alone {s : Site σ} (hf : s.self.feed.isSome) (p : Progress) (e : LogEntry)
    (who : Listener) (todo : List Listener) (n : Node) :
    (Site.hear e.key who s).2.self.feed = s.self.feed ∧
      ∃ n', Polls s.world (midway s.self (.delivering p e (who :: todo)) n)
          (Site.hear e.key who s).2.world
          (midway (Site.hear e.key who s).2.self (.delivering p e todo) n') ∧
        n'.reports = n.reports := by
  have hp := poll_midway hf (.delivering p e (who :: todo)) n
  cases who with
  | policy k =>
    have hs := Site.ask_self (RecordStore.setting e.key) s
    rw [Site.hear_policy_run]
    simp only [Site.pollStep, Site.tell] at hp
    rcases ho : Site.ask (RecordStore.setting e.key) s with ⟨cause | value, s'⟩
    · rw [ho] at hs hp
      exact ⟨congrArg Instance.feed hs, _, .cons hp (.refl _ _), rfl⟩
    · rw [ho] at hs hp
      have hfeed : s'.self.feed = s.self.feed := congrArg Instance.feed hs
      have hf' : s'.self.feed.isSome := by
        rw [hfeed]
        exact hf
      exact ⟨hfeed, _, .cons hp (.cons (poll_midway hf' _ _) (.refl _ _)), rfl⟩
  | guard k =>
    have hs := Site.ask_self RecordStore.rules s
    rw [Site.hear_guard_run]
    simp only [Site.pollStep, Site.tell] at hp
    rcases ho : Site.ask RecordStore.rules s with ⟨cause | rules, s'⟩
    · rw [ho] at hs hp
      exact ⟨congrArg Instance.feed hs, _, .cons hp (.refl _ _), rfl⟩
    · rw [ho] at hs hp
      have hfeed : s'.self.feed = s.self.feed := congrArg Instance.feed hs
      have hf' : s'.self.feed.isSome := by
        rw [hfeed]
        exact hf
      exact ⟨hfeed, _, .cons hp (.cons (poll_midway hf' _ _) (.refl _ _)), rfl⟩
  | recorder name => exact ⟨rfl, _, .cons hp (.refl _ _), rfl⟩

/-- All listeners of an entry hear of it one after the other. -/
theorem deliver_alone (p : Progress) (e : LogEntry) (todo : List Listener) (s : Site σ)
    (hf : s.self.feed.isSome) (n : Node) :
    ((todo.forM (Site.hear e.key : Listener → Act σ Unit)) s).2.self.feed = s.self.feed ∧
      ∃ n', Polls s.world (midway s.self (.delivering p e todo) n)
          ((todo.forM (Site.hear e.key : Listener → Act σ Unit)) s).2.world
          (midway ((todo.forM (Site.hear e.key : Listener → Act σ Unit)) s).2.self
            (.delivering p e []) n') ∧
        n'.reports = n.reports := by
  induction todo generalizing s n with
  | nil => exact ⟨rfl, n, .refl _ _, rfl⟩
  | cons who todo ih =>
    obtain ⟨hfeed, n', hp, hr⟩ := hear_alone hf p e who todo n
    rw [Site.forM_hear_cons]
    obtain ⟨hfeed', n'', hp', hr'⟩ := ih (Site.hear e.key who s).2 (by rw [hfeed]; exact hf) n'
    exact ⟨hfeed'.trans hfeed, n'', hp.trans hp', hr'.trans hr⟩

/-- How a report says what a poll up to a head gives. -/
def endingOf (head : Nat) : Except Error Nat → Ending → Prop
  | .ok count, ending => ending = .complete head count
  | .error cause, ending => ∃ fault, cause = .store fault ∧
      (ending = .noHead fault ∨ ∃ id, ending = .noEntry head id fault)

/-- Entries are fetched and delivered up to the head, or to one that cannot be read. -/
theorem catchUp_alone (count : Nat) (p : Progress) (s : Site σ) (hf : s.self.feed.isSome)
    (hp : count = p.head - p.last) (n : Node) :
    ∃ n' ending,
      Polls s.world (midway s.self (.catching p) n)
        ((Site.catchUp count (p.last + 1) p.done).run s).2.world
        (midway ((Site.catchUp count (p.last + 1) p.done).run s).2.self .idle n') ∧
      n'.reports = n.reports ++
        [⟨p.start, ((Site.catchUp count (p.last + 1) p.done).run s).2.self.last, ending⟩] ∧
      endingOf p.head ((Site.catchUp count (p.last + 1) p.done).run s).1 ending := by
  induction count generalizing p s n with
  | zero =>
    have hhead : ¬ p.last < p.head := by omega
    have h := poll_midway hf (.catching p) n
    simp only [Site.pollStep, Site.fetch, if_neg hhead] at h
    exact ⟨_, _, .cons h (.refl _ _), rfl, rfl⟩
  | succ count ih =>
    have hhead : p.last < p.head := by omega
    have h := poll_midway hf (.catching p) n
    simp only [Site.pollStep, Site.fetch, if_pos hhead] at h
    rw [Site.catchUp_succ_run]
    have hs := Site.ask_self (RecordStore.entry (p.last + 1)) s
    rcases ho : Site.ask (RecordStore.entry (p.last + 1)) s with ⟨cause | e, s'⟩
    · rw [ho] at h
      exact ⟨_, _, .cons h (.refl _ _), rfl, cause, rfl, Or.inr ⟨_, rfl⟩⟩
    · rw [ho] at h hs
      have hf' : s'.self.feed.isSome := by
        rw [show s'.self = s.self from hs]
        exact hf
      obtain ⟨hfeed, n', hd, hr⟩ := deliver_alone p e (Site.listenersOf e.table s').1 s' hf' n
      rw [← hfeed] at hf'
      have hmove := poll_midway hf' (.delivering p e []) n'
      have hnext : count = p.head - Progress.last { p with done := p.done + 1 } := by
        show count = p.head - (p.start + (p.done + 1))
        unfold Progress.last at hp
        omega
      have hf'' : (Site.advance
          (Site.deliver (Site.listenersOf e.table s').1 e s').2).2.self.feed.isSome := by
        show (Option.map Feed.advance _).isSome
        rw [Option.isSome_map]
        exact hf'
      obtain ⟨n'', ending, hp', hr', hend⟩ := ih { p with done := p.done + 1 } _ hf'' hnext n'
      refine ⟨n'', ending, .cons h (hd.trans (.cons hmove hp')), ?_, hend⟩
      rw [hr', hr]
      rfl

/-- **A poll taken step by step** does what it does in one go, and its report says so. -/
theorem poll_alone (w : World σ) (n : Node) {f : Feed Listener} (hf : n.self.feed = some f)
    (hb : n.boot = none) (hn : n.phase = .idle) :
    ∃ n' head ending, Polls w n ((Site.poll f.last).run ⟨w, n.self⟩).2.world n' ∧
      n'.self = ((Site.poll f.last).run ⟨w, n.self⟩).2.self ∧ n'.phase = .idle ∧
      n'.reports = n.reports ++ [⟨f.last, n'.self.last, ending⟩] ∧
      endingOf head ((Site.poll f.last).run ⟨w, n.self⟩).1 ending := by
  have hlast : n.self.last = f.last := by
    unfold Instance.last
    rw [hf]
    rfl
  have h := poll_eq (w := w) (n := n) (by rw [hf]; rfl) hb
  rw [hn] at h
  simp only [Site.pollStep, Site.begin] at h
  rw [Site.poll_run]
  have hs := Site.ask_self RecordStore.latest (⟨w, n.self⟩ : Site σ)
  rcases ho : Site.ask RecordStore.latest ⟨w, n.self⟩ with ⟨answer, s⟩
  rw [ho] at h hs
  have hself : s.self = n.self := hs
  cases hh : Feed.headOf answer with
  | error cause =>
    simp only [hh] at h ⊢
    refine ⟨_, 0, _, .cons h (.refl _ _), rfl, rfl, ?_, cause, rfl, Or.inl rfl⟩
    show n.reports ++ [⟨s.self.last, s.self.last, _⟩] = n.reports ++ [⟨f.last, s.self.last, _⟩]
    rw [hself, hlast]
  | ok head =>
    simp only [hh] at h ⊢
    rw [show s.self.last = f.last by rw [hself, hlast]] at h
    have hmid : Node.note
        { n with self := s.self, phase := .catching ⟨f.last, head, 0⟩, polling := true } none =
          midway s.self (.catching ⟨f.last, head, 0⟩) n := by
      unfold midway
      rw [← hb]
      rfl
    rw [hmid] at h
    have hsome : s.self.feed.isSome := by
      rw [hself, hf]
      rfl
    obtain ⟨n', ending, hp, hr, hend⟩ :=
      catchUp_alone (head - f.last) ⟨f.last, head, 0⟩ s hsome rfl n
    exact ⟨_, head, ending, .cons h hp, rfl, rfl, hr, hend⟩

/-- Steps of polls are what a fleet does in which only this instance polls. -/
theorem Polls.run {ι : Type} [DecidableEq ι] {w w' : World (Faulty σ)} {n n' : Node}
    (h : Polls w n w' n') (c : Fleet ι σ) (i : ι) (hw : c.world = w) (hn : c.nodes i = n) :
    ∃ k, c.run (List.replicate k (.poll i)) = ⟨w', Function.update c.nodes i n'⟩ := by
  induction h generalizing c with
  | refl w n =>
    refine ⟨0, ?_⟩
    rw [← hn, Function.update_eq_self, ← hw]
    rfl
  | @step w w' n n' h ih =>
    obtain ⟨k, hk⟩ := ih (c.step (.poll i)) (by rw [← hw, ← hn]; rfl)
      (by rw [← hw, ← hn]; exact Function.update_self _ _ _)
    refine ⟨k + 1, ?_⟩
    show (c.step (.poll i)).run (List.replicate k (.poll i)) = _
    rw [hk]
    congr 1
    exact Function.update_idem _ _ _

end Node

end Firewall
