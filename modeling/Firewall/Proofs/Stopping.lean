import Firewall.Proofs.Shutdown
import Firewall.Service
import Mathlib.Logic.Function.Basic

/-!
The stop of a service that is still starting. A request to stop may come between any two
stages of the start, and whoever listens may look at the channel at any time. A stop is
announced once, so everything hangs on who listens by then.

Proved here:

* `Launch.Tuned.step`, `Launch.Orderly.step`: what one moment keeps of a consumer that listens;
* `Launch.told_iff_announced`: a consumer is told of the stop exactly if it was announced after
  the consumer began to listen;
* `Launch.run_tells`: the watcher of the log is always told, the server of calls only if the
  request came after the last stage;
* `Launch.early_stop_misses_server`: a request while the address is being taken is lost to it.
-/

namespace Firewall

namespace Service

/-- The parts of a service that must hear of the stop. -/
inductive Consumer
  | watcher
  | server
  deriving DecidableEq, Repr

namespace Consumer

def listener (s : Service) : Consumer → Option Nat
  | watcher => s.watcher
  | server => s.server

def stage : Consumer → Stage
  | watcher => .watchLog
  | server => .answerCalls

end Consumer

theorem enter_consumer (s : Service) (c : Consumer) :
    c.listener (s.enter c.stage) = some s.shutdown.listeners.length ∧
      (∀ d ≠ c, d.listener (s.enter c.stage) = d.listener s) ∧
      (s.enter c.stage).shutdown = s.shutdown.subscribe.2 := by
  cases c <;> refine ⟨rfl, fun d hd => ?_, rfl⟩ <;> cases d <;> first | rfl | exact absurd rfl hd

theorem enter_other (s : Service) {x : Stage} (hx : ∀ c : Consumer, x ≠ c.stage) :
    (∀ c : Consumer, c.listener (s.enter x) = c.listener s) ∧
      (s.enter x).shutdown = s.shutdown := by
  cases x with
  | watchLog => exact absurd rfl (hx .watcher)
  | answerCalls => exact absurd rfl (hx .server)
  | awaitStop => exact ⟨fun c => by cases c <;> rfl, rfl⟩
  | bind => exact ⟨fun c => by cases c <;> rfl, rfl⟩

theorem listener_stop (s : Service) (c : Consumer) : c.listener s.stop = c.listener s := by
  unfold stop
  split <;> cases c <;> rfl

end Service

open Service

/-- A service that starts, with what its consumers have heard of the stop. -/
structure Launch where
  service : Service
  heard : Consumer → Option Heard

namespace Launch

inductive Moment
  | event (e : Service.Event)
  /-- A consumer looks at its channel. -/
  | listen (c : Consumer)
  deriving DecidableEq, Repr

def Moment.stage? : Moment → Option Stage
  | event (.stage x) => some x
  | _ => none

def stagesOf (moments : List Moment) : List Stage := moments.filterMap Moment.stage?

/-- A consumer looks at its channel. When it hears of the stop it has done its work, and
listens no more. -/
def listen (l : Launch) (c : Consumer) : Launch :=
  match c.listener l.service with
  | none => l
  | some n =>
    match l.service.shutdown.receive n with
    | (none, _) => l
    | (some .nothing, shutdown) => { l with service := { l.service with shutdown } }
    | (some heard, shutdown) =>
      ⟨{ l.service with shutdown := shutdown.drop n }, Function.update l.heard c (some heard)⟩

def step (l : Launch) : Moment → Launch
  | .event e => { l with service := l.service.after e }
  | .listen c => l.listen c

def start : Launch := ⟨.idle, fun _ => none⟩

def steps (l : Launch) (moments : List Moment) : Launch := moments.foldl step l

def run (moments : List Moment) : Launch := start.steps moments

def sent (l : Launch) : Nat := l.service.shutdown.channel.sent

def stopping (l : Launch) : Bool := l.service.shutdown.stopping

/-- A consumer has heard the signal to stop, or finds it when it looks at its channel. -/
def Told (l : Launch) (c : Consumer) : Prop :=
  l.heard c = some .signal ∨
    ((c.listener l.service).bind fun n => (l.service.shutdown.receive n).1) = some .signal

instance (l : Launch) (c : Consumer) : Decidable (l.Told c) :=
  inferInstanceAs (Decidable (_ ∨ _))

/-! ## What a moment can do -/

/-- A consumer that has heard the signal listens no more. -/
def leave (l : Launch) (c : Consumer) (n : Nat) : Launch :=
  ⟨{ l.service with shutdown := l.service.shutdown.drop n },
    Function.update l.heard c (some .signal)⟩

/-- A consumer that looks at its channel leaves with the signal, if that was announced after
it began to listen. -/
theorem listen_eq {l : Launch} {c : Consumer} {n past : Nat} (hs : l.service.shutdown.Single)
    (hn : c.listener l.service = some n)
    (hp : l.service.shutdown.listeners[n]? = some (some past)) :
    l.listen c = if past < l.sent then l.leave c n else l := by
  have hr : l.service.shutdown.receive n =
      (some (l.service.shutdown.channel.listen past).1,
        { l.service.shutdown with
          listeners := l.service.shutdown.listeners.set n
            (some (l.service.shutdown.channel.listen past).2) }) := by
    unfold Shutdown.receive
    rw [hp]
  unfold listen
  rw [hn]
  simp only [hr, hs.listen past]
  by_cases hlt : past < l.sent
  · have hlt' : past < l.service.shutdown.channel.sent := hlt
    simp [hlt, hlt', leave, Shutdown.drop, List.set_set]
  · have hlt' : ¬ past < l.service.shutdown.channel.sent := hlt
    have hset : l.service.shutdown.listeners.set n (some past) = l.service.shutdown.listeners := by
      obtain ⟨hlen, hget⟩ := List.getElem?_eq_some_iff.mp hp
      rw [← hget, List.set_getElem_self]
    simp [hlt, hlt', hset]

/-- A consumer without a place on the channel hears nothing. -/
theorem listen_gone {l : Launch} {c : Consumer}
    (h : ∀ n past, c.listener l.service = some n →
      l.service.shutdown.listeners[n]? ≠ some (some past)) : l.listen c = l := by
  unfold listen
  cases hn : c.listener l.service with
  | none => rfl
  | some n =>
    have hr : l.service.shutdown.receive n = (none, l.service.shutdown) := by
      unfold Shutdown.receive
      rcases hp : l.service.shutdown.listeners[n]? with _ | _ | past
      · rfl
      · rfl
      · exact absurd hp (h n past hn)
    simp only [hr]

/-- **What a moment can do**: nothing to the places on the channel, or let a consumer join it,
or let one leave it with the signal. -/
theorem step_cases {l : Launch} (hs : l.service.shutdown.Single) (m : Moment) :
    (∃ c : Consumer, m.stage? = some c.stage ∧
      l.step m = { l with service := l.service.enter c.stage }) ∨
    (∃ (c : Consumer) (n past : Nat), m = .listen c ∧ c.listener l.service = some n ∧
      l.service.shutdown.listeners[n]? = some (some past) ∧ past < l.sent ∧
      l.step m = l.leave c n) ∨
    ((∀ c : Consumer, c.listener (l.step m).service = c.listener l.service) ∧
      (l.step m).heard = l.heard ∧ (l.step m).service.shutdown.Single ∧ l.sent ≤ (l.step m).sent ∧
      (l.step m).service.shutdown.listeners = l.service.shutdown.listeners) := by
  cases m with
  | listen c =>
    by_cases hp : ∃ n past, c.listener l.service = some n ∧
        l.service.shutdown.listeners[n]? = some (some past)
    · obtain ⟨n, past, hn, hp⟩ := hp
      have he : l.step (.listen c) = _ := listen_eq hs hn hp
      by_cases hlt : past < l.sent
      · rw [if_pos hlt] at he
        exact Or.inr (Or.inl ⟨c, n, past, rfl, hn, hp, hlt, he⟩)
      · rw [if_neg hlt] at he
        rw [he]
        exact Or.inr (Or.inr ⟨fun _ => rfl, rfl, hs, Nat.le_refl _, rfl⟩)
    · have he : l.step (.listen c) = l :=
        listen_gone fun n past hn hp' => hp ⟨n, past, hn, hp'⟩
      rw [he]
      exact Or.inr (Or.inr ⟨fun _ => rfl, rfl, hs, Nat.le_refl _, rfl⟩)
  | event e =>
    cases e with
    | stage x =>
      by_cases hx : ∃ c : Consumer, x = c.stage
      · obtain ⟨c, rfl⟩ := hx
        exact Or.inl ⟨c, rfl, rfl⟩
      · obtain ⟨hl, hsh⟩ := enter_other l.service fun c hc => hx ⟨c, hc⟩
        refine Or.inr (Or.inr ⟨hl, rfl, ?_, ?_, ?_⟩)
        · show (l.service.enter x).shutdown.Single
          rw [hsh]
          exact hs
        · show l.sent ≤ (l.service.enter x).shutdown.channel.sent
          rw [hsh]
          exact Nat.le_refl _
        · show (l.service.enter x).shutdown.listeners = _
          rw [hsh]
    | stopRequest =>
      refine Or.inr (Or.inr ⟨listener_stop l.service, rfl, ?_⟩)
      show l.service.stop.shutdown.Single ∧ l.sent ≤ l.service.stop.shutdown.channel.sent ∧
        l.service.stop.shutdown.listeners = l.service.shutdown.listeners
      unfold stop
      split
      · exact ⟨hs.signal, Shutdown.sent_le_signal _, Shutdown.listeners_signal _⟩
      · exact ⟨hs, Nat.le_refl _, rfl⟩

/-! ## What every moment keeps -/

/-- The stop is announced once at most, every consumer that listens has a place of its own,
and the others have heard nothing. -/
structure Orderly (l : Launch) : Prop where
  single : l.service.shutdown.Single
  known : ∀ (c : Consumer) n, c.listener l.service = some n →
    n < l.service.shutdown.listeners.length
  apart : ∀ (c d : Consumer) n, c.listener l.service = some n → d.listener l.service = some n →
    c = d
  unheard : ∀ c : Consumer, c.listener l.service = none → l.heard c = none

theorem Orderly.start : Orderly start where
  single := rfl
  known c n h := by cases c <;> simp [Consumer.listener, Launch.start, idle] at h
  apart c d n h := by cases c <;> simp [Consumer.listener, Launch.start, idle] at h
  unheard _ _ := rfl

theorem Orderly.join {l : Launch} (h : l.Orderly) (c : Consumer) :
    Orderly { l with service := l.service.enter c.stage } := by
  obtain ⟨hc, hd, hs⟩ := enter_consumer l.service c
  have hlen : (l.service.enter c.stage).shutdown.listeners.length =
      l.service.shutdown.listeners.length + 1 := by
    rw [hs]
    simp [Shutdown.subscribe]
  have hnew : ∀ d n, d ≠ c → d.listener l.service = some n →
      n ≠ l.service.shutdown.listeners.length := by
    intro d n _ hn
    have := h.known d n hn
    omega
  constructor
  · show (l.service.enter c.stage).shutdown.Single
    rw [hs]
    exact h.single
  · intro d n hn
    show n < (l.service.enter c.stage).shutdown.listeners.length
    rw [hlen]
    by_cases hdc : d = c
    · subst hdc
      have := hc.symm.trans hn
      simp at this
      omega
    · have := h.known d n ((hd d hdc).symm.trans hn)
      omega
  · intro d e n hdn hen
    by_cases hdc : d = c <;> by_cases hec : e = c
    · rw [hdc, hec]
    · subst hdc
      rw [hd e hec] at hen
      rw [hc] at hdn
      exact absurd (Option.some.inj hdn).symm (hnew e n hec hen)
    · subst hec
      rw [hd d hdc] at hdn
      rw [hc] at hen
      exact absurd (Option.some.inj hen).symm (hnew d n hdc hdn)
    · rw [hd d hdc] at hdn
      rw [hd e hec] at hen
      exact h.apart d e n hdn hen
  · intro d hdn
    by_cases hdc : d = c
    · subst hdc
      exact absurd (hc.symm.trans hdn) (by simp)
    · exact h.unheard d ((hd d hdc).symm.trans hdn)

theorem Orderly.leave {l : Launch} (h : l.Orderly) {c : Consumer} {n : Nat}
    (hn : c.listener l.service = some n) : (l.leave c n).Orderly where
  single := h.single
  known d m hm := by
    show m < (l.service.shutdown.listeners.set n none).length
    rw [List.length_set]
    exact h.known d m (by cases d <;> exact hm)
  apart d e m hd he := h.apart d e m (by cases d <;> exact hd) (by cases e <;> exact he)
  unheard d hd := by
    have hd' : d.listener l.service = none := by cases d <;> exact hd
    have hdc : d ≠ c := by
      rintro rfl
      exact absurd (hn.symm.trans hd') (by simp)
    show Function.update l.heard c (some Heard.signal) d = none
    rw [Function.update_of_ne hdc]
    exact h.unheard d hd'

/-- **Every moment keeps order** among those who listen. -/
theorem Orderly.step {l : Launch} (h : l.Orderly) (m : Moment) : (l.step m).Orderly := by
  rcases step_cases h.single m with ⟨c, -, he⟩ | ⟨c, n, past, -, hn, -, -, he⟩ |
    ⟨hl, hh, hs, -, hls⟩
  · rw [he]
    exact h.join c
  · rw [he]
    exact h.leave hn
  · refine ⟨hs, fun c n hn => ?_, fun c d n hc hd => ?_, fun c hc => ?_⟩
    · rw [hls]
      exact h.known c n ((hl c).symm.trans hn)
    · exact h.apart c d n ((hl c).symm.trans hc) ((hl d).symm.trans hd)
    · rw [hh]
      exact h.unheard c ((hl c).symm.trans hc)

theorem Orderly.steps {l : Launch} (h : l.Orderly) (moments : List Moment) :
    (l.steps moments).Orderly := by
  induction moments generalizing l with
  | nil => exact h
  | cons m moments ih => exact ih (h.step m)

/-! ## A consumer that listens -/

/-- A consumer began to listen when the stop had been announced `past` times. It has its place
on the channel, unless it has heard the signal since. -/
def Tuned (l : Launch) (c : Consumer) (past : Nat) : Prop :=
  ∃ n, c.listener l.service = some n ∧
    ((l.heard c = none ∧ l.service.shutdown.listeners[n]? = some (some past)) ∨
      (l.heard c = some .signal ∧ l.service.shutdown.listeners[n]? = some none ∧ past < l.sent))

theorem Orderly.tuned {l : Launch} (h : l.Orderly) {c : Consumer}
    (hc : c.listener l.service = none) :
    Tuned { l with service := l.service.enter c.stage } c l.sent := by
  obtain ⟨hn, -, hs⟩ := enter_consumer l.service c
  refine ⟨_, hn, Or.inl ⟨h.unheard c hc, ?_⟩⟩
  show (l.service.enter c.stage).shutdown.listeners[_]? = _
  rw [hs]
  simp [Shutdown.subscribe, sent]

/-- **A consumer that listens keeps its place** until it leaves with the signal. -/
theorem Tuned.step {l : Launch} {c : Consumer} {past : Nat} (ht : l.Tuned c past)
    (h : l.Orderly) (m : Moment) (hm : m.stage? ≠ some c.stage) : (l.step m).Tuned c past := by
  obtain ⟨n, hn, ht⟩ := ht
  rcases step_cases h.single m with ⟨d, hd, he⟩ | ⟨d, k, past', hm', hk, hp, hlt, he⟩ |
    ⟨hl, hh, -, hsent, hls⟩
  · -- another consumer joins, behind all who listen
    have hcd : c ≠ d := by
      rintro rfl
      exact hm hd
    obtain ⟨-, hother, hs⟩ := enter_consumer l.service d
    have hget : (l.service.enter d.stage).shutdown.listeners[n]? =
        l.service.shutdown.listeners[n]? := by
      rw [hs]
      exact List.getElem?_append_left (h.known c n hn)
    have hsent : (l.service.enter d.stage).shutdown.channel.sent = l.sent := by
      rw [hs]
      rfl
    rw [he]
    refine ⟨n, (hother c hcd).trans hn, ?_⟩
    show _ ∧ (l.service.enter d.stage).shutdown.listeners[n]? = _ ∨
      _ ∧ (l.service.enter d.stage).shutdown.listeners[n]? = _ ∧
        past < (l.service.enter d.stage).shutdown.channel.sent
    rw [hget, hsent]
    exact ht
  · rw [he]
    refine ⟨n, by cases c <;> exact hn, ?_⟩
    by_cases hcd : c = d
    · -- it leaves itself
      subst hcd
      obtain rfl : n = k := Option.some.inj (hn.symm.trans hk)
      rcases ht with ⟨-, hget⟩ | ⟨-, hget, -⟩
      · obtain rfl : past = past' := by
          rw [hget] at hp
          simpa using hp
        refine Or.inr ⟨Function.update_self _ _ _, ?_, hlt⟩
        show (l.service.shutdown.listeners.set n none)[n]? = some none
        rw [List.getElem?_set_self (h.known c n hn)]
      · rw [hget] at hp
        simp at hp
    · have hnk : k ≠ n := by
        rintro rfl
        exact hcd (h.apart c d k hn hk)
      have hget : (l.service.shutdown.listeners.set k none)[n]? =
          l.service.shutdown.listeners[n]? := List.getElem?_set_ne hnk
      show Function.update l.heard d _ c = _ ∧ (l.service.shutdown.listeners.set k none)[n]? = _ ∨
        Function.update l.heard d _ c = _ ∧ (l.service.shutdown.listeners.set k none)[n]? = _ ∧
          past < l.sent
      rw [hget, Function.update_of_ne hcd]
      exact ht
  · refine ⟨n, (hl c).trans hn, ?_⟩
    rw [hh, hls]
    rcases ht with ht | ⟨hheard, hget, hlt⟩
    · exact Or.inl ht
    · exact Or.inr ⟨hheard, hget, by omega⟩

/-- A consumer is told of what was announced after it began to listen. -/
theorem Tuned.told_iff {l : Launch} {c : Consumer} {past : Nat} (ht : l.Tuned c past)
    (h : l.Orderly) : l.Told c ↔ past < l.sent := by
  obtain ⟨n, hn, ⟨hheard, hget⟩ | ⟨hheard, -, hlt⟩⟩ := ht
  · have hr : (l.service.shutdown.receive n).1 =
        some (if past < l.sent then Heard.signal else Heard.nothing) := by
      unfold Shutdown.receive
      rw [hget]
      simp only [h.single.listen past]
      exact congrArg some (apply_ite Prod.fst _ _ _)
    unfold Told
    rw [hheard, hn, Option.bind_some, hr]
    by_cases hlt : past < l.sent <;> simp [hlt]
  · exact ⟨fun _ => hlt, fun _ => Or.inl hheard⟩

theorem Tuned.steps {l : Launch} {c : Consumer} {past : Nat} (ht : l.Tuned c past)
    (h : l.Orderly) (moments : List Moment) (hm : c.stage ∉ stagesOf moments) :
    (l.steps moments).Tuned c past := by
  induction moments generalizing l with
  | nil => exact ht
  | cons m moments ih =>
    have hfirst : m.stage? ≠ some c.stage := fun he =>
      hm (List.mem_filterMap.mpr ⟨m, List.mem_cons_self, he⟩)
    have hrest : c.stage ∉ stagesOf moments := by
      intro hc
      obtain ⟨x, hx, he⟩ := List.mem_filterMap.mp hc
      exact hm (List.mem_filterMap.mpr ⟨x, List.mem_cons_of_mem m hx, he⟩)
    exact ih (ht.step h m hfirst) (h.step m) hrest

/-! ## Whole starts -/

theorem run_append (before after : List Moment) :
    run (before ++ after) = (run before).steps after := List.foldl_append

theorem orderly_run (moments : List Moment) : (run moments).Orderly := Orderly.start.steps moments

theorem listener_of_not_mem {l : Launch} (h : l.Orderly) {c : Consumer}
    (hc : c.listener l.service = none) (moments : List Moment) (hm : c.stage ∉ stagesOf moments) :
    c.listener (l.steps moments).service = none := by
  induction moments generalizing l with
  | nil => exact hc
  | cons m moments ih =>
    have hrest : c.stage ∉ stagesOf moments := by
      intro hs
      obtain ⟨x, hx, he⟩ := List.mem_filterMap.mp hs
      exact hm (List.mem_filterMap.mpr ⟨x, List.mem_cons_of_mem m hx, he⟩)
    refine ih (h.step m) ?_ hrest
    rcases step_cases h.single m with ⟨d, hd, he⟩ | ⟨d, n, past, -, -, -, -, he⟩ | ⟨hl, -⟩
    · have hcd : c ≠ d := by
        rintro rfl
        exact hm (List.mem_filterMap.mpr ⟨m, List.mem_cons_self, hd⟩)
      rw [he]
      exact ((enter_consumer l.service d).2.1 c hcd).trans hc
    · rw [he]
      cases c <;> exact hc
    · exact (hl c).trans hc

/-- **A consumer is told of the stop** exactly if the stop was announced after the consumer
began to listen. -/
theorem told_iff_announced {c : Consumer} (before after : List Moment)
    (hb : c.stage ∉ stagesOf before) (ha : c.stage ∉ stagesOf after) :
    (run (before ++ .event (.stage c.stage) :: after)).Told c ↔
      (run before).sent < (run (before ++ .event (.stage c.stage) :: after)).sent := by
  have ho := orderly_run before
  have hnone : c.listener (run before).service = none :=
    listener_of_not_mem .start (by cases c <;> rfl) before hb
  have ht : ((run before).step (.event (.stage c.stage))).Tuned c (run before).sent :=
    ho.tuned hnone
  rw [run_append]
  exact (ht.steps (ho.step _) after ha).told_iff ((ho.step _).steps after)

/-- Before the first stage there is nobody who could hear of a request to stop. -/
theorem run_of_no_stage (moments : List Moment) (h : stagesOf moments = []) :
    run moments = start := by
  induction moments with
  | nil => rfl
  | cons m moments ih =>
    have hm : start.step m = start := by
      cases m with
      | listen c => cases c <;> rfl
      | event e =>
        cases e with
        | stopRequest => rfl
        | stage x => simp [stagesOf, Moment.stage?] at h
    have hrest : stagesOf moments = [] := by
      rw [stagesOf, List.filterMap_eq_nil_iff] at h ⊢
      exact fun x hx => h x (List.mem_cons_of_mem m hx)
    show (start.step m).steps moments = start
    rw [hm]
    exact ih hrest

theorem Orderly.sent_eq {l : Launch} (h : l.Orderly) : l.sent = if l.stopping then 1 else 0 :=
  h.single

/-- **The watcher of the log is told of every stop.** The server of calls is told of it only if
it was announced after the last stage of the start. -/
theorem run_tells (before after : List Moment)
    (hs : stagesOf (before ++ .event (.stage .answerCalls) :: after) = stages) :
    ((run (before ++ .event (.stage .answerCalls) :: after)).Told .watcher ↔
      (run (before ++ .event (.stage .answerCalls) :: after)).stopping = true) ∧
    ((run (before ++ .event (.stage .answerCalls) :: after)).Told .server ↔
      (run (before ++ .event (.stage .answerCalls) :: after)).stopping = true ∧
        (run before).stopping = false) := by
  have hall := (orderly_run (before ++ .event (.stage .answerCalls) :: after)).sent_eq
  constructor
  · -- the watcher begins to listen in the first stage, before anything is awaited
    obtain ⟨pre, m, post, he, hpre, hm, hpost⟩ := List.filterMap_eq_cons_iff.mp hs
    obtain rfl : m = .event (.stage .watchLog) := by
      rcases m with ⟨_ | _⟩ | _ <;> simp_all [Moment.stage?]
    have hnone : stagesOf pre = [] := List.filterMap_eq_nil_iff.mpr hpre
    have hsent : (run pre).sent = 0 := by
      rw [run_of_no_stage pre hnone]
      rfl
    have htold := told_iff_announced (c := .watcher) pre post (by simp [hnone])
      (by
        show Stage.watchLog ∉ post.filterMap Moment.stage?
        rw [hpost]
        decide)
    rw [he] at hall ⊢
    rw [hsent] at htold
    refine htold.trans ?_
    show 0 < (run (pre ++ .event (.stage .watchLog) :: post)).sent ↔ _
    rw [hall]
    split <;> simp_all
  · have hparts : stagesOf before ++ .answerCalls :: stagesOf after = stages := by
      rw [← hs]
      simp [stagesOf, Moment.stage?]
    have hnodup : (stagesOf before ++ .answerCalls :: stagesOf after).Nodup := by
      rw [hparts]
      decide
    obtain ⟨hb, ha⟩ : Stage.answerCalls ∉ stagesOf before ∧ Stage.answerCalls ∉ stagesOf after := by
      obtain ⟨-, hlast, hapart⟩ := List.nodup_append.mp hnodup
      exact ⟨fun hmem => hapart _ hmem _ List.mem_cons_self rfl, (List.nodup_cons.mp hlast).1⟩
    have htold := told_iff_announced (c := .server) before after hb ha
    refine htold.trans ?_
    show (run before).sent < (run (before ++ .event (.stage .answerCalls) :: after)).sent ↔ _
    rw [hall, (orderly_run before).sent_eq]
    cases (run before).stopping <;>
      cases (run (before ++ .event (.stage .answerCalls) :: after)).stopping <;> simp

/-- A request that comes after the start reaches both, also when the watcher has gone. -/
theorem run_tells_after_start :
    stagesOf ([.event (.stage .watchLog), .event (.stage .awaitStop), .event (.stage .bind)] ++
        .event (.stage .answerCalls) :: [.event .stopRequest, .listen .watcher]) = stages ∧
      (run [.event (.stage .watchLog), .event (.stage .awaitStop), .event (.stage .bind),
        .event (.stage .answerCalls), .event .stopRequest, .listen .watcher]).Told .watcher ∧
      (run [.event (.stage .watchLog), .event (.stage .awaitStop), .event (.stage .bind),
        .event (.stage .answerCalls), .event .stopRequest, .listen .watcher]).Told .server := by
  have hs : stagesOf ([.event (.stage .watchLog), .event (.stage .awaitStop),
      .event (.stage .bind)] ++ .event (.stage .answerCalls) ::
        [.event .stopRequest, .listen .watcher]) = stages := by decide
  obtain ⟨hw, hv⟩ := run_tells [.event (.stage .watchLog), .event (.stage .awaitStop),
    .event (.stage .bind)] [.event .stopRequest, .listen .watcher] hs
  exact ⟨hs, hw.mpr (by decide), hv.mpr ⟨by decide, by decide⟩⟩

/-- **A stop that is asked for while the address is being taken** is lost to the server of
calls. -/
theorem early_stop_misses_server :
    ¬ ∀ moments, stagesOf moments = stages → (run moments).stopping = true →
      ∀ c, (run moments).Told c := by
  intro h
  have htold := h [.event (.stage .watchLog), .event (.stage .awaitStop), .event .stopRequest,
    .event (.stage .bind), .event (.stage .answerCalls)] (by decide) (by decide) .server
  exact absurd htold (by decide)

end Launch

end Firewall
