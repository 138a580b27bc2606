import Firewall.Shutdown
import Mathlib.Data.List.Induction

/-!
A stop that is announced to whoever listens. Listeners come and go at any time, a stop may be
asked for again and again, and each listener looks at the channel as often as it likes. Whether
it hears the stop is a question of what was done before it began to listen, and of what has been
done since: `Shutdown.due` answers it from these two lists alone.

Proved here:

* `Single.signal`, `Single.listen`: the channel never carries more than one announcement, so
  that nobody is too slow for it;
* `Recorded.step`, `Placed.step`: what a step makes of the state and of the place of a listener;
* `Shutdown.run_announces`: what every step of every run answers about the stop.
-/

namespace Firewall

namespace Shutdown

/-! ## One announcement -/

/-- The channel carries the one announcement of a stop, if there is a stop. -/
def Single (s : Shutdown) : Prop := s.channel.sent = if s.stopping then 1 else 0

theorem Single.signal {s : Shutdown} (h : s.Single) : s.signal.Single := by
  unfold Shutdown.signal
  unfold Single at h ⊢
  by_cases hs : s.stopping = true
  · simp [hs] at h ⊢
    exact h
  · simp [hs] at h ⊢
    simp [Channel.announce, h]

theorem sent_le_signal (s : Shutdown) : s.channel.sent ≤ s.signal.channel.sent := by
  unfold signal
  split
  · exact Nat.le_refl _
  · exact Nat.le_succ _

theorem listeners_signal (s : Shutdown) : s.signal.listeners = s.listeners := by
  unfold signal
  split <;> rfl

/-- On a channel with one announcement, a listener hears it if it has not heard it yet. -/
theorem Single.listen {s : Shutdown} (h : s.Single) (past : Nat) :
    s.channel.listen past =
      if past < s.channel.sent then (.signal, past + 1) else (.nothing, past) := by
  have hsent : s.channel.sent ≤ 1 := by
    rw [h]
    split <;> omega
  unfold Channel.listen Channel.capacity
  by_cases hp : past < s.channel.sent
  · rw [if_neg (by omega), if_neg (by omega), if_pos hp]
  · rw [if_pos (by omega), if_neg hp]

/-! ## What the steps so far say -/

def after (s : Shutdown) (steps : List Step) : Shutdown := steps.foldl (fun s x => (s.step x).2) s

def fromStop (steps : List Step) : List Step := steps.dropWhile (· ≠ .signal)

/-- What the listener of a number hears that began to listen after the steps `early` and has
gone through the steps `late` since: the signal, if the stop was announced since then and it has
not looked after that, and nothing otherwise. -/
def due (n : Nat) (early late : List Step) : Heard :=
  if .signal ∉ early ∧ .signal ∈ late ∧ .receive n ∉ fromStop late then .signal else .nothing

theorem after_append (s : Shutdown) (steps more : List Step) :
    s.after (steps ++ more) = (s.after steps).after more := List.foldl_append

theorem after_concat (s : Shutdown) (steps : List Step) (x : Step) :
    s.after (steps ++ [x]) = ((s.after steps).step x).2 := by
  rw [after_append]
  rfl

/-- The answer to a step is that of the state in which the steps before it have left things. -/
theorem run_at (s : Shutdown) (before rest : List Step) (x : Step) :
    (s.run (before ++ x :: rest))[before.length]? = some ((s.after before).step x).1 := by
  induction before generalizing s with
  | nil => rfl
  | cons y before ih => exact ih (s.step y).2

theorem mem_fromStop_concat (steps : List Step) (x y : Step) :
    y ∈ fromStop (steps ++ [x]) ↔ y ∈ fromStop steps ∨ (y = x ∧ .signal ∈ steps ++ [x]) := by
  unfold fromStop
  induction steps with
  | nil => by_cases hx : x = .signal <;> simp [hx, eq_comm]
  | cons z steps ih =>
    by_cases hz : z = .signal
    · simp [hz, or_assoc]
    · have hz' : ¬ Step.signal = z := fun h => hz h.symm
      simpa [hz, hz'] using ih

theorem mem_of_mem_fromStop {steps : List Step} {x : Step} (h : x ∈ fromStop steps) :
    .signal ∈ steps := by
  unfold fromStop at h
  induction steps with
  | nil => exact absurd h List.not_mem_nil
  | cons z steps ih =>
    by_cases hz : z = .signal
    · exact hz ▸ List.mem_cons_self
    · rw [List.dropWhile_cons_of_pos (by simpa using hz)] at h
      exact List.mem_cons_of_mem z (ih h)

/-! ## What a step does -/

theorem stopping_signal (s : Shutdown) : s.signal.stopping = true := by
  unfold signal
  split
  · assumption
  · rfl

theorem step_receive {s : Shutdown} {n past : Nat} (h : s.listeners[n]? = some (some past)) :
    s.step (.receive n) = (.heard (s.channel.listen past).1,
      { s with listeners := s.listeners.set n (some (s.channel.listen past).2) }) := by
  simp [step, receive, h]

theorem step_receive_gone {s : Shutdown} {n : Nat}
    (h : ∀ past, s.listeners[n]? ≠ some (some past)) :
    s.step (.receive n) = (.noListener, s) := by
  have hr : s.receive n = (none, s) := by
    unfold receive
    split
    · next past hp => exact absurd hp (h past)
    · rfl
  simp [step, hr]

/-- **What a step does**: it announces the stop, lets one more listen, or changes nothing but
the place of one listener. -/
theorem step_cases (s : Shutdown) (x : Step) :
    (x = .signal ∧ (s.step x).2 = s.signal) ∨
    (x = .subscribe ∧ (s.step x).2 = s.subscribe.2) ∨
    (x ≠ .signal ∧ x ≠ .subscribe ∧ ∃ listeners, (s.step x).2 = { s with listeners } ∧
      listeners.length = s.listeners.length ∧
      ∀ n, x ≠ .receive n → x ≠ .drop n → listeners[n]? = s.listeners[n]?) := by
  cases x with
  | signal => exact Or.inl ⟨rfl, rfl⟩
  | subscribe => exact Or.inr (Or.inl ⟨rfl, rfl⟩)
  | state =>
    exact Or.inr (Or.inr ⟨by simp, by simp, s.listeners, rfl, rfl, fun _ _ _ => rfl⟩)
  | receive m =>
    refine Or.inr (Or.inr ⟨by simp, by simp, ?_⟩)
    by_cases hm : ∃ past, s.listeners[m]? = some (some past)
    · obtain ⟨past, hm⟩ := hm
      rw [step_receive hm]
      refine ⟨_, rfl, List.length_set, fun n hn _ => List.getElem?_set_ne ?_⟩
      rintro rfl
      exact hn rfl
    · rw [step_receive_gone fun past hp => hm ⟨past, hp⟩]
      exact ⟨s.listeners, rfl, rfl, fun _ _ _ => rfl⟩
  | drop m =>
    refine Or.inr (Or.inr ⟨by simp, by simp, _, rfl, List.length_set, fun n _ hn => ?_⟩)
    refine List.getElem?_set_ne ?_
    rintro rfl
    exact hn rfl

/-- The state says what the steps say: whether there was a stop, and how many have ever begun
to listen. -/
structure Recorded (s : Shutdown) (steps : List Step) : Prop where
  single : s.Single
  stopping : s.stopping = decide (.signal ∈ steps)
  joined : s.listeners.length = steps.count .subscribe

/-- **What every step records.** -/
theorem Recorded.step {s : Shutdown} {steps : List Step} (h : Recorded s steps) (x : Step) :
    Recorded (s.step x).2 (steps ++ [x]) := by
  obtain ⟨hsingle, hstopping, hjoined⟩ := h
  rcases step_cases s x with ⟨rfl, he⟩ | ⟨rfl, he⟩ | ⟨hsignal, hsubscribe, listeners, he, hlen, -⟩
  · rw [he]
    refine ⟨hsingle.signal, ?_, ?_⟩
    · simp [stopping_signal]
    · simpa [listeners_signal] using hjoined
  · rw [he]
    exact ⟨hsingle, by simpa [subscribe] using hstopping, by simpa [subscribe] using hjoined⟩
  · rw [he]
    have hsignal' : ¬ Step.signal = x := fun h => hsignal h.symm
    refine ⟨hsingle, by simpa [hsignal'] using hstopping, ?_⟩
    rw [List.count_append, List.count_singleton, ← hjoined, ← hlen]
    simp [hsubscribe]

theorem recorded (steps : List Step) : Recorded (initial.after steps) steps := by
  induction steps using List.reverseRecOn with
  | nil => exact ⟨rfl, rfl, rfl⟩
  | append_singleton steps x ih =>
    rw [after_concat]
    exact ih.step x

theorem Recorded.sent {s : Shutdown} {steps : List Step} (h : Recorded s steps) :
    s.channel.sent = if .signal ∈ steps then 1 else 0 := by
  have hsent := h.single
  unfold Single at hsent
  simpa [h.stopping] using hsent

/-! ## The place of a listener -/

/-- How many announcements a listener has behind it. -/
def past (n : Nat) (early late : List Step) : Nat :=
  if .signal ∈ early ∨ .receive n ∈ fromStop late then 1 else 0

/-- The listener of a number has its place on the channel. -/
def Placed (s : Shutdown) (n : Nat) (early late : List Step) : Prop :=
  s.listeners[n]? = some (some (past n early late))

section

variable {s : Shutdown} {n : Nat} {early late : List Step}

/-- What a listener finds when it looks at the channel, and where it is then. -/
theorem Recorded.listen (h : Recorded s (early ++ .subscribe :: late)) :
    s.channel.listen (past n early late) =
      (due n early late, past n early (late ++ [.receive n])) := by
  rw [h.single.listen, h.sent]
  unfold past due
  simp only [mem_fromStop_concat]
  by_cases hearly : .signal ∈ early
  · simp [hearly]
  · by_cases hlate : .signal ∈ late
    · by_cases hlook : .receive n ∈ fromStop late <;> simp [hearly, hlate, hlook]
    · have hlook : .receive n ∉ fromStop late := fun hm => hlate (mem_of_mem_fromStop hm)
      simp [hearly, hlate, hlook]

/-- **What a step makes of the place of a listener** that it does not take away. -/
theorem Placed.step (hp : Placed s n early late)
    (h : Recorded s (early ++ .subscribe :: late)) {x : Step} (hx : x ≠ .drop n) :
    Placed (s.step x).2 n early (late ++ [x]) := by
  by_cases hn : x = .receive n
  · subst hn
    have hlen : n < s.listeners.length := (List.getElem?_eq_some_iff.mp hp).1
    unfold Placed
    rw [step_receive hp, h.listen]
    exact List.getElem?_set_self hlen
  · -- nobody else moves a listener
    have hlater : past n early (late ++ [x]) = past n early late := by
      unfold past
      simp [mem_fromStop_concat, Ne.symm hn]
    unfold Placed
    rw [hlater, ← hp]
    rcases step_cases s x with ⟨rfl, he⟩ | ⟨rfl, he⟩ | ⟨-, -, listeners, he, -, hsame⟩
    · rw [he, listeners_signal]
    · rw [he]
      exact List.getElem?_append_left (List.getElem?_eq_some_iff.mp hp).1
    · rw [he]
      exact hsame n hn hx

end

/-- **A listener keeps its place** as long as it is not dropped. -/
theorem placed (early late : List Step) (h : .drop (early.count .subscribe) ∉ late) :
    Placed (initial.after (early ++ .subscribe :: late)) (early.count .subscribe) early late := by
  induction late using List.reverseRecOn with
  | nil =>
    have hr := recorded early
    have hpast : past (early.count .subscribe) early [] = (initial.after early).channel.sent := by
      rw [hr.sent]
      simp [past, fromStop]
    unfold Placed
    rw [after_concat, hpast, ← hr.joined]
    exact List.getElem?_concat_length
  | append_singleton late x ih =>
    rw [List.mem_append, List.mem_singleton, not_or] at h
    have hstep := (ih h.1).step (recorded _) fun hx => h.2 hx.symm
    rw [← after_concat] at hstep
    simpa using hstep

/-! ## Whole runs -/

/-- Nobody is ever too slow for a channel with one announcement. -/
theorem Single.step_ne_missed {s : Shutdown} (h : s.Single) (x : Step) (count : Nat) :
    (s.step x).1 ≠ .heard (.missed count) := by
  cases x with
  | receive n =>
    by_cases hn : ∃ past, s.listeners[n]? = some (some past)
    · obtain ⟨past, hn⟩ := hn
      rw [step_receive hn, h.listen]
      split <;> simp
    · rw [step_receive_gone fun past hp => hn ⟨past, hp⟩]
      simp
  | subscribe | signal | state | drop _ => simp [step]

theorem mem_run {s : Shutdown} {steps : List Step} {a : Answer} (h : a ∈ s.run steps) :
    ∃ before x rest, steps = before ++ x :: rest ∧ a = ((s.after before).step x).1 := by
  induction steps generalizing s with
  | nil => exact absurd h List.not_mem_nil
  | cons y steps ih =>
    rcases List.mem_cons.mp h with rfl | h
    · exact ⟨[], y, steps, rfl, rfl⟩
    · obtain ⟨before, x, rest, rfl, ha⟩ := ih h
      exact ⟨y :: before, x, rest, rfl, ha⟩

/-- **What runs answer about the stop.** It has been announced exactly from the first request on;
listeners are numbered in the order in which they begin to listen; a listener that has not been
dropped hears what is due to it, the signal at its first look after the stop if it listened by
then, and nothing at any other; and no listener ever misses anything. -/
theorem run_announces (steps : List Step) :
    (∀ before rest, steps = before ++ .state :: rest →
      (initial.run steps)[before.length]? = some (.state (decide (.signal ∈ before)))) ∧
    (∀ early rest, steps = early ++ .subscribe :: rest →
      (initial.run steps)[early.length]? = some (.number (early.count .subscribe))) ∧
    (∀ n early late rest, steps = early ++ .subscribe :: (late ++ .receive n :: rest) →
      n = early.count .subscribe → .drop n ∉ late →
      (initial.run steps)[early.length + 1 + late.length]? =
        some (.heard (due n early late))) ∧
    ∀ count, .heard (.missed count) ∉ initial.run steps := by
  refine ⟨?_, ?_, ?_, ?_⟩
  · rintro before rest rfl
    rw [run_at, show ((initial.after before).step .state).1 = .state _ from rfl,
      (recorded before).stopping]
  · rintro early rest rfl
    rw [run_at, show ((initial.after early).step .subscribe).1 = .number _ from rfl,
      (recorded early).joined]
  · rintro n early late rest rfl rfl hdrop
    have hlen : early.length + 1 + late.length = (early ++ .subscribe :: late).length := by
      simp
      omega
    have hp := placed early late hdrop
    have hr := recorded (early ++ .subscribe :: late)
    rw [hlen, show early ++ .subscribe :: (late ++ .receive (early.count .subscribe) :: rest) =
      (early ++ .subscribe :: late) ++ .receive (early.count .subscribe) :: rest by simp, run_at,
      step_receive hp, hr.listen]
  · intro count hmem
    obtain ⟨before, x, rest, -, ha⟩ := mem_run hmem
    exact (recorded before).single.step_ne_missed x count ha.symm

/-- Two listen when the stop is announced, and one of them hears it although the other is gone by
then, a second stop is asked for and a third begins to listen, who hears nothing. -/
theorem run_announces_amid_others :
    let early : List Step := [.subscribe]
    let late : List Step := [.receive 1, .signal, .drop 0, .subscribe, .signal]
    let steps := early ++ .subscribe :: (late ++ [.receive 1, .receive 1, .receive 2])
    (1 = early.count .subscribe ∧ .drop 1 ∉ late) ∧
      (initial.run steps)[7]? = some (.heard .signal) ∧
      (initial.run steps)[8]? = some (.heard .nothing) ∧
      (initial.run steps)[9]? = some (.heard .nothing) := by
  intro early late steps
  have hrun := (run_announces steps).2.2.1
  refine ⟨by decide, ?_, ?_, ?_⟩
  · exact hrun 1 early late [.receive 1, .receive 2] rfl rfl (by decide)
  · exact hrun 1 early (late ++ [.receive 1]) [.receive 2] rfl rfl (by decide)
  · exact hrun 2 (early ++ .subscribe :: [.receive 1, .signal, .drop 0])
      [.signal, .receive 1, .receive 1] [] rfl rfl (by decide)

end Shutdown

end Firewall
