import Firewall.Store.Shared
import Mathlib.Data.List.Basic

/-!
The connection that a shared store keeps between its calls. A call takes it out of its slot, runs
the operation over it and puts it back unless it has broken; then the operation is run once more
over a new one. Calls are watched here: the connections are numbered in the order in which they
are opened, and every opening and every run of an operation is written down where it happens.

Proved here:

* `rounds_eq_run`: a call is the loop that goes around until the connection it uses is new or has
  not broken, and it never goes around more than twice;
* `run_watched`, `runAll_eq`: watching changes nothing;
* `run_course`: what a watched call can look like;
* `Course.orderly`: how often an operation is run, when it is run again, where the result comes
  from, and which connection is kept;
* `spent_watchAll`: over any calls, a connection that broke is not used again;
* `slot_discipline`: all of this, and that the calls of a shared store are such calls.
-/

namespace Firewall

namespace Connection

variable {γ σ α : Type}

def breaks : Except StoreFault α → Bool
  | .ok _ => false
  | .error e => e.isLoss

theorem once_eq (op : Operation γ σ α) (c : γ) (s : σ) :
    once op c s = ⟨(op c s).1, if breaks (op c s).1 then none else some c, (op c s).2⟩ := by
  unfold once
  rcases op c s with ⟨e | a, s⟩ <;> rfl

/-! ## The loop -/

/-- Takes the connection out of the slot, or opens one. Gives with it whether it is a new one, as
it is when an earlier one was. -/
def take (opening : Opening γ σ) (slot : Option γ) (isNew : Bool) (s : σ) :
    Except StoreFault (γ × Bool) × σ :=
  match slot with
  | some c => (.ok (c, isNew), s)
  | none =>
    match opening s with
    | (.ok c, s) => (.ok (c, true), s)
    | (.error e, s) => (.error e, s)

/-- A call as a loop that may go around so many times: it ends when no connection can be had, when
the operation does not find the connection broken, or when the broken one was new. -/
def rounds (opening : Opening γ σ) (op : Operation γ σ α) :
    Nat → Option γ → Bool → σ → Option (Outcome γ σ α)
  | 0, _, _, _ => none
  | n + 1, slot, isNew, s =>
    match take opening slot isNew s with
    | (.error e, s) => some ⟨.error e, none, s⟩
    | (.ok (c, isNew), s) =>
      match op c s with
      | (.ok a, s) => some ⟨.ok a, some c, s⟩
      | (.error e, s) =>
        if e.isLoss then
          if isNew then some ⟨.error e, none, s⟩ else rounds opening op n none isNew s
        else some ⟨.error e, some c, s⟩

theorem rounds_none (opening : Opening γ σ) (op : Operation γ σ α) (n : Nat) (isNew : Bool)
    (s : σ) : rounds opening op (n + 1) none isNew s = some (fresh opening op s) := by
  unfold rounds take fresh
  rcases opening s with ⟨e | c, s⟩
  · rfl
  · unfold once
    rcases h : op c s with ⟨e | a, t⟩
    · cases hl : e.isLoss <;> simp [h, hl]
    · simp [h]

/-- **A call is this loop**, and it ends in the second round at the latest. -/
theorem rounds_eq_run (opening : Opening γ σ) (op : Operation γ σ α) (n : Nat)
    (kept : Option γ) (s : σ) :
    rounds opening op (n + 2) kept false s = some (run opening op kept s) := by
  cases kept with
  | none => exact rounds_none opening op (n + 1) false s
  | some c =>
    rw [rounds, take, run]
    rcases h : op c s with ⟨e | a, t⟩
    · by_cases hl : e.isLoss = true
      · simp only [h, if_pos hl]
        exact rounds_none opening op n false t
      · simp only [h, if_neg hl]
    · simp only [h]

/-! ## Watched calls -/

/-- What is seen of a call: a connection is opened, none can be had, or the operation is run over
one. Connections are seen by their numbers. -/
inductive Event (α : Type)
  | opened (n : Nat)
  | refused (fault : StoreFault)
  | ran (n : Nat) (answer : Except StoreFault α)

/-- Surroundings in which a call is watched: how many connections there have been before, and what
has been seen of the call. -/
structure Watched (σ α : Type) where
  state : σ
  opened : Nat
  events : List (Event α)

def Opening.watched (opening : Opening γ σ) : Opening (Nat × γ) (Watched σ α) := fun w =>
  match opening w.state with
  | (.ok c, s) => (.ok (w.opened, c), ⟨s, w.opened + 1, w.events ++ [.opened w.opened]⟩)
  | (.error e, s) => (.error e, ⟨s, w.opened, w.events ++ [.refused e]⟩)

/-- Runs an operation and writes down over which connection, and its answer. -/
def Operation.watched (op : Operation γ σ α) : Operation (Nat × γ) (Watched σ α) α := fun c w =>
  ((op c.2 w.state).1,
    ⟨(op c.2 w.state).2, w.opened, w.events ++ [.ran c.1 (op c.2 w.state).1]⟩)

/-- What comes of a watched call, when nobody watches. -/
def Outcome.unwatched (o : Outcome (Nat × γ) (Watched σ α) α) : Outcome γ σ α :=
  ⟨o.result, o.kept.map Prod.snd, o.state.state⟩

theorem once_watched_eq (op : Operation γ σ α) (c : Nat × γ) (w : Watched σ α) :
    once op.watched c w = ⟨(op c.2 w.state).1, if breaks (op c.2 w.state).1 then none else some c,
      ⟨(op c.2 w.state).2, w.opened, w.events ++ [.ran c.1 (op c.2 w.state).1]⟩⟩ :=
  once_eq op.watched c w

theorem once_watched (op : Operation γ σ α) (c : Nat × γ) (w : Watched σ α) :
    (once op.watched c w).unwatched = once op c.2 w.state := by
  rw [once_watched_eq, once_eq]
  cases breaks (op c.2 w.state).1 <;> rfl

theorem fresh_watched (opening : Opening γ σ) (op : Operation γ σ α) (w : Watched σ α) :
    (fresh opening.watched op.watched w).unwatched = fresh opening op w.state := by
  unfold fresh Opening.watched
  rcases opening w.state with ⟨e | c, s⟩
  · rfl
  · exact once_watched op (w.opened, c) _

/-- **Watching changes nothing.** -/
theorem run_watched (opening : Opening γ σ) (op : Operation γ σ α) (kept : Option (Nat × γ))
    (w : Watched σ α) : (run opening.watched op.watched kept w).unwatched =
      run opening op (kept.map Prod.snd) w.state := by
  cases kept with
  | none => exact fresh_watched opening op w
  | some c =>
    rw [Option.map_some, run, run, Operation.watched]
    rcases op c.2 w.state with ⟨e | a, s⟩
    · by_cases hl : e.isLoss = true
      · simp only [if_pos hl]
        exact fresh_watched opening op _
      · simp only [if_neg hl]
        rfl
    · rfl

/-! ## What a call looks like -/

/-- The number of the connection that is kept unless an answer says that it broke. -/
def keptAfter (n : Nat) (answer : Except StoreFault α) : Option Nat :=
  if breaks answer then none else some n

theorem map_fst_kept (n : Nat) (c : γ) (answer : Except StoreFault α) :
    (if breaks answer then none else some (n, c)).map Prod.fst = keptAfter n answer := by
  unfold keptAfter
  split <;> rfl

/-- What is seen of a try on a new connection, when so many have been opened before: the events,
the result, the connection that is kept, and how many have been opened then. -/
inductive Anew (opened : Nat) :
    List (Event α) → Except StoreFault α → Option Nat → Nat → Prop
  | refused (fault : StoreFault) : Anew opened [.refused fault] (.error fault) none opened
  | ran (answer : Except StoreFault α) :
    Anew opened [.opened opened, .ran opened answer] answer (keptAfter opened answer) (opened + 1)

inductive Course (opened : Nat) :
    Option Nat → List (Event α) → Except StoreFault α → Option Nat → Nat → Prop
  /-- The kept connection is used and does not break. -/
  | answered (n : Nat) (answer : Except StoreFault α) (sound : breaks answer = false) :
    Course opened (some n) [.ran n answer] answer (some n) opened
  /-- No connection is kept. -/
  | anew {events : List (Event α)} {result : Except StoreFault α} {after : Option Nat}
    {opened' : Nat} (h : Anew opened events result after opened') :
    Course opened none events result after opened'
  /-- The kept connection breaks. -/
  | again (n : Nat) (fault : StoreFault) (broken : fault.isLoss = true)
    {events : List (Event α)} {result : Except StoreFault α} {after : Option Nat} {opened' : Nat}
    (h : Anew opened events result after opened') :
    Course opened (some n) (.ran n (.error fault) :: events) result after opened'

theorem fresh_anew (opening : Opening γ σ) (op : Operation γ σ α) (s : σ) (opened : Nat)
    (seen : List (Event α)) : ∃ events,
    (fresh opening.watched op.watched ⟨s, opened, seen⟩).state.events = seen ++ events ∧
      Anew opened events (fresh opening.watched op.watched ⟨s, opened, seen⟩).result
        ((fresh opening.watched op.watched ⟨s, opened, seen⟩).kept.map Prod.fst)
        (fresh opening.watched op.watched ⟨s, opened, seen⟩).state.opened := by
  unfold fresh Opening.watched
  simp only
  rcases opening s with ⟨e | c, t⟩
  · exact ⟨_, rfl, .refused e⟩
  · simp only [once_watched_eq, map_fst_kept]
    exact ⟨_, List.append_assoc seen [.opened opened] _, .ran (op c t).1⟩

def watch (opening : Opening γ σ) (op : Operation γ σ α) (kept : Option (Nat × γ)) (opened : Nat)
    (s : σ) : Outcome (Nat × γ) (Watched σ α) α :=
  run opening.watched op.watched kept ⟨s, opened, []⟩

/-- **What a watched call can look like.** -/
theorem run_course (opening : Opening γ σ) (op : Operation γ σ α) (kept : Option (Nat × γ))
    (opened : Nat) (s : σ) :
    Course opened (kept.map Prod.fst) (watch opening op kept opened s).state.events
      (watch opening op kept opened s).result
      ((watch opening op kept opened s).kept.map Prod.fst)
      (watch opening op kept opened s).state.opened := by
  unfold watch
  cases kept with
  | none =>
    obtain ⟨events, hevents, hanew⟩ := fresh_anew opening op s opened []
    rw [run, hevents]
    exact .anew hanew
  | some c =>
    rw [run, Operation.watched]
    rcases op c.2 s with ⟨e | a, t⟩
    · by_cases hl : e.isLoss = true
      · simp only [if_pos hl, List.nil_append]
        obtain ⟨events, hevents, hanew⟩ := fresh_anew opening op t opened [.ran c.1 (.error e)]
        rw [hevents]
        exact .again c.1 e hl hanew
      · simp only [if_neg hl]
        exact .answered c.1 (.error e) (eq_false_of_ne_true hl)
    · exact .answered c.1 (.ok a) rfl

/-! ## Order in a call -/

/-- The runs of the operation: the connections they were over, and the answers. -/
def runsOf : List (Event α) → List (Nat × Except StoreFault α)
  | [] => []
  | .ran n answer :: events => (n, answer) :: runsOf events
  | .opened _ :: events => runsOf events
  | .refused _ :: events => runsOf events

@[simp] theorem runsOf_nil : runsOf ([] : List (Event α)) = [] := rfl

@[simp] theorem runsOf_ran (n : Nat) (answer : Except StoreFault α) (events : List (Event α)) :
    runsOf (.ran n answer :: events) = (n, answer) :: runsOf events := rfl

@[simp] theorem runsOf_opened (n : Nat) (events : List (Event α)) :
    runsOf (.opened n :: events) = runsOf events := rfl

@[simp] theorem runsOf_refused (fault : StoreFault) (events : List (Event α)) :
    runsOf (.refused fault :: events) = runsOf events := rfl

/-- What is always true of a call that found one connection kept, or none, and left one, or none. -/
structure Orderly (before : Option Nat) (events : List (Event α)) (result : Except StoreFault α)
    (after : Option Nat) : Prop where
  /-- The operation is run twice at most. -/
  twice : (runsOf events).length ≤ 2
  /-- If it is run twice, then first over the kept connection, which breaks, and directly after
  that over a new one. -/
  again (first second : Nat × Except StoreFault α) : runsOf events = [first, second] →
    before = some first.1 ∧ breaks first.2 = true ∧
      events = [.ran first.1 first.2, .opened second.1, .ran second.1 second.2]
  /-- The result is that of the last run, or of an opening that has failed since. -/
  result : (∃ earlier n, events = earlier ++ [.ran n result]) ∨
    ∃ earlier fault, events = earlier ++ [.refused fault] ∧ result = .error fault
  /-- A connection is kept if the last run was over it and did not find it broken. -/
  slot (n : Nat) : after = some n ↔
    ∃ answer, (runsOf events).getLast? = some (n, answer) ∧ breaks answer = false

@[simp] theorem breaks_error (fault : StoreFault) :
    breaks (.error fault : Except StoreFault α) = fault.isLoss := rfl

@[simp] theorem keptAfter_eq_some_iff {k n : Nat} {answer : Except StoreFault α} :
    keptAfter k answer = some n ↔ k = n ∧ breaks answer = false := by
  unfold keptAfter
  cases breaks answer <;> simp

section

variable {opened opened' : Nat} {before after : Option Nat} {events : List (Event α)}
  {result : Except StoreFault α}

/-- **There is order in every call.** -/
theorem Course.orderly (h : Course opened before events result after opened') :
    Orderly before events result after := by
  constructor
  case twice =>
    rcases h with _ | ⟨_ | _⟩ | ⟨_, _, _, _ | _⟩ <;> simp
  case again =>
    intro first second hruns
    rcases h with _ | ⟨_ | _⟩ | ⟨n, fault, broken, _ | answer⟩ <;> simp at hruns
    obtain ⟨rfl, rfl⟩ := hruns
    exact ⟨rfl, broken, rfl⟩
  case result =>
    rcases h with ⟨n, answer, -⟩ | ⟨fault | answer⟩ | ⟨n, fault, -, fault' | answer⟩
    · exact .inl ⟨[], n, rfl⟩
    · exact .inr ⟨[], fault, rfl, rfl⟩
    · exact .inl ⟨[.opened opened], opened, rfl⟩
    · exact .inr ⟨[.ran n (.error fault)], fault', rfl, rfl⟩
    · exact .inl ⟨[.ran n (.error fault), .opened opened], opened, rfl⟩
  case slot =>
    intro k
    rcases h with ⟨n, answer, sound⟩ | ⟨_ | _⟩ | ⟨n, fault, broken, _ | _⟩ <;> simp_all

/-! ## Calls one after the other -/

/-- The use of a connection by a run, and whether it turned out to be broken. -/
structure Use where
  number : Nat
  broke : Bool
  deriving DecidableEq, Repr

def usesOf (events : List (Event α)) : List Use :=
  (runsOf events).map fun r => ⟨r.1, breaks r.2⟩

/-- Connections are not used any more once they have broken. -/
def Spent (uses : List Use) : Prop :=
  uses.Pairwise fun u v => u.broke = true → v.number ≠ u.number

theorem Course.opened_le (h : Course opened before events result after opened') :
    opened ≤ opened' := by
  rcases h with _ | ⟨_ | _⟩ | ⟨_, _, _, _ | _⟩ <;> simp

/-- The connections that a call uses and, in the end, the one that it keeps. -/
def trailOf (events : List (Event α)) (after : Option Nat) : List Use :=
  usesOf events ++ after.toList.map fun n => ⟨n, false⟩

theorem mem_trailOf_of_used {u : Use} (h : u ∈ usesOf events) : u ∈ trailOf events after :=
  List.mem_append_left _ h

theorem mem_trailOf_of_kept {n : Nat} (h : after = some n) : ⟨n, false⟩ ∈ trailOf events after :=
  List.mem_append_right _ (by simp [h])

/-- A call uses and keeps the connection that was kept, or one that it has opened. -/
theorem Course.number_of_mem (h : Course opened before events result after opened') {u : Use}
    (hu : u ∈ trailOf events after) :
    before = some u.number ∨ (opened ≤ u.number ∧ u.number < opened') := by
  rcases h with _ | ⟨_ | _⟩ | ⟨_, _, _, _ | _⟩ <;> simp [trailOf, usesOf] at hu <;> grind

/-- It neither uses nor keeps a connection that it has found broken. -/
theorem Course.spent (h : Course opened before events result after opened')
    (hbefore : ∀ n, before = some n → n < opened) : Spent (trailOf events after) := by
  rcases h with ⟨_, _, sound⟩ | ⟨_ | _⟩ | ⟨n, _, _, _ | _⟩ <;>
    simp [trailOf, usesOf, Spent] <;> grind

end

structure Call (γ σ : Type) where
  {Answer : Type}
  op : Operation γ σ Answer

abbrev Reply := (α : Type) × Except StoreFault α

/-- Makes calls one after the other: the results, the connection that is kept in the end, and the
surroundings then. -/
def runAll (opening : Opening γ σ) :
    List (Call γ σ) → Option γ → σ → List Reply × Option γ × σ
  | [], kept, s => ([], kept, s)
  | c :: calls, kept, s =>
    let o := run opening c.op kept s
    let rest := runAll opening calls o.kept o.state
    (⟨c.Answer, o.result⟩ :: rest.1, rest.2)

/-- A call that was watched: the connection that was kept before it, what was seen, the result, and
the connection that was kept after it. -/
structure Made where
  {Answer : Type}
  before : Option Nat
  events : List (Event Answer)
  result : Except StoreFault Answer
  after : Option Nat

def Made.reply (m : Made) : Reply := ⟨m.Answer, m.result⟩

/-- Makes calls one after the other and watches each of them, when so many connections have been
opened before. -/
def watchAll (opening : Opening γ σ) :
    List (Call γ σ) → Option (Nat × γ) → Nat → σ → List Made × Option (Nat × γ) × σ
  | [], kept, _, s => ([], kept, s)
  | c :: calls, kept, opened, s =>
    let o := watch opening c.op kept opened s
    let rest := watchAll opening calls o.kept o.state.opened o.state.state
    (⟨kept.map Prod.fst, o.state.events, o.result, o.kept.map Prod.fst⟩ :: rest.1, rest.2)

def allUses (calls : List Made) : List Use := calls.flatMap fun m => usesOf m.events

variable (opening : Opening γ σ)

/-- **Watching calls changes nothing.** -/
theorem runAll_eq (calls : List (Call γ σ)) (kept : Option (Nat × γ)) (opened : Nat) (s : σ) :
    runAll opening calls (kept.map Prod.snd) s =
      ((watchAll opening calls kept opened s).1.map Made.reply,
        (watchAll opening calls kept opened s).2.1.map Prod.snd,
        (watchAll opening calls kept opened s).2.2) := by
  induction calls generalizing kept opened s with
  | nil => rfl
  | cons c calls ih =>
    have hsame := run_watched opening c.op kept ⟨s, opened, []⟩
    rw [runAll, ← hsame]
    simp only [Outcome.unwatched]
    rw [ih _ (watch opening c.op kept opened s).state.opened]
    rfl

theorem orderly_of_mem (calls : List (Call γ σ)) (kept : Option (Nat × γ)) (opened : Nat) (s : σ)
    {m : Made} (hm : m ∈ (watchAll opening calls kept opened s).1) :
    Orderly m.before m.events m.result m.after := by
  induction calls generalizing kept opened s with
  | nil => cases hm
  | cons c calls ih =>
    rcases List.mem_cons.mp hm with rfl | hm
    · exact (run_course opening c.op kept opened s).orderly
    · exact ih _ _ _ hm

/-- Calls use the connection that was kept before them, or those that have been opened since. -/
theorem number_of_mem_watchAll (calls : List (Call γ σ)) (kept : Option (Nat × γ)) (opened : Nat)
    (s : σ) {u : Use} (hu : u ∈ allUses (watchAll opening calls kept opened s).1) :
    kept.map Prod.fst = some u.number ∨ opened ≤ u.number := by
  induction calls generalizing kept opened s with
  | nil => cases hu
  | cons c calls ih =>
    have hcourse := run_course opening c.op kept opened s
    rw [watchAll, allUses, List.flatMap_cons, List.mem_append] at hu
    rcases hu with hu | hu
    · exact (hcourse.number_of_mem (mem_trailOf_of_used hu)).imp_right And.left
    · rcases ih _ _ _ hu with hafter | hlater
      · exact (hcourse.number_of_mem (mem_trailOf_of_kept hafter)).imp_right And.left
      · exact .inr (Nat.le_trans hcourse.opened_le hlater)

/-- **Over any calls**, a connection that broke is not used again. -/
theorem spent_watchAll (calls : List (Call γ σ)) (kept : Option (Nat × γ)) (opened : Nat) (s : σ)
    (hkept : ∀ n, kept.map Prod.fst = some n → n < opened) :
    Spent (allUses (watchAll opening calls kept opened s).1) := by
  induction calls generalizing kept opened s with
  | nil => exact .nil
  | cons c calls ih =>
    have hcourse := run_course opening c.op kept opened s
    have hlt {u : Use} (hu : u ∈ trailOf (watch opening c.op kept opened s).state.events
        ((watch opening c.op kept opened s).kept.map Prod.fst)) :
        u.number < (watch opening c.op kept opened s).state.opened := by
      rcases hcourse.number_of_mem hu with hn | ⟨-, hn⟩
      · exact Nat.lt_of_lt_of_le (hkept u.number hn) hcourse.opened_le
      · exact hn
    obtain ⟨hspent, -, hkeeps⟩ := List.pairwise_append.mp (hcourse.spent hkept)
    have hrest := ih _ _ (watch opening c.op kept opened s).state.state fun n hn =>
      hlt (mem_trailOf_of_kept hn)
    rw [watchAll, allUses, List.flatMap_cons]
    refine List.pairwise_append.mpr ⟨hspent, hrest, fun u hu v hv hbroke => ?_⟩
    -- a later call finds the connection that this one keeps, or opens others
    rcases number_of_mem_watchAll opening calls _ _ _ hv with hafter | hlater
    · exact hkeeps u hu ⟨v.number, false⟩ (by simp [hafter]) hbroke
    · exact Nat.ne_of_gt (Nat.lt_of_lt_of_le (hlt (mem_trailOf_of_used hu)) hlater)

end Connection

/-! ## Shared stores -/

namespace Shared

structure Command where
  {Answer : Type}
  run : String → Keyspace → Except StoreFault (Answer × Keyspace)

def Command.over (root : String) (c : Command) : Connection.Call Unit Server :=
  ⟨fun _ v => Server.command (c.run root) v⟩

def callAll : List Command → Shared → List ((α : Type) × Except StoreError α) × Shared
  | [], q => ([], q)
  | c :: commands, q =>
    let out := (call c.run).on q
    let rest := callAll commands out.2
    (⟨c.Answer, out.1⟩ :: rest.1, rest.2)

theorem callAll_eq (commands : List Command) (q : Shared) :
    callAll commands q =
      match Connection.runAll (fun v => Server.connect v) (commands.map (·.over q.root)) q.kept
        q.server with
      | (replies, kept, server) =>
        (replies.map fun r => ⟨r.1, r.2.mapError .fault⟩, { q with kept, server }) := by
  induction commands generalizing q with
  | nil => rfl
  | cons c commands ih => rw [callAll, ih]; rfl

end Shared

namespace Connection

/-- **How a store deals with its connection**, whatever its calls and whatever comes of opening
connections and of running operations.

A call is the loop that takes the connection out of its slot, and it ends in the second round at
the latest. Watching calls changes nothing of them. In each of them the operation is run twice at
most, and a second time only directly after the connection that had been kept broke, over a new
one; the result is that of the last run, or of the opening that failed; and a connection is kept
afterwards just if the last run was over it and did not find it broken. Over all the calls together
no connection is used again after it broke. The calls of a shared store are such calls. -/
theorem slot_discipline :
    (∀ {γ σ α : Type} (opening : Opening γ σ) (op : Operation γ σ α) (n : Nat) (kept : Option γ)
      (s : σ), rounds opening op (n + 2) kept false s = some (run opening op kept s)) ∧
    (∀ {γ σ : Type} (opening : Opening γ σ) (calls : List (Call γ σ)) (kept : Option γ) (s : σ),
      let seen := watchAll opening calls (kept.map fun c => (0, c)) 1 s
      runAll opening calls kept s =
        (seen.1.map Made.reply, seen.2.1.map Prod.snd, seen.2.2) ∧
      (∀ m ∈ seen.1, Orderly m.before m.events m.result m.after) ∧
      Spent (allUses seen.1)) ∧
    ∀ (commands : List Shared.Command) (q : Shared),
      Shared.callAll commands q =
        match runAll (fun v => Server.connect v) (commands.map (·.over q.root)) q.kept q.server with
        | (replies, kept, server) =>
          (replies.map fun r => ⟨r.1, r.2.mapError .fault⟩, { q with kept, server }) := by
  refine ⟨rounds_eq_run, ?_, Shared.callAll_eq⟩
  intro γ σ opening calls kept s seen
  refine ⟨?_, fun m hm => orderly_of_mem opening calls _ _ _ hm,
    spent_watchAll opening calls _ _ _ ?_⟩
  · have hsame := runAll_eq opening calls (kept.map fun c => (0, c)) 1 s
    rwa [Option.map_map, show (Prod.snd ∘ fun c : γ => (0, c)) = id from rfl, Option.map_id] at hsame
  · intro n hn
    rw [Option.map_map, Option.map_eq_some_iff] at hn
    obtain ⟨c, -, rfl⟩ := hn
    exact Nat.one_pos

def scripted : Operation Unit (List (Except StoreFault Nat)) Nat
  | _, [] => (.error .badReply, [])
  | _, answer :: answers => (answer, answers)

/-- What is seen of a call that finds the kept connection broken, and another one as well. -/
def brokenTwice : Made where
  before := some 0
  events := [.ran 0 (.error .connectionLost), .opened 1,
    (.ran 1 (.error .connectionLost) : Event Nat)]
  result := .error .connectionLost
  after := none

/-- Three calls, of which the second is such a one. The first is answered over the kept connection,
and the third goes wrong over a connection of its own, which is kept. -/
theorem slot_discipline_broken_twice :
    let seen := watchAll (fun s => (.ok (), s)) [⟨scripted⟩, ⟨scripted⟩, ⟨scripted⟩] (some (0, ())) 1
      [.ok 1, .error .connectionLost, .error .connectionLost, .error .wrongType]
    allUses seen.1 = [⟨0, false⟩, ⟨0, true⟩, ⟨1, true⟩, ⟨2, false⟩] ∧ Spent (allUses seen.1) ∧
      seen.2.1.map Prod.fst = some 2 ∧ brokenTwice ∈ seen.1 ∧
      Orderly (some 0) brokenTwice.events brokenTwice.result none := by
  obtain ⟨-, horderly, hspent⟩ := slot_discipline.2.1 (fun s => (.ok (), s))
    [⟨scripted⟩, ⟨scripted⟩, ⟨scripted⟩] (some ())
    [.ok 1, .error .connectionLost, .error .connectionLost, .error .wrongType]
  have hmem : brokenTwice ∈ (watchAll (fun s => (.ok (), s)) [⟨scripted⟩, ⟨scripted⟩, ⟨scripted⟩]
      (some (0, ())) 1
      [.ok 1, .error .connectionLost, .error .connectionLost, .error .wrongType]).1 :=
    List.mem_cons_of_mem _ List.mem_cons_self
  exact ⟨rfl, hspent, rfl, hmem, horderly brokenTwice hmem⟩

end Connection

end Firewall
