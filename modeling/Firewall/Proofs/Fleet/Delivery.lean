import Firewall.Proofs.Fleet.Sound
import Mathlib.Data.List.Chain

/-!
Which entries of the change log reach a listener. A listener that joined a table when
the feed stood at an entry hears of each later entry of this table, once and in the
order of the log, whatever the other instances append, wherever calls fail, and
however often it subscribes.

Proved here:

* `Node.Accounts.turn`: every turn of a node keeps its account of what was heard;
* `Node.Reported.turn`: every turn keeps the account of how polls ended;
* `Fleet.run_delivers`: both hold in every run, and a feed begins at the end of the
  log and never moves back.
-/

namespace Firewall

/-! ## Numbered entries -/

namespace Tables

def entries (t : Tables) (count : Nat) : List LogEntry :=
  (t.log.take count).mapIdx fun k e => ⟨k + 1, e.1, e.2⟩

@[simp] theorem entries_zero (t : Tables) : t.entries 0 = [] := rfl

theorem entries_succ {t : Tables} {n : Nat} {table : Table} {key : String}
    (h : t.log[n]? = some (table, key)) :
    t.entries (n + 1) = t.entries n ++ [⟨n + 1, table, key⟩] := by
  obtain ⟨hn, -⟩ := List.getElem?_eq_some_iff.mp h
  unfold entries
  rw [List.take_add_one, h, List.mapIdx_append, List.length_take, Nat.min_eq_left (Nat.le_of_lt hn)]
  simp

theorem entries_grow {t t' : Tables} {more : List (Table × String)}
    (h : t'.log = t.log ++ more) {n : Nat} (hn : n ≤ t.log.length) :
    t'.entries n = t.entries n := by
  unfold entries
  rw [h, List.take_append_of_le_length hn]

theorem getElem?_entries (t : Tables) (n k : Nat) :
    (t.entries n)[k]? = if k < n then (t.log[k]?).map fun e => ⟨k + 1, e.1, e.2⟩ else none := by
  unfold entries
  rw [List.getElem?_mapIdx, List.getElem?_take]
  split <;> rfl

theorem mem_entries {t : Tables} {n : Nat} {e : LogEntry} :
    e ∈ t.entries n ↔ 0 < e.id ∧ e.id ≤ n ∧ t.log[e.id - 1]? = some (e.table, e.key) := by
  rw [List.mem_iff_getElem?]
  constructor
  · rintro ⟨k, hk⟩
    rw [getElem?_entries] at hk
    split at hk
    · next hn =>
      obtain ⟨r, hr, rfl⟩ := Option.map_eq_some_iff.mp hk
      exact ⟨Nat.succ_pos k, hn, hr⟩
    · cases hk
  · rintro ⟨h0, hn, hl⟩
    refine ⟨e.id - 1, ?_⟩
    rw [getElem?_entries, if_pos (by omega), hl]
    simp only [Option.map_some, Option.some.injEq]
    rw [Nat.sub_add_cancel h0]

/-- The numbers of the entries increase. -/
theorem pairwise_entries (t : Tables) (n : Nat) : (t.entries n).Pairwise (·.id < ·.id) := by
  rw [List.pairwise_iff_getElem]
  intro i j hi hj hij
  simp only [entries, List.getElem_mapIdx]
  omega

end Tables

/-! ## Accounts -/

/-- The last entry that a listener has heard of, if it waited for it. -/
def Phase.reached (who : Listener) (last : Nat) : Phase → Nat
  | .delivering _ _ todo => if who ∈ todo then last else last + 1
  | .applying _ _ _ todo => if who ∈ todo then last else last + 1
  | _ => last

def received (heard : List Hearing) (who : Listener) : List LogEntry :=
  (heard.filter fun h => h.who = who).map (·.entry)

/-- Whether an entry is later than where a listener joined its table. -/
def awaits (joined : Dict (Table × Listener) Nat) (who : Listener) (e : LogEntry) : Bool :=
  match joined.get? (e.table, who) with
  | some first => first < e.id
  | none => false

/-- What the listeners of an instance have heard fits the log and where they joined. -/
structure Accounts (t : Tables) (i : Instance) (phase : Phase) (heard : List Hearing)
    (joined : Dict (Table × Listener) Nat) : Prop where
  members : ∀ table who, who ∈ i.listeners table ↔ (joined.get? (table, who)).isSome
  early : ∀ table who first, joined.get? (table, who) = some first → first ≤ i.last
  received : ∀ who, received heard who =
    (t.entries (phase.reached who i.last)).filter (awaits joined who)
  recorded : ∀ name, (i.recorders.get? name).getD [] =
    (Firewall.received heard (.recorder name)).map (·.key)

theorem received_append (heard : List Hearing) (h : Hearing) (who : Listener) :
    received (heard ++ [h]) who = received heard who ++ if h.who = who then [h.entry] else [] := by
  unfold received
  rw [List.filter_append, List.map_append]
  by_cases hw : h.who = who <;> simp [hw]

/-- One entry more makes a difference to those who wait for it. -/
theorem due_succ {t : Tables} {last : Nat} {e : LogEntry} (next : e.id = last + 1)
    (logged : t.log[last]? = some (e.table, e.key)) (waits : LogEntry → Bool) :
    (t.entries (last + 1)).filter waits =
      (t.entries last).filter waits ++ if waits e then [e] else [] := by
  have he : e = ⟨last + 1, e.table, e.key⟩ := by rw [← next]
  rw [Tables.entries_succ logged, List.filter_append, ← he]
  by_cases h : waits e <;> simp [h]

theorem Phase.Sound.reached_le {i : Instance} {log : List (Table × String)} {phase : Phase}
    (h : phase.Sound i log) (hb : i.last ≤ log.length) (who : Listener) :
    phase.reached who i.last ≤ log.length := by
  cases phase with
  | idle => exact hb
  | catching p => exact hb
  | delivering p e todo =>
    have := h.1.room
    have := h.1.head
    simp only [Phase.reached]
    split <;> omega
  | applying p e news todo =>
    have := h.1.room
    have := h.1.head
    simp only [Phase.reached]
    split <;> omega

namespace Accounts

variable {t : Tables} {i : Instance} {phase : Phase} {heard : List Hearing}
  {joined : Dict (Table × Listener) Nat}

theorem fresh (t : Tables) : Accounts t .fresh .idle [] Dict.empty where
  members _ _ := by constructor <;> intro h <;> cases h
  early _ _ _ h := by cases h
  received _ := rfl
  recorded _ := rfl

theorem grow (h : Accounts t i phase heard joined)
    (hr : ∀ who, phase.reached who i.last ≤ t.log.length) {t' : Tables}
    {more : List (Table × String)} (ht : t'.log = t.log ++ more) :
    Accounts t' i phase heard joined := by
  refine ⟨h.members, h.early, ?_, h.recorded⟩
  intro who
  rw [Tables.entries_grow ht (hr who)]
  exact h.received who

/-- The account is about the feed and the recorders of an instance. -/
theorem of_parts (h : Accounts t i phase heard joined) {i' : Instance} (hf : i'.feed = i.feed)
    (hr : i'.recorders = i.recorders) : Accounts t i' phase heard joined := by
  have hl := Instance.last_of_feed hf
  refine ⟨?_, ?_, ?_, ?_⟩
  · intro table who
    rw [Instance.listeners_of_feed hf]
    exact h.members table who
  · rw [hl]
    exact h.early
  · rw [hl]
    exact h.received
  · rw [hr]
    exact h.recorded

/-- The listeners of a table wait for its next entry, and nobody else does. -/
theorem awaits_next (h : Accounts t i phase heard joined) {e : LogEntry}
    (he : e.id = i.last + 1) (who : Listener) :
    awaits joined who e = decide (who ∈ i.listeners e.table) := by
  have hm := h.members e.table who
  have hj := h.early e.table who
  unfold awaits
  cases hg : joined.get? (e.table, who) with
  | none =>
    rw [hg] at hm
    simp only [Option.isSome_none, Bool.false_eq_true, iff_false] at hm
    simp [hm]
  | some first =>
    rw [hg] at hm
    have := hj first hg
    simp only [Option.isSome_some, iff_true] at hm
    simp only [hm, decide_true, decide_eq_true_eq]
    omega

theorem told {p : Progress} {e : LogEntry} {who : Listener} {todo : List Listener}
    (h : Accounts t i (.delivering p e (who :: todo)) heard joined)
    (hp : p.Handles e i.last t.log) (once : (who :: todo).Nodup)
    (hw : who ∈ i.listeners e.table) (read : Bool) (other : Listener) :
    Firewall.received (heard ++ [⟨who, e, read⟩]) other =
      (t.entries (if other ∈ todo then i.last else i.last + 1)).filter
        (awaits joined other) := by
  have hr := h.received other
  simp only [Phase.reached, List.mem_cons] at hr
  rw [List.nodup_cons] at once
  rw [received_append, hr]
  by_cases ho : who = other
  · subst ho
    rw [if_pos rfl, if_neg once.1, if_pos (Or.inl rfl), due_succ hp.next hp.logged,
      h.awaits_next hp.next, decide_eq_true hw]
    rfl
  · simp only [Ne.symm ho, false_or]
    rw [if_neg ho, List.append_nil]

theorem resubscribe (h : Accounts t i .idle heard joined) {f : Feed Listener}
    (hf : i.feed = some f) {table : Table} {who : Listener}
    (again : (joined.get? (table, who)).isSome) :
    Accounts t { i with feed := some (f.subscribe table who) } .idle heard joined := by
  have hlast : Instance.last { i with feed := some (f.subscribe table who) } = i.last :=
    (f.last_subscribe table who).trans (Instance.last_eq hf).symm
  refine ⟨?_, ?_, ?_, h.recorded⟩
  · intro table' other
    rw [Instance.mem_listeners_subscribe hf, ← h.members]
    constructor
    · rintro (heq | hj)
      · obtain ⟨rfl, rfl⟩ := Prod.mk.inj heq
        exact (h.members _ _).mpr again
      · exact hj
    · exact Or.inr
  · rw [hlast]
    exact h.early
  · rw [hlast]
    exact h.received

/-- A listener joins for the first time. It waits for nothing that is behind the feed. -/
theorem newcomer (h : Accounts t i .idle heard joined) {f : Feed Listener}
    (hf : i.feed = some f) {table : Table} {who : Listener}
    (first : joined.get? (table, who) = none) :
    Accounts t { i with feed := some (f.subscribe table who) } .idle heard
      (joined.insert (table, who) f.last) := by
  have hl : i.last = f.last := Instance.last_eq hf
  have hlast : Instance.last { i with feed := some (f.subscribe table who) } = i.last :=
    (f.last_subscribe table who).trans hl.symm
  refine ⟨?_, ?_, ?_, h.recorded⟩
  · intro table' other
    rw [Instance.mem_listeners_subscribe hf, h.members, Dict.get?_insert]
    by_cases heq : (table', other) = (table, who) <;> simp [heq]
  · intro table' other since hj
    rw [hlast]
    rw [Dict.get?_insert] at hj
    by_cases heq : (table', other) = (table, who)
    · rw [if_pos heq] at hj
      cases hj
      exact Nat.le_of_eq hl.symm
    · rw [if_neg heq] at hj
      exact h.early table' other since hj
  · intro other
    rw [hlast]
    refine (h.received other).trans ?_
    apply List.filter_congr
    intro e he
    have hid := (Tables.mem_entries.mp he).2.1
    unfold awaits
    rw [Dict.get?_insert]
    by_cases heq : (e.table, other) = (table, who)
    · -- it did not wait before, and it joins behind the entry
      rw [if_pos heq, heq, first]
      simp only [Phase.reached] at hid
      simp only [Bool.false_eq, decide_eq_false_iff_not]
      omega
    · rw [if_neg heq]

theorem subscribe (h : Accounts t i .idle heard joined) {f : Feed Listener}
    (hf : i.feed = some f) (table : Table) (who : Listener) :
    Accounts t { i with feed := some (f.subscribe table who) } .idle heard
      (if joined.contains (table, who) then joined else joined.insert (table, who) f.last) := by
  by_cases hc : joined.contains (table, who)
  · rw [if_pos hc]
    exact h.resubscribe hf hc
  · rw [if_neg hc]
    unfold Dict.contains at hc
    exact h.newcomer hf (by simpa using hc)

/-- A feed begins when nobody has joined yet. -/
theorem start (h : Accounts t i .idle heard joined) (hf : i.feed = none) (last : Nat) :
    Accounts t { i with feed := some (.startAt last) } .idle heard joined := by
  have hnone : ∀ table who, joined.get? (table, who) = none := by
    intro table who
    have hm := h.members table who
    unfold Instance.listeners at hm
    rw [hf] at hm
    simpa using hm
  have hl : i.last = 0 := by
    unfold Instance.last
    rw [hf]
    rfl
  refine ⟨?_, ?_, ?_, h.recorded⟩
  · intro table who
    rw [hnone]
    constructor <;> intro hm <;> cases hm
  · intro table who first hj
    rw [hnone] at hj
    cases hj
  · intro who
    have hr := h.received who
    simp only [Phase.reached, hl, Tables.entries_zero, List.filter_nil] at hr
    rw [hr]
    refine (List.filter_eq_nil_iff.mpr ?_).symm
    intro e _
    unfold awaits
    rw [hnone]
    exact Bool.false_ne_true

/-- Between two entries, those who wait for the next one are the listeners of its table. -/
theorem fetched {p : Progress} {table : Table} {key : String}
    (h : Accounts t i (.catching p) heard joined) (hl : p.last = i.last)
    (logged : t.log[p.last]? = some (table, key)) :
    Accounts t i (.delivering p ⟨p.last + 1, table, key⟩ (i.listeners table)) heard joined := by
  refine ⟨h.members, h.early, ?_, h.recorded⟩
  intro who
  refine (h.received who).trans ?_
  rw [hl] at logged ⊢
  have hd := due_succ (e := ⟨i.last + 1, table, key⟩) rfl logged (awaits joined who)
  rw [h.awaits_next rfl] at hd
  simp only [Phase.reached]
  by_cases hw : who ∈ i.listeners table
  · rw [if_pos hw]
  · rw [if_neg hw]
    simp only [hw, decide_false, Bool.false_eq_true, ↓reduceIte, List.append_nil] at hd
    exact hd.symm

/-- A listener that notes no keys hears of an entry. -/
theorem hears {p : Progress} {e : LogEntry} {who : Listener} {todo : List Listener}
    (h : Accounts t i (.delivering p e (who :: todo)) heard joined)
    (hp : p.Handles e i.last t.log) (once : (who :: todo).Nodup)
    (hw : who ∈ i.listeners e.table) (read : Bool) (hne : ∀ name, who ≠ .recorder name) :
    Accounts t i (.delivering p e todo) (heard ++ [⟨who, e, read⟩]) joined := by
  refine ⟨h.members, h.early, h.told hp once hw read, ?_⟩
  intro name
  rw [received_append, if_neg (hne name), List.append_nil]
  exact h.recorded name

/-- A recorder hears of an entry, and notes its key. -/
theorem notes {p : Progress} {e : LogEntry} {name : String} {todo : List Listener}
    (h : Accounts t i (.delivering p e (.recorder name :: todo)) heard joined)
    (hp : p.Handles e i.last t.log) (once : (Listener.recorder name :: todo).Nodup)
    (hw : .recorder name ∈ i.listeners e.table) :
    Accounts t (i.record name e.key) (.delivering p e todo)
      (heard ++ [⟨.recorder name, e, true⟩]) joined := by
  refine ⟨h.members, h.early, h.told hp once hw true, ?_⟩
  intro other
  rw [received_append]
  show ((i.recorders.insert name _).get? other).getD [] = _
  rw [Dict.get?_insert]
  by_cases hne : other = name
  · subst hne
    rw [if_pos rfl, if_pos rfl, List.map_append, ← h.recorded other]
    rfl
  · have hne' : Listener.recorder name ≠ .recorder other := by
      intro heq
      cases heq
      exact hne rfl
    rw [if_neg hne, if_neg hne', List.append_nil]
    exact h.recorded other

theorem moved {p p' : Progress} {e : LogEntry} {f : Feed Listener} (hf : i.feed = some f)
    (h : Accounts t i (.delivering p e []) heard joined) :
    Accounts t i.advance (.catching p') heard joined := by
  have hl := Instance.last_advance hf
  refine ⟨?_, ?_, ?_, h.recorded⟩
  · intro table who
    rw [← h.members, Instance.listeners_advance hf]
  · intro table who first hj
    rw [hl]
    exact Nat.le_succ_of_le (h.early table who first hj)
  · intro who
    rw [hl]
    exact h.received who

/-- **A step of a poll keeps the account.** -/
theorem polled (h : Accounts t i phase heard joined) (hs : phase.Sound i t.log)
    {f : Feed Listener} (hf : i.feed = some f) (distinct : f.subscribers.Nodup)
    {failing : Failing} {phase' : Phase} {note : Option Note} {i' : Instance}
    (hm : PollMove t failing i phase phase' note i') :
    Accounts t i' phase' (heard ++ Note.hearings note) joined := by
  have once : ∀ {who todo table}, who :: todo <:+ i.listeners table → (who :: todo).Nodup :=
    fun hsuf => Instance.once hf distinct hsuf
  have same : ∀ phase'', (∀ who, phase''.reached who i.last = phase.reached who i.last) →
      Accounts t i phase'' (heard ++ []) joined := by
    intro phase'' hr
    rw [List.append_nil]
    refine ⟨h.members, h.early, ?_, h.recorded⟩
    intro who
    rw [hr]
    exact h.received who
  cases hm with
  | noHead cause => exact same _ fun _ => rfl
  | head => exact same _ fun _ => rfl
  | noEntry p cause hp => exact same _ fun _ => rfl
  | complete p hp => exact same _ fun _ => rfl
  | fetched p table key hp logged =>
    rw [Note.hearings, List.append_nil]
    exact h.fetched hs.1 logged
  | unread p e who todo hu =>
    refine h.hears hs.1 (once hs.2) (hs.2.mem List.mem_cons_self) false ?_
    rintro name rfl
    rcases hu with ⟨n, hn, -⟩ | ⟨n, hn, -⟩ <;> cases hn
  | readSetting p e n value todo hv =>
    have hh := h.hears hs.1 (once hs.2) (hs.2.mem List.mem_cons_self) true (by simp)
    exact ⟨hh.members, hh.early, hh.received, hh.recorded⟩
  | readRules p e n todo =>
    have hh := h.hears hs.1 (once hs.2) (hs.2.mem List.mem_cons_self) true (by simp)
    exact ⟨hh.members, hh.early, hh.received, hh.recorded⟩
  | recorded p e name todo => exact h.notes hs.1 (once hs.2) (hs.2.mem List.mem_cons_self)
  | applied p e news todo =>
    have ha := same (.delivering p e todo) fun _ => rfl
    exact ha.of_parts (i.feed_apply news) (by cases news <;> rfl)
  | moved p e =>
    rw [Note.hearings, List.append_nil]
    exact h.moved hf

end Accounts

/-! ## Reports -/

/-- Where the poll began that is under way, or the next one will begin. -/
def Phase.origin (last : Nat) : Phase → Nat
  | .idle => last
  | .catching p => p.start
  | .delivering p _ _ => p.start
  | .applying p _ _ _ => p.start

/-- A report says where its poll left the feed: a poll that could not read the head
left it where it was; one that could not read an entry left it right before this
entry; one that ended well counted the entries up to the head. -/
def Report.Right (r : Report) : Prop :=
  match r.ending with
  | .noHead _ => r.after = r.before
  | .noEntry head id _ => r.after + 1 = id ∧ r.before ≤ r.after ∧ r.after < head
  | .complete head count => r.after = r.before + count ∧ r.after = max r.before head

/-- The reports of an instance are right, and each poll began where the one before it
had left the feed. -/
structure Reported (last : Nat) (phase : Phase) (reports : List Report) : Prop where
  right : ∀ r ∈ reports, r.Right
  chain : reports.IsChain fun r s => r.after = s.before
  resumes : ∀ r ∈ reports.getLast?, r.after = phase.origin last

namespace Reported

variable {t : Tables} {i : Instance} {phase : Phase} {reports : List Report}

/-- A poll that leaves the feed in a right place goes on the account. -/
theorem ended {last : Nat} (h : Reported last phase reports) {r : Report} (hr : r.Right)
    (hb : r.before = phase.origin last) (ha : r.after = last) :
    Reported last .idle (reports ++ [r]) := by
  refine ⟨?_, ?_, ?_⟩
  · intro s hs
    rw [List.mem_append, List.mem_singleton] at hs
    rcases hs with hs | rfl
    · exact h.right s hs
    · exact hr
  · rw [List.isChain_append]
    refine ⟨h.chain, .singleton r, ?_⟩
    intro s hs r' hr'
    cases hr'
    rw [hb]
    exact h.resumes s hs
  · intro s hs
    rw [List.getLast?_append] at hs
    cases hs
    exact ha

/-- **A step of a poll keeps the account of polls.** -/
theorem polled (h : Reported i.last phase reports) (hs : phase.Sound i t.log)
    {failing : Failing} {phase' : Phase} {note : Option Note} {i' : Instance}
    (hm : PollMove t failing i phase phase' note i') :
    Reported i'.last phase' (reports ++ Note.reports note) := by
  cases hm with
  | noHead cause => exact h.ended rfl rfl rfl
  | noEntry p cause hp =>
    have hl : p.last = i.last := hs.1
    refine h.ended ⟨?_, ?_, ?_⟩ rfl rfl
    · exact congrArg (· + 1) hl.symm
    · rw [← hl]
      exact Nat.le_add_right p.start p.done
    · rw [← hl]
      exact hp
  | complete p hp =>
    obtain ⟨hl, -, hd⟩ := hs
    refine h.ended ⟨?_, ?_⟩ rfl rfl
    · exact hl.symm
    · show i.last = max p.start p.head
      unfold Progress.last at hl hd hp
      omega
  | applied p e news todo =>
    rw [Note.reports, List.append_nil, Instance.last_of_feed (i.feed_apply news)]
    exact ⟨h.right, h.chain, h.resumes⟩
  | moved p e =>
    rw [Note.reports, List.append_nil]
    exact ⟨h.right, h.chain, h.resumes⟩
  | _ =>
    rw [Note.reports, List.append_nil]
    exact ⟨h.right, h.chain, h.resumes⟩

end Reported

/-! ## Runs -/

theorem Node.subscribe_accounts {t : Tables} {n : Node}
    (h : Accounts t n.self n.phase n.heard n.joined) (hn : n.phase = .idle) (table : Table)
    (who : Listener) :
    Accounts t (n.subscribe table who).self (n.subscribe table who).phase
      (n.subscribe table who).heard (n.subscribe table who).joined := by
  unfold Node.subscribe
  cases hf : n.self.feed with
  | none => exact h
  | some f =>
    show Accounts t _ n.phase n.heard _
    rw [hn] at h ⊢
    exact h.subscribe hf table who

theorem Node.subscribe_reported {n : Node} (h : Reported n.self.last n.phase n.reports)
    (table : Table) (who : Listener) :
    Reported (n.subscribe table who).self.last (n.subscribe table who).phase
      (n.subscribe table who).reports := by
  rw [Node.last_subscribe]
  unfold Node.subscribe
  cases n.self.feed with
  | none => exact h
  | some f => exact h

structure Node.Delivers (t : Tables) (n : Node) : Prop where
  sound : n.Sound t
  accounts : Accounts t n.self n.phase n.heard n.joined
  reported : Reported n.self.last n.phase n.reports
  silent : n.self.feed = none → n.reports = []

namespace Node.Delivers

variable {t : Tables} {n : Node}

theorem fresh (t : Tables) : Node.fresh.Delivers t where
  sound := .fresh t
  accounts := .fresh t
  reported := by
    refine ⟨?_, .nil, ?_⟩
    · intro r hr
      cases hr
    · intro r hr
      cases hr
  silent _ := rfl

theorem grow (h : n.Delivers t) {t' : Tables} {more : List (Table × String)}
    (ht : t'.log = t.log ++ more) : n.Delivers t' where
  sound := h.sound.grow ht
  accounts := h.accounts.grow (h.sound.phase.reached_le h.sound.behind) ht
  reported := h.reported
  silent := h.silent

theorem accounts_turn (h : n.Delivers t) {ι : Type} {failing : Failing} {a : Action ι} {t' : Tables}
    {n' : Node} (ht : Turn t failing n a t' n') :
    Accounts t' n'.self n'.phase n'.heard n'.joined := by
  obtain ⟨more, hmore⟩ := ht.log_grows
  have hr := h.sound.phase.reached_le h.sound.behind
  have ha := h.accounts
  cases ht with
  | connected i _ hc =>
    cases hc with
    | same _ => exact ha
    | started hf =>
      have hn := h.sound.resting (h.sound.asleep hf).2
      rw [hn] at ha
      show Accounts t _ n.phase _ _
      rw [hn]
      exact ha.start hf _
  | loaded i part _ hl => cases hl <;> exact ha
  | joined i _ hj =>
    cases hj with
    | same _ => exact ha
    | begun b hb =>
      have hn := h.sound.resting (h.sound.ready (by rw [hb]; exact Option.some_ne_none _))
      apply Node.subscribe_accounts
      · exact ha.of_parts (n.self.feed_equip b) (by cases b <;> rfl)
      · exact hn
  | subscribed i table who hn => exact Node.subscribe_accounts ha hn table who
  | busy i table who => exact ha
  | submitted i policy steps => exact ha
  | carried i j _ _ hc =>
    cases hc with
    | done policy step rest _ _ _ =>
      exact (ha.grow hr hmore).of_parts (n.self.feed_perform policy step) (by cases step <;> rfl)
    | _ => exact ha
  | waiting i => exact ha
  | polled i f phase note self hb hf hm =>
    rw [Node.note_self, Node.note_phase, Node.note_heard, Node.note_joined]
    exact ha.polled h.sound.phase hf (h.sound.once f hf) hm

theorem reported_turn (h : n.Delivers t) {ι : Type} {failing : Failing} {a : Action ι} {t' : Tables}
    {n' : Node} (ht : Turn t failing n a t' n') :
    Reported n'.self.last n'.phase n'.reports := by
  have hr := h.reported
  cases ht with
  | connected i _ hc =>
    cases hc with
    | same _ => exact hr
    | started hf =>
      refine ⟨hr.right, hr.chain, ?_⟩
      intro r hmem
      rw [show n.reports = [] from h.silent hf] at hmem
      cases hmem
  | loaded i part _ hl => cases hl <;> exact hr
  | joined i _ hj =>
    cases hj with
    | same _ => exact hr
    | begun b hb =>
      apply Node.subscribe_reported
      rw [← Instance.last_of_feed (n.self.feed_equip b)] at hr
      exact hr
  | subscribed i table who hn => exact Node.subscribe_reported hr table who
  | busy i table who => exact hr
  | submitted i policy steps => exact hr
  | carried i j _ _ hc =>
    cases hc with
    | done policy step rest _ _ _ =>
      rw [← Instance.last_of_feed (n.self.feed_perform policy step)] at hr
      exact hr
    | _ => exact hr
  | waiting i => exact hr
  | polled i f phase note self hb hf hm =>
    rw [Node.note_self, Node.note_phase, Node.note_reports]
    exact hr.polled h.sound.phase hm

/-- Without a feed there are no polls. -/
theorem silent_turn (h : n.Delivers t) {ι : Type} {failing : Failing} {a : Action ι} {t' : Tables}
    {n' : Node} (ht : Turn t failing n a t' n')
    (hnone : n'.self.feed = none) : n'.reports = [] := by
  have hn := ht.feed_none hnone
  rw [← h.silent hn]
  cases ht with
  | connected i _ hc => cases hc <;> rfl
  | loaded i part _ hl => cases hl <;> rfl
  | joined i _ hj =>
    cases hj with
    | same _ => rfl
    | begun b hb => exact Node.reports_subscribe _ _ _
  | subscribed i table who _ => exact Node.reports_subscribe _ _ _
  | carried i j _ _ hc => cases hc <;> rfl
  | polled i f phase note self hb hf hm =>
    rw [hn] at hf
    cases hf
  | _ => rfl

theorem turn (h : n.Delivers t) {ι : Type} {failing : Failing} {a : Action ι} {t' : Tables}
    {n' : Node} (ht : Turn t failing n a t' n') : n'.Delivers t' :=
  ⟨h.sound.turn ht, h.accounts_turn ht, h.reported_turn ht, h.silent_turn ht⟩

end Node.Delivers

/-- Where a listener joined first stays on record. -/
theorem Turn.joined_stays {ι : Type} {t t' : Tables} {failing : Failing} {n n' : Node}
    {a : Action ι} (ht : Turn t failing n a t' n') {place : Table × Listener} {first : Nat}
    (h : n.joined.get? place = some first) : n'.joined.get? place = some first := by
  have subscribe : ∀ (m : Node) table who, m.joined = n.joined →
      (m.subscribe table who).joined.get? place = some first := by
    intro m table who hm
    rw [← hm] at h
    unfold Node.subscribe
    cases m.self.feed with
    | none => exact h
    | some f =>
      dsimp only
      by_cases hc : m.joined.contains (table, who)
      · rw [if_pos hc]
        exact h
      · rw [if_neg hc, Dict.get?_insert]
        have hne : place ≠ (table, who) := by
          rintro rfl
          unfold Dict.contains at hc
          rw [h] at hc
          exact hc rfl
        rw [if_neg hne]
        exact h
  cases ht with
  | connected i _ hc => cases hc <;> exact h
  | loaded i part _ hl => cases hl <;> exact h
  | joined i _ hj =>
    cases hj with
    | same _ => exact h
    | begun b hb => exact subscribe _ _ _ rfl
  | subscribed i table who _ => exact subscribe _ _ _ rfl
  | carried i j _ _ hc => cases hc <;> exact h
  | polled i f phase note self hb hf hm =>
    rw [Node.note_joined]
    exact h
  | _ => exact h

/-- What the listeners of a node have received, when the log is the one of the tables. -/
structure Node.HeardExactly (t : Tables) (n : Node) : Prop where
  /-- Between polls, a listener has received the entries of each of its tables that are
  later than where it joined and not later than the feed, and nothing else. -/
  between : n.phase = .idle → ∀ who,
    received n.heard who = (t.entries n.self.last).filter (awaits n.joined who)
  /-- Within a poll some listeners have received the next entry too. -/
  within : ∀ who,
    received n.heard who =
      (t.entries (n.phase.reached who n.self.last)).filter (awaits n.joined who)
  /-- It has received them once and in the order of the log. -/
  increasing : ∀ who, (received n.heard who).Pairwise (·.id < ·.id)
  /-- The keys of a recorder are those of the entries it has received. -/
  recorded : ∀ name, (n.self.recorders.get? name).getD [] =
    (received n.heard (.recorder name)).map (·.key)
  /-- Who has joined a table is among its listeners, and nobody else. -/
  members : ∀ table who, who ∈ n.self.listeners table ↔ (n.joined.get? (table, who)).isSome

namespace Fleet

variable {ι σ : Type} [DecidableEq ι] [RecordStore σ] [LawfulStore σ]

theorem joined_stays (actions : List (Action ι)) {c : Fleet ι σ} {t : Tables}
    (ht : c.world.store.Shows t) (i : ι) {place : Table × Listener} {first : Nat}
    (h : (c.nodes i).joined.get? place = some first) :
    ((c.run actions).nodes i).joined.get? place = some first := by
  induction actions generalizing c t with
  | nil => exact h
  | cons a actions ih =>
    rcases step_turn ht a with ⟨failing, -, hn, hst, -⟩ | ⟨k, t', n', -, hst, -, hn, hturn⟩
    · exact ih hst (by rw [hn]; exact h)
    · apply ih hst
      rw [hn]
      by_cases hk : i = k
      · subst hk
        rw [Function.update_self]
        exact hturn.joined_stays h
      · rw [Function.update_of_ne hk]
        exact h

theorem connect_starts {c : Fleet ι σ} {t : Tables} (ht : c.world.store.Shows t) {i : ι}
    (hf : (c.nodes i).self.feed = none) (calm : c.world.store.failing.stops .latest = false) :
    ((c.step (.connect i)).nodes i).self.feed = some (.startAt t.log.length) := by
  obtain ⟨-, -, hc⟩ := Node.connect_connected ht (c.nodes i)
  show (Function.update c.nodes i _ i).self.feed = _
  rw [Function.update_self]
  generalize ((c.nodes i).connect c.world).2 = n' at hc
  cases hc with
  | same h =>
    rw [h hf] at calm
    cases calm
  | started _ => rfl

omit [LawfulStore σ] in
theorem subscribe_joins {c : Fleet ι σ} {i : ι} (hn : (c.nodes i).phase = .idle)
    {f : Feed Listener} (hf : (c.nodes i).self.feed = some f) {table : Table} {who : Listener}
    (hj : (c.nodes i).joined.get? (table, who) = none) :
    ((c.step (.subscribe i table who)).nodes i).joined.get? (table, who) = some f.last := by
  show (Function.update c.nodes i _ i).joined.get? _ = _
  rw [Function.update_self]
  dsimp only
  have hc : ¬ (c.nodes i).joined.contains (table, who) = true := by
    unfold Dict.contains
    rw [hj]
    exact Bool.false_ne_true
  rw [if_pos hn]
  unfold Node.subscribe
  rw [hf]
  dsimp only
  rw [if_neg hc, Dict.get?_insert, if_pos rfl]

/-- **Delivery is exact.** Whatever the instances of a fleet do, in whatever order and
under whatever failures: the listeners of each instance receive the entries of their
tables from where they joined up to the feed, once each and in order; polls end as
they report; a feed begins at the end of the log, a listener joins where the feed
stands and for good, and the feed never moves back. -/
theorem run_delivers (w : World (Faulty σ)) {t₀ : Tables} (start_shows : w.store.Shows t₀)
    (actions : List (Action ι)) (i : ι) :
    let c := (start w : Fleet ι σ).run actions
    ∃ t, c.world.store.Shows t ∧ (c.nodes i).HeardExactly t ∧
      (c.nodes i).self.last ≤ t.log.length ∧
      Reported (c.nodes i).self.last (c.nodes i).phase (c.nodes i).reports ∧
      ((c.nodes i).self.feed = none → c.world.store.failing.stops .latest = false →
        ((c.step (.connect i)).nodes i).self.feed = some (.startAt t.log.length)) ∧
      (∀ f table who, (c.nodes i).phase = .idle → (c.nodes i).self.feed = some f →
        (c.nodes i).joined.get? (table, who) = none →
        ((c.step (.subscribe i table who)).nodes i).joined.get? (table, who) = some f.last) ∧
      ∀ more, (c.nodes i).self.last ≤ ((c.run more).nodes i).self.last ∧
        ∀ place first, (c.nodes i).joined.get? place = some first →
          ((c.run more).nodes i).joined.get? place = some first := by
  intro c
  obtain ⟨t, ht, -, hall⟩ := run_induction (fun t n => n.Delivers t) (fun h => h.turn)
    (fun h => h.grow) actions (c := start w) start_shows (fun _ : ι => .fresh t₀)
  have hi := hall i
  have hreceived := hi.accounts.received
  refine ⟨t, ht, ⟨?_, hreceived, ?_, hi.accounts.recorded, hi.accounts.members⟩,
    hi.sound.behind, hi.reported, ?_, ?_, ?_⟩
  · intro hn who
    have hr := hreceived who
    rw [hn] at hr
    exact hr
  · intro who
    rw [hreceived who]
    exact (t.pairwise_entries _).filter _
  · exact fun hf calm => connect_starts ht hf calm
  · exact fun f table who hn hf hj => subscribe_joins hn hf hj
  · intro more
    exact ⟨last_mono more ht i, fun place first hj => joined_stays more ht i hj⟩

/-- A recorder that joins behind the first entry hears of the second and third, the
second poll going on where the first one failed. -/
theorem run_delivers_after_failure :
    let w : World (Faulty Tables) :=
      .around ⟨⟨[(.config, "mode")], Dict.empty, [], none⟩, .none⟩
    let actions : List (Action Nat) :=
      [.connect 0, .subscribe 0 .config (.recorder "r"),
        .submit 1 0 [.announce .config "allowlist", .announce .config "denylist"],
        .carry 1 0, .carry 1 0, .weather ⟨["entry"], some 3⟩,
        .poll 0, .poll 0, .poll 0, .poll 0, .poll 0,
        .weather .none, .poll 0, .poll 0, .poll 0, .poll 0, .poll 0]
    let c := (start w : Fleet Nat Tables).run actions
    w.store.Shows ⟨[(.config, "mode")], Dict.empty, [], none⟩ ∧
      (c.nodes 0).self.recorders.get? "r" = some ["allowlist", "denylist"] ∧
      (c.nodes 0).reports.map (·.after) = [2, 3] ∧
      ∃ t, c.world.store.Shows t ∧ (c.nodes 0).HeardExactly t := by
  intro w actions c
  refine ⟨rfl, by decide, by decide, ?_⟩
  obtain ⟨t, ht, hx, -⟩ := run_delivers w rfl actions 0
  exact ⟨t, ht, hx⟩

end Fleet

end Firewall
