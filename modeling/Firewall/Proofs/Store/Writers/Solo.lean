import Firewall.Proofs.Store.Connection
import Firewall.Proofs.Store.Writers

/-!
A client that nobody disturbs does what the shared store does: whatever its connections meet,
there are steps that lead to the same keys and the same answer, and leave a connection behind or
not as the call does.

Proved here:

* `Shared.appending_eq`: the command of the store is a run of the script;
* `Writers.command_replayed`, `Writers.fresh_replayed`, `Writers.kept_replayed`: an attempt, and
  the attempts of a call without a connection and with one;
* `Writers.append_replayed`: the whole call.
-/

namespace Firewall

def Shared.appending (table : Table) (key root : String) (k : Keyspace) :
    Except StoreFault (Nat × Keyspace) :=
  (k.appendEntry (counterKey root) (entryRoot root) (entryRows table key)).bind fun (id, k) =>
    if 0 ≤ id then .ok (id.toNat, k) else .error .badReply

/-- **The command of the store is a run of the script.** -/
theorem Shared.appending_eq (table : Table) (key root : String) (k : Keyspace) :
    appending table key root k = (appendOnce root table key none k).1.map
      fun id => (id, (appendOnce root table key none k).2) := by
  unfold appending appendOnce
  rw [Keyspace.appendScript_run]
  cases k.appendEntry (counterKey root) (entryRoot root) (entryRows table key) with
  | error e => rfl
  | ok out =>
    obtain ⟨id, after⟩ := out
    simp only [Except.bind, appendReply]
    by_cases hid : 0 ≤ id
    · rw [if_pos hid, if_pos hid]
      rfl
    · rw [if_neg hid, if_neg hid]
      rfl

/-- What comes of the command over a connection: it is lost before the script is run, or the
script is run and its answer arrives or is lost. -/
theorem Shared.command_cases {root : String} {v : Server} {log : List (Table × String)}
    (h : LogAt root v.keys log) (table : Table) (key : String) :
    ((Server.command (appending table key root) v).1 = .error .connectionLost ∧
      (Server.command (appending table key root) v).2.keys = v.keys) ∨
    (((Server.command (appending table key root) v).1 = (appendOnce root table key none v.keys).1 ∨
        (Server.command (appending table key root) v).1 = .error .connectionLost) ∧
      (Server.command (appending table key root) v).2.keys =
        (appendOnce root table key none v.keys).2) := by
  have happ := appending_eq table key root v.keys
  have hkeys : ∀ e, (appendOnce root table key none v.keys).1 = .error e →
      (appendOnce root table key none v.keys).2 = v.keys := fun e he => h.appendOnce_failed he
  obtain ⟨keys, openings, lasting, mishaps⟩ := v
  simp only at happ hkeys ⊢
  -- a command that fails keeps the old keys, which are those of a failed run as well
  rcases ho : appendOnce root table key none keys with ⟨e | id, after⟩
  · rw [ho] at happ
    have hafter : after = keys := by simpa [ho] using hkeys e (by rw [ho])
    subst hafter
    cases mishaps with
    | nil => simp [Server.command, happ, Except.map]
    | cons m ms => cases m <;> simp [Server.command, happ, Except.map]
  · rw [ho] at happ
    cases mishaps with
    | nil => simp [Server.command, happ, Except.map]
    | cons m ms => cases m <;> simp [Server.command, happ, Except.map]

/-- A log is left behind in any case. -/
theorem Shared.command_log {root : String} {v : Server} {log : List (Table × String)}
    (h : LogAt root v.keys log) (table : Table) (key : String) :
    ∃ log, LogAt root (Server.command (appending table key root) v).2.keys log := by
  rcases command_cases h table key with ⟨-, hk⟩ | ⟨-, hk⟩
  · exact ⟨log, hk ▸ h⟩
  · rcases h.appendOnce table key none with ⟨-, hl⟩ | ⟨-, hsame⟩
    · exact ⟨_, hk ▸ hl⟩
    · exact ⟨log, by rw [hk, hsame]; exact h⟩

namespace Writers

variable {ι : Type} {w : Writers ι} {i : ι} {c : Append ι} {t : Attempt}

/-- The append of a client has ended like a call with an outcome. -/
structure EndsLike (w u : Writers ι) (i : ι) (c : Append ι)
    (o : Connection.Outcome Unit Server Nat) : Prop where
  keys : u.keys = o.state.keys
  client : u.clients i = .idle o.kept.isSome
  ended : ∃ lost n, u.ended = w.ended ++ [⟨c, o.result, lost, n⟩]

theorem EndsLike.after {u v : Writers ι} {o : Connection.Outcome Unit Server Nat}
    (h : EndsLike v u i c o) (hv : v.ended = w.ended) : EndsLike w u i c o where
  keys := h.keys
  client := h.client
  ended := by
    rw [← hv]
    exact h.ended

variable [DecidableEq ι]

/-- A client on a connection that was opened for its append ends with the answer. -/
theorem settle_ends (w : Writers ι) (i : ι) (c : Append ι) (ht : t ≠ .kept) (n : Option Nat)
    (answer : Except StoreFault Nat) : ∃ lost,
    w.settle i c t n answer = w.finish i (!Connection.breaks answer) ⟨c, answer, lost, n⟩ := by
  cases answer with
  | ok id => exact ⟨_, rfl⟩
  | error e =>
    rw [settle, Connection.breaks]
    cases e.isLoss with
    | true =>
      rw [if_pos rfl, broke, if_neg ht]
      exact ⟨true, rfl⟩
    | false => exact ⟨_, rfl⟩

theorem settle_lost (n : Option Nat) :
    w.settle i c t n (.error .connectionLost) = w.broke i c t n .connectionLost := by
  rw [settle]
  exact if_pos rfl

section Steps

variable (root : String)

theorem step_run (hi : w.clients i = .sent c t) :
    w.step root (.run i none) = (w.ran root c none).put i
      (.ran c t w.runs.length (appendOnce root c.table c.key none w.keys).1) := by
  simp only [step, hi]

theorem step_reply {n : Nat} {answer : Except StoreFault Nat}
    (hi : w.clients i = .ran c t n answer) :
    w.step root (.reply i) = w.settle i c t (some n) answer := by
  simp only [step, hi]

theorem step_lose {n : Nat} {answer : Except StoreFault Nat}
    (hi : w.clients i = .ran c t n answer) :
    w.step root (.lose i false) = w.settle i c t none (.error .connectionLost) := by
  simp only [step, hi, settle_lost]

theorem step_lose_sent (hi : w.clients i = .sent c t) :
    w.step root (.lose i false) = w.settle i c t none (.error .connectionLost) := by
  simp only [step, hi, settle_lost, Bool.false_eq_true, if_false, List.append_nil]

theorem step_connect {again : Bool} (hi : w.clients i = .opening c again) :
    w.step root (.connect i none) = w.put i (.sent c (if again then .again else .first)) := by
  simp only [step, hi]

theorem step_connect_refused {again : Bool} (hi : w.clients i = .opening c again)
    (fault : StoreFault) :
    w.step root (.connect i (some fault)) = w.finish i false ⟨c, .error fault, again, none⟩ := by
  simp only [step, hi]

end Steps

/-- **One attempt**, whatever happens to its connection. -/
theorem command_replayed {root : String} {v : Server} {log : List (Table × String)}
    (h : LogAt root v.keys log) (hk : w.keys = v.keys) (hi : w.clients i = .sent c t) :
    ∃ (acts : List (Act ι)) (u : Writers ι) (n : Option Nat),
      w.run root acts =
        u.settle i c t n (Server.command (Shared.appending c.table c.key root) v).1 ∧
      u.keys = (Server.command (Shared.appending c.table c.key root) v).2.keys ∧
      u.ended = w.ended := by
  have hstage : (w.step root (.run i none)).clients i =
      .ran c t w.runs.length (appendOnce root c.table c.key none v.keys).1 := by
    rw [step_run root hi, put_self, hk]
  have hran : (w.step root (.run i none)).keys = (appendOnce root c.table c.key none v.keys).2 := by
    rw [step_run root hi, ← hk]
    rfl
  have hended : (w.step root (.run i none)).ended = w.ended := by
    rw [step_run root hi]
    rfl
  rcases Shared.command_cases h c.table c.key with ⟨hr, hkeys⟩ | ⟨hr | hr, hkeys⟩
  · refine ⟨[.lose i false], w, none, ?_, hk.trans hkeys.symm, rfl⟩
    rw [hr]
    exact step_lose_sent root hi
  · refine ⟨[.run i none, .reply i], _, some w.runs.length, ?_, hran.trans hkeys.symm, hended⟩
    rw [hr]
    exact step_reply root hstage
  · refine ⟨[.run i none, .lose i false], _, none, ?_, hran.trans hkeys.symm, hended⟩
    rw [hr]
    exact step_lose root hstage

theorem run_append (root : String) (w : Writers ι) (acts more : List (Act ι)) :
    w.run root (acts ++ more) = (w.run root acts).run root more :=
  List.foldl_append

abbrev attempt (root : String) (c : Append ι) : Connection.Operation Unit Server Nat :=
  fun _ v => Server.command (Shared.appending c.table c.key root) v

abbrev opening : Connection.Opening Unit Server := fun v => Server.connect v

/-- **An attempt on a connection opened for it** ends the append. -/
theorem once_replayed {root : String} {v : Server} {log : List (Table × String)}
    (h : LogAt root v.keys log) (hk : w.keys = v.keys) (hi : w.clients i = .sent c t)
    (ht : t ≠ .kept) :
    ∃ acts : List (Act ι),
      EndsLike w (w.run root acts) i c (Connection.once (attempt root c) () v) := by
  obtain ⟨acts, u, n, hrun, hkeys, hended⟩ := command_replayed h hk hi
  obtain ⟨lost, hends⟩ := settle_ends u i c ht n (attempt root c () v).1
  refine ⟨acts, ?_⟩
  rw [hrun, hends, Connection.once_eq]
  constructor
  case keys => exact hkeys
  case client =>
    rw [finish, put_self]
    cases Connection.breaks (attempt root c () v).1 <;> rfl
  case ended =>
    refine ⟨lost, n, ?_⟩
    show u.ended ++ _ = _
    rw [hended]

/-- **An attempt on a new connection** ends the append. -/
theorem fresh_replayed {root : String} {v : Server} {log : List (Table × String)} {again : Bool}
    (h : LogAt root v.keys log) (hk : w.keys = v.keys) (hi : w.clients i = .opening c again) :
    ∃ acts : List (Act ι),
      EndsLike w (w.run root acts) i c (Connection.fresh opening (attempt root c) v) := by
  have hconnect : (opening v).2.keys = v.keys := Shared.connect_keys v
  unfold Connection.fresh
  rcases ho : opening v with ⟨fault | u, v'⟩
  · refine ⟨[.connect i (some fault)], ?_⟩
    show EndsLike w (w.step root (.connect i (some fault))) i c _
    rw [step_connect_refused root hi]
    rw [ho] at hconnect
    exact ⟨hk.trans hconnect.symm, put_self _ _ _, again, none, rfl⟩
  · rw [ho] at hconnect
    have hstage : (w.step root (.connect i none)).clients i =
        .sent c (if again then .again else .first) := by
      rw [step_connect root hi, put_self]
    have hkeys : (w.step root (.connect i none)).keys = v'.keys := by
      rw [step_connect root hi]
      exact hk.trans hconnect.symm
    obtain ⟨acts, hends⟩ := once_replayed (hconnect.symm ▸ h) hkeys hstage
      (by cases again <;> simp)
    refine ⟨.connect i none :: acts, hends.after ?_⟩
    rw [step_connect root hi]
    rfl

/-- **An attempt on a kept connection**, and another one if that breaks. -/
theorem kept_replayed {root : String} {v : Server} {log : List (Table × String)}
    (h : LogAt root v.keys log) (hk : w.keys = v.keys) (hi : w.clients i = .sent c .kept) :
    ∃ acts : List (Act ι),
      EndsLike w (w.run root acts) i c (Connection.run opening (attempt root c) (some ()) v) := by
  obtain ⟨acts, u, n, hrun, hkeys, hended⟩ := command_replayed h hk hi
  obtain ⟨log', h'⟩ := Shared.command_log h c.table c.key
  unfold Connection.run
  rcases ho : Server.command (Shared.appending c.table c.key root) v with ⟨e | id, v'⟩
  · rw [ho] at hrun hkeys h'
    simp only [attempt, ho]
    rw [settle] at hrun
    by_cases hl : e.isLoss = true
    · rw [if_pos hl, broke, if_pos rfl] at hrun
      rw [if_pos hl]
      have hkeys' : (u.put i (.opening c true)).keys = v'.keys := hkeys
      obtain ⟨more, hends⟩ := fresh_replayed h' hkeys' (put_self u i (.opening c true))
      refine ⟨acts ++ more, ?_⟩
      rw [run_append, hrun]
      exact hends.after hended
    · rw [if_neg hl] at hrun
      rw [if_neg hl]
      refine ⟨acts, ?_⟩
      rw [hrun]
      exact ⟨hkeys, put_self _ _ _, _, n, congrArg (· ++ [_]) hended⟩
  · rw [ho] at hrun hkeys
    simp only [attempt, ho]
    refine ⟨acts, ?_⟩
    rw [hrun]
    exact ⟨hkeys, put_self _ _ _, _, n, congrArg (· ++ [_]) hended⟩

/-- **An append that nobody disturbs** ends like the call of the shared store. -/
theorem append_replayed {root : String} {q : Shared} {log : List (Table × String)}
    (hroot : q.root = root) (h : LogAt root q.server.keys log) (hk : w.keys = q.server.keys)
    (hi : w.clients i = .idle q.kept.isSome) (table : Table) (key : String) :
    ∃ (acts : List (Act ι)) (answer : Except StoreFault Nat),
      ((RecordStore.append table key : Access Shared Nat).on q).1 = answer.mapError .fault ∧
      (w.run root (.begin i table key :: acts)).keys =
        ((RecordStore.append table key : Access Shared Nat).on q).2.server.keys ∧
      (w.run root (.begin i table key :: acts)).clients i =
        .idle ((RecordStore.append table key : Access Shared Nat).on q).2.kept.isSome ∧
      ∃ lost n, (w.run root (.begin i table key :: acts)).ended =
        w.ended ++ [⟨⟨w.begun.length, i, table, key⟩, answer, lost, n⟩] := by
  subst hroot
  let c : Append ι := ⟨w.begun.length, i, table, key⟩
  have hbegin : w.step q.root (.begin i table key) = put { w with begun := w.begun ++ [c] } i
      (if q.kept.isSome then .sent c .kept else .opening c false) := by
    simp only [step, hi]
    rfl
  have hkeys : (w.step q.root (.begin i table key)).keys = q.server.keys := by
    rw [hbegin]
    exact hk
  have hended : (w.step q.root (.begin i table key)).ended = w.ended := by
    rw [hbegin]
    rfl
  have hstage : (w.step q.root (.begin i table key)).clients i =
      if q.kept.isSome then .sent c .kept else .opening c false := by
    rw [hbegin, put_self]
  have hwhole : ∃ acts : List (Act ι), EndsLike w (w.run q.root (.begin i table key :: acts)) i c
      (Connection.run opening (attempt q.root c) q.kept q.server) := by
    rcases hq : q.kept with _ | ⟨⟩
    · rw [hq] at hstage
      obtain ⟨acts, hends⟩ := fresh_replayed h hkeys hstage
      exact ⟨acts, hends.after hended⟩
    · rw [hq] at hstage
      obtain ⟨acts, hends⟩ := kept_replayed h hkeys hstage
      exact ⟨acts, hends.after hended⟩
  obtain ⟨acts, hends⟩ := hwhole
  exact ⟨acts, _, rfl, hends.keys, hends.client, hends.ended⟩

end Writers

end Firewall
