import Firewall.Proofs.Store.Refinement

/-!
The script by which a shared store appends to its log, command by command. Nothing is undone
when a command fails: what the commands before it have written stays. The entry is written first
and the counter last, and that is why a run that fails leaves no number without its entry.

Proved here:

* `Keyspace.appendScript_run`: a run of the script, when no command is made to fail, is
  `Keyspace.appendEntry`;
* `Keyspace.appendScript_failed`: a run that fails leaves the keys as they were;
* `LogAt.appendOnce`: what a run does to the log that the keys hold;
* `LogAt.head`, `LogAt.finds`: what readers of the log get, over any connection.
-/

namespace Firewall

namespace Keyspace

/-! ## Commands -/

/-- Commands one after the other, each of which leaves its mark at once. -/
abbrev Script (α : Type) := ExceptT StoreFault (StateM Keyspace) α

namespace Script

def reading {α : Type} (f : Keyspace → Except StoreFault α) : Script α := fun k => (f k, k)

/-- A command that writes, or fails and writes nothing. `refusal` is a fault that it is made to
fail with. -/
def writing (refusal : Option StoreFault) (f : Keyspace → Except StoreFault Keyspace) :
    Script Unit := fun k =>
  match refusal with
  | some fault => (.error fault, k)
  | none =>
    match f k with
    | .ok after => (.ok (), after)
    | .error e => (.error e, k)

theorem reading_run {α : Type} (f : Keyspace → Except StoreFault α) (k : Keyspace) :
    (reading f).run k = (f k, k) := rfl

theorem bind_run {α β : Type} (x : Script α) (f : α → Script β) (k : Keyspace) :
    (x >>= f).run k = match x.run k with
      | (.ok a, k) => (f a).run k
      | (.error e, k) => (.error e, k) := by
  simp only [bind, ExceptT.bind, ExceptT.mk, ExceptT.run, StateT.bind]
  rcases x k with ⟨e | a, k⟩ <;> rfl

end Script

/-- The script that appends: the counter is read, the entry behind it is written, and then the
counter. -/
def appendScript (counter entryRoot : String) (rows : List (String × Bytes))
    (refusal : Option StoreFault) : Script Int := do
  let held ← Script.reading (·.get counter)
  match integer? (held.getD (Bytes.ofText "0")) with
  | none => throw .badReply
  | some n =>
    Script.writing refusal (·.setFields (entryRoot ++ toString (n + 1)) rows)
    Script.writing none fun k => .ok (k.set counter (Bytes.ofText (toString (n + 1))))
    return n + 1

/-- What the script comes to, with the fault that its second command is made to fail with. -/
theorem appendScript_eq (counter entryRoot : String) (rows : List (String × Bytes))
    (refusal : Option StoreFault) (k : Keyspace) :
    (appendScript counter entryRoot rows refusal).run k =
      match k.get counter with
      | .error e => (.error e, k)
      | .ok held =>
        match integer? (held.getD (Bytes.ofText "0")) with
        | none => (.error .badReply, k)
        | some n =>
          match refusal with
          | some fault => (.error fault, k)
          | none =>
            match k.setFields (entryRoot ++ toString (n + 1)) rows with
            | .error e => (.error e, k)
            | .ok after =>
              (.ok (n + 1), after.set counter (Bytes.ofText (toString (n + 1)))) := by
  unfold appendScript
  rw [Script.bind_run, Script.reading_run]
  cases k.get counter with
  | error e => rfl
  | ok held =>
    simp only
    cases integer? (held.getD (Bytes.ofText "0")) with
    | none => rfl
    | some n =>
      simp only
      rw [Script.bind_run]
      cases refusal with
      | some fault => rfl
      | none =>
        simp only [Script.writing, ExceptT.run]
        cases k.setFields (entryRoot ++ toString (n + 1)) rows with
        | error e => rfl
        | ok after => rfl

/-- **A run in which no command is made to fail** is what the store does in one go. -/
theorem appendScript_run (counter entryRoot : String) (rows : List (String × Bytes))
    (k : Keyspace) :
    (appendScript counter entryRoot rows none).run k =
      match k.appendEntry counter entryRoot rows with
      | .ok (id, after) => (.ok id, after)
      | .error e => (.error e, k) := by
  rw [appendScript_eq]
  unfold appendEntry
  cases k.get counter with
  | error e => rfl
  | ok held =>
    simp only
    cases integer? (held.getD (Bytes.ofText "0")) with
    | none => rfl
    | some n =>
      simp only
      cases k.setFields (entryRoot ++ toString (n + 1)) rows <;> rfl

/-- **A run that fails leaves the keys as they were.** -/
theorem appendScript_failed {counter entryRoot : String} {rows : List (String × Bytes)}
    {refusal : Option StoreFault} {k : Keyspace} {e : StoreFault}
    (h : ((appendScript counter entryRoot rows refusal).run k).1 = .error e) :
    ((appendScript counter entryRoot rows refusal).run k).2 = k := by
  rw [appendScript_eq] at h ⊢
  cases hget : k.get counter with
  | error e => rfl
  | ok held =>
    rw [hget] at h
    simp only at h ⊢
    cases hn : integer? (held.getD (Bytes.ofText "0")) with
    | none => rfl
    | some n =>
      rw [hn] at h
      simp only at h ⊢
      cases refusal with
      | some fault => rfl
      | none =>
        simp only at h ⊢
        cases hset : k.setFields (entryRoot ++ toString (n + 1)) rows with
        | error e => rfl
        | ok after =>
          rw [hset] at h
          exact absurd h (by simp)

end Keyspace

/-! ## Runs on a log -/

/-- An element of a list with one more at its end is an old one, or that one. -/
theorem concat_cases {α : Type} {l : List α} {a b : α} {n : Nat} (h : (l ++ [a])[n]? = some b) :
    (n < l.length ∧ l[n]? = some b) ∨ (n = l.length ∧ b = a) := by
  rcases Nat.lt_trichotomy n l.length with hlt | rfl | hgt
  · rw [List.getElem?_append_left hlt] at h
    exact Or.inl ⟨hlt, h⟩
  · rw [List.getElem?_concat_length] at h
    exact Or.inr ⟨rfl, (Option.some.inj h).symm⟩
  · rw [List.getElem?_eq_none (by simp; omega)] at h
    exact absurd h (by simp)

/-- The keys hold a log: the counter stands at its length, every entry is there, and what lies
behind the last one is no hash. -/
structure LogAt (root : String) (k : Keyspace) (log : List (Table × String)) : Prop where
  counter : Keyspace.cellAt k root .counter =
    if log.isEmpty then none else some (.text (Bytes.ofText (toString log.length)))
  entries : ∀ n e, log[n]? = some e → Keyspace.cellAt k root (.entry (n + 1)) =
    Cell.ofFields ((entryTexts (.ok ⟨n + 1, e.1, e.2⟩)).map Bytes.ofText)
  vacant : ∀ id, log.length < id → ∀ fields,
    Keyspace.cellAt k root (.entry id) ≠ some (.hash fields)

def appendReply (id : Int) : Except StoreFault Nat :=
  if 0 ≤ id then .ok id.toNat else .error .badReply

/-- One run of the script for a record: the reply, and the keys that it leaves. -/
def appendOnce (root : String) (table : Table) (key : String) (refusal : Option StoreFault)
    (k : Keyspace) : Except StoreFault Nat × Keyspace :=
  let out := (Keyspace.appendScript (Shared.counterKey root) (Shared.entryRoot root)
    (Shared.entryRows table key) refusal).run k
  (out.1.bind appendReply, out.2)

namespace LogAt

variable {root : String} {k : Keyspace} {log : List (Table × String)}

theorem empty (root : String) : LogAt root Dict.empty [] where
  counter := Dict.get?_empty _
  entries n e he := absurd he (by simp)
  vacant id _ fields hf := by
    rw [Keyspace.cellAt, Dict.get?_empty] at hf
    exact absurd hf (by simp)

theorem get_counter (h : LogAt root k log) :
    k.get (Shared.counterKey root) = .ok
      (if log.isEmpty then none else some (Bytes.ofText (toString log.length))) := by
  have hc : k.get? (Shared.counterKey root) = _ := h.counter
  unfold Keyspace.get
  rw [hc]
  cases log.isEmpty <;> rfl

theorem read_counter (log : List (Table × String)) :
    Keyspace.integer? ((if log.isEmpty then none
      else some (Bytes.ofText (toString log.length))).getD (Bytes.ofText "0")) =
        some (log.length : Int) := by
  cases log with
  | nil => exact Keyspace.integer?_toString 0
  | cons e rest => exact Keyspace.integer?_toString ((e :: rest).length : Int)

theorem next_key (root : String) (log : List (Table × String)) :
    Shared.entryRoot root ++ toString ((log.length : Int) + 1) =
      (Slot.entry (log.length + 1)).key root := by
  rw [← Slot.key_entry]
  rfl

theorem extend (h : LogAt root k log) (table : Table) (key : String) {after : Keyspace}
    (hc : Keyspace.cellAt after root =
      Function.update
        (Function.update (Keyspace.cellAt k root) (.entry (log.length + 1))
          (Cell.ofFields (.ofList (Shared.entryRows table key))))
        .counter (some (.text (Bytes.ofText (toString (log.length + 1)))))) :
    LogAt root after (log ++ [(table, key)]) where
  counter := by
    rw [hc, Function.update_self]
    simp
  entries n e he := by
    rw [hc, Function.update_of_ne (by simp), Function.update_apply]
    rcases concat_cases he with ⟨hn, he⟩ | ⟨rfl, rfl⟩
    · rw [if_neg fun hs => absurd (Slot.entry.inj hs) (by omega)]
      exact h.entries n e he
    · rw [if_pos rfl]
      rfl
  vacant id hid fields := by
    rw [List.length_append, List.length_singleton] at hid
    rw [hc, Function.update_of_ne (by simp),
      Function.update_of_ne fun hs => absurd (Slot.entry.inj hs) (by omega)]
    exact h.vacant id (by omega) fields

/-- What a run comes to on a log, with the fault that it is made to fail with. -/
theorem appendOnce_eq (h : LogAt root k log) (table : Table) (key : String)
    (refusal : Option StoreFault) :
    Firewall.appendOnce root table key refusal k =
      match refusal with
      | some fault => (.error fault, k)
      | none =>
        match k.setFields ((Slot.entry (log.length + 1)).key root) (Shared.entryRows table key) with
        | .error e => (.error e, k)
        | .ok after => (.ok (log.length + 1), after.set (Shared.counterKey root)
            (Bytes.ofText (toString (log.length + 1)))) := by
  unfold Firewall.appendOnce
  rw [Keyspace.appendScript_eq, h.get_counter]
  simp only [read_counter, next_key]
  cases refusal with
  | some fault => rfl
  | none =>
    simp only
    cases k.setFields ((Slot.entry (log.length + 1)).key root) (Shared.entryRows table key) with
    | error e => rfl
    | ok after =>
      have hreply : appendReply ((log.length : Int) + 1) = .ok (log.length + 1) := by
        unfold appendReply
        rw [if_pos (by omega)]
        rfl
      show (appendReply ((log.length : Int) + 1), _) = _
      rw [hreply]
      rfl

/-- **A run for which there is room** adds its record. -/
theorem appendOnce_free (h : LogAt root k log) (table : Table) (key : String)
    (hfree : Keyspace.cellAt k root (.entry (log.length + 1)) = none) :
    (Firewall.appendOnce root table key none k).1 = .ok (log.length + 1) ∧
      LogAt root (Firewall.appendOnce root table key none k).2 (log ++ [(table, key)]) := by
  have hcell : Keyspace.cellAt k root (.entry (log.length + 1)) = Cell.ofFields .empty := hfree
  obtain ⟨after, ha, hc⟩ := Keyspace.setFields_cellAt hcell
    (show (Shared.entryRows table key).isEmpty = false from rfl)
  rw [h.appendOnce_eq]
  simp only [ha, true_and]
  refine h.extend table key ?_
  rw [Keyspace.set, show Shared.counterKey root = Slot.counter.key root from rfl,
    Keyspace.cellAt_insert, hc]
  rfl

/-- A text at the key of the next entry is in the way of it. -/
theorem setFields_text {value : Bytes} {p : Slot} (rows : List (String × Bytes))
    (htext : Keyspace.cellAt k root p = some (.text value)) :
    k.setFields (p.key root) rows = .error .wrongType := by
  unfold Keyspace.setFields Keyspace.fields
  rw [show k.get? (p.key root) = some (.text value) from htext]

/-- **A run of the script** adds its record to the log, or leaves the keys as they were. -/
theorem appendOnce (h : LogAt root k log) (table : Table) (key : String)
    (refusal : Option StoreFault) :
    ((appendOnce root table key refusal k).1 = .ok (log.length + 1) ∧
      LogAt root (appendOnce root table key refusal k).2 (log ++ [(table, key)])) ∨
    ((∃ e, (appendOnce root table key refusal k).1 = .error e) ∧
      (appendOnce root table key refusal k).2 = k) := by
  cases refusal with
  | some fault =>
    rw [h.appendOnce_eq]
    exact Or.inr ⟨⟨fault, rfl⟩, rfl⟩
  | none =>
    cases hcell : Keyspace.cellAt k root (.entry (log.length + 1)) with
    | none => exact Or.inl (h.appendOnce_free table key hcell)
    | some cell =>
      cases cell with
      | hash fields => exact absurd hcell (h.vacant _ (by omega) fields)
      | text value =>
        rw [h.appendOnce_eq]
        simp only [setFields_text _ hcell]
        exact Or.inr ⟨⟨.wrongType, rfl⟩, trivial⟩

/-- **A run that fails** leaves the keys as they were. -/
theorem appendOnce_failed (h : LogAt root k log) {table : Table} {key : String}
    {refusal : Option StoreFault} {e : StoreFault}
    (he : (Firewall.appendOnce root table key refusal k).1 = .error e) :
    (Firewall.appendOnce root table key refusal k).2 = k := by
  rcases h.appendOnce table key refusal with ⟨hok, -⟩ | ⟨-, hkeys⟩
  · exact absurd (he.symm.trans hok) (by simp)
  · exact hkeys

end LogAt

/-! ## Readers of a log -/

namespace Connection

variable {γ σ α : Type} {opening : Opening γ σ} {op : Operation γ σ α} {P : σ → Prop} {a : α}

/-- An operation that answers `a` or fails, wherever `P` holds, and keeps `P`. -/
def Answers (op : Operation γ σ α) (P : σ → Prop) (a : α) : Prop :=
  ∀ c s, P s → P (op c s).2 ∧ ((op c s).1 = .ok a ∨ ∃ e, (op c s).1 = .error e)

theorem once_result (op : Operation γ σ α) (c : γ) (s : σ) :
    (once op c s).result = (op c s).1 := by
  unfold once
  rcases op c s with ⟨e | a, s⟩ <;> rfl

theorem fresh_answers (hopen : ∀ s, P s → P (opening s).2) (hop : Answers op P a) {s : σ}
    (hs : P s) :
    (fresh opening op s).result = .ok a ∨ ∃ e, (fresh opening op s).result = .error e := by
  unfold fresh
  have ho := hopen s hs
  rcases hc : opening s with ⟨e | c, s'⟩
  · exact Or.inr ⟨e, rfl⟩
  · rw [hc] at ho
    simp only [once_result]
    exact (hop c s' ho).2

/-- **A call of such an operation** gives the answer or fails, whichever connection it runs on. -/
theorem run_answers (hopen : ∀ s, P s → P (opening s).2) (hop : Answers op P a)
    (kept : Option γ) {s : σ} (hs : P s) :
    (run opening op kept s).result = .ok a ∨
      ∃ e, (run opening op kept s).result = .error e := by
  unfold run
  cases kept with
  | none => exact fresh_answers hopen hop hs
  | some c =>
    obtain ⟨hkept, hr⟩ := hop c s hs
    rcases hc : op c s with ⟨e | b, s'⟩
    · rw [hc] at hkept
      simp only [hc]
      by_cases hl : e.isLoss = true
      · rw [if_pos hl]
        exact fresh_answers hopen hop hkept
      · rw [if_neg hl]
        exact Or.inr ⟨e, rfl⟩
    · rw [hc] at hr
      simp only [hc]
      exact hr

end Connection

namespace Shared

/-- What a call gets from given keys over any connection: an answer, or the fault of a
connection that does not work. -/
def Gets {α : Type} (root : String) (k : Keyspace) (call : Access Shared α)
    (answer : Except StoreError α) : Prop :=
  ∀ q : Shared, q.root = root → q.server.keys = k →
    (call.on q).1 = answer ∨
      (q.server.link ≠ Link.sound ∧ ∃ f, (call.on q).1 = .error (.fault f))

theorem connect_keys (v : Server) : (Server.connect v).2.keys = v.keys := by
  obtain ⟨keys, openings, lasting, mishaps⟩ := v
  cases openings with
  | nil => cases lasting <;> rfl
  | cons o os => cases o <;> rfl

/-- A command that only reads keeps the keys, and gives what it reads unless the connection
breaks. -/
theorem command_reads {α : Type} {f : Keyspace → Except StoreFault α} {k : Keyspace} {a : α}
    (hf : f k = .ok a) :
    Connection.Answers
      (fun (_ : Unit) v => Server.command (fun k => (f k).map fun a => (a, k)) v)
      (fun v => v.keys = k) a := by
  rintro - v rfl
  obtain ⟨keys, openings, lasting, mishaps⟩ := v
  simp only at hf ⊢
  unfold Server.command
  cases mishaps with
  | nil => simp [hf, Except.map]
  | cons m ms => cases m <;> simp [hf, Except.map]

/-- **A reading command over any connection** gives what it reads, or a fault of the connection. -/
theorem ask_gets {α : Type} {root : String} {k : Keyspace}
    {f : String → Keyspace → Except StoreFault α} {a : α} (hf : f root k = .ok a) :
    Gets root k (ask f) (.ok a) := by
  intro q hroot hkeys
  subst hroot hkeys
  by_cases hl : q.server.link = Link.sound
  · refine Or.inl ?_
    unfold ask
    rw [call_on hl (a := a) (k := q.server.keys) (by rw [hf]; rfl)]
  · have hopen : ∀ v : Server, v.keys = q.server.keys →
        (Server.connect v).2.keys = q.server.keys := fun v hv => (connect_keys v).trans hv
    rcases Connection.run_answers hopen (command_reads hf) q.kept rfl with hr | ⟨e, hr⟩
    · refine Or.inl ?_
      show Except.mapError StoreError.fault _ = _
      rw [hr]
      rfl
    · refine Or.inr ⟨hl, e, ?_⟩
      show Except.mapError StoreError.fault _ = _
      rw [hr]
      rfl

theorem Gets.bind {α β : Type} {root : String} {k : Keyspace} {m : Access Shared α}
    {g : α → Access Shared β} {a : α} {answer : Except StoreError β}
    (hm : Gets root k m (.ok a)) (hg : ∀ q, ((g a).on q).1 = answer) :
    Gets root k (m >>= g) answer := by
  intro q hroot hkeys
  have hbind : ((m >>= g).on q).1 = match m.on q with
      | (.ok a, q) => ((g a).on q).1
      | (.error e, _) => .error e := by
    unfold Access.on
    simp only [Bind.bind, ExceptT.bind, ExceptT.mk, ExceptT.run, StateT.bind]
    rcases m q with ⟨e | a, q⟩ <;> rfl
  rw [hbind]
  rcases hm q hroot hkeys with hr | ⟨hl, f, hr⟩
  · refine Or.inl ?_
    rcases he : m.on q with ⟨r, q'⟩
    rw [he] at hr
    cases hr
    exact hg q'
  · refine Or.inr ⟨hl, f, ?_⟩
    rcases he : m.on q with ⟨r, q'⟩
    rw [he] at hr
    cases hr
    rfl

/-- An answer that is one is never a missing record. -/
theorem Gets.not_absent {α : Type} {root : String} {k : Keyspace} {m : Access Shared α} {a : α}
    (h : Gets root k m (.ok a)) {q : Shared} (hroot : q.root = root) (hkeys : q.server.keys = k)
    (missing : Absent) : (m.on q).1 ≠ .error (.absent missing) := by
  rcases h q hroot hkeys with hr | ⟨-, f, hr⟩
  · rw [hr]
    exact fun he => absurd he (by simp)
  · rw [hr]
    exact fun he => absurd he (by simp)

end Shared

namespace LogAt

variable {root : String} {k : Keyspace} {log : List (Table × String)}

/-- **The head of the log** that a reader gets. -/
theorem head (h : LogAt root k log) :
    Shared.Gets root k RecordStore.latest
      (if log.isEmpty then .error (.absent .log) else .ok log.length) := by
  cases hl : log.isEmpty with
  | true =>
    refine Shared.Gets.bind (a := none) (Shared.ask_gets ?_) fun q => ?_
    · rw [h.get_counter, hl]
      rfl
    · rfl
  | false =>
    have hp : 0 < log.length := by
      rw [List.isEmpty_eq_false_iff] at hl
      exact List.length_pos_iff.mpr hl
    refine Shared.Gets.bind (a := some (log.length : Int)) (Shared.ask_gets ?_) fun q => ?_
    · rw [h.get_counter, hl]
      show (Shared.integerOf (Bytes.ofText (toString log.length))).map some = _
      rw [← Text.toString_natCast, Shared.integerOf_toString]
      rfl
    · simp only
      rw [if_neg (by omega), if_neg (by omega)]
      rfl

/-- **The entries of the log** that a reader finds. -/
theorem finds (h : LogAt root k log) {n : Nat} {e : Table × String} (he : log[n]? = some e) :
    Shared.Gets root k (RecordStore.entry (n + 1)) (.ok ⟨n + 1, e.1, e.2⟩) := by
  refine Shared.Gets.bind (Shared.ask_gets (Shared.texts_of_cell (h.entries n e he))) fun q => ?_
  have hrows : (entryTexts (.ok ⟨n + 1, e.1, e.2⟩)).rows =
      [("table", e.1.name), ("key", e.2)] := rfl
  simp only [hrows, Shared.lookup_table, Shared.lookup_key, Table.ofName_name]
  rfl

end LogAt

end Firewall
