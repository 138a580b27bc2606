import Firewall.Proofs.Store.Writers

/-!
The log that the runs of the script have written, in the order of the runs.

Proved here:

* `Logged.ran`: a run of the script keeps the log together;
* `Logged.placed`, `Logged.increasing`: the number that a run gave is the place of its entry, and
  later runs give greater numbers;
* `Logged.head_le`, `Logged.reads`: a reader is given no head beyond the log, and an entry is read
  back at any later time;
* `step_log`: a step runs the script once, or leaves the log alone.
-/

namespace Firewall

namespace Writers

variable {ι : Type}

/-! ## The log -/

/-- The appends whose runs have succeeded, in the order of the runs. -/
def logOf (runs : List (Run ι)) : List (Append ι) :=
  (runs.filter fun r => r.answer.isOk).map (·.append)

/-- The log that the runs have written: the append behind each entry. -/
def log (w : Writers ι) : List (Append ι) := logOf w.runs

@[simp] theorem logOf_append (runs more : List (Run ι)) :
    logOf (runs ++ more) = logOf runs ++ logOf more := by
  simp [logOf]

theorem logOf_ok (c : Append ι) (id : Nat) : logOf [⟨c, .ok id⟩] = [c] := rfl

theorem logOf_error (c : Append ι) (e : StoreFault) : logOf [⟨c, .error e⟩] = [] := rfl

theorem logOf_mono {runs more : List (Run ι)} (h : runs <+: more) : logOf runs <+: logOf more := by
  obtain ⟨rest, rfl⟩ := h
  rw [logOf_append]
  exact List.prefix_append _ _

/-- The keys are the same, and so are the runs that have led to them. -/
def SameLog (v w : Writers ι) : Prop := v.keys = w.keys ∧ v.runs = w.runs

/-- The keys hold the log, and each number that a run gave is the place of its entry. -/
structure Logged (root : String) (w : Writers ι) : Prop where
  holds : LogAt root w.keys (w.log.map Append.record)
  ids : ∀ n c id, w.runs[n]? = some ⟨c, .ok id⟩ → id = (logOf (w.runs.take (n + 1))).length

namespace Logged

variable {root : String} {w : Writers ι}

/-- **A run of the script** keeps the log together. -/
theorem ran (h : Logged root w) (c : Append ι) (refusal : Option StoreFault) :
    Logged root (w.ran root c refusal) := by
  -- the runs before keep their places, so only the number of the last one is to be checked
  have hlast : ∀ (r : Run ι), (∀ id, r.answer = .ok id → id = w.log.length + 1) →
      ∀ n d id, (w.runs ++ [r])[n]? = some ⟨d, .ok id⟩ →
        id = (logOf ((w.runs ++ [r]).take (n + 1))).length := by
    intro r hr n d id hn
    rcases concat_cases hn with ⟨hlt, hn⟩ | ⟨rfl, rfl⟩
    · rw [List.take_append_of_le_length hlt]
      exact h.ids n d id hn
    · rw [List.take_of_length_le (by simp), logOf_append, logOf_ok, List.length_append]
      exact hr id rfl
  have hlen : (w.log.map Append.record).length = w.log.length := List.length_map _
  rcases h.holds.appendOnce c.table c.key refusal with ⟨ha, hk⟩ | ⟨⟨e, ha⟩, hk⟩
  · constructor
    · show LogAt root (appendOnce root c.table c.key refusal w.keys).2
        ((logOf (w.runs ++ [⟨c, (appendOnce root c.table c.key refusal w.keys).1⟩])).map _)
      rw [ha, logOf_append, logOf_ok, List.map_append]
      exact hk
    · refine hlast _ fun id hid => ?_
      rw [ha, hlen] at hid
      exact (Except.ok.inj hid).symm
  · constructor
    · show LogAt root (appendOnce root c.table c.key refusal w.keys).2
        ((logOf (w.runs ++ [⟨c, (appendOnce root c.table c.key refusal w.keys).1⟩])).map _)
      rw [ha, hk, logOf_append, logOf_error, List.append_nil]
      exact h.holds
    · refine hlast _ fun id hid => ?_
      rw [ha] at hid
      exact absurd hid (by simp)

/-- The number that a run gave is the place of its entry. -/
theorem placed (h : Logged root w) {n id : Nat} {c : Append ι}
    (hn : w.runs[n]? = some ⟨c, .ok id⟩) :
    id = (logOf (w.runs.take n)).length + 1 ∧ w.log[id - 1]? = some c := by
  obtain ⟨hlt, hget⟩ := List.getElem?_eq_some_iff.mp hn
  have htake : w.runs.take (n + 1) = w.runs.take n ++ [⟨c, .ok id⟩] := by
    rw [List.take_add_one, hn]
    rfl
  have hid : id = (logOf (w.runs.take n)).length + 1 := by
    rw [h.ids n c id hn, htake, logOf_append, logOf_ok, List.length_append]
    rfl
  have hsplit : w.log = logOf (w.runs.take n) ++ c :: logOf (w.runs.drop (n + 1)) := by
    have hwhole := congrArg logOf (List.take_append_drop (n + 1) w.runs)
    rw [logOf_append, htake, logOf_append, logOf_ok, List.append_assoc] at hwhole
    exact hwhole.symm
  refine ⟨hid, ?_⟩
  rw [hsplit, hid, Nat.add_sub_cancel, List.getElem?_append_right (Nat.le_refl _), Nat.sub_self]
  rfl

/-- **Later runs give greater numbers.** -/
theorem increasing (h : Logged root w) {n m id jd : Nat} {c d : Append ι}
    (hn : w.runs[n]? = some ⟨c, .ok id⟩) (hm : w.runs[m]? = some ⟨d, .ok jd⟩) (hlt : n < m) :
    id < jd := by
  rw [h.ids n c id hn, (h.placed hm).1]
  have hle : w.runs.take (n + 1) <+: w.runs.take m :=
    List.take_prefix_take_left (by omega)
  exact Nat.lt_succ_of_le (logOf_mono hle).length_le

theorem same_run (h : Logged root w) {n m id : Nat} {c d : Append ι}
    (hn : w.runs[n]? = some ⟨c, .ok id⟩) (hm : w.runs[m]? = some ⟨d, .ok id⟩) : n = m := by
  rcases Nat.lt_trichotomy n m with hlt | heq | hgt
  · exact absurd (h.increasing hn hm hlt) (Nat.lt_irrefl id)
  · exact heq
  · exact absurd (h.increasing hm hn hgt) (Nat.lt_irrefl id)

theorem same {v : Writers ι} (h : Logged root w) (hs : SameLog v w) : Logged root v where
  holds := by
    rw [hs.1, log, hs.2]
    exact h.holds
  ids := by
    rw [hs.2]
    exact h.ids

theorem start {keys : Keyspace} (h : LogAt root keys [])
    (kept : ι → Bool) : Logged root (Writers.start keys kept) where
  holds := h
  ids n c id hn := absurd hn (by simp [Writers.start])

/-- An entry of the log is read back from the keys at any later time. -/
theorem reads (h : Logged root w) {v : Writers ι} (hruns : v.runs <+: w.runs) {id : Nat}
    (hid : 0 < id) {c : Append ι} (hc : v.log[id - 1]? = some c) :
    Shared.Gets root w.keys (RecordStore.entry id) (.ok ⟨id, c.table, c.key⟩) := by
  obtain ⟨rest, hrest⟩ := logOf_mono hruns
  obtain ⟨hlt, -⟩ := List.getElem?_eq_some_iff.mp hc
  have hcw : w.log[id - 1]? = some c := by
    rw [log, ← hrest]
    exact (List.getElem?_append_left hlt).trans hc
  have hrecord : (w.log.map Append.record)[id - 1]? = some c.record := by
    rw [List.getElem?_map, hcw]
    rfl
  have hfinds := h.holds.finds hrecord
  rwa [Nat.sub_add_cancel hid] at hfinds

theorem head (h : Logged root w) : Shared.Gets root w.keys RecordStore.latest
    (if w.log.isEmpty then .error (.absent .log) else .ok w.log.length) := by
  have hh := h.holds.head
  rwa [List.isEmpty_map, List.length_map] at hh

/-- A reader is given no head beyond the log. -/
theorem head_le (h : Logged root w) {q : Shared} (hroot : q.root = root)
    (hkeys : q.server.keys = w.keys) {head : Nat} (hok : (RecordStore.latest.on q).1 = .ok head) :
    head ≤ w.log.length := by
  rcases h.head q hroot hkeys with hr | ⟨-, f, hr⟩
  · rw [hok] at hr
    cases hlog : w.log.isEmpty with
    | true => simp [hlog] at hr
    | false =>
      rw [hlog] at hr
      exact Nat.le_of_eq (Except.ok.inj hr)
  · exact absurd (hok.symm.trans hr) (by simp)

end Logged

/-! ## Steps -/

section Steps

variable [DecidableEq ι]

theorem broke_log (w : Writers ι) (i : ι) (c : Append ι) (t : Attempt) (n : Option Nat)
    (fault : StoreFault) : SameLog (w.broke i c t n fault) w := by
  unfold broke
  split <;> exact ⟨rfl, rfl⟩

theorem settle_log (w : Writers ι) (i : ι) (c : Append ι) (t : Attempt) (n : Option Nat)
    (answer : Except StoreFault Nat) : SameLog (w.settle i c t n answer) w := by
  cases answer with
  | ok id => exact ⟨rfl, rfl⟩
  | error e =>
    rw [settle]
    split
    · exact broke_log w i c t n e
    · exact ⟨rfl, rfl⟩

/-- A step runs the script once, or leaves the log alone. -/
theorem step_log (root : String) (w : Writers ι) (act : Act ι) :
    SameLog (w.step root act) w ∨
      ∃ c refusal, SameLog (w.step root act) (w.ran root c refusal) := by
  cases act with
  | begin i table key =>
    refine Or.inl ?_
    cases hi : w.clients i <;> simp only [step, hi] <;> exact ⟨rfl, rfl⟩
  | connect i refusal =>
    refine Or.inl ?_
    cases hi : w.clients i <;> cases refusal <;> simp only [step, hi] <;> exact ⟨rfl, rfl⟩
  | run i refusal =>
    cases hi : w.clients i with
    | sent c t =>
      simp only [step, hi]
      exact Or.inr ⟨c, refusal, rfl, rfl⟩
    | _ =>
      simp only [step, hi]
      exact Or.inl ⟨rfl, rfl⟩
  | reply i =>
    refine Or.inl ?_
    cases hi : w.clients i with
    | ran c t n answer =>
      simp only [step, hi]
      exact settle_log w i c t (some n) answer
    | _ =>
      simp only [step, hi]
      exact ⟨rfl, rfl⟩
  | lose i arrives =>
    refine Or.inl ?_
    cases hi : w.clients i with
    | sent c t =>
      simp only [step, hi]
      exact broke_log _ i c t none _
    | ran c t n answer =>
      simp only [step, hi]
      exact broke_log _ i c t none _
    | _ =>
      simp only [step, hi]
      exact ⟨rfl, rfl⟩
  | late n refusal =>
    cases hn : w.strays[n]? with
    | none =>
      simp only [step, hn]
      exact Or.inl ⟨rfl, rfl⟩
    | some c =>
      simp only [step, hn]
      exact Or.inr ⟨c, refusal, rfl, rfl⟩

theorem step_runs (root : String) (w : Writers ι) (act : Act ι) :
    w.runs <+: (w.step root act).runs := by
  rcases step_log root w act with ⟨-, hr⟩ | ⟨c, refusal, -, hr⟩
  · exact hr ▸ List.prefix_refl _
  · exact hr ▸ List.prefix_append _ _

theorem run_runs (root : String) (acts : List (Act ι)) (w : Writers ι) :
    w.runs <+: (w.run root acts).runs := by
  induction acts generalizing w with
  | nil => exact List.prefix_refl _
  | cons act acts ih => exact (step_runs root w act).trans (ih (w.step root act))

theorem Logged.step {root : String} {w : Writers ι} (h : Logged root w) (act : Act ι) :
    Logged root (w.step root act) := by
  rcases step_log root w act with hs | ⟨c, refusal, hs⟩
  · exact h.same hs
  · exact (h.ran c refusal).same hs

end Steps

end Writers

end Firewall
