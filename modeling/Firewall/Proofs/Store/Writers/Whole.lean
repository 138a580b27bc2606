import Firewall.Proofs.Store.Writers.Accounts

/-!
The log of a shared store has no holes, whatever fails and in whatever order its clients append:
a run that fails leaves the counter alone, a run that succeeds has written its entry, and nothing
is ever taken away. So a reader who has read the head finds every entry up to it.

Proved here:

* `run_sound`: the log and the accounts after any steps;
* `Accounted.count_ended`, `Accounted.ended_inj`: what the callers are told;
* `appends_leave_no_hole`: every number up to the counter has its entry, from then on, and what
  an append has added agrees with what its caller was told.
-/

namespace Firewall

namespace Writers

variable {ι : Type} [DecidableEq ι]

/-- **The log and the accounts after any steps.** -/
theorem run_sound {root : String} (acts : List (Act ι)) {w : Writers ι} (hl : Logged root w)
    (ha : Accounted w) : Logged root (w.run root acts) ∧ Accounted (w.run root acts) := by
  induction acts generalizing w with
  | nil => exact ⟨hl, ha⟩
  | cons act acts ih => exact ih (hl.step act) (ha.step root act)

/-! ## No holes -/

/-- What is promised of the clients at one time, and of the keys at a later one. -/
structure Whole (root : String) (w : Writers ι) (later : Keyspace) : Prop where
  /-- The head that a reader gets is the length of the log. -/
  head : Shared.Gets root w.keys RecordStore.latest
    (if w.log.isEmpty then .error (.absent .log) else .ok w.log.length)
  /-- Every number up to it has the entry of an append, from then on. -/
  entries : ∀ id, 0 < id → id ≤ w.log.length → ∃ c ∈ w.begun, w.log[id - 1]? = some c ∧
    Shared.Gets root later (RecordStore.entry id) (.ok ⟨id, c.table, c.key⟩)
  /-- A poll that has read the head finds all entries up to it. -/
  polled : ∀ q r : Shared, q.root = root → q.server.keys = w.keys → r.root = root →
    r.server.keys = later → ∀ head, (RecordStore.latest.on q).1 = .ok head →
      ∀ id, 0 < id → id ≤ head → ∀ a, ((RecordStore.entry id).on r).1 ≠ .error (.absent a)
  /-- A run that fails leaves the keys as they were. -/
  failed : ∀ c refusal e, (appendOnce root c.table c.key refusal w.keys).1 = .error e →
    (w.ran root c refusal).keys = w.keys
  /-- One that is not made to fail, and for whose entry there is room, adds it. -/
  written : ∀ c : Append ι, Keyspace.cellAt w.keys root (.entry (w.log.length + 1)) = none →
    (appendOnce root c.table c.key none w.keys).1 = .ok (w.log.length + 1)
  /-- A number that a caller was given is the one of a run, and is read back as the caller's own
  entry from then on. -/
  returned : ∀ e ∈ w.ended, ∀ id, e.answer = .ok id →
    (∃ n, e.run = some n ∧ w.runs[n]? = some ⟨e.append, .ok id⟩) ∧
      Shared.Gets root later (RecordStore.entry id) (.ok ⟨id, e.append.table, e.append.key⟩)
  /-- Such numbers grow with the runs they are from. -/
  increasing : ∀ e ∈ w.ended, ∀ f ∈ w.ended, ∀ n m id jd, e.answer = .ok id → f.answer = .ok jd →
    e.run = some n → f.run = some m → n < m → id < jd
  /-- No two callers are given the same one. -/
  distinct : ∀ e ∈ w.ended, ∀ f ∈ w.ended, ∀ id, e.answer = .ok id → f.answer = .ok id → e = f
  /-- An append adds two entries at most. -/
  most : ∀ c, w.log.count c ≤ 2
  /-- An append on which no connection broke has added what its caller was told. -/
  exactly : ∀ e ∈ w.ended, e.lost = false → w.log.count e.append = added e.answer

section Parts

variable {root : String} {w : Writers ι}

/-- The append behind an entry of the log has begun. -/
theorem Accounted.begun_of_log (h : Accounted w) {c : Append ι} (hc : c ∈ w.log) : c ∈ w.begun :=
  h.known c (Nat.lt_of_lt_of_le (List.count_pos_iff.mpr hc) (Nat.le_add_right _ _))

/-- **An append on which no connection broke** has added what its caller was told. -/
theorem Accounted.count_ended (h : Accounted w) (hl : Logged root w) {e : Ended ι}
    (he : e ∈ w.ended) (hlost : e.lost = false) : w.log.count e.append = added e.answer := by
  obtain ⟨-, hle, hback⟩ := h.done e he
  have hcount : w.log.count e.append ≤ added e.answer := by
    have hallows : e.allows = added e.answer := by rw [Ended.allows, hlost]; rfl
    exact Nat.le_trans (Nat.le_add_right _ _) (hallows ▸ hle)
  cases hanswer : e.answer with
  | error fault =>
    rw [hanswer] at hcount
    exact Nat.le_zero.mp hcount
  | ok id =>
    rw [hanswer] at hcount
    obtain ⟨n, -, hn⟩ := hback id hanswer
    have hmem := List.mem_of_getElem? (hl.placed hn).2
    exact Nat.le_antisymm hcount (List.count_pos_iff.mpr hmem)

/-- **No two callers are given the same number.** -/
theorem Accounted.ended_inj (h : Accounted w) (hl : Logged root w) {e f : Ended ι}
    (he : e ∈ w.ended) (hf : f ∈ w.ended) {id : Nat} (hid : e.answer = .ok id)
    (hjd : f.answer = .ok id) : e = f := by
  obtain ⟨n, -, hrun⟩ := (h.done e he).2.2 id hid
  obtain ⟨m, -, hrun'⟩ := (h.done f hf).2.2 id hjd
  cases hl.same_run hrun hrun'
  have happend : e.append = f.append :=
    congrArg Run.append (Option.some.inj (hrun.symm.trans hrun'))
  exact List.inj_on_of_nodup_map h.once he hf happend

end Parts

/-- **The log has no holes**, whatever fails and whatever the order of the steps. -/
theorem appends_leave_no_hole {root : String} {keys : Keyspace} (h : LogAt root keys [])
    (kept : ι → Bool) (before after : List (Act ι)) :
    Whole root ((start keys kept).run root before)
      (((start keys kept).run root before).run root after).keys := by
  obtain ⟨hw, ha⟩ := run_sound before (.start h kept) (.start keys kept)
  generalize (start keys kept).run root before = w at hw ha ⊢
  obtain ⟨hv, -⟩ := run_sound after hw ha
  have hruns := run_runs root after w
  generalize w.run root after = v at hv hruns ⊢
  have hentries : ∀ id, 0 < id → id ≤ w.log.length → ∃ c ∈ w.begun, w.log[id - 1]? = some c ∧
      Shared.Gets root v.keys (RecordStore.entry id) (.ok ⟨id, c.table, c.key⟩) := by
    intro id hid hle
    have hc := List.getElem?_eq_getElem (l := w.log) (i := id - 1) (by omega)
    exact ⟨_, ha.begun_of_log (List.getElem_mem _), hc, hv.reads hruns hid hc⟩
  constructor
  case head => exact hw.head
  case entries => exact hentries
  case polled =>
    intro q r hq hqk hr hrk head hok id hid hle a
    obtain ⟨c, -, -, hgets⟩ := hentries id hid (Nat.le_trans hle (hw.head_le hq hqk hok))
    exact hgets.not_absent hr hrk a
  case failed => exact fun c refusal e he => hw.holds.appendOnce_failed he
  case written =>
    intro c hfree
    have hlen : (w.log.map Append.record).length = w.log.length := List.length_map _
    rw [← hlen] at hfree ⊢
    exact (hw.holds.appendOnce_free c.table c.key hfree).1
  case returned =>
    intro e he id hid
    obtain ⟨n, hrun, hn⟩ := (ha.done e he).2.2 id hid
    obtain ⟨hplace, hc⟩ := hw.placed hn
    exact ⟨⟨n, hrun, hn⟩, hv.reads hruns (by omega) hc⟩
  case increasing =>
    intro e he f hf n m id jd hid hjd hn hm hlt
    obtain ⟨n', hn', hrun⟩ := (ha.done e he).2.2 id hid
    obtain ⟨m', hm', hrun'⟩ := (ha.done f hf).2.2 jd hjd
    cases hn.symm.trans hn'
    cases hm.symm.trans hm'
    exact hw.increasing hrun hrun' hlt
  case distinct => exact fun e he f hf id hid hjd => ha.ended_inj hw he hf hid hjd
  case most => exact fun c => Nat.le_trans (Nat.le_add_right _ _) (ha.most c)
  case exactly => exact fun e he hlost => ha.count_ended hw he hlost

/-- Two clients, of which one loses the reply to its first attempt and tries again. -/
def twice : List (Act Bool) :=
  [.begin false .config "mode", .begin true .geoip "DE", .run false none, .run true none,
    .lose false false, .reply true, .connect false none, .run false none, .reply false]

/-- The first entry is the one whose reply was lost, and the callers are given the second and the
third. -/
theorem appends_leave_no_hole_twice :
    LogAt "waf:" Dict.empty [] ∧
    ((start Dict.empty fun _ => true).run "waf:" twice).ended.map (·.answer) = [.ok 2, .ok 3] ∧
    Whole "waf:" ((start Dict.empty fun _ => true).run "waf:" twice)
      (((start Dict.empty fun _ => true).run "waf:" twice).run "waf:"
        [.begin true .config "mode", .run true (some .wrongType), .reply true]).keys := by
  have hempty : LogAt "waf:" Dict.empty [] := .empty "waf:"
  exact ⟨hempty, by decide +kernel, appends_leave_no_hole hempty _ _ _⟩

end Writers

end Firewall
