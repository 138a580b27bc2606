import Firewall.Proofs.Store.Writers.Log
import Mathlib.Data.List.Perm.Basic

/-!
What each append has added to the log, and what it may still add through scripts that its client
has given up. Every loss of a connection leaves one script behind at most, and a client sends the
script again only once.

Proved here:

* `Accounted.put`, `Accounted.finish`, `Accounted.begin`, `Accounted.drift`: what a client may do
  without spending more than its append is allowed;
* `Accounted.step`: no step spends more.
-/

namespace Firewall

namespace Writers

variable {ι : Type}

/-! ## What an append has added -/

/-- The entries that an answer speaks of. -/
def added : Except StoreFault Nat → Nat
  | .ok _ => 1
  | .error _ => 0

/-- How many entries the append that a client is in the middle of may have added, or may still
add through scripts that its client has given up. -/
def Stage.allows : Stage ι → Nat
  | idle _ => 0
  | opening _ again => again.toNat
  | sent _ t => t.losses
  | ran _ t _ answer => t.losses + added answer

/-- How many entries an append that has ended may have added, or may still add. -/
def Ended.allows (e : Ended ι) : Nat := if e.lost then 2 else added e.answer

/-- The answer that is on its way to a client is the one of a run. -/
def Stage.Backed (runs : List (Run ι)) : Stage ι → Prop
  | ran c _ n answer => runs[n]? = some ⟨c, answer⟩
  | _ => True

/-- The number that a caller was given is the one of a run. -/
def Ended.Backed (runs : List (Run ι)) (e : Ended ι) : Prop :=
  ∀ id, e.answer = .ok id → ∃ n, e.run = some n ∧ runs[n]? = some ⟨e.append, .ok id⟩

theorem added_le (answer : Except StoreFault Nat) : added answer ≤ 1 := by
  cases answer <;> simp [added]

theorem Attempt.losses_le (t : Attempt) : t.losses ≤ 1 := by
  cases t <;> decide

theorem Stage.allows_le (s : Stage ι) : s.allows ≤ 2 := by
  cases s with
  | idle _ => exact Nat.zero_le 2
  | opening _ again => exact Nat.le_trans again.toNat_le (by decide)
  | sent _ t => exact Nat.le_trans t.losses_le (by decide)
  | ran _ t _ answer => exact Nat.add_le_add t.losses_le (added_le answer)

theorem Ended.allows_le (e : Ended ι) : e.allows ≤ 2 := by
  unfold Ended.allows
  have ha := added_le e.answer
  split <;> omega

theorem getElem?_mono {runs more : List (Run ι)} (h : runs <+: more) {n : Nat} {r : Run ι}
    (hn : runs[n]? = some r) : more[n]? = some r := by
  obtain ⟨rest, rfl⟩ := h
  obtain ⟨hlt, -⟩ := List.getElem?_eq_some_iff.mp hn
  rw [List.getElem?_append_left hlt, hn]

theorem Stage.Backed.mono {runs more : List (Run ι)} (h : runs <+: more) {s : Stage ι}
    (hs : s.Backed runs) : s.Backed more := by
  cases s with
  | ran c t n answer => exact getElem?_mono h hs
  | _ => trivial

theorem Ended.Backed.mono {runs more : List (Run ι)} (h : runs <+: more) {e : Ended ι}
    (he : e.Backed runs) : e.Backed more := by
  intro id hid
  obtain ⟨n, hrun, hn⟩ := he id hid
  exact ⟨n, hrun, getElem?_mono h hn⟩

section Accounts

variable [DecidableEq ι]

/-- The entries of an append, and its scripts that are under way on broken connections. -/
def spent (runs : List (Run ι)) (strays : List (Append ι)) (c : Append ι) : Nat :=
  (logOf runs).count c + strays.count c

/-- The appends are told apart, and none adds more than what became of it allows. -/
structure Accounted (w : Writers ι) : Prop where
  numbered : ∀ n (c : Append ι), w.begun[n]? = some c → c.number = n
  known : ∀ c, 0 < spent w.runs w.strays c → c ∈ w.begun
  most : ∀ c, spent w.runs w.strays c ≤ 2
  busy : ∀ i c, (w.clients i).append? = some c →
    c ∈ w.begun ∧ c.client = i ∧ c ∉ w.ended.map (·.append) ∧
      spent w.runs w.strays c ≤ (w.clients i).allows
  backed : ∀ i, (w.clients i).Backed w.runs
  done : ∀ e ∈ w.ended,
    e.append ∈ w.begun ∧ spent w.runs w.strays e.append ≤ e.allows ∧ e.Backed w.runs
  once : (w.ended.map (·.append)).Nodup

namespace Accounted

variable {w : Writers ι} {i : ι} {c : Append ι}

/-- The appends of other clients are other ones. -/
theorem busy_ne (h : Accounted w) (hi : (w.clients i).append? = some c) {j : ι} (hj : j ≠ i)
    {d : Append ι} (hd : (w.clients j).append? = some d) : d ≠ c := by
  rintro rfl
  exact hj ((h.busy j d hd).2.1.symm.trans (h.busy i d hi).2.1)

theorem ended_ne (h : Accounted w) (hi : (w.clients i).append? = some c) {e : Ended ι}
    (he : e ∈ w.ended) : e.append ≠ c := by
  rintro rfl
  exact (h.busy i _ hi).2.2.1 (List.mem_map_of_mem he)

theorem at_stage (h : Accounted w) {s : Stage ι} (hi : w.clients i = s) (hs : s.append? = some c) :
    (w.clients i).append? = some c ∧ spent w.runs w.strays c ≤ s.allows := by
  subst hi
  exact ⟨hs, (h.busy i c hs).2.2.2⟩

variable {keys : Keyspace} {runs : List (Run ι)} {strays : List (Append ι)}

/-- **A client that goes on** with its append, while nothing happens to other appends. -/
theorem put (h : Accounted w) (hi : (w.clients i).append? = some c) (hruns : w.runs <+: runs)
    (hother : ∀ d, d ≠ c → spent runs strays d ≤ spent w.runs w.strays d) {s : Stage ι}
    (hs : s.append? = some c) (hc : spent runs strays c ≤ s.allows) (hb : s.Backed runs) :
    Accounted (Writers.put { w with keys, runs, strays } i s) where
  numbered := h.numbered
  known d hd := by
    by_cases hdc : d = c
    · exact hdc ▸ (h.busy i c hi).1
    · exact h.known d (Nat.lt_of_lt_of_le hd (hother d hdc))
  most d := by
    by_cases hdc : d = c
    · exact hdc ▸ Nat.le_trans hc s.allows_le
    · exact Nat.le_trans (hother d hdc) (h.most d)
  busy j d hd := by
    by_cases hj : j = i
    · subst hj
      rw [put_self] at hd ⊢
      cases hs.symm.trans hd
      obtain ⟨hbegun, hclient, hend, -⟩ := h.busy j c hi
      exact ⟨hbegun, hclient, hend, hc⟩
    · rw [put_of_ne _ _ hj] at hd ⊢
      obtain ⟨hbegun, hclient, hend, hle⟩ := h.busy j d hd
      exact ⟨hbegun, hclient, hend, Nat.le_trans (hother d (h.busy_ne hi hj hd)) hle⟩
  backed j := by
    by_cases hj : j = i
    · subst hj
      rw [put_self]
      exact hb
    · rw [put_of_ne _ _ hj]
      exact (h.backed j).mono hruns
  done e he := by
    obtain ⟨hbegun, hle, hback⟩ := h.done e he
    exact ⟨hbegun, Nat.le_trans (hother _ (h.ended_ne hi he)) hle, hback.mono hruns⟩
  once := h.once

/-- **A client whose append ends.** -/
theorem finish (h : Accounted w) (hi : (w.clients i).append? = some c)
    (hother : ∀ d, d ≠ c → spent w.runs strays d ≤ spent w.runs w.strays d) {e : Ended ι}
    (he : e.append = c) (hc : spent w.runs strays c ≤ e.allows) (hb : e.Backed w.runs)
    (kept : Bool) : Accounted (Writers.finish { w with strays } i kept e) where
  numbered := h.numbered
  known d hd := by
    by_cases hdc : d = c
    · exact hdc ▸ (h.busy i c hi).1
    · exact h.known d (Nat.lt_of_lt_of_le hd (hother d hdc))
  most d := by
    by_cases hdc : d = c
    · exact hdc ▸ Nat.le_trans hc e.allows_le
    · exact Nat.le_trans (hother d hdc) (h.most d)
  busy j d hd := by
    by_cases hj : j = i
    · subst hj
      rw [Writers.finish, put_self] at hd
      exact absurd hd (by simp [Stage.append?])
    · rw [Writers.finish, put_of_ne _ _ hj] at hd ⊢
      obtain ⟨hbegun, hclient, hend, hle⟩ := h.busy j d hd
      have hdc := h.busy_ne hi hj hd
      refine ⟨hbegun, hclient, ?_, Nat.le_trans (hother d hdc) hle⟩
      show d ∉ (w.ended ++ [e]).map (·.append)
      rw [List.map_append, List.mem_append, not_or]
      exact ⟨hend, by simpa [he] using hdc⟩
  backed j := by
    by_cases hj : j = i
    · subst hj
      rw [Writers.finish, put_self]
      trivial
    · rw [Writers.finish, put_of_ne _ _ hj]
      exact h.backed j
  done f hf := by
    rcases List.mem_append.mp hf with hf | hf
    · obtain ⟨hbegun, hle, hback⟩ := h.done f hf
      exact ⟨hbegun, Nat.le_trans (hother _ (h.ended_ne hi hf)) hle, hback⟩
    · cases List.mem_singleton.mp hf
      rw [he]
      exact ⟨(h.busy i c hi).1, hc, hb⟩
  once := by
    show ((w.ended ++ [e]).map (·.append)).Nodup
    rw [List.map_append, List.nodup_append]
    refine ⟨h.once, List.nodup_singleton _, ?_⟩
    rintro d hd f hf rfl
    obtain ⟨g, hg, rfl⟩ := List.mem_map.mp hd
    exact h.ended_ne hi hg ((List.mem_singleton.mp hf).trans he)

/-- **Something that adds nothing to what any append has spent.** -/
theorem drift (h : Accounted w) (hruns : w.runs <+: runs)
    (hle : ∀ d, spent runs strays d ≤ spent w.runs w.strays d) :
    Accounted { w with keys, runs, strays } where
  numbered := h.numbered
  known d hd := h.known d (Nat.lt_of_lt_of_le hd (hle d))
  most d := Nat.le_trans (hle d) (h.most d)
  busy j d hd := by
    obtain ⟨hbegun, hclient, hend, ha⟩ := h.busy j d hd
    exact ⟨hbegun, hclient, hend, Nat.le_trans (hle d) ha⟩
  backed j := (h.backed j).mono hruns
  done e he := by
    obtain ⟨hbegun, ha, hback⟩ := h.done e he
    exact ⟨hbegun, Nat.le_trans (hle _) ha, hback.mono hruns⟩
  once := h.once

/-- **A client that begins an append.** -/
theorem begin (h : Accounted w) (hi : (w.clients i).append? = none)
    (hnumber : c.number = w.begun.length) (hclient : c.client = i) {s : Stage ι}
    (hs : s.append? = some c) (hb : s.Backed w.runs) :
    Accounted (Writers.put { w with begun := w.begun ++ [c] } i s) := by
  -- its number has not been used, so it is none of the appends before
  have hnew : c ∉ w.begun := by
    intro hc
    obtain ⟨n, hn⟩ := List.mem_iff_getElem?.mp hc
    obtain ⟨hlt, -⟩ := List.getElem?_eq_some_iff.mp hn
    have hcn := h.numbered n c hn
    omega
  have hspent : spent w.runs w.strays c = 0 :=
    Nat.eq_zero_of_not_pos fun hp => hnew (h.known c hp)
  constructor
  case numbered =>
    intro n d hd
    change (w.begun ++ [c])[n]? = some d at hd
    rcases concat_cases hd with ⟨-, hd⟩ | ⟨rfl, rfl⟩
    · exact h.numbered n d hd
    · exact hnumber
  case known => exact fun d hd => List.mem_append_left [c] (h.known d hd)
  case most => exact h.most
  case busy =>
    intro j d hd
    by_cases hj : j = i
    · subst hj
      rw [put_self] at hd ⊢
      cases hs.symm.trans hd
      refine ⟨List.mem_append_right _ (List.mem_singleton_self c), hclient, ?_, ?_⟩
      · intro hc
        obtain ⟨e, he, hec⟩ := List.mem_map.mp hc
        exact hnew (hec ▸ (h.done e he).1)
      · exact Nat.le_trans (Nat.le_of_eq hspent) (Nat.zero_le _)
    · rw [put_of_ne _ _ hj] at hd ⊢
      obtain ⟨hbegun, hrest⟩ := h.busy j d hd
      exact ⟨List.mem_append_left [c] hbegun, hrest⟩
  case backed =>
    intro j
    by_cases hj : j = i
    · subst hj
      rw [put_self]
      exact hb
    · rw [put_of_ne _ _ hj]
      exact h.backed j
  case done =>
    intro e he
    obtain ⟨hbegun, hrest⟩ := h.done e he
    exact ⟨List.mem_append_left [c] hbegun, hrest⟩
  case once => exact h.once

/-- **A client whose connection breaks** adds an entry at most to what it has spent. -/
theorem broke (h : Accounted w) (hi : (w.clients i).append? = some c)
    (hother : ∀ d, d ≠ c → spent w.runs strays d ≤ spent w.runs w.strays d) {t : Attempt}
    (hc : spent w.runs strays c ≤ t.losses + 1) (n : Option Nat) (fault : StoreFault) :
    Accounted (Writers.broke { w with strays } i c t n fault) := by
  unfold Writers.broke
  by_cases ht : t = .kept
  · rw [if_pos ht]
    subst ht
    exact h.put hi (List.prefix_refl _) hother rfl hc trivial
  · rw [if_neg ht]
    refine h.finish hi hother rfl ?_ (fun id hid => absurd hid (by simp)) false
    have hl := t.losses_le
    show spent w.runs strays c ≤ 2
    omega

/-- **A client that gets the answer of a run.** -/
theorem settle (h : Accounted w) (hi : (w.clients i).append? = some c) {t : Attempt} {n : Nat}
    {answer : Except StoreFault Nat} (hn : w.runs[n]? = some ⟨c, answer⟩)
    (hc : spent w.runs w.strays c ≤ t.losses + added answer) :
    Accounted (w.settle i c t (some n) answer) := by
  have hother : ∀ d, d ≠ c → spent w.runs w.strays d ≤ spent w.runs w.strays d :=
    fun d _ => Nat.le_refl _
  have hends : spent w.runs w.strays c ≤
      (⟨c, answer, t.losses != 0, some n⟩ : Ended ι).allows := by
    have ha := added_le answer
    cases t with
    | again => exact Nat.le_trans hc (Nat.add_le_add_left ha 1)
    | _ => exact Nat.le_trans hc (Nat.le_of_eq (Nat.zero_add _))
  cases answer with
  | ok id =>
    refine h.finish hi hother rfl hends ?_ true
    rintro jd hjd
    cases hjd
    exact ⟨n, rfl, hn⟩
  | error e =>
    rw [Writers.settle]
    by_cases hl : e.isLoss = true
    · rw [if_pos hl]
      exact h.broke hi hother (Nat.le_trans hc (Nat.le_succ _)) (some n) e
    · rw [if_neg hl]
      exact h.finish hi hother rfl hends (fun id hid => absurd hid (by simp)) true

end Accounted

theorem spent_run (runs : List (Run ι)) (strays : List (Append ι)) (c : Append ι)
    (answer : Except StoreFault Nat) (d : Append ι) :
    spent (runs ++ [⟨c, answer⟩]) strays d =
      spent runs strays d + if c = d then added answer else 0 := by
  unfold spent
  rw [logOf_append, List.count_append]
  cases answer with
  | ok id =>
    rw [logOf_ok, List.count_singleton]
    by_cases hcd : c = d
    · simp [hcd, added]
      omega
    · simp [hcd]
  | error e =>
    rw [logOf_error]
    simp [added]

theorem spent_stray (runs : List (Run ι)) (strays : List (Append ι)) (c d : Append ι) :
    spent runs (strays ++ [c]) d = spent runs strays d + if c = d then 1 else 0 := by
  unfold spent
  rw [List.count_append, List.count_singleton]
  simp [Nat.add_assoc]

/-- A script that arrives late is no longer under way. -/
theorem spent_eraseIdx (runs : List (Run ι)) {strays : List (Append ι)} {n : Nat} {c : Append ι}
    (hn : strays[n]? = some c) (d : Append ι) :
    spent runs (strays.eraseIdx n) d + (if c = d then 1 else 0) = spent runs strays d := by
  obtain ⟨hlt, rfl⟩ := List.getElem?_eq_some_iff.mp hn
  have hcount := (List.getElem_cons_eraseIdx_perm hlt).count_eq d
  rw [List.count_cons] at hcount
  simp only [beq_iff_eq] at hcount
  unfold spent
  omega

namespace Accounted

variable {w : Writers ι} {i : ι} {c : Append ι} {t : Attempt}

/-- **A script that is run** for a client. -/
theorem ran (h : Accounted w) (hi : w.clients i = .sent c t) (root : String)
    (refusal : Option StoreFault) :
    Accounted ((w.ran root c refusal).put i
      (.ran c t w.runs.length (appendOnce root c.table c.key refusal w.keys).1)) := by
  obtain ⟨hc, hle⟩ := h.at_stage hi rfl
  refine h.put hc (List.prefix_append _ _) (fun d hd => ?_) rfl ?_ List.getElem?_concat_length
  · rw [spent_run, if_neg fun hcd => hd hcd.symm]
    exact Nat.le_refl _
  · rw [spent_run, if_pos rfl]
    exact Nat.add_le_add_right hle _

/-- **A script that is lost**, or still under way while its client gives it up. -/
theorem lost (h : Accounted w) (hi : w.clients i = .sent c t) (arrives : Bool)
    (fault : StoreFault) :
    Accounted (Writers.broke { w with strays := w.strays ++ if arrives then [c] else [] } i c t none
      fault) := by
  obtain ⟨hc, hle⟩ := h.at_stage hi rfl
  cases arrives with
  | true =>
    refine h.broke hc (fun d hd => ?_) ?_ none fault
    · rw [if_pos rfl, spent_stray, if_neg fun hcd => hd hcd.symm]
      exact Nat.le_refl _
    · rw [if_pos rfl, spent_stray, if_pos rfl]
      exact Nat.add_le_add_right hle 1
  | false =>
    simp only [Bool.false_eq_true, if_false, List.append_nil]
    exact h.broke hc (fun _ _ => Nat.le_refl _) (Nat.le_succ_of_le hle) none fault

/-- **A script that arrives late** spends what its client has set aside for it. -/
theorem late (h : Accounted w) {n : Nat} (hn : w.strays[n]? = some c) (root : String)
    (refusal : Option StoreFault) :
    Accounted { w.ran root c refusal with strays := w.strays.eraseIdx n } := by
  have ha := added_le (appendOnce root c.table c.key refusal w.keys).1
  refine h.drift (List.prefix_append _ _) fun d => ?_
  -- the script leaves the broken connections, so its entry, if any, has been counted already
  have herase := spent_eraseIdx w.runs hn d
  show spent (w.runs ++ [_]) (w.strays.eraseIdx n) d ≤ _
  rw [spent_run]
  by_cases hcd : c = d
  · rw [if_pos hcd] at herase ⊢
    omega
  · rw [if_neg hcd] at herase ⊢
    omega

/-- **No step** lets an append spend more than it is allowed. -/
theorem step (h : Accounted w) (root : String) (act : Act ι) : Accounted (w.step root act) := by
  cases act with
  | begin i table key =>
    cases hi : w.clients i with
    | idle kept =>
      simp only [Writers.step, hi]
      have hnone : (w.clients i).append? = none := by rw [hi]; rfl
      cases kept <;> exact h.begin hnone rfl rfl rfl trivial
    | _ => simpa only [Writers.step, hi] using h
  | connect i refusal =>
    cases hi : w.clients i with
    | opening c again =>
      simp only [Writers.step, hi]
      obtain ⟨hc, hle⟩ := h.at_stage hi rfl
      cases refusal with
      | some fault =>
        refine h.finish hc (fun _ _ => Nat.le_refl _) rfl ?_ (fun id hid => absurd hid (by simp)) _
        cases again with
        | false => exact hle
        | true => exact Nat.le_succ_of_le hle
      | none =>
        refine h.put hc (List.prefix_refl _) (fun _ _ => Nat.le_refl _) rfl ?_ trivial
        cases again <;> exact hle
    | _ => simpa only [Writers.step, hi] using h
  | run i refusal =>
    cases hi : w.clients i with
    | sent c t =>
      simp only [Writers.step, hi]
      exact h.ran hi root refusal
    | _ => simpa only [Writers.step, hi] using h
  | reply i =>
    cases hi : w.clients i with
    | ran c t n answer =>
      simp only [Writers.step, hi]
      obtain ⟨hc, hle⟩ := h.at_stage hi rfl
      have hb := h.backed i
      rw [hi] at hb
      exact h.settle hc hb hle
    | _ => simpa only [Writers.step, hi] using h
  | lose i arrives =>
    cases hi : w.clients i with
    | sent c t =>
      simp only [Writers.step, hi]
      exact h.lost hi arrives _
    | ran c t n answer =>
      simp only [Writers.step, hi]
      obtain ⟨hc, hle⟩ := h.at_stage hi rfl
      refine h.broke hc (fun _ _ => Nat.le_refl _) (Nat.le_trans hle ?_) none _
      exact Nat.add_le_add_left (added_le answer) _
    | _ => simpa only [Writers.step, hi] using h
  | late n refusal =>
    cases hn : w.strays[n]? with
    | none => simpa only [Writers.step, hn] using h
    | some c =>
      simp only [Writers.step, hn]
      exact h.late hn root refusal

end Accounted

theorem Accounted.start (keys : Keyspace) (kept : ι → Bool) : Accounted (start keys kept) where
  numbered n c hn := absurd hn (by simp [Writers.start])
  known c hc := absurd hc (by simp [Writers.start, spent, logOf])
  most c := by simp [Writers.start, spent, logOf]
  busy i c hc := absurd hc (by simp [Writers.start, Stage.append?])
  backed i := trivial
  done e he := absurd he (by simp [Writers.start])
  once := List.nodup_nil

end Accounts

end Writers

end Firewall
