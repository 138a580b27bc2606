import Firewall.Proofs.Fleet.Freshness

/-!
Changes on their way through a fleet. Each of them stores what it announces before it
announces it, and what it publishes reads back from what it stores. As long as the
store takes what is written to it, every instance stays fresh.

Proved here:

* `Turn.moves`: what a turn of one node is to the others;
* `Turn.fresh`: a turn of a node keeps the node fresh;
* `Fleet.Kept.step` and `Fleet.Kept.run`: every run keeps all nodes fresh.
-/

namespace Firewall

/-! ## Changes -/

/-- What may be left to do of a change. -/
inductive Change.Rest (t : Tables) : List Step → Prop
  | publish (e : Edit) (key value : String) (h : Edit.ofSetting? key value = some e) :
    Rest t (Change.ofSetting e key value)
  | store (e : Edit) (key value : String) (h : Edit.ofSetting? key value = some e) :
    Rest t [.putSetting key value, .announce .config key]
  | replace (rules : List CountryRule) (word : String) :
    Rest t [.putRules rules, .announce .geoip word]
  | announce (table : Table) (key : String) (h : t.Valid (table, key)) :
    Rest t [.announce table key]

/-- An announcement of a topic is among the steps to come. -/
def Node.Announces (n : Node) (x : Topic) : Prop :=
  ∃ change ∈ n.changes, ∃ table key, Step.announce table key ∈ change.2 ∧
    x.named (table, key) = true

theorem Change.Rest.mono {t t' : Tables} {steps : List Step} (h : Change.Rest t steps)
    (hv : ∀ entry, t.Valid entry → t'.Valid entry) : Change.Rest t' steps := by
  cases h with
  | publish e key value h => exact .publish e key value h
  | store e key value h => exact .store e key value h
  | replace rules word => exact .replace rules word
  | announce table key h => exact .announce table key (hv _ h)

def Change.Made (steps : List Step) : Prop :=
  Change.Setting steps ∨ ∃ codes allow, Change.setCountries codes allow = .ok steps

theorem Change.Made.rest {steps : List Step} (h : Change.Made steps) (t : Tables) :
    Change.Rest t steps := by
  rcases h with h | ⟨codes, allow, h⟩
  · obtain ⟨e, key, value, rfl, hv⟩ := h.reads_back
    exact .publish e key value hv
  · obtain ⟨cs, -, rfl⟩ := Except.map_eq_ok h
    exact .replace _ _

namespace Node

variable {n : Node} {j policy : Nat} {step : Step} {rest : List Step}

/-- The changes after a step: the one that went on, and the others. -/
theorem mem_proceed {change : Nat × List Step}
    (h : change ∈ (n.proceed j policy rest).changes) :
    (change = (policy, rest) ∧ rest ≠ []) ∨ change ∈ n.changes := by
  unfold proceed at h
  cases rest with
  | nil => exact Or.inr (List.mem_of_mem_eraseIdx h)
  | cons step rest =>
    rcases List.mem_or_eq_of_mem_set h with h | h
    · exact Or.inr h
    · exact Or.inl ⟨h, List.cons_ne_nil _ _⟩

theorem proceed_mem (hj : n.changes[j]? = some (policy, step :: rest)) (hr : rest ≠ []) :
    (policy, rest) ∈ (n.proceed j policy rest).changes := by
  unfold proceed
  cases rest with
  | nil => exact absurd rfl hr
  | cons step' rest =>
    obtain ⟨hlt, -⟩ := List.getElem?_eq_some_iff.mp hj
    exact List.mem_set hlt _

theorem mem_proceed_of_mem (hj : n.changes[j]? = some (policy, step :: rest))
    {change : Nat × List Step} (h : change ∈ n.changes) :
    change = (policy, step :: rest) ∨ change ∈ (n.proceed j policy rest).changes := by
  obtain ⟨k, hk⟩ := List.mem_iff_getElem?.mp h
  by_cases hkj : k = j
  · subst hkj
    rw [hj] at hk
    exact Or.inl (Option.some.inj hk).symm
  · refine Or.inr ?_
    unfold proceed
    cases rest with
    | nil => exact List.mem_eraseIdx_iff_getElem?.mpr ⟨k, hkj, hk⟩
    | cons step' rest =>
      apply List.mem_of_getElem? (i := k)
      show (n.changes.set j _)[k]? = _
      rw [List.getElem?_set_ne (Ne.symm hkj)]
      exact hk

/-- What was to be announced still is, unless the step announced it. -/
theorem announces_proceed (hj : n.changes[j]? = some (policy, step :: rest)) {x : Topic}
    (h : n.Announces x) : (n.proceed j policy rest).Announces x ∨
      ∃ table key, step = .announce table key ∧ x.named (table, key) = true := by
  obtain ⟨change, hc, table, key, ha, hx⟩ := h
  rcases mem_proceed_of_mem hj hc with rfl | hc
  · rcases List.mem_cons.mp ha with ha | ha
    · exact Or.inr ⟨table, key, ha.symm, hx⟩
    · refine Or.inl ⟨_, proceed_mem hj ?_, table, key, ha, hx⟩
      rintro rfl
      cases ha
  · exact Or.inl ⟨change, hc, table, key, ha, hx⟩

/-- What is still to be announced of the change that went on. -/
theorem proceed_announces (hj : n.changes[j]? = some (policy, step :: rest)) {x : Topic}
    {table : Table} {key : String} (ha : .announce table key ∈ rest)
    (hx : x.named (table, key) = true) : (n.proceed j policy rest).Announces x := by
  refine ⟨_, proceed_mem hj ?_, table, key, ha, hx⟩
  rintro rfl
  cases ha

end Node

/-! ## What a turn is to the others -/

/-- The store takes what is written to it. -/
structure Failing.Spares (f : Failing) : Prop where
  append : f.stops .append = false
  putSetting : f.stops .putSetting = false
  putRules : f.stops .putRules = false

theorem Failing.Spares.not_stopped {f : Failing} (h : f.Spares) (step : Step) :
    step.stopped f = false := by
  cases step with
  | publish e => rfl
  | putSetting key value => exact h.putSetting
  | putRules rules => exact h.putRules
  | announce table key => exact h.append

/-- An action in a fleet in which changes are carried out in full: what is submitted is a
change that an operator makes, the store takes what is written to it, and only recorders
subscribe on their own. -/
def Action.Ordinary {ι : Type} : Action ι → Prop
  | .weather failing => failing.Spares
  | .submit _ _ steps => Change.Made steps
  | .subscribe _ _ who => ∃ name, who = .recorder name
  | _ => True

theorem Topic.Same.refl (t : Tables) (x : Topic) : x.Same t t := by
  cases x <;> exact Eq.refl _

theorem Moves.of_announces {t : Tables} {pending pending' : Topic → Prop}
    (h : ∀ x, pending x → pending' x) : Moves t t pending pending' where
  log := ⟨[], (List.append_nil _).symm, fun _ h => by cases h⟩
  kept x hx := Or.inl (h x hx)
  same x := Or.inr (.refl t x)
  valid _ := id

/-- Storing a value changes what is said of one aspect only. -/
theorem Topic.Same.of_putSetting {t : Tables} {key value : String} {x : Topic}
    (hx : x.named (.config, key) = false) :
    x.Same t { t with settings := t.settings.insert key value } := by
  cases x with
  | setting a =>
    have ha : a.key ≠ key := by
      rintro rfl
      simp [Topic.named] at hx
    show Policy.current _ _ = _
    rw [Policy.current_ofSettings, Policy.current_ofSettings, Aspect.stored_insert, if_neg ha]
  | countries => exact Eq.refl _

theorem Tables.Valid.putSetting {t : Tables} {key value : String} {e : Edit}
    (he : Edit.ofSetting? key value = some e) {entry : Table × String} (h : t.Valid entry) :
    Tables.Valid { t with settings := t.settings.insert key value } entry := by
  intro htable
  show ∃ v e, (t.settings.insert key value).get? entry.2 = some v ∧ _
  rw [Dict.get?_insert]
  by_cases hk : entry.2 = key
  · rw [if_pos hk]
    exact ⟨value, e, rfl, by rw [hk]; exact he⟩
  · rw [if_neg hk]
    exact h htable

/-- **A step of a change, seen by the others**: something may be said differently about
the topic that is still to be announced, and nothing else. -/
theorem Step.Effect.moves {t t' : Tables} {step : Step} {rest : List Step}
    (he : step.Effect t t') (hr : Change.Rest t (step :: rest)) (pending pending' : Topic → Prop)
    (announced : ∀ x, pending x → pending' x ∨
      ∃ table key, step = .announce table key ∧ x.named (table, key) = true)
    (announces : ∀ x table key, .announce table key ∈ rest → x.named (table, key) = true →
      pending' x) :
    Moves t t' pending pending' ∧ (rest ≠ [] → Change.Rest t' rest) := by
  have kept : ∀ x, (∀ table key, step ≠ .announce table key) → pending x → pending' x := by
    intro x hstep hx
    rcases announced x hx with h | ⟨table, key, h, -⟩
    · exact h
    · exact absurd h (hstep table key)
  cases hr with
  | publish e key value hv =>
    cases he
    exact ⟨.of_announces fun x => kept x (fun _ _ h => by cases h), fun _ => .store e key value hv⟩
  | store e key value hv =>
    cases he
    refine ⟨⟨⟨[], (List.append_nil _).symm, fun _ h => by cases h⟩, ?_, ?_, ?_⟩, ?_⟩
    · exact fun x hx => Or.inl (kept x (fun _ _ h => by cases h) hx)
    · intro x
      cases hx : x.named (.config, key) with
      | true => exact Or.inl (announces x .config key List.mem_cons_self hx)
      | false => exact Or.inr (.of_putSetting hx)
    · exact fun entry h => h.putSetting hv
    · intro _
      refine .announce .config key fun _ => ⟨value, e, ?_, hv⟩
      show (t.settings.insert key value).get? key = some value
      rw [Dict.get?_insert, if_pos rfl]
  | replace rules word =>
    cases he
    refine ⟨⟨⟨[], (List.append_nil _).symm, fun _ h => by cases h⟩, ?_, ?_, fun _ => id⟩, ?_⟩
    · exact fun x hx => Or.inl (kept x (fun _ _ h => by cases h) hx)
    · intro x
      cases x with
      | setting a => exact Or.inr (Eq.refl _)
      | countries => exact Or.inl (announces _ .geoip word List.mem_cons_self rfl)
    · exact fun _ => .announce .geoip word fun h => by cases h
  | announce table key hv =>
    cases he
    refine ⟨⟨⟨[(table, key)], rfl, ?_⟩, ?_, fun x => Or.inr ?_, fun _ => id⟩, fun h => absurd rfl h⟩
    · intro entry h
      rw [List.mem_singleton.mp h]
      exact hv
    · intro x hx
      rcases announced x hx with h | ⟨_, _, h, hx⟩
      · exact Or.inl h
      · cases h
        refine Or.inr ⟨t.log.length, (table, key), Nat.le_refl _, ?_, hx⟩
        exact List.getElem?_concat_length
    · cases x <;> exact Eq.refl _

/-- **A turn of a node, seen by the others.** -/
theorem Turn.moves {ι : Type} {t t' : Tables} {failing : Failing} {n n' : Node} {a : Action ι}
    (ht : Turn t failing n a t' n') (ord : a.Ordinary) (spares : failing.Spares)
    (rests : ∀ change ∈ n.changes, Change.Rest t change.2) (others : Topic → Prop) :
    Moves t t' (fun x => n.Announces x ∨ others x) (fun x => n'.Announces x ∨ others x) ∧
      ∀ change ∈ n'.changes, Change.Rest t' change.2 := by
  -- only submitting a change and carrying on with one touch the changes
  have still : ∀ m : Node, m.changes = n.changes →
      Moves t t (fun x => n.Announces x ∨ others x) (fun x => m.Announces x ∨ others x) ∧
        ∀ change ∈ m.changes, Change.Rest t change.2 := by
    intro m hm
    refine ⟨.of_announces ?_, by rw [hm]; exact rests⟩
    intro x
    unfold Node.Announces
    rw [hm]
    exact id
  cases ht with
  | connected i _ hc => exact still _ (by cases hc <;> rfl)
  | loaded i part _ hl => exact still _ (by cases hl <;> rfl)
  | joined i _ hj =>
    refine still _ ?_
    cases hj with
    | same _ => rfl
    | begun b hb => exact Node.changes_subscribe _ _ _
  | subscribed i table who hn => exact still _ (Node.changes_subscribe _ _ _)
  | busy i table who => exact still _ rfl
  | waiting i => exact still _ rfl
  | polled i f phase note self hb hf hm => exact still _ (Node.note_changes _ _)
  | submitted i policy steps =>
    refine ⟨.of_announces ?_, ?_⟩
    · rintro x (⟨change, hc, hx⟩ | hx)
      · exact Or.inl ⟨change, List.mem_append_left _ hc, hx⟩
      · exact Or.inr hx
    · intro change hc
      rcases List.mem_append.mp hc with hc | hc
      · exact rests change hc
      · rw [List.mem_singleton.mp hc]
        exact ord.rest t
  | carried i j _ _ hc =>
    cases hc with
    | none _ => exact still _ rfl
    | ended policy hj => cases rests _ (List.mem_of_getElem? hj)
    | failed policy step rest hj hs =>
      rw [spares.not_stopped] at hs
      cases hs
    | done policy step rest _ hj he =>
      have hr : Change.Rest t (step :: rest) := rests _ (List.mem_of_getElem? hj)
      have hm := he.moves hr (fun x => n.Announces x ∨ others x)
        (fun x => Node.Announces
          (Node.proceed { n with self := n.self.perform policy step } j policy rest) x ∨ others x)
        ?_ ?_
      · refine ⟨hm.1, ?_⟩
        intro change hc
        rcases Node.mem_proceed hc with ⟨rfl, hne⟩ | hc
        · exact hm.2 hne
        · exact (rests change hc).mono hm.1.valid
      · rintro x (hx | hx)
        · rcases Node.announces_proceed (n := { n with self := n.self.perform policy step }) hj hx
            with h | h
          · exact Or.inl (Or.inl h)
          · exact Or.inr h
        · exact Or.inl (Or.inr hx)
      · intro x table key hmem hx
        exact Or.inl (Node.proceed_announces
          (n := { n with self := n.self.perform policy step }) hj hmem hx)

/-! ## What a turn is to the node itself -/

/-- **A turn keeps a node fresh.** What it publishes is still to be announced. -/
theorem Turn.fresh {ι : Type} {t t' : Tables} {failing : Failing} {n n' : Node} {a : Action ι}
    (ht : Turn t failing n a t' n') (ord : a.Ordinary) (hs : n.Sound t)
    {pending : Topic → Prop} (h : Fresh t pending n.self n.boot n.phase n.heard)
    (published : ∀ (j policy : Nat) (e : Edit) (rest : List Step),
      n.changes[j]? = some (policy, .publish e :: rest) → pending (.setting e.aspect)) :
    Fresh t pending n'.self n'.boot n'.phase n'.heard := by
  cases ht with
  | connected i _ hc =>
    cases hc with
    | same _ => exact h
    | started hf =>
      obtain ⟨hb, hp⟩ := hs.asleep hf
      rw [hb, hs.resting hp] at h
      show Fresh t pending _ n.boot n.phase n.heard
      rw [hb, hs.resting hp]
      exact h.start hf
  | loaded i part _ hl =>
    cases hl with
    | same => exact h
    | settings hp f hf => exact h.loaded (by intro x; cases x <;> trivial)
    | rules hp f hf lookup => exact h.loaded (by intro x; cases x <;> trivial)
  | joined i _ hj =>
    cases hj with
    | same _ => exact h
    | begun b hb =>
      have hn := hs.resting (hs.ready (by rw [hb]; exact Option.some_ne_none _))
      obtain ⟨f, hf⟩ := hs.awake_of_boot hb
      rw [hb, hn] at h
      -- the listener is subscribed first, and then it begins with what was read for it
      rw [Node.subscribe_of_feed ((n.self.feed_equip b).trans hf)]
      show Fresh t pending _ none n.phase n.heard
      rw [hn]
      have hsub := h.subscribed hf b.table (b.listener n.self)
        (by intro k hk; cases b <;> first | rfl | cases hk)
        (by intro k hk; cases b <;> first | rfl | cases hk)
      have hmem : b.listener n.self ∈ Feed.listeners (f.subscribe b.table (b.listener n.self))
          b.table :=
        Feed.mem_listeners.mpr ((Feed.mem_subscribe _ _ _ _).mpr (Or.inl rfl))
      cases b <;> exact hsub.equipped hmem
  | subscribed i table who hn =>
    obtain ⟨name, rfl⟩ := ord
    cases hf : n.self.feed with
    | none =>
      unfold Node.subscribe
      rw [hf]
      exact h
    | some f =>
      rw [Node.subscribe_of_feed hf]
      show Fresh t pending _ n.boot n.phase n.heard
      rw [hn] at h ⊢
      exact h.subscribed hf table _ (fun _ h => by cases h) (fun _ h => by cases h)
  | busy i table who => exact h
  | submitted i policy steps => exact h
  | carried i j _ _ hc =>
    cases hc with
    | done policy step rest _ hj he =>
      cases step with
      | publish e => exact h.published policy e (published j policy e rest hj)
      | _ => exact h
    | _ => exact h
  | waiting i => exact h
  | polled i f phase note self hb hf hm =>
    rw [Node.note_self, Node.note_boot, Node.note_phase, Node.note_heard]
    show Fresh t pending self n.boot phase _
    rw [hb] at h ⊢
    exact h.polled hs.phase hf (hs.once f hf) hm

/-! ## Runs -/

namespace Fleet

variable {ι σ : Type} [DecidableEq ι] [RecordStore σ] [LawfulStore σ]

/-- A change of a topic has still to be announced somewhere. -/
def Pending (c : Fleet ι σ) (x : Topic) : Prop := ∃ i, (c.nodes i).Announces x

/-- A fleet whose store shows tables, takes what is written to it, and whose instances
are all fresh. -/
structure Kept (c : Fleet ι σ) (t : Tables) : Prop where
  shows : c.world.store.Shows t
  spares : c.world.store.failing.Spares
  sound : ∀ i, (c.nodes i).Sound t
  fresh : ∀ i, Fresh t c.Pending (c.nodes i).self (c.nodes i).boot (c.nodes i).phase
    (c.nodes i).heard
  rests : ∀ i, ∀ change ∈ (c.nodes i).changes, Change.Rest t change.2

omit [DecidableEq ι] in
/-- What a change of a policy publishes has still to be announced. -/
theorem Kept.published {c : Fleet ι σ} {t : Tables} (h : c.Kept t) (i : ι) (j policy : Nat)
    (e : Edit) (rest : List Step)
    (hj : (c.nodes i).changes[j]? = some (policy, .publish e :: rest)) :
    c.Pending (.setting e.aspect) := by
  have hmem := List.mem_of_getElem? hj
  have hr : Change.Rest t (.publish e :: rest) := h.rests i _ hmem
  cases hr with
  | publish _ key value hv =>
    refine ⟨i, _, hmem, .config, key, ?_, ?_⟩
    · exact List.mem_cons_of_mem _ (List.mem_cons_of_mem _ List.mem_cons_self)
    · rw [← Edit.key_aspect_of_ofSetting? hv]
      exact decide_eq_true rfl

/-- **A turn of one node keeps all instances fresh.** -/
theorem Kept.turn {c c' : Fleet ι σ} {t t' : Tables} (h : c.Kept t) {i : ι} {n' : Node}
    {a : Action ι} (hst : c'.world.store.Shows t')
    (hf : c'.world.store.failing = c.world.store.failing)
    (hn : c'.nodes = Function.update c.nodes i n') (ord : a.Ordinary)
    (ht : Turn t c.world.store.failing (c.nodes i) a t' n') : c'.Kept t' := by
  obtain ⟨hm, hr⟩ := ht.moves ord h.spares (h.rests i)
    fun x => ∃ k, k ≠ i ∧ (c.nodes k).Announces x
  have hnodes : ∀ k, c'.nodes k = if k = i then n' else c.nodes k := by
    intro k
    rw [hn, Function.update_apply]
  -- to the other nodes nothing happens but this
  have moves : Moves t t' c.Pending c'.Pending := by
    have before : ∀ x, c.Pending x →
        (c.nodes i).Announces x ∨ ∃ k, k ≠ i ∧ (c.nodes k).Announces x := by
      rintro x ⟨k, hk⟩
      by_cases hki : k = i
      · exact Or.inl (hki ▸ hk)
      · exact Or.inr ⟨k, hki, hk⟩
    have after : ∀ x, n'.Announces x ∨ (∃ k, k ≠ i ∧ (c.nodes k).Announces x) →
        c'.Pending x := by
      rintro x (hx | ⟨k, hki, hx⟩)
      · exact ⟨i, by rw [hnodes, if_pos rfl]; exact hx⟩
      · exact ⟨k, by rw [hnodes, if_neg hki]; exact hx⟩
    refine ⟨hm.log, ?_, ?_, hm.valid⟩
    · intro x hx
      rcases hm.kept x (before x hx) with hx | hx
      · exact Or.inl (after x hx)
      · exact Or.inr hx
    · intro x
      rcases hm.same x with hx | hx
      · exact Or.inl (after x hx)
      · exact Or.inr hx
  refine ⟨hst, hf ▸ h.spares, ?_, ?_, ?_⟩
  · obtain ⟨more, hmore⟩ := ht.log_grows
    intro k
    rw [hnodes]
    by_cases hk : k = i
    · subst hk
      rw [if_pos rfl]
      exact (h.sound k).turn ht
    · rw [if_neg hk]
      exact (h.sound k).grow hmore
  · intro k
    rw [hnodes]
    by_cases hk : k = i
    · subst hk
      rw [if_pos rfl]
      have hs := (h.sound k).turn_before ht
      exact (ht.fresh ord (h.sound k) (h.fresh k) (h.published k)).moves hs.phase hs.behind moves
    · rw [if_neg hk]
      exact (h.fresh k).moves (h.sound k).phase (h.sound k).behind moves
  · intro k
    rw [hnodes]
    by_cases hk : k = i
    · rw [if_pos hk]
      exact hr
    · rw [if_neg hk]
      exact fun change hc => (h.rests k change hc).mono hm.valid

omit [DecidableEq ι] in
/-- A change of the weather that spares the writing calls does no harm. -/
theorem Kept.weather {c c' : Fleet ι σ} {t : Tables} (h : c.Kept t)
    (hst : c'.world.store.Shows t) (hf : c'.world.store.failing.Spares)
    (hn : c'.nodes = c.nodes) : c'.Kept t := by
  refine ⟨hst, hf, ?_, ?_, ?_⟩
  · rw [hn]
    exact h.sound
  · unfold Pending
    rw [hn]
    exact h.fresh
  · rw [hn]
    exact h.rests

/-- **An ordinary action keeps all instances fresh.** -/
theorem Kept.step {c : Fleet ι σ} {t : Tables} (h : c.Kept t) {a : Action ι}
    (ord : a.Ordinary) : ∃ t', (c.step a).Kept t' := by
  rcases step_turn h.shows a with ⟨failing, rfl, hn, hst, hf⟩ | ⟨i, t', n', -, hst, hf, hn, ht⟩
  · exact ⟨t, h.weather hst (hf ▸ ord) hn⟩
  · exact ⟨t', h.turn hst hf hn ord ht⟩

theorem Kept.run (actions : List (Action ι)) {c : Fleet ι σ} {t : Tables} (h : c.Kept t)
    (ord : ∀ a ∈ actions, a.Ordinary) : ∃ t', (c.run actions).Kept t' := by
  induction actions generalizing c t with
  | nil => exact ⟨t, h⟩
  | cons a actions ih =>
    obtain ⟨t', h'⟩ := h.step (ord a List.mem_cons_self)
    exact ih h' fun b hb => ord b (List.mem_cons_of_mem a hb)

omit [DecidableEq ι] in
theorem Kept.start (w : World (Faulty σ)) {t : Tables} (ht : w.store.Shows t)
    (spares : w.store.failing.Spares) : (start w : Fleet ι σ).Kept t where
  shows := ht
  spares := spares
  sound _ := .fresh t
  fresh _ := .fresh t _
  rests _ _ h := by cases h

end Fleet

end Firewall
