import Firewall.Proofs.Fleet.Delivery
import Firewall.Proofs.Policy.Aspect

/-!
What an instance has in memory and what the store says. Between the two stand the
changes that have not been announced yet, the entries that the feed has not delivered
yet, and the entries that a listener heard of without being able to read the store.
Everything else in memory is as in the store.

Proved here:

* `Fresh.moves`: what the other instances do keeps this so;
* `Fresh.polled`: each step of a poll keeps this so;
* `Fresh.start`, `Fresh.subscribed` and `Fresh.equipped`: so does a start;
* `Fresh.published`: so does an edit whose announcement is still to come.
-/

namespace Firewall

/-! ## Topics -/

/-- What an instance keeps in memory: the aspects of policies, and the countries. -/
inductive Topic
  | setting (a : Aspect)
  | countries
  deriving DecidableEq, Repr

def Topic.named : Topic → Table × String → Bool
  | setting a, entry => entry = (.config, a.key)
  | countries, entry => entry.1 = .geoip

/-- Two states of the tables say the same about a topic. -/
def Topic.Same (t t' : Tables) : Topic → Prop
  | setting a => (Policy.ofSettings t'.settings.rows).current a =
      (Policy.ofSettings t.settings.rows).current a
  | countries => Geo.CountryTable.ofRules t'.rules = .ofRules t.rules

/-- A listener has in memory what the tables say about a topic. What is none of its
business it reflects, whatever it is. -/
def Reflects (t : Tables) (i : Instance) : Listener → Topic → Prop
  | .policy n, .setting a => ∀ p, i.policies[n]? = some p →
      p.current a = (Policy.ofSettings t.settings.rows).current a
  | .guard n, .countries => ∀ g, i.guards[n]? = some g → g.table = .ofRules t.rules
  | _, _ => True

theorem Reflects.same {t t' : Tables} {i : Instance} {who : Listener} {x : Topic}
    (h : Reflects t i who x) (hs : x.Same t t') : Reflects t' i who x := by
  cases who with
  | policy n =>
    cases x with
    | setting a => exact fun p hp => (h p hp).trans hs.symm
    | countries => trivial
  | guard n =>
    cases x with
    | setting a => trivial
    | countries => exact fun g hg => (h g hg).trans hs.symm
  | recorder name => cases x <;> trivial

/-- A change of a topic is on its way: it has still to be announced, or its entry comes
at a place of the log or later. -/
def Awaited (t : Tables) (pending : Topic → Prop) (place : Nat) (x : Topic) : Prop :=
  pending x ∨ ∃ n entry, place ≤ n ∧ t.log[n]? = some entry ∧ x.named entry = true

/-- One entry later, a topic is still awaited unless that entry named it. -/
theorem Awaited.succ {t : Tables} {pending : Topic → Prop} {place : Nat} {x : Topic}
    (h : Awaited t pending place x) {entry : Table × String} (hl : t.log[place]? = some entry)
    (hn : x.named entry = false) : Awaited t pending (place + 1) x := by
  rcases h with h | ⟨n, entry', hp, hl', hn'⟩
  · exact Or.inl h
  · refine Or.inr ⟨n, entry', ?_, hl', hn'⟩
    have : n ≠ place := by
      rintro rfl
      rw [hl] at hl'
      cases hl'
      rw [hn] at hn'
      cases hn'
    omega

def lastHearing (heard : List Hearing) (who : Listener) (x : Topic) : Option Hearing :=
  (heard.filter fun h => h.who = who ∧ x.named (h.entry.table, h.entry.key)).getLast?

theorem lastHearing_append (heard : List Hearing) (h : Hearing) (who : Listener) (x : Topic) :
    lastHearing (heard ++ [h]) who x =
      if h.who = who ∧ x.named (h.entry.table, h.entry.key) then some h
      else lastHearing heard who x := by
  unfold lastHearing
  rw [List.filter_append]
  by_cases hw : h.who = who ∧ x.named (h.entry.table, h.entry.key)
  · simp [hw]
  · rw [if_neg hw]
    simp [hw]

/-- The last time a listener heard of a topic, it could not read the store. -/
def Missed (heard : List Hearing) (who : Listener) (x : Topic) : Prop :=
  ∃ h, lastHearing heard who x = some h ∧ h.read = false

instance (heard : List Hearing) (who : Listener) (x : Topic) : Decidable (Missed heard who x) :=
  decidable_of_iff ((lastHearing heard who x).any fun h => !h.read) (by
    simp [Missed, Option.any_eq_true])

/-! ## Changes on their way -/

/-- A stored value makes sense, if the entry is about a setting. -/
def Tables.Valid (t : Tables) (entry : Table × String) : Prop :=
  entry.1 = .config → ∃ value e, t.settings.get? entry.2 = some value ∧
    Edit.ofSetting? entry.2 value = some e

/-- What the tables and the changes on their way may do while an instance looks away. -/
structure Moves (t t' : Tables) (pending pending' : Topic → Prop) : Prop where
  log : ∃ more, t'.log = t.log ++ more ∧ ∀ entry ∈ more, t'.Valid entry
  kept : ∀ x, pending x → Awaited t' pending' t.log.length x
  same : ∀ x, pending' x ∨ x.Same t t'
  valid : ∀ entry, t.Valid entry → t'.Valid entry

theorem Awaited.moves {t t' : Tables} {pending pending' : Topic → Prop} {place : Nat}
    {x : Topic} (h : Awaited t pending place x) (hp : place ≤ t.log.length)
    (hm : Moves t t' pending pending') : Awaited t' pending' place x := by
  rcases h with h | ⟨n, entry, hn, hl, hx⟩
  · rcases hm.kept x h with h | ⟨n, entry, hn, hl, hx⟩
    · exact Or.inl h
    · exact Or.inr ⟨n, entry, Nat.le_trans hp hn, hl, hx⟩
  · obtain ⟨more, hmore, -⟩ := hm.log
    refine Or.inr ⟨n, entry, hn, ?_, hx⟩
    obtain ⟨hlt, -⟩ := List.getElem?_eq_some_iff.mp hl
    rw [hmore, List.getElem?_append_left hlt]
    exact hl

/-! ## Freshness -/

def News.About : News → Topic → Prop
  | setting _ key _, x => ∃ a, x = .setting a ∧ a.key = key
  | rules _ _, x => x = .countries

/-- A listener is about to apply news of a topic. -/
def Phase.Applies (who : Listener) (x : Topic) : Phase → Prop
  | .applying _ _ news _ => news.who = who ∧ news.About x
  | _ => False

/-- What the news say is what the tables say. -/
def News.Right (t : Tables) : News → Topic → Prop
  | setting _ key value, .setting a => ∃ e, Edit.ofSetting? key value = some e ∧
      (Policy.ofSettings t.settings.rows).current a = some e
  | rules _ read, .countries => Geo.CountryTable.ofRules read = .ofRules t.rules
  | _, _ => True

/-- What a listener begins with is what the tables say. -/
def Boot.Right (t : Tables) : Boot → Topic → Prop
  | settings rows, .setting a => (Policy.ofSettings rows).current a =
      (Policy.ofSettings t.settings.rows).current a
  | rules read _, .countries => Geo.CountryTable.ofRules read = .ofRules t.rules
  | _, _ => True

/-- **What an instance has in memory is fresh**, except for what is on its way or was
missed. -/
structure Fresh (t : Tables) (pending : Topic → Prop) (i : Instance) (boot : Option Boot)
    (phase : Phase) (heard : List Hearing) : Prop where
  held : ∀ who x, Reflects t i who x ∨ Awaited t pending (phase.reached who i.last) x ∨
    Missed heard who x ∨ phase.Applies who x
  news : ∀ p e news todo, phase = .applying p e news todo → ∀ x, news.About x →
    news.Right t x ∨ Awaited t pending (i.last + 1) x
  boot : ∀ b, boot = some b → ∀ x, b.Right t x ∨ Awaited t pending i.last x
  valid : i.feed ≠ none → ∀ k entry, i.last ≤ k → t.log[k]? = some entry → t.Valid entry
  policies : ∀ k, k < i.policies.length → .policy k ∈ i.listeners .config
  guards : ∀ k, k < i.guards.length → .guard k ∈ i.listeners .geoip
  apart : ∀ k, .policy k ∉ i.listeners .geoip ∧ .guard k ∉ i.listeners .config

namespace Fresh

variable {t : Tables} {pending : Topic → Prop} {i : Instance} {boot : Option Boot}
  {phase : Phase} {heard : List Hearing}

theorem fresh (t : Tables) (pending : Topic → Prop) : Fresh t pending .fresh none .idle [] where
  held who x := by
    refine Or.inl ?_
    cases who <;> cases x <;> first | trivial | (intro p hp; cases hp)
  news _ _ _ _ h := by cases h
  boot _ h := by cases h
  valid h := absurd rfl h
  policies _ h := absurd h (Nat.not_lt_zero _)
  guards _ h := absurd h (Nat.not_lt_zero _)
  apart _ := by constructor <;> intro h <;> cases h

/-- **What the others do keeps an instance fresh.** -/
theorem moves (h : Fresh t pending i boot phase heard) (hs : phase.Sound i t.log)
    (behind : i.last ≤ t.log.length) {t' : Tables} {pending' : Topic → Prop}
    (hm : Moves t t' pending pending') : Fresh t' pending' i boot phase heard := by
  have reached := hs.reached_le behind
  refine ⟨?_, ?_, ?_, ?_, h.policies, h.guards, h.apart⟩
  · intro who x
    rcases h.held who x with hr | ha | hrest
    · rcases hm.same x with hp | hsame
      · exact Or.inr (Or.inl (Or.inl hp))
      · exact Or.inl (hr.same hsame)
    · exact Or.inr (Or.inl (ha.moves (reached who) hm))
    · exact Or.inr (Or.inr hrest)
  · intro p e news todo hn x hx
    rw [hn] at hs
    have hlt := Nat.lt_of_lt_of_le hs.1.room hs.1.head
    rcases h.news p e news todo hn x hx with hr | ha
    · rcases hm.same x with hp | hsame
      · exact Or.inr (Or.inl hp)
      · refine Or.inl ?_
        cases news with
        | setting k key value =>
          obtain ⟨a, rfl, -⟩ := hx
          obtain ⟨e, he, hc⟩ := hr
          exact ⟨e, he, Eq.trans hsame hc⟩
        | rules k read =>
          cases hx
          exact Eq.trans hr hsame.symm
    · exact Or.inr (ha.moves hlt hm)
  · intro b hb x
    rcases h.boot b hb x with hr | ha
    · rcases hm.same x with hp | hsame
      · exact Or.inr (Or.inl hp)
      · refine Or.inl ?_
        cases b <;> cases x <;> first | trivial | exact Eq.trans hr hsame.symm
    · exact Or.inr (ha.moves behind hm)
  · intro hf k entry hk hl
    obtain ⟨more, hmore, hvalid⟩ := hm.log
    rw [hmore] at hl
    by_cases hlt : k < t.log.length
    · rw [List.getElem?_append_left hlt] at hl
      exact hm.valid entry (h.valid hf k entry hk hl)
    · rw [List.getElem?_append_right (Nat.le_of_not_lt hlt)] at hl
      exact hvalid entry (List.mem_of_getElem? hl)

/-! ### Polls -/

/-- An entry says nothing to those who do not listen to its table. -/
theorem reflects_unlisted (h : Fresh t pending i boot phase heard) {who : Listener} {x : Topic}
    (entry : Table × String) (hw : who ∉ i.listeners entry.1) (hx : x.named entry = true) :
    Reflects t i who x := by
  cases who with
  | policy k =>
    cases x with
    | setting a =>
      intro p hp
      obtain ⟨hk, -⟩ := List.getElem?_eq_some_iff.mp hp
      simp only [Topic.named, decide_eq_true_eq] at hx
      rw [hx] at hw
      exact absurd (h.policies k hk) hw
    | countries => trivial
  | guard k =>
    cases x with
    | setting a => trivial
    | countries =>
      intro g hg
      obtain ⟨hk, -⟩ := List.getElem?_eq_some_iff.mp hg
      simp only [Topic.named, decide_eq_true_eq] at hx
      rw [hx] at hw
      exact absurd (h.guards k hk) hw
  | recorder name => cases x <;> trivial

theorem fetched {p : Progress} (h : Fresh t pending i boot (.catching p) heard)
    {table : Table} {key : String} (logged : t.log[i.last]? = some (table, key)) (e : LogEntry) :
    Fresh t pending i boot (.delivering p e (i.listeners table)) heard := by
  refine ⟨?_, ?_, h.boot, h.valid, h.policies, h.guards, h.apart⟩
  · intro who x
    simp only [Phase.reached]
    by_cases hw : who ∈ i.listeners table
    · rw [if_pos hw]
      rcases h.held who x with hr | ha | hm | hp
      · exact Or.inl hr
      · exact Or.inr (Or.inl ha)
      · exact Or.inr (Or.inr (Or.inl hm))
      · cases hp
    · rw [if_neg hw]
      cases hx : x.named (table, key) with
      | true => exact Or.inl (h.reflects_unlisted (table, key) hw hx)
      | false =>
        rcases h.held who x with hr | ha | hm | hp
        · exact Or.inl hr
        · exact Or.inr (Or.inl (ha.succ logged hx))
        · exact Or.inr (Or.inr (Or.inl hm))
        · cases hp
  · intro _ _ _ _ hn
    cases hn

/-- What hearing of an entry changes for the listeners: the one that hears of it has to
see to the topics that the entry names, and nothing changes about the others. -/
theorem told {p : Progress} {e : LogEntry} {who : Listener} {todo : List Listener}
    (h : Fresh t pending i boot (.delivering p e (who :: todo)) heard)
    (hp : p.Handles e i.last t.log) (once : who ∉ todo) (read : Bool) (other : Listener)
    (x : Topic) (hx : ¬ (who = other ∧ x.named (e.table, e.key) = true)) :
    Reflects t i other x ∨
      Awaited t pending (if other ∈ todo then i.last else i.last + 1) x ∨
      Missed (heard ++ [⟨who, e, read⟩]) other x := by
  have hmiss : Missed heard other x → Missed (heard ++ [⟨who, e, read⟩]) other x := by
    rintro ⟨h, hl, hr⟩
    refine ⟨h, ?_, hr⟩
    rw [lastHearing_append, if_neg hx]
    exact hl
  rcases h.held other x with hr | ha | hm | hp'
  · exact Or.inl hr
  · refine Or.inr (Or.inl ?_)
    simp only [Phase.reached, List.mem_cons] at ha
    by_cases hw : who = other
    · subst hw
      rw [if_pos (Or.inl rfl)] at ha
      rw [if_neg once]
      refine ha.succ hp.logged ?_
      cases hn : x.named (e.table, e.key) with
      | true => exact absurd ⟨rfl, hn⟩ hx
      | false => rfl
    · simp only [Ne.symm hw, false_or] at ha
      exact ha
  · exact Or.inr (Or.inr (hmiss hm))
  · cases hp'

theorem unread {p : Progress} {e : LogEntry} {who : Listener} {todo : List Listener}
    (h : Fresh t pending i boot (.delivering p e (who :: todo)) heard)
    (hp : p.Handles e i.last t.log) (once : who ∉ todo) :
    Fresh t pending i boot (.delivering p e todo) (heard ++ [⟨who, e, false⟩]) := by
  refine ⟨?_, ?_, h.boot, h.valid, h.policies, h.guards, h.apart⟩
  · intro other x
    by_cases hx : who = other ∧ x.named (e.table, e.key) = true
    · refine Or.inr (Or.inr (Or.inl ⟨⟨who, e, false⟩, ?_, rfl⟩))
      rw [lastHearing_append, if_pos hx]
    · rcases h.told hp once false other x hx with hr | ha | hm
      · exact Or.inl hr
      · exact Or.inr (Or.inl ha)
      · exact Or.inr (Or.inr (Or.inl hm))
  · intro _ _ _ _ hn
    cases hn

theorem read {p : Progress} {e : LogEntry} (news : News) {todo : List Listener}
    (h : Fresh t pending i boot (.delivering p e (news.who :: todo)) heard)
    (hp : p.Handles e i.last t.log) (once : news.who ∉ todo)
    (about : ∀ x, x.named (e.table, e.key) = true → ¬ Reflects t i news.who x → news.About x)
    (right : ∀ x, news.About x → news.Right t x) :
    Fresh t pending i boot (.applying p e news todo) (heard ++ [⟨news.who, e, true⟩]) := by
  refine ⟨?_, ?_, h.boot, h.valid, h.policies, h.guards, h.apart⟩
  · intro other x
    by_cases hx : news.who = other ∧ x.named (e.table, e.key) = true
    · obtain ⟨rfl, hx⟩ := hx
      by_cases hr : Reflects t i news.who x
      · exact Or.inl hr
      · exact Or.inr (Or.inr (Or.inr ⟨rfl, about x hx hr⟩))
    · rcases h.told hp once true other x hx with hr | ha | hm
      · exact Or.inl hr
      · exact Or.inr (Or.inl ha)
      · exact Or.inr (Or.inr (Or.inl hm))
  · intro _ _ _ _ hn x hx
    cases hn
    exact Or.inl (right x hx)

/-- What is in memory is about the policies, the guards and the feed of an instance. -/
theorem of_parts (h : Fresh t pending i boot phase heard) {i' : Instance}
    (hf : i'.feed = i.feed) (hp : i'.policies = i.policies) (hg : i'.guards = i.guards) :
    Fresh t pending i' boot phase heard := by
  have hl := Instance.last_of_feed hf
  have hlist := Instance.listeners_of_feed hf
  refine ⟨?_, ?_, ?_, ?_, ?_, ?_, ?_⟩
  · intro who x
    rw [hl]
    rcases h.held who x with hr | hrest
    · refine Or.inl ?_
      cases who <;> cases x <;> first | trivial | (simp only [Reflects, hp, hg] at hr ⊢; exact hr)
    · exact Or.inr hrest
  · rw [hl]
    exact h.news
  · rw [hl]
    exact h.boot
  · rw [hl, hf]
    exact h.valid
  · rw [hp, hlist]
    exact h.policies
  · rw [hg, hlist]
    exact h.guards
  · rw [hlist, hlist]
    exact h.apart

end Fresh

theorem modify_getElem?_eq_some {α : Type} {xs : List α} {k n : Nat} {f : α → α} {y : α}
    (h : (xs.modify k f)[n]? = some y) : ∃ x, xs[n]? = some x ∧ y = if k = n then f x else x := by
  rw [List.getElem?_modify] at h
  cases hx : xs[n]? with
  | none =>
    rw [hx] at h
    cases h
  | some x =>
    rw [hx] at h
    exact ⟨x, rfl, (Option.some.inj h).symm⟩

/-- News that are right make a listener reflect what they are about. -/
theorem News.Right.reflects {t : Tables} {news : News} {x : Topic} (h : news.Right t x)
    (hx : news.About x) (i : Instance) : Reflects t (i.apply news) news.who x := by
  cases news with
  | setting k key value =>
    obtain ⟨a, rfl, hk⟩ := hx
    obtain ⟨e, he, hc⟩ := h
    intro p hp
    obtain ⟨q, -, rfl⟩ := modify_getElem?_eq_some hp
    rw [if_pos rfl, Policy.current_readSetting, if_pos hk, he, hc]
    rfl
  | rules k read =>
    cases hx
    intro g hg
    obtain ⟨q, -, rfl⟩ := modify_getElem?_eq_some hg
    rw [if_pos rfl]
    exact h

/-- News change nothing but what they are about. -/
theorem Reflects.apply {t : Tables} {i : Instance} {who : Listener} {x : Topic}
    (h : Reflects t i who x) {news : News} (hx : ¬ (news.who = who ∧ news.About x)) :
    Reflects t (i.apply news) who x := by
  cases news with
  | setting k key value =>
    cases who with
    | policy n =>
      cases x with
      | setting a =>
        intro p hp
        obtain ⟨q, hq, rfl⟩ := modify_getElem?_eq_some hp
        by_cases hk : k = n
        · have ha : a.key ≠ key := by
            intro ha
            exact hx ⟨congrArg Listener.policy hk, a, rfl, ha⟩
          rw [if_pos hk, Policy.current_readSetting, if_neg ha]
          exact h q hq
        · rw [if_neg hk]
          exact h q hq
      | countries => trivial
    | guard n => cases x <;> exact h
    | recorder name => cases x <;> exact h
  | rules k read =>
    cases who with
    | guard n =>
      cases x with
      | setting a => trivial
      | countries =>
        intro g hg
        obtain ⟨q, hq, rfl⟩ := modify_getElem?_eq_some hg
        have hk : k ≠ n := by
          rintro rfl
          exact hx ⟨rfl, rfl⟩
        rw [if_neg hk]
        exact h q hq
    | policy n => cases x <;> exact h
    | recorder name => cases x <;> exact h

/-- A listener that begins with what is right reflects the tables, as the others do. -/
theorem Reflects.equip {t : Tables} {i : Instance} {who : Listener} {x : Topic}
    (h : Reflects t i who x) {b : Boot} (right : b.Right t x) : Reflects t (i.equip b) who x := by
  cases b with
  | settings rows =>
    cases who with
    | policy k =>
      cases x with
      | setting a =>
        intro p hp
        rw [Instance.equip, List.getElem?_append] at hp
        split at hp
        · exact h p hp
        · rw [List.mem_singleton.mp (List.mem_of_getElem? hp)]
          exact right
      | countries => trivial
    | guard k => cases x <;> exact h
    | recorder name => cases x <;> exact h
  | rules read lookup =>
    cases who with
    | guard k =>
      cases x with
      | setting a => trivial
      | countries =>
        intro g hg
        rw [Instance.equip, List.getElem?_append] at hg
        split at hg
        · exact h g hg
        · rw [List.mem_singleton.mp (List.mem_of_getElem? hg)]
          exact right
    | policy k => cases x <;> exact h
    | recorder name => cases x <;> exact h

/-- An edit changes nothing but its own aspect. -/
theorem Reflects.edit {t : Tables} {i : Instance} {who : Listener} {x : Topic}
    (h : Reflects t i who x) {policy : Nat} {e : Edit} (hx : x ≠ .setting e.aspect) :
    Reflects t (i.perform policy (.publish e)) who x := by
  cases who with
  | policy k =>
    cases x with
    | setting a =>
      intro p hp
      obtain ⟨q, hq, rfl⟩ := modify_getElem?_eq_some hp
      by_cases hk : policy = k
      · have ha : e.aspect ≠ a := by
          rintro rfl
          exact hx rfl
        rw [if_pos hk, Policy.current_edit, if_neg ha]
        exact h q hq
      · rw [if_neg hk]
        exact h q hq
    | countries => trivial
  | guard k => cases x <;> exact h
  | recorder name => cases x <;> exact h

namespace Fresh

variable {t : Tables} {pending : Topic → Prop} {i : Instance} {boot : Option Boot}
  {phase : Phase} {heard : List Hearing}

theorem applied {p : Progress} {e : LogEntry} {news : News} {todo : List Listener}
    (h : Fresh t pending i boot (.applying p e news todo) heard) (once : news.who ∉ todo) :
    Fresh t pending (i.apply news) boot (.delivering p e todo) heard := by
  have hf := i.feed_apply news
  have hl := Instance.last_of_feed hf
  have hlist := Instance.listeners_of_feed hf
  refine ⟨?_, ?_, ?_, ?_, ?_, ?_, ?_⟩
  · intro who x
    rw [hl]
    by_cases hx : news.who = who ∧ news.About x
    · obtain ⟨rfl, hx⟩ := hx
      rcases h.news p e news todo rfl x hx with hr | ha
      · exact Or.inl (hr.reflects hx i)
      · refine Or.inr (Or.inl ?_)
        simp only [Phase.reached]
        rw [if_neg once]
        exact ha
    · rcases h.held who x with hr | ha | hm | hp
      · exact Or.inl (hr.apply hx)
      · exact Or.inr (Or.inl ha)
      · exact Or.inr (Or.inr (Or.inl hm))
      · exact absurd hp hx
  · intro _ _ _ _ hn
    cases hn
  · rw [hl]
    exact h.boot
  · rw [hl, hf]
    exact h.valid
  · intro k hk
    rw [hlist]
    refine h.policies k ?_
    cases news with
    | setting n key value => simpa only [Instance.apply, List.length_modify] using hk
    | rules n read => exact hk
  · intro k hk
    rw [hlist]
    refine h.guards k ?_
    cases news with
    | setting n key value => exact hk
    | rules n read => simpa only [Instance.apply, List.length_modify] using hk
  · rw [hlist, hlist]
    exact h.apart

theorem moved {p p' : Progress} {e : LogEntry} {f : Feed Listener}
    (h : Fresh t pending i none (.delivering p e []) heard) (hf : i.feed = some f) :
    Fresh t pending i.advance none (.catching p') heard := by
  have hl := Instance.last_advance hf
  have hlist := Instance.listeners_advance hf
  refine ⟨?_, ?_, ?_, ?_, ?_, ?_, ?_⟩
  · intro who x
    rw [hl]
    rcases h.held who x with hr | ha | hm | hp
    · exact Or.inl hr
    · exact Or.inr (Or.inl ha)
    · exact Or.inr (Or.inr (Or.inl hm))
    · cases hp
  · intro _ _ _ _ hn
    cases hn
  · intro _ hb
    cases hb
  · intro _ k entry hk
    rw [hl] at hk
    exact h.valid (by rw [hf]; exact Option.some_ne_none f) k entry (Nat.le_of_succ_le hk)
  · rw [hlist]
    exact h.policies
  · rw [hlist]
    exact h.guards
  · rw [hlist, hlist]
    exact h.apart

/-- Where a poll stands matters only for who has heard of the next entry. -/
theorem between (h : Fresh t pending i boot phase heard) {phase' : Phase}
    (hr : ∀ who, phase'.reached who i.last = phase.reached who i.last)
    (hn : ∀ who x, ¬ phase.Applies who x)
    (hn' : ∀ p e news todo, phase' ≠ .applying p e news todo) :
    Fresh t pending i boot phase' heard := by
  refine ⟨?_, ?_, h.boot, h.valid, h.policies, h.guards, h.apart⟩
  · intro who x
    rw [hr]
    rcases h.held who x with hr | ha | hm | hp
    · exact Or.inl hr
    · exact Or.inr (Or.inl ha)
    · exact Or.inr (Or.inr (Or.inl hm))
    · exact absurd hp (hn who x)
  · intro p e news todo heq
    exact absurd heq (hn' p e news todo)

/-- A policy has read the setting that an entry names. -/
theorem readSetting {p : Progress} {e : LogEntry} {k : Nat} {value : String}
    {todo : List Listener} {f : Feed Listener} (hf : i.feed = some f)
    (h : Fresh t pending i boot (.delivering p e (.policy k :: todo)) heard)
    (hp : p.Handles e i.last t.log) (hw : .policy k ∈ i.listeners e.table)
    (once : Listener.policy k ∉ todo) (hv : t.setting? e.key = .ok value) :
    Fresh t pending i boot (.applying p e (.setting k e.key value) todo)
      (heard ++ [⟨.policy k, e, true⟩]) := by
  have htable : e.table = .config := by
    cases ht : e.table with
    | config => rfl
    | geoip =>
      rw [ht] at hw
      exact absurd hw (h.apart k).1
  refine read (.setting k e.key value) h hp once ?_ ?_
  · intro x hx hr
    cases x with
    | setting a =>
      simp only [Topic.named, decide_eq_true_eq, Prod.mk.injEq] at hx
      exact ⟨a, rfl, hx.2.symm⟩
    | countries => exact absurd trivial hr
  · rintro x ⟨a, rfl, ha⟩
    have hfeed : i.feed ≠ none := by
      rw [hf]
      exact Option.some_ne_none f
    obtain ⟨value', e', hget, he'⟩ := h.valid hfeed _ _ (Nat.le_refl _) hp.logged htable
    have hget' : t.settings.get? e.key = some value' := hget
    have hvalue : value' = value := by
      unfold Tables.setting? at hv
      rw [hget'] at hv
      exact Except.ok.inj hv
    subst hvalue
    have hset : Edit.ofSetting? e.key value' = some e' := he'
    refine ⟨e', he', ?_⟩
    rw [Policy.current_ofSettings]
    unfold Aspect.stored
    rw [ha, hget', Option.bind_some, hset]
    rfl

/-- A guard has read the country rules. -/
theorem readRules {p : Progress} {e : LogEntry} {k : Nat} {todo : List Listener}
    (h : Fresh t pending i boot (.delivering p e (.guard k :: todo)) heard)
    (hp : p.Handles e i.last t.log) (once : Listener.guard k ∉ todo) :
    Fresh t pending i boot (.applying p e (.rules k t.rules) todo)
      (heard ++ [⟨.guard k, e, true⟩]) := by
  refine read (.rules k t.rules) h hp once ?_ ?_
  · intro x hx hr
    cases x with
    | setting a => exact absurd trivial hr
    | countries => rfl
  · rintro x rfl
    rfl

/-- A recorder has nothing in memory that could be out of date. -/
theorem recorded {p : Progress} {e : LogEntry} {name : String} {todo : List Listener}
    (h : Fresh t pending i boot (.delivering p e (.recorder name :: todo)) heard)
    (hp : p.Handles e i.last t.log) (once : Listener.recorder name ∉ todo) :
    Fresh t pending (i.record name e.key) boot (.delivering p e todo)
      (heard ++ [⟨.recorder name, e, true⟩]) := by
  refine of_parts (i := i) ?_ rfl rfl rfl
  refine ⟨?_, ?_, h.boot, h.valid, h.policies, h.guards, h.apart⟩
  · intro other x
    by_cases hx : Listener.recorder name = other ∧ x.named (e.table, e.key) = true
    · obtain ⟨rfl, -⟩ := hx
      refine Or.inl ?_
      cases x <;> trivial
    · rcases h.told hp once true other x hx with hr | ha | hm
      · exact Or.inl hr
      · exact Or.inr (Or.inl ha)
      · exact Or.inr (Or.inr (Or.inl hm))
  · intro _ _ _ _ hn
    cases hn

/-- **A step of a poll keeps an instance fresh.** -/
theorem polled (h : Fresh t pending i none phase heard) (hs : phase.Sound i t.log)
    {f : Feed Listener} (hf : i.feed = some f) (distinct : f.subscribers.Nodup)
    {failing : Failing} {phase' : Phase} {note : Option Note} {i' : Instance}
    (hm : PollMove t failing i phase phase' note i') :
    Fresh t pending i' none phase' (heard ++ Note.hearings note) := by
  have once : ∀ {who todo table}, who :: todo <:+ i.listeners table → who ∉ todo :=
    fun hsuf => (List.nodup_cons.mp (Instance.once hf distinct hsuf)).1
  have same : ∀ phase'', (∀ who, phase''.reached who i.last = phase.reached who i.last) →
      (∀ who x, ¬ phase.Applies who x) → (∀ p e news todo, phase'' ≠ .applying p e news todo) →
      Fresh t pending i none phase'' (heard ++ []) := by
    intro phase'' hr hn hn'
    rw [List.append_nil]
    exact h.between hr hn hn'
  cases hm with
  | noHead cause => exact same _ (fun _ => rfl) (fun _ _ => id) (by simp)
  | head => exact same _ (fun _ => rfl) (fun _ _ => id) (by simp)
  | noEntry p cause hp => exact same _ (fun _ => rfl) (fun _ _ => id) (by simp)
  | complete p hp => exact same _ (fun _ => rfl) (fun _ _ => id) (by simp)
  | fetched p table key hp logged =>
    rw [Note.hearings, List.append_nil]
    exact h.fetched (hs.1 ▸ logged) _
  | unread p e who todo hu => exact h.unread hs.1 (once hs.2)
  | readSetting p e k value todo hv =>
    exact h.readSetting hf hs.1 (hs.2.mem List.mem_cons_self) (once hs.2) hv
  | readRules p e k todo => exact h.readRules hs.1 (once hs.2)
  | recorded p e name todo => exact h.recorded hs.1 (once hs.2)
  | applied p e news todo =>
    rw [Note.hearings, List.append_nil]
    exact h.applied (once hs.2)
  | moved p e =>
    rw [Note.hearings, List.append_nil]
    exact h.moved hf

/-! ### Starts and changes -/

/-- An instance without a feed has no listeners. -/
theorem start (h : Fresh t pending i none .idle heard) (hf : i.feed = none) :
    Fresh t pending { i with feed := some (.startAt t.log.length) } none .idle heard := by
  have hlist : ∀ table, i.listeners table = [] := by
    intro table
    unfold Instance.listeners
    rw [hf]
  have hp : ∀ k, ¬ k < i.policies.length := by
    intro k hk
    have := h.policies k hk
    rw [hlist] at this
    cases this
  have hg : ∀ k, ¬ k < i.guards.length := by
    intro k hk
    have := h.guards k hk
    rw [hlist] at this
    cases this
  refine ⟨?_, ?_, ?_, ?_, ?_, ?_, ?_⟩
  · intro who x
    refine Or.inl ?_
    cases who with
    | policy k =>
      cases x with
      | setting a => exact fun p hp' => absurd (List.getElem?_eq_some_iff.mp hp').1 (hp k)
      | countries => trivial
    | guard k =>
      cases x with
      | setting a => trivial
      | countries => exact fun p hp' => absurd (List.getElem?_eq_some_iff.mp hp').1 (hg k)
    | recorder name => cases x <;> trivial
  · intro _ _ _ _ hn
    cases hn
  · intro _ hb
    cases hb
  · intro _ k entry hk hl
    have hlt := (List.getElem?_eq_some_iff.mp hl).1
    exact absurd hlt (Nat.not_lt.mpr hk)
  · exact fun k hk => absurd hk (hp k)
  · exact fun k hk => absurd hk (hg k)
  · intro k
    constructor <;> intro hm <;> cases hm

/-- What is read now is what the tables say. -/
theorem loaded (h : Fresh t pending i boot phase heard) {b : Boot} (hb : ∀ x, b.Right t x) :
    Fresh t pending i (some b) phase heard :=
  ⟨h.held, h.news, fun _ hb' x => Or.inl (Option.some.inj hb' ▸ hb x), h.valid, h.policies,
    h.guards, h.apart⟩

/-- A subscription gives the instance a listener of a table. -/
theorem subscribed (h : Fresh t pending i boot .idle heard) {f : Feed Listener}
    (hf : i.feed = some f) (table : Table) (who : Listener)
    (hp : ∀ k, who = .policy k → table = .config) (hg : ∀ k, who = .guard k → table = .geoip) :
    Fresh t pending { i with feed := some (f.subscribe table who) } boot .idle heard := by
  have hl : Instance.last { i with feed := some (f.subscribe table who) } = i.last :=
    (f.last_subscribe table who).trans (Instance.last_eq hf).symm
  have hmem := Instance.mem_listeners_subscribe hf table who
  refine ⟨?_, ?_, ?_, ?_, ?_, ?_, ?_⟩
  · intro other x
    rw [hl]
    rcases h.held other x with hr | hrest
    · refine Or.inl ?_
      cases other <;> cases x <;> exact hr
    · exact Or.inr hrest
  · intro _ _ _ _ hn
    cases hn
  · rw [hl]
    exact h.boot
  · rw [hl]
    exact fun _ => h.valid (by rw [hf]; exact Option.some_ne_none f)
  · exact fun k hk => (hmem _ _).mpr (Or.inr (h.policies k hk))
  · exact fun k hk => (hmem _ _).mpr (Or.inr (h.guards k hk))
  · intro k
    constructor
    · intro hm
      rcases (hmem _ _).mp hm with heq | hm
      · obtain ⟨ht, hw⟩ := Prod.mk.inj heq
        rw [hp k hw.symm] at ht
        cases ht
      · exact (h.apart k).1 hm
    · intro hm
      rcases (hmem _ _).mp hm with heq | hm
      · obtain ⟨ht, hw⟩ := Prod.mk.inj heq
        rw [hg k hw.symm] at ht
        cases ht
      · exact (h.apart k).2 hm

/-- A listener that has joined begins with what was read for it. -/
theorem equipped {b : Boot} (h : Fresh t pending i (some b) .idle heard)
    (hm : b.listener i ∈ i.listeners b.table) : Fresh t pending (i.equip b) none .idle heard := by
  have hf := i.feed_equip b
  have hl := Instance.last_of_feed hf
  have hlist := Instance.listeners_of_feed hf
  refine ⟨?_, ?_, ?_, ?_, ?_, ?_, ?_⟩
  · intro who x
    rw [hl]
    rcases h.held who x with hr | hrest
    · rcases h.boot b rfl x with hright | ha
      · exact Or.inl (hr.equip hright)
      · exact Or.inr (Or.inl ha)
    · exact Or.inr hrest
  · intro _ _ _ _ hn
    cases hn
  · intro _ hb
    cases hb
  · rw [hl, hf]
    exact h.valid
  · intro k hk
    rw [hlist]
    cases b with
    | settings rows =>
      rw [Instance.equip, List.length_append, List.length_singleton] at hk
      rcases Nat.lt_succ_iff_lt_or_eq.mp hk with hk | rfl
      · exact h.policies k hk
      · exact hm
    | rules read lookup => exact h.policies k hk
  · intro k hk
    rw [hlist]
    cases b with
    | settings rows => exact h.guards k hk
    | rules read lookup =>
      rw [Instance.equip, List.length_append, List.length_singleton] at hk
      rcases Nat.lt_succ_iff_lt_or_eq.mp hk with hk | rfl
      · exact h.guards k hk
      · exact hm
  · rw [hlist, hlist]
    exact h.apart

/-- An edit is published while its announcement is still to come. -/
theorem published (h : Fresh t pending i boot phase heard) (policy : Nat) (e : Edit)
    (hp : pending (.setting e.aspect)) :
    Fresh t pending (i.perform policy (.publish e)) boot phase heard := by
  refine ⟨?_, h.news, h.boot, h.valid, ?_, h.guards, h.apart⟩
  · intro who x
    by_cases hx : x = .setting e.aspect
    · exact Or.inr (Or.inl (Or.inl (hx ▸ hp)))
    · rcases h.held who x with hr | hrest
      · exact Or.inl (hr.edit hx)
      · exact Or.inr hrest
  · intro k hk
    refine h.policies k ?_
    simpa only [Instance.perform, List.length_modify] using hk

end Fresh

end Firewall
