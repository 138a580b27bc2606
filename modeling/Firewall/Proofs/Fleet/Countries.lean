import Firewall.Proofs.Fleet.Convergence
import Firewall.Proofs.Geo.Countries

/-!
A choice of countries takes effect. Its rules are stored and then announced in the change log; a
guard that hears of the announcement reads the rules again. Whatever a guard has read before is
overwritten then, because the announcement comes after the rules, and a guard applies what it has
read before it hears of the next entry.

Proved here:

* `Site.changeCountries_refused`, `Site.changeCountries_accepted`: the change in one go, which
  makes the same steps one after the other;
* `Fleet.run_undisturbed`: what every turn keeps while no other rules are stored, a run keeps;
* `Heeds.polled`: a guard has the rules, or has the announcement still before it, or could not
  read when it heard of it;
* `Node.Reaches.turn`: a poll that begins after the announcement and ends well gets behind it;
* `Fleet.rules_stored`, `Fleet.rules_announced`: what the two steps of a choice bring about;
* `Fleet.choice_of_countries`: from the choice to the verdict on each request.
-/

namespace Firewall

variable {σ : Type}

/-! ## The change in one go -/

namespace Site

variable [RecordStore σ]

theorem changeCountries_refused {codes : List String} (h : ¬ ∀ text ∈ codes, Change.IsCode text)
    (allow : Bool) (s : Site σ) :
    ∃ cause, (changeCountries codes allow).run s = (.error (.argument cause), s) := by
  obtain ⟨cause, hcause⟩ := Change.setCountries_of_not_isCode h allow
  refine ⟨cause, ?_⟩
  rw [changeCountries, hcause]
  rfl

variable [LawfulStore σ] [KeepsRules σ]

theorem ask_putRules {s : Site (Faulty σ)} {t : Tables} (ht : s.world.store.Shows t)
    (rules : List CountryRule) (calm : s.world.store.failing.stops .putRules = false) :
    ∃ kept store, kept ⊆ rules ∧ SameRules kept rules ∧
      Faulty.Shows store { t with rules := kept } ∧
      store.failing = s.world.store.failing ∧
      ask (RecordStore.putRules rules) s =
        (.ok (), { s with world := { s.world with store } }) := by
  obtain ⟨kept, hsub, hsame, hgives⟩ := KeepsRules.putRules rules ht
  rcases ask_guarded (·.stops .putRules) .putRules hgives with
    ⟨hstops, -⟩ | ⟨-, store, hst, hf, ho⟩
  · rw [calm] at hstops
    cases hstops
  · exact ⟨kept, store, hsub, hsame, hst, hf, ho⟩

omit [KeepsRules σ] in
theorem ask_append {s : Site (Faulty σ)} {t : Tables} (ht : s.world.store.Shows t)
    (table : Table) (key : String) (calm : s.world.store.failing.stops .append = false) :
    ∃ store, Faulty.Shows store (t.logged table key) ∧
      store.failing = s.world.store.failing ∧
      ask (RecordStore.append table key) s =
        (.ok (t.log.length + 1), { s with world := { s.world with store } }) := by
  rcases ask_guarded (·.stops .append) .append (LawfulStore.append table key ht) with
    ⟨hstops, -⟩ | ⟨-, store, hst, hf, ho⟩
  · rw [calm] at hstops
    cases hstops
  · exact ⟨store, hst, hf, ho⟩

/-- **A choice of codes is carried out** if the store takes it: the rules are stored, one entry is
added to the log, and the instance stays as it is. -/
theorem changeCountries_accepted {s : Site (Faulty σ)} {t : Tables} (ht : s.world.store.Shows t)
    {codes : List String} (h : ∀ text ∈ codes, Change.IsCode text) (allow : Bool)
    (puts : s.world.store.failing.stops .putRules = false)
    (appends : s.world.store.failing.stops .append = false) :
    ∃ kept store, kept ⊆ Change.rulesOf codes allow ∧
      SameRules kept (Change.rulesOf codes allow) ∧
      Faulty.Shows store (Tables.logged { t with rules := kept } .geoip (Change.ruleWord allow)) ∧
      (changeCountries codes allow).run s =
        (.ok (), { s with world := { s.world with store } }) := by
  obtain ⟨kept, store, hsub, hsame, hst, hf, hput⟩ :=
    ask_putRules ht (Change.rulesOf codes allow) puts
  obtain ⟨last, hlast, -, happend⟩ :=
    ask_append (s := { s with world := { s.world with store } }) hst .geoip
      (Change.ruleWord allow) (hf ▸ appends)
  refine ⟨kept, last, hsub, hsame, hlast, ?_⟩
  rw [changeCountries, Change.setCountries_of_isCode h]
  show (performAll 0 [.putRules _, .announce _ _]).run s = _
  rw [performAll_cons_run, perform_putRules_run, hput]
  simp only
  rw [performAll_cons_run, perform_announce_run, happend]
  rfl

/-- **A choice succeeds**, if the store takes it, exactly if every text is a code. -/
theorem changeCountries_ok_iff {s : Site (Faulty σ)} {t : Tables} (ht : s.world.store.Shows t)
    (codes : List String) (allow : Bool) (puts : s.world.store.failing.stops .putRules = false)
    (appends : s.world.store.failing.stops .append = false) :
    (∃ after, (changeCountries codes allow).run s = (.ok (), after)) ↔
      ∀ text ∈ codes, Change.IsCode text := by
  constructor
  · rintro ⟨after, hrun⟩
    by_contra hcodes
    obtain ⟨cause, hrefused⟩ := changeCountries_refused hcodes allow s
    rw [hrefused] at hrun
    cases hrun
  · intro hcodes
    obtain ⟨kept, store, -, -, -, hrun⟩ := changeCountries_accepted ht hcodes allow puts appends
    exact ⟨_, hrun⟩

end Site

/-! ## No other rules -/

/-- Rules are stored by a step of a change only. -/
theorem Turn.rules_stay {ι : Type} {t t' : Tables} {failing : Failing} {n n' : Node}
    {a : Action ι} (ht : Turn t failing n a t' n')
    (h : ∀ i j policy rules rest, a = .carry i j →
      n.changes[j]? ≠ some (policy, .putRules rules :: rest)) : t'.rules = t.rules := by
  cases ht with
  | carried i j _ _ hc =>
    cases hc with
    | done policy step rest _ hj he =>
      cases he with
      | putRules rules kept _ => exact absurd hj (h i j policy rules rest rfl)
      | _ => rfl
    | _ => rfl
  | _ => rfl

namespace Fleet

variable {ι : Type} [DecidableEq ι]

/-- The next step of a change stores country rules. -/
def Replaces (c : Fleet ι σ) (a : Action ι) : Prop :=
  ∃ i j policy rules rest,
    a = .carry i j ∧ (c.nodes i).changes[j]? = some (policy, .putRules rules :: rest)

variable [RecordStore σ]

/-- No country rules are stored by these actions. -/
def Undisturbed (c : Fleet ι σ) : List (Action ι) → Prop
  | [] => True
  | a :: actions => ¬ c.Replaces a ∧ (c.step a).Undisturbed actions

theorem undisturbed_append {c : Fleet ι σ} {first second : List (Action ι)} :
    c.Undisturbed (first ++ second) ↔ c.Undisturbed first ∧ (c.run first).Undisturbed second := by
  induction first generalizing c with
  | nil => exact ⟨fun h => ⟨trivial, h⟩, fun h => h.2⟩
  | cons a first ih =>
    rw [List.cons_append, Undisturbed, Undisturbed, ih, and_assoc]
    rfl

variable [LawfulStore σ]

/-- What every turn keeps that stores no rules, a run keeps in which no rules are stored. -/
theorem run_undisturbed {P : ι → Tables → Node → Prop}
    (turn : ∀ {i : ι} {t t' : Tables} {failing : Failing} {n n' : Node} {a : Action ι},
      P i t n → Turn t failing n a t' n' → t'.rules = t.rules → P i t' n')
    (grow : ∀ {i : ι} {t t' : Tables} {n : Node} {more : List (Table × String)},
      P i t n → t'.log = t.log ++ more → t'.rules = t.rules → P i t' n)
    (actions : List (Action ι)) {c : Fleet ι σ} {t : Tables} (ht : c.world.store.Shows t)
    (undisturbed : c.Undisturbed actions) (h : ∀ i, P i t (c.nodes i)) :
    ∃ t', (c.run actions).world.store.Shows t' ∧ t'.rules = t.rules ∧
      ∀ i, P i t' ((c.run actions).nodes i) := by
  induction actions generalizing c t with
  | nil => exact ⟨t, ht, rfl, h⟩
  | cons a actions ih =>
    obtain ⟨hkeeps, hrest⟩ := undisturbed
    rcases step_turn ht a with ⟨failing, -, hn, hst, -⟩ | ⟨i, t', n', hi, hst, -, hn, hturn⟩
    · exact ih hst hrest fun i => by rw [hn]; exact h i
    · have hrules : t'.rules = t.rules := by
        refine hturn.rules_stay ?_
        rintro k j policy rules rest rfl hj
        cases hi
        exact hkeeps ⟨i, j, policy, rules, rest, rfl, hj⟩
      obtain ⟨more, hmore⟩ := hturn.log_grows
      obtain ⟨t'', hst', hrules', hall⟩ := ih hst hrest fun k => by
        rw [hn]
        by_cases hk : k = i
        · subst hk
          rw [Function.update_self]
          exact turn (h k) hturn hrules
        · rw [Function.update_of_ne hk]
          exact grow (h k) hmore hrules
      exact ⟨t'', hst', hrules'.trans hrules, hall⟩

end Fleet

/-! ## Who listens -/

def Instance.Listens (i : Instance) : Prop :=
  ∀ k, k < i.guards.length → .guard k ∈ i.listeners .geoip

theorem Instance.Listens.of_parts {i i' : Instance} (h : i.Listens) (hf : i'.feed = i.feed)
    (hg : i'.guards.length = i.guards.length) : i'.Listens := by
  intro k hk
  rw [Instance.listeners_of_feed hf]
  exact h k (hg ▸ hk)

/-- An instance without a feed has no guards: nobody would tell them. -/
theorem Instance.Listens.no_guards {i : Instance} (h : i.Listens) (hf : i.feed = none) :
    i.guards = [] := by
  by_contra hne
  have hfirst := h 0 (List.length_pos_iff.mpr hne)
  unfold Instance.listeners at hfirst
  rw [hf] at hfirst
  cases hfirst

theorem Instance.length_guards_apply (i : Instance) (news : News) :
    (i.apply news).guards.length = i.guards.length := by
  cases news with
  | setting n key value => rfl
  | rules n rules => exact List.length_modify _ _ _

theorem Instance.guards_perform (i : Instance) (policy : Nat) (step : Step) :
    (i.perform policy step).guards = i.guards := by
  cases step <;> rfl

namespace Node

theorem subscribe_listens {n : Node} (h : n.self.Listens) (table : Table) (who : Listener) :
    (n.subscribe table who).self.Listens := by
  cases hf : n.self.feed with
  | none =>
    unfold Node.subscribe
    rw [hf]
    exact h
  | some f =>
    rw [Node.subscribe_of_feed hf]
    intro k hk
    exact (Instance.mem_listeners_subscribe hf table who _ _).mpr (Or.inr (h k hk))

theorem joined_listens {t : Tables} {n n' : Node} (h : n.self.Listens) (hs : n.Sound t)
    (hj : Joined n n') : n'.self.Listens := by
  cases hj with
  | same _ => exact h
  | begun b hb =>
    obtain ⟨f, hf⟩ := hs.awake_of_boot hb
    cases b with
    | settings rows =>
      have hequip : (n.self.equip (.settings rows)).Listens := h.of_parts rfl rfl
      exact subscribe_listens (n := { n with self := n.self.equip (.settings rows), boot := none })
        hequip _ _
    | rules said lookup =>
      have hf' : (n.self.equip (.rules said lookup)).feed = some f := hf
      rw [Node.subscribe_of_feed
        (n := { n with self := n.self.equip (.rules said lookup), boot := none }) hf']
      intro k hk
      refine (Instance.mem_listeners_subscribe hf' _ _ _ _).mpr ?_
      have hlength : k < n.self.guards.length + 1 := by
        simpa [Instance.equip] using hk
      rcases Nat.lt_succ_iff_lt_or_eq.mp hlength with hlt | rfl
      · exact Or.inr (h k hlt)
      · exact Or.inl rfl

theorem turn_listens {ι : Type} {t t' : Tables} {failing : Failing} {n n' : Node}
    {a : Action ι} (h : n.self.Listens) (hs : n.Sound t) (ht : Turn t failing n a t' n') :
    n'.self.Listens := by
  cases ht with
  | connected i _ hc =>
    cases hc with
    | same _ => exact h
    | started hf =>
      intro k hk
      have hk : k < n.self.guards.length := hk
      rw [h.no_guards hf] at hk
      exact absurd hk (Nat.not_lt_zero k)
  | loaded i part _ hl => cases hl <;> exact h
  | joined i _ hj => exact joined_listens h hs hj
  | subscribed i table who _ => exact subscribe_listens h table who
  | carried i j _ _ hc =>
    cases hc with
    | done policy step rest _ _ _ =>
      exact h.of_parts (n.self.feed_perform policy step)
        (congrArg List.length (n.self.guards_perform policy step))
    | _ => exact h
  | polled i f phase note self hb hf hm =>
    rw [Node.note_self]
    generalize n.phase = before at hm
    cases hm with
    | applied p e news todo =>
      exact h.of_parts (n.self.feed_apply news) (n.self.length_guards_apply news)
    | moved p e =>
      intro k hk
      rw [Instance.listeners_advance hf]
      exact h k hk
    | _ => exact h
  | _ => exact h

end Node

/-! ## Hearing of the announcement -/

/-- The last entry that a listener has heard of and acted on, if it waited for it. -/
def Phase.acted (who : Listener) (last : Nat) : Phase → Nat
  | .delivering _ _ todo => if who ∈ todo then last else last + 1
  | .applying _ _ news todo => if who ∈ news.who :: todo then last else last + 1
  | _ => last

theorem Phase.acted_range (who : Listener) (last : Nat) (phase : Phase) :
    last ≤ phase.acted who last ∧ phase.acted who last ≤ last + 1 := by
  cases phase with
  | delivering p e todo =>
    rw [acted]
    split <;> omega
  | applying p e news todo =>
    rw [acted]
    split <;> omega
  | _ => exact ⟨Nat.le_refl _, Nat.le_succ _⟩

theorem Phase.Sound.acted_le {i : Instance} {log : List (Table × String)} {phase : Phase}
    (h : phase.Sound i log) (behind : i.last ≤ log.length) (who : Listener) :
    phase.acted who i.last ≤ log.length := by
  have hrange := (phase.acted_range who i.last).2
  cases phase with
  | delivering p e todo =>
    have := h.1.room
    have := h.1.head
    omega
  | applying p e news todo =>
    have := h.1.room
    have := h.1.head
    omega
  | _ => exact behind

/-- A guard could not read the rules when it heard of the entry at a place of the log. -/
def Deaf (place : Nat) (heard : List Hearing) (k : Nat) : Prop :=
  ∃ h ∈ heard, h.who = .guard k ∧ h.entry.id = place + 1 ∧ h.read = false

theorem Deaf.append {place : Nat} {heard : List Hearing} {k : Nat} (h : Deaf place heard k)
    (more : List Hearing) : Deaf place (heard ++ more) k := by
  obtain ⟨hearing, hmem, hrest⟩ := h
  exact ⟨hearing, List.mem_append_left more hmem, hrest⟩

/-- **An instance heeds rules that are announced at a place of the log**: each guard has the rules,
or has the announcement still before it, or could not read when it heard of it. What is on its way
to a guard is the rules, or the announcement comes after it. -/
structure Heeds (place : Nat) (rules : List CountryRule) (i : Instance) (boot : Option Boot)
    (phase : Phase) (heard : List Hearing) : Prop where
  guards : ∀ k g, i.guards[k]? = some g → g.table = .ofRules rules ∨
    phase.acted (.guard k) i.last ≤ place ∨ Deaf place heard k
  news : ∀ p e k said todo, phase = .applying p e (.rules k said) todo →
    said = rules ∨ i.last < place
  boot : ∀ said lookup, boot = some (.rules said lookup) → said = rules ∨ i.last ≤ place

namespace Heeds

variable {place : Nat} {rules : List CountryRule} {i : Instance} {boot : Option Boot}
  {phase : Phase} {heard : List Hearing}

/-- Before the announcement nobody has it behind him. -/
theorem of_sound {t : Tables} {n : Node} (h : n.Sound t) (rules : List CountryRule) :
    Heeds t.log.length rules n.self n.boot n.phase n.heard where
  guards k _ _ := Or.inr (Or.inl (h.phase.acted_le h.behind (.guard k)))
  news p e k said todo hp := by
    have hs := h.phase
    rw [hp] at hs
    exact Or.inr (Nat.lt_of_lt_of_le hs.1.room hs.1.head)
  boot _ _ _ := Or.inr h.behind

/-- The guards stay as they are, and those that had the announcement before them have it there
still or could not read. -/
theorem onward (h : Heeds place rules i none phase heard) {i' : Instance} {phase' : Phase}
    (more : List Hearing) (hguards : i'.guards = i.guards)
    (hacted : ∀ k, k < i.guards.length → phase.acted (.guard k) i.last ≤ place →
      phase'.acted (.guard k) i'.last ≤ place ∨ Deaf place (heard ++ more) k)
    (hnews : ∀ p e k said todo, phase' = .applying p e (.rules k said) todo →
      said = rules ∨ i'.last < place) :
    Heeds place rules i' none phase' (heard ++ more) where
  guards k g hg := by
    rw [hguards] at hg
    obtain ⟨hk, -⟩ := List.getElem?_eq_some_iff.mp hg
    rcases h.guards k g hg with htable | hbefore | hdeaf
    · exact Or.inl htable
    · exact Or.inr (hacted k hk hbefore)
    · exact Or.inr (Or.inr (hdeaf.append more))
  news := hnews
  boot _ _ hb := nomatch hb

/-- A guard that is not told keeps its place. -/
theorem acted_tell {who other : Listener} (hne : other ≠ who) (p p' : Progress) (e e' : LogEntry)
    (todo : List Listener) (last : Nat) :
    (Phase.delivering p e (who :: todo)).acted other last =
      (Phase.delivering p' e' todo).acted other last := by
  simp only [Phase.acted, List.mem_cons, hne, false_or]

variable {t : Tables}

/-- The announcement is fetched for every guard. -/
theorem fetched {p : Progress} (h : Heeds place rules i none (.catching p) heard)
    (listens : i.Listens) (hp : p.last = i.last) {announced : String}
    (logged : t.log[place]? = some (.geoip, announced)) {table : Table} {key : String}
    (fetched : t.log[p.last]? = some (table, key)) :
    Heeds place rules i none (.delivering p ⟨p.last + 1, table, key⟩ (i.listeners table))
      (heard ++ []) := by
  refine h.onward [] rfl ?_ (by rintro _ _ _ _ _ ⟨⟩)
  intro k hk hbefore
  have hbefore : i.last ≤ place := hbefore
  refine Or.inl ?_
  rw [Phase.acted]
  split
  · exact hbefore
  · next hlisten =>
    have hne : i.last ≠ place := by
      intro he
      rw [hp, he, logged] at fetched
      cases fetched
      exact hlisten (listens k hk)
    omega

theorem unread {p : Progress} {e : LogEntry} {who : Listener} {todo : List Listener}
    (h : Heeds place rules i none (.delivering p e (who :: todo)) heard)
    (hp : p.Handles e i.last t.log) :
    Heeds place rules i none (.delivering p e todo) (heard ++ [⟨who, e, false⟩]) := by
  refine h.onward [⟨who, e, false⟩] rfl ?_ (by rintro _ _ _ _ _ ⟨⟩)
  intro k hk hbefore
  by_cases hw : .guard k = who
  · have hlast : i.last ≤ place :=
      Nat.le_trans (Phase.acted_range _ _ _).1 hbefore
    rcases Nat.lt_or_eq_of_le hlast with hlt | heq
    · exact Or.inl (Nat.le_trans (Phase.acted_range _ _ _).2 hlt)
    · refine Or.inr ⟨⟨who, e, false⟩, ?_, hw.symm, ?_, rfl⟩
      · exact List.mem_append_right heard (List.mem_singleton.mpr rfl)
      · rw [hp.next, heq]
  · rw [acted_tell hw p p e e] at hbefore
    exact Or.inl hbefore

theorem applied {p : Progress} {e : LogEntry} {news : News} {todo : List Listener}
    (h : Heeds place rules i none (.applying p e news todo) heard) :
    Heeds place rules (i.apply news) none (.delivering p e todo) (heard ++ []) := by
  have hlast := Instance.last_of_feed (i.feed_apply news)
  cases news with
  | setting n key value =>
    refine h.onward [] rfl ?_ (by rintro _ _ _ _ _ ⟨⟩)
    intro k hk hbefore
    have hne : Listener.guard k ≠ .policy n := by rintro ⟨⟩
    refine Or.inl ?_
    rw [hlast, ← acted_tell hne p p e e]
    exact hbefore
  | rules m said =>
    refine ⟨?_, (by rintro _ _ _ _ _ ⟨⟩), fun _ _ hb => nomatch hb⟩
    intro k g hg
    rw [List.append_nil, hlast]
    obtain ⟨x, hx, rfl⟩ := modify_getElem?_eq_some hg
    by_cases hk : m = k
    · rw [if_pos hk]
      rcases h.news p e m said todo rfl with rfl | hlt
      · exact Or.inl rfl
      · exact Or.inr (Or.inl (Nat.le_trans (Phase.acted_range _ _ _).2 hlt))
    · rw [if_neg hk]
      have hne : Listener.guard k ≠ .guard m := by
        rintro ⟨⟩
        exact hk rfl
      rcases h.guards k x hx with htable | hbefore | hdeaf
      · exact Or.inl htable
      · refine Or.inr (Or.inl ?_)
        rw [← acted_tell hne p p e e]
        exact hbefore
      · exact Or.inr (Or.inr hdeaf)

/-- **A step of a poll** keeps it, as long as the store has the rules. -/
theorem polled (h : Heeds place rules i none phase heard) (hs : phase.Sound i t.log)
    (listens : i.Listens) {f : Feed Listener} (hf : i.feed = some f) (hrules : t.rules = rules)
    {announced : String} (logged : t.log[place]? = some (.geoip, announced))
    {failing : Failing} {phase' : Phase} {note : Option Note} {i' : Instance}
    (hm : PollMove t failing i phase phase' note i') :
    Heeds place rules i' none phase' (heard ++ Note.hearings note) := by
  cases hm with
  | fetched p table key hp hl => exact h.fetched listens hs.1 logged hl
  | unread p e who todo hu => exact h.unread hs.1
  | readSetting p e n value todo hv =>
    exact h.onward _ rfl (fun _ _ hbefore => Or.inl hbefore) (by rintro _ _ _ _ _ ⟨⟩)
  | readRules p e n todo =>
    refine h.onward _ rfl (fun _ _ hbefore => Or.inl hbefore) ?_
    rintro _ _ _ _ _ ⟨⟩
    exact Or.inl hrules
  | recorded p e name todo =>
    refine h.onward _ rfl ?_ (by rintro _ _ _ _ _ ⟨⟩)
    intro k hk hbefore
    have hne : Listener.guard k ≠ .recorder name := by rintro ⟨⟩
    rw [acted_tell hne p p e e] at hbefore
    exact Or.inl hbefore
  | applied p e news todo => exact h.applied
  | moved p e =>
    refine h.onward _ rfl ?_ (by rintro _ _ _ _ _ ⟨⟩)
    intro k hk hbefore
    refine Or.inl ?_
    show i.advance.last ≤ place
    rw [Instance.last_advance hf]
    exact hbefore
  | _ => exact h.onward _ rfl (fun _ _ hbefore => Or.inl hbefore) (by rintro _ _ _ _ _ ⟨⟩)

theorem subscribe {n : Node} (h : Heeds place rules n.self n.boot n.phase n.heard)
    (table : Table) (who : Listener) :
    Heeds place rules (n.subscribe table who).self (n.subscribe table who).boot
      (n.subscribe table who).phase (n.subscribe table who).heard := by
  cases hf : n.self.feed with
  | none =>
    unfold Node.subscribe
    rw [hf]
    exact h
  | some f =>
    have hlast := Node.last_subscribe n table who
    rw [Node.subscribe_of_feed hf] at hlast ⊢
    refine ⟨?_, ?_, ?_⟩
    · intro k g hg
      rw [hlast]
      exact h.guards k g hg
    · rw [hlast]
      exact h.news
    · rw [hlast]
      exact h.boot

/-- A node that connects has no guards yet, and reads nothing. -/
theorem connected {n n' : Node} (h : Heeds place rules n.self n.boot n.phase n.heard)
    (hs : n.Sound t) (listens : n.self.Listens) {failing : Failing}
    (hc : Connected t failing n n') : Heeds place rules n'.self n'.boot n'.phase n'.heard := by
  cases hc with
  | same _ => exact h
  | started hf =>
    obtain ⟨hboot, hpolling⟩ := hs.asleep hf
    refine ⟨?_, ?_, ?_⟩
    · intro k g hg
      have hg : n.self.guards[k]? = some g := hg
      rw [listens.no_guards hf] at hg
      cases hg
    · intro p e k said todo hphase
      rw [show n.phase = .idle from hs.resting hpolling] at hphase
      cases hphase
    · intro said lookup hb
      rw [show n.boot = none from hboot] at hb
      cases hb

/-- A guard that begins has the rules it was loaded with. -/
theorem joined {n n' : Node} (h : Heeds place rules n.self n.boot n.phase n.heard)
    (hs : n.Sound t) (hj : Joined n n') :
    Heeds place rules n'.self n'.boot n'.phase n'.heard := by
  cases hj with
  | same _ => exact h
  | begun b hb =>
    have hlast := Instance.last_of_feed (n.self.feed_equip b)
    have hidle : n.phase = .idle :=
      hs.resting (hs.ready (by rw [hb]; exact Option.some_ne_none _))
    refine subscribe (n := { n with self := n.self.equip b, boot := none }) ⟨?_, ?_, ?_⟩ _ _
    · intro k g hg
      rw [hlast]
      cases b with
      | settings rows => exact h.guards k g hg
      | rules said lookup =>
        rcases Nat.lt_or_ge k n.self.guards.length with hk | hk
        · exact h.guards k g ((List.getElem?_append_left hk).symm.trans hg)
        · have hnew := (List.getElem?_append_right hk).symm.trans hg
          rw [List.mem_singleton.mp (List.mem_of_getElem? hnew)]
          rcases h.boot said lookup hb with rfl | hle
          · exact Or.inl rfl
          · refine Or.inr (Or.inl ?_)
            rw [hidle]
            exact hle
    · rw [hlast]
      exact h.news
    · rintro _ _ ⟨⟩

/-- A step of a change leaves the guards and the feed of the instance alone. -/
theorem performed {n : Node} (h : Heeds place rules n.self n.boot n.phase n.heard) (policy : Nat)
    (step : Step) : Heeds place rules (n.self.perform policy step) n.boot n.phase n.heard := by
  have hlast := Instance.last_of_feed (n.self.feed_perform policy step)
  refine ⟨?_, ?_, ?_⟩
  · intro k g hg
    rw [n.self.guards_perform] at hg
    rw [hlast]
    exact h.guards k g hg
  · rw [hlast]
    exact h.news
  · rw [hlast]
    exact h.boot

/-- **Every turn of a node keeps it**, as long as the store has the rules. -/
theorem turn {n n' : Node} (h : Heeds place rules n.self n.boot n.phase n.heard)
    (hs : n.Sound t) (listens : n.self.Listens) (hrules : t.rules = rules) {announced : String}
    (logged : t.log[place]? = some (.geoip, announced)) {ι : Type} {t' : Tables}
    {failing : Failing} {a : Action ι} (ht : Turn t failing n a t' n') :
    Heeds place rules n'.self n'.boot n'.phase n'.heard := by
  cases ht with
  | connected i _ hc => exact h.connected hs listens hc
  | loaded i part _ hl =>
    cases hl with
    | same => exact h
    | settings _ f _ => exact ⟨h.guards, h.news, by rintro _ _ ⟨⟩⟩
    | rules _ f _ lookup =>
      refine ⟨h.guards, h.news, ?_⟩
      rintro _ _ ⟨⟩
      exact Or.inl hrules
  | joined i _ hj => exact h.joined hs hj
  | subscribed i table who _ => exact h.subscribe table who
  | carried i j _ _ hc =>
    cases hc with
    | done policy step rest _ _ _ => exact h.performed policy step
    | _ => exact h
  | polled i f phase note self hb hf hm =>
    rw [hb] at h
    rw [Node.note_self, Node.note_boot, Node.note_phase, Node.note_heard]
    show Heeds place rules self n.boot phase _
    rw [hb]
    exact h.polled hs.phase listens hf hrules logged hm
  | _ => exact h

end Heeds

/-! ## Getting behind the announcement -/

/-- A turn is a step of a poll or leaves polls alone. -/
theorem Turn.polled_or_same {ι : Type} {t t' : Tables} {failing : Failing} {n n' : Node}
    {a : Action ι} (ht : Turn t failing n a t' n') :
    (∃ phase note self, PollMove t failing n.self n.phase phase note self ∧
      n' = { n with self, phase, polling := true }.note note) ∨
    (n'.phase = n.phase ∧ n'.reports = n.reports) := by
  cases ht with
  | connected i _ hc => cases hc <;> exact Or.inr ⟨rfl, rfl⟩
  | loaded i part _ hl => cases hl <;> exact Or.inr ⟨rfl, rfl⟩
  | joined i _ hj =>
    cases hj with
    | same _ => exact Or.inr ⟨rfl, rfl⟩
    | begun b hb => exact Or.inr ⟨Node.phase_subscribe _ _ _, Node.reports_subscribe _ _ _⟩
  | subscribed i table who _ =>
    exact Or.inr ⟨Node.phase_subscribe _ _ _, Node.reports_subscribe _ _ _⟩
  | carried i j _ _ hc => cases hc <;> exact Or.inr ⟨rfl, rfl⟩
  | polled i f phase note self hb hf hm => exact Or.inl ⟨phase, note, self, hm, rfl⟩
  | _ => exact Or.inr ⟨rfl, rfl⟩

/-- Polls go beyond a place of the log, and those that ended well, after the first so many, have
brought the feed there. -/
structure Node.Reaches (place old : Nat) (n : Node) : Prop where
  head : ∀ p, n.phase.progress? = some p → place < p.head
  well : ∀ r ∈ n.reports.drop old, r.Well → place < n.self.last

theorem Node.Reaches.of_idle {n : Node} (h : n.phase = .idle) (place : Nat) :
    n.Reaches place n.reports.length where
  head p hp := by
    rw [h] at hp
    cases hp
  well r hr := by
    rw [List.drop_length] at hr
    cases hr

/-- A poll that begins goes to the end of the log. -/
theorem PollMove.goes_beyond {t : Tables} {failing : Failing} {i i' : Instance}
    {phase phase' : Phase} {note : Option Note} (hm : PollMove t failing i phase phase' note i')
    {place : Nat} (hplace : place < t.log.length)
    (h : ∀ p, phase.progress? = some p → place < p.head) :
    ∀ p, phase'.progress? = some p → place < p.head := by
  intro p hp
  cases hm with
  | head =>
    cases hp
    exact hplace
  | moved p' e =>
    cases hp
    exact h p' rfl
  | _ => first | exact h p hp | cases hp

/-- A poll that ends well has brought the feed where it went. -/
theorem PollMove.gets_there {t : Tables} {failing : Failing} {i i' : Instance}
    {phase phase' : Phase} {note : Option Note} (hm : PollMove t failing i phase phase' note i')
    (hs : phase.Sound i t.log) {place : Nat}
    (h : ∀ p, phase.progress? = some p → place < p.head) {r : Report}
    (hr : r ∈ Note.reports note) (hw : r.Well) : place < i'.last := by
  obtain ⟨head, count, hending⟩ := hw
  cases hm with
  | complete p hp =>
    have hlast : p.last = i.last := hs.1
    have hhead := h p rfl
    omega
  | noHead cause =>
    rw [List.mem_singleton.mp hr] at hending
    cases hending
  | noEntry p cause hp =>
    rw [List.mem_singleton.mp hr] at hending
    cases hending
  | _ => cases hr

theorem Node.Reaches.turn {place old : Nat} {n n' : Node} {t : Tables}
    (h : n.Reaches place old) (hs : n.Sound t) (hplace : place < t.log.length) {ι : Type}
    {t' : Tables} {failing : Failing} {a : Action ι} (ht : Turn t failing n a t' n') :
    n'.Reaches place old := by
  have hlast := ht.last_le
  rcases ht.polled_or_same with ⟨phase, note, self, hm, rfl⟩ | ⟨hp, hr⟩
  · rw [Node.note_self] at hlast
    refine ⟨?_, ?_⟩
    · rw [Node.note_phase]
      exact hm.goes_beyond hplace h.head
    · intro r hr hw
      rw [Node.note_reports, List.drop_append] at hr
      rw [Node.note_self]
      rcases List.mem_append.mp hr with hr | hr
      · exact Nat.lt_of_lt_of_le (h.well r hr hw) hlast
      · exact hm.gets_there hs.phase h.head (List.mem_of_mem_drop hr) hw
  · refine ⟨?_, ?_⟩
    · rw [hp]
      exact h.head
    · rw [hr]
      exact fun r hr hw => Nat.lt_of_lt_of_le (h.well r hr hw) hlast

/-! ## From the choice to the verdict -/

theorem Node.Sound.of_changes {t : Tables} {n : Node} (h : n.Sound t)
    (changes : List (Nat × List Step)) : Node.Sound t { n with changes } :=
  ⟨h.asleep, h.resting, h.ready, h.behind, h.once, h.phase⟩

/-- A node is sound, and its guards hear of rules. -/
def Node.Attentive (t : Tables) (n : Node) : Prop := n.Sound t ∧ n.self.Listens

theorem Node.Attentive.turn {ι : Type} {t t' : Tables} {failing : Failing} {n n' : Node}
    {a : Action ι} (h : n.Attentive t) (ht : Turn t failing n a t' n') : n'.Attentive t' :=
  ⟨h.1.turn ht, Node.turn_listens h.2 h.1 ht⟩

theorem Node.Attentive.grow {t t' : Tables} {n : Node} {more : List (Table × String)}
    (h : n.Attentive t) (hlog : t'.log = t.log ++ more) : n.Attentive t' :=
  ⟨h.1.grow hlog, h.2⟩

namespace Fleet

variable {ι : Type} [DecidableEq ι] [RecordStore σ]

/-- A step of a change that only concerns the store leaves all instances as they are. -/
theorem step_carry {c : Fleet ι σ} {i : ι} {j policy : Nat} {step : Step} {rest : List Step}
    (hj : (c.nodes i).changes[j]? = some (policy, step :: rest)) {store : Faulty σ}
    (hrun : (Site.perform policy step).run ⟨c.world, (c.nodes i).self⟩ =
      (.ok (), ⟨{ c.world with store }, (c.nodes i).self⟩)) :
    (c.step (.carry i j)).world.store = store ∧
      ∀ k, ∃ changes, (c.step (.carry i j)).nodes k = { c.nodes k with changes } := by
  have hcarry : (c.nodes i).carry c.world j =
      ({ c.world with store }, (c.nodes i).proceed j policy rest) := by
    unfold Node.carry
    rw [hj]
    simp only [hrun]
  constructor
  · show ((c.nodes i).carry c.world j).1.store = store
    rw [hcarry]
  · intro k
    show ∃ changes, Function.update c.nodes i ((c.nodes i).carry c.world j).2 k = _
    rw [hcarry]
    by_cases hk : k = i
    · subst hk
      rw [Function.update_self]
      exact ⟨_, rfl⟩
    · rw [Function.update_of_ne hk]
      exact ⟨_, rfl⟩

/-- **A choice of countries has just succeeded** in a run: it was accepted, its first step stored
the rules, no other rules were stored then, and its last step announced them. -/
inductive Chosen (w : World (Faulty σ)) (codes : List String) (allow : Bool) : Fleet ι σ → Prop
  | intro {before between : List (Action ι)} {i : ι} {j j' policy policy' : Nat}
    {steps : List Step} {c c' : Fleet ι σ}
    (accepted : Change.setCountries codes allow = .ok steps)
    (ran : c = (start w).run before)
    (begun : (c.nodes i).changes[j]? = some (policy, steps))
    (stores : c.world.store.failing.stops .putRules = false)
    (undisturbed : (c.step (.carry i j)).Undisturbed between)
    (goes_on : c' = (c.step (.carry i j)).run between)
    (behind : (c'.nodes i).changes[j']? =
      some (policy', [.announce .geoip (Change.ruleWord allow)]))
    (announces : c'.world.store.failing.stops .append = false) :
    Chosen w codes allow (c'.step (.carry i j'))

variable [LawfulStore σ]

/-- A node in a fleet whose store has rules that were announced at a place of the log. -/
structure Obeys (place : Nat) (rules : List CountryRule) (t : Tables) (n : Node) : Prop where
  store : t.rules = rules
  logged : ∃ announced, t.log[place]? = some (.geoip, announced)
  sound : n.Sound t
  listens : n.self.Listens
  heeds : Heeds place rules n.self n.boot n.phase n.heard

theorem Obeys.grow {place : Nat} {rules : List CountryRule} {t t' : Tables} {n : Node}
    {more : List (Table × String)} (h : Obeys place rules t n) (hlog : t'.log = t.log ++ more)
    (hrules : t'.rules = t.rules) : Obeys place rules t' n where
  store := hrules.trans h.store
  logged := by
    obtain ⟨announced, hl⟩ := h.logged
    refine ⟨announced, ?_⟩
    rw [hlog, List.getElem?_append_left (List.getElem?_eq_some_iff.mp hl).1]
    exact hl
  sound := h.sound.grow hlog
  listens := h.listens
  heeds := h.heeds

omit [DecidableEq ι] in
theorem Obeys.turn {place : Nat} {rules : List CountryRule} {t t' : Tables} {failing : Failing}
    {n n' : Node} {a : Action ι} (h : Obeys place rules t n) (ht : Turn t failing n a t' n')
    (hrules : t'.rules = t.rules) : Obeys place rules t' n' := by
  obtain ⟨announced, hl⟩ := h.logged
  obtain ⟨more, hmore⟩ := ht.log_grows
  have hgrown := h.grow hmore hrules
  exact ⟨hgrown.store, hgrown.logged, h.sound.turn ht, Node.turn_listens h.listens h.sound ht,
    h.heeds.turn h.sound h.listens h.store hl ht⟩

omit [DecidableEq ι] [RecordStore σ] [LawfulStore σ] in
theorem Obeys.place_lt {place : Nat} {rules : List CountryRule} {t : Tables} {n : Node}
    (h : Obeys place rules t n) : place < t.log.length := by
  obtain ⟨announced, hl⟩ := h.logged
  exact (List.getElem?_eq_some_iff.mp hl).1

/-- Who has the announcement behind him and could read then has the rules. -/
theorem Obeys.table {place : Nat} {rules : List CountryRule} {t : Tables} {n : Node}
    (h : Obeys place rules t n) (reached : place < n.self.last)
    (read : ∀ hearing ∈ n.heard, hearing.entry.id = place + 1 → (∃ m, hearing.who = .guard m) →
      hearing.read = true)
    {k : Nat} {g : Guard} (hg : n.self.guards[k]? = some g) : g.table = .ofRules rules := by
  rcases h.heeds.guards k g hg with htable | hbefore | ⟨hearing, hmem, hwho, hid, hread⟩
  · exact htable
  · have := (Phase.acted_range (.guard k) n.self.last n.phase).1
    omega
  · rw [read hearing hmem hid ⟨k, hwho⟩] at hread
    cases hread

/-- **The last step of a choice** announces the rules that the store has, and all nodes heed the
announcement. -/
theorem rules_announced {c : Fleet ι σ} {t : Tables} (ht : c.world.store.Shows t)
    (hall : ∀ k, (c.nodes k).Attentive t) {word : String} {i : ι} {j policy : Nat}
    (behind : (c.nodes i).changes[j]? = some (policy, [.announce .geoip word]))
    (announces : c.world.store.failing.stops .append = false) :
    (c.step (.carry i j)).world.store.Shows (t.logged .geoip word) ∧
      (t.logged .geoip word).log[t.log.length]? = some (.geoip, word) ∧
      ∀ k, Obeys t.log.length t.rules (t.logged .geoip word)
        ((c.step (.carry i j)).nodes k) := by
  obtain ⟨store, hst, -, happend⟩ :=
    Site.ask_append (s := ⟨c.world, (c.nodes i).self⟩) ht .geoip word announces
  have hperform := Site.perform_announce_run policy .geoip word ⟨c.world, (c.nodes i).self⟩
  rw [happend] at hperform
  obtain ⟨hstore, hnodes⟩ := step_carry behind hperform
  have hlogged : (t.logged .geoip word).log[t.log.length]? = some (.geoip, word) := by
    show (t.log ++ [_])[t.log.length]? = _
    rw [List.getElem?_append_right (Nat.le_refl _), Nat.sub_self]
    rfl
  refine ⟨hstore ▸ hst, hlogged, fun k => ?_⟩
  obtain ⟨changes, hk⟩ := hnodes k
  rw [hk]
  obtain ⟨hsound, hlistens⟩ := hall k
  exact ⟨rfl, ⟨word, hlogged⟩, (hsound.grow rfl).of_changes changes, hlistens,
    Heeds.of_sound hsound t.rules⟩

/-- **A poll that begins after the announcement and ends well** gives every guard the rules, if it
could read when it heard of it. -/
theorem obeyed_after_poll {c : Fleet ι σ} {t : Tables} (ht : c.world.store.Shows t) {place : Nat}
    (hall : ∀ i, Obeys place t.rules t (c.nodes i)) (actions : List (Action ι))
    (undisturbed : c.Undisturbed actions) {i : ι} (idle : (c.nodes i).phase = .idle)
    (well : ∃ r ∈ ((c.run actions).nodes i).reports.drop (c.nodes i).reports.length, r.Well)
    (read : ∀ h ∈ ((c.run actions).nodes i).heard, h.entry.id = place + 1 →
      (∃ m, h.who = .guard m) → h.read = true) {k : Nat} {g : Guard}
    (hg : ((c.run actions).nodes i).self.guards[k]? = some g) : g.table = .ofRules t.rules := by
  obtain ⟨t', -, -, hall'⟩ := run_undisturbed
    (P := fun k u n => Obeys place t.rules u n ∧
      (k = i → n.Reaches place (c.nodes i).reports.length))
    (fun h hturn hrules => ⟨h.1.turn hturn hrules,
      fun hk => (h.2 hk).turn h.1.sound h.1.place_lt hturn⟩)
    (fun h hmore hrules => ⟨h.1.grow hmore hrules, h.2⟩) actions ht undisturbed
    (fun k => ⟨hall k, by rintro rfl; exact .of_idle idle place⟩)
  obtain ⟨hobeys, hreaches⟩ := hall' i
  obtain ⟨report, hreport, hwell⟩ := well
  exact hobeys.table ((hreaches rfl).well report hreport hwell) read hg

variable [KeepsRules σ]

/-- **The first step of a choice** stores what the store keeps of its rules. -/
theorem rules_stored {c : Fleet ι σ} {t : Tables} (ht : c.world.store.Shows t)
    (hall : ∀ k, (c.nodes k).Attentive t) {codes : List String} {allow : Bool} {i : ι}
    {j policy : Nat} {rest : List Step}
    (begun : (c.nodes i).changes[j]? =
      some (policy, .putRules (Change.rulesOf codes allow) :: rest))
    (stores : c.world.store.failing.stops .putRules = false) :
    ∃ kept, kept ⊆ Change.rulesOf codes allow ∧ SameRules kept (Change.rulesOf codes allow) ∧
      (c.step (.carry i j)).world.store.Shows { t with rules := kept } ∧
      ∀ k, ((c.step (.carry i j)).nodes k).Attentive { t with rules := kept } := by
  obtain ⟨kept, store, hsub, hsame, hst, -, hput⟩ :=
    Site.ask_putRules (s := ⟨c.world, (c.nodes i).self⟩) ht (Change.rulesOf codes allow) stores
  have hperform := Site.perform_putRules_run policy (Change.rulesOf codes allow)
    ⟨c.world, (c.nodes i).self⟩
  rw [hput] at hperform
  obtain ⟨hstore, hnodes⟩ := step_carry begun hperform
  refine ⟨kept, hsub, hsame, hstore ▸ hst, fun k => ?_⟩
  obtain ⟨changes, hk⟩ := hnodes k
  rw [hk]
  have hgrown : (c.nodes k).Attentive { t with rules := kept } :=
    (hall k).grow (List.append_nil t.log).symm
  exact ⟨hgrown.1.of_changes changes, hgrown.2⟩

/-- **After a choice has succeeded** the store has rules that give its table, the announcement is
the last entry of the log, and all nodes heed it. -/
theorem Chosen.obeyed {w : World (Faulty σ)} {t₀ : Tables} (ht₀ : w.store.Shows t₀)
    {codes : List String} {allow : Bool} {c : Fleet ι σ} (h : Chosen w codes allow c) :
    ∃ place t, c.world.store.Shows t ∧ t.log.length = place + 1 ∧
      t.log[place]? = some (.geoip, Change.ruleWord allow) ∧
      (Geo.CountryTable.ofRules t.rules).Enforces codes allow ∧
      ∀ i, Obeys place t.rules t (c.nodes i) := by
  cases h with
  | @intro before between i j j' policy policy' steps c c' accepted ran begun stores undisturbed
      goes_on behind announces =>
    rw [Change.setCountries_of_isCode (Change.isCode_of_setCountries accepted)] at accepted
    cases accepted
    obtain ⟨t, ht, -, hall⟩ := run_induction Node.Attentive Node.Attentive.turn
      Node.Attentive.grow before (c := start w) ht₀
      (fun _ : ι => ⟨.fresh t₀, fun k hk => absurd hk (Nat.not_lt_zero k)⟩)
    rw [← ran] at ht hall
    obtain ⟨kept, hsub, hsame, hshows, hall⟩ := rules_stored ht hall begun stores
    -- nothing else is stored until they are announced
    obtain ⟨t', ht', hrules, hall⟩ := run_undisturbed (P := fun _ => Node.Attentive)
      (fun h hturn _ => h.turn hturn) (fun h hmore _ => h.grow hmore) between hshows
      undisturbed hall
    rw [← goes_on] at ht' hall
    obtain ⟨hshows, hlogged, hobeys⟩ := rules_announced ht' hall behind announces
    refine ⟨t'.log.length, _, hshows, List.length_append, hlogged, ?_, hobeys⟩
    show (Geo.CountryTable.ofRules t'.rules).Enforces codes allow
    rw [hrules]
    exact Geo.CountryTable.table_of_kept hsub hsame

/-- **A choice of countries takes effect.** It succeeds, if the store takes what is written to it,
exactly if every text of it is a code of two letters; otherwise it is refused and nothing happens.
After a choice has succeeded in a fleet, let anything happen but the storing of other rules. Then an
instance whose poll began after the success and ended well, and whose guards could read the rules
when they heard of it, has guards with the countries and the sense of the choice; and each blocks
the requests from countries that are chosen to be blocked, or not chosen to be let through. The
store may be any that makes up no rules: the one in memory and the shared one are such. -/
theorem choice_of_countries (w : World (Faulty σ)) {t₀ : Tables} (ht₀ : w.store.Shows t₀)
    (codes : List String) (allow : Bool) :
    (∀ (s : Site (Faulty σ)) (t : Tables), s.world.store.Shows t →
      s.world.store.failing.stops .putRules = false →
      s.world.store.failing.stops .append = false →
      ((∃ after, (Site.changeCountries codes allow).run s = (.ok (), after)) ↔
        ∀ text ∈ codes, Change.IsCode text)) ∧
    ((¬ ∀ text ∈ codes, Change.IsCode text) → ∀ s : Site (Faulty σ), ∃ cause,
      (Site.changeCountries codes allow).run s = (.error (.argument cause), s)) ∧
    ∀ c : Fleet ι σ, Chosen w codes allow c →
      ∃ t, c.world.store.Shows t ∧ (Geo.CountryTable.ofRules t.rules).Enforces codes allow ∧
        t.log.getLast? = some (.geoip, Change.ruleWord allow) ∧
        ∀ (wait after : List (Action ι)) (i : ι),
          let rested := c.run wait
          let c' := rested.run after
          c.Undisturbed (wait ++ after) → (rested.nodes i).phase = .idle →
          (∃ r ∈ (c'.nodes i).reports.drop (rested.nodes i).reports.length, r.Well) →
          (∀ h ∈ (c'.nodes i).heard, h.entry.id = t.log.length → (∃ m, h.who = .guard m) →
            h.read = true) →
          ∀ k g, (c'.nodes i).self.guards[k]? = some g →
            g.table.Enforces codes allow ∧
            ∀ r, Site.askPlugin (c'.nodes i).self.guards r (.country k) = .block ↔
              codes ≠ [] ∧ ∃ a country, r.remote? = some a ∧ g.lookup a = some country ∧
                decide (country ∈ codes.map Change.codeOf) ≠ allow := by
  refine ⟨fun s t ht puts appends => Site.changeCountries_ok_iff ht codes allow puts appends,
    fun h s => Site.changeCountries_refused h allow s, ?_⟩
  intro c hc
  obtain ⟨place, t, ht, hlength, hlogged, henforces, hall⟩ := hc.obeyed ht₀
  refine ⟨t, ht, henforces, ?_, ?_⟩
  · rw [List.getLast?_eq_getElem?, hlength]
    exact hlogged
  intro wait after i rested c' undisturbed idle well read k g hg
  obtain ⟨hwait, hafter⟩ := undisturbed_append.mp undisturbed
  obtain ⟨t', ht', hrules, hall'⟩ := run_undisturbed (P := fun _ => Obeys place t.rules) Obeys.turn
    Obeys.grow wait ht hwait hall
  rw [← hrules] at henforces hall'
  rw [hlength] at read
  have htable : g.table = .ofRules t'.rules :=
    obeyed_after_poll ht' hall' after hafter idle well read hg
  have hsame : g.table.Enforces codes allow := htable ▸ henforces
  refine ⟨hsame, fun r => ?_⟩
  rw [Site.askPlugin, hg]
  exact hsame.scan_iff g.lookup r

def twoCountries : List Step :=
  [.putRules [⟨"US", false⟩, ⟨"CA", false⟩, ⟨"US", false⟩], .announce .geoip "deny"]

/-- One instance reads the rules that a guard will begin with, and another one begins to choose. -/
def choosing : List (Action Bool) :=
  [.connect false, .load false (.rules fun _ => some "US"), .submit true 0 twoCountries]

/-- The guard begins after the choice with the rules from before, and has the choice after its
next poll. -/
theorem choice_of_two_countries :
    let codes := ["us ", "CA", "US"]
    let chosen := (((start emptyWorld : Fleet Bool Tables).run choosing).step
      (.carry true 0)).step (.carry true 0)
    Chosen emptyWorld codes false chosen ∧
      ((chosen.run [.join false]).nodes false).self.guards.map (·.table) = [.ofRules []] ∧
      ∀ g, (((chosen.run [.join false]).run (List.replicate 6 (.poll false))).nodes
        false).self.guards[0]? = some g → g.table.Enforces codes false := by
  intro codes chosen
  have hchosen : Chosen emptyWorld codes false chosen :=
    .intro (show Change.setCountries codes false = .ok twoCountries from rfl)
      (show _ = (start emptyWorld).run choosing from rfl) (show _ = some (0, _) from rfl) rfl
      (show Undisturbed _ [] from trivial) rfl (show _ = some (0, _) from rfl) rfl
  have undisturbed : chosen.Undisturbed ([.join false] ++ List.replicate 6 (.poll false)) := by
    simp [Undisturbed, Replaces, List.replicate]
  have hwell : (⟨0, 1, .complete 1 1⟩ : Report) ∈
      (((chosen.run [.join false]).run (List.replicate 6 (.poll false))).nodes
        false).reports.drop ((chosen.run [.join false]).nodes false).reports.length := by
    decide
  have hread : ∀ h ∈ (((chosen.run [.join false]).run (List.replicate 6 (.poll false))).nodes
      false).heard, h.read = true := by
    decide
  refine ⟨hchosen, by decide, ?_⟩
  intro g hg
  have hshows : emptyWorld.store.Shows .empty := rfl
  obtain ⟨t, -, -, -, htable⟩ :=
    (choice_of_countries emptyWorld hshows codes false).2.2 chosen hchosen
  exact (htable [.join false] (List.replicate 6 (.poll false)) false undisturbed rfl
    ⟨_, hwell, 1, 1, rfl⟩ (fun h hmem _ _ => hread h hmem) 0 g hg).1

end Fleet

end Firewall
