import Firewall.Instance
import Mathlib.Data.List.Induction
import Mathlib.Data.List.Nodup

/-!
The decision on a request, for any plugins, whatever they say, however often they have been
registered.

Proved here:

* `Scan.map_name_registered`, `Scan.registered_eq`: the chain is the names in the order of their
  first registration, each standing for the plugin that was registered last under it;
* `Scan.consult_of_clear`, `Scan.consult_of_block`: who is asked;
* `Scan.decide_eq_iff`: the decision is what the rules of a scan say, and nothing else;
* `Site.scan_follows_rules`: the same of the engine of an instance, from its first plugin on.
-/

namespace Firewall

namespace Scan

variable {π : Type} {name : π → String}

/-! ## The chain -/

def registered (name : π → String) (ps : List π) : List π :=
  ps.foldl (fun chain p => register name p chain) []

def lastNamed (name : π → String) (ps : List π) (n : String) : Option π :=
  (ps.filter fun p => name p = n).getLast?

theorem registered_concat (ps : List π) (p : π) :
    registered name (ps ++ [p]) = register name p (registered name ps) := by
  unfold registered
  rw [List.foldl_append]
  rfl

theorem lastNamed_concat (ps : List π) (p : π) (n : String) :
    lastNamed name (ps ++ [p]) n = if name p = n then some p else lastNamed name ps n := by
  unfold lastNamed
  by_cases h : name p = n <;> simp [h]

/-- Registering keeps the names that there are, and adds a new one at the end. -/
theorem map_name_register (new : π) (chain : List π) :
    (register name new chain).map name =
      if name new ∈ chain.map name then chain.map name else chain.map name ++ [name new] := by
  induction chain with
  | nil => rfl
  | cons p ps ih =>
    by_cases h : name p = name new
    · simp [register, h]
    · have h' : ¬ name new = name p := fun he => h he.symm
      rw [register, if_neg h, List.map_cons, ih]
      by_cases hmem : name new ∈ ps.map name
      · rw [if_pos hmem, if_pos (by simp [hmem])]
        rfl
      · rw [if_neg hmem, if_neg (by simpa [h'] using hmem)]
        rfl

/-- A new plugin takes the place of the one with its name; the others stay. -/
theorem mem_register {new q : π} {chain : List π} (hnodup : (chain.map name).Nodup)
    (h : q ∈ register name new chain) : q = new ∨ (q ∈ chain ∧ name q ≠ name new) := by
  induction chain with
  | nil => exact Or.inl (List.mem_singleton.mp h)
  | cons p ps ih =>
    rw [List.map_cons, List.nodup_cons] at hnodup
    by_cases hp : name p = name new
    · rw [register, if_pos hp] at h
      rcases List.mem_cons.mp h with rfl | h
      · exact Or.inl rfl
      · refine Or.inr ⟨List.mem_cons_of_mem p h, fun hq => hnodup.1 ?_⟩
        rw [hp, ← hq]
        exact List.mem_map_of_mem h
    · rw [register, if_neg hp] at h
      rcases List.mem_cons.mp h with rfl | h
      · exact Or.inr ⟨List.mem_cons_self, hp⟩
      · rcases ih hnodup.2 h with rfl | ⟨hq, hne⟩
        · exact Or.inl rfl
        · exact Or.inr ⟨List.mem_cons_of_mem p hq, hne⟩

/-- **The names of the chain** are those registered, in the order of their first registration. -/
theorem map_name_registered (ps : List π) :
    (registered name ps).map name = (ps.map name).eraseDups := by
  induction ps using List.reverseRecOn with
  | nil => simp [registered]
  | append_singleton ps p ih =>
    rw [registered_concat, map_name_register, ih, List.map_append, List.eraseDups_append]
    by_cases h : name p ∈ ps.map name
    · have hnone : [name p].removeAll (ps.map name) = [] := by simpa [List.removeAll] using h
      rw [if_pos (List.mem_eraseDups.mpr h), List.map_singleton, hnone, List.eraseDups_nil,
        List.append_nil]
    · have hone : [name p].removeAll (ps.map name) = [name p] := by simpa [List.removeAll] using h
      rw [if_neg fun hm => h (List.mem_eraseDups.mp hm), List.map_singleton, hone]
      simp [List.eraseDups_cons]

/-- **No two plugins of the chain have the same name.** -/
theorem nodup_registered (ps : List π) : ((registered name ps).map name).Nodup := by
  induction ps using List.reverseRecOn with
  | nil => exact List.nodup_nil
  | append_singleton ps p ih =>
    rw [registered_concat, map_name_register]
    split
    · exact ih
    · next h => exact List.nodup_append.mpr ⟨ih, List.nodup_singleton _, by
        rintro n hn m hm rfl
        exact h (List.mem_singleton.mp hm ▸ hn)⟩

theorem lastNamed_of_mem {ps : List π} {p : π} (h : p ∈ registered name ps) :
    lastNamed name ps (name p) = some p := by
  induction ps using List.reverseRecOn generalizing p with
  | nil => exact absurd h List.not_mem_nil
  | append_singleton ps new ih =>
    rw [registered_concat] at h
    rw [lastNamed_concat]
    rcases mem_register (nodup_registered ps) h with rfl | ⟨hp, hne⟩
    · rw [if_pos rfl]
    · rw [if_neg (Ne.symm hne), ih hp]

/-- **Each name of the chain** stands for the plugin that was registered last under it. -/
theorem registered_eq (ps : List π) :
    (registered name ps).map some = (ps.map name).eraseDups.map (lastNamed name ps) := by
  rw [← map_name_registered, List.map_map]
  exact List.map_congr_left fun p hp => (lastNamed_of_mem hp).symm

/-! ## Who is asked -/

variable {isOn : π → Bool} {ask : π → Verdict}

/-- If nobody blocks, all who are switched on are asked. -/
theorem consult_of_clear {chain : List π} (h : ∀ p ∈ chain.filter isOn, ask p = .allow) :
    consult isOn ask chain = (false, chain.filter isOn) := by
  induction chain with
  | nil => rfl
  | cons p ps ih =>
    by_cases hp : isOn p = true
    · rw [List.filter_cons_of_pos hp] at h ⊢
      have hrest : ∀ q ∈ ps.filter isOn, ask q = .allow := fun q hq =>
        h q (List.mem_cons_of_mem p hq)
      rw [consult, if_pos hp, h p List.mem_cons_self, ih hrest]
    · rw [List.filter_cons_of_neg hp] at h ⊢
      rw [consult, if_neg hp, ih h]

/-- The first who blocks is the last who is asked. -/
theorem consult_of_block {chain clear rest : List π} {p : π}
    (h : chain.filter isOn = clear ++ p :: rest) (hclear : ∀ c ∈ clear, ask c = .allow)
    (hp : ask p = .block) : consult isOn ask chain = (true, clear ++ [p]) := by
  induction chain generalizing clear with
  | nil => simp at h
  | cons q qs ih =>
    by_cases hq : isOn q = true
    · rw [List.filter_cons_of_pos hq] at h
      rw [consult, if_pos hq]
      cases clear with
      | nil =>
        obtain ⟨rfl, -⟩ := List.cons.inj h
        rw [hp]
        rfl
      | cons c clear =>
        obtain ⟨rfl, hrest⟩ := List.cons.inj h
        rw [hclear q List.mem_cons_self,
          ih hrest fun c hc => hclear c (List.mem_cons_of_mem q hc)]
        rfl
    · rw [List.filter_cons_of_neg hq] at h
      rw [consult, if_neg hq, ih h hclear]

theorem clear_or_block (ask : π → Verdict) (on : List π) :
    (∀ p ∈ on, ask p = .allow) ∨
      ∃ clear p rest, on = clear ++ p :: rest ∧ (∀ c ∈ clear, ask c = .allow) ∧ ask p = .block := by
  induction on with
  | nil => exact Or.inl fun p hp => absurd hp List.not_mem_nil
  | cons q qs ih =>
    cases hq : ask q with
    | block => exact Or.inr ⟨[], q, qs, rfl, fun c hc => absurd hc List.not_mem_nil, hq⟩
    | allow =>
      rcases ih with h | ⟨clear, p, rest, rfl, hclear, hp⟩
      · exact Or.inl (List.forall_mem_cons.mpr ⟨hq, h⟩)
      · exact Or.inr ⟨q :: clear, p, rest, rfl, List.forall_mem_cons.mpr ⟨hq, hclear⟩, hp⟩

/-! ## The decision -/

/-- The request comes from no address, or from one that is in neither of the two lists. -/
def Unlisted (policy : Policy) (remote : Option Address) : Prop :=
  ∀ a, remote = some a → policy.allows a = false ∧ policy.denies a = false

/-- The rules of a scan: the outcome for a request from an address, if it is one, and who is
asked, in the order of asking, when `on` are the plugins of the chain that are switched on. -/
inductive Ruling (policy : Policy) (remote : Option Address) (on : List π) (ask : π → Verdict) :
    Outcome → List π → Prop
  | disabled (mode : policy.mode = .disabled) : Ruling policy remote on ask .pass []
  | allowed {a : Address} (mode : policy.mode ≠ .disabled) (address : remote = some a)
      (allowed : policy.allows a = true) : Ruling policy remote on ask .pass []
  | denied {a : Address} (mode : policy.mode ≠ .disabled) (address : remote = some a)
      (unallowed : policy.allows a = false) (denied : policy.denies a = true) :
      Ruling policy remote on ask .blocked []
  /-- Somebody blocks, and nobody before. -/
  | flagged {before after : List π} {p : π} (mode : policy.mode ≠ .disabled)
      (unlisted : Unlisted policy remote) (split : on = before ++ p :: after)
      (allow : ∀ q ∈ before, ask q = .allow) (block : ask p = .block) :
      Ruling policy remote on ask (if policy.mode = .dryrun then .dryrun else .blocked)
        (before ++ [p])
  | clear (mode : policy.mode ≠ .disabled) (unlisted : Unlisted policy remote)
      (allow : ∀ q ∈ on, ask q = .allow) : Ruling policy remote on ask .pass on

theorem flaggedOutcome_eq (m : Mode) :
    flaggedOutcome m = if m = .dryrun then .dryrun else .blocked := by
  cases m <;> rfl

section

variable {policy : Policy} {remote : Option Address} {chain asked : List π} {outcome : Outcome}

/-- A request from nowhere or from an unlisted address is left to the plugins. -/
theorem decide_unlisted (mode : policy.mode ≠ .disabled) (unlisted : Unlisted policy remote) :
    decide policy remote name ask chain = byPlugins policy name ask chain := by
  unfold decide
  rw [if_neg mode]
  cases remote with
  | none => rfl
  | some a =>
    obtain ⟨hallows, hdenies⟩ := unlisted a rfl
    simp [hallows, hdenies]

/-- The plugins rule when the mode and the lists do not. -/
theorem ruling_of_unlisted (mode : policy.mode ≠ .disabled) (unlisted : Unlisted policy remote) :
    Ruling policy remote (chain.filter fun p => policy.isOn (name p)) ask
      (byPlugins policy name ask chain).1 (byPlugins policy name ask chain).2 := by
  unfold byPlugins
  rcases clear_or_block ask (chain.filter fun p => policy.isOn (name p)) with
    hallow | ⟨before, p, after, hsplit, hallow, hblock⟩
  · rw [consult_of_clear hallow]
    exact .clear mode unlisted hallow
  · rw [consult_of_block hsplit hallow hblock]
    simp only [if_true, flaggedOutcome_eq]
    exact .flagged mode unlisted hsplit hallow hblock

/-- What a scan decides obeys the rules. -/
theorem ruling_decide (policy : Policy) (remote : Option Address) (name : π → String)
    (ask : π → Verdict) (chain : List π) :
    Ruling policy remote (chain.filter fun p => policy.isOn (name p)) ask
      (decide policy remote name ask chain).1 (decide policy remote name ask chain).2 := by
  by_cases hmode : policy.mode = .disabled
  · unfold decide
    rw [if_pos hmode]
    exact .disabled hmode
  · by_cases hunlisted : Unlisted policy remote
    · rw [decide_unlisted hmode hunlisted]
      exact ruling_of_unlisted hmode hunlisted
    · cases remote with
      | none => exact absurd (fun a ha => by cases ha) hunlisted
      | some a =>
        unfold decide
        simp only [if_neg hmode]
        by_cases hallows : policy.allows a = true
        · rw [if_pos hallows]
          exact .allowed hmode rfl hallows
        · rw [if_neg hallows]
          have hdenies : policy.denies a = true := by
            by_contra hdenies
            refine hunlisted fun b hb => ?_
            cases hb
            exact ⟨by simpa using hallows, by simpa using hdenies⟩
          rw [if_pos hdenies]
          exact .denied hmode rfl (by simpa using hallows) hdenies

/-- **The decision is what the rules say**, and the rules leave no choice. -/
theorem decide_eq_iff :
    decide policy remote name ask chain = (outcome, asked) ↔
      Ruling policy remote (chain.filter fun p => policy.isOn (name p)) ask outcome asked := by
  constructor
  · intro h
    have hruling := ruling_decide policy remote name ask chain
    rw [h] at hruling
    exact hruling
  · rintro (hmode | ⟨hmode, rfl, hallows⟩ | ⟨hmode, rfl, hallows, hdenies⟩ |
      ⟨hmode, hunlisted, hsplit, hallow, hblock⟩ | ⟨hmode, hunlisted, hallow⟩)
    · simp [decide, hmode]
    · simp [decide, hmode, hallows]
    · simp [decide, hmode, hallows, hdenies]
    · rw [decide_unlisted hmode hunlisted, byPlugins, consult_of_block hsplit hallow hblock,
        ← flaggedOutcome_eq]
      rfl
    · rw [decide_unlisted hmode hunlisted, byPlugins, consult_of_clear hallow]
      rfl

end

end Scan

/-! ## Engines -/

namespace Site

variable {σ : Type}

theorem register_engine (p : Plugin) (s : Site σ) :
    (register p s).2.self.engine = s.self.engine.map fun e =>
      { e with plugins := Scan.register Plugin.name p e.plugins } := rfl

theorem forM_register_engine (ps : List Plugin) (s : Site σ) :
    ((ps.forM (register : Plugin → Act σ Unit)) s).2.self.engine = s.self.engine.map fun e =>
      { e with
        plugins := ps.foldl (fun chain p => Scan.register Plugin.name p chain) e.plugins } := by
  induction ps generalizing s with
  | nil =>
    show s.self.engine = _
    cases s.self.engine <;> rfl
  | cons p ps ih =>
    refine (ih (register p s).2).trans ?_
    rw [register_engine, Option.map_map]
    rfl

/-- **A scan follows the rules**, for any plugins in any chain. The chain has the names of the
plugins that were registered, each once and in the order of their first registration, and each
stands for the plugin that was registered last under it. The outcome, and who was asked in which
order, are what the rules say, and nothing else is. An engine that was set up without plugins has
this chain when plugins have been registered with it, and scans by it whatever the live policy is
by then. -/
theorem scan_follows_rules :
    (∀ {π : Type} (name : π → String) (ps : List π),
      (Scan.registered name ps).map name = (ps.map name).eraseDups ∧
      ((Scan.registered name ps).map name).Nodup ∧
      (Scan.registered name ps).map some = (ps.map name).eraseDups.map (Scan.lastNamed name ps)) ∧
    (∀ {π : Type} (policy : Policy) (remote : Option Address) (name : π → String)
      (ask : π → Verdict) (chain : List π) (outcome : Outcome) (asked : List π),
      Scan.decide policy remote name ask chain = (outcome, asked) ↔
        Scan.Ruling policy remote (chain.filter fun p => policy.isOn (name p)) ask outcome asked) ∧
    ∀ {σ : Type} (s : Site σ) (n : Nat) (output : AuditOutput) (ps : List Plugin),
      s.self.engine = some ⟨n, [], output⟩ →
      ∃ e, ((ps.forM (register : Plugin → Act σ Unit)) s).2.self.engine = some e ∧
        e.policy = n ∧ e.plugins = Scan.registered Plugin.name ps ∧
        ∀ (t : Site σ) (r : Request), ∃ asked,
          Scan.Ruling (policyAt n t).1 r.remote?
            (e.plugins.filter fun p => (policyAt n t).1.isOn p.name)
            (askPlugin t.self.guards r) (scan e r t).1 asked ∧
          (scan e r t).2.world.asked = t.world.asked ++ asked.filterMap tag? := by
  refine ⟨fun name ps => ⟨Scan.map_name_registered ps,
    Scan.nodup_registered ps, Scan.registered_eq ps⟩,
    fun policy remote name ask chain outcome asked => Scan.decide_eq_iff, ?_⟩
  intro σ s n output ps hs
  have hengine := forM_register_engine ps s
  rw [hs] at hengine
  refine ⟨_, hengine, rfl, rfl, fun t r => ?_⟩
  exact ⟨_, Scan.ruling_decide (policyAt n t).1 r.remote? Plugin.name (askPlugin t.self.guards r) _,
    rfl⟩

/-- A dry run in which one plugin is switched on and every address of version 4 is blocked. -/
def dryPolicy : Policy :=
  { Policy.initial with
    mode := .dryrun
    toggles := Dict.ofList [("p", true)]
    denied := [⟨.v4 0, 0, by decide⟩] }

def drySite : Site Unit :=
  ⟨⟨(), ⟨Disk.empty, [], []⟩, Dict.empty, [], .silent "refused", ⟨0, 0⟩⟩,
    { Instance.fresh with policies := [dryPolicy], engine := some ⟨0, [], ⟨⟨[]⟩, []⟩⟩ }⟩

def strayRequest : Request :=
  ⟨"h", ⟨['a'], [], [], none, none, .flat ['b'], none, none⟩, "GET"⟩

/-- Such a request goes to the plugin registered last under its name, and not to the one that is
switched off. -/
theorem scan_follows_rules_replaced :
    drySite.self.engine = some ⟨0, [], ⟨⟨[]⟩, []⟩⟩ ∧
      ∃ (e : Engine) (asked : List Plugin), e.plugins.map Plugin.name = ["p", "q"] ∧
        Scan.Ruling dryPolicy none (e.plugins.filter fun p => dryPolicy.isOn p.name)
          (askPlugin [] strayRequest) (scan e strayRequest drySite).1 asked ∧
        (scan e strayRequest drySite).1 = .dryrun ∧ asked.filterMap tag? = ["new"] := by
  refine ⟨rfl, ?_⟩
  obtain ⟨e, he, -, hplugins, hscan⟩ := scan_follows_rules.2.2 drySite 0 ⟨⟨[]⟩, []⟩
    [.fixed "p" "old" .allow, .fixed "q" "off" .block, .fixed "p" "new" .block] rfl
  obtain ⟨asked, hruling, hasked⟩ := hscan drySite strayRequest
  obtain rfl : e = ⟨0, [.fixed "p" "new" .block, .fixed "q" "off" .block], ⟨⟨[]⟩, []⟩⟩ :=
    (Option.some.inj he).symm
  have hremote : strayRequest.remote? = none := by decide
  rw [hremote] at hruling
  exact ⟨_, asked, rfl, hruling, by decide, hasked.symm.trans (by decide)⟩

end Site

end Firewall
