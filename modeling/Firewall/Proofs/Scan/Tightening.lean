import Firewall.Proofs.Scan

/-!
How the decisions under one policy go with those under another one. A policy can be tried in a dry
run before it is enforced, and an enforced one can be made stricter while requests are scanned.

Proved here:

* `Scan.dry_run_foretells`: a dry run asks the same plugins and flags just the requests that they
  would have blocked;
* `Scan.blocked_iff`: what is blocked under a policy in force;
* `Scan.foldl_register_append`: plugins under new names go to the end of the chain;
* `Policy.Tightens.blocked`: a tighter policy blocks what was blocked;
* `Site.dry_run_foretells_and_tightening_holds`: both together, and that engines scan like this.
-/

namespace Firewall

/-! ## The lists -/

namespace Policy

/-- The list of allowed networks lets requests from there through. -/
def Admits (p : Policy) (remote : Option Address) : Prop :=
  ∃ a, remote = some a ∧ p.allows a = true

/-- The list of denied networks blocks requests from there by itself. -/
def Bars (p : Policy) (remote : Option Address) : Prop :=
  ∃ a, remote = some a ∧ p.allows a = false ∧ p.denies a = true

/-- One policy is at least as tight as another one: it allows no more networks, denies no fewer,
and has no fewer plugins switched on. -/
structure Tightens (new old : Policy) : Prop where
  allowed : new.allowed ⊆ old.allowed
  denied : old.denied ⊆ new.denied
  on (plugin : String) : old.isOn plugin = true → new.isOn plugin = true

variable {new old : Policy}

theorem Tightens.allows (h : new.Tightens old) {a : Address} (ha : new.allows a = true) :
    old.allows a = true := by
  rw [Policy.allows, List.any_eq_true] at ha ⊢
  obtain ⟨network, hmem, hcontains⟩ := ha
  exact ⟨network, h.allowed hmem, hcontains⟩

theorem Tightens.denies (h : new.Tightens old) {a : Address} (ha : old.denies a = true) :
    new.denies a = true := by
  rw [Policy.denies, List.any_eq_true] at ha ⊢
  obtain ⟨network, hmem, hcontains⟩ := ha
  exact ⟨network, h.denied hmem, hcontains⟩

end Policy

namespace Scan

variable {π : Type} {name : π → String} {ask : π → Verdict} {chain : List π} {policy : Policy}
  {remote : Option Address}

theorem unlisted_of_not (hadmits : ¬ policy.Admits remote) (hbars : ¬ policy.Bars remote) :
    Unlisted policy remote := by
  intro a ha
  have hallows : policy.allows a = false := by
    by_contra h
    exact hadmits ⟨a, ha, by simpa using h⟩
  refine ⟨hallows, ?_⟩
  by_contra h
  exact hbars ⟨a, ha, hallows, by simpa using h⟩

theorem decide_admitted (mode : policy.mode ≠ .disabled) (h : policy.Admits remote) :
    decide policy remote name ask chain = (.pass, []) := by
  obtain ⟨a, ha, hallows⟩ := h
  exact decide_eq_iff.mpr (.allowed mode ha hallows)

theorem decide_barred (mode : policy.mode ≠ .disabled) (h : policy.Bars remote) :
    decide policy remote name ask chain = (.blocked, []) := by
  obtain ⟨a, ha, hallows, hdenies⟩ := h
  exact decide_eq_iff.mpr (.denied mode ha hallows hdenies)

/-! ## Dry runs -/

/-- **A dry run foretells** what enforcement does: it asks the same plugins in the same order,
passes the same requests, and flags those that would be blocked, except for those that the list of
denied networks blocks even now. -/
theorem dry_run_foretells (name : π → String) (ask : π → Verdict) (chain : List π)
    (policy : Policy) (remote : Option Address) :
    let live := decide { policy with mode := .enabled } remote name ask chain
    let dry := decide { policy with mode := .dryrun } remote name ask chain
    dry.2 = live.2 ∧ (dry.1 = .pass ↔ live.1 = .pass) ∧
      (dry.1 = .dryrun ↔ live.1 = .blocked ∧ ¬ policy.Bars remote) := by
  intro live dry
  by_cases hadmits : policy.Admits remote
  · have hlive : live = (.pass, []) := decide_admitted nofun hadmits
    have hdry : dry = (.pass, []) := decide_admitted nofun hadmits
    simp [hlive, hdry]
  · by_cases hbars : policy.Bars remote
    · have hlive : live = (.blocked, []) := decide_barred nofun hbars
      have hdry : dry = (.blocked, []) := decide_barred nofun hbars
      simp [hlive, hdry, hbars]
    · have hunlisted : Unlisted policy remote := unlisted_of_not hadmits hbars
      have hlive : live = byPlugins { policy with mode := .enabled } name ask chain :=
        decide_unlisted nofun hunlisted
      have hdry : dry = byPlugins { policy with mode := .dryrun } name ask chain :=
        decide_unlisted nofun hunlisted
      rw [hlive, hdry]
      -- who is asked, and whether someone blocks, is the same in both modes
      have hon (m : Mode) : Policy.isOn { policy with mode := m } = policy.isOn := rfl
      simp only [byPlugins, hon]
      cases (consult (fun p => policy.isOn (name p)) ask chain).1 <;>
        simp [flaggedOutcome, hbars]

/-! ## Enforcement -/

/-- A consultation ends with a block if one of those who are switched on blocks. -/
theorem consult_flagged_iff {isOn : π → Bool} :
    (consult isOn ask chain).1 = true ↔ ∃ p ∈ chain, isOn p = true ∧ ask p = .block := by
  induction chain with
  | nil => simp [consult]
  | cons p ps ih =>
    by_cases hp : isOn p = true
    · cases ha : ask p with
      | block => simp [consult, hp, ha]
      | allow => simp [consult, hp, ha, ih]
    · simp [consult, hp, ih]

/-- **What is blocked** under a policy in force: what comes from no allowed network, and either
from a denied one or past a plugin that blocks it. -/
theorem blocked_iff (mode : policy.mode = .enabled) :
    (decide policy remote name ask chain).1 = .blocked ↔ ¬ policy.Admits remote ∧
      ((∃ a, remote = some a ∧ policy.denies a = true) ∨
        ∃ p ∈ chain, policy.isOn (name p) = true ∧ ask p = .block) := by
  have hmode : policy.mode ≠ .disabled := by simp [mode]
  by_cases hadmits : policy.Admits remote
  · simp [decide_admitted hmode hadmits, hadmits]
  · by_cases hbars : policy.Bars remote
    · rw [decide_barred hmode hbars]
      obtain ⟨a, ha, -, hdenies⟩ := hbars
      exact iff_of_true rfl ⟨hadmits, .inl ⟨a, ha, hdenies⟩⟩
    · have hunlisted := unlisted_of_not hadmits hbars
      have hdenied : ¬ ∃ a, remote = some a ∧ policy.denies a = true := by
        rintro ⟨a, ha, hdenies⟩
        rw [(hunlisted a ha).2] at hdenies
        cases hdenies
      rw [decide_unlisted hmode hunlisted, byPlugins, ← consult_flagged_iff]
      simp only [hadmits, hdenied, not_false_eq_true, true_and, false_or, mode]
      cases (consult (fun p => policy.isOn (name p)) ask chain).1 <;> simp [flaggedOutcome]

/-! ## Further plugins -/

theorem register_append {new : π} (h : name new ∉ chain.map name) (tail : List π) :
    register name new (chain ++ tail) = chain ++ register name new tail := by
  induction chain with
  | nil => rfl
  | cons p ps ih =>
    rw [List.map_cons, List.mem_cons, not_or] at h
    rw [List.cons_append, register, if_neg (Ne.symm h.1), ih h.2, List.cons_append]

/-- **Plugins under new names** go to the end of the chain. -/
theorem foldl_register_append {more : List π} (h : ∀ p ∈ more, name p ∉ chain.map name)
    (tail : List π) :
    more.foldl (fun chain p => register name p chain) (chain ++ tail) =
      chain ++ more.foldl (fun chain p => register name p chain) tail := by
  induction more generalizing tail with
  | nil => rfl
  | cons p more ih =>
    rw [List.forall_mem_cons] at h
    rw [List.foldl_cons, register_append h.1, ih h.2, List.foldl_cons]

theorem subset_foldl_register {more : List π} (h : ∀ p ∈ more, name p ∉ chain.map name) :
    chain ⊆ more.foldl (fun chain p => register name p chain) chain := by
  have happend := foldl_register_append h []
  rw [List.append_nil] at happend
  rw [happend]
  exact List.subset_append_left chain _

end Scan

/-! ## Tighter policies -/

/-- **A tighter policy blocks what was blocked**, also with more plugins in the chain. -/
theorem Policy.Tightens.blocked {new old : Policy} (h : new.Tightens old)
    (hold : old.mode = .enabled) (hnew : new.mode = .enabled) {π : Type} {name : π → String}
    {ask : π → Verdict} {chain more : List π} {remote : Option Address} (hchain : chain ⊆ more)
    (hblocked : (Scan.decide old remote name ask chain).1 = .blocked) :
    (Scan.decide new remote name ask more).1 = .blocked := by
  rw [Scan.blocked_iff hold] at hblocked
  rw [Scan.blocked_iff hnew]
  obtain ⟨hadmits, hwhy⟩ := hblocked
  constructor
  · rintro ⟨a, ha, hallows⟩
    exact hadmits ⟨a, ha, h.allows hallows⟩
  · rcases hwhy with ⟨a, ha, hdenies⟩ | ⟨p, hp, hon, hblock⟩
    · exact .inl ⟨a, ha, h.denies hdenies⟩
    · exact .inr ⟨p, hchain hp, h.on _ hon, hblock⟩

theorem Outcome.isAllowed_eq_false {o : Outcome} : o.isAllowed = false ↔ o = .blocked := by
  cases o <;> decide

namespace Site

/-- **A dry run foretells enforcement, and tightening never loosens**, for any plugins whose
verdicts depend on the request alone, any chain of them and any policy.

In a dry run the same plugins are asked in the same order as in force. The same requests pass; the
others are flagged where they would be blocked, except for those that the list of denied networks
blocks in both modes. In force, a request that is blocked stays blocked when networks are added to
the denied ones, when further plugins are switched on and when plugins are registered under new
names, or all of this together; and one that is let through stays so when networks are added to the
allowed ones. What an engine decides, and whom it asks, is such a decision, under its live policy
and with the verdicts of its plugins. -/
theorem dry_run_foretells_and_tightening_holds :
    (∀ {π : Type} (name : π → String) (ask : π → Request → Verdict) (chain : List π)
      (policy : Policy) (r : Request),
      let live := Scan.decide { policy with mode := .enabled } r.remote? name (ask · r) chain
      let dry := Scan.decide { policy with mode := .dryrun } r.remote? name (ask · r) chain
      dry.2 = live.2 ∧ (dry.1 = .pass ↔ live.1 = .pass) ∧
        (dry.1 = .dryrun ↔ live.1 = .blocked ∧ ¬ policy.Bars r.remote?)) ∧
    (∀ {π : Type} (name : π → String) (ask : π → Request → Verdict) (chain more : List π)
      (policy : Policy) (denied : List Network) (toggles : Dict String Bool) (r : Request),
      policy.mode = .enabled → policy.denied ⊆ denied →
      (∀ plugin, policy.toggles.get? plugin = some true → toggles.get? plugin = some true) →
      (∀ p ∈ more, name p ∉ chain.map name) →
      (Scan.decide policy r.remote? name (ask · r) chain).1 = .blocked →
      (Scan.decide { policy with denied, toggles } r.remote? name (ask · r)
        (more.foldl (fun chain p => Scan.register name p chain) chain)).1.isAllowed = false) ∧
    (∀ {π : Type} (name : π → String) (ask : π → Request → Verdict) (chain : List π)
      (policy : Policy) (allowed : List Network) (r : Request),
      policy.mode = .enabled → policy.allowed ⊆ allowed →
      (Scan.decide policy r.remote? name (ask · r) chain).1.isAllowed = true →
      (Scan.decide { policy with allowed } r.remote? name (ask · r) chain).1 ≠ .blocked) ∧
    ∀ {σ : Type} (s : Site σ) (e : Engine) (r : Request), ∃ asked,
      Scan.decide (policyAt e.policy s).1 r.remote? Plugin.name (askPlugin s.self.guards r)
        e.plugins = ((scan e r s).1, asked) ∧
      (scan e r s).2.world.asked = s.world.asked ++ asked.filterMap tag? := by
  refine ⟨fun name ask chain policy r =>
    Scan.dry_run_foretells name (ask · r) chain policy r.remote?, ?_, ?_,
    fun s e r => ⟨_, rfl, rfl⟩⟩
  · intro π name ask chain more policy denied toggles r hmode hdenied htoggles hnew hblocked
    have htighter : Policy.Tightens { policy with denied, toggles } policy := by
      refine ⟨List.Subset.refl _, hdenied, fun plugin hon => ?_⟩
      rw [Policy.isOn] at hon ⊢
      cases h : policy.toggles.get? plugin with
      | none => simp [h] at hon
      | some on =>
        rw [h] at hon
        cases hon
        simp [htoggles plugin h]
    rw [Outcome.isAllowed_eq_false]
    exact htighter.blocked hmode hmode (Scan.subset_foldl_register hnew) hblocked
  · intro π name ask chain policy allowed r hmode hallowed hpasses hblocked
    -- the old policy is the tighter one of the two
    have htighter : policy.Tightens { policy with allowed } :=
      ⟨hallowed, List.Subset.refl _, fun _ hon => hon⟩
    have hstays := htighter.blocked hmode hmode (List.Subset.refl chain) hblocked
    rw [← Outcome.isAllowed_eq_false] at hstays
    rw [hstays] at hpasses
    cases hpasses

def plainPolicy : Policy := { Policy.initial with toggles := Dict.ofList [("p", true)] }

/-- A request that the plugin blocks is blocked after everything has been made tighter; one that it
lets through is so after a network has been added to the allowed ones. -/
theorem dry_run_foretells_and_tightening_holds_stray :
    (Scan.decide { plainPolicy with
        denied := dryPolicy.denied, toggles := Dict.ofList [("q", true), ("p", true)] }
      strayRequest.remote? Plugin.name (askPlugin [] strayRequest)
      [.fixed "p" "old" .block, .fixed "q" "new" .allow]).1.isAllowed = false ∧
    (Scan.decide { plainPolicy with allowed := dryPolicy.denied } strayRequest.remote? Plugin.name
      (askPlugin [] strayRequest) [.fixed "p" "old" .allow]).1 ≠ .blocked := by
  obtain ⟨-, htighter, hlooser, -⟩ := dry_run_foretells_and_tightening_holds
  have htoggles (plugin : String) (hon : plainPolicy.toggles.get? plugin = some true) :
      (Dict.ofList [("q", true), ("p", true)]).get? plugin = some true := by
    have hplugin : plugin = "p" := by simpa [plainPolicy, Dict.ofList] using hon
    simp [hplugin, Dict.ofList]
  refine ⟨?_, ?_⟩
  · exact htighter Plugin.name (fun p r => askPlugin [] r p) [.fixed "p" "old" .block]
      [.fixed "q" "new" .allow] plainPolicy dryPolicy.denied _ strayRequest rfl
      (List.nil_subset _) htoggles (by decide) (by decide)
  · exact hlooser Plugin.name (fun p r => askPlugin [] r p) [.fixed "p" "old" .allow] plainPolicy
      dryPolicy.denied strayRequest rfl (List.nil_subset _) (by decide)

end Site

end Firewall
