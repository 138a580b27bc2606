import Firewall.Proofs.Site
import Firewall.Proofs.Store.Refinement

/-!
Choosing countries. A choice is a list of codes and a sense in which all of them are meant. It is
accepted if every code is two letters; then rules of one sense are stored, one for each code, and
the table of whatever a store gives back of them has exactly these codes and this sense.

Proved here:

* `parseCode_of_isCode`, `parseCode_of_not_isCode`: which codes are accepted, and as what;
* `setCountries_of_isCode`, `setCountries_of_not_isCode`: so are choices, as a whole;
* `table_of_kept`: the table of what a store keeps of the rules of a choice;
* `CountryTable.Enforces.scan_iff`: which requests such a table blocks.
-/

namespace Firewall

/-! ## Codes -/

namespace Change

/-- A text is a country code: two letters, with white space around them or none. -/
def IsCode (text : String) : Prop :=
  ∃ a b, Text.trim text.toList = [a, b] ∧ Text.isAsciiLetter a = true ∧ Text.isAsciiLetter b = true

/-- The code that a text stands for: without white space around it, in upper case. -/
def codeOf (text : String) : String :=
  String.ofList ((Text.trim text.toList).map Text.asciiUpper)

theorem parseCode_of_isCode {text : String} (h : IsCode text) :
    parseCode text = .ok (codeOf text) := by
  obtain ⟨a, b, ht, ha, hb⟩ := h
  rw [parseCode, codeOf, ht]
  simp only [ha, hb, Bool.and_self, if_true]
  rfl

theorem parseCode_of_not_isCode {text : String} (h : ¬ IsCode text) :
    ∃ cause, parseCode text = .error cause := by
  rw [parseCode]
  split
  · next a b ht =>
    split
    · next hletters =>
      rw [Bool.and_eq_true] at hletters
      exact absurd ⟨a, b, ht, hletters.1, hletters.2⟩ h
    · exact ⟨_, rfl⟩
  · exact ⟨_, rfl⟩

theorem mapM_parseCode_of_isCode {codes : List String} (h : ∀ text ∈ codes, IsCode text) :
    codes.mapM parseCode = .ok (codes.map codeOf) := by
  induction codes with
  | nil => rfl
  | cons text codes ih =>
    rw [List.mapM_cons, parseCode_of_isCode (h text List.mem_cons_self),
      ih fun t ht => h t (List.mem_cons_of_mem text ht)]
    rfl

theorem mapM_parseCode_of_not_isCode {codes : List String} (h : ¬ ∀ text ∈ codes, IsCode text) :
    ∃ cause, codes.mapM parseCode = .error cause := by
  induction codes with
  | nil => exact absurd (fun _ ht => nomatch ht) h
  | cons text codes ih =>
    rw [List.mapM_cons]
    by_cases htext : IsCode text
    · have hrest : ¬ ∀ t ∈ codes, IsCode t := fun hall =>
        h (List.forall_mem_cons.mpr ⟨htext, hall⟩)
      obtain ⟨cause, hcause⟩ := ih hrest
      rw [parseCode_of_isCode htext, hcause]
      exact ⟨cause, rfl⟩
    · obtain ⟨cause, hcause⟩ := parseCode_of_not_isCode htext
      rw [hcause]
      exact ⟨cause, rfl⟩

def rulesOf (codes : List String) (allow : Bool) : List CountryRule :=
  codes.map fun text => ⟨codeOf text, allow⟩

theorem setCountries_of_isCode {codes : List String} (h : ∀ text ∈ codes, IsCode text)
    (allow : Bool) : setCountries codes allow =
      .ok [.putRules (rulesOf codes allow), .announce .geoip (ruleWord allow)] := by
  rw [setCountries, mapM_parseCode_of_isCode h]
  show Except.ok [Step.putRules ((codes.map codeOf).map fun c => ⟨c, allow⟩), _] = _
  rw [List.map_map]
  rfl

theorem setCountries_of_not_isCode {codes : List String} (h : ¬ ∀ text ∈ codes, IsCode text)
    (allow : Bool) : ∃ cause, setCountries codes allow = .error cause := by
  obtain ⟨cause, hcause⟩ := mapM_parseCode_of_not_isCode h
  rw [setCountries, hcause]
  exact ⟨cause, rfl⟩

/-- A choice that was accepted has codes only. -/
theorem isCode_of_setCountries {codes : List String} {allow : Bool} {steps : List Step}
    (h : setCountries codes allow = .ok steps) : ∀ text ∈ codes, IsCode text := by
  by_contra hcodes
  obtain ⟨cause, hcause⟩ := setCountries_of_not_isCode hcodes allow
  rw [hcause] at h
  cases h

end Change

/-! ## Rules that were stored -/

/-- A store that makes up no country rules: what it keeps of rules are some of them. -/
class KeepsRules (σ : Type) [RecordStore σ] [LawfulStore σ] : Prop where
  putRules {s : σ} {t : Tables} (rules : List CountryRule) : LawfulStore.Shows s t →
    ∃ kept, kept ⊆ rules ∧ SameRules kept rules ∧
      (RecordStore.putRules rules : Access σ Unit).Gives LawfulStore.Shows s (.ok ())
        { t with rules := kept }

instance : KeepsRules Tables where
  putRules rules h := h ▸ ⟨rules, List.Subset.refl rules, fun _ => rfl, rfl, rfl⟩

instance : KeepsRules Shared where
  putRules rules := by
    rintro ⟨root, u, h, rfl⟩
    refine ⟨CountryRule.condensed rules, fun r hr => ?_, sameRules_condensed rules,
      (Shared.putRules_gives h rules).imp fun s => Shared.Holds.shows⟩
    exact (CountryRule.lasts_sublist rules).subset (CountryRule.mem_condensed.mp hr)

theorem CountryRule.mem_map_lasts {code : String} {rules : List CountryRule} :
    code ∈ (lasts rules).map CountryRule.code ↔ code ∈ rules.map CountryRule.code := by
  induction rules with
  | nil => rfl
  | cons r rest ih =>
    rw [lasts]
    split
    · next hr =>
      rw [ih, List.map_cons, List.mem_cons]
      constructor
      · exact Or.inr
      · rintro (rfl | h)
        · exact hr
        · exact h
    · rw [List.map_cons, List.map_cons, List.mem_cons, List.mem_cons, ih]

namespace Geo.CountryTable

/-- The countries of a table are those of its rules. -/
theorem contains_ofRules {rules : List CountryRule} {code : String} :
    (ofRules rules).countries.contains code = true ↔ code ∈ rules.map CountryRule.code := by
  rw [← CountryRule.mem_map_lasts, List.mem_map, Dict.contains, Option.isSome_iff_exists]
  constructor
  · rintro ⟨allow, h⟩
    exact ⟨⟨code, allow⟩, get?_ofRules_iff.mp h, rfl⟩
  · rintro ⟨r, hr, rfl⟩
    exact ⟨r.allow, get?_ofRules_iff.mpr hr⟩

/-- A table lets through what a choice of countries lets through. -/
structure Enforces (t : CountryTable) (codes : List String) (allow : Bool) : Prop where
  /-- Its countries are exactly those of the choice, in upper case. -/
  countries : ∀ c, t.countries.contains c = true ↔ c ∈ codes.map Change.codeOf
  /-- It has the sense of the choice; without countries there is no restriction. -/
  mode : t.allowMode = (codes.isEmpty || allow)

/-- **What a store keeps of the rules of a choice** gives the table of the choice, whatever is
said twice and in whatever order. -/
theorem table_of_kept {codes : List String} {allow : Bool} {kept : List CountryRule}
    (hsub : kept ⊆ Change.rulesOf codes allow)
    (hsame : SameRules kept (Change.rulesOf codes allow)) :
    (ofRules kept).Enforces codes allow := by
  have hcountries : ∀ c, (ofRules kept).countries.contains c = true ↔
      c ∈ codes.map Change.codeOf := by
    intro c
    have hcontains : (ofRules kept).countries.contains c =
        (ofRules (Change.rulesOf codes allow)).countries.contains c :=
      congrArg Option.isSome (hsame c)
    rw [hcontains, contains_ofRules, Change.rulesOf, List.map_map]
    rfl
  refine ⟨hcountries, ?_⟩
  cases kept with
  | nil =>
    -- nothing is kept, and so nothing was chosen
    cases codes with
    | nil => rfl
    | cons text codes =>
      have h := (hcountries (Change.codeOf text)).mpr List.mem_cons_self
      exact absurd h Bool.false_ne_true
  | cons r kept =>
    obtain ⟨text, htext, hr⟩ := List.mem_map.mp (hsub List.mem_cons_self)
    have hallow : r.allow = allow := by rw [← hr]
    have hne : codes.isEmpty = false := List.isEmpty_eq_false_iff_exists_mem.mpr ⟨text, htext⟩
    rw [hne]
    exact hallow

theorem isEmpty_iff_forall {t : CountryTable} :
    t.countries.isEmpty = true ↔ ∀ c, t.countries.contains c = false := by
  constructor
  · intro h c
    rw [Dict.eq_empty_of_isEmpty h]
    rfl
  · intro h
    cases hrows : t.countries.rows with
    | nil => rw [Dict.isEmpty, hrows]; rfl
    | cons r rows =>
      have hr : t.countries.get? r.1 = some r.2 :=
        Dict.get?_eq_some_iff.mpr (by rw [hrows]; exact List.mem_cons_self)
      have hcontains := h r.1
      rw [Dict.contains, hr] at hcontains
      cases hcontains

namespace Enforces

variable {t : CountryTable} {codes : List String} {allow : Bool}

theorem isEmpty_iff (h : t.Enforces codes allow) : t.countries.isEmpty = true ↔ codes = [] := by
  rw [isEmpty_iff_forall]
  constructor
  · intro hnone
    cases codes with
    | nil => rfl
    | cons text codes =>
      have hcontains := (h.countries (Change.codeOf text)).mpr List.mem_cons_self
      rw [hnone] at hcontains
      cases hcontains
  · rintro rfl c
    exact Bool.eq_false_iff.mpr fun hc => List.not_mem_nil ((h.countries c).mp hc)

/-- A country is blocked if being chosen is not what lets it through. -/
theorem verdict_iff (h : t.Enforces codes allow) (hne : codes ≠ []) (country : String) :
    t.verdict country = .block ↔ decide (country ∈ codes.map Change.codeOf) ≠ allow := by
  have hmode : t.allowMode = allow := by
    rw [h.mode, List.isEmpty_eq_false_iff.mpr hne, Bool.false_or]
  have hcontains : t.countries.contains country =
      decide (country ∈ codes.map Change.codeOf) := by
    rw [Bool.eq_iff_iff, h.countries, decide_eq_true_eq]
  rw [verdict, hmode, hcontains]
  split
  · next he => exact ⟨fun hblock => (nomatch hblock), fun hne => absurd he hne⟩
  · next he => exact ⟨fun _ => he, fun _ => rfl⟩

/-- **Which requests a table of a choice blocks**: those from an address whose country is known
and is chosen to be blocked, or is not chosen to be let through. -/
theorem scan_iff (h : t.Enforces codes allow) (lookup : Lookup) (r : Request) :
    Geo.scan t lookup r = .block ↔ codes ≠ [] ∧ ∃ a c, r.remote? = some a ∧ lookup a = some c ∧
      decide (c ∈ codes.map Change.codeOf) ≠ allow := by
  rw [Geo.scan]
  by_cases hcodes : codes = []
  · rw [if_pos (h.isEmpty_iff.mpr hcodes)]
    simp [hcodes]
  rw [if_neg fun he => hcodes (h.isEmpty_iff.mp he)]
  cases hremote : r.remote? with
  | none => simp
  | some a =>
    rw [Option.bind_some]
    cases hlookup : lookup a with
    | none => simp [hlookup]
    | some c => simp [hlookup, hcodes, h.verdict_iff hcodes c]

end Enforces

end Geo.CountryTable

end Firewall
