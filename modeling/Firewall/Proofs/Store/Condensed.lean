import Firewall.Proofs.Dict
import Firewall.Proofs.Store.Lawful
import Firewall.Store.Shared
import Mathlib.Data.List.Sort
import Mathlib.Data.String.Basic

/-!
Country rules condensed: of the rules of each country only the last one is kept, and what
is kept is sorted by country. This is what a store that holds rules in a hash gives back.

Proved here:

* `sorted_condensed`, `mem_condensed`, `condensed_unique`: condensing keeps the last rules, in
  order, and nothing else does;
* `sameRules_condensed`: condensed rules say the same of every country;
* `rulesOf_countries`: reading back a hash of rules condenses them.
-/

namespace Firewall

namespace CountryRule

/-- The rules that no later rule of the same country follows. -/
def lasts : List CountryRule → List CountryRule
  | [] => []
  | r :: rest => if r.code ∈ rest.map code then lasts rest else r :: lasts rest

/-- The last rule of each country, sorted by country. -/
def condensed (rules : List CountryRule) : List CountryRule :=
  (lasts rules).insertionSort fun a b => a.code ≤ b.code

theorem lasts_sublist (rules : List CountryRule) : (lasts rules).Sublist rules := by
  induction rules with
  | nil => exact List.Sublist.slnil
  | cons r rest ih =>
    rw [lasts]
    split
    · exact ih.cons r
    · exact ih.cons_cons r

theorem nodup_lasts (rules : List CountryRule) : ((lasts rules).map code).Nodup := by
  induction rules with
  | nil => exact List.nodup_nil
  | cons r rest ih =>
    rw [lasts]
    split
    · exact ih
    · next h =>
      rw [List.map_cons, List.nodup_cons]
      exact ⟨fun hm => h (((lasts_sublist rest).map code).subset hm), ih⟩

/-- Where every country has one rule, all rules are kept. -/
theorem lasts_eq_self {rules : List CountryRule} (h : (rules.map code).Nodup) :
    lasts rules = rules := by
  induction rules with
  | nil => rfl
  | cons r rest ih =>
    rw [List.map_cons, List.nodup_cons] at h
    rw [lasts, if_neg h.1, ih h.2]

@[simp] theorem mem_condensed {r : CountryRule} {rules : List CountryRule} :
    r ∈ condensed rules ↔ r ∈ lasts rules := by
  rw [condensed, List.mem_insertionSort]

theorem nodup_condensed (rules : List CountryRule) : ((condensed rules).map code).Nodup :=
  (((lasts rules).perm_insertionSort _).map code).nodup_iff.mpr (nodup_lasts rules)

/-- Rules are comparable by their countries. -/
instance : Std.Total fun a b : CountryRule => a.code ≤ b.code := ⟨fun a b => le_total a.code b.code⟩

instance : IsTrans CountryRule fun a b => a.code ≤ b.code := ⟨fun _ _ _ => le_trans⟩

theorem sorted_condensed (rules : List CountryRule) :
    (condensed rules).Pairwise fun a b => a.code ≤ b.code :=
  List.pairwise_insertionSort _ _

/-- A sorted list of the same rules, one for each country, is the condensed one. -/
theorem condensed_unique {rules kept : List CountryRule} (hn : (kept.map code).Nodup)
    (hs : kept.Pairwise fun a b => a.code ≤ b.code) (hm : ∀ r, r ∈ kept ↔ r ∈ lasts rules) :
    kept = condensed rules := by
  have hperm : kept.Perm (condensed rules) := by
    rw [List.perm_ext_iff_of_nodup (List.Nodup.of_map code hn)
      (List.Nodup.of_map code (nodup_condensed rules))]
    intro r
    rw [hm, mem_condensed]
  refine hperm.eq_of_pairwise ?_ hs (sorted_condensed rules)
  intro a b ha hb hab hba
  have hc : a.code = b.code := le_antisymm hab hba
  exact List.inj_on_of_nodup_map hn ha (hperm.mem_iff.mpr hb) hc

example : condensed [⟨"UK", true⟩, ⟨"CA", true⟩, ⟨"UK", false⟩] =
    [⟨"CA", true⟩, ⟨"UK", false⟩] := by decide

end CountryRule

namespace Geo.CountryTable

theorem get?_foldl_iff (rules : List CountryRule) (d : Dict String Bool) (code : String)
    (allow : Bool) :
    ((rules.map fun r => (r.code, r.allow)).foldl (fun d r => d.insert r.1 r.2) d).get? code =
        some allow ↔
      ⟨code, allow⟩ ∈ CountryRule.lasts rules ∨
        (code ∉ rules.map CountryRule.code ∧ d.get? code = some allow) := by
  induction rules generalizing d with
  | nil => simp [CountryRule.lasts]
  | cons r rest ih =>
    rw [List.map_cons, List.foldl_cons, ih, Dict.get?_insert, CountryRule.lasts, List.map_cons,
      List.mem_cons, not_or]
    by_cases hc : code = r.code
    · subst hc
      rw [if_pos rfl, Option.some.injEq]
      split
      · next hr => simp [hr]
      · next hr =>
        have he : (⟨r.code, allow⟩ : CountryRule) = r ↔ r.allow = allow := by
          cases r
          simp [eq_comm]
        simp [hr, he, or_comm]
    · have he : (⟨code, allow⟩ : CountryRule) ≠ r := by
        rintro rfl
        exact hc rfl
      rw [if_neg hc]
      split
      · simp [hc]
      · simp [hc, he]

/-- A table says of a country what its last rule says. -/
theorem get?_ofRules_iff {rules : List CountryRule} {code : String} {allow : Bool} :
    (ofRules rules).countries.get? code = some allow ↔
      ⟨code, allow⟩ ∈ CountryRule.lasts rules := by
  unfold ofRules Dict.ofList
  rw [get?_foldl_iff]
  simp

end Geo.CountryTable

/-- **Condensed rules say the same of every country.** -/
theorem sameRules_condensed (rules : List CountryRule) :
    SameRules (CountryRule.condensed rules) rules := by
  intro code
  apply Option.ext
  intro allow
  rw [Geo.CountryTable.get?_ofRules_iff, Geo.CountryTable.get?_ofRules_iff,
    CountryRule.lasts_eq_self (CountryRule.nodup_condensed rules), CountryRule.mem_condensed]

namespace Shared

/-- The text by which a hash holds what a rule says. -/
def mark (allow : Bool) : String := if allow then "1" else "0"

theorem mark_eq_one (allow : Bool) : (mark allow == "1") = allow := by
  cases allow <;> rfl

theorem insertRule_eq_orderedInsert (r : CountryRule) (rules : List CountryRule) :
    insertRule r rules = rules.orderedInsert (fun a b => a.code ≤ b.code) r := by
  induction rules with
  | nil => rfl
  | cons s rest ih => rw [insertRule, List.orderedInsert_cons, ih]

theorem rulesOf_eq_insertionSort (rows : List (String × String)) :
    rulesOf rows = (rows.map fun r => CountryRule.mk r.1 (r.2 == "1")).insertionSort
      fun a b => a.code ≤ b.code := by
  unfold rulesOf List.insertionSort
  congr 1
  funext r rules
  exact insertRule_eq_orderedInsert r rules

/-- **Reading back a hash of rules condenses them.** -/
theorem rulesOf_countries (rules : List CountryRule) :
    rulesOf ((Geo.CountryTable.ofRules rules).countries.map mark).rows =
      CountryRule.condensed rules := by
  have hrows : ((Geo.CountryTable.ofRules rules).countries.map mark).rows.map
      (fun r => CountryRule.mk r.1 (r.2 == "1")) =
        (Geo.CountryTable.ofRules rules).countries.rows.map fun r => CountryRule.mk r.1 r.2 := by
    unfold Dict.map
    rw [List.map_map]
    congr 1
    funext r
    simp [mark_eq_one]
  rw [rulesOf_eq_insertionSort, hrows]
  apply CountryRule.condensed_unique
  · rw [((List.perm_insertionSort _ _).map CountryRule.code).nodup_iff, List.map_map]
    exact (Geo.CountryTable.ofRules rules).countries.distinct
  · exact List.pairwise_insertionSort _ _
  · intro r
    rw [List.mem_insertionSort, ← Geo.CountryTable.get?_ofRules_iff, Dict.get?_eq_some_iff,
      List.mem_map]
    constructor
    · rintro ⟨row, hrow, rfl⟩
      exact hrow
    · intro hrow
      exact ⟨_, hrow, rfl⟩

end Shared

end Firewall
