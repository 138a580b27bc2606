import Firewall.Proofs.Store.Layout

/-!
The keys of stores with different roots. A key is a root with a name behind it, and nothing stands
between the two. So a root may begin with another root, or be empty, and the keys are apart only
because no name ends in another name.

Proved here:

* `KeyName.parted`: what the names look like;
* `KeyName.eq_nil_of_append`: no name ends in another one;
* `Shared.Owns.root_eq`: no key belongs to two roots.
-/

namespace Firewall

/-- What a key has behind its root. An entry that is written may have any number, for anybody may
have put a number into the counter. -/
inductive KeyName : String → Prop
  | slot (p : Slot) : KeyName p.name
  | entry (n : Int) : KeyName ("changelog:" ++ toString n)

/-- What stands in front of the colon of a name. -/
def families : List (List Char) := ["changelog".toList, "geoip".toList]

/-- A name in two parts, of which the second has no second colon and does not end like the name
that stands alone. -/
def Parted (name : List Char) : Prop :=
  ∃ family ∈ families, ∃ rest, ':' ∉ rest ∧ 'g' ∉ rest ∧ name = family ++ ':' :: rest

theorem not_mem_toString {c : Char} (hdigit : c.isDigit = false) (hsign : c ≠ '-') (n : Int) :
    c ∉ (toString n).toList := by
  have hnat : ∀ a : Nat, c ∉ (toString a).toList := by
    intro a hc
    rw [Text.isDigit_toString hc] at hdigit
    cases hdigit
  rw [Text.toString_int]
  split
  · exact hnat _
  · rw [List.mem_cons, not_or]
    exact ⟨hsign, hnat _⟩

theorem parted_entry (n : Int) : Parted ("changelog:" ++ toString n).toList := by
  refine ⟨"changelog".toList, by decide, (toString n).toList, ?_, ?_, String.toList_append⟩
  · exact not_mem_toString (by decide) (by decide) n
  · exact not_mem_toString (by decide) (by decide) n

/-- **What the names look like**: one stands alone, the others are in two parts. -/
theorem KeyName.parted {name : String} (h : KeyName name) :
    name = "config" ∨ Parted name.toList := by
  cases h with
  | entry n => exact .inr (parted_entry n)
  | slot p =>
    cases p with
    | counter => exact .inr ⟨"changelog".toList, by decide, "seq".toList, by decide⟩
    | entry id => exact .inr (parted_entry id)
    | settings => exact .inl rfl
    | rules => exact .inr ⟨"geoip".toList, by decide, "countries".toList, by decide⟩
    | dataset => exact .inr ⟨"geoip".toList, by decide, "source".toList, by decide⟩

/-- A name in two parts ends in no other such name: the first parts would have to end alike. -/
theorem Parted.eq_nil_of_append {a b t : List Char} (ha : Parted a) (hb : Parted b)
    (h : a = t ++ b) : t = [] := by
  obtain ⟨family, hfamily, rest, hcolon, -, rfl⟩ := ha
  obtain ⟨family', hfamily', rest', -, -, rfl⟩ := hb
  have hplain : ∀ f ∈ families, ':' ∉ f := by decide
  have hends : ∀ f ∈ families, ∀ g ∈ families, g <:+ f → g = f := by decide
  rw [← List.append_assoc] at h
  obtain ⟨hsame, -, -⟩ := (List.append_cons_inj_of_notMem (hplain family hfamily) hcolon).1 h
  rw [hends family hfamily family' hfamily' ⟨t, hsame.symm⟩] at hsame
  exact List.self_eq_append_left.1 hsame

/-- **No name ends in another one.** -/
theorem KeyName.eq_nil_of_append {a b : String} (ha : KeyName a) (hb : KeyName b) {t : List Char}
    (h : a.toList = t ++ b.toList) : t = [] := by
  rcases ha.parted with rfl | ha <;> rcases hb.parted with rfl | hb
  · exact List.self_eq_append_left.1 h
  · -- the name that stands alone has no colon
    obtain ⟨family, -, rest, -, -, hb⟩ := hb
    have hcolon : ':' ∈ "config".toList := by
      rw [h, hb]
      simp
    exact absurd hcolon (by decide)
  · -- it ends in a letter that no other name ends in
    obtain ⟨family, -, rest, -, hg, ha⟩ := ha
    have hlast : (family ++ ':' :: rest).getLast? = some 'g' := by
      rw [← ha, h, List.getLast?_append]
      rfl
    rw [List.getLast?_append_cons] at hlast
    rcases List.mem_cons.1 (List.mem_of_getLast? hlast) with hcolon | hrest
    · cases hcolon
    · exact absurd hrest hg
  · exact ha.eq_nil_of_append hb h

namespace Shared

/-- A key of the stores with a root. -/
def Owns (root key : String) : Prop := ∃ name, KeyName name ∧ key = root ++ name

/-- **No key belongs to two roots**, even if one of them begins with the other or is empty. -/
theorem Owns.root_eq {p q key : String} (hp : Owns p key) (hq : Owns q key) : p = q := by
  obtain ⟨a, ha, rfl⟩ := hp
  obtain ⟨b, hb, h⟩ := hq
  have hlist := congrArg String.toList h
  rw [String.toList_append, String.toList_append] at hlist
  rw [← String.toList_inj]
  rcases List.append_eq_append_iff.1 hlist with ⟨t, hroot, hname⟩ | ⟨t, hroot, hname⟩
  · rw [hroot, ha.eq_nil_of_append hb hname, List.append_nil]
  · rw [hroot, hb.eq_nil_of_append ha hname, List.append_nil]

end Shared

end Firewall
