import Firewall.Text

/-!
Whole numbers in their usual decimal form. What writes a number and what reads one agree.

Proved here:

* `decimal?_toString`: a natural number is read back from its text;
* `toString_unsigned`, `toString_int`: the text of a number has a sign only if the number
  is negative.
-/

namespace Firewall.Text

theorem digit?_of_isDigit {c : Char} (h : c.isDigit = true) :
    digit? c = some (c.toNat - '0'.toNat) := by
  simp only [Char.isDigit, Bool.and_eq_true, decide_eq_true_eq] at h
  unfold digit?
  rw [if_pos ⟨h.1, h.2⟩]

/-- Reading digits is summing up their values. -/
theorem numeralFrom_ofDigitChars (s : List Char) (acc : Nat) (h : ∀ c ∈ s, c.isDigit = true) :
    numeralFrom 10 digit? acc s = some (Nat.ofDigitChars 10 s acc) := by
  induction s generalizing acc with
  | nil =>
    rw [Nat.ofDigitChars_nil]
    rfl
  | cons c s ih =>
    rw [Nat.ofDigitChars_cons, numeralFrom, digit?_of_isDigit (h c List.mem_cons_self)]
    rw [Nat.mul_comm 10 acc]
    exact ih _ fun d hd => h d (List.mem_cons_of_mem c hd)

theorem isDigit_toString {n : Nat} {c : Char} (h : c ∈ (toString n).toList) :
    c.isDigit = true := by
  rw [Nat.toString_eq_repr, Nat.toList_repr] at h
  exact Nat.isDigit_of_mem_toDigits (by decide) (by decide) h

/-- **A number is read back from its text.** -/
theorem decimal?_toString (n : Nat) : decimal? (toString n).toList = some n := by
  have hd : ∀ c ∈ (toString n).toList, c.isDigit = true := fun c => isDigit_toString
  rw [Nat.toString_eq_repr, Nat.toList_repr] at hd ⊢
  unfold decimal?
  rw [if_neg]
  · rw [numeralFrom_ofDigitChars _ _ hd, Nat.ofDigitChars_ten_toDigits]
  · rw [List.isEmpty_iff]
    exact Nat.toDigits_ne_nil

/-- The text of a natural number begins with no sign. -/
theorem toString_unsigned (n : Nat) (r : List Char) :
    (toString n).toList ≠ '-' :: r ∧ (toString n).toList ≠ '+' :: r := by
  constructor <;> intro h
  · have hd := isDigit_toString (n := n) (c := '-') (by rw [h]; exact List.mem_cons_self)
    exact absurd hd (by decide)
  · have hd := isDigit_toString (n := n) (c := '+') (by rw [h]; exact List.mem_cons_self)
    exact absurd hd (by decide)

theorem toString_int (a : Int) :
    (toString a).toList = if 0 ≤ a then (toString a.toNat).toList
      else '-' :: (toString (-a).toNat).toList := by
  rw [Int.toString_eq_repr, Int.repr_eq_if]
  split
  · rw [Nat.toString_eq_repr]
  · rw [Nat.toString_eq_repr, String.toList_append]
    rfl

theorem toString_natCast (n : Nat) : toString (n : Int) = toString n := rfl

end Firewall.Text
