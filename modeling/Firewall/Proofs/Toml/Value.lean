import Firewall.Proofs.Text.Numeral
import Firewall.Proofs.Toml.Text
import Firewall.Toml.Reader

/-!
Values in TOML that stand at the end of a line are read back from the way in which they are
written: whole numbers in decimal digits, switches, and texts between quotes.

Proved here:

* `integer?_toString`: a whole number is read back from its digits;
* `isMoment_of_digits`: which are no date and no time;
* `readItem_natural`, `readItem_switch`, `readItem_quote`: every value is read back, and nothing of
  what follows it is taken.
-/

namespace Firewall.Toml

open Text

/-! ## Numbers -/

theorem isAsciiDigit_of_isDigit {c : Char} (h : c.isDigit = true) : isAsciiDigit c = true := by
  simpa [isAsciiDigit, Char.isDigit, Char.le_def] using h

theorem isAsciiDigit_toString {n : Nat} {c : Char} (h : c ∈ (toString n).toList) :
    isAsciiDigit c = true := isAsciiDigit_of_isDigit (isDigit_toString h)

theorem toString_ne_nil (n : Nat) : (toString n).toList ≠ [] := by
  rw [Nat.toString_eq_repr, Nat.toList_repr]
  exact Nat.toDigits_ne_nil

/-- Only zero is written with a zero in front. -/
theorem eq_zero_of_head {n : Nat} (h : (Nat.toDigits 10 n).head? = some '0') : n = 0 := by
  induction n using Nat.strongRecOn with
  | ind n ih =>
    by_cases hn : n < 10
    · rw [Nat.toDigits_of_lt_base hn, List.head?_cons, Option.some.injEq] at h
      exact Nat.digitChar_eq_zero.mp h
    · rw [Nat.toDigits_of_base_le (by omega) (by omega), List.head?_append] at h
      have hhead : (Nat.toDigits 10 (n / 10)).head? = some '0' := by
        cases hd : Nat.toDigits 10 (n / 10) with
        | nil => exact absurd hd Nat.toDigits_ne_nil
        | cons c cs => simpa [hd] using h
      have := ih (n / 10) (by omega) hhead
      omega

theorem pieces_of_not_mem {sep : Char} {s : List Char} (h : sep ∉ s) : pieces sep s = [s] := by
  induction s with
  | nil => rfl
  | cons c s ih =>
    have hc : c ≠ sep := fun he => h (he ▸ List.mem_cons_self)
    rw [pieces, if_neg hc, ih fun hm => h (List.mem_cons_of_mem c hm)]

theorem not_mem_of_digits {s : List Char} (hs : ∀ c ∈ s, isAsciiDigit c = true) {c : Char}
    (hc : isAsciiDigit c = false) : c ∉ s := fun hm => by
  rw [hs c hm] at hc
  cases hc

theorem digits?_toString (n : Nat) :
    digits? isAsciiDigit (toString n).toList = some (toString n).toList := by
  have hs : ∀ c ∈ (toString n).toList, isAsciiDigit c = true := fun c => isAsciiDigit_toString
  have hall : ([(toString n).toList].all fun g => !g.isEmpty && g.all isAsciiDigit) = true := by
    rw [List.all_cons, List.all_nil, List.isEmpty_eq_false_iff.mpr (toString_ne_nil n),
      List.all_eq_true.mpr hs]
    rfl
  unfold digits?
  rw [pieces_of_not_mem (not_mem_of_digits hs (by decide))]
  simp only
  rw [if_pos hall]
  simp

theorem decimalDigits?_toString (n : Nat) :
    decimalDigits? (toString n).toList = some (toString n).toList := by
  unfold decimalDigits?
  rw [if_neg, digits?_toString]
  rintro ⟨hhead, hne⟩
  rw [Nat.toString_eq_repr, Nat.toList_repr] at hhead
  rw [eq_zero_of_head hhead] at hne
  exact hne (by decide)

/-- **A whole number is read back**, if it has 64 bits with its sign. -/
theorem integer?_toString {n : Nat} (h : n < halfRange) :
    integer? (toString n).toList = some (.ofNat n) := by
  have hs : ∀ c ∈ (toString n).toList, isAsciiDigit c = true := fun c => isAsciiDigit_toString
  have hsign : unsigned (toString n).toList = (false, (toString n).toList) := by
    unfold unsigned
    split
    · next r hr => exact absurd hr (toString_unsigned n r).2
    · next r hr => exact absurd hr (toString_unsigned n r).1
    · rfl
  unfold integer?
  split
  · next r hr => exact absurd (hs 'x' (by rw [hr]; simp)) (by decide)
  · next r hr => exact absurd (hs 'o' (by rw [hr]; simp)) (by decide)
  · next r hr => exact absurd (hs 'b' (by rw [hr]; simp)) (by decide)
  · simp only [hsign, decimalDigits?_toString, Option.bind_some, decimal?_toString]
    simp [h]

/-- Digits alone are no date and no time. -/
theorem isMoment_of_digits {s : List Char} (hs : ∀ c ∈ s, isAsciiDigit c = true) :
    isMoment s = false := by
  have hstop : ∀ (width : Nat) {n : Nat} {r : List Char} {c : Char}, field? width s = some (n, r) →
      isAsciiDigit c = false → after? [c] r = none := by
    intro width n r c h hc
    unfold field? at h
    split at h
    · cases h
    · simp only [Option.map_eq_some_iff, Prod.mk.injEq] at h
      obtain ⟨_, _, _, rfl⟩ := h
      refine after?_of_head (fun hhead => ?_) []
      exact not_mem_of_digits hs hc (List.mem_of_mem_drop (List.mem_of_head? hhead))
  have htime : afterTime? s = none := by
    unfold afterTime?
    cases hf : field? 2 s with
    | none => rfl
    | some r =>
      obtain ⟨n, r⟩ := r
      simp only [Option.bind_eq_bind, Option.bind_some, hstop 2 hf (c := ':') (by decide),
        Option.bind_none]
  have hdate : afterDate? s = none := by
    unfold afterDate?
    cases hf : field? 4 s with
    | none => rfl
    | some r =>
      obtain ⟨n, r⟩ := r
      simp only [Option.bind_eq_bind, Option.bind_some, hstop 4 hf (c := '-') (by decide),
        Option.bind_none]
  unfold isMoment
  rw [htime, hdate]
  rfl

/-! ## Values -/

/-- What may follow a value on its line. -/
def LineRest (rest : List Char) : Prop := ∃ r, rest = '\n' :: r

theorem takeWhile_append {p : Char → Bool} {s : List Char} (hs : ∀ c ∈ s, p c = true)
    {rest : List Char} (hrest : ∀ c, rest.head? = some c → p c = false) :
    (s ++ rest).takeWhile p = s := by
  rw [List.takeWhile_append_of_pos hs]
  cases rest with
  | nil => simp
  | cons c rest => rw [List.takeWhile_cons_of_neg (by simp [hrest c rfl]), List.append_nil]

theorem isBare_of_isAsciiDigit {c : Char} (h : isAsciiDigit c = true) : isBare c = true := by
  simp [isBare, h]

theorem readBare_word {word rest : List Char} (hword : ∀ c ∈ word, isBare c = true)
    (hrest : LineRest rest) : (word ++ rest).takeWhile isBare = word ∧
      (word ++ rest).drop word.length = rest := by
  obtain ⟨r, rfl⟩ := hrest
  refine ⟨takeWhile_append hword ?_, List.drop_left⟩
  intro c hc
  cases hc
  decide

theorem readBare_natural {n : Nat} (h : n < halfRange) {rest : List Char} (hrest : LineRest rest) :
    readBare ((toString n).toList ++ rest) = some (.integer (.ofNat n), rest) := by
  have hs : ∀ c ∈ (toString n).toList, isAsciiDigit c = true := fun c => isAsciiDigit_toString
  obtain ⟨hword, hdrop⟩ := readBare_word (fun c hc => isBare_of_isAsciiDigit (hs c hc)) hrest
  have htrue : (toString n).toList ≠ "true".toList := fun he =>
    absurd (hs 't' (by rw [he]; decide)) (by decide)
  have hfalse : (toString n).toList ≠ "false".toList := fun he =>
    absurd (hs 'f' (by rw [he]; decide)) (by decide)
  unfold readBare
  simp only [hword, hdrop]
  rw [if_neg htrue, if_neg hfalse, if_neg (by rw [isMoment_of_digits hs]; decide),
    integer?_toString h]

theorem isBare_switch (b : Bool) : ∀ c ∈ (toString b).toList, isBare c = true := by
  rw [← List.all_eq_true]
  cases b <;> decide

theorem readBare_switch (b : Bool) {rest : List Char} (hrest : LineRest rest) :
    readBare ((toString b).toList ++ rest) = some (.boolean b, rest) := by
  obtain ⟨hword, hdrop⟩ := readBare_word (isBare_switch b) hrest
  unfold readBare
  simp only [hword, hdrop]
  cases b with
  | true => rfl
  | false => rfl

theorem readItem_bare (depth : Nat) {c : Char} (hc : isBare c = true) (r : List Char) :
    readItem depth (c :: r) = readBare (c :: r) := by
  have hquote : ¬ (c = mark ∨ c = tick) := by
    rintro (rfl | rfl)
    · exact absurd hc (by decide)
    · exact absurd hc (by decide)
  have hlist : c ≠ '[' := by
    rintro rfl
    exact absurd hc (by decide)
  have htable : c ≠ '\x7b' := by
    rintro rfl
    exact absurd hc (by decide)
  unfold readItem
  simp only
  rw [if_neg hquote, if_neg hlist, if_neg htable]

/-- A word without quotes is not taken for anything else. -/
theorem readItem_word (depth : Nat) {word : List Char} (hne : word ≠ [])
    (hword : ∀ c ∈ word, isBare c = true) (rest : List Char) :
    readItem depth (word ++ rest) = readBare (word ++ rest) := by
  cases word with
  | nil => exact absurd rfl hne
  | cons c word => exact readItem_bare depth (hword c List.mem_cons_self) (word ++ rest)

theorem readItem_natural (depth : Nat) {n : Nat} (h : n < halfRange) {rest : List Char}
    (hrest : LineRest rest) :
    readItem depth ((toString n).toList ++ rest) = some (.integer (.ofNat n), rest) := by
  rw [readItem_word depth (toString_ne_nil n)
    fun c hc => isBare_of_isAsciiDigit (isAsciiDigit_toString hc)]
  exact readBare_natural h hrest

theorem readItem_switch (depth : Nat) (b : Bool) {rest : List Char} (hrest : LineRest rest) :
    readItem depth ((toString b).toList ++ rest) = some (.boolean b, rest) := by
  rw [readItem_word depth (by cases b <;> decide) (isBare_switch b)]
  exact readBare_switch b hrest

theorem head_quote (s : List Char) : ∃ c r, quote s = c :: r ∧ (c = mark ∨ c = tick) := by
  unfold quote
  cases styleOf s with
  | basic => exact ⟨_, _, rfl, Or.inl rfl⟩
  | literal => exact ⟨_, _, rfl, Or.inr rfl⟩
  | longBasic => exact ⟨mark, _, rfl, Or.inl rfl⟩
  | longLiteral => exact ⟨tick, _, rfl, Or.inr rfl⟩

theorem readItem_quote (depth : Nat) (s : List Char) {rest : List Char} (hrest : LineRest rest) :
    readItem depth (quote s ++ rest) = some (.text (String.ofList s), rest) := by
  have hread : readText (quote s ++ rest) = some (s, rest) := by
    obtain ⟨r, rfl⟩ := hrest
    exact readText_quote s (by simp [mark]) (by simp [tick])
  obtain ⟨c, r, hs, hc⟩ := head_quote s
  rw [hs, List.cons_append] at hread ⊢
  unfold readItem
  simp only
  rw [if_pos hc, hread]
  rfl

end Firewall.Toml
