import Firewall.Toml.Printer
import Mathlib.Tactic.SplitIfs

/-!
Texts in TOML are read back from the way in which they are written, whatever characters they
have. A text is written in one of four styles, and each has a reader of its own; the styles on
several lines end at three quotes in a row, of which up to two more may belong to the text.

Proved here:

* `spelled_escaped`: a character between quotation marks stands for itself or is an escape that
  stands for it;
* `readBasic_escapedFrom`, `readLiteral_plain`: the styles on one line;
* `readLong_escapedFrom`, `readLong_literal`: the styles on several lines;
* `readText_quote`: every text is read back.
-/

namespace Firewall.Toml

open Text

/-! ## Escapes -/

/-- The low characters are read back from their two hexadecimal digits. -/
theorem hexadecimal?_upperDigits : ∀ n, n < 128 →
    hexadecimal? ['0', '0', Hex.upperDigit (n / 16 % 16), Hex.upperDigit (n % 16)] = some n := by
  decide

theorem lt_of_not_isPlain {c : Char} (h : isPlain c = false) : c.toNat < 128 := by
  simp only [isPlain, Bool.or_eq_false_iff, Bool.and_eq_false_iff, decide_eq_false_iff_not] at h
  omega

theorem escape?_number {c : Char} (h : c.toNat < 128) (rest : List Char) :
    escape? ('u' :: '0' :: '0' :: Hex.upperDigit (c.toNat / 16 % 16) ::
      Hex.upperDigit (c.toNat % 16) :: rest) = some (c, rest) := by
  have hchar : character? c.toNat = some c := by
    unfold character?
    rw [if_pos (by omega), Char.ofNat_toNat]
  have hdigits : ¬ ('0' :: '0' :: Hex.upperDigit (c.toNat / 16 % 16) ::
      Hex.upperDigit (c.toNat % 16) :: rest).length < 4 := by
    simp only [List.length_cons]
    omega
  simp only [escape?, if_true, numberEscape?]
  rw [if_neg hdigits]
  simp only [List.take_succ_cons, List.take_zero, hexadecimal?_upperDigits _ h, Option.bind_some,
    hchar, List.drop_succ_cons, List.drop_zero]

/-- How a character is written between quotation marks, unless it is one that stands for itself. -/
inductive Spelled (long : Bool) (c : Char) : List Char → Prop
  /-- As an escape, which takes no line break away. -/
  | escape {e : List Char} (reads : ∀ rest, escape? (e ++ rest) = some (c, rest))
      (stays : ∀ rest, joinedLine? (e ++ rest) = none) : Spelled long c ('\\' :: e)
  /-- As itself. -/
  | plain (plain : isPlain c = true) (quote : c ≠ mark) (backslash : c ≠ '\\')
      (stays : ∀ rest, newline? (c :: rest) = none) : Spelled long c [c]
  /-- As a line break. -/
  | lineBreak (allowed : long = true) (is : c = '\n') : Spelled long c ['\n']

theorem newline?_of_ne {c : Char} (hn : c ≠ '\n') (hr : c ≠ '\r') (rest : List Char) :
    newline? (c :: rest) = none := by
  unfold newline?
  split <;> simp_all

theorem joinedLine?_of_ne {c : Char} (hs : isSpace c = false) (hn : c ≠ '\n') (hr : c ≠ '\r')
    (rest : List Char) : joinedLine? (c :: rest) = none := by
  unfold joinedLine? skipSpace
  rw [List.dropWhile_cons_of_neg (by simp [hs]), newline?_of_ne hn hr]
  rfl

theorem spelled_letter {long : Bool} {c l : Char} (hl : letterEscape? l = some c)
    (hu : l ≠ 'u' ∧ l ≠ 'U') (hs : isSpace l = false) (hb : l ≠ '\n' ∧ l ≠ '\r') :
    Spelled long c ['\\', l] := by
  refine .escape (e := [l]) (fun rest => ?_) fun rest => joinedLine?_of_ne hs hb.1 hb.2 rest
  show escape? (l :: rest) = _
  simp only [escape?, if_neg hu.1, if_neg hu.2, hl]
  rfl

theorem char_eq {c d : Char} (h : c.toNat = d.toNat) : c = d := Char.toNat_inj.mp h

/-- **Every character other than a quotation mark is spelled as itself or as an escape that
stands for it.** -/
theorem spelled_escaped (long : Bool) {c : Char} (hc : c ≠ mark) :
    Spelled long c (escaped long c) := by
  unfold escaped
  by_cases hback : c.toNat = 8
  · rw [if_pos hback, char_eq (d := Char.ofNat 8) hback]
    exact spelled_letter (by decide) (by decide) (by decide) (by decide)
  rw [if_neg hback]
  by_cases htab : c = '\t'
  · rw [if_pos htab, htab]
    exact spelled_letter (by decide) (by decide) (by decide) (by decide)
  rw [if_neg htab]
  by_cases hline : c = '\n'
  · rw [if_pos hline]
    cases long with
    | true => exact .lineBreak rfl hline
    | false =>
      rw [hline]
      exact spelled_letter (by decide) (by decide) (by decide) (by decide)
  rw [if_neg hline]
  by_cases hfeed : c.toNat = 12
  · rw [if_pos hfeed, char_eq (d := Char.ofNat 12) hfeed]
    exact spelled_letter (by decide) (by decide) (by decide) (by decide)
  rw [if_neg hfeed]
  by_cases hreturn : c = '\r'
  · rw [if_pos hreturn, hreturn]
    exact spelled_letter (by decide) (by decide) (by decide) (by decide)
  rw [if_neg hreturn]
  by_cases hslash : c = '\\'
  · rw [if_pos hslash, hslash]
    exact spelled_letter (by decide) (by decide) (by decide) (by decide)
  rw [if_neg hslash]
  by_cases hplain : isPlain c = true
  · rw [if_pos hplain]
    exact .plain hplain hc hslash (newline?_of_ne hline hreturn)
  · rw [if_neg hplain]
    have hlow := lt_of_not_isPlain (Bool.not_eq_true _ ▸ hplain)
    exact .escape (e := ['u', '0', '0', Hex.upperDigit (c.toNat / 16 % 16),
      Hex.upperDigit (c.toNat % 16)]) (escape?_number hlow)
      fun rest => joinedLine?_of_ne (by decide) (by decide) (by decide) _

/-! ## Between single quotes -/

theorem spelled_mark (long : Bool) : Spelled long mark ['\\', mark] :=
  spelled_letter (by decide) (by decide) (by decide) (by decide)

theorem readBasic_spelled {c : Char} {w : List Char} (hw : Spelled false c w)
    (rest : List Char) :
    readBasic (w ++ rest) = (readBasic rest).map fun (xs, r) => (c :: xs, r) := by
  cases hw with
  | escape reads stays =>
    rw [List.cons_append, readBasic, if_neg (by decide), if_pos rfl]
    split
    · next h => exact absurd ((reads rest).symm.trans h) (by simp)
    · next x r h =>
      cases (reads rest).symm.trans h
      rfl
  | plain plain quote backslash stays =>
    rw [List.cons_append, readBasic, if_neg quote, if_neg backslash, if_pos plain]
    rfl
  | lineBreak allowed is => cases allowed

theorem readBasic_escapedFrom (s rest : List Char) :
    readBasic (escapedFrom false 0 0 s ++ mark :: rest) = some (s, rest) := by
  induction s with
  | nil => rw [escapedFrom, List.nil_append, readBasic, if_pos rfl]
  | cons c s ih =>
    have hstep : ∃ w, Spelled false c w ∧
        escapedFrom false 0 0 (c :: s) = w ++ escapedFrom false 0 0 s := by
      rw [escapedFrom]
      by_cases hc : c = mark
      · rw [if_pos hc, if_neg (by omega), hc]
        exact ⟨_, spelled_mark false, rfl⟩
      · rw [if_neg hc]
        exact ⟨_, spelled_escaped false hc, rfl⟩
    obtain ⟨w, hw, he⟩ := hstep
    rw [he, List.append_assoc, readBasic_spelled hw, ih]
    rfl

theorem readLiteral_plain {s : List Char} (hs : ∀ c ∈ s, isPlain c = true ∧ c ≠ tick)
    (rest : List Char) : readLiteral (s ++ tick :: rest) = some (s, rest) := by
  induction s with
  | nil => rw [List.nil_append, readLiteral, if_pos rfl]
  | cons c s ih =>
    obtain ⟨hplain, htick⟩ := hs c List.mem_cons_self
    rw [List.cons_append, readLiteral, if_neg htick, if_pos hplain,
      ih fun d hd => hs d (List.mem_cons_of_mem c hd)]
    rfl

/-! ## Between three quotes each -/

theorem runLength_replicate (q : Char) (k : Nat) (s : List Char) :
    runLength q (List.replicate k q ++ s) = k + runLength q s := by
  induction k with
  | zero => rw [List.replicate_zero, List.nil_append, Nat.zero_add]
  | succ k ih =>
    rw [List.replicate_succ, List.cons_append, runLength, if_pos rfl, ih]
    omega

theorem runLength_of_head {q : Char} {s : List Char} (h : s.head? ≠ some q) :
    runLength q s = 0 := by
  cases s with
  | nil => rfl
  | cons c s =>
    have hc : c ≠ q := fun he => h (congrArg some he)
    rw [runLength, if_neg hc]

/-- Three quotes end a text, and up to two in front of them belong to it. -/
theorem readLong_end (q : Char) (escapes : Bool) {k : Nat} (hk : k ≤ 2) {rest : List Char}
    (hrest : rest.head? ≠ some q) :
    readLong q escapes (List.replicate k q ++ q :: q :: q :: rest) =
      some (List.replicate k q, rest) := by
  have hall : List.replicate k q ++ q :: q :: q :: rest =
      q :: (List.replicate (k + 2) q ++ rest) := by
    rw [show q :: q :: q :: rest = List.replicate 3 q ++ rest from rfl, ← List.append_assoc,
      List.replicate_append_replicate, List.replicate_succ, List.cons_append]
  have hrun : runLength q (q :: (List.replicate (k + 2) q ++ rest)) = k + 3 := by
    rw [runLength, if_pos rfl, runLength_replicate, runLength_of_head hrest]
  have hdrop : (q :: (List.replicate (k + 2) q ++ rest)).drop (k + 3) = rest := by
    rw [List.drop_succ_cons, List.drop_left' (by simp)]
  rw [hall, readLong, if_pos rfl]
  simp only [hrun]
  rw [if_neg (by omega), show k + 3 - 3 = k by omega, Nat.min_eq_left hk,
    Nat.min_eq_left (show k + 3 ≤ 5 by omega), hdrop]

/-- A quote in a shorter run belongs to the text. -/
theorem readLong_quote (q : Char) (escapes : Bool) {r : List Char}
    (h : runLength q (q :: r) < 3) :
    readLong q escapes (q :: r) = (readLong q escapes r).map fun (xs, rest) => (q :: xs, rest) := by
  rw [readLong, if_pos rfl]
  simp only
  rw [if_pos h]

theorem readLong_break (q : Char) (escapes : Bool) (hq : '\n' ≠ q) (r : List Char) :
    readLong q escapes ('\n' :: r) =
      (readLong q escapes r).map fun (xs, rest) => ('\n' :: xs, rest) := by
  rw [readLong, if_neg hq, if_neg (by simp)]
  split
  · next rest h =>
    cases h
    rfl
  · next h => exact absurd h (by simp [newline?])

theorem readLong_plain {q c : Char} {escapes : Bool} (hq : c ≠ q)
    (hback : ¬ (c = '\\' ∧ escapes = true)) (hplain : isPlain c = true)
    (hline : ∀ rest, newline? (c :: rest) = none) (r : List Char) :
    readLong q escapes (c :: r) =
      (readLong q escapes r).map fun (xs, rest) => (c :: xs, rest) := by
  rw [readLong, if_neg hq, if_neg hback]
  split
  · next rest h => exact absurd ((hline r).symm.trans h) (by simp)
  · rw [if_pos hplain]

theorem readLong_spelled {c : Char} {w : List Char} (hw : Spelled true c w)
    (rest : List Char) :
    readLong mark true (w ++ rest) =
      (readLong mark true rest).map fun (xs, r) => (c :: xs, r) := by
  cases hw with
  | escape reads stays =>
    rw [List.cons_append, readLong, if_neg (by decide), if_pos ⟨rfl, rfl⟩]
    split
    · next h => exact absurd ((stays rest).symm.trans h) (by simp)
    · split
      · next h => exact absurd ((reads rest).symm.trans h) (by simp)
      · next x r h =>
        cases (reads rest).symm.trans h
        rfl
  | plain plain quote backslash stays =>
    exact readLong_plain quote (fun h => backslash h.1) plain stays rest
  | lineBreak allowed is =>
    rw [is]
    exact readLong_break mark true (by decide) rest

theorem Spelled.head {long : Bool} {c : Char} {w : List Char} (hw : Spelled long c w) :
    ∃ x t, w = x :: t ∧ x ≠ mark := by
  cases hw with
  | escape reads stays => exact ⟨_, _, rfl, by decide⟩
  | plain plain quote backslash stays => exact ⟨_, _, rfl, quote⟩
  | lineBreak allowed is => exact ⟨_, _, rfl, by decide⟩

/-- Of the marks in a text at most two stand in a row; `run` of them stand in front. Either they
reach its end, or something else follows them. -/
theorem escapedFrom_front {run : Nat} (hrun : run ≤ 2) (s : List Char) :
    ∃ k, k + run ≤ 2 ∧
      ((s = List.replicate k mark ∧ escapedFrom true 2 run s = List.replicate k mark) ∨
        ∃ x t, x ≠ mark ∧ escapedFrom true 2 run s = List.replicate k mark ++ x :: t) := by
  induction s generalizing run with
  | nil => exact ⟨0, by omega, Or.inl ⟨rfl, rfl⟩⟩
  | cons c s ih =>
    rw [escapedFrom]
    by_cases hc : c = mark
    · rw [if_pos hc]
      by_cases hlt : run < 2
      · rw [if_pos hlt, hc]
        obtain ⟨k, hk, ⟨hs, he⟩ | ⟨x, t, hx, he⟩⟩ := ih (show run + 1 ≤ 2 by omega)
        · refine ⟨k + 1, by omega, Or.inl ⟨?_, ?_⟩⟩
          · rw [List.replicate_succ, ← hs]
          · rw [List.replicate_succ, ← he]
        · refine ⟨k + 1, by omega, Or.inr ⟨x, t, hx, ?_⟩⟩
          rw [List.replicate_succ, List.cons_append, ← he]
      · rw [if_neg hlt]
        exact ⟨0, by omega, Or.inr ⟨'\\', _, by decide, rfl⟩⟩
    · rw [if_neg hc]
      obtain ⟨x, t, hw, hx⟩ := (spelled_escaped true hc).head
      refine ⟨0, by omega, Or.inr ⟨x, t ++ escapedFrom true 2 0 s, hx, ?_⟩⟩
      rw [hw]
      rfl

theorem readLong_escapedFrom {run : Nat} (hrun : run ≤ 2) (s : List Char) {rest : List Char}
    (hrest : rest.head? ≠ some mark) :
    readLong mark true (escapedFrom true 2 run s ++ mark :: mark :: mark :: rest) =
      some (s, rest) := by
  induction s generalizing run with
  | nil => exact readLong_end mark true (k := 0) (by omega) hrest
  | cons c s ih =>
    rw [escapedFrom]
    by_cases hc : c = mark
    · rw [if_pos hc, hc]
      by_cases hlt : run < 2
      · rw [if_pos hlt]
        have hrun' : run + 1 ≤ 2 := by omega
        obtain ⟨k, hk, ⟨hs, he⟩ | ⟨x, t, hx, he⟩⟩ := escapedFrom_front hrun' s
        · -- the marks reach the end of the text
          have hend := readLong_end mark true (k := k + 1) (by omega) hrest
          rw [List.replicate_succ, List.cons_append] at hend
          rw [he, List.cons_append, hend, ← hs]
        · have hlength : runLength mark
              (mark :: (escapedFrom true 2 (run + 1) s ++ mark :: mark :: mark :: rest)) < 3 := by
            rw [he, List.append_assoc, runLength, if_pos rfl, runLength_replicate,
              runLength_of_head (by simpa using hx)]
            omega
          rw [List.cons_append, readLong_quote mark true hlength, ih (by omega)]
          rfl
      · rw [if_neg hlt]
        have hmark := readLong_spelled (spelled_mark true)
          (escapedFrom true 2 0 s ++ mark :: mark :: mark :: rest)
        rw [ih (by omega)] at hmark
        exact hmark
    · rw [if_neg hc, List.append_assoc, readLong_spelled (spelled_escaped true hc), ih (by omega)]
      rfl

theorem runLength_front (q : Char) (s : List Char) :
    ∃ k t, runLength q s = k ∧ s = List.replicate k q ++ t ∧ t.head? ≠ some q := by
  induction s with
  | nil => exact ⟨0, [], rfl, rfl, by simp⟩
  | cons c s ih =>
    rw [runLength]
    by_cases hc : c = q
    · obtain ⟨k, t, hk, hs, ht⟩ := ih
      refine ⟨k + 1, t, ?_, ?_, ht⟩
      · rw [if_pos hc, hk]
      · rw [List.replicate_succ, List.cons_append, ← hs, hc]
    · rw [if_neg hc]
      exact ⟨0, c :: s, rfl, rfl, by simpa using hc⟩

theorem runLength_le_longestRun (q : Char) (s : List Char) : runLength q s ≤ longestRun q s := by
  cases s with
  | nil => exact Nat.le_refl 0
  | cons c s => exact Nat.le_max_left _ _

theorem readLong_literal {s : List Char} (hs : ∀ c ∈ s, c = '\n' ∨ isPlain c = true)
    (hrun : longestRun tick s ≤ 2) {rest : List Char} (hrest : rest.head? ≠ some tick) :
    readLong tick false (s ++ tick :: tick :: tick :: rest) = some (s, rest) := by
  induction s with
  | nil => exact readLong_end tick false (k := 0) (by omega) hrest
  | cons c s ih =>
    have hshort := runLength_le_longestRun tick (c :: s)
    have hih := ih (fun d hd => hs d (List.mem_cons_of_mem c hd))
      (Nat.le_trans (Nat.le_max_right _ _) hrun)
    by_cases hc : c = tick
    · subst hc
      rw [runLength, if_pos rfl] at hshort
      obtain ⟨k, t, hk, ht, hhead⟩ := runLength_front tick s
      cases t with
      | nil =>
        -- the apostrophes reach the end of the text
        have hend := readLong_end tick false (k := k + 1) (by omega) hrest
        rw [List.append_nil] at ht
        rwa [List.replicate_succ, ← ht] at hend
      | cons x t =>
        have hlength : runLength tick (tick :: (s ++ tick :: tick :: tick :: rest)) < 3 := by
          rw [runLength, if_pos rfl, ht, List.append_assoc, runLength_replicate,
            runLength_of_head (by simpa using hhead)]
          omega
        rw [List.cons_append, readLong_quote tick false hlength, hih]
        rfl
    · rw [List.cons_append]
      by_cases hline : c = '\n'
      · rw [hline, readLong_break tick false (by decide), hih]
        rfl
      · have hplain := (hs c List.mem_cons_self).resolve_left hline
        have hreturn : c ≠ '\r' := by
          rintro rfl
          exact absurd hplain (by decide)
        rw [readLong_plain hc (by simp) hplain (newline?_of_ne hline hreturn), hih]
        rfl

/-! ## The four styles -/

theorem isPlain_of_no_escapes {s : List Char} (h : s.any needsEscape = false) :
    ∀ c ∈ s, c = '\n' ∨ isPlain c = true := by
  intro c hc
  have hn := List.any_eq_false.mp h c hc
  by_cases hline : c = '\n'
  · exact Or.inl hline
  · exact Or.inr (by simpa [needsEscape, hline] using hn)

theorem not_mem_of_longestRun {q : Char} {s : List Char} (h : longestRun q s = 0) : q ∉ s := by
  induction s with
  | nil => exact List.not_mem_nil
  | cons c s ih =>
    rw [longestRun, Nat.max_eq_zero_iff] at h
    intro hm
    rcases List.mem_cons.mp hm with rfl | hm
    · rw [runLength, if_pos rfl] at h
      omega
    · exact ih h.2 hm

theorem styleOf_literal {s : List Char} (h : styleOf s = .literal) :
    ∀ c ∈ s, isPlain c = true ∧ c ≠ tick := by
  simp only [styleOf] at h
  split_ifs at h with _ hl
  simp only [Bool.and_eq_true, Bool.not_eq_true', beq_iff_eq, List.contains_eq_mem,
    decide_eq_false_iff_not] at hl
  obtain ⟨⟨hescapes, hticks⟩, hline⟩ := hl
  intro c hc
  refine ⟨(isPlain_of_no_escapes hescapes c hc).resolve_left ?_, ?_⟩
  · rintro rfl
    exact hline hc
  · rintro rfl
    exact not_mem_of_longestRun hticks hc

theorem styleOf_longLiteral {s : List Char} (h : styleOf s = .longLiteral) :
    (∀ c ∈ s, c = '\n' ∨ isPlain c = true) ∧ longestRun tick s ≤ 2 := by
  simp only [styleOf] at h
  split_ifs at h with _ _ _ hl
  simp only [Bool.and_eq_true, Bool.not_eq_true', decide_eq_true_eq] at hl
  exact ⟨isPlain_of_no_escapes hl.1, hl.2⟩

theorem after?_of_head {q : Char} {s : List Char} (h : s.head? ≠ some q) (lead : List Char) :
    after? (q :: lead) s = none := by
  cases s with
  | nil => rfl
  | cons c s =>
    have hc : q ≠ c := fun he => h (congrArg some he.symm)
    rw [after?, if_neg hc]

/-- Behind its first quote, a text on one line does not go on with two more. -/
theorem after?_single {q : Char} {body rest : List Char} (hbody : body.head? ≠ some q)
    (hrest : rest.head? ≠ some q) : after? [q, q] (body ++ q :: rest) = none := by
  cases body with
  | nil =>
    rw [List.nil_append, after?, if_pos rfl]
    exact after?_of_head hrest []
  | cons c body =>
    exact after?_of_head (s := c :: (body ++ q :: rest)) (by simpa using hbody) [q]

/-- A line break that is written in front of a text that has some is dropped, and nothing else. -/
theorem skipFirstBreak_between {s body : List Char}
    (h : '\n' ∉ s → newline? body = none) :
    skipFirstBreak ((if s.contains '\n' then ['\n'] else []) ++ body) = body := by
  unfold skipFirstBreak
  by_cases hs : '\n' ∈ s
  · rw [if_pos (by simpa using hs)]
    rfl
  · rw [if_neg (by simpa using hs), List.nil_append, h hs]
    rfl

theorem newline?_spelled {c : Char} {w : List Char} (hw : Spelled true c w) (hc : c ≠ '\n')
    (rest : List Char) : newline? (w ++ rest) = none := by
  cases hw with
  | escape reads stays => exact newline?_of_ne (by decide) (by decide) _
  | plain plain quote backslash stays => exact stays rest
  | lineBreak allowed is => exact absurd is hc

theorem newline?_escapedFrom {s : List Char} (hs : '\n' ∉ s) (rest : List Char) :
    newline? (escapedFrom true 2 0 s ++ mark :: rest) = none := by
  cases s with
  | nil => exact newline?_of_ne (by decide) (by decide) rest
  | cons c s =>
    rw [escapedFrom]
    by_cases hc : c = mark
    · rw [if_pos hc, if_pos (by omega), hc]
      exact newline?_of_ne (by decide) (by decide) _
    · rw [if_neg hc, List.append_assoc]
      refine newline?_spelled (spelled_escaped true hc) ?_ _
      rintro rfl
      exact hs List.mem_cons_self

theorem newline?_literal {s : List Char} (hs : ∀ c ∈ s, c = '\n' ∨ isPlain c = true)
    (hline : '\n' ∉ s) (rest : List Char) : newline? (s ++ tick :: rest) = none := by
  cases s with
  | nil => exact newline?_of_ne (by decide) (by decide) rest
  | cons c s =>
    have hc : c ≠ '\n' := by
      rintro rfl
      exact hline List.mem_cons_self
    refine newline?_of_ne hc ?_ _
    rintro rfl
    exact absurd ((hs '\r' List.mem_cons_self).resolve_left hc) (by decide)

theorem head?_escapedFrom (s : List Char) : (escapedFrom false 0 0 s).head? ≠ some mark := by
  cases s with
  | nil => simp [escapedFrom]
  | cons c s =>
    rw [escapedFrom]
    by_cases hc : c = mark
    · rw [if_pos hc, if_neg (by omega)]
      simp [mark]
    · rw [if_neg hc]
      obtain ⟨x, t, hw, hx⟩ := (spelled_escaped false hc).head
      rw [hw]
      simpa using hx

/-- **Every text is read back**, whatever follows it, if that begins with no quote. -/
theorem readText_quote (s : List Char) {rest : List Char} (hmark : rest.head? ≠ some mark)
    (htick : rest.head? ≠ some tick) : readText (quote s ++ rest) = some (s, rest) := by
  unfold quote
  cases hstyle : styleOf s with
  | basic =>
    show readText (mark :: (escapedFrom false 0 0 s ++ [mark] ++ rest)) = _
    rw [List.append_assoc, List.singleton_append, readText, if_pos rfl,
      after?_single (head?_escapedFrom s) hmark]
    exact readBasic_escapedFrom s rest
  | literal =>
    have hs := styleOf_literal hstyle
    have hhead : s.head? ≠ some tick := fun h => (hs tick (List.mem_of_head? h)).2 rfl
    show readText (tick :: (s ++ [tick] ++ rest)) = _
    rw [List.append_assoc, List.singleton_append, readText, if_neg (by decide), if_pos rfl,
      after?_single hhead htick]
    exact readLiteral_plain hs rest
  | longBasic =>
    have hshape : between [mark, mark, mark] s (escapedFrom true 2 0 s) ++ rest =
        mark :: mark :: mark :: ((if s.contains '\n' then ['\n'] else []) ++
          (escapedFrom true 2 0 s ++ mark :: mark :: mark :: rest)) := by
      simp [between]
    show readText (between [mark, mark, mark] s (escapedFrom true 2 0 s) ++ rest) = _
    rw [hshape, readText, if_pos rfl]
    show readLong mark true (skipFirstBreak _) = _
    rw [skipFirstBreak_between fun hs => newline?_escapedFrom hs _]
    exact readLong_escapedFrom (by omega) s hmark
  | longLiteral =>
    obtain ⟨hs, hrun⟩ := styleOf_longLiteral hstyle
    have hshape : between [tick, tick, tick] s s ++ rest =
        tick :: tick :: tick :: ((if s.contains '\n' then ['\n'] else []) ++
          (s ++ tick :: tick :: tick :: rest)) := by
      simp [between]
    show readText (between [tick, tick, tick] s s ++ rest) = _
    rw [hshape, readText, if_neg (by decide), if_pos rfl]
    show readLong tick false (skipFirstBreak _) = _
    rw [skipFirstBreak_between fun hline => newline?_literal hs hline _]
    exact readLong_literal hs hrun htick

end Firewall.Toml
