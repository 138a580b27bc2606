import Firewall.Proofs.Policy.Aspect

/-!
Lists of networks, read strictly when an operator gives them and leniently when they come from the
store. Both readings look at the same pieces, so that they agree on every list without a malformed
piece.

Proved here:

* `Text.map_trim_pieces`: trimming a list before it is split changes nothing that trimming its
  pieces does not change again;
* `Networks.parse_ok_iff`: which lists the strict reading takes;
* `Networks.parseLenient_comma`: the lenient reading of two lists with a comma between them is
  that of the one followed by that of the other.
-/

namespace Firewall

/-! ## Pieces of a trimmed text -/

namespace Text

theorem trimStart_cons (c : Char) (s : List Char) :
    trimStart (c :: s) = if isBlank c then trimStart s else c :: s := by
  cases h : isBlank c <;> simp [trimStart, h]

theorem trimEnd_cons (c : Char) (s : List Char) :
    trimEnd (c :: s) = if trimEnd s = [] ∧ isBlank c then [] else c :: trimEnd s := by
  simp only [trimEnd, List.reverse_cons, List.dropWhile_append, List.reverse_eq_nil_iff,
    List.isEmpty_iff]
  by_cases hs : s.reverse.dropWhile isBlank = []
  · cases hc : isBlank c <;> simp [hs, hc]
  · simp [hs]

/-- The two ends of a text can be trimmed in either order. -/
theorem trim_eq (s : List Char) : trim s = trimStart (trimEnd s) := by
  unfold trim
  induction s with
  | nil => rfl
  | cons c s ih =>
    rw [trimStart_cons, trimEnd_cons]
    cases hc : isBlank c with
    | true =>
      rw [if_pos rfl, ih]
      by_cases hs : trimEnd s = []
      · rw [if_pos ⟨hs, rfl⟩, hs]
      · rw [if_neg fun h => hs h.1, trimStart_cons, hc, if_pos rfl]
    | false =>
      rw [if_neg Bool.false_ne_true, if_neg fun h => Bool.false_ne_true h.2, trimEnd_cons, hc,
        if_neg fun h => Bool.false_ne_true h.2, trimStart_cons, hc, if_neg Bool.false_ne_true]

variable {sep : Char}

theorem pieces_cons_of_ne {c : Char} (hc : c ≠ sep) (s : List Char) :
    ∃ p ps, pieces sep s = p :: ps ∧ pieces sep (c :: s) = (c :: p) :: ps := by
  cases hs : pieces sep s with
  | nil => exact absurd hs (pieces_ne_nil sep s)
  | cons p ps => exact ⟨p, ps, rfl, by rw [pieces, if_neg hc, hs]⟩

theorem pieces_append_sep (a b : List Char) :
    pieces sep (a ++ sep :: b) = pieces sep a ++ pieces sep b := by
  induction a with
  | nil => simp [pieces]
  | cons c a ih =>
    rw [List.cons_append]
    by_cases hc : c = sep
    · rw [pieces, if_pos hc, ih, pieces, if_pos hc, List.cons_append]
    · obtain ⟨p, ps, ha, hca⟩ := pieces_cons_of_ne hc a
      obtain ⟨q, qs, hab, hcab⟩ := pieces_cons_of_ne hc (a ++ sep :: b)
      rw [ha, hab, List.cons_append, List.cons.injEq] at ih
      rw [hca, hcab, ih.1, ih.2, List.cons_append]

/-- What is trimmed off the front of a text is trimmed off the front of its first piece. -/
theorem map_trimStart_pieces (hsep : isBlank sep = false) (s : List Char) :
    (pieces sep (trimStart s)).map trimStart = (pieces sep s).map trimStart := by
  induction s with
  | nil => rfl
  | cons c s ih =>
    rw [trimStart_cons]
    split
    · next hc =>
      have hne : c ≠ sep := by
        rintro rfl
        rw [hsep] at hc
        cases hc
      obtain ⟨p, ps, hs, hcs⟩ := pieces_cons_of_ne hne s
      rw [ih, hs, hcs, List.map_cons, List.map_cons, trimStart_cons, if_pos hc]
    · rfl

/-- What is trimmed off the end of a text is trimmed off the end of its last piece. -/
theorem map_trimEnd_pieces (hsep : isBlank sep = false) (s : List Char) :
    (pieces sep (trimEnd s)).map trimEnd = (pieces sep s).map trimEnd := by
  induction s with
  | nil => rfl
  | cons c s ih =>
    rw [trimEnd_cons]
    by_cases hc : c = sep
    · have hends : ¬ (trimEnd s = [] ∧ isBlank c) := fun h => by
        rw [hc, hsep] at h
        exact Bool.false_ne_true h.2
      rw [if_neg hends, pieces, if_pos hc, pieces, if_pos hc, List.map_cons, ih, List.map_cons]
    · obtain ⟨p, ps, hs, hcs⟩ := pieces_cons_of_ne hc s
      rw [hs] at ih
      rw [hcs, List.map_cons, trimEnd_cons]
      split
      · next hends =>
        -- only white space is left, which is in one piece
        rw [hends.1] at ih
        obtain ⟨hp, hps⟩ := List.cons.inj ih
        rw [← hp, ← hps, if_pos ⟨rfl, hends.2⟩]
        rfl
      · obtain ⟨q, qs, ht, hct⟩ := pieces_cons_of_ne hc (trimEnd s)
        rw [ht] at ih
        obtain ⟨hp, hps⟩ := List.cons.inj ih
        rw [hct, List.map_cons, trimEnd_cons, hp, hps]

/-- **Trimming a text before it is split** changes none of the trimmed pieces. -/
theorem map_trim_pieces (hsep : isBlank sep = false) (s : List Char) :
    (pieces sep (trim s)).map trim = (pieces sep s).map trim := by
  have hstart (t : List Char) : (pieces sep (trimStart t)).map trim = (pieces sep t).map trim := by
    have h := congrArg (List.map trimEnd) (map_trimStart_pieces hsep t)
    rwa [List.map_map, List.map_map] at h
  have hend (t : List Char) : (pieces sep (trimEnd t)).map trim = (pieces sep t).map trim := by
    have h := congrArg (List.map trimStart) (map_trimEnd_pieces hsep t)
    have htrim : trimStart ∘ trimEnd = trim := funext fun p => (trim_eq p).symm
    rwa [List.map_map, List.map_map, htrim] at h
  rw [trim, hend, hstart]

end Text

/-! ## The two readings -/

namespace Networks

open Text

/-- A piece of a list that is a network as the lists want it: with the number of leading bits. -/
def IsNetwork (piece : List Char) : Prop := '/' ∈ piece ∧ ∃ n, Network.parse? piece = some n

theorem parseOne_ok_iff (piece : List Char) :
    (∃ n, parseOne piece = .ok n) ↔ IsNetwork piece := by
  unfold parseOne IsNetwork
  by_cases hslash : '/' ∈ piece
  · rw [if_pos (List.contains_iff_mem.mpr hslash)]
    cases Network.parse? piece <;> simp [hslash]
  · rw [if_neg (mt List.contains_iff_mem.mp hslash)]
    simp [hslash]

theorem mapM_ok_iff {α β ε : Type} (f : α → Except ε β) (xs : List α) :
    (∃ ys, xs.mapM f = .ok ys) ↔ ∀ x ∈ xs, ∃ y, f x = .ok y := by
  induction xs with
  | nil => simp [pure, Except.pure]
  | cons x xs ih =>
    rw [List.mapM_cons, List.forall_mem_cons, ← ih]
    cases f x with
    | error e => simp [bind, Except.bind]
    | ok y => cases xs.mapM f <;> simp [bind, Except.bind, pure, Except.pure]

/-- The entries of a list that is not blank are its trimmed pieces. -/
theorem entries_of_ne_nil {list : List Char} (h : trim list ≠ []) :
    entries list = (pieces ',' list).map trim := by
  rw [entries, if_neg (mt List.isEmpty_iff.mp h), map_trim_pieces rfl]

theorem entries_of_eq_nil {list : List Char} (h : trim list = []) : entries list = [] := by
  rw [entries, h]
  rfl

/-- The single piece of a blank list is no network. -/
theorem pieces_of_eq_nil {list : List Char} (h : trim list = []) :
    (pieces ',' list).map trim = [[]] := by
  rw [← map_trim_pieces rfl, h]
  rfl

/-- **Which lists the strict reading takes**: blank ones, and those all of whose pieces are
networks. -/
theorem parse_ok_iff (list : String) :
    (∃ networks, parse list = .ok networks) ↔
      trim list.toList = [] ∨ ∀ piece ∈ pieces ',' list.toList, IsNetwork (trim piece) := by
  rw [parse, mapM_ok_iff]
  simp only [parseOne_ok_iff]
  by_cases h : trim list.toList = []
  · simp [h, entries_of_eq_nil h]
  · rw [entries_of_ne_nil h, List.forall_mem_map]
    simp [h]

/-- The lenient reading goes piece by piece, also on a blank list. -/
theorem parseLenient_eq (list : String) : parseLenient list =
    ((pieces ',' list.toList).map trim).filterMap fun e => (parseOne e).toOption := by
  by_cases h : trim list.toList = []
  · rw [parseLenient, entries_of_eq_nil h, pieces_of_eq_nil h]
    rfl
  · rw [parseLenient, entries_of_ne_nil h]

/-- **No piece affects its neighbours.** -/
theorem parseLenient_comma (a b : String) :
    parseLenient (a ++ "," ++ b) = parseLenient a ++ parseLenient b := by
  have hpieces : pieces ',' (a ++ "," ++ b).toList = pieces ',' a.toList ++ pieces ',' b.toList := by
    rw [← pieces_append_sep, String.toList_append, String.toList_append, List.append_assoc]
    rfl
  rw [parseLenient_eq, parseLenient_eq, parseLenient_eq, hpieces, List.map_append,
    List.filterMap_append]

end Networks

end Firewall
