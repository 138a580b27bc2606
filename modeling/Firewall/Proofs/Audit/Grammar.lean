import Firewall.Audit.Template
import Firewall.Error
import Mathlib.Data.List.Chain
import Mathlib.Data.List.Infix

/-!
The grammar of audit formats. A format is cut into stretches: placeholders, which are written
with two braces on either side, and literals between them, in which no two braces of a kind stand
next to each other. Two literals never touch, so that there is only one way to cut.

Reading goes from left to right and takes the first place where a placeholder fits. It finds the
same cuts: of three braces in a row the first one is the end of a literal, because the two braces
of a placeholder are followed by white space or by a dot.

Proved here:

* `placeholder?_written`, `written_of_placeholder?`: what is read as a placeholder;
* `parseFrom_reading`, `reading_of_parseFrom`: a format is read exactly if it can be cut, and into
  the parts that it is cut into;
* `IsReading.unique`: there is only one way to cut;
* `render_reading`: a line is the format with another text in the place of each placeholder;
* `parse_grammar`: all of it for whole formats.
-/

namespace Firewall.Template

open Text

/-! ## Stretches -/

/-- A stretch of a format: the part that it stands for and what it is written as. -/
structure Stretch where
  part : Segment
  text : List Char

/-- Text without doubled braces. -/
def Single (text : List Char) : Prop := ¬ opening <:+: text ∧ ¬ closing <:+: text

/-- How a part is written: a literal as it is, a field by its name in a placeholder. -/
inductive Written : Segment → List Char → Prop
  | literal {text : List Char} (nonempty : text ≠ []) (single : Single text) :
      Written (.literal text) text
  | field (f : AuditField) {before after : List Char} (hbefore : ∀ c ∈ before, isBlank c = true)
      (hafter : ∀ c ∈ after, isBlank c = true) :
      Written (.field f) (opening ++ (before ++ '.' :: (f.name.toList ++ (after ++ closing))))

theorem Written.ne_nil {part : Segment} {text : List Char} (h : Written part text) :
    text ≠ [] := by
  cases h with
  | literal nonempty => exact nonempty
  | field f => simp [opening]

namespace Stretch

def IsLiteral (x : Stretch) : Prop := ∃ text, x.part = .literal text

/-- What stands in a line in the place of a stretch. -/
def filled (r : AuditRecord) (x : Stretch) : List Char :=
  match x.part with
  | .literal _ => x.text
  | .field f => (f.value r).toList

end Stretch

/-- A format cut into stretches. -/
structure IsReading (xs : List Stretch) (format : List Char) : Prop where
  written : ∀ x ∈ xs, Written x.part x.text
  apart : xs.IsChain fun x y => ¬ (x.IsLiteral ∧ y.IsLiteral)
  whole : xs.flatMap (·.text) = format

theorem isReading_nil : IsReading [] [] := ⟨by simp, .nil, rfl⟩

theorem isReading_cons {x : Stretch} {xs : List Stretch} {s : List Char} :
    IsReading (x :: xs) s ↔
      Written x.part x.text ∧ (∀ y ∈ xs.head?, ¬ (x.IsLiteral ∧ y.IsLiteral)) ∧
        ∃ rest, s = x.text ++ rest ∧ IsReading xs rest := by
  constructor
  · rintro ⟨hw, ha, rfl⟩
    obtain ⟨hx, hxs⟩ := List.forall_mem_cons.mp hw
    obtain ⟨hhead, htail⟩ := List.isChain_cons.mp ha
    exact ⟨hx, hhead, _, rfl, hxs, htail, rfl⟩
  · rintro ⟨hx, hhead, rest, rfl, hw, ha, rfl⟩
    exact ⟨List.forall_mem_cons.mpr ⟨hx, hw⟩, List.isChain_cons.mpr ⟨hhead, ha⟩, rfl⟩

/-! ## Placeholders -/

/-- Where a run of characters of a class ends. -/
theorem span_append {p : Char → Bool} {run : List Char} (hrun : ∀ c ∈ run, p c = true)
    (rest : List Char) (hrest : ∀ c ∈ rest.head?, p c = false) :
    (run ++ rest).takeWhile p = run ∧ (run ++ rest).dropWhile p = rest := by
  rw [List.takeWhile_append_of_pos hrun, List.dropWhile_append_of_pos hrun]
  cases rest with
  | nil => exact ⟨List.append_nil run, rfl⟩
  | cons c rest =>
    have hc : ¬ p c = true := by simp [hrest c rfl]
    rw [List.takeWhile_cons_of_neg hc, List.dropWhile_cons_of_neg hc]
    exact ⟨List.append_nil run, rfl⟩

theorem ofName?_fieldName (f : AuditField) :
    AuditField.ofName? (String.ofList f.name.toList) = some f := by
  cases f <;> decide

/-- The names of fields consist of letters. -/
theorem fieldName_letters (f : AuditField) :
    f.name.toList ≠ [] ∧ ∀ c ∈ f.name.toList, isAsciiLetter c = true := by
  have hall : f.name.toList.all isAsciiLetter = true := by cases f <;> decide
  exact ⟨by cases f <;> decide, List.all_eq_true.mp hall⟩

theorem name_of_ofName? {name : List Char} {f : AuditField}
    (h : AuditField.ofName? (String.ofList name) = some f) : f.name.toList = name := by
  unfold AuditField.ofName? at h
  have hf := List.find?_some h
  rw [eq_of_beq hf, String.toList_ofList]

/-- No letter is white space. -/
theorem not_isAsciiLetter_of_isBlank {c : Char} (h : isBlank c = true) :
    isAsciiLetter c = false := by
  have hz : c.val.toNat = c.toNat := rfl
  have hbounds : 'a'.val.toNat = 97 ∧ 'z'.val.toNat = 122 ∧ 'A'.val.toNat = 65 ∧
      'Z'.val.toNat = 90 := by decide
  simp only [isBlank, Bool.or_eq_true, Bool.and_eq_true, decide_eq_true_eq, beq_iff_eq] at h
  simp only [isAsciiLetter, Bool.or_eq_false_iff, Bool.and_eq_false_iff, decide_eq_false_iff_not,
    Char.le_def, UInt32.le_iff_toNat_le]
  omega

/-- **A written placeholder is read**, whatever follows it. -/
theorem placeholder?_written {f : AuditField} {text : List Char} (h : Written (.field f) text)
    (rest : List Char) : placeholder? (text ++ rest) = some (f.name.toList, rest) := by
  cases h with
  | @field _ before after hbefore hafter =>
    obtain ⟨hname, hletters⟩ := fieldName_letters f
    have hblank := (span_append hbefore ('.' :: (f.name.toList ++ (after ++ (closing ++ rest))))
      (by simp; decide)).2
    have hword := span_append hletters (after ++ (closing ++ rest)) (by
      cases after with
      | nil => simp [closing]; decide
      | cons c after =>
        intro d hd
        cases hd
        exact not_isAsciiLetter_of_isBlank (hafter c List.mem_cons_self))
    have hclose := (span_append hafter (closing ++ rest) (by simp [closing]; decide)).2
    unfold placeholder?
    simp only [List.append_assoc, List.cons_append] at *
    rw [after?_eq_some_iff.mpr rfl]
    simp only
    rw [hblank]
    simp only
    rw [hword.1, hword.2, hclose, after?_eq_some_iff.mpr rfl]
    simp [hname]

/-- **What is read as a placeholder of a field** is written as one. -/
theorem written_of_placeholder? {s name rest : List Char} {f : AuditField}
    (h : placeholder? s = some (name, rest))
    (hname : AuditField.ofName? (String.ofList name) = some f) :
    ∃ text, Written (.field f) text ∧ s = text ++ rest := by
  unfold placeholder? at h
  split at h
  · cases h
  · next inner hinner =>
    split at h
    · next r hr =>
      simp only at h
      split at h
      · cases h
      · obtain ⟨behind, hbehind, he⟩ := Option.map_eq_some_iff.mp h
        cases he
        have hs : s = opening ++ (inner.takeWhile isBlank ++ '.' :: (f.name.toList ++
            ((r.dropWhile isAsciiLetter).takeWhile isBlank ++ (closing ++ rest)))) := by
          rw [name_of_ofName? hname, ← after?_eq_some_iff.mp hbehind,
            List.takeWhile_append_dropWhile, List.takeWhile_append_dropWhile, ← hr,
            List.takeWhile_append_dropWhile]
          exact after?_eq_some_iff.mp hinner
        refine ⟨_, .field f (List.all_eq_true.mp (List.all_takeWhile (l := inner)))
          (List.all_eq_true.mp (List.all_takeWhile (l := r.dropWhile isAsciiLetter))), ?_⟩
        rw [hs]
        simp only [List.append_assoc, List.cons_append]
    · cases h

/-- The two braces of a placeholder are not followed by a third. -/
theorem placeholder?_front {s : List Char} {found : List Char × List Char}
    (h : placeholder? s = some found) :
    ∃ c r, s = opening ++ c :: r ∧ c ≠ '\x7b' := by
  unfold placeholder? at h
  split at h
  · cases h
  · next inner hinner =>
    rw [after?_eq_some_iff] at hinner
    cases inner with
    | nil => simp at h
    | cons c r =>
      refine ⟨c, r, hinner, ?_⟩
      rintro rfl
      rw [List.dropWhile_cons_of_neg (by decide)] at h
      simp at h

/-! ## Literals -/

theorem occurs_iff (part s : List Char) : occurs part s = true ↔ part <:+: s := by
  induction s with
  | nil => simp [occurs]
  | cons c s ih =>
    rw [occurs, Bool.or_eq_true, ih, List.infix_cons_iff, Option.isSome_iff_exists]
    refine or_congr_left ?_
    simp only [after?_eq_some_iff]
    exact exists_congr fun _ => eq_comm

/-- The literal text of a reading: a part, unless it is empty. -/
def literalOf (text : List Char) : List Segment := if text.isEmpty then [] else [.literal text]

theorem literal_eq_ok_iff {text : List Char} {segments : List Segment} :
    literal text = .ok segments ↔ Single text ∧ segments = literalOf text := by
  unfold literal Single literalOf
  simp only [Bool.or_eq_true, occurs_iff]
  split
  · next h => simp only [reduceCtorEq, false_iff]; tauto
  · next h =>
    rw [Except.ok.injEq, eq_comm]
    tauto

/-- No placeholder begins inside a literal: its braces would be two of the literal, or the last
one of it and the first one of the placeholder behind it. -/
theorem placeholder?_literal {c : Char} {text rest : List Char}
    (hunopened : ¬ opening <:+: c :: text)
    (hrest : rest = [] ∨ ∃ behind, rest = opening ++ behind) :
    placeholder? (c :: (text ++ rest)) = none := by
  cases h : placeholder? (c :: (text ++ rest)) with
  | none => rfl
  | some found =>
    obtain ⟨d, r, hs, hd⟩ := placeholder?_front h
    have hbraces : c = '\x7b' ∧ text ++ rest = '\x7b' :: d :: r := List.cons.inj hs
    cases text with
    | cons e text =>
      have he : e = '\x7b' := (List.cons.inj hbraces.2).1
      exact absurd ⟨[], text, by rw [hbraces.1, he]; rfl⟩ hunopened
    | nil =>
      rcases hrest with rfl | ⟨behind, rfl⟩
      · cases hbraces.2
      · -- the third brace is the second one of the placeholder behind
        have hthird : '\x7b' = d := (List.cons.inj (List.cons.inj hbraces.2).2).1
        exact absurd hthird.symm hd

theorem parseFrom_literal (before : List Char) {text rest : List Char}
    (hunopened : ¬ opening <:+: text) (hrest : rest = [] ∨ ∃ behind, rest = opening ++ behind) :
    parseFrom before (text ++ rest) = parseFrom (text.reverse ++ before) rest := by
  induction text generalizing before with
  | nil => rfl
  | cons c text ih =>
    rw [List.cons_append, parseFrom_plain (placeholder?_literal hunopened hrest),
      ih (c :: before) (fun h => hunopened (h.trans (List.suffix_cons c text).isInfix)),
      List.reverse_cons, List.append_assoc]
    rfl

theorem parseFrom_field {before text : List Char} {f : AuditField}
    (h : Written (.field f) text) (hbefore : Single before.reverse) (rest : List Char) :
    parseFrom before (text ++ rest) =
      (parseFrom [] rest).map fun segments => literalOf before.reverse ++ .field f :: segments := by
  have hp := placeholder?_written h rest
  cases text with
  | nil => exact absurd rfl h.ne_nil
  | cons c text =>
    rw [List.cons_append] at hp ⊢
    rw [parseFrom_marked hp (ofName?_fieldName f), literal_eq_ok_iff.mpr ⟨hbefore, rfl⟩]
    cases parseFrom [] rest <;> rfl

/-! ## Readings -/

theorem single_nil : Single [] := by simp [Single, opening, closing]

/-- A reading that does not begin with a literal begins with the braces of a placeholder. -/
theorem IsReading.front {xs : List Stretch} {s : List Char} (h : IsReading xs s)
    (hfree : ∀ x ∈ xs.head?, ¬ x.IsLiteral) : s = [] ∨ ∃ behind, s = opening ++ behind := by
  cases xs with
  | nil => exact .inl h.whole.symm
  | cons x xs =>
    obtain ⟨part, text⟩ := x
    obtain ⟨hx, -, rest, rfl, -⟩ := isReading_cons.mp h
    change Written part text at hx
    cases hx with
    | literal => exact absurd ⟨text, rfl⟩ (hfree _ rfl)
    | field f => exact .inr ⟨_, List.append_assoc _ _ _⟩

/-- **A format that can be cut is read so.** The text in front of it may be a literal of its own
if no literal follows. -/
theorem parseFrom_reading {xs : List Stretch} {s : List Char} (h : IsReading xs s)
    (before : List Char) (hbefore : Single before.reverse)
    (hfree : before = [] ∨ ∀ x ∈ xs.head?, ¬ x.IsLiteral) :
    parseFrom before s = .ok (literalOf before.reverse ++ xs.map Stretch.part) := by
  induction xs generalizing s before with
  | nil =>
    obtain rfl : [] = s := h.whole
    rw [parseFrom_nil, List.map_nil, List.append_nil]
    exact literal_eq_ok_iff.mpr ⟨hbefore, rfl⟩
  | cons x xs ih =>
    obtain ⟨part, text⟩ := x
    obtain ⟨hx, hapart, rest, rfl, hxs⟩ := isReading_cons.mp h
    change Written part text at hx
    cases part with
    | field f =>
      rw [parseFrom_field hx hbefore, ih hxs [] single_nil (.inl rfl)]
      rfl
    | literal found =>
      obtain rfl : before = [] := hfree.resolve_right fun hfree => hfree _ rfl ⟨found, rfl⟩
      have hnext : ∀ y ∈ xs.head?, ¬ y.IsLiteral := fun y hy hl =>
        hapart y hy ⟨⟨found, rfl⟩, hl⟩
      cases hx with
      | literal nonempty single =>
        have hsingle : Single (text.reverse ++ []).reverse := by simpa using single
        rw [parseFrom_literal [] single.1 (hxs.front hnext), ih hxs _ hsingle (.inr hnext)]
        simp [literalOf, nonempty]

/-- Literal text without doubled braces in front of a reading that does not begin with a literal. -/
theorem IsReading.literalOf {xs : List Stretch} {s text : List Char} (h : IsReading xs s)
    (hfree : ∀ x ∈ xs.head?, ¬ x.IsLiteral) (htext : Single text) :
    ∃ ys, IsReading ys (text ++ s) ∧
      ys.map Stretch.part = Template.literalOf text ++ xs.map Stretch.part := by
  by_cases hempty : text = []
  · subst hempty
    exact ⟨xs, h, rfl⟩
  · refine ⟨⟨.literal text, text⟩ :: xs, isReading_cons.mpr ⟨?_, ?_, s, rfl, h⟩, ?_⟩
    · exact .literal hempty htext
    · exact fun y hy hboth => hfree y hy hboth.2
    · simp [Template.literalOf, hempty]

/-- **A format that is read can be cut** into the parts that are found. -/
theorem reading_of_parseFrom {before s : List Char} {segments : List Segment}
    (h : parseFrom before s = .ok segments) :
    ∃ xs, IsReading xs (before.reverse ++ s) ∧ xs.map Stretch.part = segments := by
  induction before, s using parseFrom.induct generalizing segments with
  | case1 before =>
    rw [parseFrom_nil, literal_eq_ok_iff] at h
    obtain ⟨xs, hxs, he⟩ := isReading_nil.literalOf (by simp) h.1
    exact ⟨xs, hxs, by rw [he, h.2, List.map_nil, List.append_nil]⟩
  | case2 before c r hp ih =>
    rw [parseFrom_plain hp] at h
    obtain ⟨xs, hxs, he⟩ := ih h
    exact ⟨xs, by simpa using hxs, he⟩
  | case3 before c r name rest hp ih =>
    obtain ⟨front, f, behind, hfront, hname, hbehind, rfl⟩ := parseFrom_placeholder hp h
    obtain ⟨text, htext, hs⟩ := written_of_placeholder? hp hname
    obtain ⟨xs, hxs, rfl⟩ := ih hbehind
    have hmarked : IsReading (⟨.field f, text⟩ :: xs) (c :: r) :=
      isReading_cons.mpr ⟨htext, fun _ _ hboth => by simp [Stretch.IsLiteral] at hboth, rest, hs, hxs⟩
    rw [literal_eq_ok_iff] at hfront
    obtain ⟨ys, hys, he⟩ := hmarked.literalOf (by simp [Stretch.IsLiteral]) hfront.1
    exact ⟨ys, hys, by rw [he, hfront.2]; rfl⟩

/-- Cuts into the same parts are at the same places. -/
theorem IsReading.eq_of_parts {xs ys : List Stretch} {s : List Char} (hx : IsReading xs s)
    (hy : IsReading ys s) (hparts : xs.map Stretch.part = ys.map Stretch.part) : xs = ys := by
  induction xs generalizing ys s with
  | nil => exact (List.map_eq_nil_iff.mp hparts.symm).symm
  | cons x xs ih =>
    cases ys with
    | nil => cases hparts
    | cons y ys =>
      obtain ⟨part, text⟩ := x
      obtain ⟨part', text'⟩ := y
      obtain ⟨rfl, hrests⟩ : part = part' ∧ xs.map Stretch.part = ys.map Stretch.part :=
        List.cons.inj hparts
      obtain ⟨htext, -, rest, rfl, hxs⟩ := isReading_cons.mp hx
      obtain ⟨htext', -, rest', hs, hys⟩ := isReading_cons.mp hy
      change Written part text at htext
      change Written part text' at htext'
      change text ++ rest = text' ++ rest' at hs
      have hsame : text = text' ∧ rest = rest' := by
        cases part with
        | literal found =>
          cases htext
          cases htext'
          exact ⟨rfl, List.append_cancel_left hs⟩
        | field f =>
          -- the placeholder in front ends where the rest begins
          have hrest := placeholder?_written htext rest
          rw [hs, placeholder?_written htext' rest'] at hrest
          cases hrest
          exact ⟨List.append_cancel_right hs, rfl⟩
      obtain ⟨rfl, rfl⟩ := hsame
      rw [ih hxs hys hrests]

/-- **There is only one way to cut a format.** -/
theorem IsReading.unique {xs ys : List Stretch} {s : List Char} (hx : IsReading xs s)
    (hy : IsReading ys s) : xs = ys := by
  refine hx.eq_of_parts hy ?_
  have hread := parseFrom_reading hx [] single_nil (.inl rfl)
  rw [parseFrom_reading hy [] single_nil (.inl rfl)] at hread
  exact (Except.ok.inj hread).symm

/-! ## Whole formats -/

theorem parse_eq_ok_iff {format : String} {t : Template} :
    parse format = .ok t ↔
      ∃ xs, IsReading xs format.toList ∧ t.segments = xs.map Stretch.part := by
  unfold parse
  constructor
  · intro h
    cases hp : parseFrom [] format.toList with
    | error cause =>
      rw [hp] at h
      cases h
    | ok segments =>
      rw [hp] at h
      cases h
      obtain ⟨xs, hxs, he⟩ := reading_of_parseFrom hp
      exact ⟨xs, hxs, he.symm⟩
  · rintro ⟨xs, hxs, ht⟩
    rw [parseFrom_reading hxs [] single_nil (.inl rfl)]
    cases t
    cases ht
    rfl

theorem filled_eq {x : Stretch} (h : Written x.part x.text) (r : AuditRecord) :
    (segmentText r x.part).toList = x.filled r := by
  obtain ⟨part, text⟩ := x
  change Written part text at h
  cases h with
  | literal => exact String.toList_ofList
  | field f => rfl

/-- **A line is the format with the value of its field in the place of each placeholder.** What a
value holds is not looked at again. -/
theorem render_reading {xs : List Stretch} {s : List Char} (h : IsReading xs s)
    (r : AuditRecord) :
    (render ⟨xs.map Stretch.part⟩ r).toList = xs.flatMap (Stretch.filled r) := by
  unfold render
  rw [String.toList_join, List.map_map, List.flatMap_map]
  exact List.flatMap_congr fun x hx => filled_eq (h.written x hx) r

/-- **The grammar of formats.** A format is accepted exactly if it can be cut into placeholders and
literals; there is one way to do this, and it gives the parts of the template. Any other format
is an error of the configuration. A line is the cut format with each placeholder filled in. -/
theorem parse_grammar (format : String) :
    (∀ t, parse format = .ok t ↔
      ∃ xs, IsReading xs format.toList ∧ t.segments = xs.map Stretch.part) ∧
    (∀ xs ys, IsReading xs format.toList → IsReading ys format.toList → xs = ys) ∧
    ((¬ ∃ xs, IsReading xs format.toList) →
      ∃ cause, parse format = .error cause ∧ (Error.output cause).kind = .config) ∧
    ∀ t xs, parse format = .ok t → IsReading xs format.toList →
      ∀ r, (t.render r).toList = xs.flatMap (Stretch.filled r) := by
  refine ⟨fun t => parse_eq_ok_iff, fun xs ys => IsReading.unique, ?_, ?_⟩
  · intro hnone
    cases hp : parse format with
    | error cause => exact ⟨cause, rfl, rfl⟩
    | ok t =>
      obtain ⟨xs, hxs, -⟩ := parse_eq_ok_iff.mp hp
      exact absurd ⟨xs, hxs⟩ hnone
  · intro t xs ht hxs r
    obtain ⟨ys, hys, hparts⟩ := parse_eq_ok_iff.mp ht
    obtain rfl := hxs.unique hys
    have htemplate : t = ⟨xs.map Stretch.part⟩ := by
      cases t
      cases hparts
      rfl
    rw [htemplate]
    exact render_reading hxs r

def threeBraces : List Stretch :=
  [⟨.literal ['\x7b'], ['\x7b']⟩,
    ⟨.field .method, opening ++ ([] ++ '.' :: (AuditField.method.name.toList ++ ([] ++ closing)))⟩,
    ⟨.literal ['\x7d'], ['\x7d']⟩]

theorem isReading_threeBraces :
    IsReading threeBraces "\x7b\x7b\x7b.Method\x7d\x7d\x7d".toList where
  written := by
    simp only [threeBraces, List.forall_mem_cons]
    refine ⟨.literal (by decide) ⟨by decide, by decide⟩, .field .method (by simp) (by simp),
      .literal (by decide) ⟨by decide, by decide⟩, by simp⟩
  apart := by simp [threeBraces, Stretch.IsLiteral]
  whole := by decide

/-- Of three braces the outer ones are literal text, on either side. -/
theorem parse_grammar_threeBraces :
    parse "\x7b\x7b\x7b.Method\x7d\x7d\x7d" =
      .ok ⟨[.literal ['\x7b'], .field .method, .literal ['\x7d']]⟩ :=
  ((parse_grammar _).1 _).mpr ⟨threeBraces, isReading_threeBraces, rfl⟩

end Firewall.Template
