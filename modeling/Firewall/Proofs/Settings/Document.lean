import Firewall.Proofs.Toml.Value
import Firewall.Settings.Document

/-!
Settings as a document: sections with a header each, a line for each field, and a blank line
between sections. The document is read back line by line, and each line adds to what has been
read what it was written for.

Proved here:

* `readItem_render`: the value of a field is read back;
* `readAssignment_fieldLine`, `readHeader_name`: what a line says about the draft so far;
* `Reads.field`, `Reads.header`, `Reads.blank`: the same about everything from a line on;
* `read_documentOf`: what a whole document says.
-/

namespace Firewall.Settings

open Toml

/-! ## Values -/

def Field.item : Field → Item
  | text s => .text s
  | switch b => .boolean b
  | natural n => .integer (.ofNat n)

theorem readItem_render (depth : Nat) {f : Field} (hf : f.fits = true) {rest : List Char}
    (hrest : LineRest rest) : readItem depth (f.render ++ rest) = some (f.item, rest) := by
  cases f with
  | text s =>
    have h := readItem_quote depth s.toList hrest
    rwa [String.ofList_toList] at h
  | switch b => exact readItem_switch depth b hrest
  | natural n => exact readItem_natural depth (of_decide_eq_true hf) hrest

theorem skipSpace_of_head {s : List Char} (h : ∀ c, s.head? = some c → isSpace c = false) :
    skipSpace s = s := by
  cases s with
  | nil => rfl
  | cons c s => exact List.dropWhile_cons_of_neg (by simp [h c rfl])

theorem skipSpace_render (f : Field) (rest : List Char) :
    skipSpace (f.render ++ rest) = f.render ++ rest := by
  apply skipSpace_of_head
  intro c hc
  cases f with
  | text s =>
    obtain ⟨q, r, hq, rfl | rfl⟩ := head_quote s.toList
    · rw [Field.render, hq] at hc
      cases hc
      decide
    · rw [Field.render, hq] at hc
      cases hc
      decide
  | switch b =>
    cases b with
    | true => cases hc; decide
    | false => cases hc; decide
  | natural n =>
    cases hn : (toString n).toList with
    | nil => exact absurd hn (toString_ne_nil n)
    | cons d ds =>
      rw [Field.render, hn] at hc
      cases hc
      have hd := isAsciiDigit_toString (n := n) (c := c) (by rw [hn]; exact List.mem_cons_self)
      simp only [isSpace, Bool.or_eq_false_iff, beq_eq_false_iff_ne]
      constructor
      · rintro rfl
        exact absurd hd (by decide)
      · rintro rfl
        exact absurd hd (by decide)

/-! ## Names -/

/-- Whether a name can stand without quotes. -/
def isName (name : String) : Bool :=
  !name.toList.isEmpty && name.toList.all isKeyCharacter

theorem isSpace_of_isKeyCharacter {c : Char} (h : isKeyCharacter c = true) :
    isSpace c = false := by
  simp only [isSpace, Bool.or_eq_false_iff, beq_eq_false_iff_ne]
  constructor
  · rintro rfl
    exact absurd h (by decide)
  · rintro rfl
    exact absurd h (by decide)

theorem exists_of_isName {name : String} (h : isName name = true) :
    ∃ c r, name.toList = c :: r ∧ isKeyCharacter c = true ∧ ∀ d ∈ r, isKeyCharacter d = true := by
  simp only [isName, Bool.and_eq_true, Bool.not_eq_true', List.all_eq_true] at h
  cases hn : name.toList with
  | nil => rw [hn] at h; exact absurd h.1 (by decide)
  | cons c r =>
    rw [hn] at h
    exact ⟨c, r, rfl, h.2 c List.mem_cons_self, fun d hd => h.2 d (List.mem_cons_of_mem c hd)⟩

theorem readKeyPart_name {name : String} (h : isName name = true) {rest : List Char}
    (hrest : ∀ c, rest.head? = some c → isKeyCharacter c = false) :
    readKeyPart (name.toList ++ rest) = some (name, rest) := by
  obtain ⟨c, r, hn, hc, hr⟩ := exists_of_isName h
  have hall : ∀ d ∈ c :: r, isKeyCharacter d = true := by
    intro d hd
    rcases List.mem_cons.mp hd with rfl | hd
    · exact hc
    · exact hr d hd
  have hmark : c ≠ mark := by
    rintro rfl
    exact absurd hc (by decide)
  have htick : c ≠ tick := by
    rintro rfl
    exact absurd hc (by decide)
  rw [hn, List.cons_append]
  unfold readKeyPart
  simp only
  rw [if_neg hmark, if_neg htick, ← List.cons_append, takeWhile_append hall hrest]
  rw [if_neg (by simp), ← hn, String.ofList_toList, List.drop_left]

theorem readKey_name {name : String} (h : isName name = true) {rest : List Char}
    (hrest : ∀ c, rest.head? = some c → isKeyCharacter c = false) {c : Char} {r : List Char}
    (hskip : skipSpace rest = c :: r) (hdot : c ≠ '.') :
    readKey (name.toList ++ rest) = some ([name], c :: r) := by
  have hspace : skipSpace (name.toList ++ rest) = name.toList ++ rest := by
    obtain ⟨c, r, hn, hc, -⟩ := exists_of_isName h
    apply skipSpace_of_head
    rw [hn]
    rintro d ⟨⟩
    exact isSpace_of_isKeyCharacter hc
  show readKeyParts (78 + 1) _ = _
  rw [readKeyParts, hspace, readKeyPart_name h hrest]
  simp only [hskip]
  split
  · next r hr => exact absurd (List.cons.inj hr).1 hdot
  · rfl

/-! ## Lines -/

theorem lookup_eq_none_of_not_mem {rows : Rows} {key : String} (h : key ∉ rows.map Prod.fst) :
    rows.lookup key = none := by
  rw [List.lookup_eq_none_iff]
  intro r hr
  simp only [bne_iff_ne, ne_eq]
  rintro rfl
  exact h (List.mem_map_of_mem hr)

/-- What has been read when a section is open: the rows in front of it, and its own. -/
def opened (before : Rows) (name : String) (inner : Rows) : Draft :=
  ⟨before ++ [(name, .table .header inner)], [name]⟩

theorem lookup_last {before : Rows} {name : String} (h : name ∉ before.map Prod.fst) (i : Item) :
    (before ++ [(name, i)]).lookup name = some i := by
  rw [List.lookup_append, lookup_eq_none_of_not_mem h, Option.none_or, List.lookup_cons_self]

theorem replace_last {before : Rows} {name : String} (h : name ∉ before.map Prod.fst)
    (i j : Item) : Rows.replace name j (before ++ [(name, i)]) = before ++ [(name, j)] := by
  induction before with
  | nil => rw [List.nil_append, Rows.replace, if_pos rfl, List.nil_append]
  | cons r before ih =>
    rw [List.map_cons, List.mem_cons, not_or] at h
    rw [List.cons_append, Rows.replace, if_neg fun he => h.1 he.symm, ih h.2, List.cons_append]

theorem within_opened {before inner : Rows} {name key : String}
    (hname : name ∉ before.map Prod.fst) (hkey : key ∉ inner.map Prod.fst) (i : Item) :
    Rows.within (Rows.assign i [key]) (opened before name inner).path
        (opened before name inner).rows =
      some (opened before name (inner ++ [(key, i)])).rows := by
  have hassign : Rows.assign i [key] inner = some (inner ++ [(key, i)]) := by
    rw [Rows.assign, lookup_eq_none_of_not_mem hkey]
    rfl
  simp only [opened, Rows.within, lookup_last hname, hassign]
  rw [if_neg (by decide), Option.map_some, replace_last hname]

theorem readAssignment_fieldLine {before inner : Rows} {name : String} {f : String × Field}
    (hname : name ∉ before.map Prod.fst) (hkey : f.1 ∉ inner.map Prod.fst)
    (his : isName f.1 = true) (hf : f.2.fits = true) (rest : List Char) :
    readAssignment (opened before name inner) (fieldLine f ++ rest) =
      some (opened before name (inner ++ [(f.1, f.2.item)]), rest) := by
  have hline : fieldLine f ++ rest =
      f.1.toList ++ (' ' :: '=' :: ' ' :: (f.2.render ++ '\n' :: rest)) := by
    simp [fieldLine]
  have hkeyRead : readKey (fieldLine f ++ rest) =
      some ([f.1], '=' :: ' ' :: (f.2.render ++ '\n' :: rest)) := by
    rw [hline]
    exact readKey_name his (by rintro c ⟨⟩; decide) rfl (by decide)
  have hspace : skipSpace (' ' :: (f.2.render ++ '\n' :: rest)) = f.2.render ++ '\n' :: rest :=
    skipSpace_render f.2 ('\n' :: rest)
  have hpair : readPair (readItem (tooDeep - 1)) (fieldLine f ++ rest) =
      some (([f.1], f.2.item), '\n' :: rest) := by
    rw [readPair, hkeyRead]
    simp only
    rw [hspace, readItem_render _ hf ⟨rest, rfl⟩]
    rfl
  have hend : lineEnd? ('\n' :: rest) = some rest := rfl
  simp only [readAssignment, hpair, hend, within_opened hname hkey, Option.bind_eq_bind,
    Option.bind_some]
  rfl

theorem readHeader_name {d : Draft} {name : String} (hname : name ∉ d.rows.map Prod.fst)
    (his : isName name = true) (rest : List Char) :
    readHeader d (name.toList ++ "]\n".toList ++ rest) = some (opened d.rows name [], rest) := by
  have hhead : (name.toList ++ "]\n".toList ++ rest).head? ≠ some '[' := by
    obtain ⟨c, r, hn, hc, -⟩ := exists_of_isName his
    rw [hn]
    rintro ⟨⟩
    exact absurd hc (by decide)
  have hkey : readKey (name.toList ++ "]\n".toList ++ rest) =
      some ([name], ']' :: '\n' :: rest) := by
    rw [List.append_assoc]
    exact readKey_name his (by rintro c ⟨⟩; decide) rfl (by decide)
  have hclose : Text.after? [']'] (']' :: '\n' :: rest) = some ('\n' :: rest) := by
    rw [Text.after?, if_pos rfl, Text.after?]
  have hend : lineEnd? ('\n' :: rest) = some rest := rfl
  have hopen : Rows.openTable name d.rows = some (opened d.rows name []).rows := by
    rw [Rows.openTable, lookup_eq_none_of_not_mem hname]
    rfl
  simp only [readHeader, if_neg hhead, hkey, hclose, hend, Option.bind_eq_bind,
    Option.bind_some, List.getLast?_singleton, List.dropLast_singleton, Rows.within, hopen]
  rfl

/-! ## From a line on -/

/-- The rest of a document gives these rows, with as many rounds as it has characters to spare. -/
def Reads (d : Draft) (s : List Char) (rows : Rows) : Prop :=
  ∀ fuel, s.length < fuel → readLines fuel d s = some rows

theorem Reads.nil (d : Draft) : Reads d [] d.rows := by
  intro fuel hfuel
  cases fuel with
  | zero => exact absurd hfuel (Nat.not_lt_zero _)
  | succ fuel => rfl

theorem Reads.blank {d : Draft} {s : List Char} {rows : Rows} (h : Reads d s rows) :
    Reads d ('\n' :: s) rows := by
  intro fuel hfuel
  cases fuel with
  | zero => exact absurd hfuel (Nat.not_lt_zero _)
  | succ fuel =>
    show readLines fuel d s = some rows
    exact h fuel (Nat.lt_of_succ_lt_succ hfuel)

theorem Reads.field {before inner : Rows} {name : String} {f : String × Field}
    (hname : name ∉ before.map Prod.fst) (hkey : f.1 ∉ inner.map Prod.fst)
    (his : isName f.1 = true) (hf : f.2.fits = true) {s : List Char} {rows : Rows}
    (h : Reads (opened before name (inner ++ [(f.1, f.2.item)])) s rows) :
    Reads (opened before name inner) (fieldLine f ++ s) rows := by
  intro fuel hfuel
  have hread := readAssignment_fieldLine hname hkey his hf s
  obtain ⟨c, r, hn, hc, -⟩ := exists_of_isName his
  have hline : fieldLine f ++ s = c :: (r ++ " = ".toList ++ f.2.render ++ ['\n'] ++ s) := by
    rw [fieldLine, hn]
    rfl
  have hshort : s.length < (fieldLine f ++ s).length := by
    simp [fieldLine]
    omega
  have hspace : skipSpace (fieldLine f ++ s) = fieldLine f ++ s := by
    apply skipSpace_of_head
    rw [hline]
    rintro d ⟨⟩
    exact isSpace_of_isKeyCharacter hc
  have hfiller : ¬ (c = '#' ∨ c = '\n' ∨ c = '\r') := by
    rintro (rfl | rfl | rfl)
    · exact absurd hc (by decide)
    · exact absurd hc (by decide)
    · exact absurd hc (by decide)
  have hheader : c ≠ '[' := by
    rintro rfl
    exact absurd hc (by decide)
  cases fuel with
  | zero => exact absurd hfuel (Nat.not_lt_zero _)
  | succ fuel =>
    rw [readLines, hspace, hline]
    simp only
    rw [if_neg hfiller, if_neg hheader, ← hline, hread]
    exact h fuel (by omega)

theorem Reads.header {d : Draft} {name : String} (hname : name ∉ d.rows.map Prod.fst)
    (his : isName name = true) {s : List Char} {rows : Rows}
    (h : Reads (opened d.rows name []) s rows) :
    Reads d ('[' :: name.toList ++ "]\n".toList ++ s) rows := by
  intro fuel hfuel
  cases fuel with
  | zero => exact absurd hfuel (Nat.not_lt_zero _)
  | succ fuel =>
    have hspace : skipSpace ('[' :: (name.toList ++ "]\n".toList ++ s)) =
        '[' :: (name.toList ++ "]\n".toList ++ s) := rfl
    rw [List.cons_append, List.cons_append, readLines, hspace]
    simp only
    rw [if_neg (by decide), if_pos trivial, readHeader_name hname his]
    refine h fuel ?_
    simp only [List.cons_append, List.length_cons, List.length_append] at hfuel
    omega

/-! ## Documents -/

/-- The fields of a section can be written and told from each other. -/
structure IsSection (fields : List (String × Field)) : Prop where
  distinct : (fields.map Prod.fst).Nodup
  named : ∀ f ∈ fields, isName f.1 = true
  fits : ∀ f ∈ fields, f.2.fits = true

structure IsDocument (parts : List (String × List (String × Field))) : Prop where
  distinct : (parts.map Prod.fst).Nodup
  named : ∀ p ∈ parts, isName p.1 = true
  sections : ∀ p ∈ parts, IsSection p.2

def fieldRows (fields : List (String × Field)) : Rows := fields.map fun f => (f.1, f.2.item)

def documentRows (parts : List (String × List (String × Field))) : Rows :=
  parts.map fun p => (p.1, .table .header (fieldRows p.2))

theorem Reads.fields {before inner : Rows} {name : String} {fields : List (String × Field)}
    (hname : name ∉ before.map Prod.fst) (hfields : IsSection fields)
    (hfresh : ∀ f ∈ fields, f.1 ∉ inner.map Prod.fst) {s : List Char} {rows : Rows}
    (h : Reads (opened before name (inner ++ fieldRows fields)) s rows) :
    Reads (opened before name inner) (fields.flatMap fieldLine ++ s) rows := by
  induction fields generalizing inner with
  | nil => simpa [fieldRows] using h
  | cons f fields ih =>
    obtain ⟨hf, hdistinct⟩ := List.nodup_cons.mp hfields.distinct
    have hrest : IsSection fields := ⟨hdistinct,
      fun g hg => hfields.named g (List.mem_cons_of_mem f hg),
      fun g hg => hfields.fits g (List.mem_cons_of_mem f hg)⟩
    rw [List.flatMap_cons, List.append_assoc]
    refine Reads.field hname (hfresh f List.mem_cons_self) (hfields.named f List.mem_cons_self)
      (hfields.fits f List.mem_cons_self) (ih hrest ?_ ?_)
    · intro g hg
      rw [List.map_append, List.mem_append, not_or]
      refine ⟨hfresh g (List.mem_cons_of_mem f hg), ?_⟩
      simp only [List.map_cons, List.map_nil, List.mem_singleton]
      rintro he
      exact hf (he ▸ List.mem_map_of_mem hg)
    · rwa [List.append_assoc]

theorem Reads.section {d : Draft} {p : String × List (String × Field)}
    (hname : p.1 ∉ d.rows.map Prod.fst) (his : isName p.1 = true) (hp : IsSection p.2)
    {s : List Char} {rows : Rows} (h : Reads (opened d.rows p.1 (fieldRows p.2)) s rows) :
    Reads d (sectionLines p ++ s) rows := by
  rw [sectionLines, List.append_assoc]
  exact Reads.header hname his (Reads.fields hname hp (fun _ _ => List.not_mem_nil) h)

theorem IsDocument.tail {p : String × List (String × Field)}
    {parts : List (String × List (String × Field))} (h : IsDocument (p :: parts)) :
    IsDocument parts where
  distinct := (List.nodup_cons.mp h.distinct).2
  named q hq := h.named q (List.mem_cons_of_mem p hq)
  sections q hq := h.sections q (List.mem_cons_of_mem p hq)

theorem reads_documentOf {d : Draft} {parts : List (String × List (String × Field))}
    (h : IsDocument parts) (hfresh : ∀ p ∈ parts, p.1 ∉ d.rows.map Prod.fst) :
    Reads d (documentOf parts) (d.rows ++ documentRows parts) := by
  induction parts generalizing d with
  | nil => simpa [documentRows, documentOf, Text.join] using Reads.nil d
  | cons p parts ih =>
    have hname := hfresh p List.mem_cons_self
    have his := h.named p List.mem_cons_self
    have hp := h.sections p List.mem_cons_self
    cases parts with
    | nil =>
      have hone : documentOf [p] = sectionLines p ++ [] := (List.append_nil _).symm
      rw [hone]
      exact Reads.section hname his hp (Reads.nil (opened d.rows p.1 (fieldRows p.2)))
    | cons q parts =>
      have hmany : documentOf (p :: q :: parts) =
          sectionLines p ++ '\n' :: documentOf (q :: parts) := by
        simp [documentOf, Text.join]
      have hrest : ∀ r ∈ q :: parts,
          r.1 ∉ (opened d.rows p.1 (fieldRows p.2)).rows.map Prod.fst := by
        intro r hr
        rw [opened, List.map_append, List.mem_append, not_or]
        refine ⟨hfresh r (List.mem_cons_of_mem p hr), ?_⟩
        simp only [List.map_cons, List.map_nil, List.mem_singleton]
        intro he
        exact (List.nodup_cons.mp h.distinct).1 (he ▸ List.mem_map_of_mem hr)
      have hreads := ih h.tail hrest
      rw [opened, List.append_assoc] at hreads
      rw [hmany]
      exact Reads.section hname his hp (Reads.blank hreads)

/-- **A document is read back**: its sections, each with its fields and what they say. -/
theorem read_documentOf {parts : List (String × List (String × Field))} (h : IsDocument parts) :
    Toml.read (String.ofList (documentOf parts)) = some (documentRows parts) := by
  have hhead : (documentOf parts).head? ≠ some orderMark := by
    cases parts with
    | nil => simp [documentOf, Text.join]
    | cons p parts =>
      cases parts with
      | nil => simp [documentOf, Text.join, sectionLines, orderMark]
      | cons q parts => simp [documentOf, Text.join, sectionLines, orderMark]
  have hreads := reads_documentOf (d := ⟨[], []⟩) h fun _ _ => List.not_mem_nil
  unfold Toml.read
  simp only [String.toList_ofList]
  rw [if_neg hhead]
  exact hreads _ (Nat.lt_succ_self _)

end Firewall.Settings
