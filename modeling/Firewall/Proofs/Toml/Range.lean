import Firewall.Toml.Reader

/-!
Every whole number that a document in TOML says has 64 bits with its sign, however deep it stands
in lists and tables. That is checked where a number is read; everything else only moves items
about, and so a document that was read can be written again.

Proved here:

* `range_of_integer?`: the check;
* `Rows.Fits.within`, `Rows.Fits.assign`, `Rows.Fits.ofPairs`: changes of tables bring in no item
  of their own;
* `fits_of_readItem`: the items that are read;
* `fits_of_read`: a whole document.
-/

namespace Firewall.Toml

open Text

/-- Every whole number in an item has 64 bits with its sign. -/
inductive Item.Fits : Item → Prop
  | text (s : String) : Fits (.text s)
  | integer {n : Int} (low : -(halfRange : Int) ≤ n) (high : n < halfRange) : Fits (.integer n)
  | float (written : List Char) : Fits (.float written)
  | boolean (b : Bool) : Fits (.boolean b)
  | moment (written : List Char) : Fits (.moment written)
  | list {items : List Item} (each : ∀ i ∈ items, Fits i) : Fits (.list items)
  | table {origin : Origin} {rows : List (String × Item)} (each : ∀ r ∈ rows, Fits r.2) :
      Fits (.table origin rows)
  | tables {elements : List (List (String × Item))} (each : ∀ e ∈ elements, ∀ r ∈ e, Fits r.2) :
      Fits (.tables elements)

/-! ## Numbers -/

theorem range_of_basedInteger? {base : Nat} {s : List Char} {n : Int}
    (h : basedInteger? base s = some n) : -(halfRange : Int) ≤ n ∧ n < halfRange := by
  simp only [basedInteger?] at h
  split at h
  · split at h
    · cases h
      omega
    · cases h
  · cases h

/-- **A whole number that is read has 64 bits with its sign.** -/
theorem range_of_integer? {s : List Char} {n : Int} (h : integer? s = some n) :
    -(halfRange : Int) ≤ n ∧ n < halfRange := by
  unfold integer? at h
  split at h
  · exact range_of_basedInteger? h
  · exact range_of_basedInteger? h
  · exact range_of_basedInteger? h
  · simp only at h
    split at h
    · split at h
      · split at h
        · cases h
          unfold halfRange at *
          omega
        · cases h
      · split at h
        · cases h
          omega
        · cases h
    · cases h

/-- A way to read items that only finds such as fit. -/
def Careful (read : ItemReader) : Prop := ∀ {s i rest}, read s = some (i, rest) → i.Fits

theorem careful_readBare : Careful readBare := by
  intro s i rest h
  simp only [readBare] at h
  split at h
  · cases h
    exact .boolean true
  split at h
  · cases h
    exact .boolean false
  split at h
  · split at h
    · split at h
      · cases h
        exact .moment _
      · cases h
        exact .moment _
    · cases h
      exact .moment _
  · split at h
    · next n hn =>
      cases h
      obtain ⟨low, high⟩ := range_of_integer? hn
      exact .integer low high
    · split at h
      · cases h
        exact .float _
      · cases h

/-! ## Tables -/

def Rows.Fits (rows : Rows) : Prop := ∀ r ∈ rows, r.2.Fits

namespace Rows

theorem Fits.nil : Fits [] := fun _ h => nomatch h

theorem Fits.concat {rows : Rows} (h : rows.Fits) (key : String) {i : Item} (hi : i.Fits) :
    Fits (rows ++ [(key, i)]) := by
  intro r hr
  rcases List.mem_append.mp hr with hr | hr
  · exact h r hr
  · rw [List.mem_singleton.mp hr]
    exact hi

theorem Fits.replace {rows : Rows} (h : rows.Fits) (key : String) {i : Item} (hi : i.Fits) :
    (rows.replace key i).Fits := by
  induction rows with
  | nil => exact Fits.nil
  | cons r rows ih =>
    have htail : Fits rows := fun q hq => h q (List.mem_cons_of_mem r hq)
    rw [Rows.replace]
    split
    · intro q hq
      rcases List.mem_cons.mp hq with rfl | hq
      · exact hi
      · exact htail q hq
    · intro q hq
      rcases List.mem_cons.mp hq with rfl | hq
      · exact h q List.mem_cons_self
      · exact ih htail q hq

theorem Fits.lookup {rows : Rows} (h : rows.Fits) {key : String} {i : Item}
    (hi : rows.lookup key = some i) : i.Fits := by
  obtain ⟨before, after, hrows, -⟩ := List.lookup_eq_some_iff.mp hi
  refine h (key, i) ?_
  rw [hrows]
  exact List.mem_append_right before List.mem_cons_self

theorem Fits.of_table {origin : Origin} {rows : Rows} (h : Item.Fits (.table origin rows)) :
    rows.Fits := by
  cases h with
  | table each => exact each

theorem Fits.getLast {elements : List Rows} (h : Item.Fits (.tables elements)) :
    Fits (elements.getLast?.getD []) := by
  cases h with
  | tables each =>
    cases hl : elements.getLast? with
    | none => exact Fits.nil
    | some e => exact each e (List.mem_of_getLast? hl)

theorem Fits.dropLast {elements : List Rows} (h : Item.Fits (.tables elements)) {rows : Rows}
    (hrows : rows.Fits) : Item.Fits (.tables (elements.dropLast ++ [rows])) := by
  cases h with
  | tables each =>
    refine .tables fun e he => ?_
    rcases List.mem_append.mp he with he | he
    · exact each e (List.dropLast_subset elements he)
    · rw [List.mem_singleton.mp he]
      exact hrows

/-- A change of rows brings in no number that does not fit. -/
def Harmless (change : Rows → Option Rows) : Prop :=
  ∀ {rows after}, rows.Fits → change rows = some after → after.Fits

theorem Harmless.within {change : Rows → Option Rows} (hchange : Harmless change)
    (path : List String) : Harmless (within change path) := by
  induction path with
  | nil => exact hchange
  | cons k ks ih =>
    intro rows after hrows h
    rw [Rows.within] at h
    split at h
    · obtain ⟨inner, hinner, rfl⟩ := Option.map_eq_some_iff.mp h
      exact hrows.concat k (.table (ih Fits.nil hinner))
    · next origin inner hl =>
      split at h
      · cases h
      · obtain ⟨changed, hinner, rfl⟩ := Option.map_eq_some_iff.mp h
        exact hrows.replace k (.table (ih (Fits.of_table (hrows.lookup hl)) hinner))
    · next elements hl =>
      obtain ⟨changed, hinner, rfl⟩ := Option.map_eq_some_iff.mp h
      have hfit := hrows.lookup hl
      exact hrows.replace k (Fits.dropLast hfit (ih (Fits.getLast hfit) hinner))
    · cases h

theorem harmless_openTable (key : String) : Harmless (openTable key) := by
  intro rows after hrows h
  rw [openTable] at h
  split at h
  · cases h
    exact hrows.concat key (.table Fits.nil)
  · next inner hl =>
    cases h
    exact hrows.replace key (.table (Fits.of_table (hrows.lookup hl)))
  · cases h

theorem harmless_openElement (key : String) : Harmless (openElement key) := by
  intro rows after hrows h
  rw [openElement] at h
  split at h
  · cases h
    refine hrows.concat key (.tables fun e he => ?_)
    rw [List.mem_singleton.mp he]
    exact Fits.nil
  · next elements hl =>
    cases h
    refine hrows.replace key (.tables fun e he => ?_)
    rcases List.mem_append.mp he with he | he
    · cases hrows.lookup hl with
      | tables each => exact each e he
    · rw [List.mem_singleton.mp he]
      exact Fits.nil
  · cases h

theorem harmless_assign {i : Item} (hi : i.Fits) (path : List String) :
    Harmless (assign i path) := by
  induction path with
  | nil =>
    intro rows after hrows h
    cases h
  | cons k ks ih =>
    intro rows after hrows h
    cases ks with
    | nil =>
      rw [assign] at h
      split at h
      · cases h
      · cases h
        exact hrows.concat k hi
    | cons l ks =>
      rw [assign] at h
      split at h
      · obtain ⟨inner, hinner, rfl⟩ := Option.map_eq_some_iff.mp h
        exact hrows.concat k (.table (ih Fits.nil hinner))
      · next origin inner hl =>
        split at h
        · cases h
        · obtain ⟨changed, hinner, rfl⟩ := Option.map_eq_some_iff.mp h
          exact hrows.replace k (.table (ih (Fits.of_table (hrows.lookup hl)) hinner))
      · next elements hl =>
        split at h
        · cases h
        · obtain ⟨changed, hinner, rfl⟩ := Option.map_eq_some_iff.mp h
          have hfit := hrows.lookup hl
          exact hrows.replace k (Fits.dropLast hfit (ih (Fits.getLast hfit) hinner))
      · cases h

theorem harmless_ofPairs {pairs : List (List String × Item)} (hpairs : ∀ p ∈ pairs, p.2.Fits) :
    Harmless (ofPairs pairs) := by
  induction pairs with
  | nil =>
    intro rows after hrows h
    cases h
    exact hrows
  | cons p pairs ih =>
    intro rows after hrows h
    rw [ofPairs] at h
    split at h
    · next next hnext =>
      have hp := hpairs p List.mem_cons_self
      exact ih (fun q hq => hpairs q (List.mem_cons_of_mem p hq))
        (harmless_assign hp p.1 hrows hnext) h
    · cases h

end Rows

/-! ## Items -/

theorem fits_of_readItems {read : ItemReader} (hread : Careful read) {fuel : Nat}
    {s rest : List Char} {items : List Item} (h : readItems read fuel s = some (items, rest)) :
    ∀ i ∈ items, i.Fits := by
  induction fuel generalizing s items with
  | zero => cases h
  | succ fuel ih =>
    rw [readItems] at h
    split at h
    · cases h
    · cases h
      exact fun _ hi => nomatch hi
    · split at h
      · cases h
      · next i s hi =>
        split at h
        · cases h
          intro j hj
          rw [List.mem_singleton.mp hj]
          exact hread hi
        · obtain ⟨⟨more, rest⟩, hmore, he⟩ := Option.map_eq_some_iff.mp h
          cases he
          intro j hj
          rcases List.mem_cons.mp hj with rfl | hj
          · exact hread hi
          · exact ih hmore j hj
        · cases h

theorem fits_of_readPair {read : ItemReader} (hread : Careful read) {s rest : List Char}
    {pair : List String × Item} (h : readPair read s = some (pair, rest)) : pair.2.Fits := by
  rw [readPair] at h
  split at h
  · obtain ⟨⟨i, rest⟩, hi, he⟩ := Option.map_eq_some_iff.mp h
    cases he
    exact hread hi
  · cases h

theorem fits_of_readPairs {read : ItemReader} (hread : Careful read) {fuel : Nat}
    {s rest : List Char} {pairs : List (List String × Item)}
    (h : readPairs read fuel s = some (pairs, rest)) : ∀ p ∈ pairs, p.2.Fits := by
  induction fuel generalizing s pairs with
  | zero => cases h
  | succ fuel ih =>
    rw [readPairs] at h
    split at h
    · cases h
    · next pair s hpair =>
      split at h
      · cases h
        intro p hp
        rw [List.mem_singleton.mp hp]
        exact fits_of_readPair hread hpair
      · obtain ⟨⟨more, rest⟩, hmore, he⟩ := Option.map_eq_some_iff.mp h
        cases he
        intro p hp
        rcases List.mem_cons.mp hp with rfl | hp
        · exact fits_of_readPair hread hpair
        · exact ih hmore p hp
      · cases h

/-- **Every item that is read fits**, whatever it holds. -/
theorem fits_of_readItem (depth : Nat) : Careful (readItem depth) := by
  induction depth with
  | zero =>
    intro s i rest h
    unfold readItem at h
    split at h
    · cases h
    · split at h
      · obtain ⟨⟨t, rest⟩, -, he⟩ := Option.map_eq_some_iff.mp h
        cases he
        exact .text _
      split at h
      · cases h
      split at h
      · cases h
      · exact careful_readBare h
  | succ depth ih =>
    intro s i rest h
    unfold readItem at h
    split at h
    · cases h
    · split at h
      · obtain ⟨⟨t, rest⟩, -, he⟩ := Option.map_eq_some_iff.mp h
        cases he
        exact .text _
      split at h
      · obtain ⟨⟨items, rest⟩, hitems, he⟩ := Option.map_eq_some_iff.mp h
        cases he
        exact .list (fits_of_readItems ih hitems)
      split at h
      · simp only at h
        split at h
        · cases h
          exact .table Rows.Fits.nil
        · split at h
          · cases h
          · next pairs rest hpairs =>
            obtain ⟨rows, hrows, he⟩ := Option.map_eq_some_iff.mp h
            cases he
            exact .table (Rows.harmless_ofPairs (fits_of_readPairs ih hpairs) Rows.Fits.nil hrows)
      · exact careful_readBare h

/-! ## Documents -/

theorem fits_of_readHeader {d e : Draft} {s rest : List Char} (hd : d.rows.Fits)
    (h : readHeader d s = some (e, rest)) : e.rows.Fits := by
  simp only [readHeader, Option.bind_eq_bind, Option.bind_eq_some_iff] at h
  obtain ⟨⟨key, t⟩, -, t, -, t, -, last, -, rows, hrows, he⟩ := h
  cases he
  refine Rows.Harmless.within ?_ _ hd hrows
  split
  · exact Rows.harmless_openElement last
  · exact Rows.harmless_openTable last

theorem fits_of_readAssignment {d e : Draft} {s rest : List Char} (hd : d.rows.Fits)
    (h : readAssignment d s = some (e, rest)) : e.rows.Fits := by
  simp only [readAssignment, Option.bind_eq_bind, Option.bind_eq_some_iff] at h
  obtain ⟨⟨⟨key, i⟩, t⟩, hpair, t, -, rows, hrows, he⟩ := h
  cases he
  have hi : i.Fits := fits_of_readPair (fits_of_readItem _) hpair
  exact Rows.Harmless.within (Rows.harmless_assign hi key) d.path hd hrows

theorem fits_of_readLines {fuel : Nat} {d : Draft} {s : List Char} {rows : Rows}
    (hd : d.rows.Fits) (h : readLines fuel d s = some rows) : rows.Fits := by
  induction fuel generalizing d s with
  | zero => cases h
  | succ fuel ih =>
    rw [readLines] at h
    split at h
    · cases h
      exact hd
    · split at h
      · obtain ⟨rest, -, hrest⟩ := Option.bind_eq_some_iff.mp h
        exact ih hd hrest
      · split at h
        · next e rest hline =>
          refine ih ?_ h
          split at hline
          · exact fits_of_readHeader hd hline
          · exact fits_of_readAssignment hd hline
        · cases h

/-- **Every whole number that a document says has 64 bits with its sign.** -/
theorem fits_of_read {document : String} {rows : Rows} (h : read document = some rows) :
    rows.Fits := by
  simp only [read] at h
  exact fits_of_readLines Rows.Fits.nil h

end Firewall.Toml
