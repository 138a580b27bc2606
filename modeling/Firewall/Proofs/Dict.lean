import Firewall.Dict

/-!
Dictionaries further: a key has a value exactly if there is a row for the two, and values can
be mapped.

Proved here:

* `get?_eq_some_iff`: reading a key is finding its row;
* `map_insert`, `map_ofList`: mapping values goes with insertion;
* `insert_of_get?`: giving a key the value that it has changes nothing;
* `eq_of_rows`: dictionaries are their rows.
-/

namespace Firewall.Dict

variable {κ α β : Type}

theorem eq_of_rows {d e : Dict κ α} (h : d.rows = e.rows) : d = e := by
  cases d
  cases e
  cases h
  rfl

theorem eq_empty_of_isEmpty {d : Dict κ α} (h : d.isEmpty = true) : d = empty :=
  eq_of_rows (List.isEmpty_iff.mp h)

def map (f : α → β) (d : Dict κ α) : Dict κ β where
  rows := d.rows.map fun r => (r.1, f r.2)
  distinct := by
    rw [List.map_map]
    exact d.distinct

@[simp] theorem map_empty (f : α → β) : (empty : Dict κ α).map f = empty := rfl

variable [DecidableEq κ]

theorem lookup_eq_some_iff {k : κ} {v : α} {rows : List (κ × α)}
    (h : (rows.map Prod.fst).Nodup) : lookup k rows = some v ↔ (k, v) ∈ rows := by
  induction rows with
  | nil => simp [lookup]
  | cons r rows ih =>
    obtain ⟨l, w⟩ := r
    rw [List.map_cons, List.nodup_cons] at h
    simp only [lookup, List.mem_cons, Prod.mk.injEq]
    by_cases hk : l = k
    · subst hk
      rw [if_pos rfl, Option.some.injEq]
      constructor
      · rintro rfl
        exact Or.inl ⟨rfl, rfl⟩
      · rintro (⟨-, rfl⟩ | hm)
        · rfl
        · exact absurd (List.mem_map_of_mem (f := Prod.fst) hm) h.1
    · rw [if_neg hk, ih h.2]
      constructor
      · exact Or.inr
      · rintro (⟨rfl, -⟩ | hm)
        · exact absurd rfl hk
        · exact hm

theorem lookup_eq_none {k : κ} {rows : List (κ × α)} (h : k ∉ rows.map Prod.fst) :
    lookup k rows = none := by
  induction rows with
  | nil => rfl
  | cons r rows ih =>
    simp only [List.map_cons, List.mem_cons, not_or] at h
    simp only [lookup, Ne.symm h.1, ↓reduceIte]
    exact ih h.2

theorem get?_eq_some_iff {d : Dict κ α} {k : κ} {v : α} : d.get? k = some v ↔ (k, v) ∈ d.rows :=
  lookup_eq_some_iff d.distinct

theorem lookup_map (f : α → β) (k : κ) (rows : List (κ × α)) :
    lookup k (rows.map fun r => (r.1, f r.2)) = (lookup k rows).map f := by
  induction rows with
  | nil => rfl
  | cons r rows ih =>
    rw [List.map_cons, lookup, lookup]
    split
    · rfl
    · exact ih

@[simp] theorem get?_map (f : α → β) (d : Dict κ α) (k : κ) :
    (d.map f).get? k = (d.get? k).map f :=
  lookup_map f k d.rows

theorem map_assign (f : α → β) (k : κ) (v : α) (rows : List (κ × α)) :
    (assign k v rows).map (fun r => (r.1, f r.2)) =
      assign k (f v) (rows.map fun r => (r.1, f r.2)) := by
  induction rows with
  | nil => rfl
  | cons r rows ih =>
    simp only [assign, List.map_cons]
    split
    · rfl
    · rw [List.map_cons, ih]

theorem map_insert (f : α → β) (d : Dict κ α) (k : κ) (v : α) :
    (d.insert k v).map f = (d.map f).insert k (f v) :=
  eq_of_rows (map_assign f k v d.rows)

theorem map_foldl_insert (f : α → β) (rows : List (κ × α)) (d : Dict κ α) :
    (rows.foldl (fun d r => d.insert r.1 r.2) d).map f =
      (rows.map fun r => (r.1, f r.2)).foldl (fun d r => d.insert r.1 r.2) (d.map f) := by
  induction rows generalizing d with
  | nil => rfl
  | cons r rows ih =>
    rw [List.map_cons, List.foldl_cons, List.foldl_cons, ih, map_insert]

theorem map_ofList (f : α → β) (rows : List (κ × α)) :
    (ofList rows).map f = ofList (rows.map fun r => (r.1, f r.2)) :=
  map_foldl_insert f rows empty

theorem assign_of_lookup {k : κ} {v : α} {rows : List (κ × α)} (h : lookup k rows = some v) :
    assign k v rows = rows := by
  induction rows with
  | nil => exact absurd h (by simp [lookup])
  | cons r rows ih =>
    obtain ⟨l, w⟩ := r
    rw [assign]
    by_cases hk : l = k
    · rw [lookup, if_pos hk] at h
      cases h
      rw [if_pos hk, hk]
    · rw [lookup, if_neg hk] at h
      rw [if_neg hk, ih h]

theorem insert_of_get? {d : Dict κ α} {k : κ} {v : α} (h : d.get? k = some v) :
    d.insert k v = d :=
  eq_of_rows (assign_of_lookup h)

theorem insert_again (d : Dict κ α) (k : κ) (v : α) : (d.insert k v).insert k v = d.insert k v :=
  insert_of_get? (by rw [get?_insert, if_pos rfl])

theorem isEmpty_assign (k : κ) (v : α) (rows : List (κ × α)) :
    (assign k v rows).isEmpty = false := by
  cases rows with
  | nil => rfl
  | cons r rows =>
    simp only [assign]
    split <;> rfl

@[simp] theorem isEmpty_insert (d : Dict κ α) (k : κ) (v : α) : (d.insert k v).isEmpty = false :=
  isEmpty_assign k v d.rows

theorem isEmpty_foldl_insert (rows : List (κ × α)) (d : Dict κ α) :
    (rows.foldl (fun d r => d.insert r.1 r.2) d).isEmpty = (rows.isEmpty && d.isEmpty) := by
  induction rows generalizing d with
  | nil => rfl
  | cons r rows ih => rw [List.foldl_cons, ih, isEmpty_insert, Bool.and_false, List.isEmpty_cons,
      Bool.false_and]

end Firewall.Dict
