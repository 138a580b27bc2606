/-!
Dictionaries: one value for each key, in the order in which the keys first came
in. `get?_insert` and `get?_erase` say what each operation does to every key.
-/

namespace Firewall

/-- Rows with distinct keys. -/
structure Dict (κ : Type) (α : Type) where
  rows : List (κ × α)
  distinct : (rows.map Prod.fst).Nodup

namespace Dict

variable {κ α : Type}

def empty : Dict κ α := ⟨[], by simp⟩

instance : Inhabited (Dict κ α) := ⟨empty⟩

instance [Repr κ] [Repr α] : Repr (Dict κ α) := ⟨fun d n => reprPrec d.rows n⟩

instance [DecidableEq κ] [DecidableEq α] : DecidableEq (Dict κ α) := fun a b =>
  match a, b with
  | ⟨x, _⟩, ⟨y, _⟩ =>
    if h : x = y then isTrue (by subst h; rfl) else isFalse (by intro e; cases e; exact h rfl)

section

variable [DecidableEq κ]

/-- The value in the first row with a key. -/
def lookup (k : κ) : List (κ × α) → Option α
  | [] => none
  | r :: rs => if r.1 = k then some r.2 else lookup k rs

/-- Gives a key a value: in its row if it has one, else in a new last row. -/
def assign (k : κ) (v : α) : List (κ × α) → List (κ × α)
  | [] => [(k, v)]
  | r :: rs => if r.1 = k then (k, v) :: rs else r :: assign k v rs

def without (k : κ) : List (κ × α) → List (κ × α)
  | [] => []
  | r :: rs => if r.1 = k then without k rs else r :: without k rs

theorem mem_keys_assign {k x : κ} {v : α} {rs : List (κ × α)} :
    x ∈ (assign k v rs).map Prod.fst ↔ x = k ∨ x ∈ rs.map Prod.fst := by
  induction rs with
  | nil => simp [assign]
  | cons r rs ih =>
    simp only [assign]
    split
    · next h => subst h; simp
    · simp only [List.map_cons, List.mem_cons, ih]
      exact or_left_comm

theorem nodup_assign {k : κ} {v : α} {rs : List (κ × α)} (h : (rs.map Prod.fst).Nodup) :
    ((assign k v rs).map Prod.fst).Nodup := by
  induction rs with
  | nil => simp [assign]
  | cons r rs ih =>
    simp only [List.map_cons, List.nodup_cons] at h
    simp only [assign]
    split
    · next hk => subst hk; simpa using h
    · next hk =>
      simp only [List.map_cons, List.nodup_cons]
      refine ⟨?_, ih h.2⟩
      rw [mem_keys_assign]
      rintro (e | e)
      · exact hk e
      · exact h.1 e

theorem lookup_assign (k x : κ) (v : α) (rs : List (κ × α)) :
    lookup x (assign k v rs) = if x = k then some v else lookup x rs := by
  induction rs with
  | nil => simp [assign, lookup, eq_comm]
  | cons r rs ih => grind [assign, lookup]

theorem lookup_without (k x : κ) (rs : List (κ × α)) :
    lookup x (without k rs) = if x = k then none else lookup x rs := by
  induction rs with
  | nil => simp [without, lookup]
  | cons r rs ih => grind [without, lookup]

theorem without_sublist (k : κ) (rs : List (κ × α)) : (without k rs).Sublist rs := by
  induction rs with
  | nil => simp [without]
  | cons r rs ih =>
    simp only [without]
    split
    · exact ih.cons r
    · exact ih.cons_cons r

def get? (d : Dict κ α) (k : κ) : Option α := lookup k d.rows

def contains (d : Dict κ α) (k : κ) : Bool := (d.get? k).isSome

/-- Gives a key a value; a key that had one keeps its place. -/
def insert (d : Dict κ α) (k : κ) (v : α) : Dict κ α :=
  ⟨assign k v d.rows, nodup_assign d.distinct⟩

def erase (d : Dict κ α) (k : κ) : Dict κ α :=
  ⟨without k d.rows, d.distinct.sublist ((without_sublist k d.rows).map _)⟩

/-- The dictionary of a list of rows; the last row of a key counts. -/
def ofList (rs : List (κ × α)) : Dict κ α := rs.foldl (fun d r => d.insert r.1 r.2) empty

def keys (d : Dict κ α) : List κ := d.rows.map Prod.fst

def isEmpty (d : Dict κ α) : Bool := d.rows.isEmpty

@[simp] theorem get?_empty (k : κ) : (empty : Dict κ α).get? k = none := rfl

@[simp] theorem get?_insert (d : Dict κ α) (k x : κ) (v : α) :
    (d.insert k v).get? x = if x = k then some v else d.get? x :=
  lookup_assign k x v d.rows

@[simp] theorem get?_erase (d : Dict κ α) (k x : κ) :
    (d.erase k).get? x = if x = k then none else d.get? x :=
  lookup_without k x d.rows

theorem mem_keys_insert {d : Dict κ α} {k x : κ} {v : α} :
    x ∈ (d.insert k v).keys ↔ x = k ∨ x ∈ d.keys :=
  mem_keys_assign

end

end Dict

end Firewall
