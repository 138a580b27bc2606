import Firewall.Proofs.Store.Condensed
import Firewall.Proofs.Text.Numeral
import Firewall.Proofs.Text.Utf8
import Mathlib.Logic.Function.Basic

/-!
How a shared store lays its records out over keys: one key for the counter of the log, one
for each entry, and one each for the settings, the country rules and the cached dataset.
`Tables.cell` says what each key holds for given tables.

Proved here:

* `Slot.key_injective`: under one root no two records share a key;
* `Bytes.text?_ofText`, `integer?_toString`: texts and numbers are read back from their bytes;
* `cellAt_insert`, `cellAt_erase`, `cellAt_overwrite`: a command changes the record in its own
  slot only, and keys outside the root hold no records;
* `cell_logged`, `cell_putSetting`, `cell_putRules`, `cell_putDataset`: what each change of the
  tables does to the cells.
-/

namespace Firewall

/-! ## Values as bytes -/

/-- **A text is read back from its bytes.** -/
theorem Bytes.text?_ofText (s : String) : (Bytes.ofText s).text? = some s := by
  rw [Bytes.text?, Bytes.ofText, Text.Utf8.decode?_encode, Option.map_some, String.ofList_toList]

namespace Keyspace

/-- **A whole number is read back from the bytes of its text.** -/
theorem integer?_toString (a : Int) : integer? (Bytes.ofText (toString a)) = some a := by
  unfold integer?
  rw [Bytes.text?_ofText, Option.map_some, Text.toString_int]
  by_cases h : 0 ≤ a
  · have hn : ((a.toNat : Nat) : Int) = a := Int.toNat_of_nonneg h
    rw [if_pos h]
    split
    · next hs => exact absurd (Option.some.inj hs) (Text.toString_unsigned _ _).1
    · next hs => exact absurd (Option.some.inj hs) (Text.toString_unsigned _ _).2
    · next hs =>
      rw [← Option.some.inj hs, Text.decimal?_toString]
      exact congrArg some hn
    · next hs => exact absurd hs (by simp)
  · have hn : -(((-a).toNat : Nat) : Int) = a := by omega
    rw [if_neg h]
    simp only [Text.decimal?_toString]
    exact congrArg some hn

end Keyspace

/-! ## Slots -/

/-- The slots in which a shared store keeps its records. -/
inductive Slot
  | counter
  | entry (id : Nat)
  | settings
  | rules
  | dataset
  deriving DecidableEq, Repr

namespace Slot

/-- What the key of a slot adds to the root. -/
def name : Slot → String
  | counter => "changelog:seq"
  | entry id => "changelog:" ++ toString id
  | settings => "config"
  | rules => "geoip:countries"
  | dataset => "geoip:source"

def key (root : String) (p : Slot) : String := root ++ p.name

theorem toString_injective {a b : Nat} (h : toString a = toString b) : a = b := by
  have ha := Text.decimal?_toString a
  rw [h, Text.decimal?_toString] at ha
  exact (Option.some.inj ha).symm

theorem append_left_cancel {r a b : String} (h : r ++ a = r ++ b) : a = b := by
  have hl := congrArg String.toList h
  rw [String.toList_append, String.toList_append] at hl
  exact String.toList_inj.mp (List.append_cancel_left hl)

/-- The number of an entry is not the name of the counter. -/
theorem toString_ne_seq (id : Nat) : toString id ≠ "seq" := by
  intro h
  have hd := Text.isDigit_toString (n := id) (c := 's') (by rw [h]; decide)
  exact absurd hd (by decide)

theorem second_ne {a b : String} (h : a.toList[1]? ≠ b.toList[1]?) : a ≠ b := by
  rintro rfl
  exact h rfl

theorem second_entry (id : Nat) : (entry id).name.toList[1]? = some 'h' := by
  rw [name, String.toList_append]
  rfl

theorem name_injective {p q : Slot} (h : p.name = q.name) : p = q := by
  cases p <;> cases q
  case entry.entry a b => exact congrArg entry (toString_injective (append_left_cancel h))
  case counter.entry id =>
    exact absurd (append_left_cancel (r := "changelog:") h).symm (toString_ne_seq id)
  case entry.counter id =>
    exact absurd (append_left_cancel (r := "changelog:") h) (toString_ne_seq id)
  all_goals first
    | rfl
    | exact absurd h (by decide)
    | exact absurd h (second_ne (by rw [second_entry]; decide))

/-- **No two records share a key.** -/
theorem key_injective {root : String} {p q : Slot} (h : p.key root = q.key root) : p = q :=
  name_injective (append_left_cancel h)

theorem key_entry (root : String) (id : Nat) :
    Shared.entryRoot root ++ toString id = (entry id).key root := by
  rw [Shared.entryRoot, String.append_assoc]
  rfl

end Slot

/-! ## Cells -/

/-- A hash with given fields; without fields there is none. -/
def Cell.ofFields (d : Dict String Bytes) : Option Cell :=
  if d.isEmpty then none else some (.hash d)

def entryTexts : Except StoreError LogEntry → Dict String String
  | .ok e => .ofList [("table", e.table.name), ("key", e.key)]
  | .error _ => .empty

/-- The fields of country rules: what the last rule of each country says. -/
def ruleTexts (rules : List CountryRule) : Dict String String :=
  (Geo.CountryTable.ofRules rules).countries.map Shared.mark

def datasetFields : Option CachedDataset → Dict String Bytes
  | some d => .ofList [("timestamp", Bytes.ofText (toString d.time.seconds)), ("source", d.bytes)]
  | none => .empty

/-- What a shared store that holds the tables keeps in each slot. -/
def Tables.cell (t : Tables) : Slot → Option Cell
  | .counter =>
    if t.log.isEmpty then none else some (.text (Bytes.ofText (toString t.log.length)))
  | .entry id => Cell.ofFields ((entryTexts (t.entryAt? id)).map Bytes.ofText)
  | .settings => Cell.ofFields (t.settings.map Bytes.ofText)
  | .rules => Cell.ofFields ((ruleTexts t.rules).map Bytes.ofText)
  | .dataset => Cell.ofFields (datasetFields t.dataset)

namespace Keyspace

/-- What the keys of a root hold, slot by slot. -/
def cellAt (k : Keyspace) (root : String) : Slot → Option Cell := fun p => k.get? (p.key root)

theorem cellAt_empty (root : String) : cellAt Dict.empty root = Tables.empty.cell := by
  funext p
  cases p with
  | entry id =>
    have h : Tables.empty.entryAt? id = .error (.absent (.logEntry id)) := by
      unfold Tables.entryAt? Tables.empty
      split <;> simp_all
    rw [Tables.cell, h]
    rfl
  | _ => rfl

theorem cellAt_eq_update {k after : Keyspace} {root : String} {p : Slot} {c : Option Cell}
    (h : ∀ x, after.get? x = if x = p.key root then c else k.get? x) :
    cellAt after root = Function.update (cellAt k root) p c := by
  funext q
  unfold cellAt
  rw [h, Function.update_apply]
  by_cases hq : q = p
  · rw [if_pos hq, if_pos (congrArg _ hq)]
  · rw [if_neg hq, if_neg fun hk => hq (Slot.key_injective hk)]

theorem cellAt_insert (k : Keyspace) (root : String) (p : Slot) (c : Cell) :
    cellAt (k.insert (p.key root) c) root = Function.update (cellAt k root) p (some c) :=
  cellAt_eq_update fun x => Dict.get?_insert k (p.key root) x c

theorem cellAt_erase (k : Keyspace) (root : String) (p : Slot) :
    cellAt (k.erase (p.key root)) root = Function.update (cellAt k root) p none :=
  cellAt_eq_update fun x => Dict.get?_erase k (p.key root) x

/-- The key space after somebody else has put something at a key, or taken it away. -/
def overwrite (k : Keyspace) (key : String) : Option Cell → Keyspace
  | some c => k.insert key c
  | none => k.erase key

theorem cellAt_overwrite {root key : String} (h : ∀ rest, key ≠ root ++ rest) (k : Keyspace)
    (c : Option Cell) : cellAt (k.overwrite key c) root = cellAt k root := by
  funext p
  have hp : p.key root ≠ key := fun hk => h p.name hk.symm
  unfold cellAt
  cases c with
  | some c => rw [overwrite, Dict.get?_insert, if_neg hp]
  | none => rw [overwrite, Dict.get?_erase, if_neg hp]

end Keyspace

/-! ## Commands -/

namespace Keyspace

variable {k : Keyspace} {root : String} {p : Slot} {d : Dict String Bytes}
  {rows : List (String × Bytes)}

theorem fields_of_cell (h : cellAt k root p = Cell.ofFields d) :
    k.fields (p.key root) = .ok d := by
  unfold cellAt at h
  unfold fields
  rw [h, Cell.ofFields]
  cases he : d.isEmpty with
  | true => rw [Dict.eq_empty_of_isEmpty he]; rfl
  | false => rfl

theorem setFields_cellAt (h : cellAt k root p = Cell.ofFields d) (hr : rows.isEmpty = false) :
    ∃ after, k.setFields (p.key root) rows = .ok after ∧
      cellAt after root = Function.update (cellAt k root) p
        (Cell.ofFields (rows.foldl (fun d r => d.insert r.1 r.2) d)) := by
  unfold setFields
  rw [fields_of_cell h]
  refine ⟨_, rfl, ?_⟩
  rw [cellAt_insert, Cell.ofFields, Dict.isEmpty_foldl_insert, hr]
  rfl

theorem replaceFields_cellAt (k : Keyspace) (root : String) (p : Slot)
    (rows : List (String × Bytes)) :
    ∃ after, k.replaceFields (p.key root) rows = .ok after ∧
      cellAt after root = Function.update (cellAt k root) p (Cell.ofFields (.ofList rows)) := by
  have hcleared : cellAt (k.erase (p.key root)) root p = Cell.ofFields .empty := by
    rw [cellAt_erase, Function.update_self]
    rfl
  unfold replaceFields
  cases hr : rows.isEmpty with
  | true =>
    rw [List.isEmpty_iff.mp hr]
    exact ⟨_, rfl, cellAt_erase k root p⟩
  | false =>
    obtain ⟨after, ha, hc⟩ := setFields_cellAt hcleared hr
    refine ⟨after, ha, ?_⟩
    rw [hc, cellAt_erase, Function.update_idem]
    rfl

theorem get_counter {t : Tables} (h : cellAt k root = t.cell) :
    k.get (Shared.counterKey root) = .ok
      (if t.log.isEmpty then none else some (Bytes.ofText (toString t.log.length))) := by
  have hc : k.get? (Shared.counterKey root) = t.cell .counter := congrFun h .counter
  unfold get
  rw [hc, Tables.cell]
  cases t.log.isEmpty <;> rfl

/-- **Appending** gives the number after the last one, and writes the entry and the counter. -/
theorem appendEntry_cellAt {t : Tables} (h : cellAt k root = t.cell)
    (hr : rows.isEmpty = false) :
    ∃ after,
      k.appendEntry (Shared.counterKey root) (Shared.entryRoot root) rows =
        .ok ((t.log.length : Int) + 1, after) ∧
      cellAt after root =
        Function.update
          (Function.update t.cell (.entry (t.log.length + 1)) (Cell.ofFields (.ofList rows)))
          .counter (some (.text (Bytes.ofText (toString (t.log.length + 1))))) := by
  have hn : integer? ((if t.log.isEmpty then none
      else some (Bytes.ofText (toString t.log.length))).getD (Bytes.ofText "0")) =
        some (t.log.length : Int) := by
    cases hl : t.log with
    | nil => exact integer?_toString 0
    | cons e rest => exact integer?_toString ((e :: rest).length : Int)
  have hentry : cellAt k root (.entry (t.log.length + 1)) = Cell.ofFields .empty := by
    rw [h, Tables.cell, Tables.entryAt?]
    simp [entryTexts]
  have hnext : toString ((t.log.length : Int) + 1) = toString (t.log.length + 1) :=
    Text.toString_natCast (t.log.length + 1)
  obtain ⟨after, ha, hc⟩ := setFields_cellAt hentry hr
  unfold appendEntry
  rw [get_counter h]
  simp only [hn, hnext]
  rw [Slot.key_entry, ha]
  refine ⟨_, rfl, ?_⟩
  rw [set, show Shared.counterKey root = Slot.counter.key root from rfl, cellAt_insert, hc, h]
  rfl

end Keyspace

/-! ## Changes of the tables -/

namespace Tables

theorem entryAt?_logged (t : Tables) (table : Table) (key : String) (id : Nat) :
    (t.logged table key).entryAt? id =
      if id = t.log.length + 1 then .ok ⟨id, table, key⟩ else t.entryAt? id := by
  cases id with
  | zero => simp [entryAt?]
  | succ n =>
    simp only [entryAt?, logged, Nat.add_one_ne_zero, if_false, Nat.add_sub_cancel]
    rcases Nat.lt_trichotomy n t.log.length with h | h | h
    · rw [List.getElem?_append_left h, if_neg (by omega)]
    · subst h
      simp
    · rw [List.getElem?_eq_none (by simp; omega), List.getElem?_eq_none (by omega),
        if_neg (by omega)]

/-- A new entry changes its own cell and the counter. -/
theorem cell_logged (t : Tables) (table : Table) (key : String) :
    (t.logged table key).cell =
      Function.update
        (Function.update t.cell (.entry (t.log.length + 1))
          (Cell.ofFields (.ofList (Shared.entryRows table key))))
        .counter (some (.text (Bytes.ofText (toString (t.log.length + 1))))) := by
  funext p
  cases p with
  | counter => simp [cell, logged]
  | entry id =>
    rw [Function.update_of_ne (by simp), Function.update_apply, cell, entryAt?_logged]
    by_cases h : id = t.log.length + 1
    · rw [if_pos h, if_pos (congrArg _ h)]
      rfl
    · rw [if_neg h, if_neg fun he => h (Slot.entry.inj he)]
      rfl
  | settings => rfl
  | rules => rfl
  | dataset => rfl

theorem cell_putSetting (t : Tables) (key value : String) :
    { t with settings := t.settings.insert key value }.cell =
      Function.update t.cell .settings
        (Cell.ofFields ((t.settings.map Bytes.ofText).insert key (Bytes.ofText value))) := by
  funext p
  cases p with
  | settings => simp [cell, Dict.map_insert]
  | _ => rfl

theorem cell_putRules (t : Tables) (rules : List CountryRule) :
    { t with rules := rules }.cell =
      Function.update t.cell .rules
        (Cell.ofFields (.ofList (rules.map fun r => (r.code, Shared.flag r.allow)))) := by
  have hd : (ruleTexts rules).map Bytes.ofText =
      .ofList (rules.map fun r => (r.code, Shared.flag r.allow)) := by
    unfold ruleTexts Geo.CountryTable.ofRules
    rw [Dict.map_ofList, Dict.map_ofList, List.map_map, List.map_map]
    rfl
  funext p
  cases p with
  | rules => simp [cell, hd]
  | _ => rfl

theorem cell_putDataset (t : Tables) (d : CachedDataset) :
    { t with dataset := some d }.cell =
      Function.update t.cell .dataset (Cell.ofFields (datasetFields (some d))) := by
  funext p
  cases p with
  | dataset => simp [cell]
  | _ => rfl

end Tables

end Firewall
