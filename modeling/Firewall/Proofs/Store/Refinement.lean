import Firewall.Proofs.Store.Layout

/-!
A store in a key space that several processes share answers like plain tables, except that it
gives rules back condensed and times without the part below a second.

`Shared.Holds` relates the two: the cells of the store are those of the tables. Every call
answers from the tables and keeps the relation; so does whatever others write outside the
root of the store. The answers to a whole run of calls follow.

Proved here:

* `Shared.call_gives`, `Shared.ask_gives`: a command on a store that holds tables;
* `Shared.append_gives` to `Shared.putDataset_gives`: each of the eleven calls;
* the instance `LawfulStore Shared`: what instances rely on when they share a store;
* `Shared.answers_like_tables`: the answers to any run of calls.
-/

namespace Firewall

/-! ## Calls in sequence -/

theorem Access.map_on {σ α β : Type} (m : Access σ α) (f : α → β) (s : σ) :
    (f <$> m).on s = ((m.on s).1.map f, (m.on s).2) := by
  unfold Access.on
  simp only [Functor.map, ExceptT.map, ExceptT.mk, ExceptT.run, Bind.bind, StateT.bind]
  rcases m s with ⟨e | a, s'⟩ <;> rfl

namespace Access.Gives

variable {σ α β : Type} {Shows : σ → Tables → Prop} {s : σ} {t u : Tables}

theorem map {m : Access σ α} {answer : Except StoreError α} (hm : m.Gives Shows s answer t)
    (f : α → β) : (f <$> m).Gives Shows s (answer.map f) t := by
  unfold Gives
  rw [map_on, hm.1]
  exact ⟨rfl, hm.2⟩

theorem as {m : Access σ α} {answer : Except StoreError α} {f : α → β}
    {reply : Except StoreError β} (hm : m.Gives Shows s answer t) (hr : answer.map f = reply) :
    (f <$> m).Gives Shows s reply t :=
  hr ▸ hm.map f

theorem pure {a : α} (h : Shows s t) : (Pure.pure a : Access σ α).Gives Shows s (.ok a) t :=
  ⟨rfl, h⟩

theorem imp {Shows' : σ → Tables → Prop} {m : Access σ α} {answer : Except StoreError α}
    (hm : m.Gives Shows s answer t) (hs : ∀ s, Shows s t → Shows' s u) :
    m.Gives Shows' s answer u :=
  ⟨hm.1, hs _ hm.2⟩

theorem throw {e : StoreError} (h : Shows s t) :
    (MonadExcept.throw e : Access σ α).Gives Shows s (.error e) t :=
  ⟨rfl, h⟩

theorem bind {m : Access σ α} {f : α → Access σ β} {a : α} {answer : Except StoreError β}
    (hm : m.Gives Shows s (.ok a) t) (hf : ∀ s, Shows s t → (f a).Gives Shows s answer u) :
    (m >>= f).Gives Shows s answer u := by
  obtain ⟨ha, hs⟩ := hm
  have hrun : (m >>= f).on s = (f a).on (m.on s).2 := by
    unfold Access.on at ha ⊢
    simp only [Bind.bind, ExceptT.bind, ExceptT.mk, ExceptT.run, StateT.bind] at ha ⊢
    rcases hr : m s with ⟨r, s'⟩
    rw [hr] at ha
    cases ha
    rfl
  unfold Gives
  rw [hrun]
  exact hf _ hs

end Access.Gives

def Instant.Supported (t : Instant) : Prop := ofParts? t.seconds t.nanos = some t

theorem Instant.Supported.wholeSecond {t : Instant} (h : t.Supported) :
    ofParts? t.seconds 0 = some t.wholeSecond := by
  unfold Supported ofParts? at h
  split at h
  · next hr =>
    unfold ofParts?
    rw [if_pos ⟨hr.1, hr.2.1, Or.inl (by decide)⟩]
    rfl
  · exact absurd h (by simp)

namespace Shared

theorem textRows_map (d : Dict String String) : textRows (d.map Bytes.ofText) = .ok d.rows := by
  unfold textRows Dict.map
  rw [List.mapM_map]
  induction d.rows with
  | nil => rfl
  | cons r rows ih =>
    rw [List.mapM_cons, ih]
    simp [textOf, Bytes.text?_ofText, Except.map, bind, Except.bind, pure, Except.pure]

theorem integerOf_toString (a : Int) : integerOf (Bytes.ofText (toString a)) = .ok a := by
  unfold integerOf
  rw [Keyspace.integer?_toString]

/-- The store works and its cells are those of the tables. -/
structure Holds (root : String) (s : Shared) (t : Tables) : Prop where
  root_eq : s.root = root
  link : s.server.link = Link.sound
  cells : Keyspace.cellAt s.server.keys s.root = t.cell
  dated : ∀ d ∈ t.dataset, d.time.Supported

theorem Holds.empty (root : String) (kept : Option Unit) :
    Holds root ⟨root, kept, ⟨Dict.empty, Link.sound⟩⟩ Tables.empty where
  root_eq := rfl
  link := rfl
  cells := Keyspace.cellAt_empty root
  dated d hd := by cases hd

variable {root : String} {s : Shared} {t u : Tables} {α : Type}

/-- A command that succeeds on the keys of a working store succeeds, whether the connection is
old or new. -/
theorem call_on {f : String → Keyspace → Except StoreFault (α × Keyspace)} {a : α} {k : Keyspace}
    (hl : s.server.link = Link.sound) (hf : f s.root s.server.keys = .ok (a, k)) :
    (call f).on s = (.ok a, { s with kept := some (), server := ⟨k, Link.sound⟩ }) := by
  obtain ⟨root, kept, keys, link⟩ := s
  simp only at hl hf
  subst hl
  cases kept <;>
    simp [call, Access.on, ExceptT.run, Connection.run, Connection.fresh, Connection.once,
      Server.connect, Server.command, Link.sound, hf, Except.mapError]

theorem call_gives (h : Holds root s t) {f : String → Keyspace → Except StoreFault (α × Keyspace)}
    {a : α} {k : Keyspace} (hf : f s.root s.server.keys = .ok (a, k))
    (hc : Keyspace.cellAt k s.root = u.cell) (hd : ∀ d ∈ u.dataset, d.time.Supported) :
    (call f).Gives (Holds root) s (.ok a) u := by
  unfold Access.Gives
  rw [call_on h.link hf]
  exact ⟨rfl, h.root_eq, rfl, hc, hd⟩

theorem ask_gives (h : Holds root s t) {f : String → Keyspace → Except StoreFault α} {a : α}
    (hf : f s.root s.server.keys = .ok a) : (ask f).Gives (Holds root) s (.ok a) t :=
  call_gives h (by rw [hf]; rfl) h.cells h.dated

theorem put_gives (h : Holds root s t) {f : String → Keyspace → Except StoreFault Keyspace}
    {after : Keyspace} (hf : f s.root s.server.keys = .ok after)
    (hc : Keyspace.cellAt after s.root = u.cell) (hd : ∀ d ∈ u.dataset, d.time.Supported) :
    (call fun root k => (f root k).map fun k => ((), k)).Gives (Holds root) s (.ok ()) u :=
  call_gives h (by rw [hf]; rfl) hc hd

theorem texts_of_cell {k : Keyspace} {root : String} {p : Slot} {d : Dict String String}
    (h : Keyspace.cellAt k root p = Cell.ofFields (d.map Bytes.ofText)) :
    (k.fields (p.key root)).bind textRows = .ok d.rows := by
  rw [Keyspace.fields_of_cell h]
  exact textRows_map d

/-! ## The log -/

theorem append_gives (h : Holds root s t) (table : Table) (key : String) :
    (RecordStore.append table key : Access Shared Nat).Gives (Holds root) s (.ok (t.log.length + 1))
      (t.logged table key) := by
  obtain ⟨after, ha, hc⟩ := Keyspace.appendEntry_cellAt h.cells
    (show (entryRows table key).isEmpty = false from rfl)
  refine call_gives (k := after) h ?_ ?_ h.dated
  · simp only [ha, Except.bind]
    rw [if_pos (by omega)]
    rfl
  · rw [hc, Tables.cell_logged]

theorem latest_gives (h : Holds root s t) :
    (RecordStore.latest : Access Shared Nat).Gives (Holds root) s t.head? t := by
  cases hl : t.log.isEmpty with
  | true =>
    refine Access.Gives.bind (a := none) (ask_gives h ?_) fun s hs => ?_
    · rw [Keyspace.get_counter h.cells, hl]
      rfl
    · rw [Tables.head?, if_pos hl]
      exact Access.Gives.throw hs
  | false =>
    have hp : 0 < t.log.length := by
      rw [List.isEmpty_eq_false_iff] at hl
      exact List.length_pos_iff.mpr hl
    refine Access.Gives.bind (a := some (t.log.length : Int)) (ask_gives h ?_) fun s hs => ?_
    · rw [Keyspace.get_counter h.cells, hl]
      show (integerOf (Bytes.ofText (toString t.log.length))).map some = _
      rw [← Text.toString_natCast, integerOf_toString]
      rfl
    · rw [Tables.head?, hl]
      simp only
      rw [if_neg (by omega), if_neg (by omega)]
      exact Access.Gives.pure hs

theorem lookup_table (table key : String) :
    List.lookup "table" [("table", table), ("key", key)] = some table := rfl

theorem lookup_key (table key : String) :
    List.lookup "key" [("table", table), ("key", key)] = some key := rfl

theorem entry_gives (h : Holds root s t) (id : Nat) :
    (RecordStore.entry id : Access Shared LogEntry).Gives (Holds root) s (t.entryAt? id) t := by
  have hc : Keyspace.cellAt s.server.keys s.root (.entry id) =
      Cell.ofFields ((entryTexts (t.entryAt? id)).map Bytes.ofText) := by
    rw [h.cells]
    rfl
  refine Access.Gives.bind (ask_gives h (texts_of_cell hc)) fun s hs => ?_
  unfold Tables.entryAt?
  cases if id = 0 then none else t.log[id - 1]? with
  | none => exact Access.Gives.throw hs
  | some e =>
    simp only [entryTexts]
    rw [show (Dict.ofList [("table", e.1.name), ("key", e.2)]).rows =
      [("table", e.1.name), ("key", e.2)] from rfl]
    simp only [lookup_table, lookup_key, Table.ofName_name]
    exact Access.Gives.pure hs

/-! ## The settings -/

theorem settings_cell (h : Holds root s t) :
    Keyspace.cellAt s.server.keys s.root .settings =
      Cell.ofFields (t.settings.map Bytes.ofText) :=
  congrFun h.cells .settings

theorem settings_gives (h : Holds root s t) :
    (RecordStore.settings : Access Shared (List (String × String))).Gives (Holds root) s
      (.ok t.settings.rows) t :=
  ask_gives h (texts_of_cell (settings_cell h))

theorem setting_gives (h : Holds root s t) (key : String) :
    (RecordStore.setting key : Access Shared String).Gives (Holds root) s (t.setting? key) t := by
  refine Access.Gives.bind (a := t.settings.get? key) (ask_gives h ?_) fun s hs => ?_
  · show (((s.server.keys.fields (Slot.settings.key s.root)).map (·.get? key)).bind
      (optional textOf)) = _
    rw [Keyspace.fields_of_cell (settings_cell h)]
    show optional textOf ((t.settings.map Bytes.ofText).get? key) = _
    rw [Dict.get?_map]
    cases t.settings.get? key with
    | none => rfl
    | some value => simp [optional, textOf, Bytes.text?_ofText, Except.map]
  · unfold Tables.setting?
    cases t.settings.get? key with
    | none => exact Access.Gives.throw hs
    | some value => exact Access.Gives.pure hs

theorem putSetting_gives (h : Holds root s t) (key value : String) :
    (RecordStore.putSetting key value : Access Shared Unit).Gives (Holds root) s (.ok ())
      { t with settings := t.settings.insert key value } := by
  obtain ⟨after, ha, hc⟩ := Keyspace.setFields_cellAt (settings_cell h)
    (show [(key, Bytes.ofText value)].isEmpty = false from rfl)
  refine put_gives h ha ?_ h.dated
  rw [hc, h.cells, Tables.cell_putSetting]
  rfl

/-! ## The country rules -/

theorem rules_gives (h : Holds root s t) :
    (RecordStore.rules : Access Shared (List CountryRule)).Gives (Holds root) s
      (.ok (CountryRule.condensed t.rules)) t := by
  have hc : Keyspace.cellAt s.server.keys s.root .rules =
      Cell.ofFields ((ruleTexts t.rules).map Bytes.ofText) := congrFun h.cells .rules
  refine Access.Gives.bind (ask_gives h (texts_of_cell hc)) fun s hs => ?_
  rw [← rulesOf_countries]
  exact Access.Gives.pure hs

theorem putRules_gives (h : Holds root s t) (rules : List CountryRule) :
    (RecordStore.putRules rules : Access Shared Unit).Gives (Holds root) s (.ok ())
      { t with rules := rules } := by
  obtain ⟨after, ha, hc⟩ := Keyspace.replaceFields_cellAt s.server.keys s.root .rules
    (rules.map fun r => (r.code, flag r.allow))
  refine put_gives h ha ?_ h.dated
  rw [hc, h.cells]
  exact (Tables.cell_putRules t rules).symm

/-! ## The dataset -/

theorem dataset_fields (h : Holds root s t) :
    s.server.keys.fields (datasetKey s.root) = .ok (datasetFields t.dataset) :=
  Keyspace.fields_of_cell (p := .dataset) (congrFun h.cells .dataset)

theorem datasetTime_gives (h : Holds root s t) :
    (RecordStore.datasetTime : Access Shared Instant).Gives (Holds root) s
      (t.dataset?.map fun d => d.time.wholeSecond) t := by
  cases hd : t.dataset with
  | none =>
    refine Access.Gives.bind (a := none) (ask_gives h ?_) fun s hs => ?_
    · unfold Keyspace.field
      rw [dataset_fields h, hd]
      rfl
    · rw [Tables.dataset?, hd]
      exact Access.Gives.throw hs
  | some d =>
    refine Access.Gives.bind (a := some d.time.seconds) (ask_gives h ?_) fun s hs => ?_
    · unfold Keyspace.field
      rw [dataset_fields h, hd]
      show (integerOf (Bytes.ofText (toString d.time.seconds))).map some = _
      rw [integerOf_toString]
      rfl
    · rw [Tables.dataset?, hd]
      show (found .dataset (Instant.ofParts? d.time.seconds 0)).Gives (Holds root) s _ t
      rw [(h.dated d hd).wholeSecond]
      exact Access.Gives.pure hs

theorem dataset_gives (h : Holds root s t) :
    (RecordStore.dataset : Access Shared CachedDataset).Gives (Holds root) s
      (t.dataset?.map fun d => ⟨d.time.wholeSecond, d.bytes⟩) t := by
  cases hd : t.dataset with
  | none =>
    refine Access.Gives.bind (a := (none, none)) (ask_gives h ?_) fun s hs => ?_
    · rw [dataset_fields h, hd]
      rfl
    · rw [Tables.dataset?, hd]
      exact Access.Gives.throw hs
  | some d =>
    refine Access.Gives.bind (a := (some d.time.seconds, some d.bytes)) (ask_gives h ?_)
      fun s hs => ?_
    · rw [dataset_fields h, hd]
      show ((integerOf (Bytes.ofText (toString d.time.seconds))).map some).bind _ = _
      rw [integerOf_toString]
      rfl
    · rw [Tables.dataset?, hd]
      simp only [momentOf, Option.bind_some]
      rw [(h.dated d hd).wholeSecond]
      exact Access.Gives.pure hs

theorem putDataset_gives (h : Holds root s t) {time : Instant} (ht : time.Supported)
    (bytes : Bytes) :
    (RecordStore.putDataset time bytes : Access Shared Unit).Gives (Holds root) s (.ok ())
      { t with dataset := some ⟨time, bytes⟩ } := by
  obtain ⟨after, ha, hc⟩ := Keyspace.setFields_cellAt (p := .dataset)
    (congrFun h.cells .dataset) (show [("timestamp", Bytes.ofText (toString time.seconds)),
      ("source", bytes)].isEmpty = false from rfl)
  refine put_gives h ha ?_ ?_
  · rw [hc, h.cells, Tables.cell_putDataset]
    cases t.dataset <;> rfl
  · intro d hd
    cases hd
    exact ht

/-! ## What instances rely on -/

/-- A shared store shows the tables it holds, with the rules as it gives them back. -/
def Shows (s : Shared) (t : Tables) : Prop :=
  ∃ root u, Holds root s u ∧ t = { u with rules := CountryRule.condensed u.rules }

theorem Holds.shows {root : String} {s : Shared} {u : Tables} (h : Holds root s u) :
    Shows s { u with rules := CountryRule.condensed u.rules } :=
  ⟨root, u, h, rfl⟩

instance : LawfulStore Shared where
  Shows := Shows
  append table key := by
    rintro ⟨root, u, h, rfl⟩
    exact (append_gives h table key).imp fun s => Holds.shows
  latest := @fun _ _ => by
    rintro ⟨root, u, h, rfl⟩
    exact (latest_gives h).imp fun s => Holds.shows
  entry id := by
    rintro ⟨root, u, h, rfl⟩
    exact (entry_gives h id).imp fun s => Holds.shows
  settings := @fun _ _ => by
    rintro ⟨root, u, h, rfl⟩
    exact (settings_gives h).imp fun s => Holds.shows
  setting key := by
    rintro ⟨root, u, h, rfl⟩
    exact (setting_gives h key).imp fun s => Holds.shows
  putSetting key value := by
    rintro ⟨root, u, h, rfl⟩
    exact (putSetting_gives h key value).imp fun s => Holds.shows
  rules := @fun _ _ => by
    rintro ⟨root, u, h, rfl⟩
    exact (rules_gives h).imp fun s => Holds.shows
  putRules rules := by
    rintro ⟨root, u, h, rfl⟩
    exact ⟨CountryRule.condensed rules, sameRules_condensed rules,
      (putRules_gives h rules).imp fun s => Holds.shows⟩

end Shared

/-! ## Runs -/

abbrev SupportedInstant := { t : Instant // t.Supported }

namespace RecordStore

inductive Call
  | append (table : Table) (key : String)
  | latest
  | entry (id : Nat)
  | settings
  | setting (key : String)
  | putSetting (key value : String)
  | rules
  | putRules (rules : List CountryRule)
  | datasetTime
  | dataset
  | putDataset (time : SupportedInstant) (bytes : Bytes)

inductive Answer
  | number (n : Nat)
  | entry (e : LogEntry)
  | settings (rows : List (String × String))
  | value (text : String)
  | rules (rules : List CountryRule)
  | time (t : Instant)
  | dataset (d : CachedDataset)
  | done
  deriving DecidableEq, Repr

/-- An answer without what a shared store does not keep: rules that later rules of the same
country undo, their order, and the part of a time below a second. -/
def Answer.condensed : Answer → Answer
  | rules rs => rules (CountryRule.condensed rs)
  | time t => time t.wholeSecond
  | dataset d => dataset ⟨d.time.wholeSecond, d.bytes⟩
  | answer => answer

theorem Answer.map_plain {α : Type} {f : α → Answer} (hf : ∀ a, (f a).condensed = f a)
    (answer : Except StoreError α) : answer.map f = (answer.map f).map condensed := by
  cases answer with
  | error e => rfl
  | ok a => exact congrArg Except.ok (hf a).symm

def Call.make {σ : Type} [RecordStore σ] : Call → Access σ Answer
  | append table key => Answer.number <$> RecordStore.append table key
  | latest => Answer.number <$> RecordStore.latest
  | entry id => Answer.entry <$> RecordStore.entry id
  | settings => Answer.settings <$> RecordStore.settings
  | setting key => Answer.value <$> RecordStore.setting key
  | putSetting key value => (fun _ => Answer.done) <$> RecordStore.putSetting key value
  | rules => Answer.rules <$> RecordStore.rules
  | putRules rs => (fun _ => Answer.done) <$> RecordStore.putRules rs
  | datasetTime => Answer.time <$> RecordStore.datasetTime
  | dataset => Answer.dataset <$> RecordStore.dataset
  | putDataset time bytes => (fun _ => Answer.done) <$> RecordStore.putDataset time.1 bytes

/-- What happens to a store in a key space of several: a call, or something that others put at
a key outside the root, or take away from there. -/
inductive Event (root : String)
  | call (c : Call)
  | others (key : String) (cell : Option Cell) (outside : ∀ rest, key ≠ root ++ rest)

/-- The answers to the calls of a run, where `others` says what the store sees of the rest. -/
def answers {σ : Type} [RecordStore σ] {root : String} (others : String → Option Cell → σ → σ) :
    List (Event root) → σ → List (Except StoreError Answer)
  | [], _ => []
  | .call c :: events, s => (c.make.on s).1 :: answers others events (c.make.on s).2
  | .others key cell _ :: events, s => answers others events (others key cell s)

end RecordStore

open RecordStore

/-- Plain tables are in nobody else's reach. -/
def Tables.undisturbed (_ : String) (_ : Option Cell) (t : Tables) : Tables := t

namespace Shared

def overwritten (key : String) (cell : Option Cell) (s : Shared) : Shared :=
  { s with server := { s.server with keys := s.server.keys.overwrite key cell } }

/-- **Each call answers like the tables**, condensed, and keeps the two together. -/
theorem make_gives {root : String} {s : Shared} {t : Tables} (h : Holds root s t) (c : Call) :
    (c.make : Access Shared Answer).Gives (Holds root) s
      ((c.make.on t).1.map Answer.condensed) (c.make.on t).2 := by
  cases c <;> simp only [Call.make, Access.map_on]
  case append table key => exact (append_gives h table key).map _
  case latest => exact (latest_gives h).as (Answer.map_plain (fun _ => rfl) t.head?)
  case entry id => exact (entry_gives h id).as (Answer.map_plain (fun _ => rfl) (t.entryAt? id))
  case settings => exact (settings_gives h).map _
  case setting key =>
    exact (setting_gives h key).as (Answer.map_plain (fun _ => rfl) (t.setting? key))
  case putSetting key value => exact (putSetting_gives h key value).map _
  case rules => exact (rules_gives h).map _
  case putRules rules => exact (putRules_gives h rules).map _
  case datasetTime =>
    refine (datasetTime_gives h).as ?_
    show _ = ((t.dataset?.map (·.time)).map Answer.time).map Answer.condensed
    cases t.dataset? <;> rfl
  case dataset =>
    refine (dataset_gives h).as ?_
    show _ = (t.dataset?.map Answer.dataset).map Answer.condensed
    cases t.dataset? <;> rfl
  case putDataset time bytes => exact (putDataset_gives h time.2 bytes).map _

theorem Holds.overwritten {root : String} {s : Shared} {t : Tables} (h : Holds root s t)
    {key : String} (ho : ∀ rest, key ≠ root ++ rest) (cell : Option Cell) :
    Holds root (s.overwritten key cell) t where
  root_eq := h.root_eq
  link := h.link
  cells := by
    rw [← h.root_eq] at ho
    rw [← h.cells]
    exact Keyspace.cellAt_overwrite ho s.server.keys cell
  dated := h.dated

theorem answers_of_holds {root : String} (events : List (Event root)) {s : Shared} {t : Tables}
    (h : Holds root s t) :
    answers overwritten events s =
      (answers Tables.undisturbed events t).map (·.map Answer.condensed) := by
  induction events generalizing s t with
  | nil => rfl
  | cons event events ih =>
    cases event with
    | call c =>
      obtain ⟨ha, hs⟩ := make_gives h c
      rw [answers, answers, List.map_cons, ha, ih hs]
    | others key cell outside =>
      rw [answers, answers]
      exact ih (h.overwritten outside cell)

/-- **A shared store answers like plain tables.** -/
theorem answers_like_tables (root : String) (kept : Option Unit) (events : List (Event root)) :
    answers overwritten events ⟨root, kept, ⟨Dict.empty, Link.sound⟩⟩ =
      (answers Tables.undisturbed events Tables.empty).map (·.map Answer.condensed) :=
  answers_of_holds events (.empty root kept)

end Shared

end Firewall
