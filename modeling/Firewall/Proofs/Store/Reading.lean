import Firewall.Proofs.Store.Script

/-!
What the calls on a shared store leave of its keys, whatever happens to its connection: a call
may be lost, run, or run twice. Reading calls leave every key as it was. Keeping a dataset
changes one key, and running it twice comes to the same as running it once.

Proved here:

* `Connection.run_keeps`: what every try of an operation keeps, a call keeps;
* `Shared.reads_latest` to `Shared.reads_dataset`: calls that leave all keys alone, and whose
  answers depend on nothing else where the way to the server is sound;
* `Keyspace.setFields_again`: giving fields the values that they have changes nothing;
* `Shared.putDataset_leaves`: the only key that keeping a dataset changes.
-/

namespace Firewall

namespace Dict

variable {κ α : Type} [DecidableEq κ]

theorem foldl_insert_self {rows : List (κ × α)} {d : Dict κ α}
    (h : ∀ r ∈ rows, d.get? r.1 = some r.2) :
    rows.foldl (fun d r => d.insert r.1 r.2) d = d := by
  induction rows with
  | nil => rfl
  | cons r rows ih =>
    rw [List.foldl_cons, insert_of_get? (h r List.mem_cons_self)]
    exact ih fun x hx => h x (List.mem_cons_of_mem r hx)

theorem get?_foldl_insert_of_not_mem {rows : List (κ × α)} {k : κ}
    (h : k ∉ rows.map Prod.fst) (d : Dict κ α) :
    (rows.foldl (fun d r => d.insert r.1 r.2) d).get? k = d.get? k := by
  induction rows generalizing d with
  | nil => rfl
  | cons r rows ih =>
    rw [List.map_cons, List.mem_cons, not_or] at h
    rw [List.foldl_cons, ih h.2, get?_insert, if_neg h.1]

theorem get?_foldl_insert {rows : List (κ × α)} (hrows : (rows.map Prod.fst).Nodup)
    (d : Dict κ α) {r : κ × α} (hr : r ∈ rows) :
    (rows.foldl (fun d r => d.insert r.1 r.2) d).get? r.1 = some r.2 := by
  induction rows generalizing d with
  | nil => exact absurd hr List.not_mem_nil
  | cons x rows ih =>
    rw [List.map_cons, List.nodup_cons] at hrows
    rw [List.foldl_cons]
    rcases List.mem_cons.mp hr with rfl | hr
    · rw [get?_foldl_insert_of_not_mem hrows.1, get?_insert, if_pos rfl]
    · exact ih hrows.2 _ hr

end Dict

/-- **Giving fields the values that they have** changes nothing. -/
theorem Keyspace.setFields_again {k l : Keyspace} {key : String} {rows : List (String × Bytes)}
    (hrows : (rows.map Prod.fst).Nodup) (h : k.setFields key rows = .ok l) :
    l.setFields key rows = .ok l := by
  unfold setFields at h
  cases hf : k.fields key with
  | error e =>
    rw [hf] at h
    cases h
  | ok fields =>
    rw [hf] at h
    cases h
    unfold setFields Keyspace.fields
    rw [Dict.get?_insert, if_pos rfl]
    simp only
    rw [Dict.foldl_insert_self fun r hr => Dict.get?_foldl_insert hrows fields hr,
      Dict.insert_again]

theorem Keyspace.setFields_get? {k l : Keyspace} {key : String} {rows : List (String × Bytes)}
    (h : k.setFields key rows = .ok l) {other : String} (ho : other ≠ key) :
    l.get? other = k.get? other := by
  unfold setFields at h
  split at h
  · cases h
  · cases h
    rw [Dict.get?_insert, if_neg ho]

/-! ## Calls -/

namespace Connection

variable {γ σ α : Type} {opening : Opening γ σ} {op : Operation γ σ α} {P : σ → Prop}

theorem fresh_keeps (hopen : ∀ s, P s → P (opening s).2) (hop : ∀ c s, P s → P (op c s).2)
    {s : σ} (hs : P s) : P (fresh opening op s).state := by
  unfold fresh
  have ho := hopen s hs
  rcases hc : opening s with ⟨e | c, s'⟩
  · rw [hc] at ho
    exact ho
  · rw [hc] at ho
    have hrun := hop c s' ho
    simp only [once]
    rcases hr : op c s' with ⟨e | a, t⟩ <;> rw [hr] at hrun <;> exact hrun

/-- **What every try of an operation keeps**, a call keeps, however often it tries. -/
theorem run_keeps (hopen : ∀ s, P s → P (opening s).2) (hop : ∀ c s, P s → P (op c s).2)
    (kept : Option γ) {s : σ} (hs : P s) : P (run opening op kept s).state := by
  unfold run
  cases kept with
  | none => exact fresh_keeps hopen hop hs
  | some c =>
    have hrun := hop c s hs
    rcases hc : op c s with ⟨e | a, t⟩
    · rw [hc] at hrun
      by_cases hl : e.isLoss = true
      · simp only [hc, if_pos hl]
        exact fresh_keeps hopen hop hrun
      · simp only [hc, if_neg hl]
        exact hrun
    · rw [hc] at hrun
      simp only [hc]
      exact hrun

end Connection

theorem Access.bind_on {σ α β : Type} (m : Access σ α) (f : α → Access σ β) (s : σ) :
    (m >>= f).on s = match m.on s with
      | (.ok a, s) => (f a).on s
      | (.error e, s) => (.error e, s) := by
  unfold Access.on
  simp only [Bind.bind, ExceptT.bind, ExceptT.mk, ExceptT.run, StateT.bind]
  rcases m s with ⟨e | a, s⟩ <;> rfl

namespace Shared

variable {α β : Type}

/-- A try of a command leaves the keys as they were, or as the command leaves them. -/
theorem command_leaves (f : Keyspace → Except StoreFault (α × Keyspace)) (v : Server) :
    (Server.command f v).2.keys = v.keys ∨
      ∃ a, f v.keys = .ok (a, (Server.command f v).2.keys) := by
  obtain ⟨keys, openings, lasting, mishaps⟩ := v
  unfold Server.command
  cases hf : f keys with
  | error e =>
    refine Or.inl ?_
    rcases mishaps with _ | ⟨_ | _ | _, ms⟩ <;> simp
  | ok r =>
    obtain ⟨a, after⟩ := r
    rcases mishaps with _ | ⟨_ | _ | _, ms⟩ <;> simp

/-- **What a call leaves**: anything that holds of the keys and outlasts every run of the command
holds still. -/
theorem call_keeps {f : String → Keyspace → Except StoreFault (α × Keyspace)} {s : Shared}
    {P : Keyspace → Prop} (hf : ∀ k a l, P k → f s.root k = .ok (a, l) → P l)
    (hs : P s.server.keys) :
    ((call f).on s).2.root = s.root ∧ P ((call f).on s).2.server.keys := by
  refine ⟨rfl, Connection.run_keeps (P := fun v : Server => P v.keys) ?_ ?_ s.kept hs⟩
  · intro v hv
    rwa [connect_keys]
  · intro _ v hv
    rcases command_leaves (f s.root) v with h | ⟨a, ha⟩
    · rwa [h]
    · exact hf _ a _ hv ha

/-- Over a sound way to the server a call gives what its command gives, and the way stays sound. -/
theorem call_sound {f : String → Keyspace → Except StoreFault (α × Keyspace)} {s : Shared}
    (hs : s.server.link = Link.sound) :
    ((call f).on s).1 = ((f s.root s.server.keys).map Prod.fst).mapError .fault ∧
      ((call f).on s).2.server.link = Link.sound := by
  cases hf : f s.root s.server.keys with
  | ok r =>
    rw [call_on hs hf]
    exact ⟨rfl, rfl⟩
  | error e =>
    obtain ⟨root, kept, keys, link⟩ := s
    simp only at hs hf
    subst hs
    by_cases hl : e.isLoss = true <;> cases kept <;>
      simp [call, Access.on, ExceptT.run, Connection.run, Connection.fresh, Connection.once,
        Server.connect, Server.command, Link.sound, hf, hl, Except.mapError, Except.map]

/-- Two stores with the same keys, both over a sound way to the server. -/
structure Alike (s t : Shared) : Prop where
  root : s.root = t.root
  keys : s.server.keys = t.server.keys
  left : s.server.link = Link.sound
  right : t.server.link = Link.sound

/-- A call that only reads: it leaves every key as it was, and over a sound way to the server its
answer depends on nothing but the keys. -/
structure Reads (m : Access Shared α) : Prop where
  root : ∀ s, (m.on s).2.root = s.root
  keys : ∀ s, (m.on s).2.server.keys = s.server.keys
  sound : ∀ s, s.server.link = Link.sound → (m.on s).2.server.link = Link.sound
  answer : ∀ s t, Alike s t → (m.on s).1 = (m.on t).1

theorem Reads.alike {m : Access Shared α} (hm : Reads m) {s t : Shared} (h : Alike s t) :
    Alike (m.on s).2 (m.on t).2 where
  root := (hm.root s).trans (h.root.trans (hm.root t).symm)
  keys := (hm.keys s).trans (h.keys.trans (hm.keys t).symm)
  left := hm.sound s h.left
  right := hm.sound t h.right

theorem reads_ask (f : String → Keyspace → Except StoreFault α) : Reads (ask f) where
  root _ := rfl
  keys s := by
    refine (call_keeps (P := fun k => k = s.server.keys) ?_ rfl).2
    rintro k a l rfl h
    cases hf : f s.root s.server.keys with
    | error e => simp [hf, Except.map] at h
    | ok b =>
      simp only [hf, Except.map, Except.ok.injEq, Prod.mk.injEq] at h
      exact h.2.symm
  sound s hs := (call_sound hs).2
  answer s t h := by
    unfold ask
    rw [(call_sound h.left).1, (call_sound h.right).1, h.root, h.keys]

theorem Reads.pure (a : α) : Reads (Pure.pure a) :=
  ⟨fun _ => rfl, fun _ => rfl, fun _ hs => hs, fun _ _ _ => rfl⟩

theorem Reads.throw (e : StoreError) : Reads (MonadExcept.throw e : Access Shared α) :=
  ⟨fun _ => rfl, fun _ => rfl, fun _ hs => hs, fun _ _ _ => rfl⟩

theorem Reads.bind {m : Access Shared α} {f : α → Access Shared β} (hm : Reads m)
    (hf : ∀ a, Reads (f a)) : Reads (m >>= f) where
  root s := by
    have hs := hm.root s
    rw [Access.bind_on]
    rcases h : m.on s with ⟨e | a, t⟩ <;> rw [h] at hs
    · exact hs
    · exact ((hf a).root t).trans hs
  keys s := by
    have hs := hm.keys s
    rw [Access.bind_on]
    rcases h : m.on s with ⟨e | a, t⟩ <;> rw [h] at hs
    · exact hs
    · exact ((hf a).keys t).trans hs
  sound s hsound := by
    have hs := hm.sound s hsound
    rw [Access.bind_on]
    rcases h : m.on s with ⟨e | a, t⟩ <;> rw [h] at hs
    · exact hs
    · exact (hf a).sound t hs
  answer s t h := by
    have hanswer := hm.answer s t h
    have halike := hm.alike h
    rw [Access.bind_on, Access.bind_on]
    rcases hs : m.on s with ⟨e | a, u⟩ <;> rcases ht : m.on t with ⟨e' | a', v⟩ <;>
      rw [hs, ht] at hanswer <;> cases hanswer
    · rfl
    · rw [hs, ht] at halike
      exact (hf a).answer u v halike

theorem reads_latest : Reads RecordStore.latest := by
  refine (reads_ask _).bind fun id => ?_
  cases id with
  | none => exact .throw _
  | some id =>
    simp only
    split_ifs
    · exact .throw _
    · exact .throw _
    · exact .pure _

theorem reads_settings : Reads RecordStore.settings := reads_ask _

theorem reads_rules : Reads RecordStore.rules := (reads_ask _).bind fun _ => .pure _

theorem reads_found (absent : Absent) (a : Option α) : Reads (found absent a) := by
  cases a with
  | none => exact .throw _
  | some a => exact .pure a

theorem reads_datasetTime : Reads RecordStore.datasetTime :=
  (reads_ask _).bind fun _ => reads_found _ _

theorem reads_dataset : Reads RecordStore.dataset := by
  refine (reads_ask _).bind fun r => ?_
  obtain ⟨seconds, bytes⟩ := r
  simp only
  split
  · exact .pure _
  · exact .throw _

def datasetRows (time : Instant) (bytes : Bytes) : List (String × Bytes) :=
  [("timestamp", Bytes.ofText (toString time.seconds)), ("source", bytes)]

theorem datasetRows_nodup (time : Instant) (bytes : Bytes) :
    ((datasetRows time bytes).map Prod.fst).Nodup := by
  show ["timestamp", "source"].Nodup
  decide

/-- **Keeping a dataset** changes the fields of the dataset, or nothing. -/
theorem putDataset_leaves (time : Instant) (bytes : Bytes) (s : Shared) :
    let after := ((RecordStore.putDataset time bytes : Access Shared Unit).on s).2
    after.root = s.root ∧ (after.server.keys = s.server.keys ∨
      s.server.keys.setFields (datasetKey s.root) (datasetRows time bytes) =
        .ok after.server.keys) := by
  refine call_keeps (P := fun k => k = s.server.keys ∨
    s.server.keys.setFields (datasetKey s.root) (datasetRows time bytes) = .ok k) ?_ (Or.inl rfl)
  intro k a l hk h
  have hl : k.setFields (datasetKey s.root) (datasetRows time bytes) = .ok l := by
    change (k.setFields _ (datasetRows time bytes)).map _ = _ at h
    cases hf : k.setFields (datasetKey s.root) (datasetRows time bytes) with
    | error e =>
      rw [hf] at h
      cases h
    | ok m =>
      rw [hf] at h
      cases h
      rfl
  rcases hk with rfl | hk
  · exact Or.inr hl
  · rw [Keyspace.setFields_again (datasetRows_nodup time bytes) hk] at hl
    cases hl
    exact Or.inr hk

end Shared

end Firewall
