import Firewall.Proofs.Store.Reading
import Firewall.Proofs.Store.Roots

/-!
The calls on a shared store keep to the keys of its root. A command sees the keys that it names
and changes no others, and a call runs one command, however often it tries. So what a call answers
and leaves depends on these keys and on the connection of its store, and on nothing else.

Proved here:

* `Keyspace.Local.read`, `setFields_local`, `replaceFields_local`, `appendEntry_local`: commands;
* `Connection.run_alike`: tries in alike surroundings are alike;
* `Shared.confined_append` to `Shared.confined_putDataset`: each of the eleven calls;
* `Shared.confined_make`: every call sees and changes only the keys of its root.
-/

namespace Firewall

/-! ## Commands -/

namespace Keyspace

variable {α β : Type} {O : String → Prop} {k l : Keyspace}

/-- Some keys hold the same in two key spaces. -/
def Agree (O : String → Prop) (k l : Keyspace) : Prop := ∀ key, O key → k.get? key = l.get? key

theorem Agree.insert (h : Agree O k l) (key : String) (c : Cell) :
    Agree O (k.insert key c) (l.insert key c) := by
  intro x hx
  rw [Dict.get?_insert, Dict.get?_insert, h x hx]

theorem Agree.erase (h : Agree O k l) (key : String) : Agree O (k.erase key) (l.erase key) := by
  intro x hx
  rw [Dict.get?_erase, Dict.get?_erase, h x hx]

theorem Agree.get {key : String} (h : Agree O k l) (hkey : O key) : k.get key = l.get key := by
  unfold Keyspace.get
  rw [h key hkey]

theorem Agree.fields {key : String} (h : Agree O k l) (hkey : O key) :
    k.fields key = l.fields key := by
  unfold Keyspace.fields
  rw [h key hkey]

theorem Agree.field {key : String} (h : Agree O k l) (hkey : O key) (name : String) :
    k.field key name = l.field key name := by
  unfold Keyspace.field
  rw [h.fields hkey]

/-- What a command gives on two key spaces: the same, and keys that hold the same after it. -/
inductive Matched (O : String → Prop) :
    Except StoreFault (α × Keyspace) → Except StoreFault (α × Keyspace) → Prop
  | error (e : StoreFault) : Matched O (.error e) (.error e)
  | ok (a : α) {k l : Keyspace} (h : Agree O k l) : Matched O (.ok (a, k)) (.ok (a, l))

/-- A command that sees and changes only some of the keys. -/
structure Local (O : String → Prop) (f : Keyspace → Except StoreFault (α × Keyspace)) : Prop where
  alike : ∀ k l, Agree O k l → Matched O (f k) (f l)
  others : ∀ k a l key, f k = .ok (a, l) → ¬ O key → l.get? key = k.get? key

theorem Local.read {f : Keyspace → Except StoreFault α}
    (hf : ∀ k l, Agree O k l → f k = f l) : Local O fun k => (f k).map fun a => (a, k) where
  alike k l h := by
    rw [hf k l h]
    cases f l with
    | error e => exact .error e
    | ok a => exact .ok a h
  others k a l key h _ := by
    cases hk : f k with
    | error e =>
      rw [hk] at h
      cases h
    | ok b =>
      rw [hk] at h
      cases h
      rfl

theorem setFields_local {key : String} (hkey : O key) (rows : List (String × Bytes)) :
    Local O fun k => (k.setFields key rows).map fun k => ((), k) where
  alike k l h := by
    unfold setFields
    rw [h.fields hkey]
    cases l.fields key with
    | error e => exact .error e
    | ok fields => exact .ok () (h.insert key _)
  others k _ l other h ho := by
    have hne : other ≠ key := fun he => ho (he ▸ hkey)
    cases hs : k.setFields key rows with
    | error e =>
      rw [hs] at h
      cases h
    | ok m =>
      rw [hs] at h
      cases h
      exact setFields_get? hs hne

theorem replaceFields_local {key : String} (hkey : O key) (rows : List (String × Bytes)) :
    Local O fun k => (k.replaceFields key rows).map fun k => ((), k) where
  alike k l h := by
    unfold replaceFields
    by_cases hr : rows.isEmpty = true
    · simp only [hr]
      exact .ok () (h.erase key)
    · simp only [hr]
      exact (setFields_local hkey rows).alike _ _ (h.erase key)
  others k a l other h ho := by
    have hne : other ≠ key := fun he => ho (he ▸ hkey)
    have herase : (k.erase key).get? other = k.get? other := by
      rw [Dict.get?_erase, if_neg hne]
    unfold replaceFields at h
    by_cases hr : rows.isEmpty = true
    · simp only [hr] at h
      cases h
      exact herase
    · simp only [hr] at h
      exact ((setFields_local hkey rows).others _ a l other h ho).trans herase

theorem appendEntry_local {counter entryRoot : String} (hcounter : O counter)
    (hentry : ∀ n : Int, O (entryRoot ++ toString n)) (rows : List (String × Bytes)) :
    Local O fun k => k.appendEntry counter entryRoot rows where
  alike k l h := by
    unfold appendEntry
    rw [h.get hcounter]
    cases l.get counter with
    | error e => exact .error e
    | ok held =>
      simp only
      cases integer? (held.getD (Bytes.ofText "0")) with
      | none => exact .error _
      | some n =>
        simp only
        unfold setFields
        rw [h.fields (hentry (n + 1))]
        cases l.fields (entryRoot ++ toString (n + 1)) with
        | error e => exact .error e
        | ok fields => exact .ok _ ((h.insert _ _).insert _ _)
  others k a l other h ho := by
    unfold appendEntry at h
    split at h
    · cases h
    · split at h
      · cases h
      · next n _ =>
        split at h
        · cases h
        · next m hm =>
          cases h
          have hcount : other ≠ counter := fun he => ho (he ▸ hcounter)
          have hwritten : other ≠ entryRoot ++ toString (n + 1) := fun he => ho (he ▸ hentry _)
          rw [set, Dict.get?_insert, if_neg hcount]
          exact setFields_get? hm hwritten

/-- A reply that is looked at once more before it is given. -/
theorem Local.check {f : Keyspace → Except StoreFault (α × Keyspace)} (hf : Local O f)
    (g : α → Except StoreFault β) :
    Local O fun k => (f k).bind fun r => (g r.1).map fun b => (b, r.2) where
  alike k l h := by
    have hkl := hf.alike k l h
    revert hkl
    generalize f k = x
    generalize f l = y
    rintro (e | ⟨a, hafter⟩)
    · exact .error e
    · show Matched O ((g a).map _) ((g a).map _)
      cases g a with
      | error e => exact .error e
      | ok b => exact .ok b hafter
  others k b l key h ho := by
    cases hk : f k with
    | error e =>
      rw [hk] at h
      cases h
    | ok r =>
      rw [hk] at h
      change (g r.1).map _ = _ at h
      cases hg : g r.1 with
      | error e =>
        rw [hg] at h
        cases h
      | ok c =>
        rw [hg] at h
        cases h
        exact hf.others k r.1 r.2 key hk ho

end Keyspace

/-! ## Tries -/

/-- Where surroundings are alike, the same is given, and they stay alike. -/
def Steady {σ α : Type} (R : σ → σ → Prop) (f : σ → α × σ) : Prop :=
  ∀ s t, R s t → (f s).1 = (f t).1 ∧ R (f s).2 (f t).2

namespace Connection

variable {γ σ α : Type} {opening : Opening γ σ} {op : Operation γ σ α} {R : σ → σ → Prop}

/-- Two outcomes are the same, up to the surroundings. -/
structure Outcome.Alike (R : σ → σ → Prop) (o o' : Outcome γ σ α) : Prop where
  result : o.result = o'.result
  kept : o.kept = o'.kept
  state : R o.state o'.state

theorem once_alike (hop : ∀ c, Steady R (op c)) (c : γ) {s t : σ} (h : R s t) :
    (once op c s).Alike R (once op c t) := by
  have hboth := hop c s t h
  unfold once
  rcases hs : op c s with ⟨e | a, s'⟩ <;> rcases ht : op c t with ⟨e' | a', t'⟩ <;>
    rw [hs, ht] at hboth <;> obtain ⟨hanswer, hstate⟩ := hboth <;> cases hanswer
  · exact ⟨rfl, rfl, hstate⟩
  · exact ⟨rfl, rfl, hstate⟩

theorem fresh_alike (hopen : Steady R opening) (hop : ∀ c, Steady R (op c)) {s t : σ}
    (h : R s t) : (fresh opening op s).Alike R (fresh opening op t) := by
  have hboth := hopen s t h
  unfold fresh
  rcases hs : opening s with ⟨e | c, s'⟩ <;> rcases ht : opening t with ⟨e' | c', t'⟩ <;>
    rw [hs, ht] at hboth <;> obtain ⟨hanswer, hstate⟩ := hboth <;> cases hanswer
  · exact ⟨rfl, rfl, hstate⟩
  · exact once_alike hop c hstate

/-- **Tries in alike surroundings are alike**, however many there are. -/
theorem run_alike (hopen : Steady R opening) (hop : ∀ c, Steady R (op c)) (kept : Option γ)
    {s t : σ} (h : R s t) : (run opening op kept s).Alike R (run opening op kept t) := by
  unfold run
  cases kept with
  | none => exact fresh_alike hopen hop h
  | some c =>
    have hboth := hop c s t h
    rcases hs : op c s with ⟨e | a, s'⟩ <;> rcases ht : op c t with ⟨e' | a', t'⟩ <;>
      rw [hs, ht] at hboth <;> obtain ⟨hanswer, hstate⟩ := hboth <;> cases hanswer
    · simp only [hs, ht]
      by_cases hl : e.isLoss = true
      · simp only [if_pos hl]
        exact fresh_alike hopen hop hstate
      · simp only [if_neg hl]
        exact ⟨rfl, rfl, hstate⟩
    · simp only [hs, ht]
      exact ⟨rfl, rfl, hstate⟩

end Connection

/-! ## Calls -/

namespace Server

variable {α : Type} {O : String → Prop}

/-- Two servers with the same way to them, where some of the keys hold the same. -/
structure Kin (O : String → Prop) (v w : Server) : Prop where
  link : v.link = w.link
  keys : Keyspace.Agree O v.keys w.keys

theorem steady_connect : Steady (Kin O) connect := by
  rintro v w ⟨hlink, hkeys⟩
  have hv := Shared.connect_keys v
  have hw := Shared.connect_keys w
  have hboth : (connect v).1 = (connect w).1 ∧ (connect v).2.link = (connect w).2.link := by
    unfold connect
    rw [hlink]
    rcases w.link.openings with _ | ⟨o, os⟩
    · cases w.link.lasting <;> exact ⟨rfl, rfl⟩
    · cases o <;> exact ⟨rfl, rfl⟩
  refine ⟨hboth.1, hboth.2, ?_⟩
  rw [hv, hw]
  exact hkeys

/-- What a command gives on two servers, where it may be lost on the way. -/
theorem steady_command {f : Keyspace → Except StoreFault (α × Keyspace)}
    (hf : Keyspace.Local O f) : Steady (Kin O) (command f) := by
  rintro ⟨keys, link⟩ ⟨keys', link'⟩ ⟨hlink, hkeys⟩
  simp only at hlink hkeys
  subst hlink
  have hmatched := hf.alike keys keys' hkeys
  unfold command
  dsimp only
  generalize f keys = x at hmatched ⊢
  generalize f keys' = y at hmatched ⊢
  -- a command that is lost on the way to the server leaves the keys as they were
  rcases hmatched with e | ⟨a, hafter⟩
  · rcases link with ⟨openings, lasting, _ | ⟨_ | _ | _, mishaps⟩⟩ <;> exact ⟨rfl, rfl, hkeys⟩
  · rcases link with ⟨openings, lasting, _ | ⟨_ | _ | _, mishaps⟩⟩
    · exact ⟨rfl, rfl, hafter⟩
    · exact ⟨rfl, rfl, hafter⟩
    · exact ⟨rfl, rfl, hkeys⟩
    · exact ⟨rfl, rfl, hafter⟩

end Server

namespace Shared

variable {α β : Type}

/-- Two stores with the same root and connection, where the keys of this root hold the same. -/
structure Kin (s t : Shared) : Prop where
  root : s.root = t.root
  kept : s.kept = t.kept
  server : s.server.Kin (Owns s.root) t.server

/-- A call that sees and changes only the keys of its root. -/
structure Confined (m : Access Shared α) : Prop where
  root : ∀ s, (m.on s).2.root = s.root
  others : ∀ s key, ¬ Owns s.root key → (m.on s).2.server.keys.get? key = s.server.keys.get? key
  alike : Steady Kin m.on

theorem confined_call {f : String → Keyspace → Except StoreFault (α × Keyspace)}
    (hf : ∀ root, Keyspace.Local (Owns root) (f root)) : Confined (call f) where
  root _ := rfl
  others s key hkey := by
    refine (call_keeps (P := fun k => k.get? key = s.server.keys.get? key) ?_ rfl).2
    intro k a l hk h
    exact ((hf s.root).others k a l key h hkey).trans hk
  alike s t h := by
    obtain ⟨root, kept, server⟩ := s
    obtain ⟨root', kept', server'⟩ := t
    obtain ⟨hroot, hkept, hserver⟩ := h
    simp only at hroot hkept hserver
    subst hroot hkept
    have halike := Connection.run_alike (R := Server.Kin (Owns root)) Server.steady_connect
      (fun (_ : Unit) => Server.steady_command (hf root)) kept hserver
    exact ⟨congrArg (Except.mapError StoreError.fault) halike.result, rfl, halike.kept,
      halike.state⟩

theorem confined_ask {f : String → Keyspace → Except StoreFault α}
    (hf : ∀ root k l, Keyspace.Agree (Owns root) k l → f root k = f root l) : Confined (ask f) :=
  confined_call fun root => .read (hf root)

namespace Confined

theorem pure (a : α) : Confined (Pure.pure a) :=
  ⟨fun _ => rfl, fun _ _ _ => rfl, fun _ _ h => ⟨rfl, h⟩⟩

theorem throw (e : StoreError) : Confined (MonadExcept.throw e : Access Shared α) :=
  ⟨fun _ => rfl, fun _ _ _ => rfl, fun _ _ h => ⟨rfl, h⟩⟩

theorem bind {m : Access Shared α} {f : α → Access Shared β} (hm : Confined m)
    (hf : ∀ a, Confined (f a)) : Confined (m >>= f) where
  root s := by
    have hs := hm.root s
    rw [Access.bind_on]
    rcases h : m.on s with ⟨e | a, t⟩ <;> rw [h] at hs
    · exact hs
    · exact ((hf a).root t).trans hs
  others s key hkey := by
    have hroot := hm.root s
    have hs := hm.others s key hkey
    rw [Access.bind_on]
    rcases h : m.on s with ⟨e | a, t⟩ <;> rw [h] at hs hroot
    · exact hs
    · exact ((hf a).others t key (hroot ▸ hkey)).trans hs
  alike s t h := by
    have hboth := hm.alike s t h
    rw [Access.bind_on, Access.bind_on]
    rcases hs : m.on s with ⟨e | a, u⟩ <;> rcases ht : m.on t with ⟨e' | a', v⟩ <;>
      rw [hs, ht] at hboth <;> obtain ⟨hanswer, hkin⟩ := hboth <;> cases hanswer
    · exact ⟨rfl, hkin⟩
    · exact (hf a).alike u v hkin

theorem map {m : Access Shared α} (hm : Confined m) (f : α → β) : Confined (f <$> m) where
  root s := by
    rw [Access.map_on]
    exact hm.root s
  others s key hkey := by
    rw [Access.map_on]
    exact hm.others s key hkey
  alike s t h := by
    obtain ⟨hanswer, hkin⟩ := hm.alike s t h
    rw [Access.map_on, Access.map_on, hanswer]
    exact ⟨rfl, hkin⟩

end Confined

theorem confined_found (absent : Absent) (a : Option α) : Confined (found absent a) := by
  cases a with
  | none => exact .throw _
  | some a => exact .pure a

/-! ### The calls -/

theorem owns_counterKey (root : String) : Owns root (counterKey root) := ⟨_, .slot .counter, rfl⟩

theorem owns_entryKey (root : String) (id : Nat) : Owns root (entryKey root id) :=
  ⟨_, .slot (.entry id), rfl⟩

theorem owns_settingsKey (root : String) : Owns root (settingsKey root) :=
  ⟨_, .slot .settings, rfl⟩

theorem owns_rulesKey (root : String) : Owns root (rulesKey root) := ⟨_, .slot .rules, rfl⟩

theorem owns_datasetKey (root : String) : Owns root (datasetKey root) := ⟨_, .slot .dataset, rfl⟩

theorem owns_entryRoot (root : String) (n : Int) : Owns root (entryRoot root ++ toString n) := by
  refine ⟨"changelog:" ++ toString n, .entry n, ?_⟩
  rw [entryRoot, String.append_assoc]

theorem confined_append (table : Table) (key : String) :
    Confined (RecordStore.append table key) := by
  refine confined_call fun root => ?_
  have hcheck := (Keyspace.appendEntry_local (owns_counterKey root) (owns_entryRoot root)
    (entryRows table key)).check fun id => if 0 ≤ id then .ok id.toNat else .error .badReply
  have hreply : ∀ r : Int × Keyspace,
      (if 0 ≤ r.1 then Except.ok r.1.toNat else Except.error StoreFault.badReply).map
          (fun n => (n, r.2)) =
        if 0 ≤ r.1 then .ok (r.1.toNat, r.2) else .error .badReply := by
    intro r
    by_cases hr : 0 ≤ r.1 <;> simp [hr, Except.map]
  simp only [hreply] at hcheck
  exact hcheck

theorem confined_latest : Confined RecordStore.latest := by
  refine (confined_ask fun root k l h => ?_).bind fun id => ?_
  · rw [h.get (owns_counterKey root)]
  · cases id with
    | none => exact .throw _
    | some id =>
      simp only
      split_ifs
      · exact .throw _
      · exact .throw _
      · exact .pure _

theorem confined_entry (id : Nat) : Confined (RecordStore.entry id) := by
  refine (confined_ask fun root k l h => ?_).bind fun rows => ?_
  · rw [h.fields (owns_entryKey root id)]
  · split
    · split
      · exact .pure _
      · exact .throw _
    · exact .throw _

theorem confined_settings : Confined RecordStore.settings :=
  confined_ask fun root k l h => by rw [h.fields (owns_settingsKey root)]

theorem confined_setting (key : String) : Confined (RecordStore.setting key) := by
  refine (confined_ask fun root k l h => ?_).bind fun value => confined_found _ _
  rw [h.field (owns_settingsKey root)]

theorem confined_putSetting (key value : String) :
    Confined (RecordStore.putSetting key value) :=
  confined_call fun root => Keyspace.setFields_local (owns_settingsKey root) _

theorem confined_rules : Confined RecordStore.rules := by
  refine (confined_ask fun root k l h => ?_).bind fun rows => .pure _
  rw [h.fields (owns_rulesKey root)]

theorem confined_putRules (rules : List CountryRule) : Confined (RecordStore.putRules rules) :=
  confined_call fun root => Keyspace.replaceFields_local (owns_rulesKey root) _

theorem confined_datasetTime : Confined RecordStore.datasetTime := by
  refine (confined_ask fun root k l h => ?_).bind fun seconds => confined_found _ _
  rw [h.field (owns_datasetKey root)]

theorem confined_dataset : Confined RecordStore.dataset := by
  refine (confined_ask fun root k l h => ?_).bind fun r => ?_
  · rw [h.fields (owns_datasetKey root)]
  · obtain ⟨seconds, bytes⟩ := r
    simp only
    split
    · exact .pure _
    · exact .throw _

theorem confined_putDataset (time : Instant) (bytes : Bytes) :
    Confined (RecordStore.putDataset time bytes) :=
  confined_call fun root => Keyspace.setFields_local (owns_datasetKey root) _

/-- **Every call sees and changes only the keys of its root.** -/
theorem confined_make (c : RecordStore.Call) : Confined c.make := by
  cases c with
  | append table key => exact (confined_append table key).map _
  | latest => exact confined_latest.map _
  | entry id => exact (confined_entry id).map _
  | settings => exact confined_settings.map _
  | setting key => exact (confined_setting key).map _
  | putSetting key value => exact (confined_putSetting key value).map _
  | rules => exact confined_rules.map _
  | putRules rules => exact (confined_putRules rules).map _
  | datasetTime => exact confined_datasetTime.map _
  | dataset => exact confined_dataset.map _
  | putDataset time bytes => exact (confined_putDataset time.1 bytes).map _

end Shared

end Firewall
