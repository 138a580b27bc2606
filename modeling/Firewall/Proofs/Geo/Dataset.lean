import Firewall.Geo.Dataset
import Firewall.Proofs.Store.Refinement

/-!
How an instance gets hold of a country database, over the stores that keep one: some keep its
time as it is, others cut it down to the second, and any of their calls may fail.

What is taken from the file of the program is dated a month of thirty days back, and what is
in the store is used until it is thirty-one days old. So for one day the file of the program
passes for a new database.

Proved here:

* `Instant.since_back`: how old something is that was dated back;
* `loadCached_run`, `keep_run`, `useFallback_run`: what the parts of a start give and leave;
* `prepare_cached`, `prepare_lacking`: a start that finds a database in the store, and one that
  gets none from the web either;
* `Meanwhile.after_shows`: the dataset stays as it is through whatever leaves it alone;
* `asks_after_fallback`: when the start that follows a fallback asks for a new database.
-/

namespace Firewall

/-! ## Dates put back -/

namespace Instant

/-- A moment with a leap second counted as the second that follows it. -/
def even (t : Instant) : Instant :=
  if t.isLeap then ⟨t.seconds + 1, t.nanos - nanosPerSecond⟩ else t

/-- A moment so many days earlier, at the same time of day. -/
def back (t : Instant) (n : Nat) : Instant := ⟨t.seconds - n * secondsPerDay, t.nanos⟩

/-- A moment as a store keeps it: as it is, or cut down to its whole second. -/
def cut (whole : Bool) (t : Instant) : Instant := if whole then t.wholeSecond else t

theorem cut_back (whole : Bool) (t : Instant) (n : Nat) :
    (t.back n).cut whole = (t.cut whole).back n := by
  cases whole <;> rfl

/-- **A moment dated back by days** is older by these days. -/
theorem since_back (t past : Instant) (n : Nat) :
    t.since (past.back n) = t.since past + days n := by
  have hday : (past.back n).secondOfDay = past.secondOfDay := by
    simp only [secondOfDay, back, secondsPerDay]
    omega
  have hleap : (past.back n).isLeap = past.isLeap := rfl
  unfold since
  rw [hday, hleap]
  simp only [back, days, secondsPerDay, nanosPerSecond]
  generalize (if t.secondOfDay > past.secondOfDay ∧ past.isLeap = true then (1 : Int)
    else if t.secondOfDay < past.secondOfDay ∧ t.isLeap = true then -1 else 0) = leap
  omega

theorem minusDays?_eq_some {t earlier : Instant} {n : Nat} (h : t.minusDays? n = some earlier) :
    earlier = t.even.back n ∧ firstSecond ≤ earlier.seconds ∧ earlier.seconds ≤ lastSecond := by
  have hm : t.minusDays? n =
      if firstSecond ≤ (t.even.back n).seconds ∧ (t.even.back n).seconds ≤ lastSecond then
        some (t.even.back n)
      else none := rfl
  rw [hm] at h
  split at h
  · next hr =>
    cases h
    exact ⟨rfl, hr⟩
  · exact absurd h (by simp)

theorem Supported.nanos_lt {t : Instant} (h : t.Supported) : t.nanos < 2 * nanosPerSecond := by
  unfold Supported ofParts? at h
  split at h
  · next hr =>
    have hn : nanosPerSecond = 1000000000 := rfl
    omega
  · exact absurd h (by simp)

theorem Supported.even_nanos_lt {t : Instant} (h : t.Supported) :
    t.even.nanos < nanosPerSecond := by
  have hlt := h.nanos_lt
  unfold even
  by_cases hl : t.isLeap = true
  · rw [if_pos hl]
    show t.nanos - nanosPerSecond < nanosPerSecond
    omega
  · rw [if_neg hl]
    simpa [isLeap] using hl

/-- A moment that has been dated back is in no leap second. -/
theorem Supported.minusDays? {t earlier : Instant} {n : Nat} (hs : t.Supported)
    (h : t.minusDays? n = some earlier) : earlier.Supported := by
  obtain ⟨he, hfirst, hlast⟩ := minusDays?_eq_some h
  have hn : earlier.nanos < nanosPerSecond := by
    rw [he]
    exact hs.even_nanos_lt
  unfold Supported ofParts?
  rw [if_pos ⟨hfirst, hlast, Or.inl hn⟩]

end Instant

/-! ## Stores that keep a dataset -/

/-- A record store that answers from tables also where the dataset is concerned. It may cut
the time of the dataset down to the second. -/
class DatedStore (σ : Type) [RecordStore σ] extends LawfulStore σ where
  /-- Whether it keeps only whole seconds. -/
  wholeSeconds : Bool
  datasetTime {s : σ} {t : Tables} : Shows s t →
    (RecordStore.datasetTime : Access σ Instant).Gives Shows s
      (t.dataset?.map fun d => d.time.cut wholeSeconds) t
  dataset {s : σ} {t : Tables} : Shows s t →
    (RecordStore.dataset : Access σ CachedDataset).Gives Shows s
      (t.dataset?.map fun d => ⟨d.time.cut wholeSeconds, d.bytes⟩) t
  putDataset {s : σ} {t : Tables} {time : Instant} (bytes : Bytes) : time.Supported →
    Shows s t → (RecordStore.putDataset time bytes : Access σ Unit).Gives Shows s (.ok ())
      { t with dataset := some ⟨time, bytes⟩ }

instance : DatedStore Tables where
  wholeSeconds := false
  datasetTime h := h ▸ ⟨rfl, rfl⟩
  dataset {s t} h := by
    subst h
    refine ⟨?_, rfl⟩
    show s.dataset? = s.dataset?.map id
    cases s.dataset? <;> rfl
  putDataset _ _ h := h ▸ ⟨rfl, rfl⟩

instance : DatedStore Shared where
  wholeSeconds := true
  datasetTime := @fun _ _ => by
    rintro ⟨root, u, h, rfl⟩
    exact (Shared.datasetTime_gives h).imp fun s => Shared.Holds.shows
  dataset := @fun _ _ => by
    rintro ⟨root, u, h, rfl⟩
    exact (Shared.dataset_gives h).imp fun s => Shared.Holds.shows
  putDataset := @fun _ _ _ bytes ht => by
    rintro ⟨root, u, h, rfl⟩
    exact (Shared.putDataset_gives h ht bytes).imp fun s => Shared.Holds.shows

theorem Faulty.guarded_gives {σ α : Type} [RecordStore σ] [LawfulStore σ]
    (stops : Failing → Bool) (call : StoreCall) {inner : Access σ α} {s : Faulty σ}
    {answer : Except StoreError α} {t u : Tables} (hs : s.Shows t)
    (h : inner.Gives LawfulStore.Shows s.store answer u) :
    ∃ store, LawfulStore.Shows store (if stops s.failing then t else u) ∧
      (guarded stops call inner).on s =
        (if stops s.failing then .error (.fault (.injected call.name)) else answer,
          { s with store }) := by
  rcases guarded_on stops call h with ⟨hstop, he⟩ | ⟨hstop, store, hu, he⟩
  · rw [hstop]
    exact ⟨s.store, hs, he⟩
  · rw [hstop]
    exact ⟨store, hu, he⟩

/-! ## What leaves the dataset alone -/

/-- What can happen to a store between two starts, other than the writing of a dataset. -/
inductive Meanwhile
  | call (c : RecordStore.Call) (leaves : ∀ time bytes, c ≠ .putDataset time bytes)
  /-- From now on these calls fail. -/
  | fail (failing : Failing)

namespace Meanwhile

variable {σ : Type} [RecordStore σ] [DatedStore σ]

def step (s : Faulty σ) : Meanwhile → Faulty σ
  | call c _ => (c.make.on s).2
  | fail failing => { s with failing }

def after (events : List Meanwhile) (s : Faulty σ) : Faulty σ := events.foldl step s

omit [RecordStore σ] [DatedStore σ] in
theorem make_map_on {α : Type} (m : Access (Faulty σ) α) (f : α → RecordStore.Answer)
    (s : Faulty σ) : ((f <$> m).on s).2 = (m.on s).2 := by
  rw [Access.map_on]

theorem guarded_shows {α : Type} {inner : Access σ α} {s : Faulty σ} {t u : Tables}
    {answer : Except StoreError α} (hs : s.Shows t) (stops : Failing → Bool) (call : StoreCall)
    (h : inner.Gives LawfulStore.Shows s.store answer u) (hd : u.dataset = t.dataset) :
    ∃ u, ((Faulty.guarded stops call inner).on s).2.Shows u ∧ u.dataset = t.dataset := by
  obtain ⟨store, hstore, he⟩ := Faulty.guarded_gives stops call hs h
  rw [he]
  refine ⟨_, hstore, ?_⟩
  split
  · rfl
  · exact hd

omit [DatedStore σ] in
@[simp] theorem after_nil (s : Faulty σ) : after [] s = s := rfl

theorem step_shows {s : Faulty σ} {t : Tables} (hs : s.Shows t) (m : Meanwhile) :
    ∃ u, (step s m).Shows u ∧ u.dataset = t.dataset := by
  cases m with
  | fail failing => exact ⟨t, hs, rfl⟩
  | call c leaves =>
    cases c <;> simp only [step, RecordStore.Call.make, make_map_on]
    case append table key =>
      exact guarded_shows hs _ _ (LawfulStore.append table key hs) rfl
    case latest => exact guarded_shows hs _ _ (LawfulStore.latest hs) rfl
    case entry id => exact guarded_shows hs _ _ (LawfulStore.entry id hs) rfl
    case settings => exact guarded_shows hs _ _ (LawfulStore.settings hs) rfl
    case setting key => exact guarded_shows hs _ _ (LawfulStore.setting key hs) rfl
    case putSetting key value =>
      exact guarded_shows hs _ _ (LawfulStore.putSetting key value hs) rfl
    case rules => exact guarded_shows hs _ _ (LawfulStore.rules hs) rfl
    case putRules rules =>
      obtain ⟨kept, -, h⟩ := LawfulStore.putRules rules hs
      exact guarded_shows hs _ _ h rfl
    case datasetTime => exact guarded_shows hs _ _ (DatedStore.datasetTime hs) rfl
    case dataset => exact guarded_shows hs _ _ (DatedStore.dataset hs) rfl
    case putDataset time bytes => exact absurd rfl (leaves time bytes)

/-- **The dataset stays as it is** through everything that leaves it alone. -/
theorem after_shows {s : Faulty σ} {t : Tables} (hs : s.Shows t) (events : List Meanwhile) :
    ∃ u, (after events s).Shows u ∧ u.dataset = t.dataset := by
  induction events generalizing s t with
  | nil => exact ⟨t, hs, rfl⟩
  | cons m events ih =>
    obtain ⟨u, hu, hd⟩ := step_shows hs m
    obtain ⟨v, hv, hd'⟩ := ih hu
    exact ⟨v, hv, hd'.trans hd⟩

end Meanwhile

namespace Geo

/-- What the web has to offer at an address: bytes that can be read as a database. -/
def Web.offer (web : Web) (url : String) : Option (Bytes × Database) :=
  match web.download url with
  | .error _ => none
  | .ok bytes => (Database.ofBytes bytes).toOption.map fun db => (bytes, db)

/-- Nothing can be had from a web that no request gets through to. -/
theorem silent_offer (reason url : String) : (Web.silent reason).offer url = none := by
  have hd : ∃ fault, (Web.silent reason).download url = .error fault := by
    unfold Web.download Web.fetch
    cases Url.parse url with
    | error fault => exact ⟨_, rfl⟩
    | ok u =>
      by_cases hs : u.scheme ≠ "http".toList ∧ u.scheme ≠ "https".toList
      · simp only [if_pos hs]
        exact ⟨_, rfl⟩
      · simp only [if_neg hs]
        exact ⟨_, rfl⟩
  obtain ⟨fault, hd⟩ := hd
  simp [Web.offer, hd]

/-! ## The parts of a start -/

section Parts

variable {σ : Type} [RecordStore σ]

theorem loadCached_eq (now : Instant) (s : σ) :
    (loadCached now).run s =
      match (RecordStore.datasetTime : Access σ Instant).on s with
      | (.error _, s) => (none, s)
      | (.ok time, s) =>
        if isStale now time then (none, s)
        else match (RecordStore.dataset : Access σ CachedDataset).on s with
          | (.error _, s) => (none, s)
          | (.ok d, s) => ((Database.ofBytes d.bytes).toOption, s) := by
  unfold loadCached StateT.run Access.on ExceptT.run
  simp only [bind, StateT.bind]
  rcases (RecordStore.datasetTime : Access σ Instant) s with ⟨e | time, s⟩
  · rfl
  · by_cases hst : isStale now time = true
    · simp only [hst, if_true]
      rfl
    · rw [Bool.not_eq_true] at hst
      simp only [hst, Bool.false_eq_true, if_false, StateT.bind, bind]
      rcases (RecordStore.dataset : Access σ CachedDataset) s with ⟨e | d, s⟩ <;> rfl

theorem keep_eq (time : Instant) (bytes : Bytes) (db : Database) (s : σ) :
    (keep time bytes db).run s =
      match (RecordStore.putDataset time bytes : Access σ Unit).on s with
      | (.ok _, s) => (.ok db, s)
      | (.error cause, s) => (.error (.cacheDataset cause), s) := by
  unfold keep StateT.run Access.on ExceptT.run
  simp only [bind, StateT.bind]
  rcases (RecordStore.putDataset time bytes : Access σ Unit) s with ⟨e | u, s⟩ <;> rfl

/-- **A start** looks into the store, then on the web, then at the file of the program. -/
theorem prepare_eq (web : Web) (disk : Disk) (source : DatasetSource) (now : Instant) (s : σ) :
    (prepare web disk source now).run s =
      match (loadCached now).run s with
      | (some db, s) => (⟨.ok db, none⟩, s)
      | (none, s) =>
        let last := match web.offer (source.urlAt now) with
          | some (bytes, db) => (keep now bytes db).run s
          | none => (useFallback disk source now).run s
        (⟨last.1, some (source.urlAt now)⟩, last.2) := by
  unfold prepare StateT.run Web.offer
  simp only [bind, StateT.bind]
  rcases (loadCached now) s with ⟨_ | db, s⟩
  · simp only
    cases web.download (source.urlAt now) with
    | error e => rfl
    | ok bytes =>
      simp only
      cases Database.ofBytes bytes with
      | ok db => rfl
      | error e => rfl
  · rfl

theorem prepare_fallback {web : Web} (disk : Disk) {source : DatasetSource} {now : Instant}
    {s s' : σ} (hload : (loadCached now).run s = (none, s'))
    (hoffer : web.offer (source.urlAt now) = none) :
    (prepare web disk source now).run s =
      (⟨((useFallback disk source now).run s').1, some (source.urlAt now)⟩,
        ((useFallback disk source now).run s').2) := by
  rw [prepare_eq, hload, hoffer]

theorem useFallback_of_read {disk : Disk} {source : DatasetSource} {now earlier : Instant}
    {bytes : Bytes} {db : Database} (hread : disk.read source.fallbackPath = .ok bytes)
    (hdb : Database.ofBytes bytes = .ok db) (hearlier : now.minusDays? fallbackDays = some earlier)
    (s : σ) : (useFallback disk source now).run s = (keep earlier bytes db).run s := by
  unfold useFallback
  simp only [hread, hdb, hearlier]

end Parts

variable {σ : Type} [RecordStore σ] [DatedStore σ]

/-- The dataset that can be read from a store while some calls fail. -/
def readable (failing : Failing) (t : Tables) : Option CachedDataset :=
  if failing.stops .datasetTime || failing.stops .dataset then none else t.dataset

def cached (whole : Bool) (failing : Failing) (now : Instant) (t : Tables) : Option Database :=
  (readable failing t).bind fun d =>
    if isStale now (d.time.cut whole) then none else (Database.ofBytes d.bytes).toOption

/-- **Looking into the store** gives what can be read there and is young enough. -/
theorem loadCached_run {s : Faulty σ} {t : Tables} (hs : s.Shows t) (now : Instant) :
    ∃ store, LawfulStore.Shows store t ∧ (loadCached now).run s =
      (cached (DatedStore.wholeSeconds σ) s.failing now t, { s with store }) := by
  obtain ⟨store, hstore, htime⟩ := Faulty.guarded_gives (·.stops .datasetTime) .datasetTime hs
    (DatedStore.datasetTime hs)
  rw [ite_self] at hstore
  obtain ⟨store', hstore', hdata⟩ := Faulty.guarded_gives (s := { s with store })
    (·.stops .dataset) .dataset hstore (DatedStore.dataset hstore)
  rw [ite_self] at hstore'
  have htime' : (RecordStore.datasetTime : Access (Faulty σ) Instant).on s = _ := htime
  have hdata' : (RecordStore.dataset : Access (Faulty σ) CachedDataset).on { s with store } = _ :=
    hdata
  rw [loadCached_eq, htime']
  unfold cached readable
  by_cases hst : s.failing.stops .datasetTime = true
  · -- the time cannot be read
    simp only [hst, if_true, Bool.true_or, Option.bind_none]
    exact ⟨store, hstore, rfl⟩
  rw [Bool.not_eq_true] at hst
  simp only [hst, Bool.false_eq_true, if_false, Bool.false_or, Tables.dataset?]
  cases hd : t.dataset with
  | none =>
    simp only [Except.map, ite_self, Option.bind_none]
    exact ⟨store, hstore, rfl⟩
  | some d =>
    simp only [Except.map]
    by_cases hold : isStale now (d.time.cut (DatedStore.wholeSeconds σ)) = true
    · refine ⟨store, hstore, ?_⟩
      rw [if_pos hold]
      by_cases hst' : s.failing.stops .dataset = true <;> simp [hst', hold]
    · rw [if_neg hold, hdata']
      refine ⟨store', hstore', ?_⟩
      by_cases hst' : s.failing.stops .dataset = true <;>
        simp [hst', hold, Tables.dataset?, hd, Except.map]

/-- What is left in a store by a start that used a database of its own: this database, or what
was there before. -/
def Leaves (result : Except SetupFault Database) (time : Instant) (t u : Tables) : Prop :=
  match result with
  | .ok db =>
    ∃ bytes, Database.ofBytes bytes = .ok db ∧ u = { t with dataset := some ⟨time, bytes⟩ }
  | .error _ => u = t

/-- **Bytes are put into the store** unless the call fails, and then nothing happens. -/
theorem keep_gives {s : Faulty σ} {t : Tables} (hs : s.Shows t) {time : Instant}
    (ht : time.Supported) (bytes : Bytes) (db : Database) :
    ∃ store, LawfulStore.Shows store
        (if s.failing.stops .putDataset then t else { t with dataset := some ⟨time, bytes⟩ }) ∧
      (keep time bytes db).run s =
        (if s.failing.stops .putDataset then
          .error (.cacheDataset (.fault (.injected StoreCall.putDataset.name)))
        else .ok db, { s with store }) := by
  obtain ⟨store, hstore, hput⟩ := Faulty.guarded_gives (·.stops .putDataset) .putDataset hs
    (DatedStore.putDataset bytes ht hs)
  have hput' : (RecordStore.putDataset time bytes : Access (Faulty σ) Unit).on s = _ := hput
  refine ⟨store, hstore, ?_⟩
  rw [keep_eq, hput']
  by_cases hst : s.failing.stops .putDataset = true
  · rw [if_pos hst, if_pos hst]
  · rw [if_neg hst, if_neg hst]

theorem keep_run {s : Faulty σ} {t : Tables} (hs : s.Shows t) {time : Instant}
    (ht : time.Supported) {bytes : Bytes} {db : Database} (hdb : Database.ofBytes bytes = .ok db) :
    ∃ store u, LawfulStore.Shows store u ∧ ((keep time bytes db).run s).2 = { s with store } ∧
      Leaves ((keep time bytes db).run s).1 time t u := by
  obtain ⟨store, hstore, hkeep⟩ := keep_gives hs ht bytes db
  rw [hkeep]
  refine ⟨store, _, hstore, rfl, ?_⟩
  by_cases hst : s.failing.stops .putDataset = true
  · rw [if_pos hst, if_pos hst]
    exact rfl
  · rw [if_neg hst, if_neg hst]
    exact ⟨bytes, hdb, rfl⟩

/-- **The file of the program** is put into the store with an earlier date. -/
theorem useFallback_run {s : Faulty σ} {t : Tables} (hs : s.Shows t) (disk : Disk)
    (source : DatasetSource) (now : SupportedInstant) :
    ∃ store u, LawfulStore.Shows store u ∧
      ((useFallback disk source now.1).run s).2 = { s with store } ∧
      Leaves ((useFallback disk source now.1).run s).1 (now.1.even.back fallbackDays) t u := by
  unfold useFallback
  cases disk.read source.fallbackPath with
  | error fault => exact ⟨s.store, t, hs, rfl, rfl⟩
  | ok bytes =>
    simp only
    cases hdb : Database.ofBytes bytes with
    | error fault => exact ⟨s.store, t, hs, rfl, rfl⟩
    | ok db =>
      simp only
      cases hm : now.1.minusDays? fallbackDays with
      | none => exact ⟨s.store, t, hs, rfl, rfl⟩
      | some time =>
        obtain ⟨rfl, -⟩ := Instant.minusDays?_eq_some hm
        exact keep_run hs (now.2.minusDays? hm) hdb

/-! ## Whole starts -/

/-- A start that finds a database in the store uses it and asks nobody. -/
theorem prepare_cached {s : Faulty σ} {t : Tables} (hs : s.Shows t) (web : Web) (disk : Disk)
    (source : DatasetSource) {now : Instant} {db : Database}
    (hdb : cached (DatedStore.wholeSeconds σ) s.failing now t = some db) :
    ((prepare web disk source now).run s).1 = ⟨.ok db, none⟩ := by
  obtain ⟨store, -, he⟩ := loadCached_run hs now
  rw [prepare_eq, he, hdb]

/-- A start that finds none in the store asks for one. -/
theorem prepare_asks {s : Faulty σ} {t : Tables} (hs : s.Shows t) (web : Web) (disk : Disk)
    (source : DatasetSource) {now : Instant}
    (hnone : cached (DatedStore.wholeSeconds σ) s.failing now t = none) :
    ((prepare web disk source now).run s).1.asked = some (source.urlAt now) := by
  obtain ⟨store, -, he⟩ := loadCached_run hs now
  rw [prepare_eq, he, hnone]

/-- **A start that asks in vain** uses the file of the program. -/
theorem prepare_lacking {s : Faulty σ} {t : Tables} (hs : s.Shows t) {web : Web} (disk : Disk)
    {source : DatasetSource} (now : SupportedInstant)
    (hoffer : web.offer (source.urlAt now.1) = none)
    (hasked : ((prepare web disk source now.1).run s).1.asked ≠ none) :
    ((prepare web disk source now.1).run s).2.failing = s.failing ∧
      ∃ u, ((prepare web disk source now.1).run s).2.Shows u ∧
        Leaves ((prepare web disk source now.1).run s).1.database
          (now.1.even.back fallbackDays) t u := by
  obtain ⟨store, hstore, he⟩ := loadCached_run hs now.1
  cases hc : cached (DatedStore.wholeSeconds σ) s.failing now.1 t with
  | some db => exact absurd (congrArg Prepared.asked (prepare_cached hs web disk source hc)) hasked
  | none =>
    rw [prepare_eq, he, hc, hoffer]
    obtain ⟨store', u, hu, hs', hl⟩ :=
      useFallback_run (s := { s with store }) hstore disk source now
    refine ⟨?_, u, ?_, hl⟩
    · show ((useFallback disk source now.1).run { s with store }).2.failing = s.failing
      rw [hs']
    · show Faulty.Shows ((useFallback disk source now.1).run { s with store }).2 u
      rw [hs']
      exact hu

/-- A start that asked for a new database, got none, and did with the file of the program. -/
structure FellBack (web : Web) (disk : Disk) (source : DatasetSource) (now : Instant)
    (s : Faulty σ) (db : Database) : Prop where
  lacking : web.offer (source.urlAt now) = none
  asked : ((prepare web disk source now).run s).1.asked ≠ none
  used : ((prepare web disk source now).run s).1.database = .ok db

/-- What a start leaves that fell back: the file of the program, dated back. -/
theorem FellBack.leaves {web : Web} {disk : Disk} {source : DatasetSource}
    {now : SupportedInstant} {s : Faulty σ} {t : Tables} {db : Database} (hs : s.Shows t)
    (h : FellBack web disk source now.1 s db) :
    ((prepare web disk source now.1).run s).2.failing = s.failing ∧
      ∃ bytes, Database.ofBytes bytes = .ok db ∧
        ((prepare web disk source now.1).run s).2.Shows
          { t with dataset := some ⟨now.1.even.back fallbackDays, bytes⟩ } := by
  obtain ⟨hfailing, u, hu, hl⟩ := prepare_lacking hs disk now h.lacking h.asked
  rw [h.used] at hl
  obtain ⟨bytes, hdb, rfl⟩ := hl
  exact ⟨hfailing, bytes, hdb, hu⟩

/-- What was dated back by a start is too old from the next day on. -/
theorem isStale_back (whole : Bool) (now later : Instant) :
    isStale later ((now.even.back fallbackDays).cut whole) = true ↔
      Instant.days 1 ≤ later.since (now.even.cut whole) := by
  unfold isStale
  rw [Instant.cut_back, Instant.since_back, decide_eq_true_iff]
  simp only [Instant.days, mostDays, fallbackDays, Instant.secondsPerDay, Instant.nanosPerSecond]
  omega

/-- Why a start asks again after another one fell back: the store cannot be read, or a full day
has gone by. -/
def AsksAgain (whole : Bool) (failing : Failing) (now later : Instant) : Prop :=
  failing.stops .datasetTime = true ∨ failing.stops .dataset = true ∨
    Instant.days 1 ≤ later.since (now.even.cut whole)

theorem cached_after_fallback (whole : Bool) (failing : Failing) {now : Instant}
    (later : Instant) {t : Tables} {bytes : Bytes} {db : Database}
    (hdb : Database.ofBytes bytes = .ok db)
    (ht : t.dataset = some ⟨now.even.back fallbackDays, bytes⟩) :
    (AsksAgain whole failing now later → cached whole failing later t = none) ∧
      (¬ AsksAgain whole failing now later → cached whole failing later t = some db) := by
  have hold := isStale_back whole now later
  unfold AsksAgain cached readable
  rw [ht, ← hold]
  constructor
  · rintro (htime | hdata | hday)
    · simp [htime]
    · simp [hdata]
    · simp [hday]
  · rw [not_or, not_or]
    rintro ⟨htime, hdata, hday⟩
    simp [htime, hdata, hday, hdb, Except.toOption]

/-- **After a fallback the next start asks for a new database** only if it cannot read the
store, or if a full day has gone by. Else the file of the program passes for a new one. -/
theorem asks_after_fallback {web : Web} {disk : Disk} {source : DatasetSource}
    (now : SupportedInstant) {s : Faulty σ} {t : Tables} {db : Database} (hs : s.Shows t)
    (hfell : FellBack web disk source now.1 s db) (events : List Meanwhile) (web' : Web)
    (disk' : Disk) (source' : DatasetSource) (later : Instant) :
    let between := Meanwhile.after events ((prepare web disk source now.1).run s).2
    let second := ((prepare web' disk' source' later).run between).1
    let again := AsksAgain (DatedStore.wholeSeconds σ) between.failing now.1 later
    (again → second.asked = some (source'.urlAt later)) ∧ (¬ again → second = ⟨.ok db, none⟩) := by
  obtain ⟨-, bytes, hdb, hu⟩ := hfell.leaves hs
  obtain ⟨v, hv, hd⟩ := Meanwhile.after_shows hu events
  obtain ⟨hnone, hsome⟩ := cached_after_fallback (DatedStore.wholeSeconds σ)
    (Meanwhile.after events ((prepare web disk source now.1).run s).2).failing later hdb hd
  exact ⟨fun hagain => prepare_asks hv web' disk' source' (hnone hagain),
    fun hagain => prepare_cached hv web' disk' source' (hsome hagain)⟩

def descriptionField (name : String) (value : Bytes) : Bytes :=
  (0x40 + UInt8.ofNat name.length) :: Bytes.ofText name ++ value

/-- The file of a database that knows no address. -/
def bareFile : Bytes :=
  Database.metadataMark ++ 0xe9 ::
    descriptionField "binary_format_major_version" [0xa1, 2] ++
    descriptionField "binary_format_minor_version" [0xa0] ++
    descriptionField "build_epoch" [0, 2] ++ descriptionField "database_type" [0x40] ++
    descriptionField "description" [0xe0] ++ descriptionField "ip_version" [0xa1, 4] ++
    descriptionField "languages" [0, 4] ++ descriptionField "node_count" [0xc0] ++
    descriptionField "record_size" [0xa1, 24]

theorem bareFile_holds : ∃ db, Database.ofBytes bareFile = .ok db := by
  have hok : (Database.ofBytes bareFile).isOk = true := by decide +kernel
  cases hdb : Database.ofBytes bareFile with
  | error fault =>
    rw [hdb] at hok
    cases hok
  | ok db => exact ⟨db, rfl⟩

def bareDisk : Disk := ⟨Dict.ofList [(["bare".toList], bareFile)]⟩

theorem bareDisk_read : bareDisk.read "bare" = .ok bareFile := rfl

def emptyStore : Faulty Tables := ⟨Tables.empty, Failing.none⟩

abbrev midnight : SupportedInstant := ⟨⟨0, 0⟩, rfl⟩

theorem fellBack_midnight : ∃ db,
    FellBack (.silent "refused") bareDisk ⟨"bare", "gone"⟩ midnight.1 emptyStore db := by
  obtain ⟨db, hdb⟩ := bareFile_holds
  have hshows : emptyStore.Shows Tables.empty := rfl
  have hoffer := silent_offer "refused" (DatasetSource.urlAt ⟨"bare", "gone"⟩ midnight.1)
  have hload : (loadCached midnight.1).run emptyStore = (none, emptyStore) := rfl
  have hearlier : midnight.1.minusDays? fallbackDays = some ⟨-2592000, 0⟩ := rfl
  refine ⟨db, hoffer, ?_, ?_⟩
  · rw [prepare_asks hshows _ _ _ rfl]
    exact Option.some_ne_none _
  · rw [prepare_fallback bareDisk hload hoffer, useFallback_of_read bareDisk_read hdb hearlier]
    rfl

/-- In the last second of the day the file still passes for a new database, at its end no more. -/
theorem asks_after_fallback_at_midnight : ∃ db,
    ((prepare (.silent "refused") bareDisk ⟨"bare", "gone"⟩ ⟨86399, 0⟩).run
      ((prepare (.silent "refused") bareDisk ⟨"bare", "gone"⟩ midnight.1).run
        emptyStore).2).1 = ⟨.ok db, none⟩ ∧
    ((prepare (.silent "refused") bareDisk ⟨"bare", "gone"⟩ ⟨86400, 0⟩).run
      ((prepare (.silent "refused") bareDisk ⟨"bare", "gone"⟩ midnight.1).run
        emptyStore).2).1.asked ≠ none := by
  obtain ⟨db, hfell⟩ := fellBack_midnight
  have hshows : emptyStore.Shows Tables.empty := rfl
  have hworks := (hfell.leaves hshows).1
  have hafter := fun later => asks_after_fallback midnight hshows hfell [] (.silent "refused")
    bareDisk ⟨"bare", "gone"⟩ later
  simp only [Meanwhile.after_nil, hworks] at hafter
  have hlate : ¬ AsksAgain false Failing.none midnight.1 ⟨86399, 0⟩ := by
    unfold AsksAgain
    decide
  have hday : AsksAgain false Failing.none midnight.1 ⟨86400, 0⟩ := by
    unfold AsksAgain
    decide
  refine ⟨db, (hafter ⟨86399, 0⟩).2 hlate, ?_⟩
  rw [(hafter ⟨86400, 0⟩).1 hday]
  exact Option.some_ne_none _

/-- **A fallback can be mistaken for a new database**: a start that follows at once asks for
none. -/
theorem fallback_passes_for_new :
    ¬ ∀ (web : Web) (disk : Disk) (source : DatasetSource) (now later : SupportedInstant)
        (s : Faulty Tables) (db : Database), FellBack web disk source now.1 s db →
      0 ≤ later.1.since now.1 →
      ((prepare web disk source later.1).run ((prepare web disk source now.1).run s).2).1.asked ≠
        none := by
  intro h
  obtain ⟨db, hfell⟩ := fellBack_midnight
  have hshows : emptyStore.Shows Tables.empty := rfl
  obtain ⟨hworks, bytes, hdb, hu⟩ := hfell.leaves hshows
  have hsoon : ¬ AsksAgain false emptyStore.failing midnight.1 midnight.1 := by
    unfold AsksAgain
    decide
  have hcached := (cached_after_fallback (t := { Tables.empty with
    dataset := some ⟨midnight.1.even.back fallbackDays, bytes⟩ }) false emptyStore.failing
    midnight.1 hdb rfl).2 hsoon
  rw [← hworks] at hcached
  refine h (.silent "refused") bareDisk ⟨"bare", "gone"⟩ midnight midnight emptyStore db hfell
    (by decide) ?_
  rw [prepare_cached hu _ _ _ hcached]

end Geo

end Firewall
