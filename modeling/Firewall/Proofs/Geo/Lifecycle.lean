import Firewall.Proofs.Geo.Dataset

/-!
What a start does to get hold of a country database, in every combination of what it finds: a row
in the store, an answer from the web, the file of the program, and calls on the store that fail.

A row that can be read, is younger than thirty-one days and holds a database is used, and nothing
else happens. Otherwise the first usable supply counts, the web's before the file's, and it is
used only if it could be put into the store. So a start that succeeds leaves in the store the very
bytes that it uses, and one that fails leaves the row as it was.

Proved here:

* `cached_eq_some_iff`: which row is used;
* `prepare_supply`, `prepare_no_supply`: a start without such a row puts the first supply into
  the store, if there is one;
* `prepare_supplied`: what it gives and leaves then;
* `prepare_lifecycle`: the whole table of cases.
-/

namespace Firewall.Geo

/-! ## Rows and supplies -/

/-- A row that can be read, is young enough and holds a database. -/
structure Usable (whole : Bool) (failing : Failing) (now : Instant) (t : Tables) (db : Database) :
    Prop where
  time : failing.stops .datasetTime = false
  bytes : failing.stops .dataset = false
  row : ∃ row, t.dataset = some row ∧ now.since (row.time.cut whole) < Instant.days mostDays ∧
    Database.ofBytes row.bytes = .ok db

theorem isStale_eq_false_iff {now time : Instant} :
    isStale now time = false ↔ now.since time < Instant.days mostDays := by
  rw [isStale, decide_eq_false_iff_not, not_le]

theorem cached_eq_some_iff {whole : Bool} {failing : Failing} {now : Instant} {t : Tables}
    {db : Database} : cached whole failing now t = some db ↔ Usable whole failing now t db := by
  unfold cached readable
  constructor
  · intro h
    obtain ⟨row, hrow, h⟩ := Option.bind_eq_some_iff.mp h
    split at hrow
    · cases hrow
    · next hreads =>
      rw [Bool.or_eq_true, not_or, Bool.not_eq_true, Bool.not_eq_true] at hreads
      split at h
      · cases h
      · next hyoung =>
        rw [Bool.not_eq_true, isStale_eq_false_iff] at hyoung
        refine ⟨hreads.1, hreads.2, row, hrow, hyoung, ?_⟩
        cases hdb : Database.ofBytes row.bytes with
        | error fault =>
          rw [hdb] at h
          cases h
        | ok found =>
          rw [hdb] at h
          cases h
          rfl
  · rintro ⟨htime, hdata, row, hrow, hyoung, hdb⟩
    simp [htime, hdata, hrow, isStale_eq_false_iff.mpr hyoung, hdb, Except.toOption]

/-- Bytes from outside that hold a database, and the time that they would be stored with. -/
structure Supply where
  time : Instant
  bytes : Bytes
  database : Database
  holds : Database.ofBytes bytes = .ok database

namespace Supply

def ofBytes? (time : Instant) (bytes : Bytes) : Option Supply :=
  match h : Database.ofBytes bytes with
  | .ok db => some ⟨time, bytes, db, h⟩
  | .error _ => none

def ofWeb? (web : Web) (source : DatasetSource) (now : Instant) : Option Supply :=
  (web.download (source.urlAt now)).toOption.bind (ofBytes? now)

def ofDisk? (disk : Disk) (source : DatasetSource) (earlier : Instant) : Option Supply :=
  (disk.read source.fallbackPath).toOption.bind (ofBytes? earlier)

def first? (web : Web) (disk : Disk) (source : DatasetSource) (now earlier : Instant) :
    Option Supply :=
  (ofWeb? web source now).or (ofDisk? disk source earlier)

def row (p : Supply) : CachedDataset := ⟨p.time, p.bytes⟩

theorem ofBytes?_of_ok {time : Instant} {bytes : Bytes} {db : Database}
    (h : Database.ofBytes bytes = .ok db) : ofBytes? time bytes = some ⟨time, bytes, db, h⟩ := by
  unfold ofBytes?
  split
  · next h' =>
    rw [h] at h'
    cases h'
    rfl
  · next h' =>
    rw [h] at h'
    cases h'

theorem ofBytes?_of_error {time : Instant} {bytes : Bytes} {fault : Database.Fault}
    (h : Database.ofBytes bytes = .error fault) : ofBytes? time bytes = none := by
  unfold ofBytes?
  split
  · next h' =>
    rw [h] at h'
    cases h'
  · rfl

theorem eq_of_ofBytes? {time : Instant} {bytes : Bytes} {p : Supply}
    (h : ofBytes? time bytes = some p) : p.time = time ∧ p.bytes = bytes := by
  unfold ofBytes? at h
  split at h
  · cases h
    exact ⟨rfl, rfl⟩
  · cases h

theorem time_first? {web : Web} {disk : Disk} {source : DatasetSource} {now earlier : Instant}
    {p : Supply} (h : first? web disk source now earlier = some p) :
    p.time = now ∨ p.time = earlier := by
  rcases Option.or_eq_some_iff.mp h with h | ⟨-, h⟩
  · obtain ⟨bytes, -, hp⟩ := Option.bind_eq_some_iff.mp h
    exact .inl (eq_of_ofBytes? hp).1
  · obtain ⟨bytes, -, hp⟩ := Option.bind_eq_some_iff.mp h
    exact .inr (eq_of_ofBytes? hp).1

theorem offer_eq (web : Web) (source : DatasetSource) (now : Instant) :
    web.offer (source.urlAt now) =
      (ofWeb? web source now).map fun p => (p.bytes, p.database) := by
  unfold Web.offer ofWeb?
  cases web.download (source.urlAt now) with
  | error fault => rfl
  | ok bytes =>
    simp only [Except.toOption, Option.bind_some]
    cases hdb : Database.ofBytes bytes with
    | error fault =>
      rw [ofBytes?_of_error hdb]
      rfl
    | ok db =>
      rw [ofBytes?_of_ok hdb]
      rfl

theorem offer_eq_none {web : Web} {source : DatasetSource} {now : Instant}
    (h : ofWeb? web source now = none) : web.offer (source.urlAt now) = none := by
  rw [offer_eq, h, Option.map_none]

/-- Without an answer from the web, a file that holds a database is the first supply. -/
theorem first?_of_file {web : Web} {disk : Disk} {source : DatasetSource} {now : Instant}
    {bytes : Bytes} {db : Database} (hoffer : web.offer (source.urlAt now) = none)
    (hread : disk.read source.fallbackPath = .ok bytes) (hdb : Database.ofBytes bytes = .ok db)
    (earlier : Instant) :
    first? web disk source now earlier = some ⟨earlier, bytes, db, hdb⟩ := by
  have hweb : ofWeb? web source now = none :=
    Option.map_eq_none_iff.mp ((offer_eq web source now).symm.trans hoffer)
  rw [first?, hweb, Option.none_or, ofDisk?, hread]
  exact ofBytes?_of_ok hdb

end Supply

/-! ## Starts without a usable row -/

section Parts

variable {σ : Type} [RecordStore σ]

def Supply.use (p : Supply) : StateM σ (Except SetupFault Database) :=
  keep p.time p.bytes p.database

/-- **The file of the program** is used if it is a supply. -/
theorem useFallback_supply {disk : Disk} {source : DatasetSource} {now earlier : Instant}
    {p : Supply} (hearlier : now.minusDays? fallbackDays = some earlier)
    (hp : Supply.ofDisk? disk source earlier = some p) (s : σ) :
    (useFallback disk source now).run s = p.use.run s := by
  obtain ⟨bytes, hread, hp⟩ := Option.bind_eq_some_iff.mp hp
  obtain ⟨rfl, rfl⟩ := Supply.eq_of_ofBytes? hp
  cases hfile : disk.read source.fallbackPath with
  | error fault =>
    rw [hfile] at hread
    cases hread
  | ok bytes =>
    rw [hfile] at hread
    cases hread
    exact useFallback_of_read hfile p.holds hearlier s

/-- Without it the store is not touched. -/
theorem useFallback_none {disk : Disk} {source : DatasetSource} {earlier : Instant}
    (hnone : Supply.ofDisk? disk source earlier = none) (now : Instant) (s : σ) :
    ∃ fault, (useFallback disk source now).run s = (.error fault, s) := by
  unfold useFallback
  unfold Supply.ofDisk? at hnone
  cases hfile : disk.read source.fallbackPath with
  | error fault => exact ⟨_, rfl⟩
  | ok bytes =>
    rw [hfile] at hnone
    cases hdb : Database.ofBytes bytes with
    | error fault =>
      simp only [hdb]
      exact ⟨_, rfl⟩
    | ok db =>
      have hsome : Supply.ofBytes? earlier bytes = none := hnone
      rw [Supply.ofBytes?_of_ok hdb] at hsome
      cases hsome

end Parts

variable {σ : Type} [RecordStore σ] [DatedStore σ]

theorem prepare_usable {s : Faulty σ} {t : Tables} (hs : s.Shows t) (web : Web) (disk : Disk)
    (source : DatasetSource) {now : Instant} {db : Database}
    (hdb : cached (DatedStore.wholeSeconds σ) s.failing now t = some db) :
    ∃ store, LawfulStore.Shows store t ∧
      (prepare web disk source now).run s = (⟨.ok db, none⟩, { s with store }) := by
  obtain ⟨store, hstore, hload⟩ := loadCached_run hs now
  exact ⟨store, hstore, by rw [prepare_eq, hload, hdb]⟩

/-- **A start without a usable row** uses the first supply. -/
theorem prepare_supply {s : Faulty σ} {t : Tables} (hs : s.Shows t) {web : Web} {disk : Disk}
    {source : DatasetSource} {now earlier : Instant} {p : Supply}
    (hearlier : now.minusDays? fallbackDays = some earlier)
    (hnone : cached (DatedStore.wholeSeconds σ) s.failing now t = none)
    (hp : Supply.first? web disk source now earlier = some p) :
    ∃ store, LawfulStore.Shows store t ∧ (prepare web disk source now).run s =
      (⟨(p.use.run { s with store }).1, some (source.urlAt now)⟩,
        (p.use.run { s with store }).2) := by
  obtain ⟨store, hstore, hload⟩ := loadCached_run hs now
  rw [hnone] at hload
  refine ⟨store, hstore, ?_⟩
  rcases Option.or_eq_some_iff.mp hp with hweb | ⟨hweb, hdisk⟩
  · obtain ⟨bytes, -, hbytes⟩ := Option.bind_eq_some_iff.mp hweb
    obtain ⟨rfl, -⟩ := Supply.eq_of_ofBytes? hbytes
    rw [prepare_eq, hload, Supply.offer_eq, hweb, Option.map_some]
    rfl
  · rw [prepare_fallback disk hload (Supply.offer_eq_none hweb),
      useFallback_supply hearlier hdisk]

/-- If there is none, it gives up without touching the row. -/
theorem prepare_no_supply {s : Faulty σ} {t : Tables} (hs : s.Shows t) {web : Web} {disk : Disk}
    {source : DatasetSource} {now earlier : Instant}
    (hnone : cached (DatedStore.wholeSeconds σ) s.failing now t = none)
    (hlacks : Supply.first? web disk source now earlier = none) :
    ∃ store fault, LawfulStore.Shows store t ∧ (prepare web disk source now).run s =
      (⟨.error fault, some (source.urlAt now)⟩, { s with store }) := by
  obtain ⟨store, hstore, hload⟩ := loadCached_run hs now
  rw [hnone] at hload
  obtain ⟨hweb, hdisk⟩ := Option.or_eq_none_iff.mp hlacks
  obtain ⟨fault, hfile⟩ := useFallback_none hdisk now ({ s with store } : Faulty σ)
  refine ⟨store, fault, hstore, ?_⟩
  rw [prepare_fallback disk hload (Supply.offer_eq_none hweb), hfile]

/-- **What comes of the supply that is used**: it replaces the row, unless the store does not take
it; then the start fails and the row stays. -/
theorem prepare_supplied {s : Faulty σ} {t : Tables} (hs : s.Shows t) {web : Web} {disk : Disk}
    {source : DatasetSource} {now : SupportedInstant} {earlier : Instant} {p : Supply}
    (hearlier : now.1.minusDays? fallbackDays = some earlier)
    (hnone : cached (DatedStore.wholeSeconds σ) s.failing now.1 t = none)
    (hp : Supply.first? web disk source now.1 earlier = some p) :
    ∃ store, LawfulStore.Shows store
        (if s.failing.stops .putDataset then t else { t with dataset := some p.row }) ∧
      (prepare web disk source now.1).run s =
        (⟨if s.failing.stops .putDataset then
            .error (.cacheDataset (.fault (.injected StoreCall.putDataset.name)))
          else .ok p.database, some (source.urlAt now.1)⟩, { s with store }) := by
  obtain ⟨store, hstore, hrun⟩ := prepare_supply hs hearlier hnone hp
  have htime : p.time.Supported := by
    rcases Supply.time_first? hp with h | h
    · exact h ▸ now.2
    · exact h ▸ now.2.minusDays? hearlier
  obtain ⟨store', hstore', hkeep⟩ :=
    keep_gives (s := { s with store }) hstore htime p.bytes p.database
  have huse : p.use.run { s with store } = _ := hkeep
  exact ⟨store', hstore', by rw [hrun, huse]⟩

/-- **The life of a dataset.** A start uses the row in the store if it can be read, is young
enough and holds a database; then nobody is asked and the row stays. Otherwise the address of the
month is asked, and the first supply replaces the row and is used. Without a supply, or if the
store does not take it, the start fails and the row stays. So whatever is used is what the store
holds. -/
theorem prepare_lifecycle {s : Faulty σ} {t : Tables} (hs : s.Shows t) (web : Web) (disk : Disk)
    (source : DatasetSource) (now : SupportedInstant) {earlier : Instant}
    (hearlier : now.1.minusDays? fallbackDays = some earlier) :
    let usable := Usable (DatedStore.wholeSeconds σ) s.failing now.1 t
    let result := ((prepare web disk source now.1).run s).1
    ∃ u, ((prepare web disk source now.1).run s).2.Shows u ∧
      (∀ db, usable db → result = ⟨.ok db, none⟩ ∧ u = t) ∧
      ((∀ db, ¬ usable db) → result.asked = some (source.urlAt now.1) ∧
        (∀ p, Supply.first? web disk source now.1 earlier = some p →
          s.failing.stops .putDataset = false →
          result.database = .ok p.database ∧ u = { t with dataset := some p.row }) ∧
        (Supply.first? web disk source now.1 earlier = none ∨
            s.failing.stops .putDataset = true →
          (∃ fault, result.database = .error fault ∧ (Error.setup fault).kind = .pluginInit) ∧
            u = t)) ∧
      ∀ db, result.database = .ok db →
        ∃ row, u.dataset = some row ∧ Database.ofBytes row.bytes = .ok db := by
  intro usable result
  simp only [usable, result, ← cached_eq_some_iff]
  cases hc : cached (DatedStore.wholeSeconds σ) s.failing now.1 t with
  | some db =>
    obtain ⟨store, hstore, hrun⟩ := prepare_usable hs web disk source hc
    rw [hrun]
    refine ⟨t, hstore, ?_, fun hnone => absurd rfl (hnone db), ?_⟩
    · rintro _ ⟨⟩
      exact ⟨rfl, rfl⟩
    · rintro _ ⟨⟩
      obtain ⟨-, -, row, hrow, -, hdb⟩ := cached_eq_some_iff.mp hc
      exact ⟨row, hrow, hdb⟩
  | none =>
    -- what is in the store is of no use, so the first supply decides
    cases hfirst : Supply.first? web disk source now.1 earlier with
    | none =>
      obtain ⟨store, fault, hstore, hrun⟩ := prepare_no_supply hs hc hfirst
      rw [hrun]
      exact ⟨t, hstore, nofun, fun _ => ⟨rfl, nofun, fun _ => ⟨⟨fault, rfl, rfl⟩, rfl⟩⟩, nofun⟩
    | some p =>
      obtain ⟨store, hstore, hrun⟩ := prepare_supplied hs hearlier hc hfirst
      rw [hrun]
      cases hstops : s.failing.stops .putDataset with
      | true =>
        rw [hstops] at hstore
        exact ⟨t, hstore, nofun, fun _ => ⟨rfl, nofun, fun _ => ⟨⟨_, rfl, rfl⟩, rfl⟩⟩, nofun⟩
      | false =>
        rw [hstops] at hstore
        refine ⟨_, hstore, nofun, fun _ => ⟨rfl, ?_, ?_⟩, ?_⟩
        · rintro _ ⟨⟩ -
          exact ⟨rfl, rfl⟩
        · rintro (hlacks | hstops)
          · cases hlacks
          · cases hstops
        · rintro _ ⟨⟩
          exact ⟨p.row, rfl, p.holds⟩

/-- A store whose row is just too old, and is no database either. -/
def oldStore : Faulty Tables :=
  ⟨{ Tables.empty with dataset := some ⟨⟨-2678400, 0⟩, [1]⟩ }, Failing.none⟩

/-- A row of thirty-one days is too old; without the web the file of the program takes its
place. -/
theorem prepare_lifecycle_old : ∃ db,
    ((prepare (.silent "refused") bareDisk ⟨"bare", "gone"⟩ midnight.1).run oldStore).1.database =
        .ok db ∧
      ((prepare (.silent "refused") bareDisk ⟨"bare", "gone"⟩ midnight.1).run
        oldStore).2.store.dataset = some ⟨⟨-2592000, 0⟩, bareFile⟩ := by
  have hshows : oldStore.Shows oldStore.store := rfl
  have hearlier : midnight.1.minusDays? fallbackDays = some ⟨-2592000, 0⟩ := rfl
  obtain ⟨u, hu, -, hlacking, -⟩ := prepare_lifecycle hshows (.silent "refused") bareDisk
    ⟨"bare", "gone"⟩ midnight hearlier
  have hold : ∀ db, ¬ Usable false oldStore.failing midnight.1 oldStore.store db := by
    rintro db ⟨-, -, row, hrow, hyoung, -⟩
    cases hrow
    exact absurd hyoung (by decide)
  obtain ⟨db, hdb⟩ := bareFile_holds
  have hfirst := Supply.first?_of_file
    (silent_offer "refused" (DatasetSource.urlAt ⟨"bare", "gone"⟩ midnight.1)) bareDisk_read hdb
    ⟨-2592000, 0⟩
  obtain ⟨-, hsupplied, -⟩ := hlacking hold
  obtain ⟨hused, rfl⟩ := hsupplied _ hfirst rfl
  exact ⟨db, hused, congrArg Tables.dataset hu⟩

end Firewall.Geo
