import Firewall.Command.Administer
import Firewall.Proofs.Command.Job
import Firewall.Proofs.Geo.Dataset
import Firewall.Proofs.Store.Reading

/-!
What the commands of administration that are not meant to change anything leave in a shared
store, whatever it holds, whatever happens to the connection, and however they end.

A report only reads. A test of a request sets up a whole engine, and with it the country guard,
which looks for a database. Where the store has none that is young enough, the guard gets one
and puts it into the store. So a test changes the cached dataset, and nothing else.

Proved here:

* `Geo.prepare_leaves`: what getting hold of a database leaves in a store;
* `Geo.loadCached_alike`: over a sound way to the server, what is found depends on the keys only;
* `Job.report_stays`, `Job.test_leaves`: what the steps of the two commands leave;
* `Console.administer_keeps_records`: what is left of the keys when a command has ended;
* `Console.test_writes`: a test that writes.
-/

namespace Firewall

/-! ## Getting hold of a database -/

namespace Geo

/-- The dataset that a start without a usable copy puts into the store: a downloaded one with
the present time, else the file of the program, dated back. -/
def renewal? (web : Web) (disk : Disk) (source : DatasetSource) (now : Instant) :
    Option CachedDataset :=
  match web.offer (source.urlAt now) with
  | some (bytes, _) => some ⟨now, bytes⟩
  | none => match disk.read source.fallbackPath with
    | .error _ => none
    | .ok bytes => match Database.ofBytes bytes with
      | .error _ => none
      | .ok _ => (now.minusDays? fallbackDays).map fun time => ⟨time, bytes⟩

section

variable {σ : Type} [RecordStore σ]

theorem keep_store (time : Instant) (bytes : Bytes) (db : Database) (s : σ) :
    ((keep time bytes db).run s).2 =
      ((RecordStore.putDataset time bytes : Access σ Unit).on s).2 := by
  rw [keep_eq]
  rcases (RecordStore.putDataset time bytes : Access σ Unit).on s with ⟨e | u, s⟩ <;> rfl

theorem useFallback_store (disk : Disk) (source : DatasetSource) (now : Instant) (s : σ) :
    ((useFallback disk source now).run s).2 =
      match disk.read source.fallbackPath with
      | .error _ => s
      | .ok bytes => match Database.ofBytes bytes with
        | .error _ => s
        | .ok _ => match now.minusDays? fallbackDays with
          | none => s
          | some time => ((RecordStore.putDataset time bytes : Access σ Unit).on s).2 := by
  unfold useFallback
  cases disk.read source.fallbackPath with
  | error fault => rfl
  | ok bytes =>
    simp only
    cases Database.ofBytes bytes with
    | error fault => rfl
    | ok db =>
      simp only
      cases now.minusDays? fallbackDays with
      | none => rfl
      | some time => exact keep_store time bytes db s

/-- **What a start leaves in the store**: it reads, and only where it finds no usable copy it puts
one there. -/
theorem prepare_store (web : Web) (disk : Disk) (source : DatasetSource) (now : Instant) (s : σ) :
    ((prepare web disk source now).run s).2 =
      match (loadCached now).run s with
      | (some _, s) => s
      | (none, s) => match renewal? web disk source now with
        | none => s
        | some d => ((RecordStore.putDataset d.time d.bytes : Access σ Unit).on s).2 := by
  rw [prepare_eq]
  rcases (loadCached now).run s with ⟨_ | db, s⟩
  · unfold renewal?
    cases web.offer (source.urlAt now) with
    | some offer =>
      obtain ⟨bytes, db⟩ := offer
      exact keep_store now bytes db s
    | none =>
      rw [useFallback_store]
      cases disk.read source.fallbackPath with
      | error fault => rfl
      | ok bytes =>
        simp only
        cases Database.ofBytes bytes with
        | error fault => rfl
        | ok db => cases now.minusDays? fallbackDays <;> rfl
  · rfl

end

/-- Looking into a shared store for a usable copy changes nothing there. -/
theorem loadCached_reads (now : Instant) (s : Shared) :
    ((loadCached now).run s).2.root = s.root ∧
      ((loadCached now).run s).2.server.keys = s.server.keys := by
  have htime := And.intro (Shared.reads_datasetTime.root s) (Shared.reads_datasetTime.keys s)
  rw [loadCached_eq]
  rcases ht : (RecordStore.datasetTime : Access Shared Instant).on s with ⟨e | time, t⟩
  · rw [ht] at htime
    exact htime
  · rw [ht] at htime
    by_cases hst : isStale now time = true
    · simp only [hst, if_true]
      exact htime
    · have hdata := And.intro (Shared.reads_dataset.root t) (Shared.reads_dataset.keys t)
      simp only [hst]
      rcases hd : (RecordStore.dataset : Access Shared CachedDataset).on t with ⟨e | d, u⟩ <;>
        rw [hd] at hdata
      · exact ⟨hdata.1.trans htime.1, hdata.2.trans htime.2⟩
      · exact ⟨hdata.1.trans htime.1, hdata.2.trans htime.2⟩

/-- What is found in a store depends on its keys only, where the way to the server is sound. -/
theorem loadCached_alike (now : Instant) {s t : Shared} (h : Shared.Alike s t) :
    ((loadCached now).run s).1 = ((loadCached now).run t).1 := by
  have htime := Shared.reads_datasetTime.answer s t h
  have halike := Shared.reads_datasetTime.alike h
  rw [loadCached_eq, loadCached_eq]
  rcases hs : (RecordStore.datasetTime : Access Shared Instant).on s with ⟨answer, s'⟩
  rcases ht : (RecordStore.datasetTime : Access Shared Instant).on t with ⟨answer', t'⟩
  rw [hs, ht] at htime halike
  cases htime
  cases answer with
  | error e => rfl
  | ok time =>
    have hdata := Shared.reads_dataset.answer s' t' halike
    by_cases hst : isStale now time = true
    · simp only [hst, if_true]
    · simp only [hst]
      rcases hs' : (RecordStore.dataset : Access Shared CachedDataset).on s' with ⟨found, u⟩
      rcases ht' : (RecordStore.dataset : Access Shared CachedDataset).on t' with ⟨found', v⟩
      rw [hs', ht'] at hdata
      cases hdata
      cases found <;> rfl

/-- The usable copy in the keys below a root: what is found there over a sound way. -/
def usable? (root : String) (keys : Keyspace) (now : Instant) : Option Database :=
  ((loadCached now).run (⟨root, none, ⟨keys, Link.sound⟩⟩ : Shared)).1

/-- What the keys of a shared store may be when a start has looked for a database: as they were,
or with another dataset, if it found no usable copy. Over a sound way to the server that means
that there was none. -/
inductive Renewal (web : Web) (disk : Disk) (source : DatasetSource) (now : Instant) (s : Shared)
    (keys : Keyspace) : Prop
  | none (same : keys = s.server.keys)
  | some {d : CachedDataset}
      (lacking : s.server.link = Link.sound → usable? s.root s.server.keys now = Option.none)
      (dataset : renewal? web disk source now = Option.some d)
      (written : s.server.keys.setFields (Shared.datasetKey s.root)
        (Shared.datasetRows d.time d.bytes) = .ok keys)

/-- **What getting hold of a database leaves in a shared store**, whatever happens to the
connection. -/
theorem prepare_leaves (web : Web) (disk : Disk) (source : DatasetSource) (now : Instant)
    (s : Shared) :
    ((prepare web disk source now).run s).2.root = s.root ∧
      Renewal web disk source now s ((prepare web disk source now).run s).2.server.keys := by
  obtain ⟨hroot, hkeys⟩ := loadCached_reads now s
  rw [prepare_store]
  rcases hl : (loadCached now).run s with ⟨_ | db, t⟩
  · rw [hl] at hroot hkeys
    simp only at hroot hkeys ⊢
    cases hd : renewal? web disk source now with
    | none => exact ⟨hroot, .none hkeys⟩
    | some d =>
      obtain ⟨hroot', hput⟩ := Shared.putDataset_leaves d.time d.bytes t
      refine ⟨hroot'.trans hroot, ?_⟩
      rcases hput with hput | hput
      · exact .none (hput.trans hkeys)
      · rw [hkeys, hroot] at hput
        refine .some (fun hsound => ?_) hd hput
        have hfound := loadCached_alike now
          (s := s) (t := ⟨s.root, Option.none, ⟨s.server.keys, Link.sound⟩⟩)
          ⟨rfl, rfl, hsound, rfl⟩
        rw [hl] at hfound
        exact hfound.symm
  · rw [hl] at hroot hkeys
    exact ⟨hroot, .none hkeys⟩

end Geo

/-! ## Parts of commands -/

/-- What a command on a shared store works with: the root and the keys of the store, the web,
the clock and the files. -/
structure Scene where
  root : String
  keys : Keyspace
  web : Geo.Web
  clock : Instant
  disk : Disk

def Site.scene (s : Site Shared) : Scene :=
  ⟨s.world.store.root, s.world.store.server.keys, s.world.web, s.world.clock, s.world.paper.disk⟩

def Site.Sound (s : Site Shared) : Prop := s.world.store.server.link = Link.sound

/-- From one site to another: what there is to work with is the same, and a way to the server
that was sound is still so. -/
structure Site.Same (s t : Site Shared) : Prop where
  scene : t.scene = s.scene
  sound : s.Sound → t.Sound

namespace Site.Same

theorem refl (s : Site Shared) : Same s s := ⟨rfl, id⟩

theorem trans {s t u : Site Shared} (h : Same s t) (h' : Same t u) : Same s u :=
  ⟨h'.scene.trans h.scene, h'.sound ∘ h.sound⟩

end Site.Same

/-- A program leaves what there is to work with as it is, however it ends. -/
def Stays {ε α : Type} (m : ExceptT ε (StateM (Site Shared)) α) : Prop :=
  ∀ s, Site.Same s (m.run s).2

namespace Stays

variable {ε α β : Type}

theorem pure (a : α) : Stays (Pure.pure a : ExceptT ε (StateM (Site Shared)) α) :=
  fun s => .refl s

theorem bind {m : ExceptT ε (StateM (Site Shared)) α}
    {f : α → ExceptT ε (StateM (Site Shared)) β} (hm : Stays m) (hf : ∀ a, Stays (f a)) :
    Stays (m >>= f) := by
  intro s
  have hs := hm s
  rw [bind_state]
  rcases h : m.run s with ⟨e | a, t⟩ <;> rw [h] at hs
  · exact hs
  · exact hs.trans (hf a t)

theorem forM {m : α → ExceptT ε (StateM (Site Shared)) PUnit} (hm : ∀ a, Stays (m a))
    (as : List α) : Stays (as.forM m) := by
  induction as with
  | nil => exact .pure _
  | cons a as ih => exact (hm a).bind fun _ => ih

end Stays

namespace Site

theorem ask_same {α : Type} {a : Access Shared α} (ha : Shared.Reads a) (s : Site Shared) :
    Same s (ask a s).2 where
  scene := by
    unfold scene
    rw [← ha.root s.world.store, ← ha.keys s.world.store]
    rfl
  sound := ha.sound s.world.store

theorem need_stays {α : Type} {a : Access Shared α} (ha : Shared.Reads a) : Stays (need a) := by
  intro s
  have hs := ask_same ha s
  rw [need_run]
  rcases h : ask a s with ⟨e | x, t⟩ <;> rw [h] at hs <;> exact hs

theorem startFeed_stays : Stays (startFeed : Attempt Shared Nat) := by
  intro s
  have hs := ask_same Shared.reads_latest s
  rw [startFeed_run]
  rcases h : ask RecordStore.latest s with ⟨answer, t⟩
  rw [h] at hs
  cases hh : Feed.headOf answer with
  | error e =>
    simp only [hh]
    exact hs
  | ok head =>
    simp only [hh]
    exact hs.trans ⟨rfl, id⟩

theorem startPolicy_stays : Stays (startPolicy : Attempt Shared Nat) := by
  intro s
  have hs := ask_same Shared.reads_settings s
  rw [startPolicy_run]
  rcases h : ask RecordStore.settings s with ⟨e | rows, t⟩ <;> rw [h] at hs
  · exact hs
  · exact hs.trans ⟨rfl, id⟩

theorem startGuard_stays (lookup : Geo.Lookup) :
    Stays (startGuard lookup : Attempt Shared Nat) := by
  intro s
  have hs := ask_same Shared.reads_rules s
  rw [startGuard_run]
  rcases h : ask RecordStore.rules s with ⟨e | rules, t⟩ <;> rw [h] at hs
  · exact hs
  · exact hs.trans ⟨rfl, id⟩

/-- Setting up an engine opens the files of its audit. -/
theorem startEngine_scene (policy : Nat) (outputs format : String) (s : Site Shared) :
    ((startEngine policy outputs format).run s).2.scene =
        { s.scene with disk := (AuditOutput.build outputs format s.world.paper.disk).2 } ∧
      (s.Sound → ((startEngine policy outputs format).run s).2.Sound) := by
  rw [startEngine_run]
  rcases AuditOutput.build outputs format s.world.paper.disk with ⟨cause | output, disk⟩ <;>
    exact ⟨rfl, id⟩

theorem startDatasetGuard_run (source : Geo.DatasetSource) (s : Site Shared) :
    (startDatasetGuard source).run s =
      match (Geo.prepare s.world.web s.world.paper.disk source s.world.clock).run s.world.store with
      | (prepared, store) =>
        let s := { s with world := { s.world with store } }
        match prepared.database with
        | .error fault => (.error (.setup fault), s)
        | .ok db => (startGuard db.countryOf?).run s := by
  unfold startDatasetGuard
  rw [bind_run]
  simp only [show (get : Attempt Shared (Site Shared)).run s = (.ok s, s) from rfl]
  rcases (Geo.prepare s.world.web s.world.paper.disk source s.world.clock).run s.world.store with
    ⟨⟨fault | db, asked⟩, store⟩ <;> rfl

/-- **What setting up a country guard leaves in a shared store**. -/
theorem startDatasetGuard_leaves (source : Geo.DatasetSource) (s : Site Shared) :
    Geo.Renewal s.world.web s.world.paper.disk source s.world.clock s.world.store
      ((startDatasetGuard source).run s).2.world.store.server.keys := by
  obtain ⟨-, hleaves⟩ := Geo.prepare_leaves s.world.web s.world.paper.disk source s.world.clock
    s.world.store
  rw [startDatasetGuard_run]
  rcases h : (Geo.prepare s.world.web s.world.paper.disk source s.world.clock).run s.world.store
    with ⟨⟨fault | db, asked⟩, store⟩
  · rw [h] at hleaves
    exact hleaves
  · rw [h] at hleaves
    have hguard := startGuard_stays db.countryOf? { s with world := { s.world with store } }
    have hkeys : _ = store.server.keys := congrArg Scene.keys hguard.scene
    rw [← hkeys] at hleaves
    exact hleaves

theorem registerUsual_store (countries : Bool) (source : Geo.DatasetSource) (s : Site Shared) :
    (registerUsual countries source s).2.world.store =
      if countries then ((startDatasetGuard source).run s).2.world.store else s.world.store := by
  cases countries with
  | false => rfl
  | true =>
    unfold registerUsual
    simp only [if_true, bind, StateT.bind]
    rcases (startDatasetGuard source).run s with ⟨e | n, t⟩ <;> rfl

end Site

namespace Job

theorem within_stays {α : Type} {words : Error → CommandFault} {a : Attempt Shared α}
    (ha : Stays a) : Stays (within words a) := by
  intro s
  rw [within_state]
  exact ha s

theorem act_stays {α : Type} {a : Act Shared α} (ha : ∀ s, (a s).2 = s) : Stays (act a) := by
  intro s
  show Site.Same s (a s).2
  rw [ha]
  exact .refl s

theorem say_stays (line : String) : Stays (say line : Job Shared Unit) := fun _ => ⟨rfl, id⟩

theorem join_stays : Stays (join : Job Shared Nat) :=
  (within_stays Site.startFeed_stays).bind fun _ => within_stays Site.startPolicy_stays

/-- **A report only reads.** -/
theorem report_stays (n : Nat) : Stays (report n : Job Shared Unit) := by
  unfold report
  refine (act_stays fun _ => rfl).bind fun p => ?_
  refine (say_stays _).bind fun _ => ?_
  refine (say_stays _).bind fun _ => ?_
  refine (say_stays _).bind fun _ => ?_
  refine (say_stays _).bind fun _ => ?_
  refine (say_stays _).bind fun _ => ?_
  refine (say_stays _).bind fun _ => ?_
  refine (Stays.forM say_stays _).bind fun _ => ?_
  refine (within_stays (Site.need_stays Shared.reads_rules)).bind fun rules => ?_
  exact say_stays _

/-- What the keys may be when a test has been run among given things: as they were, or, if the
country guard is wanted and found no usable copy of a database, with another dataset. -/
inductive Tested (s : Settings) (x : Scene) (sound : Prop) (keys : Keyspace) : Prop
  | same (same : keys = x.keys)
  | renewed {d : CachedDataset} (enabled : s.countries.enable = true)
      (lacking : sound → Geo.usable? x.root x.keys x.clock = none)
      (dataset : Geo.renewal? x.web (AuditOutput.build s.audit.outputs s.audit.format x.disk).2
        s.countries.source x.clock = some d)
      (written : x.keys.setFields (Shared.datasetKey x.root)
        (Shared.datasetRows d.time d.bytes) = .ok keys)

theorem Tested.weaken {s : Settings} {x : Scene} {sound stronger : Prop} {keys : Keyspace}
    (h : Tested s x sound keys) (hs : stronger → sound) : Tested s x stronger keys := by
  rcases h with hsame | ⟨henable, hlack, hdata, hwritten⟩
  · exact .same hsame
  · exact .renewed henable (hlack ∘ hs) hdata hwritten

/-- What the plugins of an engine leave when they have been set up. -/
theorem registerUsual_leaves {s : Settings} {x : Scene} {sound : Prop} {t : Site Shared}
    (ht : t.scene =
      { x with disk := (AuditOutput.build s.audit.outputs s.audit.format x.disk).2 })
    (hsound : sound → t.Sound) :
    Tested s x sound
      (Site.registerUsual s.countries.enable s.countries.source t).2.world.store.server.keys := by
  obtain ⟨root, keys, web, clock, disk⟩ := x
  obtain ⟨rfl, rfl, rfl, rfl, hdisk⟩ := Scene.mk.inj ht
  rw [Site.registerUsual_store]
  by_cases henable : s.countries.enable = true
  · rw [if_pos henable]
    rcases Site.startDatasetGuard_leaves s.countries.source t with hsame | ⟨hlack, hdata, hkeys⟩
    · exact .same hsame
    · rw [hdisk] at hdata
      exact .renewed henable (hlack ∘ hsound) hdata hkeys
  · rw [if_neg henable]
    exact .same rfl

/-- **A test only reads, apart from the cached dataset.** -/
theorem test_leaves (s : Settings) (n : Nat) (remoteAddr url method : String)
    (site : Site Shared) :
    Tested s site.scene site.Sound
      ((test s n remoteAddr url method).run site).2.world.store.server.keys := by
  unfold test
  cases Url.parse url with
  | error fault => exact .same rfl
  | ok u =>
    simp only
    rw [bind_state]
    have hengine := Site.startEngine_scene n s.audit.outputs s.audit.format site
    rw [← within_state .failed] at hengine
    rcases h : (within .failed (Site.startEngine n s.audit.outputs s.audit.format)).run site
      with ⟨e | _, t⟩ <;> rw [h] at hengine
    · exact .same (congrArg Scene.keys hengine.1)
    · simp only
      rw [bind_state, act_run]
      simp only
      rw [bind_state]
      -- what follows the setup leaves the store alone
      have hleaves := registerUsual_leaves hengine.1 hengine.2
      generalize (Site.registerUsual s.countries.enable s.countries.source t).2 = u at hleaves ⊢
      have hget : (get : Job Shared (Site Shared)).run u = (.ok u, u) := rfl
      rw [hget]
      cases hself : u.self.engine with
      | none =>
        simp only [hself]
        exact hleaves
      | some e =>
        simp only [hself]
        exact hleaves

end Job

/-! ## Commands -/

namespace Console

theorem openWithin_leaves (tries : Nat) (v : Server) :
    (Connection.openWithin (fun s => Server.connect s) tries v).2.keys = v.keys ∧
      (v.link = Link.sound →
        (Connection.openWithin (fun s => Server.connect s) tries v).2.link = Link.sound) := by
  have hone : ∀ v : Server, (Server.connect v).2.keys = v.keys ∧
      (v.link = Link.sound → (Server.connect v).2.link = Link.sound) := by
    refine fun v => ⟨Shared.connect_keys v, fun hv => ?_⟩
    unfold Server.connect
    rw [hv]
    rfl
  induction tries generalizing v with
  | zero => exact hone v
  | succ tries ih =>
    obtain ⟨hkeys, hlink⟩ := hone v
    rw [Connection.openWithin]
    rcases h : Server.connect v with ⟨e | c, w⟩ <;> rw [h] at hkeys hlink
    · exact ⟨(ih w).1.trans hkeys, fun hv => (ih w).2 (hlink hv)⟩
    · exact ⟨hkeys, hlink⟩

def scene (c : Console) (s : Settings) : Scene :=
  ⟨s.store.root, c.keys, c.web, c.clock, c.paper.disk⟩

def Sound (c : Console) (s : Settings) : Prop :=
  ∀ location, Location.parse s.store.url = .ok location → c.link location = Link.sound

/-- A store that has been opened has the root that is set and the keys of the server. -/
theorem site_opened {c : Console} {s : Settings} {store : Shared}
    (h : c.openShared s.store = .ok store) :
    (c.site store).scene = c.scene s ∧ (c.Sound s → (c.site store).Sound) := by
  unfold openShared at h
  split at h
  · cases h
  · next location hl =>
    obtain ⟨hkeys, hlink⟩ := openWithin_leaves (s.store.tries.toNat - 1) ⟨c.keys, c.link location⟩
    unfold Shared.connect at h
    rcases ho : Connection.openWithin (fun s => Server.connect s) (s.store.tries.toNat - 1)
      ⟨c.keys, c.link location⟩ with ⟨e | k, v⟩ <;> rw [ho] at h
    · cases h
    · rw [ho] at hkeys hlink
      cases h
      refine ⟨?_, fun hs => hlink (hs location hl)⟩
      rw [scene, ← show v.keys = c.keys from hkeys]
      rfl

/-- What has become of the keys when a command has ended that is not meant to change anything:
they are as they were, or a test of a request has put another dataset there. -/
inductive Looked (c : Console) (path : String) (act : Administration) (keys : Keyspace) : Prop
  | same (same : keys = c.keys)
  | tested {s : Settings} {remoteAddr url method : String}
      (act : act = .test remoteAddr url method) (loaded : Settings.load c.paper.disk path = .ok s)
      (shared : s.store.kind? = some .shared)
      (tested : Job.Tested s (c.scene s) (c.Sound s) keys)

/-- The steps of a command that is not meant to change anything, on a store that is open. -/
theorem job_looks {c : Console} {path : String} {s : Settings} {act : Administration}
    (hact : act.isMutating = false) (hs : Settings.load c.paper.disk path = .ok s)
    (hk : s.store.kind? = some .shared) {site : Site Shared} (hsite : site.scene = c.scene s)
    (hsound : c.Sound s → site.Sound) :
    Looked c path act (((do
      let n ← Job.join
      Job.administer s n act : Job Shared Unit)).run site).2.world.store.server.keys := by
  rw [bind_state]
  have hjoin := Job.join_stays site
  rcases h : Job.join.run site with ⟨e | n, t⟩ <;> rw [h] at hjoin
  · exact .same (congrArg Scene.keys (hjoin.scene.trans hsite))
  · cases act with
    | report =>
      have hreport := (hjoin.trans (Job.report_stays n t)).scene.trans hsite
      exact .same (congrArg Scene.keys hreport)
    | test remoteAddr url method =>
      refine .tested rfl hs hk ?_
      have htest := Job.test_leaves s n remoteAddr url method t
      rw [hjoin.scene.trans hsite] at htest
      exact htest.weaken (hjoin.sound ∘ hsound)
    | mode _ | allowed _ | denied _ | plugin _ _ | countries _ _ => cases hact

theorem administer_looks {c : Console} {path : String} {act : Administration}
    (h : act.isMutating = false) : Looked c path act (c.administer path act).2.keys := by
  unfold administer
  cases hs : Settings.load c.paper.disk path with
  | error fault => exact .same rfl
  | ok s =>
    simp only [h, Bool.false_and]
    unfold withStore
    cases hk : s.store.kind? with
    | none => exact .same rfl
    | some backend =>
      cases backend with
      | memory => exact .same rfl
      | shared =>
        simp only
        cases ho : c.openShared s.store with
        | error fault => exact .same rfl
        | ok store =>
          obtain ⟨hscene, hsound⟩ := site_opened ho
          exact job_looks h hs hk hscene hsound

/-- **What commands leave that are not meant to change anything**: the change log, the settings
and the country rules stay as they are, and so does every key but that of the cached dataset. The
dataset is changed only by a test of a request, where the country guard is wanted and finds no
usable copy: then it is the database that the guard has got for itself. -/
theorem administer_keeps_records {c : Console} {path : String} {act : Administration}
    (h : act.isMutating = false) :
    (∀ s, Settings.load c.paper.disk path = .ok s → ∀ p : Slot, p ≠ .dataset →
      Keyspace.cellAt (c.administer path act).2.keys s.store.root p =
        Keyspace.cellAt c.keys s.store.root p) ∧
      (∀ key, (∀ s, Settings.load c.paper.disk path = .ok s →
          key ≠ Shared.datasetKey s.store.root) →
        (c.administer path act).2.keys.get? key = c.keys.get? key) ∧
      Looked c path act (c.administer path act).2.keys := by
  have hlooked : Looked c path act (c.administer path act).2.keys := administer_looks h
  have hother : ∀ key, (∀ s, Settings.load c.paper.disk path = .ok s →
      key ≠ Shared.datasetKey s.store.root) →
      (c.administer path act).2.keys.get? key = c.keys.get? key := by
    intro key hkey
    rcases hlooked with hsame | ⟨-, hs, -, hsame | ⟨-, -, -, hwritten⟩⟩
    · rw [hsame]
    · rw [hsame]
      rfl
    · exact Keyspace.setFields_get? hwritten (hkey _ hs)
  refine ⟨fun s hs p hp => hother _ fun t ht => ?_, hother, hlooked⟩
  rw [hs] at ht
  cases ht
  exact fun hkey => hp (Slot.key_injective hkey)

def guardedSettings : String :=
  "[store]\nbackend = \"redis\"\n[geoip]\nfallback_path = \"bare\"\nremote_url = \"gone\"\n"

def guardedConsole : Console where
  paper := ⟨Geo.bareDisk.put ["set".toList] (Bytes.ofText guardedSettings), [], []⟩
  keys := Dict.ofList [("fe_waf:config", .hash (Dict.ofList [("mode", Bytes.ofText "dryrun")]))]
  link := fun _ => .sound
  web := .silent "refused"
  clock := ⟨0, 0⟩

/-- The mode is kept by a test that renews the dataset. -/
theorem administer_keeps_mode :
    (Administration.test "h" "a:b" "GET").isMutating = false ∧
      Keyspace.cellAt (guardedConsole.administer "set" (.test "h" "a:b" "GET")).2.keys
        "fe_waf:" .settings = some (.hash (Dict.ofList [("mode", Bytes.ofText "dryrun")])) := by
  refine ⟨rfl, ?_⟩
  have hroot : (Settings.load guardedConsole.paper.disk "set").toOption.map (·.store.root) =
      some "fe_waf:" := by
    decide +kernel
  cases hs : Settings.load guardedConsole.paper.disk "set" with
  | error fault =>
    rw [hs] at hroot
    cases hroot
  | ok s =>
    have hmode := (@administer_keeps_records guardedConsole "set" (.test "h" "a:b" "GET")
      rfl).1 s hs .settings (by decide)
    rw [hs] at hroot
    rw [show s.store.root = "fe_waf:" from Option.some.inj hroot] at hmode
    rw [hmode]
    decide

/-- **A test of a request can write to the store**, although it is not meant to change anything. -/
theorem test_writes :
    ¬ ∀ (c : Console) (path : String) (act : Administration), act.isMutating = false →
      (c.administer path act).2.keys = c.keys := by
  intro h
  have hsame := h guardedConsole "set" (.test "h" "a:b" "GET") rfl
  exact absurd hsame (by decide +kernel)

end Console

end Firewall
