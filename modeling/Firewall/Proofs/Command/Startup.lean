import Firewall.Command.Serve
import Firewall.Proofs.Command.Job
import Firewall.Proofs.Settings.Findings

/-!
What a start of the service can fail with. The settings are judged first, and unfit ones end the
start before anything is opened. What was found fit is what the later parts of the start rely on:
the store has a known kind, the change log is not polled without a pause, and of the audit only
the outputs can still be in the way, for the template has been read before.

Proved here:

* `AuditOutput.openAll_error_iff`: which of several outputs is in the way;
* `Site.startEngine_error_iff`: with a good template, only an output keeps an engine from starting;
* `Job.serve_hitch`: what the start can fail with on a store that is open;
* `Console.serve_unfit`, `Console.serve_fit`: a start with unfit settings, and with fit ones;
* `Console.serve_judged`: the findings judge the settings rightly.
-/

namespace Firewall

/-! ## The audit -/

theorem map_eq_error_iff {ε α β : Type} (x : Except ε α) (f : α → β) (e : ε) :
    x.map f = .error e ↔ x = .error e := by
  cases x <;> simp [Except.map]

namespace AuditOutput

/-- Among outputs that are set up in turn there is one that cannot be, with its cause. Those
before it have been set up, and have left the files as it finds them. -/
inductive Stuck : List (List Char) → Disk → BadOutput → Prop
  | here {entry : List Char} {rest : List (List Char)} {d d' : Disk} {cause : BadOutput}
      (h : Sink.parse entry d = (.error cause, d')) : Stuck (entry :: rest) d cause
  | later {entry : List Char} {rest : List (List Char)} {d d' : Disk} {cause : BadOutput}
      {sink : Sink} (h : Sink.parse entry d = (.ok sink, d')) (next : Stuck rest d' cause) :
      Stuck (entry :: rest) d cause

theorem openAll_error_iff {entries : List (List Char)} {d : Disk} {cause : BadOutput} :
    (openAll entries d).1 = .error cause ↔ Stuck entries d cause := by
  induction entries generalizing d with
  | nil => exact ⟨fun h => (nomatch h), fun h => (nomatch h)⟩
  | cons entry rest ih =>
    rw [openAll]
    rcases hp : Sink.parse entry d with ⟨fault | sink, d'⟩
    · constructor
      · intro h
        cases h
        exact .here hp
      · rintro (h | h)
        · rw [hp] at h
          cases h
          rfl
        · rw [hp] at h
          cases h
    · simp only [map_eq_error_iff, ih]
      refine ⟨.later hp, ?_⟩
      rintro (h | ⟨h, next⟩)
      · rw [hp] at h
        cases h
      · rw [hp] at h
        cases h
        exact next

/-- **With a template that can be read, only an output is in the way of an audit.** -/
theorem build_error_iff {outputs format : String} {template : Template}
    (h : Template.parse format = .ok template) {d : Disk} {cause : BadOutput} :
    (build outputs format d).1 = .error cause ↔ Stuck (entries outputs) d cause := by
  rw [← openAll_error_iff, build, h]
  exact map_eq_error_iff ..

end AuditOutput

namespace Site

variable {σ : Type}

theorem startEngine_error_iff {outputs format : String} {template : Template}
    (h : Template.parse format = .ok template) {n : Nat} {s : Site σ} {e : Error} :
    ((startEngine n outputs format).run s).1 = .error e ↔
      ∃ cause, e = .output cause ∧
        AuditOutput.Stuck (AuditOutput.entries outputs) s.world.paper.disk cause := by
  simp only [← AuditOutput.build_error_iff h, startEngine_run]
  rcases AuditOutput.build outputs format s.world.paper.disk with ⟨fault | output, disk⟩
  · constructor
    · intro he
      cases he
      exact ⟨fault, rfl, rfl⟩
    · rintro ⟨cause, rfl, hcause⟩
      cases hcause
      rfl
  · simp

variable [RecordStore σ]

omit [RecordStore σ] in
theorem ask_paper {α : Type} (a : Access σ α) (s : Site σ) :
    (ask a s).2.world.paper = s.world.paper :=
  rfl

theorem startFeed_paper (s : Site σ) : (startFeed.run s).2.world.paper = s.world.paper := by
  have hask := ask_paper RecordStore.latest s
  rw [startFeed_run]
  rcases h : ask RecordStore.latest s with ⟨answer, t⟩
  rw [h] at hask
  cases hh : Feed.headOf answer with
  | error e =>
    simp only [hh]
    exact hask
  | ok head =>
    simp only [hh]
    exact hask

theorem startPolicy_paper (s : Site σ) : (startPolicy.run s).2.world.paper = s.world.paper := by
  have hask := ask_paper RecordStore.settings s
  rw [startPolicy_run]
  rcases h : ask RecordStore.settings s with ⟨e | rows, t⟩ <;> rw [h] at hask
  · exact hask
  · exact hask

end Site

/-! ## The start -/

/-- What can still keep a service from starting when its settings are fit: the store, the change
log and the settings in it, an output of the audit, or the address. -/
inductive Hitch (c : Console) (s : Settings) (listen : ServerSettings → Option String) :
    CommandFault → Prop
  | store {fault : StoreFault} (hshared : s.store.kind? = some .shared)
      (h : c.openShared s.store = .error fault) : Hitch c s listen (.noStore s.store.url fault)
  | feed (cause : Error) : Hitch c s listen (.noFeed cause)
  | policy (cause : Error) : Hitch c s listen (.noPolicy cause)
  | audit {cause : BadOutput}
      (h : AuditOutput.Stuck (AuditOutput.entries s.audit.outputs) c.paper.disk cause) :
      Hitch c s listen (.noAudit (.output cause))
  | address {reason : String} (h : listen s.server = some reason) :
      Hitch c s listen (.cannotListen s.server.address reason)

namespace Job

variable {σ α : Type} [RecordStore σ]
  {c : Console} {s : Settings} {listen : ServerSettings → Option String} {template : Template}
  {site : Site σ} {fault : CommandFault}

/-- The engine of a service is set up, unless there is a hitch. -/
theorem setUp_hitch (htemplate : Template.parse s.audit.format = .ok template)
    (hpaper : site.world.paper = c.paper) (h : ((setUp s).run site).1 = .error fault) :
    Hitch c s listen fault := by
  unfold setUp at h
  have hfeed := Site.startFeed_paper site
  rw [Site.bind_run, join_run] at h
  rcases hf : Site.startFeed.run site with ⟨e | head, t⟩ <;> rw [hf] at h hfeed
  · cases h
    exact .feed e
  · have hpolicy := Site.startPolicy_paper t
    simp only at h
    rcases hp : Site.startPolicy.run t with ⟨e | n, u⟩ <;> rw [hp] at h hpolicy
    · cases h
      exact .policy e
    · simp only at h
      rw [Site.bind_run, within_run] at h
      rcases he : (Site.startEngine n s.audit.outputs s.audit.format).run u with ⟨e | _, v⟩ <;>
        rw [he] at h
      · cases h
        obtain ⟨cause, rfl, hstuck⟩ :=
          (Site.startEngine_error_iff htemplate).1 (congrArg Prod.fst he)
        rw [hpolicy, hfeed, hpaper] at hstuck
        exact .audit hstuck
      · cases h

/-- **A service on an open store does its work, unless there is a hitch.** -/
theorem serve_hitch (htemplate : Template.parse s.audit.format = .ok template)
    (hpaper : site.world.paper = c.paper) {work : Engine → Service → Act σ α}
    (h : ((serve s listen work).run site).1 = .error fault) : Hitch c s listen fault := by
  unfold serve at h
  rw [Site.bind_run] at h
  rcases hs : (setUp s).run site with ⟨e | engine, t⟩ <;> rw [hs] at h
  · cases h
    exact setUp_hitch htemplate hpaper (congrArg Prod.fst hs)
  · simp only at h
    cases hl : listen s.server with
    | none =>
      rw [hl] at h
      cases h
    | some reason =>
      rw [hl] at h
      cases h
      exact .address hl

end Job

namespace Console

variable {α : Type}

theorem run_result {σ : Type} (c : Console) (store : σ) (job : Job σ α) :
    (c.run store job).1 = (job.run (c.site store)).1 := rfl

/-- **A start with unfit settings ends at once**: whatever is at the other end of the store and of
the address, nothing is opened, and no file is made. -/
theorem serve_unfit {c : Console} {path : String} {s : Settings}
    (hload : Settings.load c.paper.disk path = .ok s) (h : s.Unfit)
    (listen : ServerSettings → Option String)
    (work : {σ : Type} → [RecordStore σ] → Engine → Service → Act σ α) :
    c.serve path listen work = (.error .fatalFindings, c) := by
  unfold serve
  rw [hload]
  simp only
  rw [if_pos ((s.hasFatal_iff c.paper.disk).2 h)]

/-- **A start with fit settings goes well, unless there is a hitch.** -/
theorem serve_fit {c : Console} {path : String} {s : Settings}
    (hload : Settings.load c.paper.disk path = .ok s) (h : ¬ s.Unfit)
    {listen : ServerSettings → Option String}
    {work : {σ : Type} → [RecordStore σ] → Engine → Service → Act σ α} {fault : CommandFault}
    (hfault : (c.serve path listen work).1 = .error fault) : Hitch c s listen fault := by
  obtain ⟨template, htemplate⟩ := Settings.template_of_fit h
  unfold serve at hfault
  rw [hload] at hfault
  simp only at hfault
  rw [if_neg fun hfatal => h ((s.hasFatal_iff c.paper.disk).1 hfatal)] at hfault
  have hopen : ∀ {σ : Type} [RecordStore σ] (store : σ),
      (c.run store (Job.serve s listen work)).1 = .error fault → Hitch c s listen fault := by
    intro σ _ store hjob
    rw [run_result] at hjob
    exact Job.serve_hitch htemplate rfl hjob
  unfold withStore at hfault
  cases hk : s.store.kind? with
  | none => exact absurd hk (Settings.kind_of_fit h)
  | some kind =>
    rw [hk] at hfault
    cases kind with
    | memory =>
      simp only at hfault
      exact hopen Tables.empty hfault
    | shared =>
      simp only at hfault
      cases ho : c.openShared s.store with
      | error fault =>
        rw [ho] at hfault
        cases hfault
        exact .store hk ho
      | ok store =>
        rw [ho] at hfault
        exact hopen store hfault

/-- What the parts of a start rely on: the store is of a known kind, there is a pause between two
polls, and an engine can only fail to be set up for one of its outputs. -/
structure Ready (s : Settings) : Prop where
  kind : ∃ kind, s.store.kind? = some kind
  pause : s.store.pause ≠ (0, 0)
  engine : ∀ {σ : Type} (n : Nat) (site : Site σ) (e : Error),
    ((Site.startEngine n s.audit.outputs s.audit.format).run site).1 = .error e ↔
      ∃ cause, e = .output cause ∧
        AuditOutput.Stuck (AuditOutput.entries s.audit.outputs) site.world.paper.disk cause

theorem ready_of_fit {s : Settings} (h : ¬ s.Unfit) : Ready s where
  kind := Option.ne_none_iff_exists'.1 (Settings.kind_of_fit h)
  pause := StoreSettings.pause_ne_zero fun hpoll => h (.neverPolls hpoll)
  engine := by
    intro σ n site e
    obtain ⟨template, htemplate⟩ := Settings.template_of_fit h
    exact Site.startEngine_error_iff htemplate

/-- **The findings judge settings rightly.** There is a fatal one, and a line with its mark,
exactly if the settings are unfit. A start with unfit settings ends before anything is opened.
With fit ones everything is there that the parts of a start rely on, and a start can only fail
where there is a hitch. -/
theorem serve_judged (s : Settings) :
    (∀ d : Disk, (Settings.hasFatal (s.findings d) = true ↔ s.Unfit) ∧
      ((∃ line ∈ (s.findings d).map Finding.message, Finding.Marked line) ↔ s.Unfit)) ∧
    (s.Unfit → ∀ {α : Type} (c : Console) (path : String),
      Settings.load c.paper.disk path = .ok s → ∀ (listen : ServerSettings → Option String)
        (work : {σ : Type} → [RecordStore σ] → Engine → Service → Act σ α),
        c.serve path listen work = (.error .fatalFindings, c)) ∧
    (¬ s.Unfit → Ready s ∧ ∀ {α : Type} (c : Console) (path : String),
      Settings.load c.paper.disk path = .ok s → ∀ (listen : ServerSettings → Option String)
        (work : {σ : Type} → [RecordStore σ] → Engine → Service → Act σ α) (fault : CommandFault),
        (c.serve path listen work).1 = .error fault → Hitch c s listen fault) := by
  refine ⟨fun d => ⟨s.hasFatal_iff d, s.marked_iff d⟩, ?_, ?_⟩
  · intro h α c path hload listen work
    exact serve_unfit hload h listen work
  · intro h
    refine ⟨ready_of_fit h, ?_⟩
    intro α c path hload listen work fault hfault
    exact serve_fit hload h hfault

def etcdConsole : Console where
  paper := ⟨Disk.empty.put ["set".toList] (Bytes.ofText "[store]\nbackend = \"etcd\"\n"), [], []⟩
  keys := Dict.empty
  link := fun _ => .sound
  web := .silent "refused"
  clock := ⟨0, 0⟩

/-- The usual settings are fit, and a start with a store of no known kind ends at once. -/
theorem serve_judged_etcd :
    Ready Settings.usual ∧
      etcdConsole.serve "set" (fun _ => none) (fun _ _ => pure ()) =
        (.error .fatalFindings, etcdConsole) := by
  constructor
  · obtain ⟨hfindings, -, hfit⟩ := serve_judged Settings.usual
    have hnone : ¬ Settings.hasFatal (Settings.usual.findings Disk.empty) = true := by
      decide +kernel
    exact (hfit fun h => hnone ((hfindings Disk.empty).1.2 h)).1
  · have hbackend : (Settings.load etcdConsole.paper.disk "set").toOption.map (·.store.backend) =
        some "etcd" := by
      decide +kernel
    cases hs : Settings.load etcdConsole.paper.disk "set" with
    | error fault =>
      rw [hs] at hbackend
      cases hbackend
    | ok s =>
      rw [hs] at hbackend
      have hstore : s.store.backend = "etcd" := Option.some.inj hbackend
      have hunfit : s.Unfit := .backend (by rw [hstore]; decide) (by rw [hstore]; decide)
      exact (serve_judged s).2.1 hunfit etcdConsole "set" hs _ _

end Console

end Firewall
