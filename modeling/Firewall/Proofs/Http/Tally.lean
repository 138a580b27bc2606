import Firewall.Http.Service
import Firewall.Proofs.Site
import Firewall.Proofs.Text.Utf8
import Firewall.Store.Keyspace
import Firewall.Store.Tables

/-!
The account of an engine's decisions. Four parts see a decision apart from each other: the
caller gets a status, the sinks get a line, the plugins are asked, and a counter moves. They
agree at the end of every run, whatever policies do in between.

Proved here:

* `AuditOutput.emit_extends`: what one decision writes, target by target;
* `Site.change_quiet`, `Site.round_quiet`: changes and polls write and count no decision;
* `Site.scan_accounted`: a scan is one decision, written, asked for and counted once;
* `Tally.books_balance`: the account of a whole run, with what every single body is owed.
-/

namespace Firewall

/-! ## What is written -/

/-- One writing after another: each target holds what it held before, and then its notes. -/
structure Paper.Extends (before after : Paper) (notes : Target → List (Outcome × String)) :
    Prop where
  log : after.log = before.log ++ notes .log
  stdout : after.stdout = before.stdout ++ (notes .stdout).map Prod.snd
  file : ∀ place, (after.disk.contentAt? place).getD [] =
    (before.disk.contentAt? place).getD [] ++
      (notes (.file place)).flatMap fun note => Text.Utf8.encode (note.2 ++ "\n").toList

namespace Paper.Extends

variable {p q r : Paper} {notes more : Target → List (Outcome × String)}

theorem refl (p : Paper) : p.Extends p fun _ => [] :=
  ⟨by simp, by simp, by simp⟩

theorem trans (h : p.Extends q notes) (h' : q.Extends r more) :
    p.Extends r fun target => notes target ++ more target where
  log := by rw [h'.log, h.log, List.append_assoc]
  stdout := by rw [h'.stdout, h.stdout, List.append_assoc, List.map_append]
  file place := by rw [h'.file, h.file, List.append_assoc, List.flatMap_append]

theorem congr (h : p.Extends q notes) (he : ∀ target, more target = notes target) :
    p.Extends q more := by
  rw [funext he]
  exact h

end Paper.Extends

theorem Paper.writeLine_extends (p : Paper) (outcome : Outcome) (line : String)
    (target : Target) :
    p.Extends (p.writeLine outcome line target)
      fun t => if target = t then [(outcome, line)] else [] where
  log := by cases target <;> simp [writeLine]
  stdout := by cases target <;> simp [writeLine]
  file place := by
    cases target with
    | log => simp [writeLine]
    | stdout => simp [writeLine]
    | file q =>
      by_cases hq : place = q
      · subst hq
        simp [writeLine, Disk.append]
      · have hne : Target.file q ≠ .file place := fun h => hq (Target.file.inj h).symm
        simp [writeLine, Disk.append, hq, hne]

namespace AuditOutput

/-- How often a decision goes to a target: once for each sink there that takes all decisions,
and for a blocked request once for each that takes only those. -/
def copies (o : AuditOutput) (target : Target) (outcome : Outcome) : Nat :=
  o.sinks.count ⟨.all, target⟩ +
    if outcome = .blocked then o.sinks.count ⟨.blocked, target⟩ else 0

def notes (o : AuditOutput) (records : List AuditRecord) (target : Target) :
    List (Outcome × String) :=
  records.flatMap fun r =>
    List.replicate (o.copies target r.outcome) (r.outcome, o.template.render r)

theorem countP_accepting (outcome : Outcome) (target : Target) (sinks : List Sink) :
    (sinks.filter (·.accepts outcome)).countP (·.target = target) =
      sinks.count ⟨.all, target⟩ +
        if outcome = .blocked then sinks.count ⟨.blocked, target⟩ else 0 := by
  induction sinks with
  | nil => simp
  | cons sink sinks ih =>
    obtain ⟨scope, there⟩ := sink
    rw [List.filter_cons, List.count_cons, List.count_cons]
    by_cases ht : there = target <;> cases scope <;> cases outcome <;>
      simp [Sink.accepts, ht] at ih ⊢ <;> omega

theorem writeAll_extends (outcome : Outcome) (line : String) (sinks : List Sink) (p : Paper) :
    p.Extends (sinks.foldl (fun p s => p.writeLine outcome line s.target) p)
      fun target => List.replicate (sinks.countP (·.target = target)) (outcome, line) := by
  induction sinks generalizing p with
  | nil => exact .refl p
  | cons sink sinks ih =>
    refine ((p.writeLine_extends outcome line sink.target).trans (ih _)).congr fun target => ?_
    rw [List.countP_cons]
    by_cases ht : sink.target = target
    · simp [ht, List.replicate_succ]
    · simp [ht]

/-- **What a decision writes**: every target gets its line as often as sinks there take it. -/
theorem emit_extends (o : AuditOutput) (r : AuditRecord) (p : Paper) :
    p.Extends (o.emit r p) (o.notes [r]) := by
  refine (writeAll_extends r.outcome (o.template.render r)
    (o.sinks.filter (·.accepts r.outcome)) p).congr fun target => ?_
  rw [countP_accepting, notes, List.flatMap_singleton, copies]

end AuditOutput

namespace Site

variable {σ : Type}

def scans (s : Site σ) (o : Outcome) : Nat := (s.world.counters.get? (.scans o)).getD 0

/-! ## What is no decision -/

/-- From one site to another, no decision has been written down, asked for or counted. -/
structure Quiet (s t : Site σ) : Prop where
  paper : t.world.paper = s.world.paper
  asked : t.world.asked = s.world.asked
  scans : ∀ o, t.scans o = s.scans o

namespace Quiet

theorem refl (s : Site σ) : Quiet s s := ⟨rfl, rfl, fun _ => rfl⟩

theorem trans {s t u : Site σ} (h : Quiet s t) (h' : Quiet t u) : Quiet s u :=
  ⟨h'.paper.trans h.paper, h'.asked.trans h.asked, fun o => (h'.scans o).trans (h.scans o)⟩

end Quiet

theorem ask_quiet {α : Type} {a : Access σ α} {s t : Site σ} {result : Except StoreError α}
    (h : ask a s = (result, t)) : Quiet s t := by
  cases h
  exact ⟨rfl, rfl, fun _ => rfl⟩

theorem own_quiet (f : Instance → Instance) (s : Site σ) : Quiet s (own f s).2 :=
  ⟨rfl, rfl, fun _ => rfl⟩

theorem scans_count (k : Counter) (o : Outcome) (s : Site σ) :
    (count k s).2.scans o = s.scans o + if k = .scans o then 1 else 0 := by
  show ((s.world.counters.count k).get? (.scans o)).getD 0 = _
  unfold Counters.count
  rw [Dict.get?_insert]
  by_cases hk : k = .scans o
  · rw [if_pos hk.symm, if_pos hk, hk]
    rfl
  · rw [if_neg (Ne.symm hk), if_neg hk]
    rfl

theorem count_quiet {k : Counter} (hk : ∀ o, k ≠ .scans o) (s : Site σ) :
    Quiet s (count k s).2 :=
  ⟨rfl, rfl, fun o => by rw [scans_count, if_neg (hk o), Nat.add_zero]⟩

variable [RecordStore σ]

theorem perform_quiet (n : Nat) (step : Step) (s : Site σ) :
    Quiet s ((perform n step).run s).2 := by
  cases step with
  | publish e => exact ⟨rfl, rfl, fun _ => rfl⟩
  | putSetting key value =>
    rw [perform_putSetting_run]
    split <;> exact ask_quiet ‹_›
  | putRules rules =>
    rw [perform_putRules_run]
    split <;> exact ask_quiet ‹_›
  | announce table key =>
    rw [perform_announce_run]
    split <;> exact ask_quiet ‹_›

/-- **A change of policies is no decision**, whether it succeeds or fails midway. -/
theorem change_quiet (n : Nat) (plan : Except BadArgument (List Step)) (s : Site σ) :
    Quiet s ((change n plan).run s).2 := by
  cases plan with
  | error cause => exact .refl s
  | ok steps =>
    show Quiet s ((performAll n steps).run s).2
    induction steps generalizing s with
    | nil => exact .refl s
    | cons step steps ih =>
      have hstep := perform_quiet n step s
      rw [performAll_cons_run]
      split
      · next u t ht =>
        rw [ht] at hstep
        exact hstep.trans (ih t)
      · next e t ht =>
        rw [ht] at hstep
        exact hstep

theorem hear_quiet (key : String) (who : Listener) (s : Site σ) :
    Quiet s (hear key who s).2 := by
  cases who with
  | policy n =>
    rw [hear_policy_run]
    split
    · next value t ht => exact (ask_quiet ht).trans (own_quiet _ t)
    · next e t ht => exact ask_quiet ht
  | guard n =>
    rw [hear_guard_run]
    split
    · next rules t ht => exact (ask_quiet ht).trans (own_quiet _ t)
    · next e t ht => exact ask_quiet ht
  | recorder name => exact own_quiet _ s

theorem deliver_quiet (listeners : List Listener) (e : LogEntry) (s : Site σ) :
    Quiet s (deliver listeners e s).2 := by
  have htell : Quiet s (listeners.forM (hear e.key : Listener → Act σ Unit) s).2 := by
    induction listeners generalizing s with
    | nil => exact .refl s
    | cons who listeners ih =>
      rw [forM_hear_cons]
      exact (hear_quiet e.key who s).trans (ih _)
  exact htell.trans (count_quiet (by simp) _)

theorem catchUp_quiet (count next done : Nat) (s : Site σ) :
    Quiet s ((catchUp count next done).run s).2 := by
  induction count generalizing next done s with
  | zero => exact .refl s
  | succ count ih =>
    rw [catchUp_succ_run]
    split
    · next e t ht => exact ask_quiet ht
    · next e t ht =>
      exact (((ask_quiet ht).trans (deliver_quiet _ e t)).trans (own_quiet _ _)).trans (ih _ _ _)

theorem poll_quiet (last : Nat) (s : Site σ) : Quiet s ((poll last).run s).2 := by
  rw [poll_run]
  rcases ht : ask RecordStore.latest s with ⟨answer, t⟩
  cases hh : Feed.headOf answer with
  | error e => simpa only [hh] using ask_quiet ht
  | ok head => simpa only [hh] using (ask_quiet ht).trans (catchUp_quiet _ _ _ t)

theorem round_run (s : Site σ) :
    ∃ last, round s = match (poll last).run s with
      | (.ok _, t) => ((), t)
      | (.error _, t) => count .pollErrors t := by
  unfold round
  simp only [bind, StateT.bind, get, getThe, MonadStateOf.get, StateT.get, pure]
  cases s.self.feed with
  | none =>
    refine ⟨0, ?_⟩
    rcases (poll 0).run s with ⟨e | n, t⟩ <;> rfl
  | some f =>
    refine ⟨f.last, ?_⟩
    rcases (poll f.last).run s with ⟨e | n, t⟩ <;> rfl

/-- **A round of following the log is no decision.** -/
theorem round_quiet (s : Site σ) : Quiet s (round s).2 := by
  obtain ⟨last, hround⟩ := round_run s
  have hpoll := poll_quiet last s
  rw [hround]
  split
  · next n t ht =>
    rw [ht] at hpoll
    exact hpoll
  · next e t ht =>
    rw [ht] at hpoll
    exact hpoll.trans (count_quiet (by simp) t)

/-! ## Decisions -/

omit [RecordStore σ]

/-- A decision: what is written down of it, and the tags of the plugins that were asked. -/
structure Decision where
  record : AuditRecord
  asked : List String

def decided (e : Engine) (r : Request) (s : Site σ) : Decision :=
  let policy := (s.self.policies[e.policy]?).getD .initial
  let (outcome, asked) :=
    Scan.decide policy r.remote? Plugin.name (askPlugin s.self.guards r) e.plugins
  ⟨.of r outcome s.world.clock, asked.filterMap tag?⟩

/-- One site after another, with decisions in between: all are written down, asked for and
counted once, and nothing else is. -/
structure Accounted (o : AuditOutput) (s t : Site σ) (decisions : List Decision) : Prop where
  paper : s.world.paper.Extends t.world.paper (o.notes (decisions.map (·.record)))
  asked : t.world.asked = s.world.asked ++ decisions.flatMap (·.asked)
  scans : ∀ outcome,
    t.scans outcome = s.scans outcome + decisions.countP (·.record.outcome = outcome)

theorem Quiet.accounted {s t : Site σ} (h : Quiet s t) (o : AuditOutput) :
    Accounted o s t [] where
  paper := by
    rw [h.paper]
    exact .refl _
  asked := by
    rw [h.asked]
    simp
  scans outcome := h.scans outcome

theorem Accounted.trans {o : AuditOutput} {s t u : Site σ} {ds es : List Decision}
    (h : Accounted o s t ds) (h' : Accounted o t u es) : Accounted o s u (ds ++ es) where
  paper := (h.paper.trans h'.paper).congr fun target => by
    rw [AuditOutput.notes, List.map_append, List.flatMap_append]
    rfl
  asked := by rw [h'.asked, h.asked, List.append_assoc, List.flatMap_append]
  scans outcome := by rw [h'.scans, h.scans, List.countP_append, Nat.add_assoc]

theorem scan_outcome (e : Engine) (r : Request) (s : Site σ) :
    (scan e r s).1 = (decided e r s).record.outcome := rfl

/-- **A scan is one decision.** -/
theorem scan_accounted (e : Engine) (r : Request) (s : Site σ) :
    Accounted e.output s (scan e r s).2 [decided e r s] where
  paper := e.output.emit_extends (decided e r s).record s.world.paper
  asked := by
    rw [List.flatMap_singleton]
    rfl
  scans outcome := by
    refine (scans_count _ outcome _).trans ?_
    rw [List.countP_singleton]
    show s.scans outcome + _ = _
    simp only [Counter.scans.injEq, decide_eq_true_eq]
    rfl

end Site

/-! ## Submissions -/

namespace Http

def Call.submission (body : Bytes) : Call := ⟨"POST", Page.submit.path, body⟩

theorem Page.ofPath?_submission (body : Bytes) :
    Page.ofPath? (Call.submission body).path = some .submit := by
  show Page.ofPath? (Call.submission []).path = some .submit
  decide

/-- A body reaches the handler as a text: it is not too long and it is valid. -/
def Reaches (body : Bytes) (text : String) : Prop :=
  body.length ≤ mostBody ∧ Text.Utf8.decode body = .ok text.toList

theorem reaches_ofText {text : String} (h : (Bytes.ofText text).length ≤ mostBody) :
    Reaches (Bytes.ofText text) text :=
  ⟨h, Text.Utf8.decodeFrom_encode text.toList 0⟩

theorem Reaches.read {body : Bytes} {text : String} (h : Reaches body text) :
    readSubmission body = match Payload.parse text with
      | .error message => .error (.json 503 (messageBody message))
      | .ok p => match Url.parse p.url with
        | .error fault =>
          .error (.json 503 (messageBody (Error.argument (.url p.url fault)).message))
        | .ok url => .ok ⟨p.remoteAddr, url, p.method⟩ := by
  obtain ⟨hlength, htext⟩ := h
  unfold readSubmission
  rw [if_neg (Nat.not_lt.mpr hlength), htext]
  simp only [String.ofList_toList]
  cases Payload.parse text with
  | error message => rfl
  | ok p =>
    simp only [Request.ofParts]
    cases Url.parse p.url <;> rfl

end Http

namespace Tally

open Http Site

variable {σ : Type}

theorem serve_submission (e : Engine) (body : Bytes) (s : Site σ) :
    serve e (.submission body) s = match readSubmission body with
      | .error refusal => (refusal, s)
      | .ok r => (.bare (if (decided e r s).record.outcome = .blocked then 403 else 200),
          (scan e r s).2) := by
  have hpost : Page.submit.methods.contains (Call.submission body).method = true := rfl
  unfold serve
  rw [Page.ofPath?_submission]
  simp only
  rw [if_pos hpost]
  show submit e body s = _
  unfold submit
  cases readSubmission body with
  | error refusal => rfl
  | ok r =>
    show (Answer.bare (if (scan e r s).1.isAllowed then 200 else 403), (scan e r s).2) =
      (Answer.bare (if (decided e r s).record.outcome = .blocked then 403 else 200),
        (scan e r s).2)
    rw [scan_outcome]
    cases (decided e r s).record.outcome <;> rfl

/-- What happens around an engine: a body is submitted; a live policy or the country rules are
changed; a round of following the log, in which changes made elsewhere are heard of; or anything
else that writes and counts no decision. -/
inductive Event (σ : Type)
  | submission (body : Bytes)
  | change (policy : Nat) (plan : Except BadArgument (List Step))
  | round
  | other (f : Site σ → Site σ) (quiet : ∀ s, Quiet s (f s))

def answerTo (e : Engine) (s : Site σ) : Event σ → Option Answer
  | .submission body => some (serve e (.submission body) s).1
  | _ => none

def decisionOn (e : Engine) (s : Site σ) : Event σ → Option Decision
  | .submission body =>
    match readSubmission body with
    | .ok r => some (decided e r s)
    | .error _ => none
  | _ => none

variable [RecordStore σ]

def step (e : Engine) (s : Site σ) : Event σ → Site σ
  | .submission body => (serve e (.submission body) s).2
  | .change policy plan => ((Site.change policy plan).run s).2
  | .round => (Site.round s).2
  | .other f _ => f s

def after (e : Engine) (events : List (Event σ)) (s : Site σ) : Site σ := events.foldl (step e) s

def collect {α : Type} (e : Engine) (outcome : Site σ → Event σ → Option α) :
    List (Event σ) → Site σ → List α
  | [], _ => []
  | x :: events, s => (outcome s x).toList ++ collect e outcome events (step e s x)

def answers (e : Engine) (events : List (Event σ)) (s : Site σ) : List Answer :=
  collect e (answerTo e) events s

def decisions (e : Engine) (events : List (Event σ)) (s : Site σ) : List Decision :=
  collect e (decisionOn e) events s

theorem answers_cons (e : Engine) (x : Event σ) (events : List (Event σ)) (s : Site σ) :
    answers e (x :: events) s = (answerTo e s x).toList ++ answers e events (step e s x) := rfl

theorem decisions_cons (e : Engine) (x : Event σ) (events : List (Event σ)) (s : Site σ) :
    decisions e (x :: events) s = (decisionOn e s x).toList ++ decisions e events (step e s x) :=
  rfl

theorem step_accounted (e : Engine) (s : Site σ) (x : Event σ) :
    Accounted e.output s (step e s x) (decisionOn e s x).toList := by
  cases x with
  | submission body =>
    simp only [step, decisionOn, serve_submission]
    cases readSubmission body with
    | error refusal => exact (Quiet.refl s).accounted e.output
    | ok r => exact scan_accounted e r s
  | change policy plan => exact (change_quiet policy plan s).accounted e.output
  | round => exact (round_quiet s).accounted e.output
  | other f quiet => exact (quiet s).accounted e.output

theorem run_accounted (e : Engine) (events : List (Event σ)) (s : Site σ) :
    Accounted e.output s (after e events s) (decisions e events s) := by
  induction events generalizing s with
  | nil => exact (Quiet.refl s).accounted e.output
  | cons x events ih => exact (step_accounted e s x).trans (ih _)

omit [RecordStore σ] in
/-- A refusal has a status that is given to no decision. -/
theorem status_of_refusal {body : Bytes} {refusal : Answer}
    (h : readSubmission body = .error refusal) :
    refusal.status ≠ 200 ∧ refusal.status ≠ 403 := by
  unfold readSubmission at h
  repeat' split at h
  all_goals cases h
  all_goals simp [Answer.text, Answer.json]

omit [RecordStore σ] in
/-- **The answer tells the decision**: 200 if the request may go on, 403 if not. -/
theorem answer_decision (e : Engine) (s : Site σ) (x : Event σ) :
    (answerTo e s x).toList.countP (·.status = 200) =
        (decisionOn e s x).toList.countP (·.record.outcome ≠ .blocked) ∧
      (answerTo e s x).toList.countP (·.status = 403) =
        (decisionOn e s x).toList.countP (·.record.outcome = .blocked) := by
  cases x with
  | submission body =>
    simp only [answerTo, decisionOn, serve_submission]
    cases hread : readSubmission body with
    | error refusal =>
      obtain ⟨hpass, hblock⟩ := status_of_refusal hread
      simp [hpass, hblock]
    | ok r => by_cases hb : (decided e r s).record.outcome = .blocked <;> simp [hb, Answer.bare]
  | change policy plan => exact ⟨rfl, rfl⟩
  | round => exact ⟨rfl, rfl⟩
  | other f quiet => exact ⟨rfl, rfl⟩

theorem run_answers (e : Engine) (events : List (Event σ)) (s : Site σ) :
    (answers e events s).countP (·.status = 200) =
        (decisions e events s).countP (·.record.outcome ≠ .blocked) ∧
      (answers e events s).countP (·.status = 403) =
        (decisions e events s).countP (·.record.outcome = .blocked) := by
  induction events generalizing s with
  | nil => exact ⟨rfl, rfl⟩
  | cons x events ih =>
    obtain ⟨hpass, hblock⟩ := answer_decision e s x
    obtain ⟨ihpass, ihblock⟩ := ih (step e s x)
    rw [answers_cons, decisions_cons]
    simp only [List.countP_append]
    exact ⟨by rw [hpass, ihpass], by rw [hblock, ihblock]⟩

/-- Every decision that does not block is a pass or a dry run. -/
theorem countP_allowed (ds : List Decision) :
    ds.countP (·.record.outcome ≠ .blocked) =
      ds.countP (·.record.outcome = .pass) + ds.countP (·.record.outcome = .dryrun) := by
  induction ds with
  | nil => rfl
  | cons d ds ih =>
    simp only [List.countP_cons, ih]
    cases d.record.outcome <;> simp <;> omega

/-- What is owed to a body that has reached the handler as a text. -/
structure Handled (e : Engine) (s : Site σ) (body : Bytes) (text : String) : Prop where
  /-- No payload: refused, and nothing has happened. -/
  malformed : ∀ message, Payload.parse text = .error message →
    serve e (.submission body) s = (.json 503 (messageBody message), s)
  /-- No address of the web: refused, and nothing has happened. -/
  unaddressed : ∀ p fault, Payload.parse text = .ok p → Url.parse p.url = .error fault →
    serve e (.submission body) s =
      (.json 503 (messageBody (Error.argument (.url p.url fault)).message), s)
  /-- A request: scanned once, and answered as has been decided. -/
  scanned : ∀ p url, Payload.parse text = .ok p → Url.parse p.url = .ok url →
    ∃ d, d = decided e ⟨p.remoteAddr, url, p.method⟩ s ∧
      decisionOn e s (.submission body) = some d ∧
      (serve e (.submission body) s).1 =
        .bare (if d.record.outcome = .blocked then 403 else 200) ∧
      Accounted e.output s (serve e (.submission body) s).2 [d]

omit [RecordStore σ] in
theorem handled (e : Engine) (s : Site σ) {body : Bytes} {text : String}
    (h : Reaches body text) : Handled e s body text where
  malformed message hp := by
    rw [serve_submission, h.read, hp]
  unaddressed p fault hp hu := by
    rw [serve_submission, h.read, hp]
    simp only [hu]
  scanned p url hp hu := by
    have hread : readSubmission body = .ok ⟨p.remoteAddr, url, p.method⟩ := by
      rw [h.read, hp]
      simp only [hu]
    refine ⟨_, rfl, ?_, ?_, ?_⟩
    · simp only [decisionOn, hread]
    · rw [serve_submission, hread]
    · rw [serve_submission, hread]
      exact scan_accounted e _ s

/-- **Every decision is answered, written down and counted exactly once.** A body that reaches
the handler gets what it is owed, whatever has happened before. Over every run each target holds
what it held before, and then the line of each decision, once for each sink there that takes it;
the counter of each outcome has grown by the decisions with it; and the answers tell them:
as many 200 as requests that passed or were only noted, as many 403 as were blocked. -/
theorem books_balance (e : Engine) (s : Site σ) :
    (∀ body text, Reaches body text → Handled e s body text) ∧
      ∀ events : List (Event σ),
        Accounted e.output s (after e events s) (decisions e events s) ∧
        (answers e events s).countP (·.status = 200) + (s.scans .pass + s.scans .dryrun) =
          (after e events s).scans .pass + (after e events s).scans .dryrun ∧
        (answers e events s).countP (·.status = 403) + s.scans .blocked =
          (after e events s).scans .blocked := by
  refine ⟨fun body text h => handled e s h, fun events => ?_⟩
  have hrun := run_accounted e events s
  obtain ⟨hpass, hblock⟩ := run_answers e events s
  refine ⟨hrun, ?_, ?_⟩
  · rw [hpass, countP_allowed, hrun.scans, hrun.scans]
    omega
  · rw [hblock, hrun.scans, Nat.add_comm]

/-- An engine with a plugin that blocks, and with two sinks on one file. -/
def strictEngine : Engine :=
  ⟨0, [.fixed "p" "t" .block],
    ⟨⟨[.field .outcome]⟩, [⟨.all, .file [['a']]⟩, ⟨.blocked, .file [['a']]⟩]⟩⟩

def strictSite : Site Tables :=
  ⟨⟨Tables.empty, ⟨Disk.empty, [], []⟩, Dict.empty, [], .silent "refused", ⟨0, 0⟩⟩,
    { Instance.fresh with policies := [Policy.initial.edit (.toggle "p" true)] }⟩

def plainText : String := "[\"h\",\"a:b\",\"GET\"]"

/-- A blocked request: answered with 403, and written to the file by either sink. -/
theorem books_balance_blocked :
    Reaches (Bytes.ofText plainText) plainText ∧
      Handled strictEngine strictSite (Bytes.ofText plainText) plainText ∧
      (after strictEngine [.submission (Bytes.ofText plainText)] strictSite).scans .blocked = 1 ∧
      strictEngine.output.notes ((decisions strictEngine
          [.submission (Bytes.ofText plainText)] strictSite).map (·.record)) (.file [['a']]) =
        [(.blocked, "blocked"), (.blocked, "blocked")] := by
  have hreach : Reaches (Bytes.ofText plainText) plainText := reaches_ofText (by decide)
  obtain ⟨hbody, hrun⟩ := books_balance strictEngine strictSite
  refine ⟨hreach, hbody _ _ hreach, ?_, by decide +kernel⟩
  rw [← (hrun _).2.2]
  decide +kernel

end Tally

end Firewall
