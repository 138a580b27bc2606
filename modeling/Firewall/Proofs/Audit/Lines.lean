import Firewall.Http.Service
import Firewall.Proofs.Text.Utf8
import Firewall.Proofs.Url.Printable
import Firewall.Store.Keyspace
import Firewall.Store.Tables
import Mathlib.Algebra.GroupWithZero.Nat

/-!
How many lines the decisions of an engine add to a file of its audit. Whoever submits a request
chooses its method and its remote address freely, and both go into the line as they are; every
other field is printable, the address of the web because it has been read and written anew.

Proved here:

* `Utf8.count_encode`: line breaks are counted in the bytes as in the text;
* `AuditField.value_printable`: the fields that cannot break a line;
* `Template.parse_unbroken`: the literal text of a format;
* `AuditOutput.lines_emit`, `Site.submit_lines`: what one decision adds to a file;
* `Site.lines_run`: what a whole run of submissions adds.
-/

namespace Firewall

open Text

/-! ## Line breaks -/

def breaks (s : String) : Nat := s.toList.count '\n'

theorem breaks_of_printable {s : String} (h : Printable s.toList) : breaks s = 0 :=
  List.count_eq_zero.mpr h.not_mem_lineBreak

def lineBreak : UInt8 := 10

namespace Text.Utf8

/-- No byte of a character outside ASCII is one of an ASCII character. -/
theorem high_of_mem_encodeChar {c : Char} (hc : 0x80 ≤ c.toNat) {b : UInt8}
    (hb : b ∈ encodeChar c) : 0x80 ≤ b.toNat := by
  have hv : c.toNat < 0xD800 ∨ (0xDFFF < c.toNat ∧ c.toNat < 0x110000) := c.valid
  have hbyte : ∀ n, 0x80 ≤ n → n < 0x100 → b = n.toUInt8 → 0x80 ≤ b.toNat := by
    intro n hlo hhi he
    rw [he, toNat_toUInt8 hhi]
    exact hlo
  unfold encodeChar at hb
  simp only at hb
  rw [if_neg (by omega)] at hb
  split_ifs at hb <;> simp only [List.mem_cons, List.not_mem_nil, or_false] at hb
  · rcases hb with hb | hb <;> exact hbyte _ (by omega) (by omega) hb
  · rcases hb with hb | hb | hb <;> exact hbyte _ (by omega) (by omega) hb
  · rcases hb with hb | hb | hb | hb <;> exact hbyte _ (by omega) (by omega) hb

theorem count_encodeChar (c : Char) :
    (encodeChar c).count lineBreak = if c = '\n' then 1 else 0 := by
  by_cases hc : c.toNat < 0x80
  · have hbyte : encodeChar c = [c.toNat.toUInt8] := by
      simp only [encodeChar, if_pos hc]
    have hiff : c.toNat.toUInt8 = lineBreak ↔ c = '\n' := by
      rw [← UInt8.toNat_inj, toNat_toUInt8 (by omega), ← Char.toNat_inj]
      rfl
    rw [hbyte, List.count_singleton]
    by_cases hb : c = '\n'
    · rw [if_pos hb, if_pos (beq_iff_eq.mpr (hiff.mpr hb))]
    · rw [if_neg hb, if_neg (mt beq_iff_eq.mp (mt hiff.mp hb))]
  · have hne : c ≠ '\n' := by
      rintro rfl
      exact hc (by decide)
    rw [if_neg hne, List.count_eq_zero]
    intro hmem
    exact absurd (high_of_mem_encodeChar (by omega) hmem) (by decide)

/-- **Line breaks are counted in the bytes as in the text.** -/
theorem count_encode (s : List Char) : (encode s).count lineBreak = s.count '\n' := by
  induction s with
  | nil => rfl
  | cons c s ih =>
    rw [encode, List.flatMap_cons, List.count_append, count_encodeChar, List.count_cons,
      show s.flatMap encodeChar = encode s from rfl, ih]
    by_cases hc : c = '\n'
    · simp [hc, Nat.add_comm]
    · simp [hc]

end Text.Utf8

/-! ## Fields -/

theorem padded_printable (width n : Nat) : Printable (Instant.padded width n).toList := by
  unfold Instant.padded padZeros
  rw [String.toList_ofList, Printable.append]
  refine ⟨fun c hc => ?_, toString_printable n⟩
  rw [(List.mem_replicate.mp hc).2]
  decide

theorem dateTime_printable (t : Instant) : Printable t.dateTime.toList := by
  have hyear : Printable (Instant.yearText t.date.year).toList := by
    unfold Instant.yearText
    split
    · exact padded_printable 4 _
    · split
      · rw [String.toList_append, Printable.append]
        exact ⟨by decide, padded_printable 4 _⟩
      · rw [String.toList_append, Printable.append]
        exact ⟨by decide, padded_printable 4 _⟩
  have hsigns : Printable "-".toList ∧ Printable "T".toList ∧ Printable ":".toList ∧
      Printable "Z".toList := by decide
  simp only [Instant.dateTime, String.toList_append, Printable.append, hyear, hsigns,
    padded_printable, and_self]

theorem toString_int_printable (n : Int) : Printable (toString n).toList := by
  rw [toString_int]
  split
  · exact toString_printable _
  · exact Printable.cons.mpr ⟨by decide, toString_printable _⟩

/-- A field that a submission sets as it likes. -/
def AuditField.IsRaw (f : AuditField) : Prop := f = .method ∨ f = .remoteAddr

/-- **Every other field is printable.** -/
theorem AuditField.value_printable {f : AuditField} {request : Request} (hf : ¬ f.IsRaw)
    (hu : request.url.Written) (outcome : Outcome) (now : Instant) :
    Printable (f.value (.of request outcome now)).toList := by
  cases f with
  | date => exact dateTime_printable now
  | timestamp => exact toString_int_printable now.seconds
  | url => exact hu.render_printable
  | urlHost => exact hu.hostAndPort_printable
  | urlPath => exact hu.path
  | method => exact absurd (Or.inl rfl) hf
  | remoteAddr => exact absurd (Or.inr rfl) hf
  | outcome =>
    show Printable outcome.name.toList
    cases outcome <;> decide

/-- A record whose fields are printable, apart from the raw ones. -/
def AuditRecord.Plain (r : AuditRecord) : Prop :=
  ∀ f : AuditField, ¬ f.IsRaw → Printable (f.value r).toList

/-! ## Templates -/

namespace Template

/-- No literal text of the template has a line break. -/
def Unbroken (t : Template) : Prop := ∀ text, Segment.literal text ∈ t.segments → '\n' ∉ text

/-- How often a field stands in a template. -/
def uses (t : Template) (f : AuditField) : Nat := t.segments.count (.field f)

/-- The line breaks that a record brings into its line. -/
def forged (t : Template) (r : AuditRecord) : Nat :=
  t.uses .method * breaks r.method + t.uses .remoteAddr * breaks r.remoteAddr

theorem breaks_join (parts : List String) :
    breaks (String.join parts) = (parts.map breaks).sum := by
  unfold breaks
  rw [String.toList_join]
  induction parts with
  | nil => rfl
  | cons p parts ih =>
    rw [List.flatMap_cons, List.count_append, ih]
    rfl

theorem sum_breaks {r : AuditRecord} (hr : r.Plain) (segments : List Segment)
    (ht : ∀ text, Segment.literal text ∈ segments → '\n' ∉ text) :
    (segments.map fun g => breaks (segmentText r g)).sum =
      segments.count (.field .method) * breaks r.method +
        segments.count (.field .remoteAddr) * breaks r.remoteAddr := by
  induction segments with
  | nil => simp
  | cons g segments ih =>
    have hrest := ih fun text h => ht text (List.mem_cons_of_mem g h)
    rw [List.map_cons, List.sum_cons, hrest, List.count_cons, List.count_cons]
    cases g with
    | literal text =>
      have htext : breaks (segmentText r (.literal text)) = 0 := by
        show (String.ofList text).toList.count '\n' = 0
        rw [String.toList_ofList]
        exact List.count_eq_zero.mpr (ht text List.mem_cons_self)
      simp [htext]
    | field f =>
      by_cases hf : f.IsRaw
      · rcases hf with rfl | rfl
        · simp [segmentText, AuditField.value, Nat.add_mul]
          omega
        · simp [segmentText, AuditField.value, Nat.add_mul]
          omega
      · have hplain : breaks (segmentText r (.field f)) = 0 := breaks_of_printable (hr f hf)
        have hmethod : f ≠ .method := fun h => hf (Or.inl h)
        have hremote : f ≠ .remoteAddr := fun h => hf (Or.inr h)
        simp [hplain, hmethod, hremote]

/-- **The line breaks in a line** are those of the raw fields. -/
theorem breaks_render {t : Template} (ht : t.Unbroken) {r : AuditRecord} (hr : r.Plain) :
    breaks (t.render r) = t.forged r := by
  unfold render forged uses
  rw [breaks_join, List.map_map]
  exact sum_breaks hr t.segments ht

/-- What follows a placeholder is part of the text. -/
theorem mem_of_placeholder? {s name rest : List Char} (h : placeholder? s = some (name, rest))
    {c : Char} (hc : c ∈ rest) : c ∈ s := by
  unfold placeholder? at h
  split at h
  · exact absurd h (by simp)
  · next inner hinner =>
    split at h
    · next r hr =>
      simp only at h
      split at h
      · exact absurd h (by simp)
      · rw [Option.map_eq_some_iff] at h
        obtain ⟨x, hx, he⟩ := h
        cases he
        have h1 : c ∈ (r.dropWhile isAsciiLetter).dropWhile isBlank := by
          rw [after?_eq_some_iff.mp hx]
          exact List.mem_append_right closing hc
        have h2 : c ∈ r := (List.dropWhile_sublist _).subset ((List.dropWhile_sublist _).subset h1)
        have h3 : c ∈ inner := by
          refine (List.dropWhile_sublist isBlank).subset ?_
          rw [hr]
          exact List.mem_cons_of_mem _ h2
        rw [after?_eq_some_iff.mp hinner]
        exact List.mem_append_right opening h3
    · exact absurd h (by simp)

theorem literal_eq {text found : List Char} {segments : List Segment}
    (h : literal text = .ok segments) (hf : Segment.literal found ∈ segments) : found = text := by
  unfold literal at h
  split at h
  · exact absurd h (by simp)
  · cases h
    split at hf
    · exact absurd hf (by simp)
    · simpa using hf

/-- Literal text comes from the text that was read. -/
theorem mem_of_parseFrom (before s : List Char) {segments : List Segment} {text : List Char}
    (h : parseFrom before s = .ok segments) (ht : Segment.literal text ∈ segments) {c : Char}
    (hc : c ∈ text) : c ∈ before ∨ c ∈ s := by
  induction before, s using parseFrom.induct generalizing segments with
  | case1 before =>
    rw [parseFrom] at h
    rw [literal_eq h ht, List.mem_reverse] at hc
    exact Or.inl hc
  | case2 before d r hp ih =>
    rw [parseFrom_plain hp] at h
    rcases ih h ht with hc | hc
    · rcases List.mem_cons.mp hc with rfl | hc
      · exact Or.inr List.mem_cons_self
      · exact Or.inl hc
    · exact Or.inr (List.mem_cons_of_mem d hc)
  | case3 before d r name rest hp ih =>
    obtain ⟨front, f, behind, hfront, -, hbehind, rfl⟩ := parseFrom_placeholder hp h
    rcases List.mem_append.mp ht with ht | ht
    · rw [literal_eq hfront ht, List.mem_reverse] at hc
      exact Or.inl hc
    · rcases List.mem_cons.mp ht with ht | ht
      · exact absurd ht (by simp)
      · rcases ih hbehind ht with hc | hc
        · exact absurd hc (by simp)
        · exact Or.inr (mem_of_placeholder? hp hc)

/-- **A format without line breaks** has none in its literal text. -/
theorem parse_unbroken {format : String} {t : Template} (hf : '\n' ∉ format.toList)
    (h : parse format = .ok t) : t.Unbroken := by
  unfold parse at h
  cases hp : parseFrom [] format.toList with
  | error e =>
    rw [hp] at h
    cases h
  | ok segments =>
    rw [hp] at h
    cases h
    intro text ht hc
    rcases mem_of_parseFrom [] format.toList hp ht hc with hc | hc
    · exact absurd hc (by simp)
    · exact hf hc

end Template

/-! ## One decision -/

def Disk.lines (d : Disk) (place : Place) : Nat := ((d.contentAt? place).getD []).count lineBreak

theorem Paper.lines_writeLine (p : Paper) (outcome : Outcome) (line : String) (target : Target)
    (place : Place) :
    (p.writeLine outcome line target).disk.lines place =
      p.disk.lines place + if target = .file place then breaks line + 1 else 0 := by
  cases target with
  | log => rfl
  | stdout => rfl
  | file q =>
    unfold writeLine Disk.append Disk.lines
    rw [Disk.contentAt?_put]
    by_cases hq : place = q
    · subst hq
      rw [if_pos rfl, if_pos rfl, Option.getD_some, List.count_append, Utf8.count_encode,
        String.toList_append, List.count_append]
      rfl
    · have hne : Target.file q ≠ .file place := fun h => hq (Target.file.inj h).symm
      rw [if_neg hq, if_neg hne, Nat.add_zero]

namespace AuditOutput

/-- How many sinks write decisions with an outcome to the file at a place. -/
def takers (o : AuditOutput) (place : Place) (outcome : Outcome) : Nat :=
  (o.sinks.filter (·.accepts outcome)).countP (·.target = .file place)

theorem lines_writeAll (outcome : Outcome) (line : String) (sinks : List Sink) (p : Paper)
    (place : Place) :
    (sinks.foldl (fun p s => p.writeLine outcome line s.target) p).disk.lines place =
      p.disk.lines place + sinks.countP (·.target = .file place) * (breaks line + 1) := by
  induction sinks generalizing p with
  | nil => simp
  | cons s sinks ih =>
    rw [List.foldl_cons, ih, Paper.lines_writeLine, List.countP_cons]
    by_cases hs : s.target = .file place
    · simp [hs, Nat.add_mul]
      omega
    · simp [hs]

/-- **What a decision adds to a file**: a line for each sink that takes it, and one more for each
line break that its record brings in. -/
theorem lines_emit {o : AuditOutput} (ho : o.template.Unbroken) {r : AuditRecord} (hr : r.Plain)
    (p : Paper) (place : Place) :
    (o.emit r p).disk.lines place =
      p.disk.lines place + o.takers place r.outcome * (1 + o.template.forged r) := by
  unfold emit
  simp only
  rw [lines_writeAll, Template.breaks_render ho hr, Nat.add_comm 1]
  rfl

end AuditOutput

/-! ## Submissions -/

theorem Http.readSubmission_written {body : Bytes} {request : Request}
    (h : readSubmission body = .ok request) : request.url.Written := by
  unfold readSubmission at h
  split at h
  · exact absurd h (by simp)
  split at h
  · exact absurd h (by simp)
  split at h
  · exact absurd h (by simp)
  split at h
  · exact absurd h (by simp)
  · next p _ hp =>
    cases h
    unfold Request.ofParts at hp
    split at hp
    · next u hu =>
      cases hp
      exact Url.parse_written hu
    · exact absurd hp (by simp)

theorem AuditRecord.of_plain {request : Request} (h : request.url.Written) (outcome : Outcome)
    (now : Instant) : (AuditRecord.of request outcome now).Plain :=
  fun _ hf => AuditField.value_printable hf h outcome now

namespace Site

variable {σ : Type}

def decision (e : Engine) (r : Request) (s : Site σ) : AuditRecord :=
  .of r (scan e r s).1 s.world.clock

theorem scan_paper (e : Engine) (r : Request) (s : Site σ) :
    (scan e r s).2.world.paper = e.output.emit (decision e r s) s.world.paper := rfl

/-- What happens at a place where an engine works: a submission, or anything that leaves the
files alone. -/
inductive Happening (σ : Type)
  | submission (body : Bytes)
  | other (change : Site σ → Site σ)
      (leaves : ∀ s, (change s).world.paper.disk = s.world.paper.disk)

def step (e : Engine) (s : Site σ) : Happening σ → Site σ
  | .submission body => (submit e body s).2
  | .other change _ => change s

def taken (e : Engine) (s : Site σ) : Happening σ → Option AuditRecord
  | .submission body =>
    match Http.readSubmission body with
    | .ok request => some (decision e request s)
    | .error _ => none
  | .other _ _ => none

def after (e : Engine) (happenings : List (Happening σ)) (s : Site σ) : Site σ :=
  happenings.foldl (step e) s

/-- The decisions taken meanwhile, the first one first. -/
def decisions (e : Engine) : List (Happening σ) → Site σ → List AuditRecord
  | [], _ => []
  | h :: happenings, s => (taken e s h).toList ++ decisions e happenings (step e s h)

def lines (s : Site σ) (place : Place) : Nat := s.world.paper.disk.lines place

/-- The lines that a decision adds to the file at a place. -/
def added (e : Engine) (place : Place) (r : AuditRecord) : Nat :=
  e.output.takers place r.outcome * (1 + e.output.template.forged r)

/-- **What happens adds the lines of its decision**, if there is one. -/
theorem step_lines {e : Engine} (he : e.output.template.Unbroken) (place : Place) (s : Site σ)
    (h : Happening σ) :
    (step e s h).lines place = s.lines place + ((taken e s h).toList.map (added e place)).sum := by
  cases h with
  | other change leaves =>
    show (change s).world.paper.disk.lines place = s.lines place + 0
    rw [leaves]
    rfl
  | submission body =>
    cases hr : Http.readSubmission body with
    | error refusal =>
      have hs : submit e body s = (refusal, s) := by
        unfold submit
        rw [hr]
        rfl
      simp [step, taken, hs, hr]
    | ok request =>
      have hs : (submit e body s).2 = (scan e request s).2 := by
        unfold submit
        rw [hr]
        rfl
      have hplain : (decision e request s).Plain :=
        AuditRecord.of_plain (Http.readSubmission_written hr) _ _
      have hlines := AuditOutput.lines_emit he hplain s.world.paper place
      rw [← scan_paper] at hlines
      simp [step, taken, hs, hr]
      exact hlines

/-- Every decision adds one line for each sink that takes it exactly if it brings none in. -/
theorem sum_added_iff (e : Engine) (place : Place) (records : List AuditRecord) :
    (records.map (added e place)).sum =
        (records.map fun r => e.output.takers place r.outcome).sum ↔
      ∀ r ∈ records, e.output.takers place r.outcome = 0 ∨ e.output.template.forged r = 0 := by
  have hle : ∀ records : List AuditRecord,
      (records.map fun r => e.output.takers place r.outcome).sum ≤
        (records.map (added e place)).sum := by
    intro records
    induction records with
    | nil => simp
    | cons r records ih =>
      simp only [List.map_cons, List.sum_cons, added, Nat.mul_add, Nat.mul_one] at ih ⊢
      omega
  induction records with
  | nil => simp
  | cons r records ih =>
    have htail := hle records
    refine Iff.trans ?_ List.forall_mem_cons.symm
    refine Iff.trans ?_ (and_congr Nat.mul_eq_zero ih)
    simp only [List.map_cons, List.sum_cons, added, Nat.mul_add, Nat.mul_one] at htail ⊢
    omega

/-- **The lines that a run of submissions adds to a file**: for every decision one for each sink
that takes it, and as many again for each line break in its method or its remote address,
wherever the template names them. So no other field can end a line, and the decisions have one
line each exactly if those taken have no line break in these two. -/
theorem lines_run {e : Engine} (he : e.output.template.Unbroken) (place : Place)
    (happenings : List (Happening σ)) (s : Site σ) :
    (after e happenings s).lines place =
        s.lines place + ((decisions e happenings s).map (added e place)).sum ∧
      ((after e happenings s).lines place = s.lines place +
          ((decisions e happenings s).map fun r => e.output.takers place r.outcome).sum ↔
        ∀ r ∈ decisions e happenings s,
          e.output.takers place r.outcome = 0 ∨ e.output.template.forged r = 0) := by
  have hrun : (after e happenings s).lines place =
      s.lines place + ((decisions e happenings s).map (added e place)).sum := by
    induction happenings generalizing s with
    | nil => rfl
    | cons h happenings ih =>
      show (after e happenings (step e s h)).lines place = _
      rw [ih, step_lines he, decisions, List.map_append, List.sum_append, Nat.add_assoc]
  refine ⟨hrun, ?_⟩
  rw [← sum_added_iff, hrun]
  omega

def methodEngine : Engine := ⟨0, [], ⟨⟨[.field .method]⟩, [⟨.all, .file [['a']]⟩]⟩⟩

def blankSite : Site Tables :=
  ⟨⟨Tables.empty, ⟨Disk.empty, [], []⟩, Dict.empty, [], .silent "refused", ⟨0, 0⟩⟩, .fresh⟩

def submissionOf (method : String) : Bytes := Bytes.ofText ("[\"h\",\"a:b\",\"" ++ method ++ "\"]")

theorem methodEngine_unbroken : methodEngine.output.template.Unbroken := by
  intro text h
  simp [methodEngine] at h

/-- A usual method takes one line. -/
theorem lines_run_usual :
    methodEngine.output.template.Unbroken ∧
      (after methodEngine [.submission (submissionOf "GET")] blankSite).lines [['a']] = 1 := by
  refine ⟨methodEngine_unbroken, ?_⟩
  rw [(lines_run methodEngine_unbroken [['a']] [.submission (submissionOf "GET")] blankSite).1]
  decide +kernel

/-- **A submission can forge a line**: a line break in its method ends the line. -/
theorem submission_forges_line :
    ¬ ∀ (e : Engine) (scope : Scope) (place : Place), e.output.template.Unbroken →
        e.output.sinks = [⟨scope, .file place⟩] → ∀ (bodies : List Bytes) (s : Site Tables),
      (after e (bodies.map .submission) s).lines place = s.lines place +
        ((decisions e (bodies.map .submission) s).filter fun r =>
          Sink.accepts ⟨scope, .file place⟩ r.outcome).length := by
  intro h
  have hone := h methodEngine .all [['a']] methodEngine_unbroken rfl
    [submissionOf "GET\\nforged"] blankSite
  exact absurd hone (by decide +kernel)

end Site

end Firewall
