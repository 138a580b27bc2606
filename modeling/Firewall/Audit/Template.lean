import Firewall.Audit.Record

/-!
Templates of audit lines: literal text, and placeholders such as `{{ .Url }}`
for the fields of a record. Nothing else has a meaning in a template, and
doubled braces may only stand around a placeholder.
-/

namespace Firewall

inductive Segment
  | literal (text : List Char)
  | field (f : AuditField)
  deriving DecidableEq, Repr

structure Template where
  segments : List Segment
  deriving DecidableEq, Repr

namespace Template

open Text

/-- The braces that open a placeholder. -/
def opening : List Char := ['\x7b', '\x7b']

def closing : List Char := ['\x7d', '\x7d']

/-- The name in a placeholder at the front of a text, and what follows it. -/
def placeholder? (s : List Char) : Option (List Char × List Char) :=
  match after? opening s with
  | none => none
  | some inner =>
    match inner.dropWhile isBlank with
    | '.' :: r =>
      let name := r.takeWhile isAsciiLetter
      if name.isEmpty then none
      else (after? closing ((r.dropWhile isAsciiLetter).dropWhile isBlank)).map fun rest =>
        (name, rest)
    | _ => none

theorem length_dropWhile_le (p : Char → Bool) (s : List Char) :
    (s.dropWhile p).length ≤ s.length := (List.dropWhile_sublist p).length_le

theorem placeholder?_length {s name rest : List Char}
    (h : placeholder? s = some (name, rest)) : rest.length < s.length := by
  unfold placeholder? at h
  split at h
  · simp at h
  · next inner hi =>
    split at h
    · next r hr =>
      dsimp only at h
      split at h
      · simp at h
      · rw [Option.map_eq_some_iff] at h
        obtain ⟨x, hx, he⟩ := h
        cases he
        have h1 := congrArg List.length (after?_eq_some_iff.1 hi)
        have h2 := congrArg List.length (after?_eq_some_iff.1 hx)
        have h3 := length_dropWhile_le isBlank inner
        have h4 := length_dropWhile_le isBlank (r.dropWhile isAsciiLetter)
        have h5 := length_dropWhile_le isAsciiLetter r
        rw [hr] at h3
        simp only [opening, closing, List.length_append, List.length_cons, List.length_nil] at *
        omega
    · simp at h

/-- A literal text as a part, unless it has doubled braces; no text is no part. -/
def literal (text : List Char) : Except BadOutput (List Segment) :=
  if occurs opening text || occurs closing text then .error (.malformed (String.ofList text))
  else .ok (if text.isEmpty then [] else [.literal text])

/-- Reads the parts of a text. `before` is the literal text in front of it, last
character first. -/
def parseFrom (before s : List Char) : Except BadOutput (List Segment) :=
  match s with
  | [] => literal before.reverse
  | c :: r =>
    match _h : placeholder? (c :: r) with
    | none => parseFrom (c :: before) r
    | some (name, rest) => do
      let text ← literal before.reverse
      match AuditField.ofName? (String.ofList name) with
      | none => throw (.unknownField (String.ofList name))
      | some f =>
        let segments ← parseFrom [] rest
        return text ++ .field f :: segments
termination_by s.length
decreasing_by
  · simp
  · exact placeholder?_length ‹_›

theorem parseFrom_nil (before : List Char) : parseFrom before [] = literal before.reverse := by
  rw [parseFrom]

/-- Where no placeholder begins, a character belongs to literal text. -/
theorem parseFrom_plain {before r : List Char} {c : Char} (h : placeholder? (c :: r) = none) :
    parseFrom before (c :: r) = parseFrom (c :: before) r := by
  rw [parseFrom]
  split
  · rfl
  · next hp =>
    rw [h] at hp
    cases hp

/-- A placeholder ends the literal text in front of it, and reading begins anew behind it. -/
theorem parseFrom_marked {before r name rest : List Char} {c : Char} {f : AuditField}
    (h : placeholder? (c :: r) = some (name, rest))
    (hname : AuditField.ofName? (String.ofList name) = some f) :
    parseFrom before (c :: r) = do
      let text ← literal before.reverse
      let segments ← parseFrom [] rest
      return text ++ .field f :: segments := by
  rw [parseFrom]
  split
  · next hp =>
    rw [h] at hp
    cases hp
  · next hp =>
    rw [h] at hp
    cases hp
    simp only [hname]

/-- A placeholder cuts a text into the literal in front of it, its field, and the parts behind. -/
theorem parseFrom_placeholder {before r name rest : List Char} {c : Char}
    {segments : List Segment} (hp : placeholder? (c :: r) = some (name, rest))
    (h : parseFrom before (c :: r) = .ok segments) :
    ∃ front f behind, literal before.reverse = .ok front ∧
      AuditField.ofName? (String.ofList name) = some f ∧ parseFrom [] rest = .ok behind ∧
      segments = front ++ .field f :: behind := by
  cases hn : AuditField.ofName? (String.ofList name) with
  | none =>
    rw [parseFrom] at h
    split at h
    · next hnone =>
      rw [hnone] at hp
      cases hp
    · next hsome =>
      rw [hsome] at hp
      cases hp
      rw [hn] at h
      cases hl : literal before.reverse <;> rw [hl] at h <;> cases h
  | some f =>
    rw [parseFrom_marked hp hn] at h
    cases hl : literal before.reverse with
    | error e =>
      rw [hl] at h
      cases h
    | ok front =>
      cases hb : parseFrom [] rest with
      | error e =>
        rw [hl, hb] at h
        cases h
      | ok behind =>
        rw [hl, hb] at h
        cases h
        exact ⟨front, f, behind, rfl, rfl, rfl, rfl⟩

def parse (format : String) : Except BadOutput Template :=
  (parseFrom [] format.toList).map Template.mk

def segmentText (r : AuditRecord) : Segment → String
  | .literal text => String.ofList text
  | .field f => f.value r

/-- The line about a decision. -/
def render (t : Template) (r : AuditRecord) : String :=
  String.join (t.segments.map (segmentText r))

end Template

end Firewall
