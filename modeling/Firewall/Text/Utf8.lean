/-!
UTF-8: characters as bytes and back. Decoding says where the first fault lies
and how many bytes belong to it, so that a refusal can name the place.
-/

namespace Firewall.Text.Utf8

def encodeChar (c : Char) : List UInt8 :=
  let n := c.toNat
  if n < 0x80 then [n.toUInt8]
  else if n < 0x800 then [(0xC0 + n / 64).toUInt8, (0x80 + n % 64).toUInt8]
  else if n < 0x10000 then
    [(0xE0 + n / 4096).toUInt8, (0x80 + n / 64 % 64).toUInt8, (0x80 + n % 64).toUInt8]
  else
    [(0xF0 + n / 262144).toUInt8, (0x80 + n / 4096 % 64).toUInt8,
      (0x80 + n / 64 % 64).toUInt8, (0x80 + n % 64).toUInt8]

def encode (s : List Char) : List UInt8 := s.flatMap encodeChar

/-- What is wrong with the bytes of the next character. -/
inductive Damage
  /-- The given number of bytes can never be part of a text here. -/
  | invalid (size : Nat)
  /-- The bytes end inside a character. -/
  | incomplete
  deriving DecidableEq, Repr

/-- A damage and the index of the byte it begins with. -/
structure Fault where
  offset : Nat
  damage : Damage
  deriving DecidableEq, Repr

/-- The range of the second byte after a first byte, and the number of bytes
that follow the first; `none` for a byte that begins no longer character. -/
def follow? (b : Nat) : Option (Nat × Nat × Nat) :=
  if b < 0xC2 then none
  else if b ≤ 0xDF then some (0x80, 0xBF, 1)
  else if b = 0xE0 then some (0xA0, 0xBF, 2)
  else if b = 0xED then some (0x80, 0x9F, 2)
  else if b ≤ 0xEF then some (0x80, 0xBF, 2)
  else if b = 0xF0 then some (0x90, 0xBF, 3)
  else if b ≤ 0xF3 then some (0x80, 0xBF, 3)
  else if b = 0xF4 then some (0x80, 0x8F, 3)
  else none

/-- Reads `count` continuation bytes onto `acc`, after `seen` bytes of the
character. The first of them must lie between `lo` and `hi`. -/
def tail (lo hi seen acc : Nat) : Nat → List UInt8 → Except Damage (Nat × List UInt8)
  | 0, s => .ok (acc, s)
  | _ + 1, [] => .error .incomplete
  | count + 1, b :: r =>
    if lo ≤ b.toNat ∧ b.toNat ≤ hi then
      tail 0x80 0xBF (seen + 1) (acc * 64 + b.toNat % 64) count r
    else .error (.invalid seen)

/-- The bits that a first byte with `count` followers gives to its character. -/
def headBits (b count : Nat) : Nat :=
  match count with
  | 1 => b % 32
  | 2 => b % 16
  | _ => b % 8

def decodeChar : List UInt8 → Except Damage (Char × List UInt8)
  | [] => .error .incomplete
  | b :: r =>
    if b.toNat < 0x80 then .ok (Char.ofNat b.toNat, r)
    else match follow? b.toNat with
      | none => .error (.invalid 1)
      | some (lo, hi, count) =>
        match tail lo hi 1 (headBits b.toNat count) count r with
        | .error e => .error e
        | .ok (n, rest) => .ok (Char.ofNat n, rest)

theorem tail_length {lo hi seen acc count n : Nat} {s rest : List UInt8}
    (h : tail lo hi seen acc count s = .ok (n, rest)) : rest.length ≤ s.length := by
  induction count generalizing lo hi seen acc s with
  | zero => simp [tail] at h; simp [h]
  | succ count ih =>
    cases s with
    | nil => simp [tail] at h
    | cons b r =>
      simp only [tail] at h
      split at h
      · have := ih h; simp; omega
      · simp at h

theorem decodeChar_length {s rest : List UInt8} {c : Char}
    (h : decodeChar s = .ok (c, rest)) : rest.length < s.length := by
  cases s with
  | nil => simp [decodeChar] at h
  | cons b r =>
    simp only [decodeChar] at h
    split at h
    · simp at h; simp [h]
    · split at h
      · simp at h
      · split at h
        · simp at h
        · next ht => simp at h; have := tail_length ht; simp [← h.2]; omega

/-- Reads all characters; `offset` is the index of the first byte. -/
def decodeFrom (offset : Nat) (s : List UInt8) : Except Fault (List Char) :=
  match s with
  | [] => .ok []
  | b :: r =>
    match _hc : decodeChar (b :: r) with
    | .error e => .error ⟨offset, e⟩
    | .ok (c, rest) =>
      match decodeFrom (offset + ((b :: r).length - rest.length)) rest with
      | .error e => .error e
      | .ok cs => .ok (c :: cs)
termination_by s.length
decreasing_by exact decodeChar_length ‹_›

def decode (s : List UInt8) : Except Fault (List Char) := decodeFrom 0 s

def decode? (s : List UInt8) : Option (List Char) := (decode s).toOption

def Fault.message (f : Fault) : String :=
  match f.damage with
  | .invalid size => s!"invalid utf-8 sequence of {size} bytes from index {f.offset}"
  | .incomplete => s!"incomplete utf-8 byte sequence from index {f.offset}"

end Firewall.Text.Utf8
