import Firewall.Text

/-!
Bytes as pairs of hexadecimal digits. `decode?_encode` states that the written
form reads back.
-/

namespace Firewall.Text.Hex

def lowerDigit (n : Nat) : Char :=
  if n < 10 then Char.ofNat (48 + n) else Char.ofNat (87 + n)

def upperDigit (n : Nat) : Char :=
  if n < 10 then Char.ofNat (48 + n) else Char.ofNat (55 + n)

/-- A number in lower-case hexadecimal without leading zeros. -/
def lower (n : Nat) : List Char := (Nat.toDigits 16 n)

def encodeByte (b : UInt8) : List Char :=
  [lowerDigit (b.toNat / 16), lowerDigit (b.toNat % 16)]

def encode (s : List UInt8) : List Char := s.flatMap encodeByte

/-- Reads pairs of digits of either case. -/
def decode? : List Char → Option (List UInt8)
  | [] => some []
  | [_] => none
  | a :: b :: r =>
    match hexDigit? a, hexDigit? b, decode? r with
    | some x, some y, some rest => some ((16 * x + y).toUInt8 :: rest)
    | _, _, _ => none

theorem hexDigit?_lowerDigit : ∀ n, n < 16 → hexDigit? (lowerDigit n) = some n := by decide

theorem decode?_encode (s : List UInt8) : decode? (encode s) = some s := by
  induction s with
  | nil => rfl
  | cons b r ih =>
    have h := b.toNat_lt
    have hi : b.toNat / 16 < 16 := by omega
    have lo : b.toNat % 16 < 16 := by omega
    have ih' : decode? (r.flatMap encodeByte) = some r := ih
    simp only [encode, List.flatMap_cons, encodeByte, List.cons_append, List.nil_append, decode?,
      hexDigit?_lowerDigit _ hi, hexDigit?_lowerDigit _ lo]
    rw [ih']
    have : 16 * (b.toNat / 16) + b.toNat % 16 = b.toNat := by omega
    simp [this]

end Firewall.Text.Hex
