import Firewall.Text.Utf8
import Mathlib.Tactic.SplitIfs

/-!
Reading what was written in UTF-8. A character is read back from its own bytes, with
nothing taken from the bytes that follow, and so a text is read back from its bytes.

Proved here:

* `decodeChar_encodeChar`: one character, in front of any bytes;
* `decode?_encode`: a whole text.
-/

namespace Firewall.Text.Utf8

theorem toNat_toUInt8 {n : Nat} (h : n < 256) : n.toUInt8.toNat = n :=
  UInt8.toNat_ofNat_of_lt' h

/-- A continuation byte carries six bits. -/
theorem tail_byte {lo hi n : Nat} (seen acc count : Nat) (rest : List UInt8) (hn : n < 64)
    (hlo : lo ≤ 0x80 + n) (hhi : 0x80 + n ≤ hi) :
    tail lo hi seen acc (count + 1) ((0x80 + n).toUInt8 :: rest) =
      tail 0x80 0xBF (seen + 1) (acc * 64 + n) count rest := by
  have hb : (0x80 + n).toUInt8.toNat = 0x80 + n := toNat_toUInt8 (by omega)
  have hm : (0x80 + n) % 64 = n := by omega
  rw [tail, hb, if_pos ⟨hlo, hhi⟩, hm]

theorem follow?_two {n : Nat} (h : 0x80 ≤ n) (hn : n < 0x800) :
    follow? (0xC0 + n / 64) = some (0x80, 0xBF, 1) := by
  unfold follow?
  rw [if_neg (by omega), if_pos (by omega)]

/-- The second byte of three lies in the range its first byte asks for, because no
character takes fewer bytes or is a surrogate. -/
theorem follow?_three {n : Nat} (h : 0x800 ≤ n) (hn : n < 0x10000)
    (hs : n < 0xD800 ∨ 0xDFFF < n) :
    ∃ lo hi, follow? (0xE0 + n / 4096) = some (lo, hi, 2) ∧
      lo ≤ 0x80 + n / 64 % 64 ∧ 0x80 + n / 64 % 64 ≤ hi := by
  unfold follow?
  rw [if_neg (by omega), if_neg (by omega)]
  split_ifs <;> first | omega | exact ⟨_, _, rfl, by omega, by omega⟩

/-- So does the second byte of four. -/
theorem follow?_four {n : Nat} (h : 0x10000 ≤ n) (hn : n < 0x110000) :
    ∃ lo hi, follow? (0xF0 + n / 262144) = some (lo, hi, 3) ∧
      lo ≤ 0x80 + n / 4096 % 64 ∧ 0x80 + n / 4096 % 64 ≤ hi := by
  unfold follow?
  rw [if_neg (by omega), if_neg (by omega), if_neg (by omega), if_neg (by omega),
    if_neg (by omega)]
  split_ifs <;> first | omega | exact ⟨_, _, rfl, by omega, by omega⟩

theorem decodeChar_cons {b lo hi count n acc : Nat} {s rest : List UInt8} (hb : b < 256)
    (hf : follow? b = some (lo, hi, count)) (ha : headBits b count = acc)
    (ht : tail lo hi 1 acc count s = .ok (n, rest)) :
    decodeChar (b.toUInt8 :: s) = .ok (Char.ofNat n, rest) := by
  have hlow : ¬ b < 0x80 := by
    intro hl
    unfold follow? at hf
    rw [if_pos (by omega)] at hf
    exact absurd hf (by simp)
  rw [decodeChar, toNat_toUInt8 hb, if_neg hlow, hf]
  simp only [ha, ht]

/-- **A character is read back from its bytes**, whatever follows them. -/
theorem decodeChar_encodeChar (c : Char) (rest : List UInt8) :
    decodeChar (encodeChar c ++ rest) = .ok (c, rest) := by
  have hv : c.toNat < 0xD800 ∨ (0xDFFF < c.toNat ∧ c.toNat < 0x110000) := c.valid
  have hc : Char.ofNat c.toNat = c := Char.ofNat_toNat c
  generalize hn : c.toNat = n at hv hc
  simp only [encodeChar, hn]
  by_cases h1 : n < 0x80
  · rw [if_pos h1, List.singleton_append, decodeChar, toNat_toUInt8 (by omega), if_pos h1, hc]
  rw [if_neg h1]
  by_cases h2 : n < 0x800
  · rw [if_pos h2]
    rw [← hc]
    refine decodeChar_cons (by omega) (follow?_two (by omega) h2)
      (show (0xC0 + n / 64) % 32 = n / 64 by omega) ?_
    show tail _ _ _ _ 1 (_ :: rest) = _
    rw [tail_byte 1 _ 0 rest (by omega) (by omega) (by omega), tail]
    congr 2
    omega
  rw [if_neg h2]
  by_cases h3 : n < 0x10000
  · rw [if_pos h3, ← hc]
    obtain ⟨lo, hi, hf, hlo, hhi⟩ := follow?_three (by omega) h3 (by omega)
    refine decodeChar_cons (by omega) hf (show (0xE0 + n / 4096) % 16 = n / 4096 by omega) ?_
    show tail _ _ _ _ 2 (_ :: _ :: rest) = _
    rw [tail_byte 1 _ 1 _ (by omega) hlo hhi,
      tail_byte 2 _ 0 rest (by omega) (by omega) (by omega), tail]
    congr 2
    omega
  · rw [if_neg h3, ← hc]
    obtain ⟨lo, hi, hf, hlo, hhi⟩ := follow?_four (n := n) (by omega) (by omega)
    refine decodeChar_cons (by omega) hf (show (0xF0 + n / 262144) % 8 = n / 262144 by omega) ?_
    show tail _ _ _ _ 3 (_ :: _ :: _ :: rest) = _
    rw [tail_byte 1 _ 2 _ (by omega) hlo hhi, tail_byte 2 _ 1 _ (by omega) (by omega) (by omega),
      tail_byte 3 _ 0 rest (by omega) (by omega) (by omega), tail]
    congr 2
    omega

theorem decodeFrom_encode (s : List Char) (offset : Nat) :
    decodeFrom offset (encode s) = .ok s := by
  induction s generalizing offset with
  | nil => rw [encode, List.flatMap_nil, decodeFrom]
  | cons c s ih =>
    have hd : decodeChar (encode (c :: s)) = .ok (c, encode s) := by
      rw [encode, List.flatMap_cons]
      exact decodeChar_encodeChar c _
    cases he : encode (c :: s) with
    | nil =>
      rw [he, decodeChar] at hd
      exact absurd hd (by simp)
    | cons b r =>
      rw [he] at hd
      rw [decodeFrom]
      split
      · next h => rw [hd] at h; exact absurd h (by simp)
      · next d rest h =>
        rw [hd] at h
        obtain ⟨rfl, rfl⟩ : c = d ∧ encode s = rest := by simpa using h
        rw [ih]

/-- **A text is read back from its bytes.** -/
theorem decode?_encode (s : List Char) : decode? (encode s) = some s := by
  rw [decode?, decode, decodeFrom_encode]
  rfl

end Firewall.Text.Utf8
