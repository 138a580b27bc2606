import Firewall.Net.Address

/-!
Networks: an address and the number of leading bits that its members share.
A network keeps the bits after the shared ones as they were written.
-/

namespace Firewall

structure Network where
  base : Address
  length : Nat
  length_le : length ≤ base.width
  deriving Repr

namespace Network

instance : DecidableEq Network := fun a b =>
  match a, b with
  | ⟨x, n, _⟩, ⟨y, m, _⟩ =>
    if h : x = y ∧ n = m then isTrue (by obtain ⟨rfl, rfl⟩ := h; rfl)
    else isFalse (by intro e; cases e; exact h ⟨rfl, rfl⟩)

open Text

/-- A network, if the address has that many bits. -/
def ofParts? (base : Address) (length : Nat) : Option Network :=
  if h : length ≤ base.width then some ⟨base, length, h⟩ else none

/-- Whether the leading bits of `a` and `b`, both `width` bits long, agree. -/
def sameLead (width length a b : Nat) : Bool :=
  a >>> (width - length) == b >>> (width - length)

/-- Whether an address belongs to the network. Versions do not mix. -/
def contains (n : Network) (a : Address) : Bool :=
  match n.base, a with
  | .v4 x, .v4 y => sameLead 32 n.length x.toNat y.toNat
  | .v6 x, .v6 y => sameLead 128 n.length x.toNat y.toNat
  | _, _ => false

/-- The length that a dotted mask stands for: its set bits must all come first. -/
def maskLength? (mask : BitVec 32) : Option Nat :=
  (List.range 33).find? fun n => mask.toNat == UInt32.size - (1 <<< (32 - n))

/-- The length of a version 4 network: a number, or a dotted mask. -/
def lengthV4? (s : List Char) : Option Nat :=
  match Address.parseV4? s with
  | some mask => maskLength? mask
  | none => bounded? 255 s

/-- Reads `address/length`; there is exactly one slash. -/
def parse? (s : List Char) : Option Network :=
  match cut? '/' s with
  | none => none
  | some (address, length) =>
    if length.contains '/' then none
    else match Address.parseV4? address with
      | some b => (lengthV4? length).bind (ofParts? (.v4 b))
      | none => match Address.parseV6? address with
        | some b => (bounded? 255 length).bind (ofParts? (.v6 b))
        | none => none

/-- The written form, with every bit of the address. -/
def render (n : Network) : String := n.base.render ++ "/" ++ toString n.length

end Network

end Firewall
