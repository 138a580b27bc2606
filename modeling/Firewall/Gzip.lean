import Firewall.Gzip.Inflate

/-!
Compressed files: a head, compressed blocks, and a check value of what they
stand for. Only the first of several members counts.
-/

namespace Firewall.Gzip

def checksumBit (n : Nat) : Nat :=
  if n % 2 = 1 then (n / 2) ^^^ 0xEDB88320 else n / 2

def checksumByte (n : Nat) (b : UInt8) : Nat :=
  Nat.repeat checksumBit 8 (n ^^^ b.toNat)

def checksum (bytes : List UInt8) : Nat :=
  bytes.foldl checksumByte 0xFFFFFFFF ^^^ 0xFFFFFFFF

/-- Bytes as a number, the least significant one first. -/
def littleEndian (bytes : List UInt8) : Nat := bytes.foldr (fun b n => 256 * n + b.toNat) 0

/-- What follows a text that a zero byte ends. -/
def afterZero : List UInt8 → Except Fault (List UInt8)
  | [] => .error .cutShort
  | b :: r => if b = 0 then .ok r else afterZero r

/-- What follows so many bytes. -/
def afterBytes (count : Nat) (bytes : List UInt8) : Except Fault (List UInt8) :=
  if count ≤ bytes.length then .ok (bytes.drop count) else .error .cutShort

/-- What follows the head. The lowest five flags say which optional parts it has,
and no other may be set. -/
def afterHead (bytes : List UInt8) : Except Fault (List UInt8) := do
  if bytes.length < 10 then throw .cutShort
  match bytes with
  | 0x1F :: 0x8B :: 0x08 :: flags :: rest =>
    if 32 ≤ flags.toNat then throw .badHeader
    let has (bit : Nat) : Bool := flags.toNat.testBit bit
    let body := rest.drop 6
    let body ← if has 2 then do
        let rest ← afterBytes 2 body
        afterBytes (littleEndian (body.take 2)) rest
      else pure body
    let body ← if has 3 then afterZero body else pure body
    let body ← if has 4 then afterZero body else pure body
    if has 1 then
      let rest ← afterBytes 2 body
      let head := bytes.take (bytes.length - body.length)
      if littleEndian (body.take 2) = checksum head % 65536 then return rest
      else throw .badHeader
    else return body
  | _ => throw .badHeader

/-- The contents of a compressed file, if they are not longer than the limit. -/
def gunzip (limit : Nat) (bytes : List UInt8) : Except Fault (List UInt8) := do
  let body ← afterHead bytes
  let (out, rest) ← inflate body
  if limit < out.length then throw (.tooLarge limit)
  if rest.length < 8 then throw .cutShort
  if littleEndian (rest.take 4) = checksum out ∧
      littleEndian ((rest.drop 4).take 4) = out.length % UInt32.size then return out
  else throw .badChecksum

end Firewall.Gzip
