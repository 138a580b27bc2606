import Firewall.Gzip.Huffman

/-!
Decompression of blocks: bytes as they are, or symbols for bytes and for copies
of what was written before. The bits of a byte come lowest first.
-/

namespace Firewall.Gzip

inductive Fault
  | badHeader
  | corrupt
  | badChecksum
  | cutShort
  | tooLarge (limit : Nat)
  deriving DecidableEq, Repr

def Fault.message : Fault → String
  | badHeader => "invalid gzip header"
  | corrupt => "corrupt deflate stream"
  | badChecksum => "corrupt gzip stream does not have a matching checksum"
  | cutShort => "unexpected end of file"
  | tooLarge limit => "dataset exceeds " ++ toString limit ++ " bytes"

/-- The bits of a byte, lowest first. -/
def bitsOfByte (b : UInt8) : List Bool := (List.range 8).map fun i => b.toNat.testBit i

def bitsOf (bytes : List UInt8) : List Bool := bytes.flatMap bitsOfByte

/-- Bits as a number, lowest first. -/
def numberOf (bits : List Bool) : Nat := bits.foldr (fun b n => 2 * n + b.toNat) 0

/-- The whole bytes that are left. -/
def bytesOf : List Bool → List UInt8
  | a :: b :: c :: d :: e :: f :: g :: h :: r =>
    (numberOf [a, b, c, d, e, f, g, h]).toUInt8 :: bytesOf r
  | _ => []

/-- A number of so many bits, and the bits behind it. -/
def takeNumber (count : Nat) (bits : List Bool) : Except Fault (Nat × List Bool) :=
  if count ≤ bits.length then .ok (numberOf (bits.take count), bits.drop count)
  else .error .cutShort

def takeSymbol (code : CodeTree) (bits : List Bool) : Except Fault (Nat × List Bool) :=
  match code.read? bits with
  | some r => .ok r
  | none => if bits.length < 15 then .error .cutShort else .error .corrupt

/-- The lowest value and the number of further bits of each length symbol. -/
def lengthTable : Array (Nat × Nat) :=
  #[(3, 0), (4, 0), (5, 0), (6, 0), (7, 0), (8, 0), (9, 0), (10, 0), (11, 1), (13, 1), (15, 1),
    (17, 1), (19, 2), (23, 2), (27, 2), (31, 2), (35, 3), (43, 3), (51, 3), (59, 3), (67, 4),
    (83, 4), (99, 4), (115, 4), (131, 5), (163, 5), (195, 5), (227, 5), (258, 0)]

def distanceTable : Array (Nat × Nat) :=
  #[(1, 0), (2, 0), (3, 0), (4, 0), (5, 1), (7, 1), (9, 2), (13, 2), (17, 3), (25, 3), (33, 4),
    (49, 4), (65, 5), (97, 5), (129, 6), (193, 6), (257, 7), (385, 7), (513, 8), (769, 8),
    (1025, 9), (1537, 9), (2049, 10), (3073, 10), (4097, 11), (6145, 11), (8193, 12), (12289, 12),
    (16385, 13), (24577, 13)]

/-- The value that a symbol and the bits behind it stand for. -/
def takeExtended (table : Array (Nat × Nat)) (symbol : Nat) (bits : List Bool) :
    Except Fault (Nat × List Bool) :=
  match table[symbol]? with
  | none => .error .corrupt
  | some (base, extra) => (takeNumber extra bits).map fun (n, bits) => (base + n, bits)

/-- Repeats what was written `distance` bytes ago. -/
def copyBack (distance : Nat) : Nat → Array UInt8 → Array UInt8
  | 0, out => out
  | count + 1, out => copyBack distance count (out.push (out.getD (out.size - distance) 0))

/-- Writes the symbols of a block up to its end; each symbol takes at least one
bit, so as much fuel as there are bits is enough. -/
def writeSymbols (literals distances : CodeTree) :
    Nat → List Bool → Array UInt8 → Except Fault (List Bool × Array UInt8)
  | 0, _, _ => .error .cutShort
  | fuel + 1, bits, out => do
    let (symbol, bits) ← takeSymbol literals bits
    if symbol < 256 then writeSymbols literals distances fuel bits (out.push symbol.toUInt8)
    else if symbol = 256 then return (bits, out)
    else
      let (length, bits) ← takeExtended lengthTable (symbol - 257) bits
      let (code, bits) ← takeSymbol distances bits
      let (distance, bits) ← takeExtended distanceTable code bits
      if out.size < distance then throw .corrupt
      writeSymbols literals distances fuel bits (copyBack distance length out)

def fixedLengths : List Nat :=
  List.replicate 144 8 ++ List.replicate 112 9 ++ List.replicate 24 7 ++ List.replicate 8 8

/-- The order in which the lengths of the code for lengths are given. -/
def lengthOrder : List Nat := [16, 17, 18, 0, 8, 7, 9, 6, 10, 5, 11, 4, 12, 3, 13, 2, 14, 1, 15]

/-- Reads numbers of three bits. -/
def takeTriples : Nat → List Bool → Except Fault (List Nat × List Bool)
  | 0, bits => .ok ([], bits)
  | count + 1, bits => do
    let (n, bits) ← takeNumber 3 bits
    let (ns, bits) ← takeTriples count bits
    return (n :: ns, bits)

/-- Reads code lengths until there are `total`, the last one first. -/
def takeLengths (code : CodeTree) (total : Nat) :
    Nat → List Nat → List Bool → Except Fault (List Nat × List Bool)
  | 0, _, _ => .error .cutShort
  | fuel + 1, found, bits =>
    if found.length = total then .ok (found.reverse, bits)
    else if total < found.length then .error .corrupt
    else do
      let (symbol, bits) ← takeSymbol code bits
      match symbol with
      | 16 =>
        match found with
        | [] => throw .corrupt
        | last :: _ =>
          let (n, bits) ← takeNumber 2 bits
          takeLengths code total fuel (List.replicate (n + 3) last ++ found) bits
      | 17 =>
        let (n, bits) ← takeNumber 3 bits
        takeLengths code total fuel (List.replicate (n + 3) 0 ++ found) bits
      | 18 =>
        let (n, bits) ← takeNumber 7 bits
        takeLengths code total fuel (List.replicate (n + 11) 0 ++ found) bits
      | l => takeLengths code total fuel (l :: found) bits

def codeOf (lengths : List Nat) : Except Fault CodeTree :=
  match CodeTree.ofLengths? lengths with
  | some t => .ok t
  | none => .error .corrupt

/-- The two codes that a block describes before it uses them. -/
def takeCodes (bits : List Bool) : Except Fault (CodeTree × CodeTree × List Bool) := do
  let (l, bits) ← takeNumber 5 bits
  let (d, bits) ← takeNumber 5 bits
  let (c, bits) ← takeNumber 4 bits
  let literals := l + 257
  let distances := d + 1
  if 286 < literals ∨ 30 < distances then throw .corrupt
  let (given, bits) ← takeTriples (c + 4) bits
  let lengthOf (symbol : Nat) : Nat := ((lengthOrder.zip given).lookup symbol).getD 0
  let code ← codeOf ((List.range 19).map lengthOf)
  let (lengths, bits) ← takeLengths code (literals + distances) (bits.length + 1) [] bits
  let literalCode ← codeOf (lengths.take literals)
  let distanceCode ← codeOf (lengths.drop literals)
  return (literalCode, distanceCode, bits)

/-- A block of bytes as they are, which begins at a whole byte. -/
def copyStored (bits : List Bool) (out : Array UInt8) :
    Except Fault (List Bool × Array UInt8) := do
  let (length, bits) ← takeNumber 16 (bits.drop (bits.length % 8))
  let (check, bits) ← takeNumber 16 bits
  if length + check ≠ 65535 then throw .corrupt
  if bits.length < 8 * length then throw .cutShort
  return (bits.drop (8 * length), out ++ (bytesOf (bits.take (8 * length))).toArray)

/-- Reads blocks up to the last one; each begins with three bits. -/
def inflateBlocks : Nat → List Bool → Array UInt8 → Except Fault (List Bool × Array UInt8)
  | 0, _, _ => .error .cutShort
  | fuel + 1, bits, out => do
    let (last, bits) ← takeNumber 1 bits
    let (kind, bits) ← takeNumber 2 bits
    let (bits, out) ← match kind with
      | 0 => copyStored bits out
      | 1 => do
        let literals ← codeOf fixedLengths
        let distances ← codeOf (List.replicate 32 5)
        writeSymbols literals distances (bits.length + 1) bits out
      | 2 => do
        let (literals, distances, bits) ← takeCodes bits
        writeSymbols literals distances (bits.length + 1) bits out
      | _ => throw .corrupt
    if last = 1 then return (bits, out) else inflateBlocks fuel bits out

/-- Decompresses blocks; the result has what stands behind the last one, from
the next whole byte on. -/
def inflate (bytes : List UInt8) : Except Fault (List UInt8 × List UInt8) :=
  let bits := bitsOf bytes
  (inflateBlocks (bits.length + 1) bits #[]).map fun (rest, out) =>
    (out.toList, bytesOf (rest.drop (rest.length % 8)))

end Firewall.Gzip
