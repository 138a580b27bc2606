import Firewall.Net.Address
import Firewall.Url.Percent
import Firewall.Url.Idna

/-!
Hosts in addresses of the web: names, and internet addresses in the loose
notations that such addresses allow.
-/

namespace Firewall.Url

open Text

inductive Fault
  | noScheme
  | emptyHost
  | badPort
  | badV4
  | badV6
  | badDomain
  | badHostCharacter
  deriving DecidableEq, Repr

def Fault.message : Fault → String
  | noScheme => "relative URL without a base"
  | emptyHost => "empty host"
  | badPort => "invalid port number"
  | badV4 => "invalid IPv4 address"
  | badV6 => "invalid IPv6 address"
  | badDomain => "invalid international domain name"
  | badHostCharacter => "invalid domain character"

/-- A host; a name is in its written form and may be empty. -/
inductive Host
  | name (text : List Char)
  | v4 (bits : BitVec 32)
  | v6 (bits : BitVec 128)
  deriving DecidableEq, Repr

/-- The written form; version 6 stands in brackets. -/
def Host.render : Host → String
  | name text => String.ofList text
  | v4 bits => Address.dotted bits
  | v6 bits => "[" ++ Address.compressed (Address.groups bits) ++ "]"

/-- An address of version 6 in brackets. -/
def parseBracketed (s : List Char) : Except Fault Host :=
  if s.getLast? = some ']' ∧ 2 ≤ s.length then
    match Address.parseV6? (s.drop 1).dropLast with
    | some bits => .ok (.v6 bits)
    | none => .error .badV6
  else .error .badV6

/-- A number in base 16 after `0x`, in base 8 after another zero, else in base
10; a mark without digits is zero. -/
def looseNumber? (s : List Char) : Option Nat :=
  let read (base : Nat) (digit : Char → Option Nat) (ds : List Char) : Option Nat :=
    numeralFrom base digit 0 ds
  match s with
  | [] => none
  | '0' :: 'x' :: r => read 16 hexDigit? r
  | '0' :: 'X' :: r => read 16 hexDigit? r
  | '0' :: c :: r =>
    read 8 (fun d => if '0' ≤ d ∧ d ≤ '7' then digit? d else none) (c :: r)
  | _ => read 10 digit? s

/-- The parts of a domain, without an empty last one. -/
def domainParts (s : List Char) : List (List Char) :=
  let ps := pieces '.' s
  if ps.getLast? = some [] then ps.dropLast else ps

/-- Whether the last part of a domain says that an address is meant. -/
def endsInNumber (s : List Char) : Bool :=
  match (domainParts s).getLast? with
  | none => false
  | some part => (!part.isEmpty && part.all isAsciiDigit) || (looseNumber? part).isSome

/-- A version 4 address of one to four numbers; the last one fills all the
octets that are left. -/
def parseLooseV4? (s : List Char) : Option (BitVec 32) := do
  let numbers ← (domainParts s).mapM looseNumber?
  let last ← numbers.getLast?
  let leading := numbers.dropLast
  if numbers.length ≤ 4 ∧ leading.all (· ≤ 255) ∧ last < 1 <<< (8 * (4 - leading.length)) then
    some (BitVec.ofNat 32 (Address.ofDigits 256 leading <<< (8 * (4 - leading.length)) + last))
  else none

/-- The host of an address with a well-known scheme. -/
def parseDomain (s : List Char) : Except Fault Host :=
  if s.head? = some '[' then parseBracketed s
  else match (Utf8.decode? (percentDecode s)).bind Idna.toAscii? with
    | none => .error .badDomain
    | some [] => .error .emptyHost
    | some domain =>
      if endsInNumber domain then
        match parseLooseV4? domain with
        | some bits => .ok (.v4 bits)
        | none => .error .badV4
      else .ok (.name domain)

def isForbiddenInHost (c : Char) : Bool :=
  c.toNat == 0 || "\t\n\r #/:<>?@[\\]^|".toList.contains c

/-- The host of an address with another scheme. -/
def parseForeignHost (s : List Char) : Except Fault Host :=
  if s.head? = some '[' then parseBracketed s
  else if s.any isForbiddenInHost then .error .badHostCharacter
  else .ok (.name (percentEncode controlSet s))

end Firewall.Url
