import Firewall.Text.Ranges
import Firewall.Text.ClassTable

/-!
Text in quotation marks for messages: what cannot be seen or would end the
quotation is written as an escape.
-/

namespace Firewall.Text

def unprintable : Array Range := ranges unprintableRanges

/-- Characters that change the one before them. -/
def extending : Array Range := ranges extendingRanges

def quotedChar (c : Char) : List Char :=
  if c = '"' ∨ c = '\\' then ['\\', c]
  else if c = '\t' then "\\t".toList
  else if c = '\n' then "\\n".toList
  else if c = '\r' then "\\r".toList
  else if c.toNat = 0 then "\\0".toList
  else if 0x20 ≤ c.toNat ∧ c.toNat < 0x7F then [c]
  else if inRanges extending c.toNat || inRanges unprintable c.toNat then
    "\\u\x7b".toList ++ Nat.toDigits 16 c.toNat ++ ['\x7d']
  else [c]

def quoted (s : String) : String :=
  "\"" ++ String.ofList (s.toList.flatMap quotedChar) ++ "\""

end Firewall.Text
