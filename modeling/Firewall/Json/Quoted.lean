import Firewall.Text.Hex

/-!
Texts as JSON strings, with the shortest escape for every character that needs one.
-/

namespace Firewall.Json

def quotedChar (c : Char) : List Char :=
  if c = '"' ∨ c = '\\' then ['\\', c]
  else if c.toNat = 8 then ['\\', 'b']
  else if c.toNat = 9 then ['\\', 't']
  else if c.toNat = 10 then ['\\', 'n']
  else if c.toNat = 12 then ['\\', 'f']
  else if c.toNat = 13 then ['\\', 'r']
  else if c.toNat < 0x20 then
    "\\u00".toList ++ [Text.Hex.lowerDigit (c.toNat / 16), Text.Hex.lowerDigit (c.toNat % 16)]
  else [c]

def quoted (s : String) : String :=
  "\"" ++ String.ofList (s.toList.flatMap quotedChar) ++ "\""

end Firewall.Json
