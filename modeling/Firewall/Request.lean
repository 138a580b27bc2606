import Firewall.Error

/-!
A request as it is scanned: where it came from, which address of the web it
asks for, and how.
-/

namespace Firewall

/-- A request. The remote address is kept as it was given. -/
structure Request where
  remoteAddr : String
  url : Url
  method : String
  deriving DecidableEq, Repr

namespace Request

/-- A request for an address in its written form. -/
def ofParts (remoteAddr url method : String) : Except BadArgument Request :=
  match Url.parse url with
  | .ok u => .ok ⟨remoteAddr, u, method⟩
  | .error fault => .error (.url url fault)

/-- The remote address, if the text is one. -/
def remote? (r : Request) : Option Address := Address.parse? r.remoteAddr

end Request

end Firewall
