import Firewall.Dict
import Firewall.Request
import Firewall.Scan
import Firewall.Store.Record

/-!
Letting requests through by the country they come from. All rules of a table are
read in one sense, the one of the first rule.
-/

namespace Firewall.Geo

/-- The countries that rules are about, and whether only they are let through. -/
structure CountryTable where
  countries : Dict String Bool
  allowMode : Bool
  deriving DecidableEq, Repr

namespace CountryTable

/-- The table of a list of rules; without rules there is no restriction. -/
def ofRules (rules : List CountryRule) : CountryTable where
  countries := Dict.ofList (rules.map fun r => (r.code, r.allow))
  allowMode := match rules with
    | [] => true
    | r :: _ => r.allow

instance : Inhabited CountryTable := ⟨ofRules []⟩

def verdict (t : CountryTable) (country : String) : Verdict :=
  if t.countries.contains country = t.allowMode then .allow else .block

end CountryTable

/-- The source of countries for addresses. -/
abbrev Lookup := Address → Option String

/-- Scans a request by its country; what cannot be found out lets it through. -/
def scan (t : CountryTable) (lookup : Lookup) (r : Request) : Verdict :=
  if t.countries.isEmpty then .allow
  else match r.remote?.bind lookup with
    | some country => t.verdict country
    | none => .allow

end Firewall.Geo
