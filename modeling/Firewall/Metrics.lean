import Firewall.Instance

/-!
The page of metrics: every family of counters with what it counts, families and
counters in the order of their names.
-/

namespace Firewall.Metrics

/-- Counters of one name that differ in a label. -/
structure Family where
  name : String
  help : String
  members : List Counter

/-- All families. A family with labels shows only counters that have counted
something; the one without a label shows its zero. -/
def families (c : Counters) : List Family :=
  let used (ks : List Counter) : List Counter := ks.filter fun k => c.contains k
  [⟨"fe_waf_changelog_delivered_total", "Change log entries delivered to subscribers",
      used [.delivered .config, .delivered .geoip]⟩,
    ⟨"fe_waf_changelog_poll_errors_total", "Change log polls that failed", [.pollErrors]⟩,
    ⟨"fe_waf_scan_total", "Scan decisions by audit result",
      used [.scans .blocked, .scans .dryrun, .scans .pass]⟩]

def familyLines (c : Counters) (f : Family) : List String :=
  if f.members.isEmpty then []
  else
    ["# HELP " ++ f.name ++ " " ++ f.help, "# TYPE " ++ f.name ++ " counter"] ++
      f.members.map fun k => k.name ++ " " ++ toString ((c.get? k).getD 0)

def lines (c : Counters) : List String := (families c).flatMap (familyLines c)

def page (c : Counters) : String := String.join ((lines c).map (· ++ "\n"))

end Firewall.Metrics
