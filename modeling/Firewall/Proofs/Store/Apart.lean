import Firewall.Proofs.Store.Confined

/-!
Stores with different roots on one server do not notice each other. Several clients share the
server; each has a root and a line of its own, and they make their calls in any order. A try of a
call may also reach the server when its client has given the line up, so that another client can
come in between the tries of one call.

Proved here:

* `Hub.Alike.own`, `Hub.Alike.foreign`: what one event is to the clients of a root;
* `Hub.replies_apart`: what a run is to them, with and without the other clients;
* `Hub.roots_apart`: stores with different roots keep apart.
-/

namespace Firewall

/-- The line of a client to the server: the connection that it keeps, and what is on the way. -/
structure Line where
  kept : Option Unit
  link : Link

/-- A server with several clients, each with a line of its own. -/
structure Hub (ι : Type) where
  keys : Keyspace
  lines : ι → Line

namespace Hub

inductive Event (ι : Type)
  /-- A client makes a call, with all the tries that it takes. -/
  | call (i : ι) (c : RecordStore.Call)
  /-- A try of a call reaches the server, but the client does not hear of it. -/
  | stray (i : ι) (c : RecordStore.Call)
  /-- The line of a client changes: it may break, or be repaired. -/
  | line (i : ι) (l : Line)

def Event.who {ι : Type} : Event ι → ι
  | call i _ => i
  | stray i _ => i
  | line i _ => i

abbrev Reply (ι : Type) := ι × Except StoreError RecordStore.Answer

variable {ι : Type} (root : ι → String)

def store (h : Hub ι) (i : ι) : Shared := ⟨root i, (h.lines i).kept, ⟨h.keys, (h.lines i).link⟩⟩

/-- The store of a client while one of its tries runs that the client will not hear of. -/
def lost (h : Hub ι) (i : ι) : Shared := ⟨root i, some (), ⟨h.keys, Link.sound⟩⟩

def reply? (h : Hub ι) : Event ι → Option (Reply ι)
  | .call i c => some (i, (c.make.on (h.store root i)).1)
  | .stray _ _ => none
  | .line _ _ => none

variable [DecidableEq ι]

def after (h : Hub ι) : Event ι → Hub ι
  | .call i c =>
    let s := (c.make.on (h.store root i)).2
    ⟨s.server.keys, Function.update h.lines i ⟨s.kept, s.server.link⟩⟩
  | .stray i c => { h with keys := (c.make.on (h.lost root i)).2.server.keys }
  | .line i l => { h with lines := Function.update h.lines i l }

def afterAll (h : Hub ι) (events : List (Event ι)) : Hub ι := events.foldl (after root) h

def replies : List (Event ι) → Hub ι → List (Reply ι)
  | [], _ => []
  | e :: events, h => (h.reply? root e).toList ++ replies events (h.after root e)

/-- For the clients of a root there is no difference between two servers. -/
structure Alike (r : String) (g h : Hub ι) : Prop where
  keys : Keyspace.Agree (Shared.Owns r) g.keys h.keys
  lines : ∀ i, root i = r → g.lines i = h.lines i

variable {root} {r : String} {g h : Hub ι}

/-- **An event of a client with the root** has the same answer and the same effects. -/
theorem Alike.own (hgh : Alike root r g h) {e : Event ι} (he : root e.who = r) :
    g.reply? root e = h.reply? root e ∧ Alike root r (g.after root e) (h.after root e) := by
  subst he
  cases e with
  | line i l =>
    refine ⟨rfl, hgh.keys, fun j hj => ?_⟩
    simp only [after, Function.update_apply, hgh.lines j hj]
  | stray i c =>
    have hkin : Shared.Kin (g.lost root i) (h.lost root i) := ⟨rfl, rfl, rfl, hgh.keys⟩
    obtain ⟨-, hafter⟩ := (Shared.confined_make c).alike _ _ hkin
    have hkeys := hafter.server.keys
    rw [(Shared.confined_make c).root] at hkeys
    exact ⟨rfl, hkeys, hgh.lines⟩
  | call i c =>
    have hline := hgh.lines i rfl
    have hkin : Shared.Kin (g.store root i) (h.store root i) :=
      ⟨rfl, congrArg Line.kept hline, congrArg Line.link hline, hgh.keys⟩
    obtain ⟨hanswer, hafter⟩ := (Shared.confined_make c).alike _ _ hkin
    have hkeys := hafter.server.keys
    rw [(Shared.confined_make c).root] at hkeys
    refine ⟨?_, hkeys, fun j hj => ?_⟩
    · simp only [reply?, hanswer]
    · simp only [after, Function.update_apply, hgh.lines j hj, hafter.kept, hafter.server.link]

/-- **An event of any other client** makes no difference. -/
theorem Alike.foreign (hgh : Alike root r g h) {e : Event ι} (he : root e.who ≠ r) :
    Alike root r (g.after root e) h := by
  have hupdate : ∀ (i : ι) (l : Line), root i ≠ r →
      ∀ j, root j = r → Function.update g.lines i l j = h.lines j := by
    intro i l hi j hj
    have hne : j ≠ i := fun hji => hi (hji ▸ hj)
    rw [Function.update_of_ne hne]
    exact hgh.lines j hj
  have hmade : ∀ (i : ι) (c : RecordStore.Call) (s : Shared), root i ≠ r → s.root = root i →
      s.server.keys = g.keys →
        Keyspace.Agree (Shared.Owns r) (c.make.on s).2.server.keys h.keys := by
    intro i c s hi hroot hkeys key hkey
    have hforeign : ¬ Shared.Owns s.root key := fun howns => hi (hroot ▸ howns.root_eq hkey)
    rw [(Shared.confined_make c).others s key hforeign, hkeys]
    exact hgh.keys key hkey
  cases e with
  | line i l => exact ⟨hgh.keys, hupdate i l he⟩
  | stray i c => exact ⟨hmade i c _ he rfl rfl, hgh.lines⟩
  | call i c => exact ⟨hmade i c _ he rfl rfl, hupdate i _ he⟩

/-- **A run without the other clients**: the clients of a root are answered the same, and find the
same afterwards. -/
theorem replies_apart (events : List (Event ι)) (hgh : Alike root r g h) :
    (replies root events g).filter (fun a => root a.1 = r) =
        replies root (events.filter fun e => root e.who = r) h ∧
      Alike root r (g.afterAll root events)
        (h.afterAll root (events.filter fun e => root e.who = r)) := by
  induction events generalizing g h with
  | nil => exact ⟨rfl, hgh⟩
  | cons e events ih =>
    have hwho : ∀ a ∈ (g.reply? root e).toList, a.1 = e.who := by
      cases e <;> simp [reply?, Event.who]
    rw [replies, List.filter_append, afterAll, List.foldl_cons]
    by_cases he : root e.who = r
    · obtain ⟨hreply, hafter⟩ := hgh.own he
      obtain ⟨hrest, hend⟩ := ih hafter
      rw [List.filter_cons_of_pos (by simpa using he), replies, afterAll, List.foldl_cons, hrest,
        ← hreply]
      refine ⟨congrArg (· ++ _) (List.filter_eq_self.2 fun a ha => ?_), hend⟩
      rw [hwho a ha]
      simpa using he
    · obtain ⟨hrest, hend⟩ := ih (hgh.foreign he)
      rw [List.filter_cons_of_neg (by simpa using he), hrest]
      refine ⟨?_, hend⟩
      have hnone : (g.reply? root e).toList.filter (fun a => root a.1 = r) = [] := by
        refine List.filter_eq_nil_iff.2 fun a ha => ?_
        rw [hwho a ha]
        simpa using he
      rw [hnone, List.nil_append]

/-- **Stores with different roots keep apart.** No key belongs to two roots, a call sees and changes
only the keys of its root, and in any run of several clients those of a root are answered as if
the others were not there, and leave the same behind. -/
theorem roots_apart :
    (∀ p q key : String, p ≠ q → Shared.Owns p key → ¬ Shared.Owns q key) ∧
    (∀ c : RecordStore.Call, Shared.Confined c.make) ∧
    (∀ {ι : Type} [DecidableEq ι] (root : ι → String) (r : String) (g h : Hub ι),
      Alike root r g h → ∀ events : List (Event ι),
        (replies root events g).filter (fun a => root a.1 = r) =
            replies root (events.filter fun e => root e.who = r) h ∧
          Alike root r (g.afterAll root events)
            (h.afterAll root (events.filter fun e => root e.who = r))) := by
  refine ⟨fun p q key hpq hp hq => hpq (hp.root_eq hq), Shared.confined_make, ?_⟩
  intro ι _ root r g h hgh events
  exact replies_apart events hgh

/-- Two roots, of which one is empty and the other looks like the beginning of its keys. -/
def nestedRoot (inner : Bool) : String := if inner then "changelog:" else ""

def emptyHub : Hub Bool := ⟨Dict.empty, fun _ => ⟨none, Link.sound⟩⟩

/-- Both clients write, and one of them reads. -/
def nestedEvents : List (Event Bool) :=
  [.call false (.putSetting "mode" "dryrun"), .stray true (.putSetting "mode" "enabled"),
    .call true (.append .config "mode"), .call false (.setting "mode"), .call false .latest]

/-- The client with the empty root does not notice the other one. -/
theorem roots_apart_nested :
    ¬ Shared.Owns "changelog:" "config" ∧
      (replies nestedRoot nestedEvents emptyHub).filter (fun a => nestedRoot a.1 = "") =
        [(false, .ok .done), (false, .ok (.value "dryrun")), (false, .error (.absent .log))] := by
  obtain ⟨hkeys, -, hreplies⟩ := roots_apart
  constructor
  · exact hkeys "" "changelog:" "config" (by decide) (Shared.owns_settingsKey "")
  · rw [(hreplies nestedRoot "" emptyHub emptyHub ⟨fun _ _ => rfl, fun _ _ => rfl⟩ nestedEvents).1]
    decide +kernel

end Hub

end Firewall
