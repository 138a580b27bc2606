import Firewall.Command.Console
import Firewall.Proofs.Site

/-!
Running the steps of a command: what each of them gives and leaves, in their order.
-/

namespace Firewall

theorem bind_state {σ ε α β : Type} (m : ExceptT ε (StateM (Site σ)) α)
    (f : α → ExceptT ε (StateM (Site σ)) β) (s : Site σ) :
    ((m >>= f).run s).2 = match m.run s with
      | (.ok a, s) => ((f a).run s).2
      | (.error _, s) => s := by
  rw [Site.bind_run]
  rcases m.run s with ⟨e | a, s⟩ <;> rfl

namespace Job

variable {σ α : Type}

theorem act_run (a : Act σ α) (s : Site σ) : (act a : Job σ α).run s = (.ok (a s).1, (a s).2) :=
  rfl

theorem within_run (words : Error → CommandFault) (a : Attempt σ α) (s : Site σ) :
    (within words a).run s = match a.run s with
      | (.ok x, s) => (.ok x, s)
      | (.error e, s) => (.error (words e), s) := by
  unfold within
  rw [Site.bind_run, act_run]
  rcases a.run s with ⟨e | x, t⟩ <;> rfl

theorem within_state (words : Error → CommandFault) (a : Attempt σ α) (s : Site σ) :
    ((within words a).run s).2 = (a.run s).2 := by
  rw [within_run]
  rcases a.run s with ⟨e | x, t⟩ <;> rfl

variable [RecordStore σ]

theorem join_run (s : Site σ) :
    (join : Job σ Nat).run s = match Site.startFeed.run s with
      | (.error e, s) => (.error (.noFeed e), s)
      | (.ok _, s) => match Site.startPolicy.run s with
        | (.error e, s) => (.error (.noPolicy e), s)
        | (.ok n, s) => (.ok n, s) := by
  unfold join
  rw [Site.bind_run, within_run]
  rcases Site.startFeed.run s with ⟨e | head, t⟩
  · rfl
  · simp only
    rw [within_run]
    rcases Site.startPolicy.run t with ⟨e | n, u⟩ <;> rfl

end Job

end Firewall
