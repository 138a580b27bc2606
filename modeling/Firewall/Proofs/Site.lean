import Firewall.Instance

/-!
Running what an instance does: each program of an instance as the store calls and
the changes of the instance that it consists of, in their order.
-/

namespace Firewall.Site

variable {σ : Type}

theorem bind_run {ε α β : Type} (x : ExceptT ε (StateM (Site σ)) α)
    (f : α → ExceptT ε (StateM (Site σ)) β) (s : Site σ) :
    (x >>= f).run s = match x.run s with
      | (.ok a, s) => (f a).run s
      | (.error e, s) => (.error e, s) := by
  simp only [bind, ExceptT.bind, ExceptT.mk, ExceptT.run, StateT.bind]
  rcases x s with ⟨a | e, s⟩ <;> rfl

theorem lift_run {α β : Type} (x : Act σ α) (f : α → Attempt σ β) (s : Site σ) :
    ((liftM x : Attempt σ α) >>= f).run s = (f (x s).1).run (x s).2 := by
  rw [bind_run]
  rfl

theorem need_run {α : Type} (a : Access σ α) (s : Site σ) :
    (need a).run s = match ask a s with
      | (.ok x, s) => (.ok x, s)
      | (.error e, s) => (.error (.store e), s) := by
  unfold need
  rw [lift_run]
  rcases ask a s with ⟨e | x, s⟩ <;> rfl

variable [RecordStore σ]

theorem startFeed_run (s : Site σ) :
    startFeed.run s = match ask RecordStore.latest s with
      | (answer, s) => match Feed.headOf answer with
        | .error e => (.error (.store e), s)
        | .ok head =>
          (.ok head, { s with self := { s.self with feed := some (.startAt head) } }) := by
  unfold startFeed
  rw [lift_run]
  rcases ask RecordStore.latest s with ⟨answer, s⟩
  cases h : Feed.headOf answer with
  | error e => simp only [h]; rfl
  | ok head => simp only [h]; rfl

/-! ## Changes -/

theorem perform_publish_run (n : Nat) (e : Edit) (s : Site σ) :
    (perform n (.publish e)).run s =
      (.ok (), { s with self :=
        { s.self with policies := s.self.policies.modify n (·.edit e) } }) :=
  rfl

theorem perform_putSetting_run (n : Nat) (key value : String) (s : Site σ) :
    (perform n (.putSetting key value)).run s =
      match ask (RecordStore.putSetting key value) s with
      | (.ok _, s) => (.ok (), s)
      | (.error e, s) => (.error (.store e), s) := by
  refine (need_run (RecordStore.putSetting key value) s).trans ?_
  rcases ask (RecordStore.putSetting key value) s with ⟨e | u, s⟩ <;> rfl

theorem perform_putRules_run (n : Nat) (rules : List CountryRule) (s : Site σ) :
    (perform n (.putRules rules)).run s = match ask (RecordStore.putRules rules) s with
      | (.ok _, s) => (.ok (), s)
      | (.error e, s) => (.error (.store e), s) := by
  refine (need_run (RecordStore.putRules rules) s).trans ?_
  rcases ask (RecordStore.putRules rules) s with ⟨e | u, s⟩ <;> rfl

theorem perform_announce_run (n : Nat) (table : Table) (key : String) (s : Site σ) :
    (perform n (.announce table key)).run s = match ask (RecordStore.append table key) s with
      | (.ok _, s) => (.ok (), s)
      | (.error e, s) => (.error (.store e), s) := by
  unfold perform
  rw [bind_run, need_run]
  rcases ask (RecordStore.append table key) s with ⟨e | id, s⟩ <;> rfl

theorem performAll_cons_run (n : Nat) (step : Step) (steps : List Step) (s : Site σ) :
    (performAll n (step :: steps)).run s = match (perform n step).run s with
      | (.ok _, s) => (performAll n steps).run s
      | (.error e, s) => (.error e, s) := by
  rw [performAll, bind_run]
  rcases (perform n step).run s with ⟨e | u, s⟩ <;> rfl

/-! ## Polls -/

omit [RecordStore σ] in
theorem ask_self {α : Type} (a : Access σ α) (s : Site σ) : (ask a s).2.self = s.self := rfl

theorem hear_policy_run (key : String) (n : Nat) (s : Site σ) :
    hear key (.policy n) s = match ask (RecordStore.setting key) s with
      | (.ok value, s) => applySetting n key value s
      | (.error _, s) => ((), s) := by
  simp only [hear, bind, StateT.bind]
  rcases ask (RecordStore.setting key) s with ⟨e | value, s⟩ <;> rfl

theorem hear_guard_run (key : String) (n : Nat) (s : Site σ) :
    hear key (.guard n) s = match ask RecordStore.rules s with
      | (.ok rules, s) => applyRules n rules s
      | (.error _, s) => ((), s) := by
  simp only [hear, bind, StateT.bind]
  rcases ask RecordStore.rules s with ⟨e | rules, s⟩ <;> rfl

theorem catchUp_succ_run (count next done : Nat) (s : Site σ) :
    (catchUp (count + 1) next done).run s =
      match ask (RecordStore.entry next) s with
      | (.error e, s) => (.error (.store e), s)
      | (.ok e, s) =>
        let listeners := (listenersOf e.table s).1
        (catchUp count (next + 1) (done + 1)).run (advance (deliver listeners e s).2).2 := by
  rw [catchUp, bind_run, need_run]
  rcases ask (RecordStore.entry next) s with ⟨e | e, s⟩
  · rfl
  · simp only
    rw [lift_run, lift_run, lift_run]
    rfl

theorem poll_run (last : Nat) (s : Site σ) :
    (poll last).run s = match ask RecordStore.latest s with
      | (answer, s) => match Feed.headOf answer with
        | .error e => (.error (.store e), s)
        | .ok head => (catchUp (head - last) (last + 1) 0).run s := by
  unfold poll
  rw [lift_run]
  rcases ask RecordStore.latest s with ⟨answer, s⟩
  cases h : Feed.headOf answer with
  | error e => simp only [h]; rfl
  | ok head => simp only [h]

theorem forM_hear_cons (key : String) (who : Listener) (todo : List Listener) (s : Site σ) :
    ((who :: todo).forM (hear key : Listener → Act σ Unit)) s =
      (todo.forM (hear key : Listener → Act σ Unit)) (hear key who s).2 :=
  rfl

/-! ## Starts -/

theorem startPolicy_run (s : Site σ) :
    startPolicy.run s = match ask RecordStore.settings s with
      | (.error e, s) => (.error (.store e), s)
      | (.ok rows, s) =>
        let n := s.self.policies.length
        let policies := s.self.policies ++ [.ofSettings rows]
        (.ok n, (subscribe .config (.policy n) { s with self := { s.self with policies } }).2) := by
  unfold startPolicy
  rw [bind_run, need_run]
  rcases ask RecordStore.settings s with ⟨e | rows, s⟩ <;> rfl

theorem startGuard_run (lookup : Geo.Lookup) (s : Site σ) :
    (startGuard lookup).run s = match ask RecordStore.rules s with
      | (.error e, s) => (.error (.setup (.loadCountries e)), s)
      | (.ok rules, s) =>
        let n := s.self.guards.length
        let guards := s.self.guards ++ [⟨.ofRules rules, lookup⟩]
        (.ok n, (subscribe .geoip (.guard n) { s with self := { s.self with guards } }).2) := by
  unfold startGuard
  rw [lift_run]
  rcases ask RecordStore.rules s with ⟨e | rules, s⟩ <;> rfl

omit [RecordStore σ] in
theorem startEngine_run (policy : Nat) (outputs format : String) (s : Site σ) :
    (startEngine policy outputs format).run s =
      match AuditOutput.build outputs format s.world.paper.disk with
      | (output, disk) =>
        let s := { s with world := { s.world with paper := { s.world.paper with disk } } }
        match output with
        | .error cause => (.error (.output cause), s)
        | .ok output =>
          (.ok (), { s with self := { s.self with engine := some ⟨policy, [], output⟩ } }) := by
  unfold startEngine
  rw [bind_run]
  simp only [show (get : Attempt σ (Site σ)).run s = (.ok s, s) from rfl]
  rcases AuditOutput.build outputs format s.world.paper.disk with ⟨cause | output, disk⟩ <;> rfl

end Firewall.Site
