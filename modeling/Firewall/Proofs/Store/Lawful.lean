import Firewall.Geo.Country
import Firewall.Store.Faulty
import Firewall.Store.Tables

/-!
What instances may rely on when they share a record store: the store shows tables
at every moment, its calls answer from these tables, and what is written is what
the tables hold from then on. A store may keep country rules in a form of its own,
as long as the last rule of each country is the one that counts.

Plain tables are such a store. `Faulty.guarded_on` says what a call does on a store
some of whose calls fail.
-/

namespace Firewall

/-- A call gives an answer and leaves a store behind that shows tables. -/
def Access.Gives {σ α : Type} (Shows : σ → Tables → Prop) (call : Access σ α) (s : σ)
    (answer : Except StoreError α) (t : Tables) : Prop :=
  (call.on s).1 = answer ∧ Shows (call.on s).2 t

/-- Two lists of rules say the same of each country. -/
def SameRules (xs ys : List CountryRule) : Prop :=
  ∀ code, (Geo.CountryTable.ofRules xs).countries.get? code =
    (Geo.CountryTable.ofRules ys).countries.get? code

/-- A record store that answers from tables, as far as the log, the settings and
the country rules go. -/
class LawfulStore (σ : Type) [RecordStore σ] where
  /-- The store holds the records of the tables. -/
  Shows : σ → Tables → Prop
  append {s : σ} {t : Tables} (table : Table) (key : String) : Shows s t →
    (RecordStore.append table key : Access σ Nat).Gives Shows s (.ok (t.log.length + 1))
      (t.logged table key)
  latest {s : σ} {t : Tables} : Shows s t →
    (RecordStore.latest : Access σ Nat).Gives Shows s t.head? t
  entry {s : σ} {t : Tables} (id : Nat) : Shows s t →
    (RecordStore.entry id : Access σ LogEntry).Gives Shows s (t.entryAt? id) t
  settings {s : σ} {t : Tables} : Shows s t →
    (RecordStore.settings : Access σ (List (String × String))).Gives Shows s
      (.ok t.settings.rows) t
  setting {s : σ} {t : Tables} (key : String) : Shows s t →
    (RecordStore.setting key : Access σ String).Gives Shows s (t.setting? key) t
  putSetting {s : σ} {t : Tables} (key value : String) : Shows s t →
    (RecordStore.putSetting key value : Access σ Unit).Gives Shows s (.ok ())
      { t with settings := t.settings.insert key value }
  rules {s : σ} {t : Tables} : Shows s t →
    (RecordStore.rules : Access σ (List CountryRule)).Gives Shows s (.ok t.rules) t
  putRules {s : σ} {t : Tables} (rules : List CountryRule) : Shows s t →
    ∃ kept, SameRules kept rules ∧
      (RecordStore.putRules rules : Access σ Unit).Gives Shows s (.ok ())
        { t with rules := kept }

instance : LawfulStore Tables where
  Shows s t := s = t
  append _ _ h := h ▸ ⟨rfl, rfl⟩
  latest h := h ▸ ⟨rfl, rfl⟩
  entry _ h := h ▸ ⟨rfl, rfl⟩
  settings h := h ▸ ⟨rfl, rfl⟩
  setting _ h := h ▸ ⟨rfl, rfl⟩
  putSetting _ _ h := h ▸ ⟨rfl, rfl⟩
  rules h := h ▸ ⟨rfl, rfl⟩
  putRules rules h := h ▸ ⟨rules, fun _ => rfl, rfl, rfl⟩

namespace Faulty

variable {σ α : Type} [RecordStore σ] [LawfulStore σ]

/-- The store inside shows tables, whichever calls fail. -/
def Shows (s : Faulty σ) (t : Tables) : Prop := LawfulStore.Shows s.store t

/-- **A failing call does nothing**, and one that does not fail does what the store
inside does. -/
theorem guarded_on (stops : Failing → Bool) (call : StoreCall) {inner : Access σ α}
    {s : Faulty σ} {answer : Except StoreError α} {t : Tables}
    (h : inner.Gives LawfulStore.Shows s.store answer t) :
    (stops s.failing = true ∧
      (guarded stops call inner).on s = (.error (.fault (.injected call.name)), s)) ∨
    (stops s.failing = false ∧ ∃ store, LawfulStore.Shows store t ∧
      (guarded stops call inner).on s = (answer, { s with store })) := by
  cases hs : stops s.failing with
  | true =>
    refine Or.inl ⟨rfl, ?_⟩
    simp [guarded, Access.on, ExceptT.run, hs]
  | false =>
    refine Or.inr ⟨rfl, (inner.on s.store).2, h.2, ?_⟩
    rw [← h.1]
    simp [guarded, Access.on, ExceptT.run, hs]

end Faulty

end Firewall
