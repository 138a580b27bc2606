import Firewall.Disk
import Firewall.Proofs.Text.Utf8

/-!
Files further. A new file takes no directory away and makes none where it is itself, so a path
leads to the same place before and after the file is written there, and what was written is read.

Proved here:

* `locate_put`: the path of a file after something was put there;
* `read_of_write`, `readText_of_write`: what is read is what was written;
* `exists_writable_of_read`: a file that can be read can be written.
-/

namespace Firewall.Disk

open Text

/-! ## Directories -/

theorem hasDirectory_put_of {d : Disk} {q : Place} (h : d.hasDirectory q = true) (p : Place)
    (bytes : List UInt8) : (d.put p bytes).hasDirectory q = true := by
  simp only [hasDirectory, Bool.or_eq_true, List.any_eq_true] at h ⊢
  rcases h with h | ⟨f, hf, hq⟩
  · exact Or.inl h
  · exact Or.inr ⟨f, Dict.mem_keys_insert.mpr (Or.inr hf), hq⟩

/-- A file is no directory above itself. -/
theorem hasDirectory_put_self {d : Disk} {p : Place} (h : d.hasDirectory p = false)
    (bytes : List UInt8) : (d.put p bytes).hasDirectory p = false := by
  simp only [hasDirectory, Bool.or_eq_false_iff, List.any_eq_false] at h ⊢
  refine ⟨h.1, fun f hf => ?_⟩
  rcases Dict.mem_keys_insert.mp hf with rfl | hf
  · simp
  · exact h.2 f hf

/-! ## Paths -/

/-- More directories do not lead elsewhere, if the last name is not one that stays. -/
theorem follow_of_directories {d e : Disk}
    (hdirectories : ∀ q, d.hasDirectory q = true → e.hasDirectory q = true) {here p : Place}
    {names : List (List Char)} (hlast : (names.getLast?.map isIdle).getD false = false)
    (h : d.follow here names = .ok p) : e.follow here names = .ok p := by
  induction names generalizing here with
  | nil => exact h
  | cons name names ih =>
    cases names with
    | nil => exact h
    | cons next rest =>
      rw [List.getLast?_cons_cons] at hlast
      rw [follow] at h ⊢
      by_cases hidle : isIdle name = true
      · rw [if_pos hidle] at h ⊢
        exact ih hlast h
      rw [if_neg hidle] at h ⊢
      by_cases hlong : 255 < (Utf8.encode name).length
      · rw [if_pos hlong] at h
        cases h
      rw [if_neg hlong] at h ⊢
      simp only at h ⊢
      by_cases hthere : d.hasDirectory (descend here name) = true
      · rw [if_pos hthere] at h
        rw [if_pos (hdirectories _ hthere)]
        exact ih hlast h
      rw [if_neg hthere] at h
      split at h
      · cases h
      · -- the rest would stay where it is, but its last name does not
        have hstays : (next :: rest).all isIdle = false := by
          rw [← Bool.not_eq_true, List.all_eq_true]
          intro hall
          have hne : next :: rest ≠ [] := List.cons_ne_nil next rest
          rw [List.getLast?_eq_some_getLast hne, Option.map_some, Option.getD_some,
            hall _ (List.getLast_mem hne)] at hlast
          cases hlast
        rw [if_neg (by rw [hstays]; exact Bool.false_ne_true)] at h
        cases h

theorem locate_of_directories {d e : Disk}
    (hdirectories : ∀ q, d.hasDirectory q = true → e.hasDirectory q = true) {path : String}
    {p : Place} (h : d.locate path = .ok (p, false)) : e.locate path = .ok (p, false) := by
  simp only [locate] at h ⊢
  split at h
  · cases h
  rw [if_neg ‹_›]
  split at h
  · cases h
  rw [if_neg ‹_›]
  split at h
  · cases h
  rw [if_neg ‹_›]
  split at h
  · cases h
  · next q hq =>
    obtain ⟨rfl, hlast⟩ : q = p ∧
        ((pieces '/' path.toList).getLast?.map isIdle).getD false = false := by
      simpa using h
    rw [follow_of_directories hdirectories hlast hq]
    simp only [hlast]

theorem locate_put {d : Disk} {path : String} {p : Place} (h : d.locate path = .ok (p, false))
    (q : Place) (bytes : List UInt8) : (d.put q bytes).locate path = .ok (p, false) :=
  locate_of_directories (fun _ hd => hasDirectory_put_of hd q bytes) h

/-! ## Reading and writing -/

theorem writable_eq_ok {d : Disk} {path : String} {p : Place} :
    d.writable path = .ok p ↔ d.locate path = .ok (p, false) ∧ d.hasDirectory p = false := by
  rw [writable]
  split
  · next e h => simp [h]
  · next q asDirectory h =>
    rw [h]
    cases hq : d.hasDirectory q with
    | true =>
      rw [if_pos rfl]
      constructor
      · rintro ⟨⟩
      · rintro ⟨⟨⟩, hp⟩
        rw [hq] at hp
        cases hp
    | false =>
      cases asDirectory with
      | true => simp
      | false =>
        simp only [Bool.false_eq_true, if_false, Except.ok.injEq, Prod.mk.injEq, and_true]
        constructor
        · rintro rfl
          exact ⟨rfl, hq⟩
        · exact fun hp => hp.1

/-- **What was written to a file is read from it.** -/
theorem read_of_write {d e : Disk} {path : String} {bytes : List UInt8}
    (h : d.write path bytes = .ok e) : e.read path = .ok bytes := by
  rw [write] at h
  split at h
  · cases h
  · next p hp =>
    cases h
    obtain ⟨hlocate, hdirectory⟩ := writable_eq_ok.mp hp
    rw [read, locate_put hlocate]
    simp only
    rw [if_neg (by rw [hasDirectory_put_self hdirectory]; exact Bool.false_ne_true),
      contentAt?_put, if_pos rfl]
    rfl

theorem readText_of_write {d e : Disk} {path : String} {text : List Char}
    (h : d.write path (Utf8.encode text) = .ok e) : e.readText path = .ok (String.ofList text) := by
  rw [readText, read_of_write h]
  simp only [Utf8.decode?_encode]

theorem write_of_writable {d : Disk} {path : String} {p : Place} (h : d.writable path = .ok p)
    (bytes : List UInt8) : d.write path bytes = .ok (d.put p bytes) := by
  rw [write, h]

theorem exists_writable_of_read {d : Disk} {path : String} {bytes : List UInt8}
    (h : d.read path = .ok bytes) : ∃ p, d.writable path = .ok p := by
  rw [read] at h
  split at h
  · cases h
  · next p asDirectory hlocate =>
    split at h
    · cases h
    · next hdirectory =>
      split at h
      · cases asDirectory with
        | true => cases h
        | false =>
          exact ⟨p, writable_eq_ok.mpr ⟨hlocate, Bool.not_eq_true _ ▸ hdirectory⟩⟩
      · cases h

theorem read_of_readText {d : Disk} {path text : String} (h : d.readText path = .ok text) :
    ∃ bytes, d.read path = .ok bytes := by
  rw [readText] at h
  split at h
  · cases h
  · next bytes hread => exact ⟨bytes, hread⟩

end Firewall.Disk
