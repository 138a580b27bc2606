import Firewall.Proofs.Text.Numeral
import Firewall.Url

/-!
The written form of an address of the web holds printable ASCII characters only, whatever text
it was read from. Each part comes there on a way of its own: schemes are letters, hosts are
numbers or go through the tables of domain names, everything else is percent encoded.

Proved here:

* `percentEncode_printable`: what a set that holds the control characters lets through;
* `Punycode.encode_printable`, `toAscii?_printable`: the ASCII form of a domain;
* `parsePath_printable`: the segments of a path;
* `parse_written`, `Written.render_printable`: all parts of an address, and so the whole.
-/

namespace Firewall

namespace Text

/-- The ASCII characters that are no control characters. -/
def isPrintable (c : Char) : Bool := 0x20 ≤ c.toNat && c.toNat < 0x7F

def Printable (s : List Char) : Prop := ∀ c ∈ s, isPrintable c = true

instance (s : List Char) : Decidable (Printable s) :=
  decidable_of_decidable_of_iff (List.all_eq_true (l := s) (p := isPrintable))

namespace Printable

@[simp] theorem nil : Printable [] := by simp [Printable]

@[simp] theorem cons {c : Char} {s : List Char} :
    Printable (c :: s) ↔ isPrintable c = true ∧ Printable s := by
  simp [Printable]

@[simp] theorem append {s t : List Char} : Printable (s ++ t) ↔ Printable s ∧ Printable t := by
  simp only [Printable, List.mem_append, or_imp, forall_and]

theorem flatMap {α : Type} {f : α → List Char} {xs : List α} (h : ∀ x ∈ xs, Printable (f x)) :
    Printable (xs.flatMap f) := by
  intro c hc
  obtain ⟨x, hx, hc⟩ := List.mem_flatMap.mp hc
  exact h x hx c hc

theorem join {sep : List Char} {parts : List (List Char)} (hs : Printable sep)
    (h : ∀ p ∈ parts, Printable p) : Printable (Text.join sep parts) := by
  induction parts with
  | nil => exact nil
  | cons p parts ih =>
    have hp := h p List.mem_cons_self
    cases parts with
    | nil => exact hp
    | cons q parts =>
      rw [Text.join, append, append]
      exact ⟨⟨hp, hs⟩, ih fun r hr => h r (List.mem_cons_of_mem p hr)⟩

theorem intercalate {sep : String} {parts : List String} (hs : Printable sep.toList)
    (h : ∀ p ∈ parts, Printable p.toList) : Printable (sep.intercalate parts).toList := by
  rw [String.toList_intercalate]
  induction parts with
  | nil => simp
  | cons p parts ih =>
    have hp := h p List.mem_cons_self
    cases parts with
    | nil => simpa using hp
    | cons q parts =>
      have hrest := ih fun r hr => h r (List.mem_cons_of_mem p hr)
      simp only [List.map_cons, List.intercalate_cons_cons, append] at hrest ⊢
      exact ⟨⟨hp, hs⟩, hrest⟩

/-- A printable text has no line break. -/
theorem not_mem_lineBreak {s : List Char} (h : Printable s) : '\n' ∉ s :=
  fun hc => absurd (h _ hc) (by decide)

end Printable

theorem isPrintable_of_bounds {c : Char} {lo hi : Char} (h : lo ≤ c ∧ c ≤ hi)
    (hlo : 0x20 ≤ lo.toNat) (hhi : hi.toNat < 0x7F) : isPrintable c = true := by
  have h1 : lo.toNat ≤ c.toNat := h.1
  have h2 : c.toNat ≤ hi.toNat := h.2
  simp only [isPrintable, Bool.and_eq_true, decide_eq_true_eq]
  omega

theorem isPrintable_of_isDigit {c : Char} (h : c.isDigit = true) : isPrintable c = true := by
  simp only [Char.isDigit, Bool.and_eq_true, decide_eq_true_eq] at h
  exact @isPrintable_of_bounds c '0' '9' h (by decide) (by decide)

theorem toString_printable (n : Nat) : Printable (toString n).toList :=
  fun _ hc => isPrintable_of_isDigit (isDigit_toString hc)

theorem isPrintable_digitChar : ∀ d, d < 16 → isPrintable d.digitChar = true := by decide

theorem toDigits_printable (n : Nat) : Printable (Nat.toDigits 16 n) := by
  induction n using Nat.strongRecOn with
  | ind n ih =>
    rw [Nat.toDigits_eq_if (by decide)]
    by_cases hn : n < 16
    · rw [if_pos hn]
      simpa using isPrintable_digitChar n hn
    · rw [if_neg hn, Printable.append]
      exact ⟨ih (n / 16) (by omega), by simpa using isPrintable_digitChar (n % 16) (by omega)⟩

theorem isPrintable_of_isAsciiLetter {c : Char} (h : isAsciiLetter c = true) :
    isPrintable c = true := by
  simp only [isAsciiLetter, Bool.or_eq_true, Bool.and_eq_true, decide_eq_true_eq] at h
  rcases h with h | h
  · exact isPrintable_of_bounds h (by decide) (by decide)
  · exact isPrintable_of_bounds h (by decide) (by decide)

theorem isPrintable_asciiLower {c : Char} (h : isPrintable c = true) :
    isPrintable (asciiLower c) = true := by
  have hall : ∀ n, n < 0x80 → isPrintable (Char.ofNat n) = true →
      isPrintable (asciiLower (Char.ofNat n)) = true := by decide
  have hc : c.toNat < 0x80 := by
    simp only [isPrintable, Bool.and_eq_true, decide_eq_true_eq] at h
    omega
  rw [← Char.ofNat_toNat c] at h ⊢
  exact hall c.toNat hc h

end Text

open Text

namespace Url

/-! ## Percent encoding -/

theorem isPrintable_upperDigit : ∀ d, d < 16 → isPrintable (Hex.upperDigit d) = true := by decide

theorem percentByte_printable (b : UInt8) : Printable (percentByte b) := by
  have hb := b.toNat_lt
  simp only [percentByte, Printable.cons, Printable.nil, and_true]
  exact ⟨by decide, isPrintable_upperDigit _ (by omega), isPrintable_upperDigit _ (by omega)⟩

/-- **What is percent encoded is printable**, if the control characters are among what is
encoded. -/
theorem percentEncode_printable {set : EncodeSet}
    (hset : ∀ c, controlSet c = true → set c = true) (s : List Char) :
    Printable (percentEncode set s) := by
  refine Printable.flatMap fun c _ => ?_
  unfold encodeChar
  by_cases hc : (c.toNat < 0x80 && !set c) = true
  · rw [if_pos hc, Printable.cons]
    simp only [Bool.and_eq_true, decide_eq_true_eq, Bool.not_eq_true'] at hc
    have hcontrol : controlSet c = false := by
      cases hcs : controlSet c with
      | false => rfl
      | true => exact absurd (hset c hcs) (by simp [hc.2])
    simp only [controlSet, Bool.or_eq_false_iff, decide_eq_false_iff_not, beq_eq_false_iff_ne]
      at hcontrol
    refine ⟨?_, Printable.nil⟩
    simp only [isPrintable, Bool.and_eq_true, decide_eq_true_eq]
    omega
  · rw [if_neg hc]
    exact Printable.flatMap fun b _ => percentByte_printable b

theorem controlSet_le_fragmentSet {c : Char} (h : controlSet c = true) : fragmentSet c = true := by
  simp [fragmentSet, h]

theorem controlSet_le_querySet {c : Char} (h : controlSet c = true) : querySet c = true := by
  simp [querySet, h]

theorem controlSet_le_specialQuerySet {c : Char} (h : controlSet c = true) :
    specialQuerySet c = true := by
  simp [specialQuerySet, controlSet_le_querySet h]

theorem controlSet_le_pathSet {c : Char} (h : controlSet c = true) : pathSet c = true := by
  simp [pathSet, controlSet_le_fragmentSet h]

theorem controlSet_le_userSet {c : Char} (h : controlSet c = true) : userSet c = true := by
  simp [userSet, controlSet_le_pathSet h]

/-! ## Domain names -/

namespace Idna

namespace Punycode

theorem isPrintable_digitChar : ∀ d, d < 36 → isPrintable (digitChar d) = true := by decide

theorem digits_printable (bias place value : Nat) : Printable (digits bias place value) := by
  induction value using Nat.strongRecOn generalizing place with
  | ind value ih =>
    have ht := threshold_bounds place bias
    rw [digits]
    by_cases hv : value < threshold place bias
    · rw [if_pos hv]
      simpa using isPrintable_digitChar value (by omega)
    · rw [if_neg hv, Printable.cons]
      have hmod : (value - threshold place bias) % (36 - threshold place bias) <
          36 - threshold place bias := Nat.mod_lt _ (by omega)
      have hdiv : (value - threshold place bias) / (36 - threshold place bias) ≤
          value - threshold place bias := Nat.div_le_self _ _
      exact ⟨isPrintable_digitChar _ (by omega), ih _ (by omega) _⟩

theorem pass_printable (basic point : Nat) {p : Progress} (h : Printable p.written) (c : Char) :
    Printable (pass basic point p c).written := by
  unfold pass
  by_cases hlt : c.toNat < point
  · rw [if_pos hlt]
    exact h
  · rw [if_neg hlt]
    by_cases heq : c.toNat = point
    · rw [if_pos heq, Printable.append]
      exact ⟨h, digits_printable _ _ _⟩
    · rw [if_neg heq]
      exact h

theorem passes_printable (basic point : Nat) (label : List Char) {p : Progress}
    (h : Printable p.written) : Printable (label.foldl (pass basic point) p).written := by
  induction label generalizing p with
  | nil => exact h
  | cons c label ih => exact ih (pass_printable basic point h c)

theorem writePoints_printable (label : List Char) (basic : Nat) (points : List Nat) (next : Nat)
    {p : Progress} (h : Printable p.written) :
    Printable (writePoints label basic points next p).written := by
  induction points generalizing next p with
  | nil => exact h
  | cons point points ih => exact ih _ (passes_printable basic point label h)

/-- **The ASCII form of a label** is printable if the ASCII characters of the label are. -/
theorem encode_printable {label : List Char}
    (h : ∀ c ∈ label, c.toNat < 0x80 → isPrintable c = true) : Printable (encode label) := by
  refine writePoints_printable _ _ _ _ ?_
  rw [Printable.append]
  constructor
  · intro c hc
    obtain ⟨hmem, hascii⟩ := List.mem_filter.mp hc
    exact h c hmem (by simpa using hascii)
  · split
    · exact Printable.nil
    · simp [isPrintable]

end Punycode

/-- A label of valid characters: printable as far as it is ASCII. -/
def Fit (label : List Nat) : Prop :=
  ∃ text : List Char, label = text.map Char.toNat ∧
    ∀ c ∈ text, c.toNat < 0x80 → isPrintable c = true

theorem fit_of_isValidLabel {text : List Char} (h : isValidLabel (text.map Char.toNat) = true) :
    Fit (text.map Char.toNat) := by
  refine ⟨text, rfl, fun c hc hascii => ?_⟩
  simp only [isValidLabel, Bool.and_eq_true, List.all_eq_true] at h
  have hd := h.1.2 c.toNat (List.mem_map_of_mem hc)
  simp only [isDenied, Bool.not_eq_true', Bool.or_eq_false_iff, decide_eq_false_iff_not,
    beq_eq_false_iff_ne] at hd
  simp only [isPrintable, Bool.and_eq_true, decide_eq_true_eq]
  omega

theorem readLabel?_fit {text : List Char} {label : List Nat}
    (h : readLabel? (text.map Char.toNat) = some label) : Fit label := by
  unfold readLabel? at h
  simp only at h
  split at h
  · split at h
    · split at h
      · next inner _ =>
        split at h
        · next hv =>
          cases h
          simp only [Bool.and_eq_true] at hv
          exact fit_of_isValidLabel hv.2
        · exact absurd h (by simp)
      · exact absurd h (by simp)
    · exact absurd h (by simp)
  · split at h
    · next hv =>
      cases h
      exact fit_of_isValidLabel hv
    · exact absurd h (by simp)

theorem writeLabel?_printable {label : List Nat} {written : List Char} (hf : Fit label)
    (h : writeLabel? label = some written) : Printable written := by
  obtain ⟨text, rfl, hp⟩ := hf
  have htext : (text.map Char.toNat).map Char.ofNat = text := by
    rw [List.map_map]
    exact List.map_id'' (fun c => Char.ofNat_toNat c) text
  unfold writeLabel? at h
  rw [htext] at h
  simp only at h
  split at h
  · next hall =>
    cases h
    intro c hc
    rw [List.all_eq_true] at hall
    exact hp c hc (by simpa using hall c.toNat (List.mem_map_of_mem hc))
  · split at h
    · cases h
      rw [Printable.append]
      exact ⟨by decide, Punycode.encode_printable hp⟩
    · exact absurd h (by simp)

/-- What a partial function gives for a list comes from elements of the list. -/
theorem mem_of_mapM {α β : Type} {f : α → Option β} {xs : List α} {ys : List β}
    (h : xs.mapM f = some ys) {y : β} (hy : y ∈ ys) : ∃ x ∈ xs, f x = some y := by
  induction xs generalizing ys with
  | nil =>
    rw [List.mapM_nil] at h
    cases h
    exact absurd hy (by simp)
  | cons x xs ih =>
    rw [List.mapM_cons] at h
    simp only [bind, Option.bind_eq_some_iff, pure, Option.some.injEq] at h
    obtain ⟨z, hz, zs, hzs, rfl⟩ := h
    rcases List.mem_cons.mp hy with rfl | hy
    · exact ⟨x, List.mem_cons_self, hz⟩
    · obtain ⟨w, hw, he⟩ := ih hzs hy
      exact ⟨w, List.mem_cons_of_mem x hw, he⟩

/-- **A domain in ASCII** is printable. -/
theorem toAscii?_printable {domain written : List Char} (h : toAscii? domain = some written) :
    Printable written := by
  unfold toAscii? at h
  simp only [bind, Option.bind_eq_some_iff] at h
  obtain ⟨mapped, -, labels, hlabels, h⟩ := h
  split at h
  · exact absurd h (by simp)
  · simp only [Option.bind_eq_some_iff, Option.some.injEq] at h
    obtain ⟨parts, hparts, rfl⟩ := h
    refine Printable.join (by decide) fun p hp => ?_
    obtain ⟨label, hmem, hwrite⟩ := mem_of_mapM hparts hp
    obtain ⟨piece, -, hread⟩ := mem_of_mapM hlabels hmem
    exact writeLabel?_printable (readLabel?_fit hread) hwrite

end Idna

/-! ## Hosts -/

def Host.Printable (h : Host) : Prop := Text.Printable h.render.toList

theorem dotted_printable (bits : BitVec 32) : Printable (Address.dotted bits).toList := by
  refine Printable.intercalate (by decide) fun p hp => ?_
  obtain ⟨n, -, rfl⟩ := List.mem_map.mp hp
  exact toString_printable n

theorem groups_printable (gs : List Nat) :
    Printable (":".intercalate (gs.map Address.groupText)).toList := by
  refine Printable.intercalate (by decide) fun p hp => ?_
  obtain ⟨n, -, rfl⟩ := List.mem_map.mp hp
  rw [Address.groupText, String.toList_ofList]
  exact toDigits_printable n

theorem compressed_printable (gs : List Nat) : Printable (Address.compressed gs).toList := by
  unfold Address.compressed
  simp only
  split
  · rw [String.toList_append, String.toList_append, Printable.append, Printable.append]
    exact ⟨⟨groups_printable _, by decide⟩, groups_printable _⟩
  · exact groups_printable _

theorem host_v4_printable (bits : BitVec 32) : (Host.v4 bits).Printable := dotted_printable bits

theorem host_v6_printable (bits : BitVec 128) : (Host.v6 bits).Printable := by
  unfold Host.Printable Host.render
  rw [String.toList_append, String.toList_append, Printable.append, Printable.append]
  exact ⟨⟨by decide, compressed_printable _⟩, by decide⟩

theorem host_name_printable {text : List Char} (h : Printable text) :
    (Host.name text).Printable := by
  unfold Host.Printable Host.render
  rw [String.toList_ofList]
  exact h

theorem parseBracketed_printable {s : List Char} {host : Host} (h : parseBracketed s = .ok host) :
    host.Printable := by
  unfold parseBracketed at h
  split at h
  · split at h
    · cases h
      exact host_v6_printable _
    · exact absurd h (by simp)
  · exact absurd h (by simp)

theorem parseDomain_printable {s : List Char} {host : Host} (h : parseDomain s = .ok host) :
    host.Printable := by
  unfold parseDomain at h
  split at h
  · exact parseBracketed_printable h
  · split at h
    · exact absurd h (by simp)
    · exact absurd h (by simp)
    · next domain _ hd =>
      split at h
      · split at h
        · cases h
          exact host_v4_printable _
        · exact absurd h (by simp)
      · cases h
        obtain ⟨text, -, htext⟩ := Option.bind_eq_some_iff.mp hd
        exact host_name_printable (Idna.toAscii?_printable htext)

theorem parseForeignHost_printable {s : List Char} {host : Host}
    (h : parseForeignHost s = .ok host) : host.Printable := by
  unfold parseForeignHost at h
  split at h
  · exact parseBracketed_printable h
  · split at h
    · exact absurd h (by simp)
    · cases h
      exact host_name_printable (percentEncode_printable (fun _ hc => hc) s)

theorem parseFileHost_printable {s : List Char} {host : Host}
    (h : parseFileHost s = .ok host) : host.Printable := by
  unfold parseFileHost at h
  split at h
  · cases h
    exact host_name_printable Printable.nil
  · split at h
    · next text hd =>
      cases h
      split
      · exact host_name_printable Printable.nil
      · exact parseDomain_printable hd
    · exact parseDomain_printable h

/-! ## Paths -/

def AllPrintable (parts : List (List Char)) : Prop := ∀ p ∈ parts, Printable p

theorem stepUp_printable {parts : List (List Char)} (h : AllPrintable parts) :
    AllPrintable (stepUp parts) := by
  cases parts with
  | nil => exact h
  | cons s r =>
    rw [stepUp]
    split
    · exact h
    · exact fun p hp => h p (List.mem_cons_of_mem s hp)

theorem AllPrintable.cons {s : List Char} {parts : List (List Char)} (hs : Printable s)
    (h : AllPrintable parts) : AllPrintable (s :: parts) := by
  intro p hp
  rcases List.mem_cons.mp hp with rfl | hp
  · exact hs
  · exact h p hp

theorem normalizeDrive_printable {s : List Char} (h : Printable s) :
    Printable (normalizeDrive s) := by
  unfold normalizeDrive
  split
  · next a b r =>
    simp only [Printable.cons] at h ⊢
    exact ⟨h.1, by decide, h.2.2⟩
  · exact h

theorem add_printable (style : PathStyle) {draft : PathDraft} (h : AllPrintable draft.done)
    (segment : List Char) (final : Bool) : AllPrintable (draft.add style segment final).done := by
  have hencoded : Printable (percentEncode pathSet segment) :=
    percentEncode_printable (fun _ => controlSet_le_pathSet) segment
  unfold PathDraft.add
  simp only
  split
  · split
    · exact (stepUp_printable h).cons Printable.nil
    · exact stepUp_printable h
  · split
    · split
      · exact h.cons Printable.nil
      · exact h
    · split
      · exact AllPrintable.cons (normalizeDrive_printable hencoded) (by simp [AllPrintable])
      · split
        · next a b r _ heq =>
          rw [heq] at hencoded
          simp only [Printable.cons] at hencoded
          split
          · refine AllPrintable.cons ?_ (AllPrintable.cons ?_ (by simp [AllPrintable]))
            · simpa using hencoded.2.2
            · simpa using ⟨hencoded.1, hencoded.2.1⟩
          · exact h.cons (by rw [heq]; simpa using hencoded)
        · exact h.cons hencoded

theorem readSegments_printable (style : PathStyle) (text segment : List Char)
    {draft : PathDraft} (h : AllPrintable draft.done) :
    AllPrintable (readSegments style draft segment text).1.done := by
  induction text generalizing draft segment with
  | nil => exact add_printable style h segment.reverse true
  | cons c text ih =>
    rw [readSegments]
    split
    · exact ih [] (add_printable style h segment.reverse false)
    · split
      · exact add_printable style h segment.reverse true
      · exact ih (c :: segment) h

theorem dropEmptyFront_printable {parts : List (List Char)} (h : AllPrintable parts) :
    AllPrintable (dropEmptyFront parts) := by
  unfold dropEmptyFront
  split
  · simp [AllPrintable]
  · next kept _ => exact fun p hp => h p ((List.dropWhile_sublist _).subset hp)

/-- **The segments of a path** are printable. -/
theorem parsePath_printable (style : PathStyle) (text : List Char) :
    AllPrintable (parsePath style text).1 := by
  have hdone := @readSegments_printable style text [] ⟨[], false⟩ (by simp [AllPrintable])
  have hback : AllPrintable (readSegments style ⟨[], false⟩ [] text).1.done.reverse :=
    fun p hp => hdone p (List.mem_reverse.mp hp)
  unfold parsePath
  simp only
  split
  · exact dropEmptyFront_printable hback
  · exact hback

theorem renderSegments_printable {parts : List (List Char)} (h : AllPrintable parts) :
    Printable (renderSegments parts) := by
  refine Printable.flatMap fun p hp => ?_
  rw [Printable.cons]
  exact ⟨by decide, h p hp⟩

theorem pathAfterHost_printable (kind : Kind) (rest : List Char) :
    AllPrintable (pathAfterHost kind rest).1 := by
  unfold pathAfterHost
  split
  · split
    · exact parsePath_printable _ _
    · split
      · simp [AllPrintable]
      · exact parsePath_printable _ _
  · split
    · simp [AllPrintable]
    · exact parsePath_printable _ _

/-! ## Addresses -/

structure Written (u : Url) : Prop where
  scheme : Printable u.scheme
  user : Printable u.user
  password : Printable u.password
  host : ∀ h ∈ u.host, Host.Printable h
  path : Printable u.pathText.toList
  query : ∀ q ∈ u.query, Printable q
  fragment : ∀ f ∈ u.fragment, Printable f

theorem tailParts_printable (kind : Kind) (rest : List Char) :
    (∀ q ∈ (tailParts kind rest).1, Printable q) ∧
      ∀ f ∈ (tailParts kind rest).2, Printable f := by
  have hset : ∀ c, controlSet c = true →
      (if kind == .foreign then querySet else specialQuerySet) c = true := by
    intro c hc
    split
    · exact controlSet_le_querySet hc
    · exact controlSet_le_specialQuerySet hc
  have hfragment : ∀ s, Printable (percentEncode fragmentSet s) :=
    percentEncode_printable fun _ => controlSet_le_fragmentSet
  unfold tailParts
  simp only
  generalize (if kind == .foreign then querySet else specialQuerySet) = set at hset
  have hquery : ∀ s, Printable (percentEncode set s) := percentEncode_printable hset
  split
  · split
    · simp [hquery, hfragment]
    · simp [hquery]
  · simp [hfragment]
  · simp

theorem splitAuthority_printable (s : List Char) :
    Printable (splitAuthority s).1 ∧ Printable (splitAuthority s).2.1 := by
  have huser : ∀ s, Printable (percentEncode userSet s) :=
    percentEncode_printable fun _ => controlSet_le_userSet
  unfold splitAuthority
  split
  · simp
  · split
    · simp [huser]
    · simp [huser]

theorem segments_written {scheme user password : List Char} {host : Option Host}
    {port : Option Nat} {parts : List (List Char)} (kind : Kind) (tail : List Char)
    (hscheme : Printable scheme) (huser : Printable user) (hpassword : Printable password)
    (hhost : ∀ h ∈ host, Host.Printable h) (hparts : AllPrintable parts) :
    Written ⟨scheme, user, password, host, port, .segments parts, (tailParts kind tail).1,
      (tailParts kind tail).2⟩ where
  scheme := hscheme
  user := huser
  password := hpassword
  host := hhost
  path := by
    show Printable (String.ofList (renderSegments parts)).toList
    rw [String.toList_ofList]
    exact renderSegments_printable hparts
  query := (tailParts_printable kind tail).1
  fragment := (tailParts_printable kind tail).2

theorem parseWithHost_written {scheme s : List Char} {kind : Kind} {u : Url}
    (hscheme : Printable scheme) (h : parseWithHost scheme kind s = .ok u) : u.Written := by
  unfold parseWithHost at h
  simp only [bind, Except.bind, pure, Except.pure, throw, throwThe, MonadExceptOf.throw] at h
  generalize s.takeWhile (fun c => !endsAuthority kind c) = part at h
  generalize splitPort false (splitAuthority part).2.2 = place at h
  have hdone : ∀ {host : Host} {port : Option Nat} {rest : List Char}, host.Printable →
      (Except.ok ⟨scheme, (splitAuthority part).1, (splitAuthority part).2.1, some host, port,
        .segments (pathAfterHost kind rest).1, (tailParts kind (pathAfterHost kind rest).2.2).1,
        (tailParts kind (pathAfterHost kind rest).2.2).2⟩ : Except Fault Url) = .ok u →
      u.Written := by
    intro host port rest hhost hu
    cases hu
    refine segments_written kind _ hscheme (splitAuthority_printable part).1
      (splitAuthority_printable part).2 ?_ (pathAfterHost_printable kind rest)
    intro h hh
    cases hh
    exact hhost
  split at h
  · exact absurd h (by simp)
  split at h
  · exact absurd h (by simp)
  -- both kinds of scheme go on alike once the host has been read
  split at h
  all_goals
    split at h
    · exact absurd h (by simp)
    next host hread =>
    have hhost : host.Printable := by
      first
        | exact parseDomain_printable hread
        | exact parseForeignHost_printable hread
    split at h
    · exact absurd h (by simp)
    split at h
    · split at h
      · exact absurd h (by simp)
      · exact hdone hhost h
    · split at h
      · exact absurd h (by simp)
      · split at h
        · exact absurd h (by simp)
        · exact hdone hhost h

theorem parseWithoutHost_written {scheme : List Char} (hscheme : Printable scheme)
    (s : List Char) : (parseWithoutHost scheme s).Written := by
  unfold parseWithoutHost
  split
  · exact segments_written .foreign _ hscheme Printable.nil Printable.nil (by simp)
      (parsePath_printable .plain _)
  · exact {
      scheme := hscheme
      user := Printable.nil
      password := Printable.nil
      host := by simp
      path := by
        simp only [pathText, String.toList_ofList]
        exact percentEncode_printable (fun _ hc => hc) _
      query := (tailParts_printable .foreign _).1
      fragment := (tailParts_printable .foreign _).2 }

theorem parseFile_written {s : List Char} {u : Url} (h : parseFile s = .ok u) : u.Written := by
  unfold parseFile at h
  simp only [bind, Except.bind, pure, Except.pure] at h
  have hdone : ∀ {host : Host} {parsed : List (List Char) × Bool × List Char}, host.Printable →
      AllPrintable parsed.1 →
      (Except.ok ⟨"file".toList, [], [], some (if parsed.2.1 = true then .name [] else host), none,
        .segments parsed.1, (tailParts .file parsed.2.2).1, (tailParts .file parsed.2.2).2⟩ :
        Except Fault Url) = .ok u → u.Written := by
    intro host parsed hhost hparts hu
    cases hu
    refine segments_written .file _ (by decide) Printable.nil Printable.nil ?_ hparts
    intro h hh
    cases hh
    split
    · exact host_name_printable Printable.nil
    · exact hhost
  have hnone : (Host.name []).Printable := host_name_printable Printable.nil
  split at h
  · split at h
    · split at h
      · exact hdone hnone (parsePath_printable _ _) h
      · split at h
        · exact absurd h (by simp)
        · next host hread =>
          split at h
          · exact hdone (parseFileHost_printable hread) (parsePath_printable _ _) h
          · exact hdone (parseFileHost_printable hread) (pathAfterHost_printable _ _) h
    · exact hdone hnone (parsePath_printable _ _) h
  · exact hdone hnone (parsePath_printable _ _) h

theorem isPrintable_of_isSchemeCharacter {c : Char} (h : isSchemeCharacter c = true) :
    isPrintable c = true := by
  simp only [isSchemeCharacter, Bool.or_eq_true, beq_iff_eq] at h
  rcases h with (((h | h) | rfl) | rfl) | rfl
  · exact isPrintable_of_isAsciiLetter h
  · simp only [isAsciiDigit, Bool.and_eq_true, decide_eq_true_eq] at h
    exact isPrintable_of_bounds h (by decide) (by decide)
  · decide
  · decide
  · decide

theorem scheme?_printable {s scheme rest : List Char} (h : scheme? s = some (scheme, rest)) :
    Printable scheme := by
  unfold scheme? at h
  split at h
  · split at h
    · split at h
      · cases h
        intro c hc
        obtain ⟨d, hd, rfl⟩ := List.mem_map.mp hc
        have hs := List.all_eq_true.mp List.all_takeWhile d hd
        exact isPrintable_asciiLower (isPrintable_of_isSchemeCharacter hs)
      · exact absurd h (by simp)
    · exact absurd h (by simp)
  · exact absurd h (by simp)

/-- **Every part of an address that was read** is printable. -/
theorem parse_written {text : String} {u : Url} (h : parse text = .ok u) : u.Written := by
  unfold parse at h
  split at h
  · exact absurd h (by simp)
  · next scheme rest hs =>
    have hscheme := scheme?_printable hs
    split at h
    · exact parseFile_written h
    · exact parseWithHost_written hscheme h
    · split at h
      · exact parseWithHost_written hscheme h
      · cases h
        exact parseWithoutHost_written hscheme rest

namespace Written

variable {u : Url}

theorem hostText_printable (h : u.Written) : Printable u.hostText.toList := by
  unfold hostText
  cases hu : u.host with
  | none => exact Printable.nil
  | some host => exact h.host host hu

theorem hostAndPort_printable (h : u.Written) : Printable u.hostAndPort.toList := by
  unfold hostAndPort
  cases u.port with
  | none => exact h.hostText_printable
  | some port =>
    simp only [String.toList_append, Printable.append]
    exact ⟨⟨h.hostText_printable, by decide⟩, toString_printable port⟩

theorem credentials_printable (h : u.Written) : Printable u.credentials := by
  unfold credentials
  split
  · exact Printable.nil
  · rw [Printable.append, Printable.append]
    refine ⟨⟨h.user, ?_⟩, by decide⟩
    split
    · exact Printable.nil
    · exact Printable.cons.mpr ⟨by decide, h.password⟩

theorem authority_printable (h : u.Written) : Printable u.authority := by
  unfold authority
  split
  · rw [Printable.append, Printable.append]
    exact ⟨⟨by decide, h.credentials_printable⟩, h.hostAndPort_printable⟩
  · split
    · decide
    · exact Printable.nil

theorem marked_printable {sign : Char} (hsign : isPrintable sign = true)
    {text : Option (List Char)} (h : ∀ s ∈ text, Printable s) : Printable (marked sign text) := by
  cases text with
  | none => exact Printable.nil
  | some s => exact Printable.cons.mpr ⟨hsign, h s rfl⟩

/-- **The written form of an address** is printable. -/
theorem render_printable (h : u.Written) : Printable u.render.toList := by
  unfold render
  simp only [String.toList_ofList, Printable.append, Printable.cons]
  exact ⟨⟨⟨⟨h.scheme, by decide, h.authority_printable⟩, h.path⟩,
    marked_printable (by decide) h.query⟩, marked_printable (by decide) h.fragment⟩

end Written

end Url

end Firewall
