import Firewall.Proofs.Disk
import Firewall.Proofs.Settings.Document
import Firewall.Proofs.Toml.Range
import Firewall.Settings.File

/-!
Settings that were loaded from a file can be saved, and what was saved is loaded as the same
settings. Of a saved document any fields and whole sections may be left out: then those fields,
and no others, have their usual values.

Proved here:

* `ofRows?_eq`: a section that is missing is as good as an empty one;
* `writable_of_parse?`: the numbers of settings that were read can be written;
* `find?_documentRows`: what is kept of a document about a section;
* `parse?_kept`: the settings that what is kept of a document stands for;
* `loaded_settings_round_trip`: saving and loading again, with everything kept or with parts left
  out.
-/

namespace Firewall

open Toml

/-! ## Sections that are missing -/

namespace Section

/-- What is said at the key of a section. One that is missing is as good as an empty one. -/
def find? (rows : Rows) (key : String) : Option Section :=
  match rows.lookup key with
  | none => some (.named [])
  | some i => ofItem? i

/-- A section that is missing can be read as an empty one, if its usual settings are what an empty
one is read as. -/
theorem read?_eq {α : Type} {usual : α} {read : Section → Option α}
    (hempty : read (.named []) = some usual) (rows : Rows) (key : String) :
    read? rows key usual read = (find? rows key).bind read := by
  rw [read?, find?]
  cases rows.lookup key with
  | none => exact hempty.symm
  | some i => rfl

end Section

theorem ServerSettings.ofSection?_empty : ofSection? (.named []) = some usual := rfl

theorem LoggingSettings.ofSection?_empty : ofSection? (.named []) = some usual := rfl

theorem StoreSettings.ofSection?_empty : ofSection? (.named []) = some usual := rfl

theorem AuditSettings.ofSection?_empty : ofSection? (.named []) = some usual := rfl

theorem CountrySettings.ofSection?_empty : ofSection? (.named []) = some usual := rfl

/-- **The usual settings of a section are the usual values of its fields**: reading settings comes
to the same when a missing section is taken for an empty one. -/
theorem Settings.ofRows?_eq (rows : Rows) : ofRows? rows = do
    let server ← (Section.find? rows "server").bind ServerSettings.ofSection?
    let logging ← (Section.find? rows "logging").bind LoggingSettings.ofSection?
    let store ← (Section.find? rows "store").bind StoreSettings.ofSection?
    let audit ← (Section.find? rows "waf").bind AuditSettings.ofSection?
    let countries ← (Section.find? rows "geoip").bind CountrySettings.ofSection?
    return ⟨server, logging, store, audit, countries⟩ := by
  rw [ofRows?, Section.read?_eq ServerSettings.ofSection?_empty,
    Section.read?_eq LoggingSettings.ofSection?_empty,
    Section.read?_eq StoreSettings.ofSection?_empty,
    Section.read?_eq AuditSettings.ofSection?_empty,
    Section.read?_eq CountrySettings.ofSection?_empty]

/-! ## Numbers that were read can be written -/

/-- Every whole number that is said about a section has 64 bits with its sign. -/
def Section.Fits : Section → Prop
  | named rows => rows.Fits
  | listed items => ∀ i ∈ items, i.Fits

namespace Section

theorem fits_of_ofItem? {i : Item} (h : i.Fits) {sec : Section} (hsec : ofItem? i = some sec) :
    sec.Fits := by
  cases h with
  | table inner => cases hsec; exact inner
  | list each => cases hsec; exact each
  | moment => cases hsec; exact Rows.Fits.nil
  | _ => cases hsec

theorem fits_of_find? {rows : Rows} (h : rows.Fits) {key : String} {sec : Section}
    (hsec : find? rows key = some sec) : sec.Fits := by
  rw [find?] at hsec
  cases hl : rows.lookup key with
  | none =>
    rw [hl] at hsec
    cases hsec
    exact Rows.Fits.nil
  | some i =>
    rw [hl] at hsec
    exact fits_of_ofItem? (h.lookup hl) hsec

theorem fits_of_field? {sec : Section} (h : sec.Fits) {place : Nat} {name : String} {i : Item}
    (hi : sec.field? place name = some i) : i.Fits := by
  cases sec with
  | named rows => exact Rows.Fits.lookup h hi
  | listed items => exact h i (List.mem_of_getElem? hi)

theorem natural?_lt {sec : Section} (h : sec.Fits) {place : Nat} {name : String}
    {bound usual n : Nat} (husual : usual < halfRange)
    (hn : sec.natural? place name bound usual = some n) : n < halfRange := by
  rw [natural?] at hn
  split at hn
  · cases hn
    exact husual
  · next m hm =>
    split at hn
    · cases hn
      cases fits_of_field? h hm with
      | integer low high => exact Int.ofNat_lt.mp high
    · cases hn
  · cases hn

end Section

namespace Settings

theorem toNat_ofNat_lt {m : UInt64} {n : Nat} (hm : UInt64.ofNat n = m) (hn : n < halfRange) :
    m.toNat < halfRange := by
  rw [← hm, UInt64.toNat_ofNat']
  exact Nat.lt_of_le_of_lt (Nat.mod_le _ _) hn

theorem storeSettings_lt {sec : Section} (h : sec.Fits) {s : StoreSettings}
    (hs : StoreSettings.ofSection? sec = some s) :
    s.pollMillis.toNat < halfRange ∧ s.retryMillis.toNat < halfRange := by
  simp only [StoreSettings.ofSection?, Option.bind_eq_bind, Option.bind_eq_some_iff] at hs
  obtain ⟨backend, -, url, -, root, -, poll, hpoll, tries, -, retry, hretry, he⟩ := hs
  cases he
  exact ⟨toNat_ofNat_lt rfl (Section.natural?_lt h (by decide) hpoll),
    toNat_ofNat_lt rfl (Section.natural?_lt h (by decide) hretry)⟩

theorem countrySettings_lt {sec : Section} (h : sec.Fits) {s : CountrySettings}
    (hs : CountrySettings.ofSection? sec = some s) : s.timeout.toNat < halfRange := by
  simp only [CountrySettings.ofSection?, Option.bind_eq_bind, Option.bind_eq_some_iff] at hs
  obtain ⟨enable, -, path, -, url, -, timeout, htimeout, he⟩ := hs
  cases he
  exact toNat_ofNat_lt rfl (Section.natural?_lt h (by decide) htimeout)

/-- Every field of settings can be written. -/
def Writable (s : Settings) : Prop := ∀ p ∈ s.sections, ∀ f ∈ p.2, f.2.fits = true

theorem writable_of_lt {s : Settings} (hpoll : s.store.pollMillis.toNat < halfRange)
    (hretry : s.store.retryMillis.toNat < halfRange)
    (htimeout : s.countries.timeout.toNat < halfRange) : s.Writable := by
  have hport : s.server.port.toNat < halfRange :=
    Nat.lt_trans (UInt16.toNat_lt _) (by decide)
  have htries : s.store.tries.toNat < halfRange :=
    Nat.lt_trans (UInt32.toNat_lt _) (by decide)
  simp only [Writable, sections, List.forall_mem_cons, List.not_mem_nil, false_imp_iff,
    implies_true, and_true, Field.fits, true_and, decide_eq_true_eq]
  exact ⟨hport, ⟨hpoll, htries, hretry⟩, htimeout⟩

/-- **The numbers of settings that were read can be written.** -/
theorem writable_of_parse? {document : String} {s : Settings} (h : parse? document = some s) :
    s.Writable := by
  obtain ⟨rows, hread, hrows⟩ := Option.bind_eq_some_iff.mp h
  have hfits := fits_of_read hread
  simp only [ofRows?_eq, Option.bind_eq_bind, Option.bind_eq_some_iff] at hrows
  obtain ⟨server, -, logging, -, store, ⟨_, hfind, hstore⟩, audit, -, countries,
    ⟨_, hfind', hcountries⟩, he⟩ := hrows
  cases he
  obtain ⟨hpoll, hretry⟩ := storeSettings_lt (Section.fits_of_find? hfits hfind) hstore
  exact writable_of_lt hpoll hretry
    (countrySettings_lt (Section.fits_of_find? hfits hfind') hcountries)

theorem render?_of_writable {s : Settings} (h : s.Writable) :
    s.render? = some (String.ofList (documentOf s.sections)) := by
  rw [render?, if_pos]
  rw [List.all_eq_true]
  intro p hp
  rw [List.all_eq_true]
  exact h p hp

theorem isDocument_sections {s : Settings} (h : s.Writable) : IsDocument s.sections where
  distinct := by
    show ["server", "logging", "store", "waf", "geoip"].Nodup
    decide
  named := by
    simp only [sections, List.forall_mem_cons, List.not_mem_nil, false_imp_iff, implies_true,
      and_true]
    decide
  sections p hp := {
    distinct := by
      revert p
      simp only [sections, List.forall_mem_cons, List.not_mem_nil, false_imp_iff, implies_true,
        and_true, List.map_cons, List.map_nil]
      decide
    named := by
      revert p
      simp only [sections, List.forall_mem_cons, List.not_mem_nil, false_imp_iff, implies_true,
        and_true]
      decide
    fits := h p hp }

/-! ## Parts of a document -/

/-- A choice of what is kept of a document: sections by their names, and fields by the name of
their section and their own. -/
structure Kept where
  part : String → Bool
  field : String → String → Bool

namespace Kept

def all : Kept := ⟨fun _ => true, fun _ _ => true⟩

def without (kept : Kept) (name : String) : Kept :=
  { kept with part := fun part => part != name && kept.part part }

/-- The same choice with only the header of a section. -/
def emptied (kept : Kept) (name : String) : Kept where
  part part := part == name || kept.part part
  field part field := part != name && kept.field part field

/-- Whether a field is kept: its section is, and so is the field in it. -/
def has (kept : Kept) (part field : String) : Bool := kept.part part && kept.field part field

def of (kept : Kept) (parts : List (String × List (String × Field))) :
    List (String × List (String × Field)) :=
  (parts.filter fun p => kept.part p.1).map fun p => (p.1, p.2.filter fun f => kept.field p.1 f.1)

/-- The value of a field, which is the usual one if the field is not kept. -/
def value {α : Type} (kept : Kept) (part field : String) (said usual : α) : α :=
  if kept.has part field then said else usual

/-- Settings with the usual value for every field that is not kept. -/
def reset (kept : Kept) (s : Settings) : Settings where
  server := {
    host := kept.value "server" "host" s.server.host usual.server.host
    port := kept.value "server" "port" s.server.port usual.server.port }
  logging := {
    level := kept.value "logging" "level" s.logging.level usual.logging.level
    format := kept.value "logging" "format" s.logging.format usual.logging.format }
  store := {
    backend := kept.value "store" "backend" s.store.backend usual.store.backend
    url := kept.value "store" "url" s.store.url usual.store.url
    root := kept.value "store" "prefix" s.store.root usual.store.root
    pollMillis :=
      kept.value "store" "poll_interval_ms" s.store.pollMillis usual.store.pollMillis
    tries := kept.value "store" "connect_retry_attempts" s.store.tries usual.store.tries
    retryMillis :=
      kept.value "store" "connect_retry_delay_ms" s.store.retryMillis usual.store.retryMillis }
  audit := {
    outputs := kept.value "waf" "output" s.audit.outputs usual.audit.outputs
    format := kept.value "waf" "output_format" s.audit.format usual.audit.format }
  countries := {
    enable := kept.value "geoip" "enable" s.countries.enable usual.countries.enable
    fallbackPath :=
      kept.value "geoip" "fallback_path" s.countries.fallbackPath usual.countries.fallbackPath
    remoteUrl := kept.value "geoip" "remote_url" s.countries.remoteUrl usual.countries.remoteUrl
    timeout :=
      kept.value "geoip" "download_timeout_secs" s.countries.timeout usual.countries.timeout }

theorem reset_all (s : Settings) : all.reset s = s := rfl

theorem of_all (parts : List (String × List (String × Field))) : all.of parts = parts := by
  have hfields : ∀ fields : List (String × Field), fields.filter (fun _ => true) = fields :=
    fun fields => List.filter_eq_self.mpr fun _ _ => rfl
  have hparts : parts.filter (fun _ => true) = parts := List.filter_eq_self.mpr fun _ _ => rfl
  simp only [of, all, hfields, hparts]
  exact List.map_id parts

/-- Only which fields are kept matters. -/
theorem reset_congr {kept other : Kept}
    (h : ∀ part field, kept.has part field = other.has part field) (s : Settings) :
    kept.reset s = other.reset s := by
  simp only [reset, value, h]

/-- A section without fields is as good as none. -/
theorem has_emptied (kept : Kept) (name part field : String) :
    (kept.emptied name).has part field = (kept.without name).has part field := by
  cases h : part == name <;> simp [has, emptied, without, bne, h]

theorem isDocument_of (kept : Kept) {parts : List (String × List (String × Field))}
    (h : IsDocument parts) : IsDocument (kept.of parts) where
  distinct := by
    have hnames : (kept.of parts).map Prod.fst =
        (parts.filter fun p => kept.part p.1).map Prod.fst := by
      rw [of, List.map_map]
      rfl
    rw [hnames]
    exact h.distinct.sublist (List.filter_sublist.map _)
  named q hq := by
    obtain ⟨p, hp, rfl⟩ := List.mem_map.mp hq
    exact h.named p (List.mem_filter.mp hp).1
  sections q hq := by
    obtain ⟨p, hp, rfl⟩ := List.mem_map.mp hq
    have hsection := h.sections p (List.mem_filter.mp hp).1
    exact {
      distinct := hsection.distinct.sublist (List.filter_sublist.map _)
      named := fun f hf => hsection.named f (List.mem_filter.mp hf).1
      fits := fun f hf => hsection.fits f (List.mem_filter.mp hf).1 }

/-- Rows say about the fields of a section what is kept of it. -/
def Tells (kept : Kept) (part : String) (fields : List (String × Field)) (rows : Rows) : Prop :=
  ∀ f ∈ fields, rows.lookup f.1 = if kept.has part f.1 then some f.2.item else none

theorem lookup_map_of_mem {α β : Type} {l : List (String × α)} (h : (l.map Prod.fst).Nodup)
    (g : String × α → β) {p : String × α} (hp : p ∈ l) :
    (l.map fun q => (q.1, g q)).lookup p.1 = some (g p) := by
  induction l with
  | nil => cases hp
  | cons q l ih =>
    obtain ⟨hq, hl⟩ := List.nodup_cons.mp h
    rcases List.mem_cons.mp hp with rfl | hp
    · exact List.lookup_cons_self
    · have hne : p.1 ≠ q.1 := fun he => hq (he ▸ List.mem_map_of_mem hp)
      rw [List.map_cons, List.lookup_cons, beq_false_of_ne hne]
      exact ih hl hp

theorem not_mem_filter {α : Type} {keep : String → Bool} {key : String} (h : keep key = false)
    (l : List (String × α)) : key ∉ (l.filter fun q => keep q.1).map Prod.fst := by
  rintro hkey
  obtain ⟨q, hq, rfl⟩ := List.mem_map.mp hkey
  rw [(List.mem_filter.mp hq).2] at h
  cases h

theorem map_fst_fieldRows (fields : List (String × Field)) :
    (fieldRows fields).map Prod.fst = fields.map Prod.fst := by
  rw [fieldRows, List.map_map]
  rfl

theorem tells_fieldRows {kept : Kept} {part : String} {fields : List (String × Field)}
    (hpart : kept.part part = true) (h : (fields.map Prod.fst).Nodup) :
    kept.Tells part fields (fieldRows (fields.filter fun f => kept.field part f.1)) := by
  intro f hf
  rw [has, hpart, Bool.true_and]
  cases hkept : kept.field part f.1 with
  | true =>
    exact lookup_map_of_mem (h.sublist (List.filter_sublist.map _)) (fun f => f.2.item)
      (List.mem_filter.mpr ⟨hf, hkept⟩)
  | false =>
    refine lookup_eq_none_of_not_mem ?_
    rw [map_fst_fieldRows]
    exact not_mem_filter hkept fields

/-- **What is kept of a document says about each section what is kept of it**, also when the
section is left out. -/
theorem find?_documentRows (kept : Kept) {parts : List (String × List (String × Field))}
    (h : IsDocument parts) {p : String × List (String × Field)} (hp : p ∈ parts) :
    ∃ rows, Section.find? (documentRows (kept.of parts)) p.1 = some (.named rows) ∧
      kept.Tells p.1 p.2 rows := by
  have hrows : documentRows (kept.of parts) = (parts.filter fun p => kept.part p.1).map fun p =>
      (p.1, .table .header (fieldRows (p.2.filter fun f => kept.field p.1 f.1))) := by
    rw [documentRows, of, List.map_map]
    rfl
  cases hpart : kept.part p.1 with
  | true =>
    refine ⟨_, ?_, tells_fieldRows hpart (h.sections p hp).distinct⟩
    have hlookup := lookup_map_of_mem (h.distinct.sublist (List.filter_sublist.map _))
      (fun p => Item.table .header (fieldRows (p.2.filter fun f => kept.field p.1 f.1)))
      (List.mem_filter.mpr ⟨hp, hpart⟩ : p ∈ parts.filter fun p => kept.part p.1)
    rw [Section.find?, hrows, hlookup]
    rfl
  | false =>
    refine ⟨[], ?_, fun f _ => ?_⟩
    · have hlookup : (documentRows (kept.of parts)).lookup p.1 = none := by
        refine lookup_eq_none_of_not_mem ?_
        rw [hrows, List.map_map]
        exact not_mem_filter hpart parts
      rw [Section.find?, hlookup]
    · rw [has, hpart, Bool.false_and]
      rfl

/-! ## The sections -/

theorem text?_of_lookup {kept : Kept} {part name said : String} {rows : Rows}
    (h : rows.lookup name = if kept.has part name then some (.text said) else none)
    (place : Nat) (usual : String) :
    (Section.named rows).text? place name usual = some (kept.value part name said usual) := by
  rw [Section.text?, Section.field?, h, value]
  cases kept.has part name with
  | true => rfl
  | false => rfl

theorem switch?_of_lookup {kept : Kept} {part name : String} {said : Bool} {rows : Rows}
    (h : rows.lookup name = if kept.has part name then some (.boolean said) else none)
    (place : Nat) (usual : Bool) :
    (Section.named rows).switch? place name usual = some (kept.value part name said usual) := by
  rw [Section.switch?, Section.field?, h, value]
  cases kept.has part name with
  | true => rfl
  | false => rfl

theorem natural?_of_lookup {kept : Kept} {part name : String} {said bound : Nat} {rows : Rows}
    (h : rows.lookup name = if kept.has part name then some (.integer (.ofNat said)) else none)
    (hbound : said < bound) (place usual : Nat) :
    (Section.named rows).natural? place name bound usual =
      some (kept.value part name said usual) := by
  rw [Section.natural?, Section.field?, h, value]
  cases kept.has part name with
  | true => exact if_pos hbound
  | false => rfl

/-- A value is taken over as it is, or it is the usual one, in any form. -/
theorem map_value {α β : Type} (g : α → β) (kept : Kept) (part field : String)
    (said usual : α) :
    g (kept.value part field said usual) = kept.value part field (g said) (g usual) :=
  apply_ite g _ said usual

variable {kept : Kept} {rows : Rows}

theorem serverSettings_kept (s : ServerSettings)
    (h : kept.Tells "server" [("host", .text s.host), ("port", .natural s.port.toNat)] rows) :
    ServerSettings.ofSection? (.named rows) = some {
      host := kept.value "server" "host" s.host usual.server.host
      port := kept.value "server" "port" s.port usual.server.port } := by
  simp only [Tells, List.forall_mem_cons, Field.item] at h
  obtain ⟨host, port, -⟩ := h
  simp only [ServerSettings.ofSection?, text?_of_lookup host, natural?_of_lookup port (UInt16.toNat_lt _),
    Option.bind_eq_bind, Option.bind_some, map_value UInt16.ofNat, UInt16.ofNat_toNat]
  rfl

theorem loggingSettings_kept (s : LoggingSettings)
    (h : kept.Tells "logging" [("level", .text s.level), ("format", .text s.format)] rows) :
    LoggingSettings.ofSection? (.named rows) = some {
      level := kept.value "logging" "level" s.level usual.logging.level
      format := kept.value "logging" "format" s.format usual.logging.format } := by
  simp only [Tells, List.forall_mem_cons, Field.item] at h
  obtain ⟨level, format, -⟩ := h
  simp only [LoggingSettings.ofSection?, text?_of_lookup level, text?_of_lookup format, Option.bind_eq_bind,
    Option.bind_some]
  rfl

theorem storeSettings_kept (s : StoreSettings)
    (h : kept.Tells "store"
      [("backend", .text s.backend), ("url", .text s.url), ("prefix", .text s.root),
        ("poll_interval_ms", .natural s.pollMillis.toNat),
        ("connect_retry_attempts", .natural s.tries.toNat),
        ("connect_retry_delay_ms", .natural s.retryMillis.toNat)] rows) :
    StoreSettings.ofSection? (.named rows) = some {
      backend := kept.value "store" "backend" s.backend usual.store.backend
      url := kept.value "store" "url" s.url usual.store.url
      root := kept.value "store" "prefix" s.root usual.store.root
      pollMillis := kept.value "store" "poll_interval_ms" s.pollMillis usual.store.pollMillis
      tries := kept.value "store" "connect_retry_attempts" s.tries usual.store.tries
      retryMillis :=
        kept.value "store" "connect_retry_delay_ms" s.retryMillis usual.store.retryMillis } := by
  simp only [Tells, List.forall_mem_cons, Field.item] at h
  obtain ⟨backend, url, root, poll, tries, retry, -⟩ := h
  simp only [StoreSettings.ofSection?, text?_of_lookup backend, text?_of_lookup url, text?_of_lookup root,
    natural?_of_lookup poll (UInt64.toNat_lt _), natural?_of_lookup tries (UInt32.toNat_lt _),
    natural?_of_lookup retry (UInt64.toNat_lt _), Option.bind_eq_bind, Option.bind_some,
    map_value UInt64.ofNat, map_value UInt32.ofNat, UInt64.ofNat_toNat, UInt32.ofNat_toNat]
  rfl

theorem auditSettings_kept (s : AuditSettings)
    (h : kept.Tells "waf" [("output", .text s.outputs), ("output_format", .text s.format)] rows) :
    AuditSettings.ofSection? (.named rows) = some {
      outputs := kept.value "waf" "output" s.outputs usual.audit.outputs
      format := kept.value "waf" "output_format" s.format usual.audit.format } := by
  simp only [Tells, List.forall_mem_cons, Field.item] at h
  obtain ⟨outputs, format, -⟩ := h
  simp only [AuditSettings.ofSection?, text?_of_lookup outputs, text?_of_lookup format, Option.bind_eq_bind,
    Option.bind_some]
  rfl

theorem countrySettings_kept (s : CountrySettings)
    (h : kept.Tells "geoip"
      [("enable", .switch s.enable), ("fallback_path", .text s.fallbackPath),
        ("remote_url", .text s.remoteUrl),
        ("download_timeout_secs", .natural s.timeout.toNat)] rows) :
    CountrySettings.ofSection? (.named rows) = some {
      enable := kept.value "geoip" "enable" s.enable usual.countries.enable
      fallbackPath := kept.value "geoip" "fallback_path" s.fallbackPath usual.countries.fallbackPath
      remoteUrl := kept.value "geoip" "remote_url" s.remoteUrl usual.countries.remoteUrl
      timeout :=
        kept.value "geoip" "download_timeout_secs" s.timeout usual.countries.timeout } := by
  simp only [Tells, List.forall_mem_cons, Field.item] at h
  obtain ⟨enable, path, url, timeout, -⟩ := h
  simp only [CountrySettings.ofSection?, switch?_of_lookup enable, text?_of_lookup path, text?_of_lookup url,
    natural?_of_lookup timeout (UInt64.toNat_lt _), Option.bind_eq_bind, Option.bind_some,
    map_value UInt64.ofNat, UInt64.ofNat_toNat]
  rfl

theorem ofRows?_kept (s : Settings)
    (h : ∀ p ∈ s.sections, ∃ found, Section.find? rows p.1 = some (.named found) ∧
      kept.Tells p.1 p.2 found) : ofRows? rows = some (kept.reset s) := by
  simp only [sections, List.forall_mem_cons] at h
  obtain ⟨⟨server, hserver, tserver⟩, ⟨logging, hlogging, tlogging⟩, ⟨store, hstore, tstore⟩,
    ⟨audit, haudit, taudit⟩, ⟨countries, hcountries, tcountries⟩, -⟩ := h
  simp only [ofRows?_eq, hserver, hlogging, hstore, haudit, hcountries, Option.bind_eq_bind,
    Option.bind_some, serverSettings_kept s.server tserver, loggingSettings_kept s.logging tlogging,
    storeSettings_kept s.store tstore, auditSettings_kept s.audit taudit,
    countrySettings_kept s.countries tcountries]
  rfl

end Kept

/-! ## Loading what was saved -/

/-- **What is kept of the document of settings stands for the settings**, with the usual value for
every field that is left out. -/
theorem parse?_kept {s : Settings} (h : s.Writable) (kept : Kept) :
    parse? (String.ofList (documentOf (kept.of s.sections))) = some (kept.reset s) := by
  have hdocument := isDocument_sections h
  rw [parse?, read_documentOf (kept.isDocument_of hdocument), Option.bind_some]
  exact Kept.ofRows?_kept s fun p hp => kept.find?_documentRows hdocument hp

theorem load_of_readText {d : Disk} {path : String} {s : Settings} (h : s.Writable) (kept : Kept)
    (hread : d.readText path = .ok (String.ofList (documentOf (kept.of s.sections)))) :
    load d path = .ok (kept.reset s) := by
  rw [load, hread]
  simp only [parse?_kept h kept]

theorem readText_of_load {d : Disk} {path : String} {s : Settings} (h : load d path = .ok s) :
    ∃ text, d.readText path = .ok text ∧ parse? text = some s := by
  rw [load] at h
  split at h
  · cases h
  · next text htext =>
    split at h
    · next found hfound =>
      cases h
      exact ⟨text, htext, hfound⟩
    · cases h

theorem save_of_writable {s : Settings} (h : s.Writable) {d : Disk} {path : String}
    {p : Place} (hp : d.writable path = .ok p) :
    ∃ e, save d path s = .ok e ∧ e.readText path = .ok (String.ofList (documentOf s.sections)) ∧
      load e path = .ok s := by
  have hwrite := Disk.write_of_writable hp (Text.Utf8.encode (documentOf s.sections))
  have hread := Disk.readText_of_write hwrite
  refine ⟨_, ?_, hread, ?_⟩
  · rw [save, render?_of_writable h]
    simp only [String.toList_ofList, hwrite]
  · have hload := load_of_readText h Kept.all (by rw [Kept.of_all]; exact hread)
    rwa [Kept.reset_all] at hload

/-- **Settings that were loaded are saved and loaded again without a change.** They are saved at
the path they came from and wherever else a file can be written, with the document of all their
fields; from what is kept of that document they are loaded with the usual value for exactly the
fields that are left out, and a section that is left out is as one without fields. -/
theorem loaded_settings_round_trip {d : Disk} {path : String} {s : Settings}
    (h : load d path = .ok s) :
    (∃ e, save d path s = .ok e ∧ load e path = .ok s) ∧
    (∀ (e : Disk) (target : String) (p : Place), e.writable target = .ok p →
      ∃ after, save e target s = .ok after ∧
        after.readText target = .ok (String.ofList (documentOf s.sections)) ∧
        load after target = .ok s) ∧
    (∀ (kept : Kept) (e : Disk) (target : String),
      e.readText target = .ok (String.ofList (documentOf (kept.of s.sections))) →
        load e target = .ok (kept.reset s)) ∧
    ∀ (kept : Kept) (name : String) (e f : Disk) (target other : String),
      e.readText target =
          .ok (String.ofList (documentOf ((kept.without name).of s.sections))) →
        f.readText other =
            .ok (String.ofList (documentOf ((kept.emptied name).of s.sections))) →
          load e target = load f other := by
  obtain ⟨text, htext, hparse⟩ := readText_of_load h
  have hs := writable_of_parse? hparse
  refine ⟨?_, ?_, ?_, ?_⟩
  · obtain ⟨bytes, hbytes⟩ := Disk.read_of_readText htext
    obtain ⟨p, hp⟩ := Disk.exists_writable_of_read hbytes
    obtain ⟨e, hsave, -, hload⟩ := save_of_writable hs hp
    exact ⟨e, hsave, hload⟩
  · intro e target p hp
    exact save_of_writable hs hp
  · intro kept e target hread
    exact load_of_readText hs kept hread
  · intro kept name e f target other hwithout hemptied
    rw [load_of_readText hs _ hwithout, load_of_readText hs _ hemptied,
      Kept.reset_congr (kept.has_emptied name) s]

/-- A file that sets a port and an output with quotes in it. -/
def portFile : Disk :=
  Disk.empty.place "conf/waf.toml"
    (Text.Utf8.encode "[server]\nport = 8080\n\n[waf]\noutput = 'all:\"log\"'\n".toList)

theorem portFile_round_trip :
    ∃ s, load portFile "conf/waf.toml" = .ok s ∧ s.server.port = 8080 ∧
      s.audit.outputs = "all:\"log\"" ∧
      ∃ e, save portFile "conf/waf.toml" s = .ok e ∧ load e "conf/waf.toml" = .ok s := by
  have h : (load portFile "conf/waf.toml").toOption = some { usual with
      server := { usual.server with port := 8080 }
      audit := { usual.audit with outputs := "all:\"log\"" } } := by
    decide +kernel
  cases hs : load portFile "conf/waf.toml" with
  | error fault =>
    rw [hs] at h
    cases h
  | ok s =>
    rw [hs] at h
    cases h
    exact ⟨_, rfl, rfl, rfl, (loaded_settings_round_trip hs).1⟩

end Settings

end Firewall
