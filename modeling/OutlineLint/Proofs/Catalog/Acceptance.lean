import Mathlib.Data.List.Nodup
import Mathlib.Tactic.Lemma
import OutlineLint.Catalog.Load

/-!
# Accepted catalogs

A text gives a catalog if it is a sheet without a problem (`parse_eq_ok_iff`). No two entries of
such a catalog have one kind or one file name (`nodup_of_parse`), since a repetition is a problem
(`repeatedIn_eq_nil_iff`).
-/

namespace OutlineLint.Catalog

/-! ### Repeated kinds and file names -/

/-- Entries repeat nothing if their kinds and their file names are distinct, and none is among those
given before. -/
lemma repeatedIn_eq_nil_iff {kinds : List ArtifactKind} {names : List String}
    {entries : List Entry} :
    repeatedIn kinds names entries = [] ↔
      ((entries.map (·.kind)).Nodup ∧ ∀ entry ∈ entries, entry.kind ∉ kinds) ∧
        (entries.map (·.fileName)).Nodup ∧ ∀ entry ∈ entries, entry.fileName ∉ names := by
  induction entries generalizing kinds names with
  | nil => simp [repeatedIn]
  | cons entry rest ih =>
    have hkind : (if entry.kind ∈ kinds then [Problem.repeatedKind entry.kind] else []) = [] ↔
        entry.kind ∉ kinds := by simp
    have hname : (if entry.fileName ∈ names then [Problem.repeatedFileName entry.fileName]
        else []) = [] ↔ entry.fileName ∉ names := by simp
    rw [repeatedIn, List.append_eq_nil_iff, List.append_eq_nil_iff, hkind, hname, ih]
    simp only [List.map_cons, List.nodup_cons, List.mem_map, List.mem_cons, not_exists, not_and,
      not_or, forall_eq_or_imp]
    constructor
    · rintro ⟨⟨hkinds, hnames⟩, ⟨hnodup, hrest⟩, hnodup', hrest'⟩
      exact ⟨⟨⟨fun x hx => (hrest x hx).1, hnodup⟩, hkinds, fun x hx => (hrest x hx).2⟩,
        ⟨fun x hx => (hrest' x hx).1, hnodup'⟩, hnames, fun x hx => (hrest' x hx).2⟩
    · rintro ⟨⟨⟨hfirst, hnodup⟩, hkinds, hrest⟩, ⟨hfirst', hnodup'⟩, hnames, hrest'⟩
      exact ⟨⟨hkinds, hnames⟩, ⟨hnodup, fun x hx => ⟨hfirst x hx, hrest x hx⟩⟩, hnodup',
        fun x hx => ⟨hfirst' x hx, hrest' x hx⟩⟩

/-! ### Sheets without a problem -/

/-- A sheet gives the catalog of its entries if it has no problem. -/
lemma Sheet.catalog_eq_ok_iff {sheet : Sheet} {catalog : Catalog} :
    sheet.catalog = .ok catalog ↔
      sheet.problems = [] ∧ sheet.outputRoot? = some catalog.outputRoot ∧
        sheet.standardsDoc? = some catalog.standardsDoc ∧ sheet.entries = catalog.entries := by
  rw [Sheet.catalog]
  constructor
  · intro h
    split at h
    · next hproblems houtputRoot hstandardsDoc =>
      obtain rfl := Except.ok.inj h
      exact ⟨hproblems, houtputRoot, hstandardsDoc, rfl⟩
    · contradiction
  · rintro ⟨hproblems, houtputRoot, hstandardsDoc, hentries⟩
    rw [hproblems, houtputRoot, hstandardsDoc, hentries]

lemma Sheet.nodup_of_problems_eq_nil {sheet : Sheet} (h : sheet.problems = []) :
    (sheet.entries.map (·.kind)).Nodup ∧ (sheet.entries.map (·.fileName)).Nodup := by
  simp only [Sheet.problems, List.append_eq_nil_iff] at h
  obtain ⟨⟨⟨-, hrepeated⟩, -⟩, -⟩ := h
  obtain ⟨⟨hkinds, -⟩, hnames, -⟩ := repeatedIn_eq_nil_iff.mp hrepeated
  exact ⟨hkinds, hnames⟩

/-! ### Texts that give a catalog -/

lemma parse_eq_ok_iff {text : String} {catalog : Catalog} :
    parse text = .ok catalog ↔
      ∃ sheet, Sheet.parse text = .ok sheet ∧ sheet.catalog = .ok catalog := by
  rw [parse]
  cases Sheet.parse text with
  | error error => simp
  | ok sheet => cases hcatalog : sheet.catalog <;> simp [Except.mapError, hcatalog]

/-- The kinds of an accepted catalog are distinct, and so are its file names. -/
lemma nodup_of_parse {text : String} {catalog : Catalog} (h : parse text = .ok catalog) :
    (catalog.entries.map (·.kind)).Nodup ∧ (catalog.entries.map (·.fileName)).Nodup := by
  obtain ⟨sheet, -, hcatalog⟩ := parse_eq_ok_iff.mp h
  obtain ⟨hproblems, -, -, hentries⟩ := Sheet.catalog_eq_ok_iff.mp hcatalog
  rw [← hentries]
  exact Sheet.nodup_of_problems_eq_nil hproblems

end OutlineLint.Catalog
