import Mathlib.Data.List.Forall2
import OutlineLint.Proofs.Catalog.Violations

/-!
# Well-formed sheets and what they give

Whether a sheet is accepted is told by its values alone (`Sheet.WellFormed`), and an accepted sheet
gives the catalog that has one entry for each row, in the order of the rows, with the values of the
row without the blanks around them (`Sheet.Describes`).
-/

namespace OutlineLint

/-! ### Kinds -/

namespace ArtifactKind

/-- The name is in lower-case kebab-case: letters, digits and hyphens, with no hyphen at either
end. -/
structure IsName (name : String) : Prop where
  ne_empty : name ≠ ""
  letters : ∀ c ∈ name.toList, ('a' ≤ c ∧ c ≤ 'z') ∨ ('0' ≤ c ∧ c ≤ '9') ∨ c = '-'
  head_ne : name.toList.head? ≠ some '-'
  last_ne : name.toList.getLast? ≠ some '-'

lemma isKebabChar_iff {c : Char} :
    isKebabChar c = true ↔ ('a' ≤ c ∧ c ≤ 'z') ∨ ('0' ≤ c ∧ c ≤ '9') ∨ c = '-' := by
  have hlower : c.isLower = true ↔ 'a' ≤ c ∧ c ≤ 'z' := by
    change (decide ('a' ≤ c) && decide (c ≤ 'z')) = true ↔ _
    rw [Bool.and_eq_true, decide_eq_true_eq, decide_eq_true_eq]
  have hdigit : c.isDigit = true ↔ '0' ≤ c ∧ c ≤ '9' := by
    change (decide ('0' ≤ c) && decide (c ≤ '9')) = true ↔ _
    rw [Bool.and_eq_true, decide_eq_true_eq, decide_eq_true_eq]
  rw [isKebabChar, Bool.or_eq_true, Bool.or_eq_true, hlower, hdigit, beq_iff_eq, or_assoc]

lemma isKebab_iff {name : String} : isKebab name.toList = true ↔ IsName name := by
  have hempty : name.toList ≠ [] ↔ name ≠ "" := by simp
  simp only [isKebab, Bool.and_eq_true, Bool.not_eq_true', List.isEmpty_eq_false_iff, hempty,
    bne_iff_ne, List.all_eq_true, isKebabChar_iff]
  constructor
  · rintro ⟨⟨⟨hne, hhead⟩, hlast⟩, hletters⟩
    exact ⟨hne, hletters, hhead, hlast⟩
  · rintro ⟨hne, hletters, hhead, hlast⟩
    exact ⟨⟨⟨hne, hhead⟩, hlast⟩, hletters⟩

lemma parse_eq_ok_iff {text : String} {kind : ArtifactKind} :
    parse text = .ok kind ↔ IsName (Text.trim text) ∧ kind.name = Text.trim text := by
  rw [parse]
  constructor
  · intro h
    split at h
    · cases h
    · split at h
      · next hkebab =>
        cases h
        exact ⟨isKebab_iff.mp hkebab, rfl⟩
      · cases h
  · rintro ⟨hname, heq⟩
    have hne : ¬ (Text.trim text).isEmpty = true := by simpa using hname.ne_empty
    obtain ⟨name, hkind⟩ := kind
    obtain rfl : name = Text.trim text := heq
    rw [if_neg hne, dif_pos (isKebab_iff.mpr hname)]

lemma name_injective : Function.Injective ArtifactKind.name := by
  rintro ⟨name, _⟩ ⟨_, _⟩ rfl
  rfl

end ArtifactKind

/-! ### Schemas -/

namespace Schema

lemma requiredFault?_eq_none_iff {seen hs : List String} :
    requiredFault? seen hs = none ↔
      (∀ h ∈ hs, Text.trim h ≠ "") ∧ hs.Nodup ∧ ∀ h ∈ hs, h ∉ seen := by
  refine ⟨requiredFault?_eq_none, ?_⟩
  induction hs generalizing seen with
  | nil => intro _; rfl
  | cons h rest ih =>
    rintro ⟨hblank, hnodup, hseen⟩
    obtain ⟨hh, hrest⟩ := List.forall_mem_cons.mp hblank
    obtain ⟨hnotMem, hnodup⟩ := List.nodup_cons.mp hnodup
    obtain ⟨hunseen, hseen⟩ := List.forall_mem_cons.mp hseen
    rw [requiredFault?, Text.isAllBlank_eq_false_iff.mpr hh, if_neg Bool.false_ne_true, if_neg hunseen]
    refine ih ⟨hrest, hnodup, fun x hx => ?_⟩
    rw [List.mem_cons, not_or]
    exact ⟨ne_of_mem_of_not_mem hx hnotMem, hseen x hx⟩

lemma optionalFault?_eq_none_iff {required seen hs : List String} :
    optionalFault? required seen hs = none ↔
      (∀ h ∈ hs, Text.trim h ≠ "") ∧ hs.Nodup ∧ (∀ h ∈ hs, h ∉ required) ∧
        ∀ h ∈ hs, h ∉ seen := by
  refine ⟨optionalFault?_eq_none, ?_⟩
  induction hs generalizing seen with
  | nil => intro _; rfl
  | cons h rest ih =>
    rintro ⟨hblank, hnodup, hdisjoint, hseen⟩
    obtain ⟨hh, hrest⟩ := List.forall_mem_cons.mp hblank
    obtain ⟨hnotMem, hnodup⟩ := List.nodup_cons.mp hnodup
    obtain ⟨hrequired, hdisjoint⟩ := List.forall_mem_cons.mp hdisjoint
    obtain ⟨hunseen, hseen⟩ := List.forall_mem_cons.mp hseen
    rw [optionalFault?, Text.isAllBlank_eq_false_iff.mpr hh, if_neg Bool.false_ne_true, if_neg hrequired, if_neg hunseen]
    refine ih ⟨hrest, hnodup, hdisjoint, fun x hx => ?_⟩
    rw [List.mem_cons, not_or]
    exact ⟨ne_of_mem_of_not_mem hx hnotMem, hseen x hx⟩

/-- Lists are a schema's if and only if there is no fault in them. -/
lemma fault?_eq_none_iff {required optional : List String} :
    fault? required optional = none ↔ Valid required optional := by
  refine ⟨valid_of_fault?_eq_none, fun h => ?_⟩
  have hne : ¬ required.isEmpty = true := by simpa using h.required_ne_nil
  rw [fault?, if_neg hne, Option.or_eq_none_iff, requiredFault?_eq_none_iff,
    optionalFault?_eq_none_iff]
  exact ⟨⟨h.required_not_blank, h.required_nodup, by simp⟩, h.optional_not_blank,
    h.optional_nodup, h.disjoint, by simp⟩

lemma build_eq_ok_iff {required optional : List String} {schema : Schema} :
    build required optional = .ok schema ↔
      Valid required optional ∧ schema.required = required ∧ schema.optional = optional := by
  rw [build]
  constructor
  · intro h
    split at h
    · contradiction
    · next hfault =>
      obtain rfl := Except.ok.inj h
      exact ⟨valid_of_fault?_eq_none hfault, rfl, rfl⟩
  · rintro ⟨hvalid, hrequired, hoptional⟩
    split
    · next error hfault =>
      rw [fault?_eq_none_iff.mpr hvalid] at hfault
      contradiction
    · obtain ⟨required', optional', _⟩ := schema
      obtain rfl : required' = required := hrequired
      obtain rfl : optional' = optional := hoptional
      rfl

end Schema

namespace Catalog

/-! ### Rows -/

lemma path?_eq_some_iff {text : String} {path : Path} :
    path? text = some path ↔ Text.trim text ≠ "" ∧ path = .ofString (Text.trim text) := by
  rw [path?]
  by_cases hempty : Text.trim text = ""
  · simp [hempty]
  · simp [hempty, eq_comm (a := path)]

lemma isBareName_iff {name : String} :
    isBareName name = true ↔ name ≠ "" ∧ '/' ∉ name.toList := by
  simp [isBareName]

namespace Row

/-- Each value of the row can stand in a catalog. -/
structure WellFormed (row : Row) : Prop where
  kind : ArtifactKind.IsName (Text.trim row.kind)
  fileName_ne_empty : Text.trim row.fileName ≠ ""
  slash_not_mem_fileName : '/' ∉ (Text.trim row.fileName).toList
  template_ne_empty : Text.trim row.template ≠ ""
  agent_ne_empty : ∀ agent, row.agent = some agent → Text.trim agent ≠ ""
  headings : Schema.Valid row.required row.optional

/-- The entry has the values of the row without the blanks around them, and its headings as they
are. -/
structure Describes (row : Row) (entry : Entry) : Prop where
  kind : entry.kind.name = Text.trim row.kind
  fileName : entry.fileName = Text.trim row.fileName
  template : entry.template = .ofString (Text.trim row.template)
  agent : entry.agent = row.agent.map fun agent => .ofString (Text.trim agent)
  required : entry.schema.required = row.required
  optional : entry.schema.optional = row.optional

/-- The agents agree if nothing blank is written for one. -/
lemma map_some_eq_map_path?_iff {agent : Option Path} {written : Option String} :
    agent.map some = written.map path? ↔
      (∀ text, written = some text → Text.trim text ≠ "") ∧
        agent = written.map fun text => .ofString (Text.trim text) := by
  cases written with
  | none => simp
  | some text =>
    cases agent with
    | none => simp
    | some path => simp [eq_comm (b := path? text), path?_eq_some_iff]

lemma gives_iff {row : Row} {entry : Entry} :
    row.Gives entry ↔ row.WellFormed ∧ row.Describes entry := by
  constructor
  · intro h
    obtain ⟨hkind, hkindName⟩ := ArtifactKind.parse_eq_ok_iff.mp h.kind
    obtain ⟨hname, hslash⟩ := isBareName_iff.mp h.isBareName
    obtain ⟨htemplate, htemplatePath⟩ := path?_eq_some_iff.mp h.template
    obtain ⟨hagent, hagentPath⟩ := map_some_eq_map_path?_iff.mp h.agent
    obtain ⟨hvalid, hrequired, hoptional⟩ := Schema.build_eq_ok_iff.mp h.schema
    exact ⟨⟨hkind, hname, hslash, htemplate, hagent, hvalid⟩,
      ⟨hkindName, h.fileName, htemplatePath, hagentPath, hrequired, hoptional⟩⟩
  · rintro ⟨hwell, hdescribes⟩
    exact {
      kind := ArtifactKind.parse_eq_ok_iff.mpr ⟨hwell.kind, hdescribes.kind⟩
      fileName := hdescribes.fileName
      isBareName := isBareName_iff.mpr ⟨hwell.fileName_ne_empty, hwell.slash_not_mem_fileName⟩
      template := path?_eq_some_iff.mpr ⟨hwell.template_ne_empty, hdescribes.template⟩
      agent := map_some_eq_map_path?_iff.mpr ⟨hwell.agent_ne_empty, hdescribes.agent⟩
      schema := Schema.build_eq_ok_iff.mpr
        ⟨hwell.headings, hdescribes.required, hdescribes.optional⟩ }

/-- A well-formed row describes an entry. -/
lemma WellFormed.exists_describes {row : Row} (h : row.WellFormed) :
    ∃ entry, row.Describes entry :=
  ⟨⟨⟨Text.trim row.kind, ArtifactKind.isKebab_iff.mpr h.kind⟩, Text.trim row.fileName,
    .ofString (Text.trim row.template), row.agent.map fun agent => .ofString (Text.trim agent),
    ⟨row.required, row.optional, h.headings⟩⟩, ⟨rfl, rfl, rfl, rfl, rfl, rfl⟩⟩

lemma faults_eq_nil_iff_wellFormed {row : Row} : row.faults = [] ↔ row.WellFormed := by
  rw [faults_eq_nil_iff]
  constructor
  · rintro ⟨entry, h⟩
    exact (gives_iff.mp h).1
  · intro h
    obtain ⟨entry, hdescribes⟩ := h.exists_describes
    exact ⟨entry, gives_iff.mpr ⟨h, hdescribes⟩⟩

/-- Well-formed rows have one entry each. -/
lemma forall₂_describes_filterMap {rows : List Row} (h : ∀ row ∈ rows, row.WellFormed) :
    List.Forall₂ Describes rows (rows.filterMap entry?) := by
  induction rows with
  | nil => exact .nil
  | cons row rest ih =>
    obtain ⟨hrow, hrest⟩ := List.forall_mem_cons.mp h
    obtain ⟨entry, hdescribes⟩ := hrow.exists_describes
    rw [List.filterMap_cons_some (entry?_eq_some_iff.mpr (gives_iff.mpr ⟨hrow, hdescribes⟩))]
    exact .cons hdescribes (ih hrest)

/-- A value that is the same in a row and in its entry is the same in all rows and their entries. -/
lemma map_eq_map_of_describes {α : Type} {f : Entry → α} {g : Row → α}
    (hfg : ∀ {row entry}, row.Describes entry → f entry = g row) {rows : List Row}
    {entries : List Entry} (h : List.Forall₂ Describes rows entries) :
    entries.map f = rows.map g := by
  induction h with
  | nil => rfl
  | cons hdescribes _ ih => rw [List.map_cons, List.map_cons, hfg hdescribes, ih]

end Row

/-! ### Sheets -/

namespace Sheet

/-- The sheet has rows, all of them are well-formed, no two have one kind or one file name, and the
output directory and the standards document are named. -/
structure WellFormed (sheet : Sheet) : Prop where
  rows_ne_nil : sheet.rows ≠ []
  rows : ∀ row ∈ sheet.rows, row.WellFormed
  kinds_nodup : (sheet.rows.map fun row => Text.trim row.kind).Nodup
  fileNames_nodup : (sheet.rows.map fun row => Text.trim row.fileName).Nodup
  outputRoot_ne_empty : Text.trim (sheet.outputRoot.getD defaultOutputRoot) ≠ ""
  standardsDoc_ne_empty : Text.trim (sheet.standardsDoc.getD defaultStandardsDoc) ≠ ""

/-- The catalog has the entries that the rows describe, in their order, and the paths that the sheet
names. -/
structure Describes (sheet : Sheet) (catalog : Catalog) : Prop where
  entries : List.Forall₂ Row.Describes sheet.rows catalog.entries
  outputRoot :
    catalog.outputRoot = .ofString (Text.trim (sheet.outputRoot.getD defaultOutputRoot))
  standardsDoc :
    catalog.standardsDoc = .ofString (Text.trim (sheet.standardsDoc.getD defaultStandardsDoc))

lemma rowProblems_eq_nil_iff {sheet : Sheet} :
    sheet.rowProblems = [] ↔ ∀ row ∈ sheet.rows, row.WellFormed := by
  simp only [rowProblems, List.flatMap_eq_nil_iff, List.map_eq_nil_iff,
    Row.faults_eq_nil_iff_wellFormed]
  constructor
  · intro h row hrow
    obtain ⟨index, hmem⟩ := exists_mem_zipIdx hrow
    exact h (row, index) hmem
  · rintro h ⟨row, index⟩ hmem
    exact h row (List.fst_mem_of_mem_zipIdx hmem)

/-- The entries of well-formed rows repeat nothing if and only if the rows do not. -/
lemma repeatedIn_entries_eq_nil_iff {sheet : Sheet} (h : ∀ row ∈ sheet.rows, row.WellFormed) :
    repeatedIn [] [] sheet.entries = [] ↔
      (sheet.rows.map fun row => Text.trim row.kind).Nodup ∧
        (sheet.rows.map fun row => Text.trim row.fileName).Nodup := by
  have hdescribes := Row.forall₂_describes_filterMap h
  rw [← Row.map_eq_map_of_describes Row.Describes.kind hdescribes,
    ← Row.map_eq_map_of_describes Row.Describes.fileName hdescribes, repeatedIn_eq_nil_iff]
  have hkinds : (sheet.entries.map fun entry => entry.kind.name).Nodup ↔
      (sheet.entries.map (·.kind)).Nodup := by
    rw [← List.nodup_map_iff ArtifactKind.name_injective, List.map_map]
    rfl
  simp only [entries] at hkinds ⊢
  simp [hkinds]

/-- A sheet has no problem if and only if it is well-formed. -/
lemma problems_eq_nil_iff {sheet : Sheet} : sheet.problems = [] ↔ sheet.WellFormed := by
  have hrows : (if sheet.rows.isEmpty then [Problem.noRows] else []) = [] ↔ sheet.rows ≠ [] := by
    simp
  have houtput : (if sheet.outputRoot?.isSome then [] else [Problem.outputRoot]) = [] ↔
      Text.trim (sheet.outputRoot.getD defaultOutputRoot) ≠ "" := by
    simp [outputRoot?, path?]
  have hstandards : (if sheet.standardsDoc?.isSome then [] else [Problem.standardsDoc]) = [] ↔
      Text.trim (sheet.standardsDoc.getD defaultStandardsDoc) ≠ "" := by
    simp [standardsDoc?, path?]
  rw [problems]
  simp only [List.append_eq_nil_iff, hrows, houtput, hstandards, rowProblems_eq_nil_iff]
  constructor
  · rintro ⟨⟨⟨⟨hne, hwell⟩, hrepeated⟩, houtput⟩, hstandards⟩
    obtain ⟨hkinds, hnames⟩ := (repeatedIn_entries_eq_nil_iff hwell).mp hrepeated
    exact ⟨hne, hwell, hkinds, hnames, houtput, hstandards⟩
  · intro h
    exact ⟨⟨⟨⟨h.rows_ne_nil, h.rows⟩,
      (repeatedIn_entries_eq_nil_iff h.rows).mpr ⟨h.kinds_nodup, h.fileNames_nodup⟩⟩,
      h.outputRoot_ne_empty⟩, h.standardsDoc_ne_empty⟩

lemma describes_of_catalog_eq_ok {sheet : Sheet} {catalog : Catalog}
    (h : sheet.catalog = .ok catalog) : sheet.Describes catalog := by
  obtain ⟨hproblems, houtput, hstandards, hentries⟩ := catalog_eq_ok_iff.mp h
  have hdescribes := Row.forall₂_describes_filterMap (problems_eq_nil_iff.mp hproblems).rows
  exact ⟨hentries ▸ hdescribes, (path?_eq_some_iff.mp houtput).2,
    (path?_eq_some_iff.mp hstandards).2⟩

lemma exists_catalog_of_wellFormed {sheet : Sheet} (h : sheet.WellFormed) :
    ∃ catalog, sheet.catalog = .ok catalog := by
  have houtput := path?_eq_some_iff.mpr ⟨h.outputRoot_ne_empty, rfl⟩
  have hstandards := path?_eq_some_iff.mpr ⟨h.standardsDoc_ne_empty, rfl⟩
  exact ⟨⟨_, _, sheet.entries⟩,
    catalog_eq_ok_iff.mpr ⟨problems_eq_nil_iff.mpr h, houtput, hstandards, rfl⟩⟩

/-- A sheet that gives no catalog has a problem. -/
lemma ne_nil_of_catalog_eq_error {sheet : Sheet} {problems : List Problem}
    (h : sheet.catalog = .error problems) : problems ≠ [] := by
  obtain rfl := eq_problems_of_catalog_eq_error h
  intro hnil
  obtain ⟨catalog, hcatalog⟩ := exists_catalog_of_wellFormed (problems_eq_nil_iff.mp hnil)
  rw [h] at hcatalog
  contradiction

end Sheet

/-! ### Texts -/

lemma parse_eq_of_sheet {text : String} {sheet : Sheet} (h : Sheet.parse text = .ok sheet) :
    parse text = sheet.catalog.mapError .invalid := by
  rw [parse, h]

/-- The text of a sheet gives a catalog if and only if the sheet is well-formed, and then it gives
the catalog that the sheet describes. In any other case at least one problem is listed. -/
theorem parse_eq_ok_iff_wellFormed {text : String} {sheet : Sheet}
    (h : Sheet.parse text = .ok sheet) :
    ((∃ catalog, parse text = .ok catalog) ↔ sheet.WellFormed) ∧
    (∀ catalog, parse text = .ok catalog → sheet.Describes catalog) ∧
    ∀ error, parse text = .error error →
      ∃ problems, error = .invalid problems ∧ problems ≠ [] := by
  rw [parse_eq_of_sheet h]
  cases hcatalog : sheet.catalog with
  | ok catalog =>
    have hproblems := (Sheet.catalog_eq_ok_iff.mp hcatalog).1
    refine ⟨⟨fun _ => Sheet.problems_eq_nil_iff.mp hproblems, fun _ => ⟨catalog, rfl⟩⟩, ?_, ?_⟩
    · rintro _ ⟨⟩
      exact Sheet.describes_of_catalog_eq_ok hcatalog
    · intro error herror
      contradiction
  | error problems =>
    have hne := Sheet.ne_nil_of_catalog_eq_error hcatalog
    refine ⟨⟨?_, fun hwell => ?_⟩, ?_, ?_⟩
    · rintro ⟨catalog, hok⟩
      contradiction
    · obtain rfl := Sheet.eq_problems_of_catalog_eq_error hcatalog
      exact absurd (Sheet.problems_eq_nil_iff.mpr hwell) hne
    · intro catalog hok
      contradiction
    · rintro _ ⟨⟩
      exact ⟨problems, rfl, hne⟩

/-- Blanks around values do not count, but those of headings do. -/
theorem parse_eq_ok_iff_wellFormed_blanks :
    let plan : Row :=
      ⟨" plan ", "plan.md ", "t.md", some " planner.md", ["## A", "## A "], ["## B"]⟩
    let raid : Row := ⟨"raid-2", "raid.md", " t.md", none, ["## A"], []⟩
    let sheet : Sheet := ⟨some " out ", none, [plan, raid]⟩
    let text := "\n".intercalate
      ["output_root = ' out '",
        "[[artifacts]]", "kind = ' plan '", "file_name = 'plan.md '", "template = 't.md'",
        "agent = ' planner.md'", "required = ['## A', '## A ']", "optional = ['## B']",
        "[[artifacts]]", "kind = 'raid-2'", "file_name = 'raid.md'", "template = ' t.md'",
        "required = ['## A']"]
    Sheet.parse text = .ok sheet ∧ sheet.WellFormed ∧
      ∃ catalog, parse text = .ok catalog ∧ sheet.Describes catalog ∧
        catalog.entries.map (·.kind.name) = ["plan", "raid-2"] := by
  intro plan raid sheet text
  have hparse : Sheet.parse text = .ok sheet := by
    subst text
    rw [Sheet.parse, Toml.parse?, String.toList_intercalate]
    decide +kernel
  have hplan : plan.WellFormed :=
    ⟨ArtifactKind.isKebab_iff.mp (by decide), by decide, by decide, by decide, by decide,
      by constructor <;> decide⟩
  have hraid : raid.WellFormed :=
    ⟨ArtifactKind.isKebab_iff.mp (by decide), by decide, by decide, by decide, by simp [raid],
      by constructor <;> decide⟩
  have hwell : sheet.WellFormed :=
    ⟨by simp [sheet], List.forall_mem_cons.mpr ⟨hplan, List.forall_mem_singleton.mpr hraid⟩,
      by decide, by decide, by decide, by decide⟩
  obtain ⟨haccepted, hdescribes, -⟩ := parse_eq_ok_iff_wellFormed hparse
  obtain ⟨catalog, hcatalog⟩ := haccepted.mpr hwell
  have hkinds :=
    Row.map_eq_map_of_describes Row.Describes.kind (hdescribes catalog hcatalog).entries
  exact ⟨hparse, hwell, catalog, hcatalog, hdescribes catalog hcatalog, hkinds.trans (by decide)⟩

end Catalog

end OutlineLint
