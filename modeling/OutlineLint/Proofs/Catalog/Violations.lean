import Mathlib.Algebra.Order.BigOperators.Group.List
import Mathlib.Algebra.Order.Group.Nat
import Mathlib.Data.List.Flatten
import Mathlib.Data.List.Perm.Subperm
import OutlineLint.Proofs.Catalog.Acceptance
import OutlineLint.Proofs.Catalog.Rows

/-!
# Violations that are not listed

The problems of a sheet are meant to be all that is wrong with it (`Sheet.violations`). But a row
that has any fault takes no part in the search for repeated kinds and file names, and of the faults
among its headings only the first is noticed. So every violation is listed if and only if rows that
share a kind or a file name with another are without a fault, and each row has at most one fault
among its headings (`violations_subperm_problemsIn_iff`). At least one violation is listed if there
are any (`Sheet.violations_eq_nil_iff`).
-/

namespace OutlineLint.Catalog

/-! ### Lists -/

lemma exists_mem_zipIdx {α : Type} {xs : List α} {x : α} (h : x ∈ xs) :
    ∃ index, (x, index) ∈ xs.zipIdx := by
  obtain ⟨index, hindex⟩ := List.mem_iff_getElem?.mp h
  exact ⟨index, List.mem_zipIdx_iff_getElem?.mpr hindex⟩

/-- Lists are compared part by part if a part has nothing in common with the other part of the other
list. -/
lemma subperm_append_append_iff {α : Type} [DecidableEq α] {xs xs' ys ys' : List α}
    (hxs : xs.Disjoint ys') (hys : ys.Disjoint xs') :
    (xs ++ ys).Subperm (xs' ++ ys') ↔ xs.Subperm xs' ∧ ys.Subperm ys' := by
  constructor
  · intro h
    have hcount := List.subperm_iff_count.mp h
    simp only [List.count_append] at hcount
    rw [List.subperm_ext_iff, List.subperm_ext_iff]
    constructor
    · intro x hx
      have hzero : ys'.count x = 0 := List.count_eq_zero.mpr (hxs hx)
      have := hcount x
      omega
    · intro y hy
      have hzero : xs'.count y = 0 := List.count_eq_zero.mpr (hys hy)
      have := hcount y
      omega
  · rintro ⟨hxs, hys⟩
    exact hxs.append hys

/-! ### Repetitions -/

/-- The members of a list that stand among those before them. -/
def repetitions {α : Type} [DecidableEq α] (seen : List α) : List α → List α
  | [] => []
  | x :: rest => (if x ∈ seen then [x] else []) ++ repetitions (x :: seen) rest

lemma count_repetitions {α : Type} [DecidableEq α] (seen xs : List α) (x : α) :
    (repetitions seen xs).count x = if x ∈ seen then xs.count x else xs.count x - 1 := by
  induction xs generalizing seen with
  | nil => simp [repetitions]
  | cons y rest ih =>
    rw [repetitions, List.count_append, ih]
    by_cases hyx : y = x
    · subst hyx
      by_cases hseen : y ∈ seen
      · simp [hseen, Nat.add_comm]
      · simp [hseen]
    · by_cases hseen : y ∈ seen
      · simp [hseen, hyx, Ne.symm hyx]
      · simp [hseen, hyx, Ne.symm hyx]

/-- Each occurrence but the first is a repetition. -/
lemma count_repetitions_nil {α : Type} [DecidableEq α] (xs : List α) (x : α) :
    (repetitions [] xs).count x = xs.count x - 1 := by
  rw [count_repetitions, if_neg List.not_mem_nil]

/-- Repeated kinds and repeated file names are looked for in one pass. -/
lemma repeatedIn_perm (kinds : List ArtifactKind) (names : List String) (entries : List Entry) :
    (repeatedIn kinds names entries).Perm
      ((repetitions kinds (entries.map (·.kind))).map .repeatedKind ++
        (repetitions names (entries.map (·.fileName))).map .repeatedFileName) := by
  induction entries generalizing kinds names with
  | nil => exact .refl _
  | cons entry rest ih =>
    simp only [repeatedIn, List.map_cons, repetitions, List.map_append, List.append_assoc,
      apply_ite (List.map _), List.map_nil]
    refine List.Perm.append_left _ ?_
    exact ((ih _ _).append_left _).trans (List.perm_append_comm_assoc ..)

lemma repeatedKind_injective : Function.Injective Problem.repeatedKind :=
  fun _ _ => Problem.repeatedKind.inj

lemma repeatedFileName_injective : Function.Injective Problem.repeatedFileName :=
  fun _ _ => Problem.repeatedFileName.inj

/-! ### Keys of rows without a fault -/

section Keys

variable {α : Type} {key : Row → Option α} {rows : List Row}

/-- The rows without a fault. -/
def sound (rows : List Row) : List Row := rows.filter (·.faults = [])

/-- If rows give entries with their own keys, the keys of the entries are those of the rows without
a fault. -/
lemma map_filterMap_entry?_eq {f : Entry → α}
    (hkey : ∀ {row entry}, row.Gives entry → key row = some (f entry)) (rows : List Row) :
    (rows.filterMap Row.entry?).map f = (sound rows).filterMap key := by
  induction rows with
  | nil => rfl
  | cons row rest ih =>
    rw [sound] at ih ⊢
    rw [List.filter_cons]
    cases hentry : Row.entry? row with
    | none =>
      have hfaults : row.faults ≠ [] := by
        intro hnil
        obtain ⟨entry, hgives⟩ := Row.faults_eq_nil_iff.mp hnil
        simp [Row.entry?_eq_some_iff.mpr hgives] at hentry
      simpa [hentry, hfaults] using ih
    | some entry =>
      have hgives := Row.entry?_eq_some_iff.mp hentry
      have hfaults : row.faults = [] := Row.faults_eq_nil_iff.mpr ⟨entry, hgives⟩
      simpa [hentry, hfaults, hkey hgives] using ih

/-- The repetitions of a key are all found among the rows without a fault if and only if a row with
the key has no fault or no other row has the key. -/
lemma count_repetitions_le_iff [DecidableEq α] {k : α} :
    (repetitions [] (rows.filterMap key)).count k ≤
        (repetitions [] ((sound rows).filterMap key)).count k ↔
      ∀ row ∈ rows, key row = some k → row.faults ≠ [] → (rows.filterMap key).count k = 1 := by
  have hsplit : (rows.filterMap key).count k = ((sound rows).filterMap key).count k +
      ((rows.filter fun row => !decide (row.faults = [])).filterMap key).count k := by
    rw [← List.count_append, ← List.filterMap_append]
    exact (((List.filter_append_perm _ rows).filterMap key).count_eq k).symm
  have hfaulty : ((rows.filter fun row => !decide (row.faults = [])).filterMap key).count k ≠ 0 ↔
      ∃ row ∈ rows, key row = some k ∧ row.faults ≠ [] := by
    simp [List.count_eq_zero, and_left_comm, and_comm]
  rw [count_repetitions_nil, count_repetitions_nil]
  constructor
  · intro hle row hrow hkey hfaults
    have hne := hfaulty.mpr ⟨row, hrow, hkey, hfaults⟩
    omega
  · intro hone
    by_cases hne : ((rows.filter fun row => !decide (row.faults = [])).filterMap key).count k = 0
    · omega
    · obtain ⟨row, hrow, hkey, hfaults⟩ := hfaulty.mp hne
      have := hone row hrow hkey hfaults
      omega

end Keys

/-! ### Violations -/

namespace Row

/-- The kind of a row, if it is one. -/
def kind? (row : Row) : Option ArtifactKind := (ArtifactKind.parse row.kind).toOption

/-- The file name of a row, if it is one. -/
def fileName? (row : Row) : Option String :=
  let name := Text.trim row.fileName
  if isBareName name then some name else none

lemma Gives.kind?_eq {row : Row} {entry : Entry} (h : row.Gives entry) :
    row.kind? = some entry.kind := toOption_eq_some_iff.mpr h.kind

lemma Gives.fileName?_eq {row : Row} {entry : Entry} (h : row.Gives entry) :
    row.fileName? = some entry.fileName := by
  simp only [fileName?, h.isBareName, if_true, h.fileName]

/-- The faults of a row apart from those among its headings. -/
def plainFaults (row : Row) : List RowFault :=
  ((errorOf (ArtifactKind.parse row.kind)).map RowFault.kind).toList ++
    (if isBareName (Text.trim row.fileName) then [] else [.fileName]) ++
    (if (path? row.template).isSome then [] else [.template]) ++
    (if row.agent.all fun agent => (path? agent).isSome then [] else [.agent])

/-- All that is wrong with a row. -/
def everyFault (row : Row) : List RowFault :=
  row.plainFaults ++ (Schema.faults row.required row.optional).map .schema

lemma faults_eq (row : Row) :
    row.faults =
      row.plainFaults ++ ((Schema.faults row.required row.optional).take 1).map .schema := by
  rw [List.take_one, ← Schema.fault?_eq_head?, ← errorOf_build, ← Option.toList_map]
  rfl

lemma faults_sublist (row : Row) : row.faults.Sublist row.everyFault := by
  rw [faults_eq, everyFault]
  exact ((List.take_sublist 1 _).map _).append_left _

lemma schemaFaults_eq_nil {row : Row} (h : row.faults = []) :
    Schema.faults row.required row.optional = [] := by
  rw [faults_eq, List.append_eq_nil_iff, List.map_eq_nil_iff, List.take_eq_nil_iff] at h
  simpa using h.2

lemma everyFault_eq_faults {row : Row}
    (h : (Schema.faults row.required row.optional).length ≤ 1) : row.everyFault = row.faults := by
  rw [faults_eq, everyFault, List.take_of_length_le h]

lemma length_faults_lt {row : Row}
    (h : 1 < (Schema.faults row.required row.optional).length) :
    row.faults.length < row.everyFault.length := by
  rw [faults_eq, everyFault]
  simpa [Nat.min_eq_left h.le] using h

end Row

namespace Sheet

/-- The kinds of the rows, as far as they are kinds. -/
def kinds (sheet : Sheet) : List ArtifactKind := sheet.rows.filterMap Row.kind?

/-- The file names of the rows, as far as they are file names. -/
def fileNames (sheet : Sheet) : List String := sheet.rows.filterMap Row.fileName?

/-- All that is wrong with the rows, each row for itself. -/
def rowViolations (sheet : Sheet) : List Problem :=
  sheet.rows.zipIdx.flatMap fun (row, index) => row.everyFault.map (.inRow (row.owner index))

/-- All that is wrong with a sheet: each heading may have a fault of its own, and the kind and the
file name of a row may be those of an earlier row, whatever else is wrong with the rows. -/
def violations (sheet : Sheet) : List Problem :=
  (if sheet.rows.isEmpty then [.noRows] else []) ++ sheet.rowViolations ++
    ((repetitions [] sheet.kinds).map .repeatedKind ++
      (repetitions [] sheet.fileNames).map .repeatedFileName) ++
    (if sheet.outputRoot?.isSome then [] else [.outputRoot]) ++
    (if sheet.standardsDoc?.isSome then [] else [.standardsDoc])

/-- No fault of a row hides another violation. -/
structure Unmasked (sheet : Sheet) : Prop where
  kinds : ∀ row ∈ sheet.rows, ∀ kind, row.kind? = some kind → row.faults ≠ [] →
    sheet.kinds.count kind = 1
  fileNames : ∀ row ∈ sheet.rows, ∀ name, row.fileName? = some name → row.faults ≠ [] →
    sheet.fileNames.count name = 1
  headings : ∀ row ∈ sheet.rows, (Schema.faults row.required row.optional).length ≤ 1

/-- Where there is no fault, none hides anything. -/
lemma Unmasked.of_faults_eq_nil {sheet : Sheet} (h : ∀ row ∈ sheet.rows, row.faults = []) :
    sheet.Unmasked where
  kinds := by
    intro row hrow kind _ hfaults
    exact absurd (h row hrow) hfaults
  fileNames := by
    intro row hrow name _ hfaults
    exact absurd (h row hrow) hfaults
  headings := by
    intro row hrow
    rw [Row.schemaFaults_eq_nil (h row hrow)]
    exact Nat.zero_le 1

/-! ### Comparing violations and problems -/

/-- The faults of rows are all among the problems if and only if no row has two faults among its
headings. -/
lemma rowViolations_subperm_rowProblems_iff {sheet : Sheet} :
    sheet.rowViolations.Subperm sheet.rowProblems ↔
      ∀ row ∈ sheet.rows, (Schema.faults row.required row.optional).length ≤ 1 := by
  constructor
  · intro h row hrow
    by_contra hlong
    obtain ⟨index, hmem⟩ := exists_mem_zipIdx hrow
    have hlt : sheet.rowProblems.length < sheet.rowViolations.length := by
      rw [rowProblems, rowViolations, List.length_flatMap, List.length_flatMap]
      refine List.sum_lt_sum _ _ ?_ ⟨_, hmem, ?_⟩
      · rintro ⟨row, index⟩ -
        simpa using row.faults_sublist.length_le
      · simpa using Row.length_faults_lt (Nat.not_le.mp hlong)
    exact absurd h.length_le (Nat.not_le.mpr hlt)
  · intro h
    have heq : sheet.rowViolations = sheet.rowProblems := by
      refine List.flatMap_congr ?_
      rintro ⟨row, index⟩ hmem
      simp only [Row.everyFault_eq_faults (h row (List.fst_mem_of_mem_zipIdx hmem))]
    exact heq ▸ .refl _

/-- The repetitions of a key are all among the repetitions in the entries if and only if a row with
the key has no fault or no other row has the key. -/
lemma repetitions_subperm_iff {α : Type} [DecidableEq α] {key : Row → Option α} {f : Entry → α}
    (hkey : ∀ {row entry}, row.Gives entry → key row = some (f entry)) {sheet : Sheet} :
    (repetitions [] (sheet.rows.filterMap key)).Subperm (repetitions [] (sheet.entries.map f)) ↔
      ∀ row ∈ sheet.rows, ∀ k, key row = some k → row.faults ≠ [] →
        (sheet.rows.filterMap key).count k = 1 := by
  rw [List.subperm_iff_count, entries, map_filterMap_entry?_eq hkey]
  simp only [count_repetitions_le_iff]
  exact ⟨fun h row hrow k => h k row hrow, fun h k row hrow => h row hrow k⟩

/-- Each repetition in the entries is one in the rows. -/
lemma repetitions_entries_subperm {α : Type} [DecidableEq α] {key : Row → Option α} {f : Entry → α}
    (hkey : ∀ {row entry}, row.Gives entry → key row = some (f entry)) {sheet : Sheet} :
    (repetitions [] (sheet.entries.map f)).Subperm
      (repetitions [] (sheet.rows.filterMap key)) := by
  rw [List.subperm_iff_count, entries, map_filterMap_entry?_eq hkey]
  intro k
  rw [count_repetitions_nil, count_repetitions_nil]
  exact Nat.sub_le_sub_right ((List.filter_sublist.filterMap key).count_le k) 1

/-- The violations of a sheet are all among its problems if and only if no fault of a row hides
another violation. -/
lemma violations_subperm_problems_iff {sheet : Sheet} :
    sheet.violations.Subperm sheet.problems ↔ sheet.Unmasked := by
  have hrepeated := repeatedIn_perm [] [] sheet.entries
  rw [violations, problems, List.subperm_append_right, List.subperm_append_right,
    List.append_assoc, List.append_assoc, List.subperm_append_left,
    (hrepeated.append_left _).subperm_left, subperm_append_append_iff, subperm_append_append_iff,
    List.map_subperm_map_iff repeatedKind_injective,
    List.map_subperm_map_iff repeatedFileName_injective, rowViolations_subperm_rowProblems_iff,
    kinds, fileNames, repetitions_subperm_iff Row.Gives.kind?_eq,
    repetitions_subperm_iff Row.Gives.fileName?_eq]
  · constructor
    · rintro ⟨hrows, hkinds, hnames⟩
      exact ⟨hkinds, hnames, hrows⟩
    · rintro ⟨hkinds, hnames, hrows⟩
      exact ⟨hrows, hkinds, hnames⟩
  all_goals
    intro problem hmem hmem'
    simp only [rowViolations, rowProblems, List.mem_append, List.mem_map, List.mem_flatMap]
      at hmem hmem'
    grind

/-- Only violations are problems. -/
lemma problems_subperm_violations (sheet : Sheet) :
    sheet.problems.Subperm sheet.violations := by
  have hrepeated := repeatedIn_perm [] [] sheet.entries
  rw [violations, problems, List.subperm_append_right, List.subperm_append_right,
    List.append_assoc, List.append_assoc, List.subperm_append_left,
    (hrepeated.append_left _).subperm_right]
  have hrows : sheet.rowProblems.Subperm sheet.rowViolations := by
    refine (List.Sublist.flatMap_right _ ?_).subperm
    rintro ⟨row, index⟩ -
    exact row.faults_sublist.map _
  exact hrows.append
    (((List.map_subperm_map_iff repeatedKind_injective).mpr
        (repetitions_entries_subperm Row.Gives.kind?_eq)).append
      ((List.map_subperm_map_iff repeatedFileName_injective).mpr
        (repetitions_entries_subperm Row.Gives.fileName?_eq)))

/-- That there is a violation is never hidden. -/
lemma violations_eq_nil_iff {sheet : Sheet} : sheet.violations = [] ↔ sheet.problems = [] := by
  constructor
  · intro h
    exact List.subperm_nil.mp (h ▸ sheet.problems_subperm_violations)
  · intro h
    have hrows : ∀ row ∈ sheet.rows, row.faults = [] := by
      intro row hrow
      obtain ⟨index, hmem⟩ := exists_mem_zipIdx hrow
      simp only [problems, rowProblems, List.append_eq_nil_iff, List.flatMap_eq_nil_iff,
        List.map_eq_nil_iff] at h
      obtain ⟨⟨⟨⟨-, hfaults⟩, -⟩, -⟩, -⟩ := h
      exact hfaults (row, index) hmem
    have hunmasked : sheet.Unmasked := .of_faults_eq_nil hrows
    exact List.subperm_nil.mp (h ▸ violations_subperm_problems_iff.mpr hunmasked)

lemma eq_problems_of_catalog_eq_error {sheet : Sheet} {problems : List Problem}
    (h : sheet.catalog = .error problems) : problems = sheet.problems := by
  rw [catalog] at h
  split at h
  · contradiction
  · exact (Except.error.inj h).symm

end Sheet

/-! ### Texts -/

/-- The problems that are listed for a text. -/
def problemsIn (text : String) : List Problem :=
  match parse text with
  | .error (.invalid problems) => problems
  | _ => []

/-- The problems of the sheet are listed, and nothing else. -/
lemma problemsIn_eq {text : String} {sheet : Sheet} (h : Sheet.parse text = .ok sheet) :
    problemsIn text = sheet.problems := by
  simp only [problemsIn, parse, h]
  cases hcatalog : sheet.catalog with
  | error problems => exact Sheet.eq_problems_of_catalog_eq_error hcatalog
  | ok catalog => exact (Sheet.catalog_eq_ok_iff.mp hcatalog).1.symm

/-- Each violation in a sheet is listed if and only if each row that shares its kind or its file
name with another has no fault, and no row has two faults among its headings. -/
theorem violations_subperm_problemsIn_iff {text : String} {sheet : Sheet}
    (h : Sheet.parse text = .ok sheet) :
    sheet.violations.Subperm (problemsIn text) ↔ sheet.Unmasked := by
  rw [problemsIn_eq h]
  exact Sheet.violations_subperm_problems_iff

/-- Two rows that are otherwise without a fault have one kind and one file name. -/
theorem violations_subperm_problemsIn_iff_plain_repetition :
    let row : Row := ⟨"plan", "plan.md", "t.md", none, ["## A"], []⟩
    let sheet : Sheet := ⟨none, none, [row, row]⟩
    let text := "\n".intercalate
      ["[[artifacts]]", "kind = 'plan'", "file_name = 'plan.md'", "template = 't.md'",
        "required = ['## A']",
        "[[artifacts]]", "kind = 'plan'", "file_name = 'plan.md'", "template = 't.md'",
        "required = ['## A']"]
    Sheet.parse text = .ok sheet ∧
      sheet.violations = [.repeatedKind ⟨"plan", by decide⟩, .repeatedFileName "plan.md"] ∧
      sheet.violations.Subperm (problemsIn text) := by
  intro row sheet text
  have hparse : Sheet.parse text = .ok sheet := by
    subst text
    rw [Sheet.parse, Toml.parse?, String.toList_intercalate]
    decide +kernel
  have hunmasked : sheet.Unmasked := .of_faults_eq_nil (by decide +kernel)
  exact ⟨hparse, by decide +kernel, (violations_subperm_problemsIn_iff hparse).mpr hunmasked⟩

/-- The second row has the kind and the file name of the first one. Since its template is blank,
neither is listed, and of its two headings at fault only the first one is. -/
theorem not_violations_subperm_problemsIn_masked :
    let plan : ArtifactKind := ⟨"plan", by decide⟩
    let sheet : Sheet := ⟨none, none,
      [⟨"plan", "plan.md", "t.md", none, ["## A"], []⟩,
        ⟨"plan", "plan.md", "", none, ["## A", "## A", " "], []⟩]⟩
    let text := "\n".intercalate
      ["[[artifacts]]", "kind = 'plan'", "file_name = 'plan.md'", "template = 't.md'",
        "required = ['## A']",
        "[[artifacts]]", "kind = 'plan'", "file_name = 'plan.md'", "template = ''",
        "required = ['## A', '## A', ' ']"]
    Sheet.parse text = .ok sheet ∧
      problemsIn text =
        [.inRow "plan" .template, .inRow "plan" (.schema (.repeatedRequired "## A"))] ∧
      (∀ violation ∈ [.repeatedKind plan, .repeatedFileName "plan.md",
          .inRow "plan" (.schema .blankRequired)],
        violation ∈ sheet.violations ∧ violation ∉ problemsIn text) ∧
      ¬ sheet.violations.Subperm (problemsIn text) := by
  intro plan sheet text
  have hparse : Sheet.parse text = .ok sheet := by
    subst text
    rw [Sheet.parse, Toml.parse?, String.toList_intercalate]
    decide +kernel
  have hproblems : problemsIn text =
      [.inRow "plan" .template, .inRow "plan" (.schema (.repeatedRequired "## A"))] := by
    rw [problemsIn_eq hparse]
    decide +kernel
  rw [hproblems]
  refine ⟨hparse, rfl, by decide +kernel, ?_⟩
  intro h
  exact absurd h.length_le (by decide +kernel)

end OutlineLint.Catalog
