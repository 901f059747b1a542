import Mathlib.Control.Monad.Basic
import OutlineLint.Proofs.Catalog.Acceptance

/-!
# Which entry a file name selects

A file belongs to the first entry whose file name its own name ends with (`entryFor?_eq_some_iff`).
The file names of an accepted catalog are distinct, but one may be the end of another. So a file
that is called exactly as an entry says belongs to this entry or to an earlier one: to this entry
if and only if no earlier one has a file name with which its own ends
(`entryFor?_fileName_eq_self_iff`).
-/

namespace OutlineLint.Catalog

variable {catalog : Catalog} {entry : Entry} {name : String}

/-! ### The first entry that fits -/

/-- The name ends with the file name of the entry. -/
def Entry.Fits (entry : Entry) (name : String) : Prop :=
  entry.fileName.toList <:+ name.toList

instance (entry : Entry) (name : String) : Decidable (entry.Fits name) :=
  inferInstanceAs (Decidable (_ <:+ _))

lemma endsWith_fileName_iff : Text.endsWith name entry.fileName = true ↔ entry.Fits name :=
  List.isSuffixOf_iff_suffix

lemma Entry.fits_fileName (entry : Entry) : entry.Fits entry.fileName :=
  List.suffix_rfl

/-- A name selects the first entry that it fits. -/
lemma entryFor?_eq_some_iff :
    catalog.entryFor? name = some entry ↔
      entry.Fits name ∧ ∃ before after, catalog.entries = before ++ entry :: after ∧
        ∀ earlier ∈ before, ¬ earlier.Fits name := by
  rw [entryFor?, List.find?_eq_some_iff_append, endsWith_fileName_iff]
  simp only [Bool.not_eq_true', ← Bool.not_eq_true, endsWith_fileName_iff]

/-- A file belongs to the entry that its name, if it is a text, selects. -/
lemma mem_matched_iff {files : List Path} {path : Path} :
    (path, entry) ∈ catalog.matched files ↔
      path ∈ files ∧ catalog.entryForPath? path = some entry := by
  simp only [matched, List.mem_filterMap, Option.map_eq_some_iff, Prod.mk.injEq]
  constructor
  · rintro ⟨_, hpath, _, hentry, rfl, rfl⟩
    exact ⟨hpath, hentry⟩
  · rintro ⟨hpath, hentry⟩
    exact ⟨path, hpath, entry, hentry, rfl, rfl⟩

lemma entryForPath?_eq_entryFor? {path : Path} (h : path.fileName? = some (Text.bytes name)) :
    catalog.entryForPath? path = catalog.entryFor? name := by
  simp [entryForPath?, h]

/-! ### The own name of an entry -/

/-- The own name of an entry selects it or an entry before it. -/
lemma exists_entryFor?_fileName {before after : List Entry}
    (hentries : catalog.entries = before ++ entry :: after) :
    ∃ first ∈ before ++ [entry], catalog.entryFor? entry.fileName = some first := by
  have hself : Text.endsWith entry.fileName entry.fileName = true :=
    endsWith_fileName_iff.mpr entry.fits_fileName
  rw [entryFor?, hentries, List.find?_append, List.find?_cons, hself]
  cases hfound : before.find? fun earlier => Text.endsWith entry.fileName earlier.fileName with
  | none => exact ⟨entry, by simp, rfl⟩
  | some first =>
    exact ⟨first, List.mem_append_left _ (List.mem_of_find?_eq_some hfound), rfl⟩

/-- If the file names are distinct, the own name of an entry selects it if and only if it fits no
entry before it. -/
lemma entryFor?_fileName_iff_of_nodup {before after : List Entry}
    (hnames : (catalog.entries.map (·.fileName)).Nodup)
    (hentries : catalog.entries = before ++ entry :: after) :
    catalog.entryFor? entry.fileName = some entry ↔
      ∀ earlier ∈ before, ¬ earlier.Fits entry.fileName := by
  constructor
  · intro h
    obtain ⟨-, before', after', hentries', hbefore'⟩ := entryFor?_eq_some_iff.mp h
    -- the entry has one place in the catalog, so what stands before it is the same both times
    have hnodup : (before ++ entry :: after).Nodup := hentries ▸ hnames.of_map _
    obtain ⟨hnotBefore, hnotAfter⟩ : entry ∉ before ∧ entry ∉ after := by
      rw [List.nodup_middle, List.nodup_cons, List.mem_append, not_or] at hnodup
      exact hnodup.1
    have heq : before ++ entry :: after = before' ++ entry :: after' :=
      hentries.symm.trans hentries'
    obtain ⟨rfl, -, -⟩ := (List.append_cons_inj_of_notMem hnotBefore hnotAfter).mp heq
    exact hbefore'
  · intro h
    exact entryFor?_eq_some_iff.mpr ⟨entry.fits_fileName, before, after, hentries, h⟩

/-- The own file name of an entry of an accepted catalog selects it, or an entry before it; it
selects the entry itself if and only if no entry before it has a file name with which its own ends.
In the same case a file that is called exactly as the entry says belongs to the entry, among
whatever files it is found. -/
theorem entryFor?_fileName_eq_self_iff {text : String} {catalog : Catalog}
    (h : parse text = .ok catalog) {before after : List Entry} {entry : Entry}
    (hentries : catalog.entries = before ++ entry :: after) :
    (∃ first ∈ before ++ [entry], catalog.entryFor? entry.fileName = some first ∧
      first.Fits entry.fileName) ∧
    (catalog.entryFor? entry.fileName = some entry ↔
      ∀ earlier ∈ before, ¬ earlier.Fits entry.fileName) ∧
    ∀ files, ∀ path ∈ files, path.fileName? = some (Text.bytes entry.fileName) →
      ((path, entry) ∈ catalog.matched files ↔
        ∀ earlier ∈ before, ¬ earlier.Fits entry.fileName) := by
  have hself := entryFor?_fileName_iff_of_nodup (nodup_of_parse h).2 hentries
  refine ⟨?_, hself, fun files path hpath hname => ?_⟩
  · obtain ⟨first, hfirst, hselected⟩ := exists_entryFor?_fileName hentries
    exact ⟨first, hfirst, hselected, (entryFor?_eq_some_iff.mp hselected).1⟩
  · rw [mem_matched_iff, and_iff_right hpath, entryForPath?_eq_entryFor? hname]
    exact hself

/-- With the entry of the longer name first, a file with the shorter name belongs to the entry that
names it. -/
theorem entryFor?_fileName_eq_self_longer_first :
    let schema : Schema := ⟨["## A"], [], by constructor <;> decide⟩
    let plan : Entry := ⟨⟨"plan", by decide⟩, "plan.md", .ofString "t.md", none, schema⟩
    let raid : Entry := ⟨⟨"raid", by decide⟩, "raid-plan.md", .ofString "t.md", none, schema⟩
    let text := "\n".intercalate
      ["[[artifacts]]", "kind = 'raid'", "file_name = 'raid-plan.md'", "template = 't.md'",
        "required = ['## A']",
        "[[artifacts]]", "kind = 'plan'", "file_name = 'plan.md'", "template = 't.md'",
        "required = ['## A']"]
    let catalog : Catalog :=
      ⟨.ofString defaultOutputRoot, .ofString defaultStandardsDoc, [raid, plan]⟩
    let file := Path.ofString "a/plan.md"
    parse text = .ok catalog ∧
      catalog.entries = [raid] ++ plan :: [] ∧ catalog.entryFor? "plan.md" = some plan ∧
      (file, plan) ∈ catalog.matched [file] := by
  intro schema plan raid text catalog file
  have hparse : parse text = .ok catalog := by
    subst text
    rw [parse, Sheet.parse, Toml.parse?, String.toList_intercalate]
    decide +kernel
  have hentries : catalog.entries = [raid] ++ plan :: [] := rfl
  have hfirst : ∀ earlier ∈ [raid], ¬ earlier.Fits plan.fileName := by decide
  obtain ⟨-, hself, hmatched⟩ := entryFor?_fileName_eq_self_iff hparse hentries
  exact ⟨hparse, hentries, hself.mpr hfirst,
    (hmatched [file] file List.mem_cons_self (by decide +kernel)).mpr hfirst⟩

/-- With the entry of the shorter name first, a file that is called as the other entry says belongs
to the first one. -/
theorem entryFor?_fileName_ne_self_shorter_first :
    let schema : Schema := ⟨["## A"], [], by constructor <;> decide⟩
    let plan : Entry := ⟨⟨"plan", by decide⟩, "plan.md", .ofString "t.md", none, schema⟩
    let raid : Entry := ⟨⟨"raid", by decide⟩, "raid-plan.md", .ofString "t.md", none, schema⟩
    let text := "\n".intercalate
      ["[[artifacts]]", "kind = 'plan'", "file_name = 'plan.md'", "template = 't.md'",
        "required = ['## A']",
        "[[artifacts]]", "kind = 'raid'", "file_name = 'raid-plan.md'", "template = 't.md'",
        "required = ['## A']"]
    let catalog : Catalog :=
      ⟨.ofString defaultOutputRoot, .ofString defaultStandardsDoc, [plan, raid]⟩
    let file := Path.ofString "a/raid-plan.md"
    parse text = .ok catalog ∧
      raid ∈ catalog.entries ∧ catalog.entryFor? raid.fileName = some plan ∧ plan ≠ raid ∧
      catalog.matched [file] = [(file, plan)] := by
  intro schema plan raid text catalog file
  refine ⟨?_, by decide, by decide, by decide, by decide +kernel⟩
  subst text
  rw [parse, Sheet.parse, Toml.parse?, String.toList_intercalate]
  decide +kernel

end OutlineLint.Catalog
