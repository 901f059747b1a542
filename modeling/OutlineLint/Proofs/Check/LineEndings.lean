import OutlineLint.Catalog.Load
import OutlineLint.Check.Agent
import OutlineLint.Check.Standards
import OutlineLint.Check.Structure
import OutlineLint.FileTree.Repository
import OutlineLint.Proofs.Text.LineEndings

/-!
# Documents with other line endings

A document is read from a file with unified line endings. If each of its carriage returns stands
before a line feed, it has the same lines as the text in the file, hence the same headings and the
same blocks, and no check tells the two apart (`unifyLineEndings_once_judged_alike`), but for the
search for a link with a line break in it (`agentLink?_unifyLineEndings_ne_broken_link`).
-/

namespace OutlineLint

open Text (ReturnsPaired ShowsEndings unified unifyLineEndings)

variable {s t : String}

/-! ### Texts in files -/

namespace FileTree

variable {tree : FileTree} {root path : Path} {text : String}

lemma readText_eq_of_readBytes (h : tree.readBytes path = .ok (Text.bytes text)) :
    tree.readText path = .ok text := by
  simp [readText, h, bind, Except.bind]

/-- A file is read as the text that its bytes are, with unified line endings. -/
lemma readFrom_eq_of_readBytes (h : tree.readBytes (root.join path) = .ok (Text.bytes text)) :
    tree.readFrom root path = .ok (unifyLineEndings text) := by
  simp only [readFrom, readText_eq_of_readBytes h]

end FileTree

/-! ### Headings and blocks -/

lemma Outline.headings_congr (h : Text.lines s.toList = Text.lines t.toList) :
    headings s = headings t := by
  rw [headings, headings, classify, classify, h]

lemma Outline.blocks_congr (h : Text.lines s.toList = Text.lines t.toList) :
    blocks s = blocks t := by
  rw [blocks, blocks, classify, classify, h]

namespace Check

/-! ### Checks -/

/-- None of the checks on headings, blocks and markers tells the texts apart. -/
structure JudgedAlike (s t : String) : Prop where
  template : ∀ entry, Check.template entry s = Check.template entry t
  artifact : ∀ entry strictness path,
    Check.artifact entry strictness path s = Check.artifact entry strictness path t
  skeleton : ∀ agent entry, embeddedSkeleton? agent s entry = embeddedSkeleton? agent t entry
  standards : ∀ path, standards? path (some s) = standards? path (some t)

lemma judgedAlike_of_lines_eq (h : Text.lines s.toList = Text.lines t.toList) :
    JudgedAlike s t where
  template entry := by rw [template, template, Outline.headings_congr h]
  artifact entry strictness path := by rw [artifact, artifact, Outline.headings_congr h]
  skeleton agent entry := by
    rw [embeddedSkeleton?, embeddedSkeleton?, skeleton?, skeleton?, Outline.blocks_congr h]
  standards path := by
    have hunbroken : ∀ marker ∈ standardsMarkers, Text.Unbroken marker.toList := by decide
    have hmarkers : standardsMarkers.any (Text.contains s) =
        standardsMarkers.any (Text.contains t) := by
      rw [Bool.eq_iff_iff, List.any_eq_true, List.any_eq_true]
      exact exists_congr fun marker => and_congr_right fun hmarker => by
        rw [Text.contains_congr h (hunbroken marker hmarker)]
    simp only [standards?, hmarkers]

lemma agentLink?_eq_iff {agent template : Path} :
    agentLink? agent s template = agentLink? agent t template ↔
      ((expectedLink agent template).toList <:+: s.toList ↔
        (expectedLink agent template).toList <:+: t.toList) := by
  rw [← Text.occursIn_iff, ← Text.occursIn_iff, ← Text.contains, ← Text.contains, agentLink?,
    agentLink?]
  cases Text.contains s (expectedLink agent template) <;>
    cases Text.contains t (expectedLink agent template) <;> simp

/-- A link is looked for as it is written, so it must not show the line endings of the text. -/
lemma forall_agentLink?_eq_iff {agent template : Path} :
    (∀ text, ReturnsPaired text.toList →
      agentLink? agent (unifyLineEndings text) template = agentLink? agent text template) ↔
    ¬ ShowsEndings (expectedLink agent template).toList := by
  simp only [agentLink?_eq_iff, Text.toList_unifyLineEndings, ← Text.forall_infix_unified_iff]
  constructor
  · intro h cs hcs
    simpa using h (String.ofList cs) (by simpa using hcs)
  · exact fun h text => h text.toList

/-! ### Raw and read texts -/

/-- Unifying line endings is one pass from left to right. It leaves no carriage return, and doing it
again changes nothing. A text from a file is read in this form; if its carriage returns all stand
before line feeds, it has the same headings and blocks in both forms and is judged alike. Only the
search for a link may tell the two forms apart, and does so for some texts exactly if the link shows
the line endings. -/
theorem unifyLineEndings_once_judged_alike :
    (∀ text, unifyLineEndings text = String.ofList (unified text.toList) ∧
      '\r' ∉ (unifyLineEndings text).toList ∧
      unifyLineEndings (unifyLineEndings text) = unifyLineEndings text ∧
      (∀ (tree : FileTree) (root path : Path), tree.readText (root.join path) = .ok text →
        tree.readFrom root path = .ok (unifyLineEndings text)) ∧
      (ReturnsPaired text.toList →
        Outline.headings (unifyLineEndings text) = Outline.headings text ∧
        Outline.blocks (unifyLineEndings text) = Outline.blocks text ∧
        JudgedAlike (unifyLineEndings text) text)) ∧
    ∀ agent template, (∀ text, ReturnsPaired text.toList →
        agentLink? agent (unifyLineEndings text) template = agentLink? agent text template) ↔
      ¬ ShowsEndings (expectedLink agent template).toList := by
  refine ⟨fun text => ⟨Text.unifyLineEndings_eq text, ?_,
    Text.unifyLineEndings_unifyLineEndings text, ?_, ?_⟩, fun _ _ => forall_agentLink?_eq_iff⟩
  · rw [Text.toList_unifyLineEndings]
    exact Text.return_not_mem_unified _
  · intro tree root path hread
    simp only [FileTree.readFrom, hread]
  · intro hpaired
    have hlines : Text.lines (unifyLineEndings text).toList = Text.lines text.toList := by
      rw [Text.toList_unifyLineEndings, Text.lines_unified hpaired]
    exact ⟨Outline.headings_congr hlines, Outline.blocks_congr hlines, judgedAlike_of_lines_eq hlines⟩

/-- A document in a file, with `\r\n` at a heading, at a fence, inside of the fence and after it. -/
theorem unifyLineEndings_once_judged_alike_fenced :
    let text := "## A \r\n```md\r\n## B\r\n\n```\r\n\r\n## C"
    let read := "## A \n```md\n## B\n\n```\n\n## C"
    let tree : FileTree := ⟨[(Text.bytes "t.md", .file (Text.bytes text))], []⟩
    ReturnsPaired text.toList ∧ tree.readFrom (.ofString ".") (.ofString "t.md") = .ok read ∧
      Outline.headings read = Outline.headings text ∧ Outline.blocks read = Outline.blocks text ∧
      JudgedAlike read text ∧
      agentLink? (.ofString "x.md") read (.ofString "t.md") =
        agentLink? (.ofString "x.md") text (.ofString "t.md") := by
  intro text read tree
  obtain ⟨honce, -, -, hfile, halike⟩ := unifyLineEndings_once_judged_alike.1 text
  have hunified : unifyLineEndings text = read := honce.trans (by decide)
  have hpaired : ReturnsPaired text.toList := by decide
  have hread : tree.readText ((Path.ofString ".").join (.ofString "t.md")) = .ok text :=
    FileTree.readText_eq_of_readBytes rfl
  have hlink := (unifyLineEndings_once_judged_alike.2 (.ofString "x.md") (.ofString "t.md")).mpr
    (Text.Unbroken.not_showsEndings (by decide)) text hpaired
  rw [hunified] at hfile halike hlink
  obtain ⟨hheadings, hblocks, hjudged⟩ := halike hpaired
  exact ⟨hpaired, hfile tree _ _ hread, hheadings, hblocks, hjudged, hlink⟩

/-- The path of a template has a line break in it, and so has the link to the template in the document
of an agent. Read from a file the document holds the link, but as it is written there, with a carriage
return, it does not. -/
theorem agentLink?_unifyLineEndings_ne_broken_link :
    let catalogText := "\n".intercalate
      ["[[artifacts]]", "kind = 'plan'", "file_name = 'plan.md'", "template = \x22t\\n.md\x22",
        "required = ['## A']"]
    let schema : Schema := ⟨["## A"], [], by constructor <;> decide⟩
    let entry : Catalog.Entry :=
      ⟨⟨"plan", by decide⟩, "plan.md", .ofString "t\n.md", none, schema⟩
    let catalog : Catalog :=
      ⟨.ofString Catalog.defaultOutputRoot, .ofString Catalog.defaultStandardsDoc, [entry]⟩
    let agent := Path.ofString "x.md"
    let text := "see t\r\n.md"
    let read := "see t\n.md"
    let tree : FileTree := ⟨[(Text.bytes "x.md", .file (Text.bytes text))], []⟩
    Catalog.parse catalogText = .ok catalog ∧ ReturnsPaired text.toList ∧
      unifyLineEndings text = read ∧ tree.readFrom (.ofString ".") agent = .ok read ∧
      agentLink? agent read entry.template = none ∧
      (agentLink? agent text entry.template).map (·.code) = some .referenceMissing := by
  intro catalogText schema entry catalog agent text read tree
  have hparse : Catalog.parse catalogText = .ok catalog := by
    subst catalogText
    rw [Catalog.parse, Catalog.Sheet.parse, Toml.parse?, String.toList_intercalate]
    decide +kernel
  have hunified : unifyLineEndings text = read := by decide +kernel
  have hread : tree.readFrom (.ofString ".") agent = .ok read :=
    hunified ▸ FileTree.readFrom_eq_of_readBytes rfl
  exact ⟨hparse, by decide, hunified, hread, by decide +kernel, by decide +kernel⟩

end Check

end OutlineLint
