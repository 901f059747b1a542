import OutlineLint.Check.Agent
import OutlineLint.Check.Standards
import OutlineLint.Check.Structure
import OutlineLint.Report.Basic
import OutlineLint.Repository

/-!
# Linting a repository

A run goes through the templates of a catalog, the documents of its agents, the copies of templates
in these documents, the standards document and the artifacts, in this order. A finding never stops
the run; every step adds to the same draft.
-/

namespace OutlineLint.Lint

open Report (Draft)

/-! ### Files that cannot be read -/

/-- What a file is to the catalog. -/
inductive Resource
  | template
  | agent
  | artifact
  deriving DecidableEq, Repr

def Resource.name : Resource → String
  | template => "template"
  | agent => "agent"
  | artifact => "artifact"

/-- The diagnostic of a file that is not there. A template that is not there is drift of the set of
templates itself, and has its title. -/
def missing (resource : Resource) (path : Path) : Diagnostic :=
  let shown := path.display
  let d := (Diagnostic.error .resourceMissing s!"Missing {resource.name} file: {shown}").atFile shown
  match resource with
  | .template => d.withTitle Diagnostic.driftTitle
  | .agent | .artifact => d

/-- The diagnostic of a file that is there and cannot be read. -/
def unreadable (resource : Resource) (path : Path) (error : AccessError) : Diagnostic :=
  let shown := path.display
  (Diagnostic.error .resourceMissing
    s!"Unreadable {resource.name} file: {shown} ({error.message})").atFile shown

/-- The text of a file, or the diagnostic that there is none. -/
def load (repo : Repository) (resource : Resource) (path : Path) : Except Diagnostic String :=
  if repo.isPresent path then
    match repo.read path with
    | .ok text => .ok text
    | .error error => .error (unreadable resource path error)
  else .error (missing resource path)

/-! ### Templates -/

/-- The diagnostics of the template of an entry. -/
def templateFindings (repo : Repository) (entry : Catalog.Entry) : List Diagnostic :=
  match load repo .template entry.template with
  | .ok text => Check.template entry text
  | .error d => [d]

/-! ### Agents -/

/-- The texts of agent documents, by the kind of artifact that the agent writes. -/
abbrev AgentTexts := List (ArtifactKind × String)

/-- Adds the diagnostics of an agent document to the draft, and its text to the texts. If several
entries have one kind, the text of the last counts. -/
def loadAgent (repo : Repository) (state : Draft × AgentTexts) (entry : Catalog.Entry) :
    Draft × AgentTexts :=
  match entry.agent with
  | none => state
  | some agent =>
    match load repo .agent agent with
    | .ok text =>
      (state.1.extend (Check.agentLink? agent text entry.template).toList,
        (entry.kind, text) :: state.2)
    | .error d => (state.1.emit d, state.2)

/-- The diagnostics of an agent document that repeats the template of the entry. -/
def skeletonFindings (texts : AgentTexts) (entry : Catalog.Entry) : List Diagnostic :=
  match entry.agent, texts.lookup entry.kind with
  | some agent, some text => (Check.embeddedSkeleton? agent text entry).toList
  | _, _ => []

/-! ### The standards document -/

/-- The diagnostics of the standards document. Here even a document that cannot be read is only
worth a warning. -/
def standardsFindings (repo : Repository) (path : Path) : List Diagnostic :=
  if repo.isPresent path then
    match repo.read path with
    | .ok text => (Check.standards? path (some text)).toList
    | .error error =>
      let shown := path.display
      [(Diagnostic.warning .resourceMissing
        s!"Unreadable standards file: {shown} ({error.message})").atFile shown]
  else (Check.standards? path none).toList

/-! ### Artifacts -/

/-- The diagnostic of an output directory whose files cannot be listed. -/
def scanFailed (outputRoot : Path) (error : AccessError) : Diagnostic :=
  let shown := outputRoot.display
  (Diagnostic.error .resourceMissing s!"Failed to scan {shown}: {error.message}").atFile shown

/-- The diagnostic of an output directory in which no file belongs to the catalog. -/
def noArtifacts (outputRoot : Path) : Diagnostic :=
  .warning .artifactsAbsent
    s!"No artifacts found in {outputRoot.display}/ (expected for new workflow)."

/-- Adds the diagnostics of an artifact to the draft, and its path to the artifacts looked at. A file
that has gone since the files were listed is passed over. -/
def checkArtifact (repo : Repository) (strictness : Strictness) (state : Draft × List String)
    (found : Path × Catalog.Entry) : Draft × List String :=
  let (path, entry) := found
  if repo.isPresent path then
    let findings :=
      match load repo .artifact path with
      | .ok text => Check.artifact entry strictness path text
      | .error d => [d]
    (state.1.extend findings, state.2 ++ [path.display])
  else state

/-- Adds the diagnostics of all artifacts to the draft, and lists the artifacts looked at. -/
def checkArtifacts (repo : Repository) (catalog : Catalog) (strictness : Strictness)
    (draft : Draft) : Draft × List String :=
  match repo.files catalog.outputRoot with
  | .error error => (draft.emit (scanFailed catalog.outputRoot error), [])
  | .ok files =>
    match catalog.matched files with
    | [] => (draft.emit (noArtifacts catalog.outputRoot), [])
    | found => found.foldl (checkArtifact repo strictness) (draft, [])

end OutlineLint.Lint

namespace OutlineLint

open Lint in
/-- The report of a run over a repository. -/
def lint (repo : Repository) (catalog : Catalog) (strictness : Strictness) : Report :=
  let templates := Report.Draft.empty.extend (catalog.entries.flatMap (templateFindings repo))
  let (agents, texts) := catalog.entries.foldl (loadAgent repo) (templates, [])
  let skeletons := agents.extend (catalog.entries.flatMap (skeletonFindings texts))
  let standards := skeletons.extend (standardsFindings repo catalog.standardsDoc)
  let (draft, artifacts) := checkArtifacts repo catalog strictness standards
  draft.finish repo.root.text strictness artifacts

end OutlineLint
