import OutlineLint.Proofs.Comparison.Content

/-!
# What a comparison does not depend on

Apart from extra headings, both comparisons see no more of an outline than the headings that the
schema names, in the order of their first occurrences: they find the same in any list of first
occurrences that takes in these headings (`FirstOccurrences.templateBase_eq`,
`FirstOccurrences.artifactBase_eq`). So later repetitions do not matter at all, and headings that the
schema does not name matter only as extra headings (`template_artifact_thinned`).
-/

namespace OutlineLint.Comparison

variable {schema : Schema} {outline kept hs : List String} {kind : String → Prop}

/-! ### Extra headings apart -/

/-- The deviations other than that of having extra headings. -/
def apartFromExtra (deviations : List Deviation) : List Deviation :=
  deviations.filter fun d => d.code ≠ .structuralExtra

/-- The deviations of a template, but for extra headings. -/
def templateBase (schema : Schema) (outline : List String) : List Deviation :=
  match missing schema outline with
  | [] => (templateOrder? schema outline).toList
  | headings => [.missing headings]

/-- The deviations of an artifact, but for extra headings. -/
def artifactBase (schema : Schema) (outline : List String) : List Deviation :=
  match missing schema outline with
  | [] => (artifactOrder? schema outline).toList ++ placement schema outline
  | headings => .missing headings :: placement schema outline

/-- The deviation of having extra headings, which only complete outlines have. -/
def extraPart (schema : Schema) (outline : List String) : List Deviation :=
  match missing schema outline with
  | [] => ofExtra (extra schema outline)
  | _ => []

lemma template_eq_append :
    template schema outline = templateBase schema outline ++ extraPart schema outline := by
  rw [template, templateBase, extraPart, toList_extraDeviation?]
  cases missing schema outline with
  | nil => rfl
  | cons heading rest => rfl

lemma artifact_eq_append :
    artifact schema outline = artifactBase schema outline ++ extraPart schema outline := by
  rw [artifact, artifactBase, extraPart, toList_extraDeviation?, misplaced_eq_placement]
  cases missing schema outline with
  | nil => rfl
  | cons heading rest => exact (List.append_nil _).symm

lemma code_of_mem_templateBase {d : Deviation} (h : d ∈ templateBase schema outline) :
    d.code ≠ .structuralExtra := by
  rw [templateBase] at h
  split at h
  · rw [code_of_templateOrder? (Option.mem_toList.mp h)]
    decide
  · obtain rfl := List.mem_singleton.mp h
    simp [Deviation.code]

lemma code_of_mem_placement {d : Deviation} (h : d ∈ placement schema outline) :
    d.code ≠ .structuralExtra := by
  rw [code_of_mem_misplaced (misplaced_eq_placement ▸ h)]
  decide

lemma code_of_mem_artifactBase {d : Deviation} (h : d ∈ artifactBase schema outline) :
    d.code ≠ .structuralExtra := by
  rw [artifactBase] at h
  split at h
  · next hmissing =>
    rcases List.mem_append.mp h with horder | hplacement
    · rw [code_of_artifactOrder? (missing_eq_nil_iff.mp hmissing) (Option.mem_toList.mp horder)]
      decide
    · exact code_of_mem_placement hplacement
  · rcases List.mem_cons.mp h with rfl | hplacement
    · simp [Deviation.code]
    · exact code_of_mem_placement hplacement

lemma code_of_mem_extraPart {d : Deviation} (h : d ∈ extraPart schema outline) :
    d.code = .structuralExtra := by
  rw [extraPart, ← toList_extraDeviation?] at h
  split at h
  · exact code_of_extraDeviation? (Option.mem_toList.mp h)
  · contradiction

lemma apartFromExtra_append {base extras : List Deviation}
    (hbase : ∀ d ∈ base, d.code ≠ .structuralExtra)
    (hextras : ∀ d ∈ extras, d.code = .structuralExtra) :
    apartFromExtra (base ++ extras) = base := by
  have hkeep : base.filter (fun d => d.code ≠ .structuralExtra) = base :=
    List.filter_eq_self.mpr fun d hd => decide_eq_true (hbase d hd)
  have hdrop : extras.filter (fun d => d.code ≠ .structuralExtra) = [] :=
    List.filter_eq_nil_iff.mpr fun d hd => by simp [hextras d hd]
  rw [apartFromExtra, List.filter_append, hkeep, hdrop, List.append_nil]

lemma apartFromExtra_template :
    apartFromExtra (template schema outline) = templateBase schema outline := by
  rw [template_eq_append]
  exact apartFromExtra_append (fun _ => code_of_mem_templateBase) fun _ => code_of_mem_extraPart

lemma apartFromExtra_artifact :
    apartFromExtra (artifact schema outline) = artifactBase schema outline := by
  rw [artifact_eq_append]
  exact apartFromExtra_append (fun _ => code_of_mem_artifactBase) fun _ => code_of_mem_extraPart

/-! ### First occurrences instead of an outline -/

/-- A search for an inversion looks only at which of two positions is less. -/
lemma firstInversion?_map_congr {key key' : String → Nat} {names : List String}
    (hkeys : ∀ a ∈ names, ∀ b ∈ names, key b < key a ↔ key' b < key' a) (position : Nat) :
    firstInversion? position (names.map fun h => (h, key h)) =
      firstInversion? position (names.map fun h => (h, key' h)) := by
  induction names generalizing position with
  | nil => rfl
  | cons first names ih =>
    cases names with
    | nil => rfl
    | cons second names =>
      have hrest := ih (fun a ha b hb => hkeys a (List.mem_cons_of_mem _ ha) b
        (List.mem_cons_of_mem _ hb)) (position + 1)
      simp only [List.map_cons] at hrest
      simp only [List.map_cons, firstInversion?, hrest, hkeys first (by simp) second (by simp)]

/-- The kind takes in every heading that the schema names. -/
structure Covers (schema : Schema) (kind : String → Prop) : Prop where
  required : ∀ heading ∈ schema.required, kind heading
  optional : ∀ heading ∈ schema.optional, kind heading

lemma covers_isRecognized (schema : Schema) : Covers schema (schema.isRecognized · = true) where
  required _ h := isRecognized_iff.mpr (.inl h)
  optional _ h := isRecognized_iff.mpr (.inr h)

lemma covers_true (schema : Schema) : Covers schema fun _ => True where
  required _ _ := trivial
  optional _ _ := trivial

lemma anchor_mem_required (schema : Schema) : schema.anchor ∈ schema.required :=
  List.getLast_mem schema.valid.required_ne_nil

namespace FirstOccurrences

lemma mem_iff_of_kind (h : FirstOccurrences outline kind hs) {heading : String}
    (hkind : kind heading) : heading ∈ hs ↔ heading ∈ outline := by
  rw [h.mem_iff, and_iff_left hkind]

lemma missing_eq (h : FirstOccurrences outline kind hs) (hcovers : Covers schema kind) :
    missing schema hs = missing schema outline := by
  rw [missing_eq_filter, missing_eq_filter]
  refine List.filter_congr fun heading hheading => ?_
  simp only [h.mem_iff_of_kind (hcovers.required heading hheading)]

lemma templateOrder?_eq (h : FirstOccurrences outline kind hs) (hcovers : Covers schema kind) :
    templateOrder? schema hs = templateOrder? schema outline := by
  have hinOutline : FirstOccurrences outline (· ∈ schema.required) (requiredInOrder schema hs) :=
    h.trans (firstOccurrences_requiredInOrder schema hs) hcovers.required
  rw [templateOrder?, templateOrder?,
    hinOutline.unique (firstOccurrences_requiredInOrder schema outline)]

lemma artifactOrder?_eq (h : FirstOccurrences outline kind hs) (hcovers : Covers schema kind)
    (hcomplete : Complete schema outline) :
    artifactOrder? schema hs = artifactOrder? schema outline := by
  have hmem : Complete schema hs := fun heading hheading =>
    (h.mem_iff_of_kind (hcovers.required heading hheading)).mpr (hcomplete heading hheading)
  rw [artifactOrder?, artifactOrder?, presentRequired_eq_map hmem,
    presentRequired_eq_map hcomplete]
  exact firstInversion?_map_congr (fun a ha b hb => h.precedes_iff (hmem b hb) (hmem a ha)) 1

lemma early_eq (h : FirstOccurrences outline kind hs) (hcovers : Covers schema kind) :
    early schema hs = early schema outline := by
  refine List.filter_congr fun heading hoptional => ?_
  have hheading := h.mem_iff_of_kind (hcovers.optional heading hoptional)
  have hanchor := h.mem_iff_of_kind (hcovers.required _ (anchor_mem_required schema))
  rw [Bool.eq_iff_iff, decide_eq_true_iff, decide_eq_true_iff, Early, Early, ← hheading, ← hanchor,
    and_congr_right_iff]
  intro hmem
  rw [and_congr_right_iff]
  exact fun hanchorMem => h.precedes_iff hmem hanchorMem

/-- A template is judged by its first occurrences, extra headings apart. -/
lemma templateBase_eq (h : FirstOccurrences outline kind hs) (hcovers : Covers schema kind) :
    templateBase schema hs = templateBase schema outline := by
  rw [templateBase, templateBase, h.missing_eq hcovers, h.templateOrder?_eq hcovers]

/-- An artifact is as well. -/
lemma artifactBase_eq (h : FirstOccurrences outline kind hs) (hcovers : Covers schema kind) :
    artifactBase schema hs = artifactBase schema outline := by
  rw [artifactBase, artifactBase, placement, placement, h.missing_eq hcovers, h.early_eq hcovers]
  split
  · next hmissing => rw [h.artifactOrder?_eq hcovers (missing_eq_nil_iff.mp hmissing)]
  · rfl

end FirstOccurrences

/-! ### Later repetitions -/

lemma extraPart_eraseDups : extraPart schema outline.eraseDups = extraPart schema outline := by
  have h := firstOccurrences_eraseDups outline
  have hextra : extra schema outline.eraseDups = extra schema outline := by
    refine FirstOccurrences.unique ?_ (firstOccurrences_extra schema outline)
    exact h.trans (firstOccurrences_extra schema outline.eraseDups) fun _ _ => trivial
  rw [extraPart, extraPart, hextra, h.missing_eq (covers_true schema)]

/-! ### Headings that the schema does not name -/

/-- What is left of an outline from which some occurrences of headings that the schema does not name
are taken out. -/
inductive Thinned (schema : Schema) : List String → List String → Prop
  | nil : Thinned schema [] []
  | keep {heading : String} {outline kept : List String} (h : Thinned schema outline kept) :
      Thinned schema (heading :: outline) (heading :: kept)
  | drop {heading : String} {outline kept : List String} (hrequired : heading ∉ schema.required)
      (hoptional : heading ∉ schema.optional) (h : Thinned schema outline kept) :
      Thinned schema (heading :: outline) kept

lemma Thinned.filter_eq (h : Thinned schema outline kept) :
    kept.filter schema.isRecognized = outline.filter schema.isRecognized := by
  induction h with
  | nil => rfl
  | keep h ih => rw [List.filter_cons, List.filter_cons, ih]
  | drop hrequired hoptional h ih =>
    have hunnamed := isRecognized_eq_false_iff.mpr ⟨hrequired, hoptional⟩
    rw [ih, List.filter_cons_of_neg (Bool.not_eq_true _ ▸ hunnamed)]

/-- The headings that the schema names are left. -/
lemma Thinned.firstOccurrences (h : Thinned schema outline kept) :
    FirstOccurrences kept (schema.isRecognized · = true)
      (outline.filter schema.isRecognized).eraseDups := by
  rw [← h.filter_eq]
  exact firstOccurrences_eraseDups_filter kept schema.isRecognized

lemma Thinned.templateBase_eq (h : Thinned schema outline kept) :
    templateBase schema kept = templateBase schema outline := by
  -- One list of first occurrences stands for both outlines.
  have hnamed := firstOccurrences_eraseDups_filter outline schema.isRecognized
  have hcovers := covers_isRecognized schema
  rw [← h.firstOccurrences.templateBase_eq hcovers, hnamed.templateBase_eq hcovers]

lemma Thinned.artifactBase_eq (h : Thinned schema outline kept) :
    artifactBase schema kept = artifactBase schema outline := by
  have hnamed := firstOccurrences_eraseDups_filter outline schema.isRecognized
  have hcovers := covers_isRecognized schema
  rw [← h.firstOccurrences.artifactBase_eq hcovers, hnamed.artifactBase_eq hcovers]

lemma thinned_filter (schema : Schema) (outline : List String) :
    Thinned schema outline (outline.filter schema.isRecognized) := by
  induction outline with
  | nil => exact .nil
  | cons heading outline ih =>
    rw [List.filter_cons]
    split
    · exact .keep ih
    · next hunnamed =>
      obtain ⟨hrequired, hoptional⟩ := isRecognized_eq_false_iff.mp (Bool.not_eq_true _ ▸ hunnamed)
      exact .drop hrequired hoptional ih

lemma extraPart_filter : extraPart schema (outline.filter schema.isRecognized) = [] := by
  have hnamed : Named schema (outline.filter schema.isRecognized) := fun heading h =>
    (List.mem_filter.mp h).2
  rw [extraPart, extra_eq_nil_iff.mpr hnamed]
  split <;> rfl

/-- Both comparisons give the same for an outline without its later repetitions. If occurrences of
headings that the schema does not name are taken out of an outline, both give the same apart from
extra headings, and if all are, just this. -/
theorem template_artifact_thinned (schema : Schema) (outline : List String) :
    (template schema outline.eraseDups = template schema outline ∧
      artifact schema outline.eraseDups = artifact schema outline) ∧
    (∀ kept, Thinned schema outline kept →
      apartFromExtra (template schema kept) = apartFromExtra (template schema outline) ∧
      apartFromExtra (artifact schema kept) = apartFromExtra (artifact schema outline)) ∧
    template schema (outline.filter schema.isRecognized) =
      apartFromExtra (template schema outline) ∧
    artifact schema (outline.filter schema.isRecognized) =
      apartFromExtra (artifact schema outline) := by
  have hdistinct := firstOccurrences_eraseDups outline
  have hcovers := covers_true schema
  have hall := thinned_filter schema outline
  refine ⟨⟨?_, ?_⟩, fun kept h => ⟨?_, ?_⟩, ?_, ?_⟩
  · rw [template_eq_append, extraPart_eraseDups, hdistinct.templateBase_eq hcovers,
      ← template_eq_append]
  · rw [artifact_eq_append, extraPart_eraseDups, hdistinct.artifactBase_eq hcovers,
      ← artifact_eq_append]
  · rw [apartFromExtra_template, apartFromExtra_template, h.templateBase_eq]
  · rw [apartFromExtra_artifact, apartFromExtra_artifact, h.artifactBase_eq]
  · rw [template_eq_append, extraPart_filter, List.append_nil, apartFromExtra_template,
      hall.templateBase_eq]
  · rw [artifact_eq_append, extraPart_filter, List.append_nil, apartFromExtra_artifact,
      hall.artifactBase_eq]

/-- One of two unknown headings is taken out of an artifact in which headings are repeated, in the
wrong order and misplaced. -/
theorem template_artifact_thinned_repeated :
    let schema : Schema := ⟨["## A", "## B"], ["## N"], by constructor <;> decide⟩
    let outline := ["## X", "## N", "## B", "## X", "## A", "## Y", "## B"]
    let kept := ["## N", "## B", "## X", "## A", "## B"]
    Thinned schema outline kept ∧
      artifact schema outline =
        [.outOfOrder "## A" "## B" 1, .optionalMisplaced "## N" "## B", .extra ["## X", "## Y"]] ∧
      apartFromExtra (template schema kept) = [.outOfOrder "## A" "## B" 1] ∧
      apartFromExtra (artifact schema kept) =
        [.outOfOrder "## A" "## B" 1, .optionalMisplaced "## N" "## B"] := by
  intro schema outline kept
  have hthinned : Thinned schema outline kept :=
    .drop (by decide) (by decide)
      (.keep (.keep (.keep (.keep (.drop (by decide) (by decide) (.keep .nil))))))
  obtain ⟨htemplate, hartifact⟩ := (template_artifact_thinned schema outline).2.1 kept hthinned
  refine ⟨hthinned, by decide, htemplate.trans (by decide), hartifact.trans (by decide)⟩

end OutlineLint.Comparison
