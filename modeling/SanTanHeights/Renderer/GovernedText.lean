import SanTanHeights.Renderer.Adapters

/-!
# Governed text across channels

The page and the lines walk over the same sections, cards and findings.  The
page leaves out status and confidence labels, so both show the same texts
exactly when every label of what is shown also stands elsewhere.
-/

namespace SanTanHeights.Renderer

open Foundation Foundation.Outcome

/-! ## Escaping -/

theorem unescapeChars_cons {char : Char} (plain : char ≠ '&') (rest : List Char) :
    unescapeChars (char :: rest) = char :: unescapeChars rest := by
  rw [unescapeChars.eq_def]
  split <;> simp_all

theorem unescapeChars_escapeChar (char : Char) (rest : List Char) :
    unescapeChars (escapeChar char ++ rest) = char :: unescapeChars rest := by
  unfold escapeChar
  split_ifs with ampersand less greater double single
  · rw [ampersand]
    rfl
  · rw [less]
    rfl
  · rw [greater]
    rfl
  · rw [double]
    rfl
  · rw [single]
    rfl
  · exact unescapeChars_cons ampersand rest

@[simp] theorem unescape_escape (text : String) : unescape (escape text) = text := by
  have chars : ∀ chars : List Char,
      unescapeChars (chars.flatMap escapeChar) = chars := by
    intro chars
    induction chars with
    | nil => rfl
    | cons char chars ih =>
        rw [List.flatMap_cons, unescapeChars_escapeChar, ih]
  rw [unescape, escape, String.toList_ofList, chars, String.ofList_toList]

/-! ## Labels -/

/-- The labels of a finding. -/
def ReportFinding.labels (finding : ReportFinding) : List String :=
  shown finding.statusLabel ++ shown finding.confidenceLabel

/-- The texts of a finding besides its labels. -/
def ReportFinding.texts (finding : ReportFinding) : List String :=
  [finding.label, finding.displayText] ++ shown finding.limitation

namespace CanonicalReport

variable (report : CanonicalReport)

/-- The cards that a report shows. -/
def shownCards : List ReportCard :=
  report.sections.flatMap report.cardsOf

/-- The findings that a report shows. -/
def shownFindings : List ReportFinding :=
  report.shownCards.flatMap report.findingsOf

/-- The labels of what a report shows. -/
def labels : List String :=
  report.shownCards.flatMap (fun card => shown card.statusLabel) ++
    report.shownFindings.flatMap ReportFinding.labels

/-- The texts of what a report shows, besides labels. -/
def texts : List String :=
  [report.address, report.community] ++ report.summary ++
    (report.sections.flatMap fun entry =>
      [entry.title] ++ shown entry.summary) ++
    (report.shownCards.flatMap fun card => [card.title] ++ shown card.body) ++
    report.shownFindings.flatMap ReportFinding.texts ++
    (report.glossary.flatMap fun entry => [entry.label, entry.definition]) ++
    report.disclaimers

end CanonicalReport

variable {text : String} {request : RenderRequest}

theorem ne_empty_of_mem_shown {value : Option String} (present : text ∈ shown value) :
    text ≠ "" := by
  unfold shown at present
  rw [Option.mem_toList, Option.filter_eq_some_iff] at present
  simpa using present.2

/-! ## The page -/

theorem emitted_append (left right : List Part) :
    emitted (left ++ right) = emitted left ++ emitted right :=
  List.filterMap_append

theorem emitted_flatMap {α : Type*} (items : List α) (part : α → List Part) :
    emitted (items.flatMap part) = items.flatMap fun item => emitted (part item) := by
  induction items with
  | nil => rfl
  | cons item items ih =>
      rw [List.flatMap_cons, List.flatMap_cons, emitted_append, ih]

/-- A text of its own between tags. -/
theorem emitted_wrapped (opening closing : String) (texts : List String) :
    emitted (texts.flatMap fun text =>
      [.markup opening, .governed text, .markup closing]) = texts := by
  rw [emitted_flatMap]
  induction texts with
  | nil => rfl
  | cons text texts ih =>
      rw [List.flatMap_cons, ih]
      simp [emitted]

theorem emitted_findingParts (finding : ReportFinding) :
    emitted (WebRenderAdapter.findingParts finding) = finding.texts := by
  rw [WebRenderAdapter.findingParts, emitted_append, emitted_wrapped]
  simp [emitted, ReportFinding.texts]

theorem emitted_cardParts (report : CanonicalReport) (card : ReportCard) :
    emitted (WebRenderAdapter.cardParts report card) =
      [card.title] ++ shown card.body ++ (report.findingsOf card).flatMap ReportFinding.texts := by
  rw [WebRenderAdapter.cardParts, emitted_append, emitted_append,
    emitted_append, emitted_wrapped, emitted_flatMap]
  simp only [emitted_findingParts]
  simp [emitted]

theorem emitted_sectionParts (report : CanonicalReport) (entry : ReportSection) :
    emitted (WebRenderAdapter.sectionParts report entry) =
      [entry.title] ++ shown entry.summary ++
        (report.cardsOf entry).flatMap fun card =>
          [card.title] ++ shown card.body ++
            (report.findingsOf card).flatMap ReportFinding.texts := by
  rw [WebRenderAdapter.sectionParts, emitted_append, emitted_append,
    emitted_append, emitted_wrapped, emitted_flatMap]
  simp only [emitted_cardParts]
  simp [emitted]

theorem emitted_summaryParts (summary : List String) :
    emitted (WebRenderAdapter.summaryParts summary) = summary := by
  unfold WebRenderAdapter.summaryParts
  split_ifs with empty
  · rw [empty]
    rfl
  · rw [emitted_append, emitted_append, emitted_wrapped]
    simp [emitted]

theorem emitted_glossaryParts (glossary : List GlossaryEntry) :
    emitted (WebRenderAdapter.glossaryParts glossary) =
      glossary.flatMap fun entry => [entry.label, entry.definition] := by
  unfold WebRenderAdapter.glossaryParts
  split_ifs with empty
  · rw [empty]
    rfl
  · rw [emitted_append, emitted_append, emitted_flatMap]
    simp [emitted]

/-! ## Sections, cards and findings -/

theorem mem_flatMap_append {α : Type*} {items : List α} {first second : α → List String} :
    text ∈ items.flatMap (fun item => first item ++ second item) ↔
      text ∈ items.flatMap first ∨ text ∈ items.flatMap second := by
  simp only [List.mem_flatMap, List.mem_append, and_or_left, exists_or]

/-- The texts of nested parts, kind by kind. -/
theorem mem_sections {report : CanonicalReport} {ofSection : ReportSection → List String}
    {ofCard : ReportCard → List String}
    {ofFinding : ReportFinding → List String} {text : String} :
    (text ∈ report.sortedSections.flatMap fun entry =>
      ofSection entry ++ (report.cardsOf entry).flatMap fun card =>
        ofCard card ++ (report.findingsOf card).flatMap ofFinding) ↔
      text ∈ report.sections.flatMap ofSection ∨
        text ∈ report.shownCards.flatMap ofCard ∨
        text ∈ report.shownFindings.flatMap ofFinding := by
  have unsorted : ∀ part : ReportSection → List String,
      text ∈ report.sortedSections.flatMap part ↔ text ∈ report.sections.flatMap part := by
    intro part
    simp only [CanonicalReport.sortedSections, List.mem_flatMap, Sorting.mem_sortedBy]
  rw [unsorted, mem_flatMap_append, ← List.flatMap_assoc]
  change _ ∨ text ∈ report.shownCards.flatMap _ ↔ _
  rw [mem_flatMap_append, ← List.flatMap_assoc]
  rfl

/-- The page shows the texts of a report, and no labels. -/
theorem mem_emitted_parts {report : CanonicalReport} :
    text ∈ emitted (WebRenderAdapter.parts request report) ↔ text ∈ report.texts := by
  simp only [WebRenderAdapter.parts, emitted_append, emitted_summaryParts,
    emitted_glossaryParts, emitted_flatMap, emitted_sectionParts,
    List.mem_append, mem_sections, CanonicalReport.texts]
  simp [emitted, or_assoc]

/-! ## The lines -/

theorem ReportFinding.mem_lines {finding : ReportFinding} :
    text ∈ finding.lines ↔ text ∈ finding.texts ∨ text ∈ finding.labels := by
  simp only [lines, texts, labels, List.mem_append]
  tauto

theorem mem_sectionLines {report : CanonicalReport} :
    text ∈ report.sortedSections.flatMap report.sectionLines ↔
      (text ∈ report.sections.flatMap (fun entry =>
          [entry.title] ++ shown entry.summary) ∨
        text ∈ report.shownCards.flatMap (fun card =>
          [card.title] ++ shown card.body) ∨
        text ∈ report.shownFindings.flatMap ReportFinding.texts) ∨
      text ∈ report.labels := by
  have findings :
      text ∈ report.shownFindings.flatMap ReportFinding.lines ↔
        text ∈ report.shownFindings.flatMap ReportFinding.texts ∨
          text ∈ report.shownFindings.flatMap ReportFinding.labels := by
    simp only [List.mem_flatMap, ReportFinding.mem_lines, and_or_left, exists_or]
  have nested : text ∈ report.sortedSections.flatMap report.sectionLines ↔
      text ∈ report.sections.flatMap (fun entry =>
          [entry.title] ++ shown entry.summary) ∨
        text ∈ report.shownCards.flatMap (fun card =>
          ([card.title] ++ shown card.body) ++ shown card.statusLabel) ∨
        text ∈ report.shownFindings.flatMap ReportFinding.lines :=
    @mem_sections report (fun entry => [entry.title] ++ shown entry.summary)
      (fun card => ([card.title] ++ shown card.body) ++ shown card.statusLabel)
      ReportFinding.lines text
  have cards :
      (text ∈ report.shownCards.flatMap fun card =>
        ([card.title] ++ shown card.body) ++ shown card.statusLabel) ↔
      text ∈ report.shownCards.flatMap (fun card =>
          [card.title] ++ shown card.body) ∨
        text ∈ report.shownCards.flatMap fun card => shown card.statusLabel :=
    mem_flatMap_append
  refine nested.trans ?_
  rw [cards, findings, CanonicalReport.labels, List.mem_append]
  have regroup : ∀ entry card status finding label : Prop,
      entry ∨ (card ∨ status) ∨ finding ∨ label ↔ (entry ∨ card ∨ finding) ∨ status ∨ label := by
    grind
  exact regroup _ _ _ _ _

namespace CanonicalReport.Filled

variable {report : CanonicalReport}

theorem shownCard (filled : report.Filled) {card : ReportCard}
    (present : card ∈ report.shownCards) : card.title ≠ "" := by
  obtain ⟨entry, -, listed⟩ := List.mem_flatMap.mp present
  obtain ⟨cardId, -, found⟩ := List.mem_filterMap.mp listed
  exact filled.cards card (List.mem_reverse.mp (List.mem_of_find?_eq_some found))

theorem shownFinding (filled : report.Filled) {finding : ReportFinding}
    (present : finding ∈ report.shownFindings) :
    finding.label ≠ "" ∧ finding.displayText ≠ "" := by
  obtain ⟨card, -, listed⟩ := List.mem_flatMap.mp present
  obtain ⟨findingId, -, found⟩ := List.mem_filterMap.mp listed
  exact filled.findings finding (List.mem_reverse.mp (List.mem_of_find?_eq_some found))

/-- No text of a filled report is empty. -/
theorem ne_empty_of_mem_texts (filled : report.Filled)
    (present : text ∈ report.texts) : text ≠ "" := by
  simp only [CanonicalReport.texts, List.mem_append, List.mem_flatMap,
    List.mem_cons, List.not_mem_nil, or_false, ReportFinding.texts] at present
  rcases present with
    ((((((rfl | rfl) | summary) | ⟨entry, listed, rfl | later⟩) | ⟨card, listed, rfl | later⟩) |
      ⟨finding, listed, (rfl | rfl) | later⟩) | ⟨entry, listed, rfl | rfl⟩) | disclaimer
  · exact filled.address
  · exact filled.community
  · exact filled.summary text summary
  · exact filled.sections entry listed
  · exact ne_empty_of_mem_shown later
  · exact filled.shownCard listed
  · exact ne_empty_of_mem_shown later
  · exact (filled.shownFinding listed).1
  · exact (filled.shownFinding listed).2
  · exact ne_empty_of_mem_shown later
  · exact (filled.glossary entry listed).1
  · exact (filled.glossary entry listed).2
  · exact filled.disclaimers text disclaimer

end CanonicalReport.Filled

theorem ne_empty_of_mem_labels {report : CanonicalReport}
    (present : text ∈ report.labels) : text ≠ "" := by
  simp only [CanonicalReport.labels, ReportFinding.labels, List.mem_append,
    List.mem_flatMap] at present
  rcases present with ⟨card, -, label⟩ | ⟨finding, -, label | label⟩
  · exact ne_empty_of_mem_shown label
  · exact ne_empty_of_mem_shown label
  · exact ne_empty_of_mem_shown label

/-- The lines show the texts and the labels of a report. -/
theorem mem_governedTextLines {report : CanonicalReport} (filled : report.Filled) :
    text ∈ governedTextLines report ↔ text ∈ report.texts ∨ text ∈ report.labels := by
  have listed : text ∈ [report.address, report.community] ++ report.summary ++
        report.sortedSections.flatMap report.sectionLines ++
        (report.glossary.flatMap fun entry =>
          [entry.label, entry.definition]) ++ report.disclaimers ↔
      text ∈ report.texts ∨ text ∈ report.labels := by
    simp only [CanonicalReport.texts, List.mem_append, mem_sectionLines]
    tauto
  rw [governedTextLines, List.mem_filter, listed, decide_eq_true_eq]
  constructor
  · exact And.left
  · intro present
    refine ⟨present, ?_⟩
    rcases present with text | label
    · exact filled.ne_empty_of_mem_texts text
    · exact ne_empty_of_mem_labels label

/-! ## The channels -/

theorem bytes_of_buildArtifact {renderType mimeType : String} {artifact : RenderedArtifact}
    (built : buildArtifact renderType mimeType text = .ok artifact) :
    artifact.artifactBytes = Sha256.utf8 text.toList := by
  obtain ⟨-, ended⟩ := require_bind_eq_ok.mp built
  rw [← pure_eq_ok.mp ended]

theorem bytes_of_render
    {payload : Json} {report : CanonicalReport} {artifact : RenderedArtifact}
    (read : CanonicalReport.read payload = .ok report)
    (rendered : WebRenderAdapter.render request payload = .ok artifact) :
    artifact.artifactBytes = Sha256.utf8 (html (WebRenderAdapter.parts request report)).toList := by
  obtain ⟨found, same, rendered⟩ := bind_eq_ok.mp rendered
  cases read.symm.trans same
  obtain ⟨⟨⟩, -, built⟩ := bind_eq_ok.mp rendered
  exact bytes_of_buildArtifact built

/-- The page of an accepted payload shows the same texts as the lines of the
other channels exactly when each label of a shown card or finding also stands
elsewhere in the report. -/
theorem same_governed_text_iff {schema : Report.CanonicalReportSchema} {request : RenderRequest}
    {payload : Json} {artifact : RenderedArtifact} (honours : Honours schema)
    (accepted : schema.validate payload = .ok ())
    (rendered : WebRenderAdapter.render request payload = .ok artifact) :
    ∃ report parts, CanonicalReport.read payload = .ok report ∧
      parts = WebRenderAdapter.parts request report ∧
      artifact.artifactBytes = Sha256.utf8 (html parts).toList ∧
      ((∀ text, text ∈ emitted parts ↔ text ∈ governedTextLines report) ↔
        ∀ label ∈ report.labels, label ∈ report.texts) := by
  have valid : schema.firstError payload = none := by
    obtain ⟨-, -, validated⟩ := bind_eq_ok.mp accepted
    split at validated
    · cases validated
    · assumption
  obtain ⟨report, read, filled⟩ := honours payload valid
  refine ⟨report, _, read, rfl, bytes_of_render read rendered, ?_⟩
  simp only [mem_emitted_parts, mem_governedTextLines filled]
  constructor
  · intro same label present
    exact (same label).mpr (.inr present)
  · intro elsewhere text
    exact ⟨.inl, fun present => present.elim id (elsewhere text)⟩

/-! ## Sample payloads -/

instance (report : CanonicalReport) : Decidable report.Filled :=
  decidable_of_iff (report.address ≠ "" ∧ report.community ≠ "" ∧
      (∀ text ∈ report.summary, text ≠ "") ∧ (∀ entry ∈ report.sections, entry.title ≠ "") ∧
      (∀ card ∈ report.cards, card.title ≠ "") ∧
      (∀ finding ∈ report.findings, finding.label ≠ "" ∧ finding.displayText ≠ "") ∧
      (∀ entry ∈ report.glossary, entry.label ≠ "" ∧ entry.definition ≠ "") ∧
      ∀ text ∈ report.disclaimers, text ≠ "")
    ⟨fun ⟨address, community, summary, sections, cards, findings, glossary,
        disclaimers⟩ =>
      ⟨address, community, summary, sections, cards, findings, glossary, disclaimers⟩,
    fun filled => ⟨filled.address, filled.community, filled.summary,
      filled.sections, filled.cards, filled.findings, filled.glossary, filled.disclaimers⟩⟩

/-- A validator that checks what the adapters read. -/
def sampleSchema : Report.CanonicalReportSchema where
  firstError := fun payload =>
    match CanonicalReport.read payload with
    | .ok report => if report.Filled then none else some "minLength"
    | .error message => some message

theorem sampleSchema_honours : Honours sampleSchema := by
  intro payload accepted
  simp only [sampleSchema] at accepted
  split at accepted
  · rename_i report read
    split_ifs at accepted with filled
    exact ⟨report, read, filled⟩
  · cases accepted

theorem exists_render {payload : Json} {report : CanonicalReport}
    (read : CanonicalReport.read payload = .ok report)
    (matching : validateRequestPayload request report .web = .ok ()) :
    ∃ artifact, WebRenderAdapter.render request payload = .ok artifact := by
  have filled : Sha256.utf8
      (html (WebRenderAdapter.parts request report)).toList ≠ [] := by
    have closing : Sha256.utf8
        ([Part.markup "</main></body></html>"].flatMap fun part =>
          part.html.toList) ≠ [] := by
      decide
    rw [html, String.toList_ofList, WebRenderAdapter.parts,
      List.flatMap_append, Sha256.utf8, List.flatMap_append]
    exact List.append_ne_nil_of_right_ne_nil _ closing
  have built : ∃ artifact, buildArtifact "WEB" "text/html"
      (html (WebRenderAdapter.parts request report)) = .ok artifact :=
    ⟨_, require_bind_eq_ok.mpr ⟨filled, rfl⟩⟩
  obtain ⟨artifact, built⟩ := built
  exact ⟨artifact, bind_eq_ok.mpr ⟨report, read, bind_eq_ok.mpr ⟨(), matching, built⟩⟩⟩

/-- A report with one card, which has a status label. -/
def samplePayload : Json :=
  .obj [("metadata", .obj [("property_id", .str "p"), ("snapshot_id", .str "s")]),
      ("property_identity", .obj
        [("property_id", .str "p"), ("address", .str "123 Test St"),
          ("community", .str "San Tan Heights")]),
      ("summary", .arr []), ("sections", .arr [.obj
        [("section_id", .str "lot-location"), ("title", .str "Lot"),
          ("order", .int 1), ("card_ids", .arr [.str "c1"])]]),
      ("findings", .arr []), ("cards", .arr [.obj
        [("card_id", .str "c1"), ("section_id", .str "lot-location"),
          ("title", .str "Rear Context"), ("finding_ids", .arr []),
          ("status_label", .str "Verified")]]),
      ("glossary", .arr []), ("disclaimers", .arr []),
      ("lineage", .obj [("snapshot_id", .str "s")])]

/-- What is read of it. -/
def sampleReport : CanonicalReport where
  metadataPropertyId := "p"
  identityPropertyId := "p"
  address := "123 Test St"
  community := "San Tan Heights"
  summary := []
  sections := [⟨"lot-location", "Lot", 1, none, ["c1"]⟩]
  cards := [⟨"c1", "Rear Context", none, some "Verified", []⟩]
  findings := []
  glossary := []
  disclaimers := []

def sampleRequest : RenderRequest where
  reportId := "r"
  propertyId := "p"
  renderType := .web
  presentationInputHash := "00"
  templateId := "PROPERTY_REPORT"

theorem samplePayload_read : CanonicalReport.read samplePayload = .ok sampleReport := by
  rfl

theorem samplePayload_accepted : sampleSchema.validate samplePayload = .ok () := by
  rfl

theorem same_governed_text_iff_sample :
    ∃ artifact report parts,
      WebRenderAdapter.render sampleRequest samplePayload = .ok artifact ∧
      CanonicalReport.read samplePayload = .ok report ∧
      parts = WebRenderAdapter.parts sampleRequest report ∧
      ((∀ text, text ∈ emitted parts ↔ text ∈ governedTextLines report) ↔
        ∀ label ∈ report.labels, label ∈ report.texts) := by
  obtain ⟨artifact, rendered⟩ :=
    exists_render (samplePayload_read) (rfl :
      validateRequestPayload sampleRequest sampleReport .web = .ok ())
  obtain ⟨report, parts, read, made, -, same⟩ := same_governed_text_iff
    sampleSchema_honours samplePayload_accepted rendered
  exact ⟨artifact, report, parts, rendered, read, made, same⟩

/-- The status label of a card is missing on the page. -/
theorem status_label_not_emitted :
    ∃ (schema : Report.CanonicalReportSchema) (request : RenderRequest)
      (payload : Json) (artifact : RenderedArtifact)
      (report : CanonicalReport) (text : String),
      Honours schema ∧ schema.validate payload = .ok () ∧
      WebRenderAdapter.render request payload = .ok artifact ∧
      CanonicalReport.read payload = .ok report ∧
      text ∈ governedTextLines report ∧
      text ∉ emitted (WebRenderAdapter.parts request report) := by
  obtain ⟨artifact, rendered⟩ :=
    exists_render samplePayload_read (rfl :
      validateRequestPayload sampleRequest sampleReport .web = .ok ())
  refine ⟨sampleSchema, sampleRequest, samplePayload, artifact, sampleReport,
    "Verified", sampleSchema_honours, samplePayload_accepted, rendered,
    samplePayload_read, ?_, ?_⟩
  · rw [mem_governedTextLines (by decide)]
    decide
  · rw [mem_emitted_parts]
    decide

end SanTanHeights.Renderer
