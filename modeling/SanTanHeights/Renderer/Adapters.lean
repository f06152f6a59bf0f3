import SanTanHeights.Foundation.Sha256
import SanTanHeights.Report.Schema

/-!
# Render adapters

`WebRenderAdapter`, and the lines that `governed_text_lines` gives to the PDF
and PRINT adapters.  A payload is read as the record of the fields that the
adapters use; the schema admits texts, integers, nulls and lists of texts only
where these are read.
-/

namespace SanTanHeights.Renderer

open Foundation Foundation.Outcome

/-! ## Canonical reports -/

structure ReportFinding where
  findingId : String
  label : String
  displayText : String
  statusLabel : Option String
  confidenceLabel : Option String
  limitation : Option String
  deriving DecidableEq, Repr

structure ReportCard where
  cardId : String
  title : String
  body : Option String
  statusLabel : Option String
  findingIds : List String
  deriving DecidableEq, Repr

structure ReportSection where
  sectionId : String
  title : String
  order : Int
  summary : Option String
  cardIds : List String
  deriving DecidableEq, Repr

structure GlossaryEntry where
  label : String
  definition : String
  deriving DecidableEq, Repr

/-- What the adapters read of a canonical payload. -/
structure CanonicalReport where
  metadataPropertyId : String
  identityPropertyId : String
  address : String
  community : String
  summary : List String
  sections : List ReportSection
  cards : List ReportCard
  findings : List ReportFinding
  glossary : List GlossaryEntry
  disclaimers : List String
  deriving DecidableEq, Repr

/-- `value.get(key)`, where a text or null is admitted. -/
def optionalText (key : String) : Json → Except String (Option String)
  | .obj members =>
      match members.lookup key with
      | none | some .null => .ok none
      | some (.str text) => .ok (some text)
      | some _ => .error "TypeError"
  | _ => .error "AttributeError"

def ReportFinding.read (value : Json) : Except String ReportFinding := do
  return {
    findingId := ← value.textItem "finding_id"
    label := ← value.textItem "label"
    displayText := ← value.textItem "display_text"
    statusLabel := ← optionalText "status_label" value
    confidenceLabel := ← optionalText "confidence_label" value
    limitation := ← optionalText "limitation" value }

def ReportCard.read (value : Json) : Except String ReportCard := do
  return {
    cardId := ← value.textItem "card_id"
    title := ← value.textItem "title"
    body := ← optionalText "body" value
    statusLabel := ← optionalText "status_label" value
    findingIds := ← value.textItems "finding_ids" }

def ReportSection.read (value : Json) : Except String ReportSection := do
  return {
    sectionId := ← value.textItem "section_id"
    title := ← value.textItem "title"
    order := ← value.item "order" >>= Json.integer
    summary := ← optionalText "summary" value
    cardIds := ← value.textItems "card_ids" }

def GlossaryEntry.read (value : Json) : Except String GlossaryEntry := do
  return {
    label := ← value.textItem "label"
    definition := ← value.textItem "definition" }

/-- The items of a list, each of them read. -/
def readItems {α : Type} (read : Json → Except String α) (key : String)
    (value : Json) : Except String (List α) := do
  let items ← value.item key >>= Json.items
  items.mapM read

def CanonicalReport.read (payload : Json) : Except String CanonicalReport := do
  let metadata ← payload.item "metadata"
  let identity ← payload.item "property_identity"
  return {
    metadataPropertyId := ← metadata.textItem "property_id"
    identityPropertyId := ← identity.textItem "property_id"
    address := ← identity.textItem "address"
    community := ← identity.textItem "community"
    summary := ← payload.textItems "summary"
    sections := ← readItems ReportSection.read "sections" payload
    cards := ← readItems ReportCard.read "cards" payload
    findings := ← readItems ReportFinding.read "findings" payload
    glossary := ← readItems GlossaryEntry.read "glossary" payload
    disclaimers := ← payload.textItems "disclaimers" }

/-- The texts that must not be empty by `canonical-report.schema.json`. -/
structure CanonicalReport.Filled (report : CanonicalReport) : Prop where
  address : report.address ≠ ""
  community : report.community ≠ ""
  summary : ∀ text ∈ report.summary, text ≠ ""
  sections : ∀ entry ∈ report.sections, entry.title ≠ ""
  cards : ∀ card ∈ report.cards, card.title ≠ ""
  findings : ∀ finding ∈ report.findings, finding.label ≠ "" ∧ finding.displayText ≠ ""
  glossary : ∀ entry ∈ report.glossary, entry.label ≠ "" ∧ entry.definition ≠ ""
  disclaimers : ∀ text ∈ report.disclaimers, text ≠ ""

/-- The validator reports an error for a payload that lacks what the schema
requires. -/
def Honours (schema : Report.CanonicalReportSchema) : Prop :=
  ∀ payload, schema.firstError payload = none →
    ∃ report, CanonicalReport.read payload = .ok report ∧ report.Filled

namespace CanonicalReport

variable (report : CanonicalReport)

/-- `{f['finding_id']: f for f in findings}.get(finding_id)`. -/
def finding (findingId : String) : Option ReportFinding :=
  report.findings.reverse.find? fun finding => finding.findingId = findingId

/-- `{c['card_id']: c for c in cards}.get(card_id)`. -/
def card (cardId : String) : Option ReportCard :=
  report.cards.reverse.find? fun card => card.cardId = cardId

/-- `sorted(sections, key=lambda s: s['order'])`. -/
def sortedSections : List ReportSection :=
  Sorting.sortedBy ReportSection.order report.sections

/-- The cards of a section that are there. -/
def cardsOf (entry : ReportSection) : List ReportCard :=
  entry.cardIds.filterMap report.card

/-- The findings of a card that are there. -/
def findingsOf (card : ReportCard) : List ReportFinding :=
  card.findingIds.filterMap report.finding

end CanonicalReport

/-- A text that Python takes for true. -/
def shown (text : Option String) : List String :=
  (text.filter fun text => text ≠ "").toList

/-! ## HTML -/

/-- One character of `html.escape`. -/
def escapeChar (char : Char) : List Char :=
  if char = '&' then ['&', 'a', 'm', 'p', ';']
  else if char = '<' then ['&', 'l', 't', ';']
  else if char = '>' then ['&', 'g', 't', ';']
  else if char = '"' then ['&', 'q', 'u', 'o', 't', ';']
  else if char = '\'' then ['&', '#', 'x', '2', '7', ';']
  else [char]

/-- `html.escape(text)`. -/
def escape (text : String) : String :=
  String.ofList (text.toList.flatMap escapeChar)

/-- `html.unescape`, for the references that `html.escape` makes. -/
def unescapeChars : List Char → List Char
  | '&' :: 'a' :: 'm' :: 'p' :: ';' :: rest => '&' :: unescapeChars rest
  | '&' :: 'l' :: 't' :: ';' :: rest => '<' :: unescapeChars rest
  | '&' :: 'g' :: 't' :: ';' :: rest => '>' :: unescapeChars rest
  | '&' :: 'q' :: 'u' :: 'o' :: 't' :: ';' :: rest => '"' :: unescapeChars rest
  | '&' :: '#' :: 'x' :: '2' :: '7' :: ';' :: rest =>
      '\'' :: unescapeChars rest
  | char :: rest => char :: unescapeChars rest
  | [] => []

def unescape (text : String) : String :=
  String.ofList (unescapeChars text.toList)

/-- A part of a page: markup, a value inside a tag, or governed text. -/
inductive Part where
  | markup (text : String)
  | attribute (text : String)
  | governed (text : String)
  deriving DecidableEq, Repr

def Part.html : Part → String
  | .markup text => text
  | .attribute text => escape text
  | .governed text => escape text

/-- The text of a page. -/
def html (parts : List Part) : String :=
  String.ofList (parts.flatMap fun part => part.html.toList)

/-- The governed texts of a page, as a browser shows them. -/
def emitted (parts : List Part) : List String :=
  parts.filterMap fun part =>
    match part with
    | .governed text => some (unescape (escape text))
    | .markup _ | .attribute _ => none

/-! ## Requests and artifacts -/

inductive RenderType where
  | web
  | pdf
  | print
  | mobilePreview
  deriving DecidableEq, Repr

def RenderType.code : RenderType → String
  | .web => "WEB"
  | .pdf => "PDF"
  | .print => "PRINT"
  | .mobilePreview => "MOBILE_PREVIEW"

/-- The fields of `RenderRequest` that the adapters read. -/
structure RenderRequest where
  reportId : String
  propertyId : String
  renderType : RenderType
  presentationInputHash : String
  templateId : String

structure RenderedArtifact where
  renderType : String
  mimeType : String
  artifactBytes : List Nat
  artifactHash : String
  artifactSizeBytes : Nat

/-- `build_artifact`, of a text in UTF-8. -/
def buildArtifact (renderType mimeType text : String) :
    Except String RenderedArtifact := do
  let payload := Sha256.utf8 text.toList
  require (payload ≠ []) "rendered artifact cannot be empty"
  return {
    renderType := renderType
    mimeType := mimeType
    artifactBytes := payload
    artifactHash := Sha256.hexdigest text
    artifactSizeBytes := payload.length }

/-- `validate_request_payload`. -/
def validateRequestPayload (request : RenderRequest) (report : CanonicalReport)
    (expectedType : RenderType) : Except String Unit := do
  require (request.renderType = expectedType)
    (expectedType.code ++ " adapter cannot render " ++ request.renderType.code)
  require (report.metadataPropertyId = request.propertyId)
    "render request property does not match canonical payload"
  require (report.identityPropertyId = request.propertyId)
    "property identity does not match render request"

/-! ## The web -/

namespace WebRenderAdapter

def findingParts (finding : ReportFinding) : List Part :=
  [.markup "<dl data-finding-id=\"", .attribute finding.findingId,
    .markup "\"><dt>", .governed finding.label, .markup "</dt><dd>",
    .governed finding.displayText, .markup "</dd></dl>"] ++
  (shown finding.limitation).flatMap fun text =>
    [.markup "<p class=\"limitation\">", .governed text, .markup "</p>"]

def cardParts (report : CanonicalReport) (card : ReportCard) : List Part :=
  [.markup "<article data-card-id=\"", .attribute card.cardId,
    .markup "\"><h3>", .governed card.title, .markup "</h3>"] ++
  ((shown card.body).flatMap fun text =>
    [.markup "<p>", .governed text, .markup "</p>"]) ++
  (report.findingsOf card).flatMap findingParts ++ [.markup "</article>"]

def sectionParts (report : CanonicalReport) (entry : ReportSection) : List Part :=
  [.markup "<section id=\"", .attribute entry.sectionId, .markup "\"><h2>",
    .governed entry.title, .markup "</h2>"] ++
  ((shown entry.summary).flatMap fun text =>
    [.markup "<p>", .governed text, .markup "</p>"]) ++
  (report.cardsOf entry).flatMap (cardParts report) ++ [.markup "</section>"]

def summaryParts (summary : List String) : List Part :=
  if summary = [] then []
  else
    [.markup "<section id=\"summary\"><ul>"] ++
    (summary.flatMap fun text =>
      [.markup "<li>", .governed text, .markup "</li>"]) ++
    [.markup "</ul></section>"]

def glossaryParts (glossary : List GlossaryEntry) : List Part :=
  if glossary = [] then []
  else
    [.markup "<section id=\"glossary\"><h2>Glossary</h2><dl>"] ++
    (glossary.flatMap fun entry =>
      [.markup "<dt>", .governed entry.label, .markup "</dt><dd>",
        .governed entry.definition, .markup "</dd>"]) ++
    [.markup "</dl></section>"]

/-- `parts`. -/
def parts (request : RenderRequest) (report : CanonicalReport) : List Part :=
  [.markup "<!doctype html><html lang=\"en\"><head><meta charset=\"utf-8\">",
    .markup "<meta name=\"viewport\" content=\"width=device-width,",
    .markup "initial-scale=1\">", .markup "<meta name=\"sth-report-id\" content=\"",
    .attribute request.reportId, .markup "\">",
    .markup "<meta name=\"sth-presentation-input-hash\" content=\"",
    .markup request.presentationInputHash, .markup "\">",
    .markup "<title>", .governed report.address, .markup "</title></head><body>",
    .markup "<main data-property-id=\"", .attribute request.propertyId,
    .markup "\" data-template=\"", .attribute request.templateId, .markup "\">",
    .markup "<header><h1>", .governed report.address, .markup "</h1><p>",
    .governed report.community, .markup "</p></header>"] ++
  summaryParts report.summary ++
  report.sortedSections.flatMap (sectionParts report) ++
  glossaryParts report.glossary ++
  (report.disclaimers.flatMap fun text =>
    [.markup "<p class=\"disclaimer\">", .governed text, .markup "</p>"]) ++
  [.markup "</main></body></html>"]

/-- `WebRenderAdapter.render`. -/
def render (request : RenderRequest) (canonicalPayload : Json) :
    Except String RenderedArtifact := do
  let report ← CanonicalReport.read canonicalPayload
  validateRequestPayload request report .web
  buildArtifact "WEB" "text/html" (html (parts request report))

end WebRenderAdapter

/-! ## Governed text -/

def ReportFinding.lines (finding : ReportFinding) : List String :=
  [finding.label, finding.displayText] ++ shown finding.statusLabel ++
    shown finding.confidenceLabel ++ shown finding.limitation

def CanonicalReport.cardLines (report : CanonicalReport) (card : ReportCard) : List String :=
  [card.title] ++ shown card.body ++ shown card.statusLabel ++
    (report.findingsOf card).flatMap ReportFinding.lines

def CanonicalReport.sectionLines
    (report : CanonicalReport) (entry : ReportSection) : List String :=
  [entry.title] ++ shown entry.summary ++ (report.cardsOf entry).flatMap report.cardLines

/-- `governed_text_lines`. -/
def governedTextLines (report : CanonicalReport) : List String :=
  ([report.address, report.community] ++ report.summary ++
    report.sortedSections.flatMap report.sectionLines ++
    (report.glossary.flatMap fun entry => [entry.label, entry.definition]) ++
    report.disclaimers).filter fun text => text ≠ ""

end SanTanHeights.Renderer
