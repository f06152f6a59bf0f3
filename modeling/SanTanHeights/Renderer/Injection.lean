import SanTanHeights.Foundation.Markup
import SanTanHeights.Renderer.GovernedText

/-!
# Texts cannot become markup

The tags of a page are those of its template: which texts stand in them does
not matter.
-/

namespace SanTanHeights.Renderer

open Foundation

/-! ## Escaped texts -/

theorem ne_of_mem_escapeChar {char special : Char} (escaped : special ∈ ['<', '>', '"', '\''])
    (present : special ∈ escapeChar char) : False := by
  unfold escapeChar at present
  simp only [List.mem_cons, List.not_mem_nil, or_false] at escaped
  split_ifs at present with ampersand less greater double single
  all_goals
    simp only [List.mem_cons, List.not_mem_nil, or_false] at present
  all_goals grind

/-- No character that ends a text or a value is left. -/
theorem not_mem_escape {special : Char} (escaped : special ∈ ['<', '>', '"', '\''])
    (text : String) : special ∉ (escape text).toList := by
  rw [escape, String.toList_ofList, List.mem_flatMap]
  rintro ⟨char, _, present⟩
  exact ne_of_mem_escapeChar escaped present

/-- A digest has no quotes. -/
theorem quote_not_mem_of_isHex64 {digest : String} (hex : Sha256.isHex64 digest = true) :
    '"' ∉ digest.toList := by
  rw [Sha256.isHex64, Bool.and_eq_true, List.all_eq_true] at hex
  intro present
  have digit := hex.2 '"' present
  revert digit
  decide

/-! ## Two pages -/

/-- The characters of some parts. -/
def characters (parts : List Part) : List Char :=
  parts.flatMap fun part => part.html.toList

theorem characters_append (left right : List Part) :
    characters (left ++ right) = characters left ++ characters right :=
  List.flatMap_append

/-- Parts of two pages with the same markup, where values stand between
quotes and texts between tags. -/
inductive Alike : Markup.Mode → List Part → List Part → Markup.Mode → Prop where
  | done (mode : Markup.Mode) : Alike mode [] [] mode
  | markup {mode next last : Markup.Mode} {text : String}
      {left right : List Part} (moved : Markup.ends mode text.toList = next)
      (rest : Alike next left right last) :
      Alike mode (.markup text :: left) (.markup text :: right) last
  | digest {text other : String} {left right : List Part}
      {last : Markup.Mode} (hex : Sha256.isHex64 text = true)
      (otherHex : Sha256.isHex64 other = true)
      (rest : Alike (.value '"') left right last) :
      Alike (.value '"') (.markup text :: left) (.markup other :: right) last
  | value {text other : String} {left right : List Part}
      {last : Markup.Mode} (rest : Alike (.value '"') left right last) :
      Alike (.value '"') (.attribute text :: left) (.attribute other :: right) last
  | governed {text other : String} {left right : List Part}
      {last : Markup.Mode} (rest : Alike .text left right last) :
      Alike .text (.governed text :: left) (.governed other :: right) last

namespace Alike

theorem readAlike {mode last : Markup.Mode} {left right : List Part}
    (alike : Alike mode left right last) :
    Markup.ReadAlike mode (characters left) (characters right) last := by
  induction alike with
  | done mode => exact .refl mode []
  | markup moved _ ih =>
      refine .append ?_ ih
      rw [← moved]
      exact .refl _ _
  | digest hex otherHex _ ih =>
      exact .append (.of_silent (quote_not_mem_of_isHex64 hex)
        (quote_not_mem_of_isHex64 otherHex)) ih
  | value _ ih =>
      exact .append (.of_silent (not_mem_escape (by decide) _) (not_mem_escape (by decide) _)) ih
  | governed _ ih =>
      exact .append (.of_silent (not_mem_escape (by decide) _) (not_mem_escape (by decide) _)) ih

theorem append {mode middle last : Markup.Mode}
    {left right leftRest rightRest : List Part} (first : Alike mode left right middle)
    (second : Alike middle leftRest rightRest last) :
    Alike mode (left ++ leftRest) (right ++ rightRest) last := by
  induction first with
  | done => exact second
  | markup moved _ ih =>
      exact .markup moved (ih second)
  | digest hex otherHex _ ih =>
      exact .digest hex otherHex (ih second)
  | value _ ih =>
      exact .value (ih second)
  | governed _ ih =>
      exact .governed (ih second)

/-- Repeated parts of two lists whose items correspond. -/
theorem flatMap {α β : Type} {parts : α → List Part} {otherParts : β → List Part}
    {items : List α} {others : List β}
    (each : List.Forall₂ (fun item other =>
      Alike .text (parts item) (otherParts other) .text) items others) :
    Alike .text (items.flatMap parts) (others.flatMap otherParts) .text := by
  induction each with
  | nil => exact .done _
  | cons first _ ih => exact first.append ih

end Alike

/-! ## Reports of one shape -/

/-- A text is shown in both or in neither. -/
def ShownAlike (left right : Option String) : Prop :=
  shown left = [] ↔ shown right = []

/-- Findings with the same parts. -/
def FindingAlike (left right : ReportFinding) : Prop :=
  ShownAlike left.limitation right.limitation

/-- Cards with the same parts, whose references find findings with the same
parts, or nothing. -/
structure CardAlike (report other : CanonicalReport) (left right : ReportCard) : Prop where
  body : ShownAlike left.body right.body
  findings : List.Forall₂ (fun leftId rightId =>
      Option.Rel FindingAlike (report.finding leftId) (other.finding rightId))
    left.findingIds right.findingIds

/-- Sections in one place with the same parts, whose references find cards
with the same parts, or nothing. -/
structure SectionAlike (report other : CanonicalReport) (left right : ReportSection) :
    Prop where
  order : left.order = right.order
  summary : ShownAlike left.summary right.summary
  cards : List.Forall₂ (fun leftId rightId =>
      Option.Rel (CardAlike report other) (report.card leftId) (other.card rightId))
    left.cardIds right.cardIds

/-- Reports that differ in their texts only. -/
structure ReportAlike (report other : CanonicalReport) : Prop where
  summary : report.summary.length = other.summary.length
  sections : List.Forall₂ (SectionAlike report other) report.sections other.sections
  glossary : report.glossary.length = other.glossary.length
  disclaimers : report.disclaimers.length = other.disclaimers.length

theorem forall₂_of_length_eq {α β : Type} {relation : α → β → Prop} {items : List α}
    {others : List β} (length : items.length = others.length)
    (each : ∀ item other, relation item other) :
    List.Forall₂ relation items others :=
  List.forall₂_iff_get.mpr ⟨length, fun _ _ _ => each _ _⟩

theorem forall₂_shown {left right : Option String} (alike : ShownAlike left right)
    {relation : String → String → Prop} (each : ∀ text other, relation text other) :
    List.Forall₂ relation (shown left) (shown right) := by
  refine forall₂_of_length_eq ?_ each
  unfold ShownAlike shown at alike
  unfold shown
  generalize left.filter (fun text => text ≠ "") = first at alike ⊢
  generalize right.filter (fun text => text ≠ "") = second at alike ⊢
  cases first with
  | none =>
      cases second with
      | none => rfl
      | some text => exact absurd (alike.mp rfl) (List.cons_ne_nil _ _)
  | some text =>
      cases second with
      | none => exact absurd (alike.mpr rfl) (List.cons_ne_nil _ _)
      | some other => rfl

namespace WebRenderAdapter

variable {report other : CanonicalReport}

/-- A wrapped text, where there is one in both pages. -/
theorem wrapped_alike {opening closing : String} {left right : Option String}
    (opened : Markup.ends .text opening.toList = .text)
    (closed : Markup.ends .text closing.toList = .text) (alike : ShownAlike left right) :
    Alike .text ((shown left).flatMap fun text =>
        [.markup opening, .governed text, .markup closing])
      ((shown right).flatMap fun text =>
        [.markup opening, .governed text, .markup closing]) .text :=
  .flatMap (forall₂_shown alike fun _ _ =>
    .markup opened (.governed (.markup closed (.done _))))

theorem findingParts_alike {left right : ReportFinding} (alike : FindingAlike left right) :
    Alike .text (findingParts left) (findingParts right) .text := by
  refine .append ?_ (wrapped_alike rfl rfl alike)
  exact .markup rfl (.value (.markup rfl (.governed (.markup rfl
    (.governed (.markup rfl (.done _)))))))

theorem cardParts_alike {left right : ReportCard} (alike : CardAlike report other left right) :
    Alike .text (cardParts report left) (cardParts other right) .text := by
  have found : List.Forall₂ FindingAlike (report.findingsOf left)
      (other.findingsOf right) :=
    List.rel_filterMap (fun _ _ related => related) alike.findings
  refine .append (.append (.append ?_ (wrapped_alike rfl rfl alike.body))
    (.flatMap (found.imp fun _ _ => findingParts_alike))) ?_
  · exact .markup rfl (.value (.markup rfl (.governed (.markup rfl (.done _)))))
  · exact .markup rfl (.done _)

theorem sectionParts_alike
    {left right : ReportSection} (alike : SectionAlike report other left right) :
    Alike .text (sectionParts report left) (sectionParts other right) .text := by
  have found : List.Forall₂ (CardAlike report other) (report.cardsOf left)
      (other.cardsOf right) :=
    List.rel_filterMap (fun _ _ related => related) alike.cards
  refine .append (.append (.append ?_ (wrapped_alike rfl rfl alike.summary))
    (.flatMap (found.imp fun _ _ => cardParts_alike))) ?_
  · exact .markup rfl (.value (.markup rfl (.governed (.markup rfl (.done _)))))
  · exact .markup rfl (.done _)

theorem summaryParts_alike {left right : List String} (length : left.length = right.length) :
    Alike .text (summaryParts left) (summaryParts right) .text := by
  have empty : left = [] ↔ right = [] := by
    rw [← List.length_eq_zero_iff, length, List.length_eq_zero_iff]
  unfold summaryParts
  split_ifs with leftEmpty rightEmpty rightEmpty
  · exact .done _
  · exact absurd (empty.mp leftEmpty) rightEmpty
  · exact absurd (empty.mpr rightEmpty) leftEmpty
  · refine .append (.append (.markup rfl (.done _)) (.flatMap
      (forall₂_of_length_eq length fun _ _ => ?_))) (.markup rfl (.done _))
    exact .markup rfl (.governed (.markup rfl (.done _)))

theorem glossaryParts_alike
    {left right : List GlossaryEntry} (length : left.length = right.length) :
    Alike .text (glossaryParts left) (glossaryParts right) .text := by
  have empty : left = [] ↔ right = [] := by
    rw [← List.length_eq_zero_iff, length, List.length_eq_zero_iff]
  unfold glossaryParts
  split_ifs with leftEmpty rightEmpty rightEmpty
  · exact .done _
  · exact absurd (empty.mp leftEmpty) rightEmpty
  · exact absurd (empty.mpr rightEmpty) leftEmpty
  · refine .append (.append (.markup rfl (.done _)) (.flatMap
      (forall₂_of_length_eq length fun _ _ => ?_))) (.markup rfl (.done _))
    exact .markup rfl (.governed (.markup rfl (.governed (.markup rfl (.done _)))))

/-- The parts of a page before the summary. -/
def openingParts (request : RenderRequest) (report : CanonicalReport) : List Part :=
  (parts request report).take 22

theorem parts_eq (request : RenderRequest) (report : CanonicalReport) :
    parts request report =
      openingParts request report ++ (summaryParts report.summary ++
        (report.sortedSections.flatMap (sectionParts report) ++
          (glossaryParts report.glossary ++
            ((report.disclaimers.flatMap fun text =>
              [.markup "<p class=\"disclaimer\">", .governed text, .markup "</p>"]) ++
              [.markup "</main></body></html>"])))) := by
  rw [openingParts, parts]
  simp only [List.append_assoc]
  rfl

set_option maxRecDepth 2048 in
theorem openingParts_alike {request otherRequest : RenderRequest}
    (digest : Sha256.isHex64 request.presentationInputHash = true)
    (otherDigest : Sha256.isHex64 otherRequest.presentationInputHash = true) :
    Alike .text (openingParts request report) (openingParts otherRequest other) .text :=
  .markup rfl (.markup rfl (.markup rfl (.markup rfl (.value (.markup rfl
    (.markup rfl (.digest digest otherDigest (.markup rfl (.markup rfl
      (.governed (.markup rfl (.markup rfl (.value (.markup rfl (.value
        (.markup rfl (.markup rfl (.governed (.markup rfl (.governed
          (.markup rfl (.done _))))))))))))))))))))))

/-- Pages of reports that differ in their texts only have the same tags. -/
theorem parts_alike {request otherRequest : RenderRequest}
    (digest : Sha256.isHex64 request.presentationInputHash = true)
    (otherDigest : Sha256.isHex64 otherRequest.presentationInputHash = true)
    (alike : ReportAlike report other) :
    Alike .text (parts request report) (parts otherRequest other) .text := by
  have sections : List.Forall₂ (SectionAlike report other)
      report.sortedSections other.sortedSections :=
    Traverse.forall₂_sortedBy (fun _ _ related => related.order.symm) alike.sections
  rw [parts_eq, parts_eq]
  refine .append (openingParts_alike digest otherDigest)
    (.append (summaryParts_alike alike.summary)
    (.append (.flatMap (sections.imp fun _ _ => sectionParts_alike))
    (.append (glossaryParts_alike alike.glossary)
    (.append (.flatMap (forall₂_of_length_eq alike.disclaimers fun _ _ => ?_)) ?_))))
  · exact .markup rfl (.governed (.markup rfl (.done _)))
  · exact .markup rfl (.done _)

end WebRenderAdapter

theorem toList_html (parts : List Part) : (html parts).toList = characters parts :=
  String.toList_ofList

/-- Whatever texts stand in a report, the tags of its page are the same, and
none of them is left open. -/
theorem web_tags_fixed {request otherRequest : RenderRequest} {payload otherPayload : Json}
    {report other : CanonicalReport} {artifact otherArtifact : RenderedArtifact}
    (digest : Sha256.isHex64 request.presentationInputHash = true)
    (otherDigest : Sha256.isHex64 otherRequest.presentationInputHash = true)
    (read : CanonicalReport.read payload = .ok report)
    (otherRead : CanonicalReport.read otherPayload = .ok other)
    (alike : ReportAlike report other)
    (rendered : WebRenderAdapter.render request payload = .ok artifact)
    (otherRendered : WebRenderAdapter.render otherRequest otherPayload =
      .ok otherArtifact) :
    ∃ page otherPage,
      page = (html (WebRenderAdapter.parts request report)).toList ∧
      otherPage = (html (WebRenderAdapter.parts otherRequest other)).toList ∧
      artifact.artifactBytes = Sha256.utf8 page ∧
      otherArtifact.artifactBytes = Sha256.utf8 otherPage ∧
      Markup.tags .text page = Markup.tags .text otherPage ∧
      Markup.ends .text page = .text ∧
      Markup.ends .text otherPage = .text := by
  refine ⟨_, _, rfl, rfl, bytes_of_render read rendered,
    bytes_of_render otherRead otherRendered, ?_⟩
  rw [toList_html, toList_html]
  have readAlike :=
    (WebRenderAdapter.parts_alike digest otherDigest alike).readAlike
  exact ⟨readAlike.tags, readAlike.left_ends, readAlike.right_ends⟩

/-! ## Samples -/

/-- A report of two cards, one of which is shown. -/
def cardsPayload (reference title : String) : Json :=
  .obj [("metadata", .obj [("property_id", .str "p"), ("snapshot_id", .str "s")]),
      ("property_identity", .obj
        [("property_id", .str "p"), ("address", .str "123 Test St"),
          ("community", .str "San Tan Heights")]),
      ("summary", .arr []), ("sections", .arr [.obj
        [("section_id", .str "lot"), ("title", .str "Lot"),
          ("order", .int 1), ("card_ids", .arr [.str reference])]]),
      ("findings", .arr []),
      ("cards", .arr [.obj [("card_id", .str "c1"), ("section_id", .str "lot"),
            ("title", .str title), ("finding_ids", .arr [])],
        .obj [("card_id", .str "c2"), ("section_id", .str "lot"),
            ("title", .str title), ("finding_ids", .arr []), ("body", .str "B")]]),
      ("glossary", .arr []), ("disclaimers", .arr []),
      ("lineage", .obj [("snapshot_id", .str "s")])]

/-- What is read of it. -/
def cardsReport (reference title : String) : CanonicalReport where
  metadataPropertyId := "p"
  identityPropertyId := "p"
  address := "123 Test St"
  community := "San Tan Heights"
  summary := []
  sections := [⟨"lot", "Lot", 1, none, [reference]⟩]
  cards := [⟨"c1", title, none, none, []⟩, ⟨"c2", title, some "B", none, []⟩]
  findings := []
  glossary := []
  disclaimers := []

def digestRequest : RenderRequest :=
  { sampleRequest with
    presentationInputHash := String.ofList (List.replicate 64 '0') }

theorem digestRequest_isHex64 : Sha256.isHex64 digestRequest.presentationInputHash = true :=
  Sha256.isHex64_ofList rfl rfl

theorem cardsPayload_read (reference title : String) :
    CanonicalReport.read (cardsPayload reference title) = .ok (cardsReport reference title) := rfl

theorem exists_render_cards (reference title : String) :
    ∃ artifact, WebRenderAdapter.render digestRequest
      (cardsPayload reference title) = .ok artifact :=
  exists_render (cardsPayload_read reference title) rfl

/-- A title that tries to open a tag changes no tag. -/
theorem web_tags_fixed_sample :
    ∃ artifact otherArtifact page otherPage,
      WebRenderAdapter.render digestRequest (cardsPayload "c1" "Rear") =
        .ok artifact ∧
      WebRenderAdapter.render digestRequest
        (cardsPayload "c1" "<b a=\"'&") = .ok otherArtifact ∧
      artifact.artifactBytes = Sha256.utf8 page ∧
      otherArtifact.artifactBytes = Sha256.utf8 otherPage ∧
      Markup.tags .text page = Markup.tags .text otherPage := by
  obtain ⟨artifact, rendered⟩ := exists_render_cards "c1" "Rear"
  obtain ⟨otherArtifact, otherRendered⟩ :=
    exists_render_cards "c1" "<b a=\"'&"
  have cards : CardAlike (cardsReport "c1" "Rear")
      (cardsReport "c1" "<b a=\"'&")
      ⟨"c1", "Rear", none, none, []⟩
      ⟨"c1", "<b a=\"'&", none, none, []⟩ :=
    ⟨Iff.rfl, .nil⟩
  have alike : ReportAlike (cardsReport "c1" "Rear")
      (cardsReport "c1" "<b a=\"'&") :=
    { summary := rfl
      sections := .cons ⟨rfl, Iff.rfl, .cons (.some cards) .nil⟩ .nil
      glossary := rfl
      disclaimers := rfl }
  obtain ⟨page, otherPage, _, _, bytes, otherBytes, same, _⟩ :=
    web_tags_fixed digestRequest_isHex64 digestRequest_isHex64
      (cardsPayload_read _ _) (cardsPayload_read _ _) alike rendered
      otherRendered
  exact ⟨artifact, otherArtifact, page, otherPage, rendered, otherRendered,
    bytes, otherBytes, same⟩

/-- A section that refers to another card shows the parts of that card. -/
theorem reference_changes_tags :
    ∃ schema artifact otherArtifact, Honours schema ∧
      schema.validate (cardsPayload "c1" "Rear") = .ok () ∧
      schema.validate (cardsPayload "c2" "Rear") = .ok () ∧
      Sha256.isHex64 digestRequest.presentationInputHash = true ∧
      WebRenderAdapter.render digestRequest (cardsPayload "c1" "Rear") =
        .ok artifact ∧
      WebRenderAdapter.render digestRequest (cardsPayload "c2" "Rear") =
        .ok otherArtifact ∧
      artifact.artifactBytes = Sha256.utf8
        (html (WebRenderAdapter.parts digestRequest
          (cardsReport "c1" "Rear"))).toList ∧
      otherArtifact.artifactBytes = Sha256.utf8
        (html (WebRenderAdapter.parts digestRequest
          (cardsReport "c2" "Rear"))).toList ∧
      Markup.tags .text (html (WebRenderAdapter.parts digestRequest
          (cardsReport "c1" "Rear"))).toList ≠
        Markup.tags .text (html (WebRenderAdapter.parts digestRequest
          (cardsReport "c2" "Rear"))).toList := by
  obtain ⟨artifact, rendered⟩ := exists_render_cards "c1" "Rear"
  obtain ⟨otherArtifact, otherRendered⟩ := exists_render_cards "c2" "Rear"
  refine ⟨sampleSchema, artifact, otherArtifact, sampleSchema_honours, rfl,
    rfl, digestRequest_isHex64, rendered, otherRendered,
    bytes_of_render (cardsPayload_read _ _) rendered,
    bytes_of_render (cardsPayload_read _ _) otherRendered, ?_⟩
  have opened : Markup.ends .text (characters (WebRenderAdapter.openingParts
      digestRequest (cardsReport "c1" "Rear"))) = .text :=
    (@WebRenderAdapter.openingParts_alike (cardsReport "c1" "Rear")
      (cardsReport "c1" "Rear") _ _ digestRequest_isHex64
      digestRequest_isHex64).readAlike.left_ends
  have split : ∀ reference,
      Markup.tags .text (html (WebRenderAdapter.parts digestRequest
        (cardsReport reference "Rear"))).toList =
      Markup.tags .text (characters (WebRenderAdapter.openingParts
        digestRequest (cardsReport "c1" "Rear"))) ++
      Markup.tags .text (characters
        ((cardsReport reference "Rear").sortedSections.flatMap
          (WebRenderAdapter.sectionParts (cardsReport reference "Rear")) ++
          [.markup "</main></body></html>"])) := by
    intro reference
    have same : WebRenderAdapter.openingParts digestRequest
        (cardsReport reference "Rear") =
      WebRenderAdapter.openingParts digestRequest
        (cardsReport "c1" "Rear") := rfl
    rw [toList_html, WebRenderAdapter.parts_eq, characters_append,
      Markup.tags_append, same, opened]
    rfl
  intro same
  rw [split, split] at same
  have lengths := congrArg List.length (List.append_cancel_left same)
  revert lengths
  decide

end SanTanHeights.Renderer
