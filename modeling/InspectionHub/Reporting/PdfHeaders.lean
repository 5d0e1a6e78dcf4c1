import InspectionHub.Reporting.PdfLiterals

/-!
# The header of a continuation page

Every literal of the file reads back, but for the header of a continuation
page: it is escaped as it stands, and only the low bytes of its units reach the
file. A unit that normalisation would have replaced leaves the literal another
text, or ends it.
-/

namespace InspectionHub.Reporting.Pdf

open PdfString

/-! ## What goes wrong -/

/-- A unit whose low byte a reader may take for a question mark or for an escape. -/
def isAmbiguous (u : CodeUnit) : Bool :=
  ((u.isHigh || u.isLow) && u.val % 256 = 0x3F) || (256 ≤ u.val && u.val % 256 = 0x5C)

/-- The stages before the last one leave a unit, or start its replacement with another byte. -/
theorem replaceQuotes_unit (u : CodeUnit) :
    replaceQuotes [u] = [u] ∨ ∃ c more, replaceQuotes [u] = c :: more ∧ isPrintable c = true ∧
      lowByte c ≠ lowByte u ∧ lowByte c ≠ 0x0A := by
  have hone : ∀ (pattern : CodeUnit → Bool) (replacement : JsString),
      replaceUnits pattern replacement [u] = if pattern u = true then replacement else [u] :=
    fun _ _ => List.append_nil _
  have hother : ∀ {c : CodeUnit}, u.val % 256 ≠ c.val % 256 → lowByte c ≠ lowByte u := by
    intro c hne heq
    exact hne (lowByte_eq_iff.mp heq.symm)
  unfold replaceQuotes
  rw [hone]
  by_cases hdash : isDash u = true
  · rw [if_pos hdash]
    refine .inr ⟨CodeUnit.ofChar '-', [], by decide, by decide, hother ?_, by decide⟩
    simp only [isDash, Bool.or_eq_true, Bool.and_eq_true, decide_eq_true_eq] at hdash
    change u.val % 256 ≠ 0x2D
    omega
  rw [if_neg hdash, hone]
  by_cases hsingle : isSingleQuote u = true
  · rw [if_pos hsingle]
    refine .inr ⟨CodeUnit.ofChar '\'', [], by decide, by decide, hother ?_, by decide⟩
    simp only [isSingleQuote, Bool.or_eq_true, decide_eq_true_eq] at hsingle
    change u.val % 256 ≠ 0x27
    omega
  rw [if_neg hsingle, hone]
  by_cases hdouble : isDoubleQuote u = true
  · rw [if_pos hdouble]
    refine .inr ⟨CodeUnit.ofChar '"', [], by decide, by decide, hother ?_, by decide⟩
    simp only [isDoubleQuote, Bool.or_eq_true, decide_eq_true_eq] at hdouble
    change u.val % 256 ≠ 0x22
    omega
  rw [if_neg hdouble, hone]
  by_cases hellipsis : isEllipsis u = true
  · rw [if_pos hellipsis]
    refine .inr ⟨CodeUnit.ofChar '.', js "..", by decide, by decide, hother ?_, by decide⟩
    simp only [isEllipsis, decide_eq_true_eq] at hellipsis
    change u.val % 256 ≠ 0x2E
    omega
  · rw [if_neg hellipsis]
    exact .inl rfl

/-- What is written for an unprintable unit, alone or in a pair. -/
theorem replaceUnprintable_head {u : CodeUnit} (h : isPrintable u = false) (rest : JsString) :
    ∃ tail, replaceUnprintable (u :: rest) = questionMark :: tail := by
  cases rest with
  | nil => exact ⟨[], by rw [replaceUnprintable, h]; rfl⟩
  | cons v rest =>
      unfold replaceUnprintable
      split
      · exact ⟨_, rfl⟩
      · rw [h]
        exact ⟨_, rfl⟩

/-- **The first unit that is not kept.** It is normalised to a byte that is not its own. -/
theorem normalise_head {u : CodeUnit} (h : isKept u = false) (hclear : isAmbiguous u = false)
    (rest : JsString) :
    ∃ n tail, normalisePdfText (u :: rest) = n :: tail ∧ lowByte n ≠ lowByte u ∧
      lowByte n ≠ 0x0A := by
  have hsplit : normalisePdfText (u :: rest) =
      replaceUnprintable (replaceQuotes [u] ++ replaceQuotes rest) := by
    rw [← replaceQuotes_append]
    rfl
  rw [hsplit]
  rcases replaceQuotes_unit u with heq | ⟨c, more, heq, hprintable, hne, hline⟩
  · have hunprintable : isPrintable u = false := (Bool.or_eq_false_iff.mp h).1
    obtain ⟨tail, htail⟩ := replaceUnprintable_head hunprintable (replaceQuotes rest)
    refine ⟨questionMark, tail, by rw [heq]; exact htail, fun hlow => ?_, by decide⟩
    have hmod : u.val % 256 = 0x3F := lowByte_eq_iff.mp hlow.symm
    simp only [isKept, isAmbiguous, hunprintable, hmod, decide_true, Bool.false_or, Bool.true_and,
      Bool.and_true, Bool.not_eq_false', Bool.or_eq_false_iff] at h hclear
    simp [hclear.1.1, hclear.1.2] at h
  · have hkept : ∀ w ∈ [c], w.isHigh = false := by
      intro w hw
      rw [List.mem_singleton.mp hw]
      exact (stages_of_kept (kept_of_printable hprintable)).2.2.2.2
    refine ⟨c, replaceUnprintable (more ++ replaceQuotes rest), ?_, hne, hline⟩
    have happend := replaceUnprintable_append hkept (more ++ replaceQuotes rest)
    rw [heq]
    rw [List.map_singleton, hprintable] at happend
    exact happend

/-- The literals before the header of the second page. -/
def textsBefore (first : List StyledLine) (title : JsString) (pageCount : Nat) : List Bytes :=
  [latin1 (js "en-AU"), latin1 (normalisePdfText title),
    latin1 (js "InspectionHub semantic report renderer"), latin1 (js "InspectionHub")] ++
    (latin1 bannerText :: (first.map lineText ++ [latin1 (footerText 1 pageCount)])) ++
    [latin1 bannerText]

/-- The chunks of the fixed objects, of two pages, of what follows and of the last object. -/
theorem flatten_chunks (fixed : List JsString) (hfixed : fixed.length = 5)
    (page content page' content' : JsString) (more : List JsString) (root : JsString) :
    (chunksFrom 1 (fixed ++ (page :: content :: page' :: content' :: more) ++ [root])).flatten =
      (chunksFrom 1 fixed).flatten ++ (objectChunk 6 page ++ (objectChunk 7 content ++
        (objectChunk 8 page' ++ (objectChunk 9 content' ++ ((chunksFrom 10 more).flatten ++
          objectChunk (10 + more.length) root))))) := by
  rw [chunksFrom_append, chunksFrom_append, hfixed, List.length_append, hfixed]
  have hlength : 1 + (5 + (page :: content :: page' :: content' :: more).length) =
      10 + more.length := by
    simp only [List.length_cons]
    omega
  rw [hlength]
  simp only [chunksFrom, List.flatten_append, List.flatten_cons, List.flatten_nil,
    List.append_assoc, List.append_nil]

/-- Where the header of the second page stands in the file. -/
theorem exists_beforeHeader {first : List StyledLine} (body : List StyledLine)
    (header : StyledLine) (rest : List (List StyledLine))
    (hfirst : ∀ line ∈ first, ReadsAs line (lineText line))
    (title : JsString) (module : ReportModule) :
    ∃ before after, latin1 (fileText (first :: (header :: body) :: rest) title module) =
        before ++ 0x28 :: (latin1 (escapePdfText header.text) ++ after) ∧
      Reads before (textsBefore first title (rest.length + 2)) := by
  have hcount : (first :: (header :: body) :: rest).length = rest.length + 2 := rfl
  generalize hpages : first :: (header :: body) :: rest = pages at hcount
  have hfixed := reads_fixed pages title
  have hobject := reads_chunk (reads_quiet (quiet_pageObject 7 0)) 6
  have hcontent := reads_chunk (reads_page hfirst 1 pages.length module) 7
  have hobject' := reads_chunk (reads_quiet (quiet_pageObject 9 1)) 8
  have hlength : Quiet (natUnits 9 ++ js " 0 obj\n" ++ (js "<< /Length " ++
      natUnits (byteLength (buildPageStream (header :: body) 2 pages.length module)) ++
      js " >>\nstream\n")) :=
    ((quiet_natUnits 9).append (by decide)).append
      (((by decide : Quiet (js "<< /Length ")).append (quiet_natUnits _)).append (by decide))
  have hopening := reads_quiet (quiet_lineOpening module top 0 header)
  have hbefore := ((((((reads_quiet (by decide +kernel : Quiet fileHead)).append hfixed).append
    hobject).append hcontent).append hobject').append (reads_quiet hlength)).append
    (scans_banner.reads.append hopening)
  refine ⟨_, ?after, ?_, by rw [textsBefore, ← hcount]; simpa using hbefore⟩
  case after =>
    exact latin1 (js ")" ++ lineClosing ++
      lead newline (drawLines module (Double.double (top - lineHeight header)) 1 body) ++
      lead newline (footerCommands 2 pages.length) ++ js "\nendstream" ++ js "\nendobj\n" ++
      (chunksFrom 10 (pageBodies pages.length module 2 rest)).flatten ++
      objectChunk (6 + pages.length * 2) structureRoot ++
      xrefSection (6 + pages.length * 2) (fileBody pages title module).length
        (0 :: fileOffsets pages title module))
  have hstream : buildPageStream (header :: body) 2 pages.length module =
      join newline bannerCommands ++ (lineOpening module top 0 header ++
        literal (escapePdfText header.text) ++ lineClosing ++
        lead newline (drawLines module (Double.double (top - lineHeight header)) 1 body)) ++
        lead newline (footerCommands 2 pages.length) := by
    rw [buildPageStream_eq, drawLines, lead_append, lead_drawLine]
  have hbodies : bodies pages title module = [catalogObject (6 + pages.length * 2),
      pagesObject (pageNumbers pages.length) pages.length, fontObject, boldFontObject,
      infoObject title] ++ (pageObject 7 0 ::
        contentObject (buildPageStream first 1 pages.length module) :: pageObject 9 1 ::
        contentObject (buildPageStream (header :: body) 2 pages.length module) ::
        pageBodies pages.length module 2 rest) ++ [structureRoot] := by
    unfold bodies
    rw [← hpages]
    rfl
  have hroot : 10 + (pageBodies pages.length module 2 rest).length = 6 + pages.length * 2 := by
    rw [length_pageBodies, hcount]
    omega
  have hchunks := flatten_chunks [catalogObject (6 + pages.length * 2),
      pagesObject (pageNumbers pages.length) pages.length, fontObject, boldFontObject,
      infoObject title] rfl (pageObject 7 0)
    (contentObject (buildPageStream first 1 pages.length module)) (pageObject 9 1)
    (contentObject (buildPageStream (header :: body) 2 pages.length module))
    (pageBodies pages.length module 2 rest) structureRoot
  rw [← hbodies, hroot] at hchunks
  have hcontentBytes : latin1 (objectChunk 9 (contentObject
      (buildPageStream (header :: body) 2 pages.length module))) =
      latin1 (natUnits 9 ++ js " 0 obj\n" ++ (js "<< /Length " ++
        natUnits (byteLength (buildPageStream (header :: body) 2 pages.length module)) ++
        js " >>\nstream\n")) ++ (latin1 (join newline bannerCommands) ++
          latin1 (lineOpening module top 0 header)) ++
      0x28 :: (latin1 (escapePdfText header.text) ++ latin1 (js ")" ++ lineClosing ++
        lead newline (drawLines module (Double.double (top - lineHeight header)) 1 body) ++
        lead newline (footerCommands 2 pages.length) ++ js "\nendstream" ++ js "\nendobj\n")) := by
    have hopen : latin1 (js "(") = [0x28] := rfl
    unfold objectChunk contentObject
    generalize natUnits (byteLength (buildPageStream (header :: body) 2 pages.length module)) = n
    rw [hstream]
    unfold literal
    simp only [latin1_append, hopen, List.append_assoc, List.nil_append, List.cons_append]
  have hbytes : latin1 (fileBody pages title module) = latin1 fileHead ++ (latin1 (chunksFrom 1
      [catalogObject (6 + pages.length * 2), pagesObject (pageNumbers pages.length) pages.length,
        fontObject, boldFontObject, infoObject title]).flatten ++
      (latin1 (objectChunk 6 (pageObject 7 0)) ++
        (latin1 (objectChunk 7 (contentObject (buildPageStream first 1 pages.length module))) ++
          (latin1 (objectChunk 8 (pageObject 9 1)) ++ (latin1 (objectChunk 9 (contentObject
            (buildPageStream (header :: body) 2 pages.length module))) ++
          latin1 ((chunksFrom 10 (pageBodies pages.length module 2 rest)).flatten ++
            objectChunk (6 + pages.length * 2) structureRoot)))))) := by
    unfold fileBody
    rw [hchunks]
    simp only [latin1_append]
  unfold fileText
  rw [latin1_append, hbytes, hcontentBytes]
  simp only [latin1_append, List.append_assoc, List.cons_append]

/-- A list up to its first element that fails a test. -/
theorem exists_first_not {value : JsString} (h : ¬ ∀ u ∈ value, isKept u = true) :
    ∃ before u after, value = before ++ u :: after ∧ (∀ w ∈ before, isKept w = true) ∧
      isKept u = false := by
  induction value with
  | nil => exact absurd (fun _ hu => (nomatch hu)) h
  | cons u value ih =>
      by_cases hu : isKept u = true
      · obtain ⟨before, w, after, hsplit, hbefore, hw⟩ :=
          ih fun hall => h (List.forall_mem_cons.mpr ⟨hu, hall⟩)
        exact ⟨u :: before, w, after, by rw [hsplit, List.cons_append],
          List.forall_mem_cons.mpr ⟨hu, hbefore⟩, hw⟩
      · exact ⟨[], u, value, rfl, fun _ hw => (nomatch hw), Bool.eq_false_iff.mpr hu⟩

/-- **Misread headers.** A header with a unit that is not kept does not read back as its
normalised text. -/
theorem literals_ne {first body : List StyledLine} (header : StyledLine)
    {rest : List (List StyledLine)} (hfirst : ∀ line ∈ first, ReadsAs line (lineText line))
    (hheader : ¬ ∀ u ∈ header.text, isKept u = true)
    (hclear : ∀ u ∈ header.text, isAmbiguous u = false) (title : JsString)
    (module : ReportModule) :
    literals (latin1 (fileText (first :: (header :: body) :: rest) title module)) ≠
      some (fileTexts (first :: (header :: body) :: rest) title) := by
  obtain ⟨kept, u, after, htext, hkept, hu⟩ := exists_first_not hheader
  obtain ⟨n, tail, hnormal, hne, hline⟩ := normalise_head hu (hclear u (by simp [htext])) after
  obtain ⟨before, later, hfile, o, hbefore⟩ := exists_beforeHeader body header rest hfirst
    title module
  -- the unit is written as its low byte
  have hplain : u.val ≠ 0x5C ∧ u.val ≠ 0x28 ∧ u.val ≠ 0x29 := by
    simp only [isKept, isPrintable, Bool.or_eq_false_iff, Bool.and_eq_false_iff,
      decide_eq_false_iff_not] at hu
    omega
  have hbyte : lowByte u ≠ 0x5C := by
    have hamb := hclear u (by simp [htext])
    simp only [isAmbiguous, Bool.or_eq_false_iff, Bool.and_eq_false_iff,
      decide_eq_false_iff_not] at hamb
    intro heq
    have hmod : u.val % 256 = 0x5C := lowByte_eq_iff.mp heq
    omega
  have hlegible : Legible kept := by
    intro w hw hspecial
    have hkept := hkept w hw
    simp only [isKept, isPrintable, Bool.or_eq_true, Bool.and_eq_true, decide_eq_true_eq] at hkept
    omega
  have hreturn : ∀ c ∈ latin1 kept, c ≠ 0x0D := by
    intro c hc heq
    obtain ⟨w, hw, hlow⟩ := List.mem_map.mp hc
    have hmod : w.val % 256 = 13 := lowByte_eq_iff.mp (hlow.trans heq)
    have hkept := hkept w hw
    simp only [isKept, isPrintable, Bool.or_eq_true, Bool.and_eq_true, decide_eq_true_eq] at hkept
    omega
  have hescape : latin1 (escapePdfText header.text) =
      escape (latin1 kept) ++ lowByte u :: latin1 (escapePdfText after) := by
    have hunit : escapeUnits u = [u] := if_neg (by omega)
    rw [htext, escapePdfText_eq, List.flatMap_append, List.flatMap_cons, hunit, latin1_append,
      ← escapePdfText_eq, latin1_escape hlegible, ← escapePdfText_eq]
    rfl
  have hexpected : fileTexts (first :: (header :: body) :: rest) title =
      textsBefore first title (rest.length + 2) ++
        (latin1 kept ++ lowByte n :: latin1 tail) :: (body.map lineText ++
          [latin1 (footerText 2 (rest.length + 2))] ++ pageTexts (rest.length + 2) 2 rest) := by
    have hlineText : lineText header = latin1 kept ++ lowByte n :: latin1 tail := by
      unfold lineText
      rw [htext, normalisePdfText_append hkept, hnormal, latin1_append, latin1_replace hkept]
      rfl
    rw [← hlineText]
    unfold fileTexts textsBefore
    rw [pageTexts, pageTexts, List.map_cons]
    simp only [List.length_cons, List.append_assoc, List.cons_append, List.nil_append]
  intro hall
  unfold literals at hall
  dsimp only at hall
  split at hall
  · have htexts := Option.some.inj hall
    rw [hfile, run_append, hbefore, run_cons] at htexts
    have hopen : Scanner.step (Scanner.between ([] ++ textsBefore first title (rest.length + 2))
        ([] ++ o)) 0x28 = Scanner.within [] (textsBefore first title (rest.length + 2)) o := rfl
    rw [hopen, hescape, List.append_assoc, run_append, run_escape _ _ _ hreturn, List.nil_append,
      hexpected] at htexts
    exact texts_ne hbyte hne hline _ _ _ htexts
  · cases hall

/-! ## Reading the file back -/

def blank (line : StyledLine) : StyledLine := { line with text := [] }

/-- The file's literals are the texts they were made from, and its pages hold the operators
they hold without their lines' texts. -/
structure LiteralsReadBack (bytes : Bytes) (pages : List (List StyledLine)) (title : JsString)
    (module : ReportModule) : Prop where
  texts : literals bytes = some (fileTexts pages title)
  operators : ∀ (index : Nat) (page : List StyledLine), pages[index]? = some page →
    outside (latin1 (buildPageStream page (index + 1) pages.length module)) =
      outside (latin1 (buildPageStream (page.map blank) (index + 1) pages.length module))

theorem linesOutside_blank (module : ReportModule) (y : ℚ) (mcid : Nat)
    (lines : List StyledLine) :
    linesOutside module y mcid (lines.map blank) = linesOutside module y mcid lines := by
  induction lines generalizing y mcid with
  | nil => rfl
  | cons line lines ih =>
      rw [List.map_cons, linesOutside, linesOutside, ih]
      rfl

theorem outside_page {page : List StyledLine} {texts : List Bytes}
    (h : List.Forall₂ ReadsAs page texts) (pageNumber pageCount : Nat) (module : ReportModule) :
    outside (latin1 (buildPageStream page pageNumber pageCount module)) =
      outside (latin1 (buildPageStream (page.map blank) pageNumber pageCount module)) := by
  have hblank : ∀ line, ReadsAs (blank line) (lineText (blank line)) :=
    fun line => readsAs_of_kept fun _ hu => (nomatch hu)
  have hpage : List.Forall₂ ReadsAs (page.map blank) ((page.map blank).map lineText) := by
    refine List.forall₂_map_right_iff.mpr (List.forall₂_same.mpr fun line hline => ?_)
    obtain ⟨line, -, rfl⟩ := List.mem_map.mp hline
    exact hblank line
  rw [(scans_page h pageNumber pageCount module).outside,
    (scans_page hpage pageNumber pageCount module).outside]
  unfold pageOutside
  rw [linesOutside_blank]

theorem literalsReadBack_of_readable {pages : List (List StyledLine)} (h : Readable pages)
    (title : JsString) (module : ReportModule) :
    LiteralsReadBack (latin1 (fileText pages title module)) pages title module where
  texts := literals_fileText h title module
  operators := by
    intro index page hpage
    have hlines := h page (List.mem_of_getElem? hpage)
    exact outside_page (List.forall₂_map_right_iff.mpr (List.forall₂_same.mpr hlines)) _ _ module

/-- The module fits on one page, or its header is written as it is normalised. -/
def HeaderKept (pages : List (List StyledLine)) (title : JsString) : Prop :=
  pages.length ≤ 1 ∨ ∀ u ∈ title, isKept u = true

section

variable {host : Js.Host} {digest : String → String} {runtime : Runtime}
  {snapshot : ReportSnapshot} {module : ReportModule} {facts : List String}

theorem moduleLine_readsAs {line : StyledLine} (h : line ∈ moduleLines snapshot module facts) :
    ReadsAs line (lineText line) :=
  readsAs_of_kept fun u hu => kept_of_printable (moduleLines_printable h u hu)

theorem readable_of_headerKept
    (hpaged : Paged (continuationHeader runtime snapshot module)
      (moduleLines snapshot module facts) (modulePages runtime snapshot module facts))
    (h : HeaderKept (modulePages runtime snapshot module facts)
      (reportTitle runtime snapshot module)) :
    Readable (modulePages runtime snapshot module facts) :=
  hpaged.forall_lines (fun _ => moduleLine_readsAs) (h.imp id fun hkept => readsAs_of_kept hkept)

theorem headerKept_of_literals
    (hpaged : Paged (continuationHeader runtime snapshot module)
      (moduleLines snapshot module facts) (modulePages runtime snapshot module facts))
    (hclear : ∀ u ∈ reportTitle runtime snapshot module, isAmbiguous u = false)
    (h : literals (latin1 (fileText (modulePages runtime snapshot module facts)
      (reportTitle runtime snapshot module) module)) =
      some (fileTexts (modulePages runtime snapshot module facts)
        (reportTitle runtime snapshot module))) :
    HeaderKept (modulePages runtime snapshot module facts)
      (reportTitle runtime snapshot module) := by
  obtain ⟨first, rest, hpages, hlines⟩ := hpaged.bodies
  rw [hpages] at h ⊢
  cases rest with
  | nil => exact .inl (Nat.le_refl 1)
  | cons body rest =>
      refine .inr ?_
      by_contra hheader
      have hfirst : ∀ line ∈ first, ReadsAs line (lineText line) := by
        intro line hline
        have hmodule : line ∈ moduleLines snapshot module facts := by
          rw [← hlines]
          exact List.mem_append_left _ hline
        exact moduleLine_readsAs hmodule
      exact literals_ne (continuationHeader runtime snapshot module) hfirst hheader hclear
        (reportTitle runtime snapshot module) module h

end

/-- **Literals.** They read back when the module fits on one page or every unit of the header
is written as normalisation would write it, and, but for units a reader may take for a question
mark or an escape, only then. -/
theorem literals_read_back {host : Js.Host} {digest : String → String} {runtime : Runtime}
    {input : ReportSnapshotInput} {snapshot : ReportSnapshot} {module : ReportModule}
    (hcreated : createReportSnapshot host digest input = .ok snapshot)
    (hcommissioned : Commissioned snapshot module) :
    ∃ facts artifact,
      reportSemanticFacts host digest runtime snapshot (some module) = .ok facts ∧
      generateModulePdf runtime host digest snapshot module = .ok artifact ∧
      let pages := modulePages runtime snapshot module facts
      let title := reportTitle runtime snapshot module
      (HeaderKept pages title → LiteralsReadBack artifact.bytes pages title module) ∧
      ((∀ u ∈ title, isAmbiguous u = false) →
        LiteralsReadBack artifact.bytes pages title module → HeaderKept pages title) := by
  obtain ⟨facts, artifact, hfacts, hpdf, hbytes, -, hpaged⟩ :=
    generateModulePdf_created runtime hcreated hcommissioned
  refine ⟨facts, artifact, hfacts, hpdf, fun hkept => ?_, fun hclear hread => ?_⟩
  · rw [hbytes]
    exact literalsReadBack_of_readable (readable_of_headerKept hpaged hkept) _ _
  · rw [hbytes] at hread
    exact headerKept_of_literals hpaged hclear hread.texts

namespace Sample

theorem literals_read_back_created : ∃ facts artifact,
    reportSemanticFacts host id runtime (snapshot "1 Main St" []) (some .building) = .ok facts ∧
    generateModulePdf runtime host id (snapshot "1 Main St" []) .building = .ok artifact ∧
    LiteralsReadBack artifact.bytes (modulePages runtime (snapshot "1 Main St" []) .building facts)
      (reportTitle runtime (snapshot "1 Main St" []) .building) .building := by
  obtain ⟨facts, artifact, hfacts, hpdf, hread, -⟩ :=
    @literals_read_back host id runtime _ _ .building created rfl
  refine ⟨facts, artifact, hfacts, hpdf, hread (.inr ?_)⟩
  exact List.all_eq_true.mp (by decide +kernel)

/-- Long enough for a second page. -/
def remarks : List String := List.replicate 45 "The cause was not seen"

/-- The last letter's low byte is a closing parenthesis. -/
def label : String := "1 Main Stĩ"

theorem label_created : createReportSnapshot host id (input label remarks) =
    .ok (snapshot label remarks) := created_of_valid (by decide +kernel)

/-- The remarks alone nearly fill a page. -/
theorem two_pages {propertyLabel : String} {facts : List String}
    (hfacts : reportSemanticFacts host id runtime (snapshot propertyLabel remarks)
      (some .building) = .ok facts)
    (hpaged : Paged (continuationHeader runtime (snapshot propertyLabel remarks) .building)
      (moduleLines (snapshot propertyLabel remarks) .building facts)
      (modulePages runtime (snapshot propertyLabel remarks) .building facts)) :
    2 ≤ (modulePages runtime (snapshot propertyLabel remarks) .building facts).length := by
  have hlong : 53 < facts.length := by
    obtain ⟨inspectionDate, issuedAt, rfl⟩ := reportSemanticFacts_ok runtime hfacts
    have hbuilding : 49 < ((snapshot "" remarks).building.toList.flatMap
      buildingFacts).length := by decide +kernel
    have hsame : (snapshot propertyLabel remarks).building = (snapshot "" remarks).building := rfl
    rw [if_pos (.inr rfl), hsame]
    simp only [List.length_append, List.length_cons]
    omega
  have hlines : facts.length ≤ (moduleLines (snapshot propertyLabel remarks)
      .building facts).length := by
    have hle := length_le_styleAndWrap (requiredText facts)
      (headingTexts (snapshot propertyLabel remarks) .building)
    rwa [requiredText, List.length_map] at hle
  obtain ⟨first, rest, hpages, hflat⟩ := hpaged.bodies
  cases rest with
  | nil =>
      have hfew := (hpaged.onPage first (by rw [hpages]; exact List.mem_cons_self)).few
      rw [← hflat, List.flatten_nil, List.append_nil] at hlines
      omega
  | cons body rest =>
      rw [hpages, List.length_cons, List.map_cons, List.length_cons]
      omega

/-- A label one of whose letters ends the header's literal. -/
theorem header_ends_early : ∃ facts artifact,
    createReportSnapshot host id (input label remarks) = .ok (snapshot label remarks) ∧
    reportSemanticFacts host id runtime (snapshot label remarks) (some .building) = .ok facts ∧
    generateModulePdf runtime host id (snapshot label remarks) .building = .ok artifact ∧
    ¬ LiteralsReadBack artifact.bytes
      (modulePages runtime (snapshot label remarks) .building facts)
      (reportTitle runtime (snapshot label remarks) .building) .building := by
  obtain ⟨facts, artifact, hfacts, hpdf, hbytes, -, hpaged⟩ :=
    @generateModulePdf_created host id runtime _ _ label_created .building rfl
  refine ⟨facts, artifact, label_created, hfacts, hpdf, fun hread => ?_⟩
  rw [hbytes] at hread
  have hclear : ∀ u ∈ reportTitle runtime (snapshot label remarks) .building,
      isAmbiguous u = false := by
    intro u hu
    have hall : ((reportTitle runtime (snapshot label remarks) .building).all
        fun u => !isAmbiguous u) = true := by decide +kernel
    simpa using List.all_eq_true.mp hall u hu
  rcases headerKept_of_literals hpaged hclear hread.texts with hone | hkept
  · have htwo := two_pages hfacts hpaged
    omega
  · have hbad : ¬ (reportTitle runtime (snapshot label remarks) .building).all isKept = true := by
      decide +kernel
    exact hbad (List.all_eq_true.mpr hkept)

end Sample

end InspectionHub.Reporting.Pdf
