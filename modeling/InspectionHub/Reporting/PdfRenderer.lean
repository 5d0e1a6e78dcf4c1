import InspectionHub.Lib.CodeUnits
import InspectionHub.Lib.Double
import InspectionHub.Lib.OMap
import InspectionHub.Lib.Words
import InspectionHub.Reporting.SemanticReport

/-!
# The PDF renderer

`packages/reporting/src/pdf/pdf-renderer.ts`: the sentences of a module wrapped
into lines, the lines set on pages, and the pages written as a file.

Heights and coordinates are doubles. Text is a sequence of code units until the
file's bytes are taken from it, one for each unit.
-/

namespace InspectionHub.Reporting.Pdf

theorem neZero_codeUnit : NeZero 65536 := ⟨by decide⟩

/-- A text of the language. -/
def js (s : String) : JsString :=
  (Canonical.codeUnits s).map (@Fin.ofNat 65536 neZero_codeUnit)

/-- `String(n)` -/
def natUnits (n : Nat) : JsString := units (Json.natText n)

/-- `Buffer.from(value, "latin1")`: the low byte of every code unit. -/
def latin1 (value : JsString) : List UInt8 := value.map fun u => UInt8.ofNat u.val

/-- `Buffer.byteLength(value, "latin1")` -/
def byteLength (value : JsString) : Nat := value.length

/-- `parts.join(separator)` -/
def join (separator : JsString) (parts : List JsString) : JsString :=
  List.intercalate separator parts

/-- `value.replaceAll(pattern, replacement)` for a pattern that matches single code units. -/
def replaceUnits (pattern : CodeUnit → Bool) (replacement value : JsString) : JsString :=
  value.flatMap fun u => if pattern u then replacement else [u]

/-! ## Text -/

def isPrintable (u : CodeUnit) : Bool :=
  (0x20 ≤ u.val && u.val ≤ 0x7E) || (0xA0 ≤ u.val && u.val ≤ 0xFF)

def questionMark : CodeUnit := CodeUnit.ofChar '?'

/-- `.replaceAll(/[^…]/gu, "?")`: a pair of surrogates is one character. -/
def replaceUnprintable : JsString → JsString
  | [] => []
  | [u] => [if isPrintable u then u else questionMark]
  | u :: v :: rest =>
      if u.isHigh && v.isLow then questionMark :: replaceUnprintable rest
      else (if isPrintable u then u else questionMark) :: replaceUnprintable (v :: rest)

def isDash (u : CodeUnit) : Bool := (0x2010 ≤ u.val && u.val ≤ 0x2015) || u.val = 0x2212

def isSingleQuote (u : CodeUnit) : Bool := u.val = 0x2018 || u.val = 0x2019

def isDoubleQuote (u : CodeUnit) : Bool := u.val = 0x201C || u.val = 0x201D

def isEllipsis (u : CodeUnit) : Bool := u.val = 0x2026

def normalisePdfText (value : JsString) : JsString :=
  replaceUnprintable (replaceUnits isEllipsis (js "...") (replaceUnits isDoubleQuote (js "\"")
    (replaceUnits isSingleQuote (js "'") (replaceUnits isDash (js "-") value))))

def escapePdfText (value : JsString) : JsString :=
  replaceUnits (· == CodeUnit.ofChar ')') (js "\\)")
    (replaceUnits (· == CodeUnit.ofChar '(') (js "\\(")
      (replaceUnits (· == CodeUnit.ofChar '\\') (js "\\\\") value))

def moduleLabel : ReportModule → String
  | .building => "Building"
  | .timber_pest => "Timber Pest"

/-! ## Lines -/

inductive LineTag where
  | h1
  | h2
  | p
deriving DecidableEq

def LineTag.text : LineTag → String
  | .h1 => "H1"
  | .h2 => "H2"
  | .p => "P"

structure StyledLine where
  text : JsString
  size : Nat
  bold : Bool
  spacingAfter : Nat
  tag : LineTag
deriving DecidableEq

/-- `\s`, whose characters are single code units. -/
def isWhiteUnit (u : CodeUnit) : Bool := Js.isWhite (Char.ofNat u.val)

/-- `if (current.length > 0) { lines.push(current); }` -/
def flush (lines : List JsString) (current : JsString) : List JsString :=
  if 0 < current.length then lines ++ [current] else lines

/-- `candidate` -/
def withWord (current word : JsString) : JsString :=
  if current.length = 0 then word else current ++ js " " ++ word

/-- One step of the loop: the lines written and the current one. -/
def wrapWord (maxCharacters : Nat) (wrapped : List JsString × JsString) (word : JsString) :
    List JsString × JsString :=
  if maxCharacters < word.length then
    (flush wrapped.1 wrapped.2 ++ Words.slices maxCharacters word, [])
  else if maxCharacters < (withWord wrapped.2 word).length then (wrapped.1 ++ [wrapped.2], word)
  else (wrapped.1, withWord wrapped.2 word)

def wrapText (value : JsString) (maxCharacters : Nat) : List JsString :=
  let wrapped := (Words.split isWhiteUnit value).foldl (wrapWord maxCharacters) ([], [])
  let lines := flush wrapped.1 wrapped.2
  if lines.length = 0 then [[]] else lines

def labels : List JsString :=
  ["Classification", "Category", "Location", "Observation", "Apparent extent", "Significance",
    "Qualified opinion", "Further investigation", "Uncertainty", "Limitation",
    "Effect on conclusion", "Inspector", "Credential", "Reason"].map js

/-- `\w` -/
def isWordUnit (u : CodeUnit) : Bool :=
  (0x61 ≤ u.val && u.val ≤ 0x7A) || (0x41 ≤ u.val && u.val ≤ 0x5A) ||
    (0x30 ≤ u.val && u.val ≤ 0x39) || u.val = 0x5F

/-- `/^(?:…)\b/u.test(fact)` -/
def isLabelled (fact : JsString) : Bool :=
  labels.any fun label =>
    label.isPrefixOf fact && !((fact.drop label.length).head?.any isWordUnit)

/-- How a fact is set: as the title, as a heading or as text. -/
inductive Style where
  | h1
  | h2
  | p
deriving DecidableEq

def Style.size : Style → Nat
  | .h1 => 18
  | .h2 => 14
  | .p => 10

def Style.maxCharacters : Style → Nat
  | .h1 => 48
  | .h2 => 64
  | .p => 88

def Style.lastSpacing : Style → Nat
  | .h1 => 12
  | .h2 => 8
  | .p => 4

def Style.tag : Style → LineTag
  | .h1 => .h1
  | .h2 => .h2
  | .p => .p

def factStyle (headingTexts : List JsString) (index : Nat) (fact : JsString) : Style :=
  if index = 0 then .h1
  else if fact = js "Building report" ∨ fact = js "Timber Pest report" ∨
      fact = js "Amendment notice" ∨ fact ∈ headingTexts then .h2
  else .p

def styleFact (headingTexts : List JsString) (index : Nat) (fact : JsString) : List StyledLine :=
  let style := factStyle headingTexts index fact
  let lines := wrapText fact style.maxCharacters
  lines.mapIdx fun lineIndex text =>
    { text, size := style.size
      bold := style ≠ .p || (isLabelled fact && lineIndex = 0)
      spacingAfter := if lineIndex + 1 = lines.length then style.lastSpacing else 1
      tag := style.tag }

def styleAndWrap (facts headingTexts : List JsString) : List StyledLine :=
  (facts.mapIdx (styleFact headingTexts)).flatten

/-! ## Pages -/

def pageWidth : Nat := 595
def pageHeight : Nat := 842
def left : Nat := 54
def top : Nat := 786
def bottom : Nat := 50

/-- `line.size * 1.35 + line.spacingAfter` -/
def lineHeight (line : StyledLine) : ℚ :=
  Double.double (Double.double (line.size * Double.double (135 / 100)) + line.spacingAfter)

/-- The loop: the pages finished, the current one and the height left on it. -/
def paginateFrom (header : StyledLine) (pages : List (List StyledLine)) (page : List StyledLine)
    (y : ℚ) : List StyledLine → List (List StyledLine)
  | [] => if 0 < page.length then pages ++ [page] else pages
  | line :: rest =>
      let height := lineHeight line
      if Double.double (y - height) < bottom ∧ 0 < page.length then
        paginateFrom header (pages ++ [page]) [header, line]
          (Double.double (top - 24 - height)) rest
      else paginateFrom header pages (page ++ [line]) (Double.double (y - height)) rest

variable (runtime : Runtime)

/-- The template of the header lines and of the document's title. -/
def reportTitle (snapshot : ReportSnapshot) (module : ReportModule) : JsString :=
  js (snapshot.propertyLabel ++ " - " ++ moduleLabel module ++ " report - version " ++
    runtime.string snapshot.versionNumber)

def continuationHeader (snapshot : ReportSnapshot) (module : ReportModule) : StyledLine where
  text := reportTitle runtime snapshot module
  size := 9
  bold := true
  spacingAfter := 10
  tag := .p

def paginate (lines : List StyledLine) (snapshot : ReportSnapshot) (module : ReportModule) :
    List (List StyledLine) :=
  paginateFrom (continuationHeader runtime snapshot module) [] [] top lines

/-! ## The stream of a page -/

/-- `y.toFixed(2)` below 10^21. -/
def toFixed2 (y : ℚ) : JsString :=
  let magnitude := (⌊|y| * 100 + 1 / 2⌋).toNat
  (if y < 0 then js "-" else []) ++ natUnits (magnitude / 100) ++ js "." ++
    natUnits (magnitude % 100 / 10) ++ natUnits (magnitude % 10)

def moduleColour : ReportModule → JsString
  | .building => js "0.090 0.306 0.514"
  | .timber_pest => js "0.396 0.294 0.125"

/-- The commands of the band at the top. -/
def bannerCommands : List JsString :=
  [js "q", js "0.039 0.310 0.357 rg",
    js "0 " ++ natUnits (pageHeight - 26) ++ js " " ++ natUnits pageWidth ++ js " 26 re",
    js "f", js "Q", js "BT", js "/F2 9 Tf", js "1 1 1 rg",
    js "1 0 0 1 " ++ natUnits left ++ js " " ++ natUnits (pageHeight - 17) ++ js " Tm",
    js "(SEE IT INSPECTIONS - FORMAL RECORD) Tj", js "ET"]

/-- The commands of one line, drawn at `y`. -/
def drawLine (module : ReportModule) (y : ℚ) (mcid : Nat) (line : StyledLine) : List JsString :=
  [js "/" ++ js line.tag.text ++ js " << /MCID " ++ natUnits mcid ++ js " >> BDC", js "BT",
    js "/" ++ js (if line.bold then "F2" else "F1") ++ js " " ++ natUnits line.size ++ js " Tf",
    (if line.tag = .h2 then moduleColour module else js "0.090 0.125 0.114") ++ js " rg",
    js "1 0 0 1 " ++ natUnits left ++ js " " ++ toFixed2 y ++ js " Tm",
    js "(" ++ escapePdfText line.text ++ js ") Tj", js "ET", js "EMC"]

/-- The loop over a page's lines. -/
def drawLines (module : ReportModule) (y : ℚ) (mcid : Nat) : List StyledLine → List JsString
  | [] => []
  | line :: rest =>
      drawLine module y mcid line ++
        drawLines module (Double.double (y - lineHeight line)) (mcid + 1) rest

def footerCommands (pageNumber pageCount : Nat) : List JsString :=
  [js "q", js "0.333 0.408 0.380 RG", js "0.5 w",
    js "54 42 m " ++ natUnits (pageWidth - 54) ++ js " 42 l S", js "Q",
    js "/P << /MCID 999 >> BDC", js "BT", js "/F1 8 Tf", js "0.290 0.353 0.333 rg",
    js "1 0 0 1 " ++ natUnits left ++ js " 26 Tm",
    js "(Page " ++ natUnits pageNumber ++ js " of " ++ natUnits pageCount ++ js ") Tj",
    js "ET", js "EMC"]

/-- `commands` when the page is complete. -/
def pageCommands (lines : List StyledLine) (pageNumber pageCount : Nat) (module : ReportModule) :
    List JsString :=
  bannerCommands ++ drawLines module top 0 lines ++ footerCommands pageNumber pageCount

def buildPageStream (lines : List StyledLine) (pageNumber pageCount : Nat)
    (module : ReportModule) : JsString :=
  join (js "\n") (pageCommands lines pageNumber pageCount module)

/-! ## The file -/

def catalogObject (structureRootObject : Nat) : JsString :=
  js "<< /Type /Catalog /Pages 2 0 R /Lang (en-AU) /MarkInfo << /Marked true >> /StructTreeRoot " ++
    natUnits structureRootObject ++ js " 0 R >>"

def pagesObject (pageObjectNumbers : List Nat) (pageCount : Nat) : JsString :=
  js "<< /Type /Pages /Count " ++ natUnits pageCount ++ js " /Kids [" ++
    join (js " ") (pageObjectNumbers.map fun value => natUnits value ++ js " 0 R") ++ js "] >>"

def fontObject : JsString :=
  js "<< /Type /Font /Subtype /Type1 /BaseFont /Helvetica /Encoding /WinAnsiEncoding >>"

def boldFontObject : JsString :=
  js "<< /Type /Font /Subtype /Type1 /BaseFont /Helvetica-Bold /Encoding /WinAnsiEncoding >>"

def infoObject (title : JsString) : JsString :=
  js "<< /Title (" ++ escapePdfText (normalisePdfText title) ++
    js ") /Creator (InspectionHub semantic report renderer) /Producer (InspectionHub) >>"

def pageObject (contentObject index : Nat) : JsString :=
  js "<< /Type /Page /Parent 2 0 R /MediaBox [0 0 " ++ natUnits pageWidth ++ js " " ++
    natUnits pageHeight ++
    js "] /Resources << /Font << /F1 3 0 R /F2 4 0 R >> >> /Contents " ++
    natUnits contentObject ++ js " 0 R /StructParents " ++ natUnits index ++ js " >>"

def contentObject (stream : JsString) : JsString :=
  js "<< /Length " ++ natUnits (byteLength stream) ++ js " >>\nstream\n" ++ stream ++
    js "\nendstream"

def structureRoot : JsString :=
  js "<< /Type /StructTreeRoot /K [] /RoleMap << /H1 /H1 /H2 /H2 /P /P >> >>"

/-- The loop over the pages. -/
def setPages (pageObjectNumbers contentObjectNumbers : List Nat) (pageCount : Nat)
    (module : ReportModule) :
    Nat → List (List StyledLine) → OMap Nat JsString → Rendering (OMap Nat JsString)
  | _, [], objects => .ok objects
  | index, pageLines :: rest, objects =>
      match pageObjectNumbers[index]?, contentObjectNumbers[index]? with
      | some pageNumber, some contentNumber =>
          let stream := buildPageStream pageLines (index + 1) pageCount module
          setPages pageObjectNumbers contentObjectNumbers pageCount module (index + 1) rest
            ((objects.set pageNumber (pageObject contentNumber index)).set contentNumber
              (contentObject stream))
      | _, _ => .error ⟨"PDF page object allocation failed"⟩

/-- `chunks`, `offsets` and `byteOffset`. -/
structure Written where
  chunks : List JsString
  offsets : List Nat
  byteOffset : Nat

def objectChunk (objectNumber : Nat) (body : JsString) : JsString :=
  natUnits objectNumber ++ js " 0 obj\n" ++ body ++ js "\nendobj\n"

/-- One step of the loop over the objects. -/
def writeObject (objects : OMap Nat JsString) (written : Written) (objectNumber : Nat) :
    Rendering Written :=
  match objects.get? objectNumber with
  | none => .error ⟨"Missing PDF object " ++ String.ofList (Json.natText objectNumber)⟩
  | some body =>
      let chunk := objectChunk objectNumber body
      .ok { chunks := written.chunks ++ [chunk]
            offsets := written.offsets.set objectNumber written.byteOffset
            byteOffset := written.byteOffset + byteLength chunk }

/-- `value.padStart(length, "0")` -/
def padStart (length : Nat) (value : JsString) : JsString :=
  List.replicate (length - value.length) (CodeUnit.ofChar '0') ++ value

def xrefEntry (offset : Nat) : JsString := padStart 10 (natUnits offset) ++ js " 00000 n \n"

def xrefSection (maxObject xrefOffset : Nat) (offsets : List Nat) : JsString :=
  join [] ([js "xref\n0 " ++ natUnits (maxObject + 1) ++ js "\n", js "0000000000 65535 f \n"] ++
    (offsets.drop 1).map xrefEntry ++
    [js "trailer\n<< /Size " ++ natUnits (maxObject + 1) ++
      js " /Root 1 0 R /Info 5 0 R >>\nstartxref\n" ++ natUnits xrefOffset ++ js "\n%%EOF\n"])

def fileHead : JsString := js "%PDF-1.7\n%InspectionHub\n"

def buildPdf (pages : List (List StyledLine)) (title : JsString) (module : ReportModule) :
    Rendering (List UInt8) := do
  let pageObjectNumbers := pages.mapIdx fun index _ => 6 + index * 2
  let contentObjectNumbers := pages.mapIdx fun index _ => 7 + index * 2
  let structureRootObject := 6 + pages.length * 2
  let fixed : OMap Nat JsString := ((((OMap.empty.set 1 (catalogObject structureRootObject)).set 2
    (pagesObject pageObjectNumbers pages.length)).set 3 fontObject).set 4 boldFontObject).set 5
    (infoObject title)
  let paged ← setPages pageObjectNumbers contentObjectNumbers pages.length module 0 pages fixed
  let objects := paged.set structureRootObject structureRoot
  let maxObject := structureRootObject
  let written ← (List.range' 1 maxObject).foldlM (writeObject objects)
    ⟨[fileHead], List.replicate (maxObject + 1) 0, byteLength fileHead⟩
  let xref := xrefSection maxObject written.byteOffset written.offsets
  return latin1 (join [] (written.chunks ++ [xref]))

structure PdfArtifact where
  reportVersionId : String
  module : ReportModule
  fileName : JsString
  bytes : List UInt8
  contentHash : String
  pageCount : Nat
  requiredText : List JsString

def isSlugUnit (u : CodeUnit) : Bool :=
  (0x61 ≤ u.val && u.val ≤ 0x7A) || (0x30 ≤ u.val && u.val ≤ 0x39)

/-- `.replaceAll(/^-|-$/gu, "")` -/
def stripDashes (value : JsString) : JsString :=
  let dash := CodeUnit.ofChar '-'
  let value := if value.head? = some dash then value.drop 1 else value
  if value.getLast? = some dash then value.dropLast else value

def safeProperty (snapshot : ReportSnapshot) : JsString :=
  let lower := js (runtime.toLocaleLowerCase snapshot.propertyLabel)
  (stripDashes (join (js "-") (Words.split (fun u => !isSlugUnit u) lower))).take 48

variable (host : Js.Host) (digest : String → String)

def headingTexts (snapshot : ReportSnapshot) : ReportModule → List JsString
  | .building => snapshot.building.toList.flatMap fun module =>
      module.findings.map fun finding => normalisePdfText (js finding.title)
  | .timber_pest => snapshot.timberPest.toList.flatMap fun module =>
      module.findings.map fun finding => normalisePdfText (js finding.title)

def generateModulePdf (snapshot : ReportSnapshot) (module : ReportModule) :
    Rendering PdfArtifact := do
  if (module = .building ∧ snapshot.building.isNone) ∨
      (module = .timber_pest ∧ snapshot.timberPest.isNone) then
    throw ⟨"Cannot render a PDF for an uncommissioned report module"⟩
  let facts ← reportSemanticFacts host digest runtime snapshot (some module)
  let requiredText := facts.map fun fact => normalisePdfText (js fact)
  let lines := styleAndWrap requiredText (headingTexts snapshot module)
  let pages := paginate runtime lines snapshot module
  let bytes ← buildPdf pages (reportTitle runtime snapshot module) module
  return { reportVersionId := snapshot.reportVersionId, module
           fileName := safeProperty runtime snapshot ++ js "-" ++
             js (match module with | .building => "building" | .timber_pest => "timber-pest") ++
             js "-report-v" ++ js (runtime.string snapshot.versionNumber) ++ js ".pdf"
           bytes, contentHash := runtime.sha256 bytes, pageCount := pages.length, requiredText }

end InspectionHub.Reporting.Pdf
