import InspectionHub.Reporting.PdfHeaders

/-!
# The structure of the file

What a reader of the file relies on before it reads any text: the offsets of
the objects, their numbers, the lengths of the streams and the list of the
pages hold for every report. The marks in a page's stream are read outside its
literals, and hold as long as each literal ends where it was meant to.
-/

namespace InspectionHub.Reporting.Pdf

open PdfString

/-! ## Places in the file -/

/-- The text stands at a position of the file. -/
def At (bytes : Bytes) (position : Nat) (text : JsString) : Prop :=
  latin1 text <+: bytes.drop position

theorem length_latin1 (value : JsString) : (latin1 value).length = value.length :=
  List.length_map _

theorem at_append (before text after : JsString) :
    At (latin1 (before ++ text ++ after)) before.length text := by
  unfold At
  rw [List.append_assoc, latin1_append, ← length_latin1 before, List.drop_left, latin1_append]
  exact List.prefix_append _ _

/-- A part of the text stands where the text does. -/
theorem At.part {bytes : Bytes} {position : Nat} {text more : JsString}
    (h : At bytes position (text ++ more)) : At bytes position text := by
  unfold At at h ⊢
  rw [latin1_append] at h
  exact (List.prefix_append _ _).trans h

/-! ## The table of offsets -/

theorem length_natUnits_le {n k : Nat} (hk : 0 < k) (h : n < 10 ^ k) :
    (natUnits n).length ≤ k := by
  unfold natUnits units Json.natText
  rw [List.length_map]
  split
  · exact hk
  · rw [List.length_reverse, List.length_map]
    exact (Nat.digits_length_le_iff (by decide) n).mpr h

theorem length_padStart {offset : Nat} (h : offset < 10 ^ 10) :
    (padStart 10 (natUnits offset)).length = 10 := by
  have hle := length_natUnits_le (by decide) h
  unfold padStart
  rw [List.length_append, List.length_replicate]
  omega

theorem length_xrefEntry {offset : Nat} (h : offset < 10 ^ 10) :
    (xrefEntry offset).length = 20 := by
  unfold xrefEntry
  rw [List.length_append, length_padStart h]
  rfl

def xrefHead (maxObject : Nat) : JsString := js "xref\n0 " ++ natUnits (maxObject + 1) ++ js "\n"

def freeEntry : JsString := js "0000000000 65535 f \n"

def trailer (maxObject xrefOffset : Nat) : JsString :=
  js "trailer\n<< /Size " ++ natUnits (maxObject + 1) ++
    js " /Root 1 0 R /Info 5 0 R >>\nstartxref\n" ++ natUnits xrefOffset ++ js "\n%%EOF\n"

theorem xrefSection_eq (maxObject xrefOffset : Nat) (offsets : List Nat) :
    xrefSection maxObject xrefOffset (0 :: offsets) = xrefHead maxObject ++ (freeEntry ++
      ((offsets.map xrefEntry).flatten ++ trailer maxObject xrefOffset)) := by
  unfold xrefSection xrefHead freeEntry trailer
  rw [join_nil]
  simp only [List.drop_succ_cons, List.drop_zero, List.flatten_append, List.flatten_cons,
    List.flatten_nil, List.append_nil, List.append_assoc, List.cons_append, List.nil_append]

/-- Where an entry stands among entries of one length. -/
theorem flatten_at {α : Type} {n : Nat} {parts : List (List α)}
    (hparts : ∀ part ∈ parts, part.length = n) {i : Nat} {part : List α}
    (h : parts[i]? = some part) :
    ∃ before after, parts.flatten = before ++ part ++ after ∧ before.length = n * i := by
  induction parts generalizing i with
  | nil => cases h
  | cons first parts ih =>
      obtain ⟨hfirst, hparts⟩ := List.forall_mem_cons.mp hparts
      cases i with
      | zero =>
          cases h
          exact ⟨[], parts.flatten, rfl, rfl⟩
      | succ i =>
          obtain ⟨before, after, hsplit, hlength⟩ := ih hparts h
          refine ⟨first ++ before, after, ?_, ?_⟩
          · rw [List.flatten_cons, hsplit, List.append_assoc, List.append_assoc, List.append_assoc]
          · rw [List.length_append, hfirst, hlength, Nat.mul_succ, Nat.add_comm]

/-- What the file's last lines and its table say about its objects. -/
structure OffsetsRight (bytes : Bytes) (maxObject : Nat) : Prop where
  table : ∃ xrefOffset,
    latin1 (js "startxref\n" ++ natUnits xrefOffset ++ js "\n%%EOF\n") <:+ bytes ∧
    At bytes xrefOffset (xrefHead maxObject) ∧
    ∀ objectNumber, 1 ≤ objectNumber → objectNumber ≤ maxObject → ∃ offset,
      (padStart 10 (natUnits offset)).length = 10 ∧
      At bytes (xrefOffset + (xrefHead maxObject).length + 20 * objectNumber)
        (xrefEntry offset) ∧
      At bytes offset (natUnits objectNumber ++ js " 0 obj\n")

theorem offsets_lt {start offset : Nat} {bodies : List JsString} :
    ∀ o ∈ offsetsFrom start offset bodies,
      o ≤ offset + (chunksFrom start bodies).flatten.length := by
  induction bodies generalizing start offset with
  | nil => exact fun _ h => (nomatch h)
  | cons body bodies ih =>
      intro o ho
      rw [chunksFrom, List.flatten_cons, List.length_append]
      rcases List.mem_cons.mp ho with rfl | ho
      · omega
      · have hle := ih o ho
        omega

/-- **Offsets.** Below 10^10 bytes every entry of the table is the place of its object. -/
theorem offsetsRight_fileText (pages : List (List StyledLine)) (title : JsString)
    (module : ReportModule)
    (hsize : (latin1 (fileText pages title module)).length < 10 ^ 10) :
    OffsetsRight (latin1 (fileText pages title module)) (6 + pages.length * 2) := by
  have hfile : fileText pages title module = fileBody pages title module ++
      (xrefHead (6 + pages.length * 2) ++ (freeEntry ++
        (((fileOffsets pages title module).map xrefEntry).flatten ++
          trailer (6 + pages.length * 2) (fileBody pages title module).length))) := by
    rw [← xrefSection_eq]
    rfl
  have hsmall : ∀ o ∈ fileOffsets pages title module, o < 10 ^ 10 := by
    intro o ho
    have hle := offsets_lt o ho
    have hbody : (fileBody pages title module).length =
        fileHead.length + (chunksFrom 1 (bodies pages title module)).flatten.length :=
      List.length_append
    rw [length_latin1, hfile, List.length_append, hbody] at hsize
    omega
  refine ⟨(fileBody pages title module).length, ?_, ?_, ?_⟩
  · -- the last lines
    have hlast : trailer (6 + pages.length * 2) (fileBody pages title module).length =
        js "trailer\n<< /Size " ++ natUnits (6 + pages.length * 2 + 1) ++
          js " /Root 1 0 R /Info 5 0 R >>\n" ++ (js "startxref\n" ++
            natUnits (fileBody pages title module).length ++ js "\n%%EOF\n") := by
      have hjoin : js " /Root 1 0 R /Info 5 0 R >>\nstartxref\n" =
          js " /Root 1 0 R /Info 5 0 R >>\n" ++ js "startxref\n" := by decide +kernel
      unfold trailer
      rw [hjoin]
      simp only [List.append_assoc]
    have hwhole : fileText pages title module = (fileBody pages title module ++
        (xrefHead (6 + pages.length * 2) ++ (freeEntry ++
          (((fileOffsets pages title module).map xrefEntry).flatten ++
            (js "trailer\n<< /Size " ++ natUnits (6 + pages.length * 2 + 1) ++
              js " /Root 1 0 R /Info 5 0 R >>\n"))))) ++
        (js "startxref\n" ++ natUnits (fileBody pages title module).length ++ js "\n%%EOF\n") := by
      rw [hfile, hlast]
      simp only [List.append_assoc]
    rw [hwhole, latin1_append _ (js "startxref\n" ++ natUnits _ ++ js "\n%%EOF\n")]
    exact List.suffix_append _ _
  · rw [hfile, ← List.append_assoc]
    exact at_append _ _ _
  · intro objectNumber hpositive hmax
    obtain ⟨i, rfl⟩ : ∃ i, objectNumber = 1 + i := ⟨objectNumber - 1, by omega⟩
    have hi : i < (bodies pages title module).length := by
      rw [length_bodies]
      omega
    obtain ⟨earlier, later, hsplit, hoffset⟩ := offset_eq 1 fileHead
      (List.getElem?_eq_getElem hi)
    have hmem : earlier.length ∈ fileOffsets pages title module := List.mem_of_getElem? hoffset
    refine ⟨earlier.length, length_padStart (hsmall _ hmem), ?_, ?_⟩
    · -- the entries before this one, the free one included
      have hentries : ∀ entry ∈ (fileOffsets pages title module).map xrefEntry,
          entry.length = 20 := by
        intro entry hentry
        obtain ⟨o, ho, rfl⟩ := List.mem_map.mp hentry
        exact length_xrefEntry (hsmall o ho)
      have hentry : ((fileOffsets pages title module).map xrefEntry)[i]? =
          some (xrefEntry earlier.length) := by
        rw [List.getElem?_map]
        exact congrArg (Option.map xrefEntry) hoffset
      obtain ⟨before, after, hflat, hlength⟩ := flatten_at hentries hentry
      have hposition : (fileBody pages title module).length +
          (xrefHead (6 + pages.length * 2)).length + 20 * (1 + i) =
          (fileBody pages title module ++ xrefHead (6 + pages.length * 2) ++ freeEntry ++
            before).length := by
        have hfree : freeEntry.length = 20 := by decide
        simp only [List.length_append, hfree, hlength]
        omega
      have hwhole : fileText pages title module =
          (fileBody pages title module ++ xrefHead (6 + pages.length * 2) ++ freeEntry ++ before) ++
            xrefEntry earlier.length ++ (after ++ trailer (6 + pages.length * 2)
              (fileBody pages title module).length) := by
        rw [hfile, hflat]
        simp only [List.append_assoc]
      rw [hposition, hwhole]
      exact at_append _ _ _
    · have hwhole : fileText pages title module =
          earlier ++ (natUnits (1 + i) ++ js " 0 obj\n" ++ ((bodies pages title module)[i] ++
            js "\nendobj\n")) ++ (later ++ (xrefHead (6 + pages.length * 2) ++ (freeEntry ++
        (((fileOffsets pages title module).map xrefEntry).flatten ++
          trailer (6 + pages.length * 2) (fileBody pages title module).length)))) := by
        have hbody : fileBody pages title module =
            earlier ++ objectChunk (1 + i) (bodies pages title module)[i] ++ later := hsplit
        rw [hfile, hbody]
        unfold objectChunk
        simp only [List.append_assoc]
      rw [hwhole]
      exact (at_append _ _ _).part

/-! ## Objects and pages -/

/-- The file's objects are numbered without gaps, the page tree lists the pages in order,
and each page's stream has the length it says. -/
structure ObjectsRight (bytes : Bytes) (pages : List (List StyledLine)) (title : JsString)
    (module : ReportModule) : Prop where
  numbered : ∃ xref, bytes = latin1 (fileHead ++
    ((bodies pages title module).mapIdx fun i body => objectChunk (i + 1) body).flatten ++ xref)
  count : (bodies pages title module).length = 6 + pages.length * 2
  tree : (bodies pages title module)[1]? = some (js "<< /Type /Pages /Count " ++
    natUnits pages.length ++ js " /Kids [" ++ join (js " ") ((List.range pages.length).map
      fun index => natUnits (6 + index * 2) ++ js " 0 R") ++ js "] >>")
  pages : ∀ (index : Nat) (page : List StyledLine), pages[index]? = some page →
    (bodies pages title module)[5 + 2 * index]? = some (pageObject (7 + index * 2) index) ∧
    (bodies pages title module)[6 + 2 * index]? = some (
      let stream := buildPageStream page (index + 1) pages.length module
      js "<< /Length " ++ natUnits (latin1 stream).length ++ js " >>\nstream\n" ++ stream ++
        js "\nendstream")

theorem chunksFrom_eq (start : Nat) (bodies : List JsString) :
    chunksFrom start bodies = bodies.mapIdx fun i body => objectChunk (start + i) body := by
  induction bodies generalizing start with
  | nil => rfl
  | cons body bodies ih =>
      rw [chunksFrom, ih, List.mapIdx_cons]
      simp only [Nat.add_zero, Nat.add_assoc, Nat.add_comm 1]

/-- **Objects.** They are as the file says, for any pages. -/
theorem objectsRight_fileText (pages : List (List StyledLine)) (title : JsString)
    (module : ReportModule) :
    ObjectsRight (latin1 (fileText pages title module)) pages title module where
  numbered := by
    refine ⟨xrefSection (6 + pages.length * 2) (fileBody pages title module).length
      (0 :: fileOffsets pages title module), ?_⟩
    have hchunks := chunksFrom_eq 1 (bodies pages title module)
    simp only [Nat.add_comm 1] at hchunks
    rw [← hchunks]
    rfl
  count := length_bodies pages title module
  tree := by
    unfold bodies pagesObject pageNumbers
    simp only [List.map_map]
    rfl
  pages := by
    intro index page hpage
    obtain ⟨hobject, hcontent⟩ := pageBodies_get pages.length module 0 hpage
    rw [Nat.zero_add] at hobject hcontent
    have hlt : 2 * index + 1 < (pageBodies pages.length module 0 pages).length :=
      (List.getElem?_eq_some_iff.mp hcontent).1
    have hget : ∀ j < (pageBodies pages.length module 0 pages).length,
        (bodies pages title module)[5 + j]? = (pageBodies pages.length module 0 pages)[j]? := by
      intro j hj
      unfold bodies
      rw [List.append_assoc, List.getElem?_append_right (by simp)]
      change (pageBodies pages.length module 0 pages ++ [structureRoot])[5 + j - 5]? = _
      rw [Nat.add_sub_cancel_left, List.getElem?_append_left hj]
    refine ⟨by rw [hget _ (by omega), hobject], ?_⟩
    have hindex : 6 + 2 * index = 5 + (2 * index + 1) := by omega
    dsimp only
    rw [hindex, hget _ hlt, hcontent, length_latin1]
    rfl

/-! ## Marks -/

def markKey : Bytes := latin1 (js "/MCID")

/-- The ids of the marks in a page's stream, read outside its literals. -/
def markedIds (stream : JsString) : List Bytes :=
  valuesOf markKey (tokens (outside (latin1 stream)))

def idText (mcid : Nat) : Bytes := latin1 (natUnits mcid)

theorem idText_digits (mcid : Nat) : idText mcid ≠ [] ∧ ∀ c ∈ idText mcid, isWhite c = false := by
  constructor
  · intro hnil
    have hunits := List.map_eq_nil_iff.mp (List.map_eq_nil_iff.mp hnil)
    exact Json.natText_ne_nil mcid hunits
  · intro c hc
    by_contra hwhite
    have hbyte : c.toNat < 0x30 ∨ 0x39 < c.toNat := by
      simp only [isWhite, Bool.or_eq_false_iff, decide_eq_false_iff_not, not_and_or,
        not_not] at hwhite
      rcases hwhite with ((((h | h) | h) | h) | h) | h <;> rw [h] <;> decide
    exact free_natUnits hbyte mcid hc

theorem idText_injective : Function.Injective idText := by
  intro a b h
  have hread : ∀ n, (idText n).map (fun c => Char.ofNat c.toNat) = Json.natText n := by
    intro n
    unfold idText latin1 natUnits units
    rw [List.map_map, List.map_map]
    refine (List.map_congr_left fun d hd => ?_).trans (List.map_id _)
    have hdigit := Json.natText_isDigit n d hd
    simp only [Char.isDigit, Bool.and_eq_true, decide_eq_true_eq] at hdigit
    have hlow : 0x30 ≤ d.toNat ∧ d.toNat ≤ 0x39 := hdigit
    change Char.ofNat (d.toNat % 65536 % 256) = d
    rw [Nat.mod_eq_of_lt (by omega), Nat.mod_eq_of_lt (by omega), Char.ofNat_toNat]
  exact Json.natText_injective (by rw [← hread a, ← hread b, h])

/-- A text gives the marks these ids. -/
abbrev GivesIds (value : JsString) (ids : List Bytes) : Prop := Gives markKey (latin1 value) ids

variable {value : JsString}

theorem givesIds_none (h : Free 0x4D value) : GivesIds value [] :=
  gives_none (c := 0x4D) (by decide) h

variable {ids : List Bytes}

theorem givesIds_lead (h : GivesIds value ids) {commands : List JsString}
    {values : List (List Bytes)} (hcommands : List.Forall₂ GivesIds commands values) :
    GivesIds (value ++ lead newline commands) (ids ++ values.flatten) := by
  induction hcommands generalizing value ids with
  | nil =>
      rw [List.flatten_nil, List.append_nil]
      change GivesIds (value ++ []) ids
      rwa [List.append_nil]
  | @cons command own commands values hcommand _ ih =>
      have hnext : GivesIds (value ++ (newline ++ command)) (ids ++ own) := by
        unfold GivesIds
        rw [latin1_append, latin1_append]
        exact h.append hcommand (by decide)
      have hlead : lead newline (command :: commands) =
          newline ++ command ++ lead newline commands := rfl
      rw [hlead, List.flatten_cons, ← List.append_assoc ids, ← List.append_assoc value]
      exact ih hnext

/-- The mark of a line. -/
theorem givesIds_mark (tag : LineTag) (mcid : Nat) :
    GivesIds (js "/" ++ js tag.text ++ js " << /MCID " ++ natUnits mcid ++ js " >> BDC")
      [idText mcid] := by
  have hsplit : latin1 (js "/" ++ js tag.text ++ js " << /MCID " ++ natUnits mcid ++
      js " >> BDC") = latin1 (js "/" ++ js tag.text ++ js " <<") ++ 0x20 :: (markKey ++ 0x20 ::
        (idText mcid ++ 0x20 :: latin1 (js ">> BDC"))) := by
    have hkey : js " << /MCID " = js " <<" ++ (js " " ++ (js "/MCID" ++ js " ")) := by decide
    have hend : js " >> BDC" = js " " ++ js ">> BDC" := by decide
    have hspace : latin1 (js " ") = [0x20] := rfl
    rw [hkey, hend]
    simp only [latin1_append, hspace, List.append_assoc, List.cons_append, List.nil_append]
    rfl
  obtain ⟨hne, hwhite⟩ := idText_digits mcid
  unfold GivesIds
  rw [hsplit]
  have hbefore : markKey ∉ tokens (latin1 (js "/" ++ js tag.text ++ js " <<")) := by
    cases tag <;> decide +kernel
  exact gives_value (by decide) (by decide) hne hwhite hbefore (by decide +kernel)
    (by decide +kernel) (by decide)

theorem forall₂_none {commands : List JsString} (h : ∀ command ∈ commands, GivesIds command []) :
    List.Forall₂ GivesIds commands (commands.map fun _ => []) :=
  List.forall₂_map_right_iff.mpr (List.forall₂_same.mpr h)

theorem flatten_none {α β : Type} (l : List α) :
    (l.map fun _ => ([] : List β)).flatten = [] := by
  induction l with
  | nil => rfl
  | cons a l ih => rw [List.map_cons, List.flatten_cons, ih, List.append_nil]

def closingCommands : List JsString := [js " Tj", js "ET", js "EMC"]

theorem givesIds_closing : ∀ command ∈ closingCommands, GivesIds command [] := by
  have hmark : GivesIds (js "EMC") [] := by
    refine valuesOf_skip ?_
    decide
  exact List.forall_mem_cons.mpr ⟨givesIds_none (by decide), List.forall_mem_cons.mpr
    ⟨givesIds_none (by decide), List.forall_mem_cons.mpr ⟨hmark, fun _ h => (nomatch h)⟩⟩⟩

/-- A line's operators are those of its mark, then others. -/
theorem line_commands (module : ReportModule) (y : ℚ) (mcid : Nat) (line : StyledLine) :
    lineOpening module y mcid line ++ lineClosing = lead newline
      ((js "/" ++ js line.tag.text ++ js " << /MCID " ++ natUnits mcid ++ js " >> BDC") ::
        (((drawLine module y mcid line).take 5).drop 1 ++ closingCommands)) := by
  unfold lineOpening lineClosing closingCommands drawLine lead
  simp only [List.take_succ_cons, List.take_zero, List.drop_succ_cons, List.drop_zero,
    List.map_cons, List.map_nil, List.flatten_cons, List.flatten_nil, List.append_assoc,
    List.append_nil, List.cons_append, List.nil_append]

theorem givesIds_lines (module : ReportModule) (lines : List StyledLine) (h : GivesIds value ids)
    (y : ℚ) (mcid : Nat) :
    GivesIds (value ++ linesOutside module y mcid lines)
      (ids ++ (List.range' mcid lines.length).map idText) := by
  induction lines generalizing value ids y mcid with
  | nil =>
      change GivesIds (value ++ []) (ids ++ [])
      rwa [List.append_nil, List.append_nil]
  | cons line lines ih =>
      have hplain : ∀ command ∈ ((drawLine module y mcid line).take 5).drop 1 ++ closingCommands,
          GivesIds command [] := by
        intro command hcommand
        rcases List.mem_append.mp hcommand with hcommand | hcommand
        · exact givesIds_none (free_commands (.inr rfl) module y mcid line command hcommand)
        · exact givesIds_closing command hcommand
      have hline := givesIds_lead h
        (.cons (givesIds_mark line.tag mcid) (forall₂_none hplain))
      rw [← line_commands, List.flatten_cons, flatten_none, List.append_nil] at hline
      have hall := ih hline (Double.double (y - lineHeight line)) (mcid + 1)
      rw [linesOutside, List.length_cons, List.range'_succ, List.map_cons, ← List.append_assoc]
      rwa [List.append_assoc ids] at hall

/-- The footer's commands around its mark. -/
def footerRule : List JsString :=
  [js "q", js "0.333 0.408 0.380 RG", js "0.5 w",
    js "54 42 m " ++ natUnits (pageWidth - 54) ++ js " 42 l S", js "Q"]

def footerFont : List JsString :=
  [js "BT", js "/F1 8 Tf", js "0.290 0.353 0.333 rg", js "1 0 0 1 " ++ natUnits left ++ js " 26 Tm"]

/-- The source's own words hold no mark. -/
theorem free_fixed : Free 0x4D bannerOutside ∧
    ((footerRule ++ footerFont).all fun command => decide (Free 0x4D command)) = true := by
  decide +kernel

theorem givesIds_fixed {command : JsString} (hcommand : command ∈ footerRule ++ footerFont) :
    GivesIds command [] :=
  givesIds_none (of_decide_eq_true (List.all_eq_true.mp free_fixed.2 command hcommand))

theorem givesIds_footer (h : GivesIds value ids) (pageNumber pageCount : Nat) :
    GivesIds (value ++ (footerOpening pageNumber pageCount ++ lineClosing))
      (ids ++ [latin1 (js "999")]) := by
  have hsplit : footerOpening pageNumber pageCount ++ lineClosing = lead newline
      (footerRule ++ (js "/P << /MCID 999 >> BDC" :: (footerFont ++ closingCommands))) := by
    unfold footerOpening lineClosing closingCommands footerCommands footerRule footerFont lead
    simp only [List.take_succ_cons, List.take_zero, List.map_cons, List.map_nil,
      List.flatten_cons, List.flatten_nil, List.append_assoc, List.append_nil, List.cons_append,
      List.nil_append]
  have hfirst : ∀ command ∈ footerRule, GivesIds command [] :=
    fun command hcommand => givesIds_fixed (List.mem_append_left _ hcommand)
  have hsecond : ∀ command ∈ footerFont ++ closingCommands, GivesIds command [] := by
    intro command hcommand
    rcases List.mem_append.mp hcommand with hcommand | hcommand
    · exact givesIds_fixed (List.mem_append_right _ hcommand)
    · exact givesIds_closing command hcommand
  have hmark : GivesIds (js "/P << /MCID 999 >> BDC") [latin1 (js "999")] :=
    givesIds_mark .p 999
  have hall := givesIds_lead h (List.rel_append (forall₂_none hfirst)
    (.cons hmark (forall₂_none hsecond)))
  rw [← hsplit, List.flatten_append, List.flatten_cons, flatten_none, flatten_none,
    List.append_nil, List.nil_append] at hall
  exact hall

/-- **A page's marks.** Its lines are numbered from 0; the footer has its own id. -/
theorem givesIds_page (lines : List StyledLine) (pageNumber pageCount : Nat)
    (module : ReportModule) :
    GivesIds (pageOutside lines pageNumber pageCount module)
      ((List.range lines.length).map idText ++ [latin1 (js "999")]) := by
  have hbanner : GivesIds bannerOutside [] := givesIds_none free_fixed.1
  have hall := givesIds_footer (givesIds_lines module lines hbanner top 0) pageNumber pageCount
  rw [List.nil_append, ← List.range_eq_range'] at hall
  exact hall

theorem nodup_ids {n : Nat} (h : n ≤ 999) :
    ((List.range n).map idText ++ [latin1 (js "999")]).Nodup := by
  refine List.Nodup.append (List.nodup_range.map idText_injective) (List.nodup_singleton _) ?_
  intro id hid hfooter
  obtain ⟨mcid, hmcid, rfl⟩ := List.mem_map.mp hid
  have heq : idText mcid = idText 999 := List.mem_singleton.mp hfooter
  have hlt := List.mem_range.mp hmcid
  have hsame := idText_injective heq
  omega

/-- The ids of a page's marks are distinct. -/
def MarksDistinct (pages : List (List StyledLine)) (module : ReportModule) : Prop :=
  ∀ (index : Nat) (page : List StyledLine), pages[index]? = some page →
    (markedIds (buildPageStream page (index + 1) pages.length module)).Nodup

theorem marksDistinct_of_contained {pages : List (List StyledLine)}
    (hpages : ∀ page ∈ pages, OnPage page)
    (hlines : ∀ page ∈ pages, ∀ line ∈ page, ∃ text, ReadsAs line text)
    (module : ReportModule) : MarksDistinct pages module := by
  intro index page hpage
  have hmem := List.mem_of_getElem? hpage
  have htexts : ∃ texts, List.Forall₂ ReadsAs page texts := by
    have hall := hlines page hmem
    clear hmem hpage
    induction page with
    | nil => exact ⟨[], .nil⟩
    | cons line page ih =>
        obtain ⟨⟨text, htext⟩, hrest⟩ := List.forall_mem_cons.mp hall
        obtain ⟨texts, htexts⟩ := ih hrest
        exact ⟨text :: texts, .cons htext htexts⟩
  obtain ⟨texts, htexts⟩ := htexts
  unfold markedIds
  rw [(scans_page htexts (index + 1) pages.length module).outside,
    (givesIds_page page (index + 1) pages.length module).values]
  exact nodup_ids ((hpages page hmem).few.trans (by decide))

/-- The module fits on one page, or no unit of its header is written as a parenthesis or a
reverse solidus that it is not. -/
def HeaderContained (pages : List (List StyledLine)) (title : JsString) : Prop :=
  pages.length ≤ 1 ∨ Legible title

/-- **Structure.** Below 10^10 bytes the offsets, the numbers of the objects, the lengths of the
streams and the list of the pages are right; the ids of a page's marks are distinct when the
module fits on one page or its header ends where it is meant to. -/
theorem file_well_formed {host : Js.Host} {digest : String → String} {runtime : Runtime}
    {input : ReportSnapshotInput} {snapshot : ReportSnapshot} {module : ReportModule}
    (hcreated : createReportSnapshot host digest input = .ok snapshot)
    (hcommissioned : Commissioned snapshot module) :
    ∃ facts artifact,
      reportSemanticFacts host digest runtime snapshot (some module) = .ok facts ∧
      generateModulePdf runtime host digest snapshot module = .ok artifact ∧
      let pages := modulePages runtime snapshot module facts
      let title := reportTitle runtime snapshot module
      (artifact.bytes.length < 10 ^ 10 → OffsetsRight artifact.bytes (6 + pages.length * 2)) ∧
      ObjectsRight artifact.bytes pages title module ∧
      (HeaderContained pages title → MarksDistinct pages module) := by
  obtain ⟨facts, artifact, hfacts, hpdf, hbytes, -, hpaged⟩ :=
    generateModulePdf_created runtime hcreated hcommissioned
  refine ⟨facts, artifact, hfacts, hpdf, ?_, ?_, fun hcontained => ?_⟩
  · rw [hbytes]
    exact offsetsRight_fileText _ _ module
  · rw [hbytes]
    exact objectsRight_fileText _ _ module
  · refine marksDistinct_of_contained hpaged.onPage (hpaged.forall_lines ?_ ?_) module
    · exact fun line hline => ⟨lineText line, moduleLine_readsAs hline⟩
    · exact hcontained.imp id fun hlegible => readsAs_of_legible hlegible

namespace Sample

theorem file_well_formed_created : ∃ facts artifact,
    reportSemanticFacts host id runtime (snapshot "1 Main St" []) (some .building) = .ok facts ∧
    generateModulePdf runtime host id (snapshot "1 Main St" []) .building = .ok artifact ∧
    ObjectsRight artifact.bytes (modulePages runtime (snapshot "1 Main St" []) .building facts)
      (reportTitle runtime (snapshot "1 Main St" []) .building) .building ∧
    MarksDistinct (modulePages runtime (snapshot "1 Main St" []) .building facts) .building := by
  obtain ⟨facts, artifact, hfacts, hpdf, -, hobjects, hmarks⟩ :=
    @file_well_formed host id runtime _ _ .building created rfl
  refine ⟨facts, artifact, hfacts, hpdf, hobjects, hmarks (.inr ?_)⟩
  refine legible_of_printable ?_
  exact List.all_eq_true.mp (by decide +kernel)

/-- The literal ends before the mark and another one starts after it. -/
def markLabel : String := "1 ĩ Tj ET EMC /P << /MCID 0 >> BDC BT Ĩ"

theorem markLabel_created : createReportSnapshot host id (input markLabel remarks) =
    .ok (snapshot markLabel remarks) := created_of_valid (by decide +kernel)

/-- The second page's stream up to its header. -/
def headerStream : JsString :=
  join newline bannerCommands ++ lead newline (drawLine .building top 0
    (continuationHeader runtime (snapshot markLabel remarks) .building))

/-- Read outside the literals, it has its own mark and the label's. -/
theorem headerStream_marks :
    (Scanner.run (Scanner.between [] []) (latin1 headerStream)).depth = 0 ∧
    (tokens (Scanner.run (Scanner.between [] []) (latin1 headerStream)).outside).getLast? ≠
      some markKey ∧
    ¬ (valuesOf markKey (tokens (Scanner.run (Scanner.between [] [])
      (latin1 headerStream)).outside)).Nodup := by
  decide +kernel

/-- A page that starts so repeats an id. -/
theorem repeated_of_headerStream (more : JsString) :
    ¬ (markedIds (headerStream ++ (newline ++ more))).Nodup := by
  obtain ⟨hdepth, hlast, hrepeated⟩ := headerStream_marks
  intro hnodup
  apply hrepeated
  unfold markedIds outside at hnodup
  rw [latin1_append, run_append] at hnodup
  generalize Scanner.run (Scanner.between [] []) (latin1 headerStream) = s at *
  have hstep : latin1 (newline ++ more) = 0x0A :: latin1 more := rfl
  have hnext : s.step 0x0A = Scanner.between s.texts (s.outside ++ [0x0A]) := by
    unfold Scanner.step
    rw [if_pos hdepth]
    rfl
  obtain ⟨later, hlater⟩ := outside_run (Scanner.between s.texts (s.outside ++ [0x0A]))
    (latin1 more)
  have hsplit : (s.outside ++ [0x0A]) ++ later = s.outside ++ 0x0A :: later := by
    rw [List.append_assoc]
    rfl
  rw [hstep, run_cons, hnext, ← hlater] at hnodup
  change (valuesOf markKey (tokens ((s.outside ++ [0x0A]) ++ later))).Nodup at hnodup
  rw [hsplit, tokens_append (by decide), valuesOf_append hlast] at hnodup
  exact hnodup.of_append_left

/-- Whatever follows the first line of a page starts a new line of the stream. -/
theorem stream_of_header (module : ReportModule) (header : StyledLine) (body : List StyledLine)
    (pageNumber pageCount : Nat) :
    ∃ more, buildPageStream (header :: body) pageNumber pageCount module =
      (join newline bannerCommands ++ lead newline (drawLine module top 0 header)) ++
        (newline ++ more) := by
  have hfollows : ∀ commands, ∃ more,
      lead newline (commands ++ footerCommands pageNumber pageCount) = newline ++ more := by
    intro commands
    cases commands with
    | nil => exact ⟨_, rfl⟩
    | cons command rest =>
        refine ⟨command ++ lead newline (rest ++ footerCommands pageNumber pageCount), ?_⟩
        change (newline ++ command) ++ lead newline (rest ++ footerCommands _ _) = _
        rw [List.append_assoc]
  rw [buildPageStream_eq, drawLines, lead_append, List.append_assoc, List.append_assoc,
    ← lead_append]
  obtain ⟨more, hmore⟩ := hfollows (drawLines module
    (Double.double (top - lineHeight header)) (0 + 1) body)
  exact ⟨more, by rw [hmore, List.append_assoc]⟩

/-- A label that adds a mark to the second page. -/
theorem header_repeats_id : ∃ facts artifact,
    createReportSnapshot host id (input markLabel remarks) = .ok (snapshot markLabel remarks) ∧
    reportSemanticFacts host id runtime (snapshot markLabel remarks) (some .building) = .ok facts ∧
    generateModulePdf runtime host id (snapshot markLabel remarks) .building = .ok artifact ∧
    ¬ MarksDistinct (modulePages runtime (snapshot markLabel remarks) .building facts)
      .building := by
  obtain ⟨facts, artifact, hfacts, hpdf, -, -, hpaged⟩ :=
    @generateModulePdf_created host id runtime _ _ markLabel_created .building rfl
  refine ⟨facts, artifact, markLabel_created, hfacts, hpdf, fun hdistinct => ?_⟩
  have htwo := two_pages hfacts hpaged
  obtain ⟨first, rest, hpages, -⟩ := hpaged.bodies
  rw [hpages] at htwo hdistinct
  cases rest with
  | nil => exact absurd htwo (by simp)
  | cons body rest =>
      have hids := hdistinct 1 _ rfl
      obtain ⟨more, hmore⟩ := stream_of_header .building
        (continuationHeader runtime (snapshot markLabel remarks) .building) body 2
        ((first :: (continuationHeader runtime (snapshot markLabel remarks) .building :: body) ::
          rest.map (continuationHeader runtime (snapshot markLabel remarks) .building :: ·)).length)
      have hrepeated := repeated_of_headerStream more
      unfold headerStream at hrepeated
      rw [← hmore] at hrepeated
      exact hrepeated hids

end Sample

end InspectionHub.Reporting.Pdf
