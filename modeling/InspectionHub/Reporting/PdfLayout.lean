import InspectionHub.Reporting.PdfRenderer

/-!
# Nothing is lost in the layout

Wrapping keeps every character of a text that is not white space, and setting
the lines on pages keeps every line, in order, above the bottom margin. The
heights that `paginate` and `buildPageStream` keep are doubles that drift apart
from the second page on: the one drawn with is never below the one paged with.
-/

namespace InspectionHub.Reporting.Pdf

/-! ## Wrapping -/

def isInk (u : CodeUnit) : Bool := !isWhiteUnit u

/-- The characters a text has besides white space. -/
def ink (value : JsString) : JsString := value.filter isInk

theorem ink_append (a b : JsString) : ink (a ++ b) = ink a ++ ink b := List.filter_append ..

theorem ink_space : ink (js " ") = [] := by decide

theorem ink_word {value word : JsString} (h : word ∈ Words.split isWhiteUnit value) :
    ink word = word := by
  refine List.filter_eq_self.mpr fun u hu => ?_
  rw [isInk, Words.not_separator h u hu]
  rfl

/-- The loop's state: no line is too long, and the ink read so far is on the lines. -/
structure Wrapped (maxCharacters : Nat) (read : JsString) (wrapped : List JsString × JsString) :
    Prop where
  lines : ∀ line ∈ wrapped.1, line.length ≤ maxCharacters
  current : wrapped.2.length ≤ maxCharacters
  ink : ink (wrapped.1.flatten ++ wrapped.2) = read

theorem flatten_flush (lines : List JsString) (current : JsString) :
    (flush lines current).flatten = lines.flatten ++ current := by
  unfold flush
  split
  · rw [List.flatten_append, List.flatten_cons, List.flatten_nil, List.append_nil]
  · next h =>
      have hempty : current = [] := List.length_eq_zero_iff.mp (by omega)
      rw [hempty, List.append_nil]

theorem mem_flush {lines : List JsString} {current line : JsString}
    (h : line ∈ flush lines current) : line ∈ lines ∨ line = current := by
  unfold flush at h
  split at h
  · exact (List.mem_append.mp h).imp id List.mem_singleton.mp
  · exact .inl h

theorem ink_withWord (current word : JsString) :
    ink (withWord current word) = ink current ++ ink word := by
  unfold withWord
  split
  · next h =>
      rw [List.length_eq_zero_iff.mp h]
      rfl
  · rw [ink_append, ink_append, ink_space, List.append_nil]

variable {maxCharacters : Nat}

/-- What one word does. -/
theorem wrapWord_wrapped (hmax : 0 < maxCharacters) {read word : JsString}
    {wrapped : List JsString × JsString} (h : Wrapped maxCharacters read wrapped)
    (hword : ink word = word) :
    Wrapped maxCharacters (read ++ word) (wrapWord maxCharacters wrapped word) := by
  obtain ⟨lines, current⟩ := wrapped
  obtain ⟨hlines, hcurrent, hink⟩ := h
  unfold wrapWord
  split
  · -- the word is cut into slices, after the line under way
    refine ⟨fun line hline => ?_, Nat.zero_le _, ?_⟩
    · rcases List.mem_append.mp hline with hline | hline
      · rcases mem_flush hline with hline | rfl
        · exact hlines line hline
        · exact hcurrent
      · exact Words.length_slices maxCharacters word line hline
    · dsimp only
      rw [List.flatten_append, flatten_flush, Words.flatten_slices hmax, List.append_nil,
        ink_append, hink, hword]
  · next hshort =>
      split
      · -- the line under way is full
        refine ⟨fun line hline => ?_, not_lt.mp hshort, ?_⟩
        · rcases List.mem_append.mp hline with hline | hline
          · exact hlines line hline
          · rw [List.mem_singleton.mp hline]
            exact hcurrent
        · dsimp only
          rw [List.flatten_append, List.flatten_cons, List.flatten_nil, List.append_nil,
            ink_append, hink, hword]
      · next hfits =>
          refine ⟨hlines, not_lt.mp hfits, ?_⟩
          dsimp only
          rw [ink_append, ink_withWord, ← List.append_assoc, ← ink_append, hink, hword]

theorem foldl_wrapped (hmax : 0 < maxCharacters) (words : List JsString)
    (hwords : ∀ word ∈ words, ink word = word) {read : JsString}
    {wrapped : List JsString × JsString} (h : Wrapped maxCharacters read wrapped) :
    Wrapped maxCharacters (read ++ words.flatten)
      (words.foldl (wrapWord maxCharacters) wrapped) := by
  induction words generalizing read wrapped with
  | nil => rwa [List.flatten_nil, List.append_nil]
  | cons word words ih =>
      obtain ⟨hword, hrest⟩ := List.forall_mem_cons.mp hwords
      rw [List.flatten_cons, ← List.append_assoc]
      exact ih hrest (wrapWord_wrapped hmax h hword)

/-- **Wrapping.** No line is too long, and the lines carry the text's ink. -/
theorem wrapText_lines (value : JsString) (hmax : 0 < maxCharacters) :
    (∀ line ∈ wrapText value maxCharacters, line.length ≤ maxCharacters) ∧
      ink (wrapText value maxCharacters).flatten = ink value := by
  have hstart : Wrapped maxCharacters [] ([], []) :=
    ⟨fun _ h => (nomatch h), Nat.zero_le _, rfl⟩
  have hend := foldl_wrapped hmax (Words.split isWhiteUnit value) (fun _ => ink_word) hstart
  rw [List.nil_append, Words.flatten_split] at hend
  unfold wrapText
  generalize (Words.split isWhiteUnit value).foldl (wrapWord maxCharacters) ([], []) = wrapped
    at hend
  obtain ⟨hlines, hcurrent, hink⟩ := hend
  rw [← flatten_flush] at hink
  dsimp only
  split
  · next hnone =>
      rw [List.length_eq_zero_iff.mp hnone] at hink
      refine ⟨fun line hline => ?_, hink⟩
      rw [List.mem_singleton.mp hline]
      exact Nat.zero_le _
  · refine ⟨fun line hline => ?_, hink⟩
    rcases mem_flush hline with hline | rfl
    · exact hlines line hline
    · exact hcurrent

theorem wrapText_ne_nil (value : JsString) (maxCharacters : Nat) :
    wrapText value maxCharacters ≠ [] := by
  unfold wrapText
  dsimp only
  split
  · exact List.cons_ne_nil _ _
  · next h => exact List.ne_nil_of_length_pos (Nat.pos_of_ne_zero h)

/-! ## Styling -/

/-- The texts of the lines, wrapped fact by fact. -/
def wrappedFacts (facts headingTexts : List JsString) : List JsString :=
  (facts.mapIdx fun index fact =>
    wrapText fact (factStyle headingTexts index fact).maxCharacters).flatten

theorem styleFact_text (headingTexts : List JsString) (index : Nat) (fact : JsString) :
    (styleFact headingTexts index fact).map StyledLine.text =
      wrapText fact (factStyle headingTexts index fact).maxCharacters := by
  unfold styleFact
  dsimp only
  rw [List.mapIdx_eq_zipIdx_map, List.map_map]
  exact List.zipIdx_map_fst _ _

theorem styleAndWrap_text (facts headingTexts : List JsString) :
    (styleAndWrap facts headingTexts).map StyledLine.text = wrappedFacts facts headingTexts := by
  unfold styleAndWrap wrappedFacts
  rw [List.map_flatten, List.mapIdx_eq_zipIdx_map, List.mapIdx_eq_zipIdx_map, List.map_map]
  simp only [Function.comp_def, styleFact_text]

/-- Every fact takes a line. -/
theorem length_le_styleAndWrap (facts headingTexts : List JsString) :
    facts.length ≤ (styleAndWrap facts headingTexts).length := by
  have htexts := congrArg List.length (styleAndWrap_text facts headingTexts)
  rw [List.length_map, wrappedFacts, List.length_flatten] at htexts
  rw [htexts]
  have hsum : ∀ l : List (List JsString), (∀ lines ∈ l, lines ≠ []) →
      l.length ≤ (l.map List.length).sum := by
    intro l
    induction l with
    | nil => exact fun _ => Nat.le_refl 0
    | cons lines l ih =>
        intro h
        obtain ⟨hlines, hl⟩ := List.forall_mem_cons.mp h
        have hpositive := List.length_pos_iff.mpr hlines
        have hrest := ih hl
        rw [List.length_cons, List.map_cons, List.sum_cons]
        omega
  have hall := hsum (facts.mapIdx fun index fact =>
    wrapText fact (factStyle headingTexts index fact).maxCharacters) (by
      intro lines hlines
      obtain ⟨index, _, rfl⟩ := List.mem_mapIdx.mp hlines
      exact wrapText_ne_nil _ _)
  rwa [List.length_mapIdx] at hall

/-- Heights between which every styled line lies. -/
def Fits (line : StyledLine) : Prop := 14 ≤ lineHeight line ∧ lineHeight line ≤ 40

variable {line : StyledLine}

theorem fits_of (style : Style) (hsize : line.size = style.size)
    (hspacing : line.spacingAfter = style.lastSpacing ∨ line.spacingAfter = 1) : Fits line := by
  have hheight : ∀ style : Style, ∀ spacing ∈ [style.lastSpacing, 1],
      let height := Double.double (Double.double ((style.size : ℚ) *
        Double.double (135 / 100)) + (spacing : ℚ))
      14 ≤ height ∧ height ≤ 40 := by
    intro style
    cases style <;> decide +kernel
  unfold Fits lineHeight
  rw [hsize]
  exact hheight style _ (by simpa using hspacing)

theorem styleAndWrap_fits {facts headingTexts : List JsString}
    (h : line ∈ styleAndWrap facts headingTexts) : Fits line := by
  obtain ⟨lines, hlines, hline⟩ := List.mem_flatten.mp h
  obtain ⟨index, hindex, rfl⟩ := List.mem_mapIdx.mp hlines
  obtain ⟨lineIndex, _, rfl⟩ := List.mem_mapIdx.mp hline
  refine fits_of (factStyle headingTexts index facts[index]) rfl ?_
  dsimp only
  split
  · exact .inl rfl
  · exact .inr rfl

/-! ## Paging -/

/-- Where the loop of `buildPageStream` draws the lines. -/
def baselines (y : ℚ) : List StyledLine → List ℚ
  | [] => []
  | line :: rest => y :: baselines (Double.double (y - lineHeight line)) rest

/-- Where it would draw the next one. -/
def nextBaseline (y : ℚ) (lines : List StyledLine) : ℚ :=
  lines.foldl (fun y line => Double.double (y - lineHeight line)) y

theorem baselines_append (y : ℚ) (lines : List StyledLine) (line : StyledLine) :
    baselines y (lines ++ [line]) = baselines y lines ++ [nextBaseline y lines] := by
  induction lines generalizing y with
  | nil => rfl
  | cons first lines ih => exact congrArg (y :: ·) (ih _)

theorem nextBaseline_append (y : ℚ) (lines : List StyledLine) (line : StyledLine) :
    nextBaseline y (lines ++ [line]) =
      Double.double (nextBaseline y lines - lineHeight line) := by
  unfold nextBaseline
  rw [List.foldl_append]
  rfl

/-- A page's lines stand above the bottom margin, and are not too many. -/
structure OnPage (page : List StyledLine) : Prop where
  above : ∀ y ∈ baselines top page, (bottom : ℚ) ≤ y
  few : page.length ≤ 53

/-- The page under way: what is drawn stands above the margin, the next line will too,
and it is drawn no lower than where the loop of `paginate` has it. -/
structure Open (page : List StyledLine) (y : ℚ) : Prop where
  above : ∀ y ∈ baselines top page, (bottom : ℚ) ≤ y
  drawn : y ≤ nextBaseline top page
  room : (bottom : ℚ) ≤ y
  used : y + 14 * page.length ≤ 800

variable {page : List StyledLine} {y : ℚ}

theorem Open.length_le (h : Open page y) : page.length ≤ 53 := by
  have hroom := h.room
  have hused := h.used
  norm_num [bottom] at hroom
  have hlength : (page.length : ℚ) < 54 := by linarith
  have hnat : page.length < 54 := by exact_mod_cast hlength
  omega

theorem Open.onPage (h : Open page y) : OnPage page :=
  ⟨h.above, h.length_le⟩

/-- What a line leaves free is no less than a whole number below it. -/
theorem le_double_sub {n : Nat} (hn : n < 2 ^ 53) (h : n + lineHeight line ≤ y) :
    (n : ℚ) ≤ Double.double (y - lineHeight line) := by
  calc (n : ℚ) = Double.double n := (Double.double_natCast hn).symm
    _ ≤ Double.double (y - lineHeight line) := Double.double_mono (by linarith)

theorem Open.push (h : Open page y) (hfits : Fits line)
    (hroom : (bottom : ℚ) ≤ Double.double (y - lineHeight line)) :
    Open (page ++ [line]) (Double.double (y - lineHeight line)) where
  above := by
    intro b hb
    rw [baselines_append] at hb
    rcases List.mem_append.mp hb with hb | hb
    · exact h.above b hb
    · rw [List.mem_singleton.mp hb]
      exact h.room.trans h.drawn
  drawn := by
    rw [nextBaseline_append]
    exact Double.double_mono (sub_le_sub_right h.drawn _)
  room := hroom
  used := by
    have hlength := h.length_le
    have hheight := hfits.1
    have hused := h.used
    have hcast : ((800 - 14 * (page.length + 1) : Nat) : ℚ) = 800 - 14 * (page.length + 1) := by
      rw [Nat.cast_sub (by omega)]
      push_cast
      ring
    -- the height left is rounded, but not past a whole number
    have hle : Double.double (y - lineHeight line) ≤ 800 - 14 * (page.length + 1) := by
      rw [← hcast, ← Double.double_natCast (n := 800 - 14 * (page.length + 1)) (by omega)]
      exact Double.double_mono (by rw [hcast]; linarith)
    rw [List.length_append, List.length_singleton]
    push_cast
    linarith

theorem open_nil : Open [] top where
  above := fun _ h => (nomatch h)
  drawn := le_rfl
  room := by norm_num [top, bottom]
  used := by norm_num [top]

/-- A continuation page starts with its header, below which the first line is
drawn a little higher than `paginate` has it. -/
theorem open_header {header : StyledLine} (hsize : header.size = 9)
    (hspacing : header.spacingAfter = 10) : Open [header] (top - 24) where
  above := by
    intro b hb
    rw [List.mem_singleton.mp hb]
    exact open_nil.room
  drawn := by
    have hheight : lineHeight header ≤ 24 := by
      unfold lineHeight
      rw [hsize, hspacing]
      decide +kernel
    have hle : ((762 : Nat) : ℚ) ≤ Double.double (top - lineHeight header) :=
      le_double_sub (by norm_num) (by norm_num [top]; linarith)
    have htop : (top : ℚ) - 24 = (762 : Nat) := by norm_num [top]
    rw [htop, nextBaseline, List.foldl_cons, List.foldl_nil]
    exact hle
  room := by norm_num [top, bottom]
  used := by norm_num [top]

/-- The first line under the top or under a header has room. -/
theorem room_of_top (h : Fits line) (hy : top - 24 ≤ y) :
    (bottom : ℚ) ≤ Double.double (y - lineHeight line) := by
  refine le_double_sub (by norm_num [bottom]) ?_
  have hheight := h.2
  norm_num [top, bottom] at hy ⊢
  linarith

/-- The pages from the one under way on: it goes on, then every page starts with the header. -/
theorem paginateFrom_open (header : StyledLine) (hsize : header.size = 9)
    (hspacing : header.spacingAfter = 10) (lines : List StyledLine)
    (hlines : ∀ line ∈ lines, Fits line) (pages : List (List StyledLine)) (hpage : page ≠ [])
    (hopen : Open page y) :
    ∃ (first : List StyledLine) (rest : List (List StyledLine)),
      paginateFrom header pages page y lines =
        pages ++ (page ++ first) :: rest.map (header :: ·) ∧
      first ++ rest.flatten = lines ∧ OnPage (page ++ first) ∧
      ∀ body ∈ rest, OnPage (header :: body) := by
  have hpositive := List.length_pos_iff.mpr hpage
  induction lines generalizing pages page y with
  | nil =>
      refine ⟨[], [], ?_, rfl, by rw [List.append_nil]; exact hopen.onPage, fun _ h => nomatch h⟩
      rw [List.append_nil]
      exact if_pos hpositive
  | cons line lines ih =>
      obtain ⟨hfits, hlines⟩ := List.forall_mem_cons.mp hlines
      unfold paginateFrom
      dsimp only
      split
      · -- the page is full
        have hnext := (open_header hsize hspacing).push hfits (room_of_top hfits le_rfl)
        obtain ⟨first, rest, hpages, hflat, hfirst, hrest⟩ := ih hlines (pages ++ [page])
          (List.cons_ne_nil header [line]) hnext (Nat.succ_pos _)
        refine ⟨[], (line :: first) :: rest, ?_, ?_, by rw [List.append_nil]; exact hopen.onPage,
          List.forall_mem_cons.mpr ⟨hfirst, hrest⟩⟩
        · rw [hpages, List.append_nil, List.append_assoc]
          rfl
        · rw [List.nil_append, List.flatten_cons, List.cons_append, hflat]
      · next hroom =>
          have hroom : (bottom : ℚ) ≤ Double.double (y - lineHeight line) :=
            not_lt.mp fun hlow => hroom ⟨hlow, hpositive⟩
          obtain ⟨first, rest, hpages, hflat, hfirst, hrest⟩ := ih hlines pages
            (by simp : page ++ [line] ≠ []) (hopen.push hfits hroom) (by simp)
          rw [List.append_assoc, List.singleton_append] at hpages hfirst
          refine ⟨line :: first, rest, hpages, ?_, hfirst, hrest⟩
          rw [List.cons_append, hflat]

/-- The pages of some lines: every one after the first starts with the header. -/
structure Paged (header : StyledLine) (lines : List StyledLine)
    (pages : List (List StyledLine)) : Prop where
  bodies : ∃ (first : List StyledLine) (rest : List (List StyledLine)),
    pages = first :: rest.map (header :: ·) ∧ first ++ rest.flatten = lines
  onPage : ∀ page ∈ pages, OnPage page

/-- What holds of the lines, and of the header where there is one, holds of every line set. -/
theorem Paged.forall_lines {header : StyledLine} {lines : List StyledLine}
    {pages : List (List StyledLine)} (h : Paged header lines pages) {P : StyledLine → Prop}
    (hlines : ∀ line ∈ lines, P line) (hheader : pages.length ≤ 1 ∨ P header) :
    ∀ page ∈ pages, ∀ line ∈ page, P line := by
  obtain ⟨first, rest, rfl, rfl⟩ := h.bodies
  intro page hpage line hline
  rcases List.mem_cons.mp hpage with rfl | hpage
  · exact hlines line (List.mem_append_left _ hline)
  · obtain ⟨body, hmem, rfl⟩ := List.mem_map.mp hpage
    rcases List.mem_cons.mp hline with rfl | hline
    · rcases hheader with hone | hheader
      · rw [List.length_cons, List.length_map] at hone
        rw [List.length_eq_zero_iff.mp (by omega : rest.length = 0)] at hmem
        cases hmem
      · exact hheader
    · exact hlines line (List.mem_append_right _ (List.mem_flatten.mpr ⟨body, hmem, hline⟩))

/-- **Paging.** Every line is set once, in order. -/
theorem paginate_paged (runtime : Runtime) (snapshot : ReportSnapshot) (module : ReportModule)
    {lines : List StyledLine} (hne : lines ≠ []) (hlines : ∀ line ∈ lines, Fits line) :
    Paged (continuationHeader runtime snapshot module) lines
      (paginate runtime lines snapshot module) := by
  cases lines with
  | nil => exact absurd rfl hne
  | cons line lines =>
      obtain ⟨hfits, hlines⟩ := List.forall_mem_cons.mp hlines
      have hopen := open_nil.push hfits (room_of_top hfits (by norm_num))
      obtain ⟨first, rest, hpages, hflat, hfirst, hrest⟩ := paginateFrom_open
        (continuationHeader runtime snapshot module) rfl rfl lines hlines []
        (List.cons_ne_nil line []) hopen
      have hstart : paginate runtime (line :: lines) snapshot module =
          ([line] ++ first) :: rest.map (continuationHeader runtime snapshot module :: ·) := by
        refine Eq.trans ?_ hpages
        unfold paginate
        rw [paginateFrom]
        exact if_neg fun h => (Nat.lt_irrefl 0 h.2)
      refine ⟨⟨[line] ++ first, rest, hstart, ?_⟩, ?_⟩
      · rw [List.append_assoc, hflat]
        rfl
      · intro page hpage
        rw [hstart] at hpage
        rcases List.mem_cons.mp hpage with rfl | hpage
        · exact hfirst
        · obtain ⟨body, hbody, rfl⟩ := List.mem_map.mp hpage
          exact hrest body hbody

/-! ## Drawing -/

/-- The lines are drawn at their baselines, with consecutive ids. -/
theorem drawLines_eq (module : ReportModule) (y : ℚ) (mcid : Nat) (lines : List StyledLine) :
    drawLines module y mcid lines =
      ((lines.zip (baselines y lines)).mapIdx fun i drawn =>
        drawLine module drawn.2 (mcid + i) drawn.1).flatten := by
  induction lines generalizing y mcid with
  | nil => rfl
  | cons line lines ih =>
      rw [drawLines, ih, baselines, List.zip_cons_cons, List.mapIdx_cons, List.flatten_cons]
      simp only [Nat.add_zero, Nat.add_assoc, Nat.add_comm 1]

/-! ## The pages of a report -/

/-- The module was commissioned. -/
def Commissioned (snapshot : ReportSnapshot) : ReportModule → Prop
  | .building => snapshot.building.isSome = true
  | .timber_pest => snapshot.timberPest.isSome = true

def requiredText (facts : List String) : List JsString :=
  facts.map fun fact => normalisePdfText (js fact)

/-- `lines` in `generateModulePdf` -/
def moduleLines (snapshot : ReportSnapshot) (module : ReportModule) (facts : List String) :
    List StyledLine :=
  styleAndWrap (requiredText facts) (headingTexts snapshot module)

/-- `pages` in `generateModulePdf` -/
def modulePages (runtime : Runtime) (snapshot : ReportSnapshot) (module : ReportModule)
    (facts : List String) : List (List StyledLine) :=
  paginate runtime (moduleLines snapshot module facts) snapshot module

theorem styleAndWrap_ne_nil (fact : JsString) (facts headingTexts : List JsString) :
    styleAndWrap (fact :: facts) headingTexts ≠ [] := by
  intro hnil
  have htexts := styleAndWrap_text (fact :: facts) headingTexts
  rw [hnil, wrappedFacts, List.mapIdx_cons, List.flatten_cons] at htexts
  exact wrapText_ne_nil _ _ (List.append_eq_nil_iff.mp htexts.symm).1

section

variable {host : Js.Host} {digest : String → String} (runtime : Runtime)

/-- An accepted report's module has pages. -/
theorem modulePages_paged {input : ReportSnapshotInput} {snapshot : ReportSnapshot}
    (hcreated : createReportSnapshot host digest input = .ok snapshot) (module : ReportModule) :
    ∃ facts, reportSemanticFacts host digest runtime snapshot (some module) = .ok facts ∧
      Paged (continuationHeader runtime snapshot module) (moduleLines snapshot module facts)
        (modulePages runtime snapshot module facts) := by
  obtain ⟨rest, hfacts⟩ := reportSemanticFacts_created runtime hcreated (some module)
  refine ⟨_, hfacts, paginate_paged runtime snapshot module ?_ fun line => styleAndWrap_fits⟩
  exact styleAndWrap_ne_nil _ _ _

end

/-- **Layout.** Wrapping any text keeps its ink on lines that are not too long. The pages of
an accepted report hold every line of every fact once, in order, after one header on
each continuation page, and each line is drawn above the bottom margin. -/
theorem layout_loses_nothing (host : Js.Host) (digest : String → String) (runtime : Runtime) :
    (∀ (value : JsString) (maxCharacters : Nat), 0 < maxCharacters →
      (∀ line ∈ wrapText value maxCharacters, line.length ≤ maxCharacters) ∧
        ink (wrapText value maxCharacters).flatten = ink value) ∧
    ∀ (input : ReportSnapshotInput) (snapshot : ReportSnapshot) (module : ReportModule),
      createReportSnapshot host digest input = .ok snapshot →
      ∃ (facts : List String) (first : List StyledLine) (rest : List (List StyledLine)),
        reportSemanticFacts host digest runtime snapshot (some module) = .ok facts ∧
        modulePages runtime snapshot module facts =
          first :: rest.map (continuationHeader runtime snapshot module :: ·) ∧
        (first ++ rest.flatten).map StyledLine.text =
          wrappedFacts (requiredText facts) (headingTexts snapshot module) ∧
        ∀ page ∈ modulePages runtime snapshot module facts,
          drawLines module top 0 page = ((page.zip (baselines top page)).mapIdx fun mcid drawn =>
            drawLine module drawn.2 mcid drawn.1).flatten ∧
          ∀ y ∈ baselines top page, (bottom : ℚ) ≤ y := by
  refine ⟨fun value _ => wrapText_lines value, ?_⟩
  intro input snapshot module hcreated
  obtain ⟨facts, hfacts, ⟨first, rest, hpages, hlines⟩, honPage⟩ :=
    modulePages_paged runtime hcreated module
  refine ⟨facts, first, rest, hfacts, hpages, ?_, fun page hpage => ⟨?_, ?_⟩⟩
  · rw [hlines]
    exact styleAndWrap_text _ _
  · rw [drawLines_eq]
    simp only [Nat.zero_add]
  · exact (honPage page hpage).above

/-! ## A report -/

namespace Sample

def host : Js.Host := { Js.Host.plain with dateParse := fun _ => some 0 }

def runtime : Runtime where
  dateText _ := "1 January 1970"
  numberText _ := "1e+21"
  toLocaleLowerCase text := String.ofList (text.toList.map Char.toLower)
  sha256 bytes := toString bytes.length

def inspector : ReportInspectorAttribution where
  displayName := "A. Inspector"
  credential := "QBCC 100"
  confirmedAt := "1970-01-01T00:00:00Z"

def finding (uncertainty : List String) : BuildingReportFinding where
  module := .building
  findingId := "finding-1"
  title := "Cracked tile"
  location := "Bathroom"
  observation := "One tile is cracked"
  apparentExtent := "One tile"
  significance := "Minor"
  qualifiedOpinion := "Impact is likely"
  uncertainty := uncertainty
  furtherInvestigation := none
  inspector := inspector
  curatedMedia := []
  classification := .minor_defect

def input (propertyLabel : String) (uncertainty : List String) : ReportSnapshotInput where
  reportVersionId := "report-1"
  versionNumber := 1
  organizationId := "organization-1"
  jobId := "job-1"
  propertyLabel := propertyLabel
  inspectionDate := "1970-01-01T00:00:00Z"
  issuedAt := "1970-01-01T00:00:00Z"
  templateVersion := "template-1"
  building := some
    { conclusion := "One defect was found"
      minorDefectSummary := "One tile is cracked"
      findings := [finding uncertainty]
      limitations := []
      inspector := inspector }
  timberPest := none
  amendment := none

def snapshot (propertyLabel : String) (uncertainty : List String) : ReportSnapshot :=
  { input propertyLabel uncertainty with
    canonicalHash := hashCanonicalReport id (input propertyLabel uncertainty).val }

theorem created_of_valid {propertyLabel : String} {uncertainty : List String}
    (h : validateReportSnapshotInput host (input propertyLabel uncertainty) = .ok ()) :
    createReportSnapshot host id (input propertyLabel uncertainty) =
      .ok (snapshot propertyLabel uncertainty) := by
  unfold createReportSnapshot
  rw [Throwing.bind_of h]
  rfl

theorem created : createReportSnapshot host id (input "1 Main St" []) =
    .ok (snapshot "1 Main St" []) := created_of_valid (by decide +kernel)

/-- The report fits on one page. -/
theorem laid_out : ∃ (facts : List String) (first : List StyledLine)
    (rest : List (List StyledLine)),
    reportSemanticFacts host id runtime (snapshot "1 Main St" []) (some .building) = .ok facts ∧
    modulePages runtime (snapshot "1 Main St" []) .building facts = first ::
      rest.map (continuationHeader runtime (snapshot "1 Main St" []) .building :: ·) := by
  obtain ⟨facts, first, rest, hfacts, hpages, -⟩ :=
    (layout_loses_nothing host id runtime).2 _ _ .building created
  exact ⟨facts, first, rest, hfacts, hpages⟩

end Sample

end InspectionHub.Reporting.Pdf
