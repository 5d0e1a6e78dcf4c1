import InspectionHub.Lib.PdfString
import InspectionHub.Reporting.PdfFile

/-!
# The literals of the file

Body lines and the document's title are normalised before they are escaped, so
that every unit is one byte and the literal reads back. The header of a
continuation page is the report's title as it is: the escape sees code units
where a reader sees their low bytes.
-/

namespace InspectionHub.Reporting.Pdf

open PdfString

/-! ## Units and bytes -/

def lowByte (u : CodeUnit) : UInt8 := UInt8.ofNat u.val

theorem js_append (a b : String) : js (a ++ b) = js a ++ js b := by
  unfold js Canonical.codeUnits
  rw [String.toList_append, List.flatMap_append, List.map_append]

theorem latin1_append (a b : JsString) : latin1 (a ++ b) = latin1 a ++ latin1 b :=
  List.map_append

theorem toNat_lowByte (u : CodeUnit) : (lowByte u).toNat = u.val % 256 := rfl

variable {c : UInt8} {u : CodeUnit}

theorem lowByte_eq_iff : lowByte u = c ↔ u.val % 256 = c.toNat := by
  rw [← UInt8.toNat_inj, toNat_lowByte]

/-- The bytes of the parentheses and the reverse solidus are theirs alone. -/
def Legible (value : JsString) : Prop :=
  ∀ u ∈ value, u.val % 256 = 0x28 ∨ u.val % 256 = 0x29 ∨ u.val % 256 = 0x5C → u.val < 256

variable {value : JsString}

theorem legible_of_printable (h : ∀ u ∈ value, isPrintable u = true) : Legible value := by
  intro u hu _
  have hprintable := h u hu
  simp only [isPrintable, Bool.or_eq_true, Bool.and_eq_true, decide_eq_true_eq] at hprintable
  omega

/-- `escapePdfText`, unit by unit. -/
def escapeUnits (u : CodeUnit) : JsString :=
  if u.val = 0x5C ∨ u.val = 0x28 ∨ u.val = 0x29 then [CodeUnit.ofChar '\\', u] else [u]

theorem escapePdfText_eq (value : JsString) : escapePdfText value = value.flatMap escapeUnits := by
  unfold escapePdfText replaceUnits
  rw [List.flatMap_assoc, List.flatMap_assoc]
  refine List.flatMap_congr fun u _ => ?_
  by_cases hs : u = CodeUnit.ofChar '\\'
  · subst hs
    decide
  by_cases ho : u = CodeUnit.ofChar '('
  · subst ho
    decide
  by_cases hc : u = CodeUnit.ofChar ')'
  · subst hc
    decide
  have hother : escapeUnits u = [u] := by
    refine if_neg ?_
    rintro (h | h | h)
    · exact hs (Fin.ext h)
    · exact ho (Fin.ext h)
    · exact hc (Fin.ext h)
  simp only [beq_iff_eq, if_neg hs, if_neg ho, if_neg hc, List.flatMap_cons, List.flatMap_nil,
    List.append_nil, hother]

theorem latin1_escape (h : Legible value) :
    latin1 (escapePdfText value) = escape (latin1 value) := by
  rw [escapePdfText_eq]
  induction value with
  | nil => rfl
  | cons u value ih =>
      obtain ⟨hu, hvalue⟩ := List.forall_mem_cons.mp h
      have hunit : latin1 (escapeUnits u) = escapeByte (lowByte u) := by
        -- the bytes are special exactly when the unit is
        have hsame : ∀ c : UInt8, c = 0x5C ∨ c = 0x28 ∨ c = 0x29 →
            (lowByte u = c ↔ u.val = c.toNat) := by
          intro c hc
          rw [lowByte_eq_iff]
          constructor
          · intro hmod
            have hlt := hu (by rcases hc with rfl | rfl | rfl <;> simp [hmod])
            omega
          · intro heq
            have hlt := c.toNat_lt
            omega
        have hspecial : (lowByte u = 0x5C ∨ lowByte u = 0x28 ∨ lowByte u = 0x29) ↔
            (u.val = 0x5C ∨ u.val = 0x28 ∨ u.val = 0x29) :=
          or_congr (hsame _ (by decide)) (or_congr (hsame _ (by decide)) (hsame _ (by decide)))
        unfold escapeUnits escapeByte
        by_cases h : u.val = 0x5C ∨ u.val = 0x28 ∨ u.val = 0x29
        · rw [if_pos h, if_pos (hspecial.mpr h)]
          rfl
        · rw [if_neg h, if_neg (mt hspecial.mp h)]
          rfl
      have hsplit : escape (latin1 (u :: value)) =
          escapeByte (lowByte u) ++ escape (latin1 value) :=
        List.flatMap_cons
      rw [List.flatMap_cons, latin1_append, hunit, ih hvalue, hsplit]

/-! ## Normalised text -/

theorem printable_questionMark : isPrintable questionMark = true := by decide

theorem replaceUnprintable_printable (value : JsString) :
    ∀ u ∈ replaceUnprintable value, isPrintable u = true := by
  have hunit : ∀ u : CodeUnit,
      isPrintable (if isPrintable u = true then u else questionMark) = true := by
    intro u
    split
    · assumption
    · exact printable_questionMark
  induction value using replaceUnprintable.induct with
  | case1 => exact fun u hu => (nomatch hu)
  | case2 u =>
      intro w hw
      rw [List.mem_singleton.mp hw]
      exact hunit u
  | case3 u v rest hpair ih =>
      unfold replaceUnprintable
      rw [if_pos hpair]
      exact List.forall_mem_cons.mpr ⟨printable_questionMark, ih⟩
  | case4 u v rest hpair ih =>
      unfold replaceUnprintable
      rw [if_neg hpair]
      exact List.forall_mem_cons.mpr ⟨hunit u, ih⟩

theorem normalisePdfText_printable (value : JsString) :
    ∀ u ∈ normalisePdfText value, isPrintable u = true :=
  replaceUnprintable_printable _

/-- A unit that normalisation leaves alone, or writes as the byte it has anyway. -/
def isKept (u : CodeUnit) : Bool :=
  isPrintable u || (u.val % 256 = 0x3F && !(u.isHigh || u.isLow))

theorem kept_of_printable (h : isPrintable u = true) : isKept u = true := by
  rw [isKept, h]
  rfl

/-- No stage but the last one changes a kept unit. -/
theorem stages_of_kept (h : isKept u = true) :
    isDash u = false ∧ isSingleQuote u = false ∧ isDoubleQuote u = false ∧ isEllipsis u = false ∧
      u.isHigh = false := by
  simp only [isKept, isPrintable, CodeUnit.isHigh, CodeUnit.isLow, Bool.or_eq_true,
    Bool.and_eq_true, decide_eq_true_eq, Bool.not_eq_true', Bool.or_eq_false_iff,
    Bool.and_eq_false_iff, decide_eq_false_iff_not] at h
  simp only [isDash, isSingleQuote, isDoubleQuote, isEllipsis, CodeUnit.isHigh,
    Bool.or_eq_false_iff, Bool.and_eq_false_iff, decide_eq_false_iff_not]
  omega

theorem replaceUnits_of_not {pattern : CodeUnit → Bool} (h : ∀ u ∈ value, pattern u = false)
    (replacement : JsString) : replaceUnits pattern replacement value = value := by
  unfold replaceUnits
  have hunit : ∀ u ∈ value, (if pattern u = true then replacement else [u]) = [u] := by
    intro u hu
    rw [h u hu]
    rfl
  rw [List.flatMap_congr hunit]
  exact List.flatMap_singleton' value

/-- The last stage on what no pair of surrogates starts in. -/
theorem replaceUnprintable_append {a : JsString} (h : ∀ u ∈ a, u.isHigh = false) (b : JsString) :
    replaceUnprintable (a ++ b) =
      a.map (fun u => if isPrintable u then u else questionMark) ++ replaceUnprintable b := by
  induction a with
  | nil => rfl
  | cons u a ih =>
      obtain ⟨hu, ha⟩ := List.forall_mem_cons.mp h
      rw [List.cons_append, List.map_cons, List.cons_append, ← ih ha]
      cases hrest : a ++ b with
      | nil => rfl
      | cons v rest =>
          rw [replaceUnprintable, hu]
          rfl

/-- The stages before the last one. -/
def replaceQuotes (value : JsString) : JsString :=
  replaceUnits isEllipsis (js "...") (replaceUnits isDoubleQuote (js "\"")
    (replaceUnits isSingleQuote (js "'") (replaceUnits isDash (js "-") value)))

theorem normalisePdfText_eq (value : JsString) :
    normalisePdfText value = replaceUnprintable (replaceQuotes value) := rfl

theorem replaceUnits_append (pattern : CodeUnit → Bool) (replacement a b : JsString) :
    replaceUnits pattern replacement (a ++ b) =
      replaceUnits pattern replacement a ++ replaceUnits pattern replacement b :=
  List.flatMap_append

theorem replaceQuotes_append (a b : JsString) :
    replaceQuotes (a ++ b) = replaceQuotes a ++ replaceQuotes b := by
  unfold replaceQuotes
  rw [replaceUnits_append, replaceUnits_append, replaceUnits_append, replaceUnits_append]

theorem replaceQuotes_of_kept (h : ∀ u ∈ value, isKept u = true) : replaceQuotes value = value := by
  unfold replaceQuotes
  rw [replaceUnits_of_not fun u hu => (stages_of_kept (h u hu)).1,
    replaceUnits_of_not fun u hu => (stages_of_kept (h u hu)).2.1,
    replaceUnits_of_not fun u hu => (stages_of_kept (h u hu)).2.2.1,
    replaceUnits_of_not fun u hu => (stages_of_kept (h u hu)).2.2.2.1]

/-- Kept units are normalised on their own. -/
theorem normalisePdfText_append {a : JsString} (h : ∀ u ∈ a, isKept u = true) (b : JsString) :
    normalisePdfText (a ++ b) =
      a.map (fun u => if isPrintable u then u else questionMark) ++ normalisePdfText b := by
  rw [normalisePdfText_eq, replaceQuotes_append, replaceQuotes_of_kept h,
    replaceUnprintable_append fun u hu => (stages_of_kept (h u hu)).2.2.2.2]
  rfl

theorem latin1_replace (h : ∀ u ∈ value, isKept u = true) :
    latin1 (value.map fun u => if isPrintable u then u else questionMark) = latin1 value := by
  unfold latin1
  rw [List.map_map]
  refine List.map_congr_left fun u hu => ?_
  change lowByte (if isPrintable u = true then u else questionMark) = lowByte u
  split
  · rfl
  · next hprintable =>
      have hkept := h u hu
      simp only [isKept, hprintable, Bool.false_or, Bool.and_eq_true, decide_eq_true_eq] at hkept
      exact (lowByte_eq_iff.mpr hkept.1).symm

/-- **Kept text.** Normalisation changes none of its bytes. -/
theorem latin1_normalisePdfText (h : ∀ u ∈ value, isKept u = true) :
    latin1 (normalisePdfText value) = latin1 value := by
  have hsplit := normalisePdfText_append h []
  have hnil : normalisePdfText [] = [] := rfl
  rw [List.append_nil, hnil, List.append_nil] at hsplit
  rw [hsplit, latin1_replace h]

/-! ## Wrapped text -/

theorem wrapWord_forall {P : CodeUnit → Prop} (hspace : ∀ u ∈ js " ", P u) {maxCharacters : Nat}
    (hmax : 0 < maxCharacters) {wrapped : List JsString × JsString} {word : JsString}
    (hlines : ∀ line ∈ wrapped.1, ∀ u ∈ line, P u) (hcurrent : ∀ u ∈ wrapped.2, P u)
    (hword : ∀ u ∈ word, P u) :
    (∀ line ∈ (wrapWord maxCharacters wrapped word).1, ∀ u ∈ line, P u) ∧
      ∀ u ∈ (wrapWord maxCharacters wrapped word).2, P u := by
  have hwith : ∀ u ∈ withWord wrapped.2 word, P u := by
    unfold withWord
    split
    · exact hword
    · intro u hu
      rcases List.mem_append.mp hu with hu | hu
      · rcases List.mem_append.mp hu with hu | hu
        · exact hcurrent u hu
        · exact hspace u hu
      · exact hword u hu
  unfold wrapWord
  split
  · refine ⟨fun line hline => ?_, fun u hu => (nomatch hu)⟩
    rcases List.mem_append.mp hline with hline | hline
    · rcases mem_flush hline with hline | rfl
      · exact hlines line hline
      · exact hcurrent
    · intro u hu
      refine hword u ?_
      rw [← Words.flatten_slices hmax word]
      exact List.mem_flatten.mpr ⟨line, hline, hu⟩
  · split
    · refine ⟨fun line hline => ?_, hword⟩
      rcases List.mem_append.mp hline with hline | hline
      · exact hlines line hline
      · rw [List.mem_singleton.mp hline]
        exact hcurrent
    · exact ⟨hlines, hwith⟩

/-- A line holds units of the text, and spaces. -/
theorem wrapText_forall {P : CodeUnit → Prop} (hspace : ∀ u ∈ js " ", P u)
    (hvalue : ∀ u ∈ value, P u) {maxCharacters : Nat} (hmax : 0 < maxCharacters) :
    ∀ line ∈ wrapText value maxCharacters, ∀ u ∈ line, P u := by
  have hfold : ∀ (words : List JsString) (wrapped : List JsString × JsString),
      (∀ word ∈ words, ∀ u ∈ word, P u) → (∀ line ∈ wrapped.1, ∀ u ∈ line, P u) →
      (∀ u ∈ wrapped.2, P u) →
      (∀ line ∈ (words.foldl (wrapWord maxCharacters) wrapped).1, ∀ u ∈ line, P u) ∧
        ∀ u ∈ (words.foldl (wrapWord maxCharacters) wrapped).2, P u := by
    intro words
    induction words with
    | nil => exact fun wrapped _ hlines hcurrent => ⟨hlines, hcurrent⟩
    | cons word words ih =>
        intro wrapped hwords hlines hcurrent
        obtain ⟨hword, hwords⟩ := List.forall_mem_cons.mp hwords
        obtain ⟨hlines, hcurrent⟩ := wrapWord_forall hspace hmax hlines hcurrent hword
        exact ih _ hwords hlines hcurrent
  have hwords : ∀ word ∈ Words.split isWhiteUnit value, ∀ u ∈ word, P u := by
    intro word hword u hu
    have hmem := List.mem_flatten.mpr ⟨word, hword, hu⟩
    rw [Words.flatten_split] at hmem
    exact hvalue u (List.mem_filter.mp hmem).1
  obtain ⟨hlines, hcurrent⟩ := hfold (Words.split isWhiteUnit value) ([], []) hwords
    (fun _ h => (nomatch h)) (fun _ h => (nomatch h))
  unfold wrapText
  dsimp only
  split
  · intro line hline
    rw [List.mem_singleton.mp hline]
    exact fun _ h => (nomatch h)
  · intro line hline
    rcases mem_flush hline with hline | rfl
    · exact hlines line hline
    · exact hcurrent

variable {line : StyledLine}

/-- Every line of the facts is printable. -/
theorem moduleLines_printable {snapshot : ReportSnapshot} {module : ReportModule}
    {facts : List String} (h : line ∈ moduleLines snapshot module facts) :
    ∀ u ∈ line.text, isPrintable u = true := by
  have htext : line.text ∈ wrappedFacts (requiredText facts) (headingTexts snapshot module) := by
    rw [← styleAndWrap_text]
    exact List.mem_map_of_mem h
  obtain ⟨texts, htexts, hline⟩ := List.mem_flatten.mp htext
  obtain ⟨index, hindex, rfl⟩ := List.mem_mapIdx.mp htexts
  have hfact : ∀ u ∈ (requiredText facts)[index], isPrintable u = true := by
    have hmem := List.getElem_mem hindex
    obtain ⟨fact, -, hfact⟩ := List.mem_map.mp hmem
    rw [← hfact]
    exact normalisePdfText_printable _
  have hspace : ∀ u ∈ js " ", isPrintable u = true := List.all_eq_true.mp (by decide)
  refine wrapText_forall hspace hfact ?_ _ hline
  generalize factStyle _ _ _ = style
  cases style <;> decide

/-! ## Text without a byte -/

/-- The byte does not occur among the text's. -/
def Free (c : UInt8) (value : JsString) : Prop := c ∉ latin1 value

instance (c : UInt8) (value : JsString) : Decidable (Free c value) :=
  inferInstanceAs (Decidable (c ∉ latin1 value))

theorem Free.append {a b : JsString} (ha : Free c a) (hb : Free c b) : Free c (a ++ b) := by
  unfold Free
  rw [latin1_append, List.mem_append]
  exact not_or.mpr ⟨ha, hb⟩

theorem free_flatten {parts : List JsString} (h : ∀ part ∈ parts, Free c part) :
    Free c parts.flatten := by
  intro hc
  obtain ⟨u, hu, hlow⟩ := List.mem_map.mp hc
  obtain ⟨part, hpart, hu⟩ := List.mem_flatten.mp hu
  exact h part hpart (List.mem_map.mpr ⟨u, hu, hlow⟩)

/-- A number holds digits only. -/
theorem free_natUnits (hc : c.toNat < 0x30 ∨ 0x39 < c.toNat) (n : Nat) : Free c (natUnits n) := by
  intro hmem
  obtain ⟨u, hu, rfl⟩ := List.mem_map.mp hmem
  obtain ⟨d, hd, rfl⟩ := List.mem_map.mp hu
  have hdigit := Json.natText_isDigit n d hd
  simp only [Char.isDigit, Bool.and_eq_true, decide_eq_true_eq] at hdigit
  have hlow : 0x30 ≤ d.toNat ∧ d.toNat ≤ 0x39 := hdigit
  have hbyte : (UInt8.ofNat (CodeUnit.ofChar d).val).toNat = d.toNat := by
    change d.toNat % 65536 % 256 = d.toNat
    omega
  rw [hbyte] at hc
  omega

theorem free_toFixed2 (hc : (c.toNat < 0x30 ∨ 0x39 < c.toNat) ∧ c ≠ 0x2D ∧ c ≠ 0x2E) (y : ℚ) :
    Free c (toFixed2 y) := by
  obtain ⟨hdigit, hsign, hpoint⟩ := hc
  have hnumber := fun n => free_natUnits hdigit n
  have hdot : Free c (js ".") := fun h => hpoint (List.mem_singleton.mp h)
  unfold toFixed2
  refine (((Free.append ?_ (hnumber _)).append hdot).append (hnumber _)).append (hnumber _)
  split
  · exact fun h => hsign (List.mem_singleton.mp h)
  · exact fun h => (nomatch h)

/-! ## The stream of a page -/

/-- Every part behind a separator. -/
def lead (separator : JsString) (parts : List JsString) : JsString :=
  (parts.map (separator ++ ·)).flatten

theorem lead_append (separator : JsString) (a b : List JsString) :
    lead separator (a ++ b) = lead separator a ++ lead separator b := by
  unfold lead
  rw [List.map_append, List.flatten_append]

theorem join_cons (separator first : JsString) (rest : List JsString) :
    join separator (first :: rest) = first ++ lead separator rest := by
  induction rest generalizing first with
  | nil => simp [join, lead, List.intercalate]
  | cons second rest ih =>
      have hstep : join separator (first :: second :: rest) =
          first ++ (separator ++ join separator (second :: rest)) := rfl
      have hlead : lead separator (second :: rest) =
          separator ++ second ++ lead separator rest := rfl
      rw [hstep, ih second, hlead, List.append_assoc]

theorem join_append (separator : JsString) {a : List JsString} (h : a ≠ []) (b : List JsString) :
    join separator (a ++ b) = join separator a ++ lead separator b := by
  cases a with
  | nil => exact absurd rfl h
  | cons first a => rw [List.cons_append, join_cons, join_cons, lead_append, List.append_assoc]

def newline : JsString := js "\n"

/-- A line's commands before its literal. -/
def lineOpening (module : ReportModule) (y : ℚ) (mcid : Nat) (line : StyledLine) : JsString :=
  lead newline ((drawLine module y mcid line).take 5) ++ newline

/-- A line's commands after its literal. -/
def lineClosing : JsString := js " Tj" ++ lead newline [js "ET", js "EMC"]

def literal (text : JsString) : JsString := js "(" ++ text ++ js ")"

theorem lead_drawLine (module : ReportModule) (y : ℚ) (mcid : Nat) (line : StyledLine) :
    lead newline (drawLine module y mcid line) =
      lineOpening module y mcid line ++ literal (escapePdfText line.text) ++ lineClosing := by
  have htj : js ") Tj" = js ")" ++ js " Tj" := by decide
  unfold lineOpening lineClosing literal drawLine lead
  simp only [List.take_succ_cons, List.take_zero, List.map_cons, List.map_nil, List.flatten_cons,
    List.flatten_nil, List.append_assoc, List.append_nil, htj]

/-- A text without an opening parenthesis. -/
abbrev Quiet (value : JsString) : Prop := Free 0x28 value

theorem quiet_natUnits (n : Nat) : Quiet (natUnits n) := free_natUnits (.inl (by decide)) n

theorem free_lead {separator : JsString} (hs : Free c separator) {parts : List JsString}
    (h : ∀ part ∈ parts, Free c part) : Free c (lead separator parts) := by
  refine free_flatten fun part hpart => ?_
  obtain ⟨text, htext, rfl⟩ := List.mem_map.mp hpart
  exact hs.append (h text htext)

/-- A line's commands between its mark and its literal hold neither a parenthesis nor an M. -/
theorem free_commands (hc : c = 0x28 ∨ c = 0x4D) (module : ReportModule) (y : ℚ) (mcid : Nat)
    (line : StyledLine) :
    ∀ command ∈ ((drawLine module y mcid line).take 5).drop 1, Free c command := by
  have hdigit : c.toNat < 0x30 ∨ 0x39 < c.toNat := by rcases hc with rfl | rfl <;> decide
  have hpoint : (c.toNat < 0x30 ∨ 0x39 < c.toNat) ∧ c ≠ 0x2D ∧ c ≠ 0x2E := by
    rcases hc with rfl | rfl <;> decide
  have hfree : ∀ {value : JsString}, Free 0x28 value → Free 0x4D value → Free c value := by
    intro value hparen hletter
    rcases hc with rfl | rfl
    · exact hparen
    · exact hletter
  have hfont : Free c (js "/" ++ js (if line.bold then "F2" else "F1") ++ js " " ++
      natUnits line.size ++ js " Tf") := by
    have hname : Free c (js "/" ++ js (if line.bold then "F2" else "F1") ++ js " ") := by
      cases line.bold <;> exact hfree (by decide) (by decide)
    exact (hname.append (free_natUnits hdigit _)).append (hfree (by decide) (by decide))
  have hcolour : Free c ((if line.tag = .h2 then moduleColour module else
      js "0.090 0.125 0.114") ++ js " rg") := by
    cases line.tag <;> cases module <;> exact hfree (by decide) (by decide)
  have hmatrix : Free c (js "1 0 0 1 " ++ natUnits left ++ js " " ++ toFixed2 y ++ js " Tm") :=
    ((((hfree (by decide) (by decide) : Free c (js "1 0 0 1 ")).append
      (free_natUnits hdigit left)).append (hfree (by decide) (by decide))).append
      (free_toFixed2 hpoint y)).append (hfree (by decide) (by decide))
  exact List.forall_mem_cons.mpr ⟨hfree (by decide) (by decide),
    List.forall_mem_cons.mpr ⟨hfont, List.forall_mem_cons.mpr ⟨hcolour,
      List.forall_mem_cons.mpr ⟨hmatrix, fun _ h => (nomatch h)⟩⟩⟩⟩

theorem quiet_lineOpening (module : ReportModule) (y : ℚ) (mcid : Nat) (line : StyledLine) :
    Quiet (lineOpening module y mcid line) := by
  have hnewline : Quiet newline := by decide
  have hmark : Quiet (js "/" ++ js line.tag.text ++ js " << /MCID " ++ natUnits mcid ++
      js " >> BDC") := by
    have htag : Quiet (js "/" ++ js line.tag.text ++ js " << /MCID ") := by
      cases line.tag <;> decide
    exact (htag.append (quiet_natUnits mcid)).append (by decide)
  refine (free_lead hnewline ?_).append hnewline
  exact List.forall_mem_cons.mpr ⟨hmark, free_commands (.inl rfl) module y mcid line⟩

/-- The text the literal of a line reads back as. -/
def ReadsAs (line : StyledLine) (text : Bytes) : Prop :=
  Scans (latin1 (literal (escapePdfText line.text))) [text] []

theorem latin1_literal (value : JsString) :
    latin1 (literal value) = 0x28 :: (latin1 value ++ [0x29]) := by
  unfold literal
  rw [latin1_append, latin1_append]
  rfl

theorem readsAs_of_legible (h : Legible line.text) : ∃ text, ReadsAs line text := by
  unfold ReadsAs
  rw [latin1_literal, latin1_escape h]
  exact exists_scans_literal (latin1 line.text)

/-- A line of kept units that is legible reads back as its normalised text. -/
theorem readsAs_of_kept (h : ∀ u ∈ line.text, isKept u = true) :
    ReadsAs line (latin1 (normalisePdfText line.text)) := by
  have hlegible : Legible line.text := by
    intro u hu hspecial
    have hkept := h u hu
    simp only [isKept, isPrintable, Bool.or_eq_true, Bool.and_eq_true, decide_eq_true_eq] at hkept
    omega
  have hreturn : ∀ c ∈ latin1 line.text, c ≠ 0x0D := by
    intro c hc heq
    obtain ⟨u, hu, hlow⟩ := List.mem_map.mp hc
    have hmod := lowByte_eq_iff.mp (hlow.trans heq)
    have hkept := h u hu
    simp only [isKept, isPrintable, Bool.or_eq_true, Bool.and_eq_true, decide_eq_true_eq] at hkept
    change u.val % 256 = 13 at hmod
    omega
  unfold ReadsAs
  rw [latin1_literal, latin1_escape hlegible, latin1_normalisePdfText h]
  exact scans_literal hreturn

/-- What the lines of a page write besides their literals. -/
def linesOutside (module : ReportModule) (y : ℚ) (mcid : Nat) : List StyledLine → JsString
  | [] => []
  | line :: rest =>
      lineOpening module y mcid line ++ lineClosing ++
        linesOutside module (Double.double (y - lineHeight line)) (mcid + 1) rest

theorem scans_line {text : Bytes} (h : ReadsAs line text) (module : ReportModule) (y : ℚ)
    (mcid : Nat) :
    Scans (latin1 (lead newline (drawLine module y mcid line))) [text]
      (latin1 (lineOpening module y mcid line ++ lineClosing)) := by
  have hopening := scans_plain (quiet_lineOpening module y mcid line)
  have hclosing := scans_plain (by decide : Quiet lineClosing)
  have hall := (hopening.append h).append hclosing
  rwa [List.nil_append, List.append_nil, List.append_nil, ← latin1_append, ← latin1_append,
    ← latin1_append, ← lead_drawLine] at hall

variable {texts : List Bytes}

theorem scans_lines {lines : List StyledLine} (h : List.Forall₂ ReadsAs lines texts)
    (module : ReportModule) (y : ℚ) (mcid : Nat) :
    Scans (latin1 (lead newline (drawLines module y mcid lines))) texts
      (latin1 (linesOutside module y mcid lines)) := by
  induction h generalizing y mcid with
  | nil => exact scans_nil
  | @cons line text lines texts hline _ ih =>
      have hall := (scans_line hline module y mcid).append
        (ih (Double.double (y - lineHeight line)) (mcid + 1))
      rw [← latin1_append, ← latin1_append, ← lead_append] at hall
      exact hall

def bannerText : JsString := js "SEE IT INSPECTIONS - FORMAL RECORD"

def footerText (pageNumber pageCount : Nat) : JsString :=
  js "Page " ++ natUnits pageNumber ++ js " of " ++ natUnits pageCount

/-- The band's commands without their literal. -/
def bannerOutside : JsString :=
  join newline (bannerCommands.take 9) ++ newline ++ js " Tj" ++ newline ++ js "ET"

def footerOpening (pageNumber pageCount : Nat) : JsString :=
  lead newline ((footerCommands pageNumber pageCount).take 10) ++ newline

/-- The source's own words hold no literal. -/
theorem quiet_fixed : Quiet (join newline (bannerCommands.take 9) ++ newline) ∧
    Quiet (footerOpening 0 0) ∧ Quiet fontObject ∧ Quiet boldFontObject ∧ Quiet structureRoot ∧
      Quiet fileHead := by
  decide +kernel

/-- What a page's stream holds besides its literals. -/
def pageOutside (lines : List StyledLine) (pageNumber pageCount : Nat) (module : ReportModule) :
    JsString :=
  bannerOutside ++ linesOutside module top 0 lines ++
    (footerOpening pageNumber pageCount ++ lineClosing)

theorem buildPageStream_eq (lines : List StyledLine) (pageNumber pageCount : Nat)
    (module : ReportModule) :
    buildPageStream lines pageNumber pageCount module =
      join newline bannerCommands ++ lead newline (drawLines module top 0 lines) ++
        lead newline (footerCommands pageNumber pageCount) := by
  unfold buildPageStream pageCommands
  have hbanner : bannerCommands ++ drawLines module top 0 lines ≠ [] :=
    List.append_ne_nil_of_left_ne_nil (List.cons_ne_nil _ _) _
  change join newline _ = _
  rw [join_append newline hbanner,
    join_append newline (a := bannerCommands) (List.cons_ne_nil _ _)]

theorem scans_banner :
    Scans (latin1 (join newline bannerCommands)) [latin1 bannerText] (latin1 bannerOutside) := by
  have hsplit : latin1 (join newline bannerCommands) =
      latin1 (join newline (bannerCommands.take 9) ++ newline) ++
        (0x28 :: (escape (latin1 bannerText) ++ [0x29])) ++
        latin1 (js " Tj" ++ newline ++ js "ET") := by decide +kernel
  have hliteral := @scans_literal (latin1 bannerText) (by decide +kernel)
  have hall := ((scans_plain quiet_fixed.1).append hliteral).append
    (scans_plain (by decide : Quiet (js " Tj" ++ newline ++ js "ET")))
  rw [hsplit]
  exact hall

/-- A literal of the source's own words and numbers reads back. -/
theorem scans_words (hs : Free 0x5C value) (ho : Free 0x28 value) (hc : Free 0x29 value)
    (hr : Free 0x0D value) : Scans (latin1 (literal value)) [latin1 value] [] := by
  rw [latin1_literal]
  have hescape : escape (latin1 value) = latin1 value := by
    refine escape_of_plain fun c hmem => ⟨?_, ?_, ?_⟩
    · exact fun heq => hs (heq ▸ hmem)
    · exact fun heq => ho (heq ▸ hmem)
    · exact fun heq => hc (heq ▸ hmem)
  have hscan := @scans_literal (latin1 value) fun c hmem heq => hr (heq ▸ hmem)
  rwa [hescape] at hscan

theorem free_footerText (hc : c.toNat < 0x30 ∨ 0x39 < c.toNat) (hpage : Free c (js "Page "))
    (hof : Free c (js " of ")) (pageNumber pageCount : Nat) :
    Free c (footerText pageNumber pageCount) :=
  ((hpage.append (free_natUnits hc _)).append hof).append (free_natUnits hc _)

theorem scans_footer (pageNumber pageCount : Nat) :
    Scans (latin1 (lead newline (footerCommands pageNumber pageCount)))
      [latin1 (footerText pageNumber pageCount)]
      (latin1 (footerOpening pageNumber pageCount ++ lineClosing)) := by
  have hsplit : lead newline (footerCommands pageNumber pageCount) =
      footerOpening pageNumber pageCount ++ literal (footerText pageNumber pageCount) ++
        lineClosing := by
    have hpage : js "(Page " = js "(" ++ js "Page " := by decide
    have htj : js ") Tj" = js ")" ++ js " Tj" := by decide
    unfold footerOpening lineClosing literal footerText footerCommands lead
    simp only [List.take_succ_cons, List.take_zero, List.map_cons, List.map_nil,
      List.flatten_cons, List.flatten_nil, List.append_assoc, List.append_nil, hpage, htj]
  have hopening : Quiet (footerOpening pageNumber pageCount) := quiet_fixed.2.1
  have hliteral := @scans_words (footerText pageNumber pageCount)
    (free_footerText (by decide) (by decide) (by decide) _ _)
    (free_footerText (by decide) (by decide) (by decide) _ _)
    (free_footerText (by decide) (by decide) (by decide) _ _)
    (free_footerText (by decide) (by decide) (by decide) _ _)
  have hall := ((scans_plain hopening).append hliteral).append
    (scans_plain (by decide : Quiet lineClosing))
  rwa [List.nil_append, List.append_nil, List.append_nil, ← latin1_append, ← latin1_append,
    ← latin1_append, ← hsplit] at hall

/-- **A page.** Its literals read back, and what stands between them does not depend on them. -/
theorem scans_page {lines : List StyledLine} (h : List.Forall₂ ReadsAs lines texts)
    (pageNumber pageCount : Nat) (module : ReportModule) :
    Scans (latin1 (buildPageStream lines pageNumber pageCount module))
      (latin1 bannerText :: (texts ++ [latin1 (footerText pageNumber pageCount)]))
      (latin1 (pageOutside lines pageNumber pageCount module)) := by
  have hall := (scans_banner.append (scans_lines h module top 0)).append
    (scans_footer pageNumber pageCount)
  rw [← latin1_append, ← latin1_append, ← latin1_append, ← latin1_append,
    ← buildPageStream_eq] at hall
  exact hall

/-! ## The file -/

/-- The text a line should read back as. -/
def lineText (line : StyledLine) : Bytes := latin1 (normalisePdfText line.text)

def pageTexts (pageCount : Nat) : Nat → List (List StyledLine) → List Bytes
  | _, [] => []
  | index, page :: rest =>
      latin1 bannerText :: (page.map lineText ++ [latin1 (footerText (index + 1) pageCount)]) ++
        pageTexts pageCount (index + 1) rest

/-- The texts of the file's literals: the language, the document's title and its producers,
then the lines of the pages. -/
def fileTexts (pages : List (List StyledLine)) (title : JsString) : List Bytes :=
  [latin1 (js "en-AU"), latin1 (normalisePdfText title),
    latin1 (js "InspectionHub semantic report renderer"), latin1 (js "InspectionHub")] ++
    pageTexts pages.length 0 pages

theorem reads_quiet (h : Quiet value) : Reads (latin1 value) [] :=
  (scans_plain h).reads

theorem reads_chunk {body : JsString} (h : Reads (latin1 body) texts) (objectNumber : Nat) :
    Reads (latin1 (objectChunk objectNumber body)) texts := by
  have hbefore : Quiet (natUnits objectNumber ++ js " 0 obj\n") :=
    (quiet_natUnits _).append (by decide)
  have hall := ((reads_quiet hbefore).append h).append
    (reads_quiet (by decide : Quiet (js "\nendobj\n")))
  rwa [List.nil_append, List.append_nil, ← latin1_append, ← latin1_append] at hall

theorem reads_chunks {bodies : List JsString} {texts : List (List Bytes)}
    (h : List.Forall₂ (fun body texts => Reads (latin1 body) texts) bodies texts) (start : Nat) :
    Reads (latin1 (chunksFrom start bodies).flatten) texts.flatten := by
  induction h generalizing start with
  | nil => exact scans_nil.reads
  | @cons body text bodies texts hbody _ ih =>
      rw [chunksFrom, List.flatten_cons, List.flatten_cons, latin1_append]
      exact (reads_chunk hbody start).append (ih (start + 1))

theorem reads_words (value : JsString) (hs : Free 0x5C value) (ho : Free 0x28 value)
    (hc : Free 0x29 value) (hr : Free 0x0D value) : Reads (latin1 (literal value)) [latin1 value] :=
  (scans_words hs ho hc hr).reads

theorem reads_catalog (structureRootObject : Nat) :
    Reads (latin1 (catalogObject structureRootObject)) [latin1 (js "en-AU")] := by
  have hsplit : catalogObject structureRootObject =
      js "<< /Type /Catalog /Pages 2 0 R /Lang " ++ literal (js "en-AU") ++
        (js " /MarkInfo << /Marked true >> /StructTreeRoot " ++ natUnits structureRootObject ++
          js " 0 R >>") := by
    have htext : "<< /Type /Catalog /Pages 2 0 R /Lang (en-AU) /MarkInfo << /Marked true >> /StructTreeRoot " =
        "<< /Type /Catalog /Pages 2 0 R /Lang " ++ ("(" ++ ("en-AU" ++ (")" ++
          " /MarkInfo << /Marked true >> /StructTreeRoot "))) := rfl
    unfold catalogObject literal
    rw [htext]
    simp only [js_append, List.append_assoc]
  have hrest : Quiet (js " /MarkInfo << /Marked true >> /StructTreeRoot " ++
      natUnits structureRootObject ++ js " 0 R >>") :=
    ((by decide : Quiet (js " /MarkInfo << /Marked true >> /StructTreeRoot ")).append
      (quiet_natUnits _)).append (by decide)
  have hhead : Quiet (js "<< /Type /Catalog /Pages 2 0 R /Lang ") := by decide
  have hall := ((reads_quiet hhead).append
    (reads_words (js "en-AU") (by decide) (by decide) (by decide) (by decide))).append
    (reads_quiet hrest)
  rw [hsplit, latin1_append, latin1_append]
  exact hall

theorem reads_info (title : JsString) : Reads (latin1 (infoObject title))
    [latin1 (normalisePdfText title), latin1 (js "InspectionHub semantic report renderer"),
      latin1 (js "InspectionHub")] := by
  have hsplit : infoObject title =
      js "<< /Title " ++ literal (escapePdfText (normalisePdfText title)) ++ (js " /Creator " ++
        literal (js "InspectionHub semantic report renderer") ++ (js " /Producer " ++
          literal (js "InspectionHub") ++ js " >>")) := by
    have hopening : "<< /Title (" = "<< /Title " ++ "(" := rfl
    have hclosing :
        ") /Creator (InspectionHub semantic report renderer) /Producer (InspectionHub) >>" =
        ")" ++ (" /Creator " ++ ("(" ++ ("InspectionHub semantic report renderer" ++ (")" ++
          (" /Producer " ++ ("(" ++ ("InspectionHub" ++ (")" ++ " >>")))))))) := rfl
    unfold infoObject literal
    rw [hopening, hclosing]
    simp only [js_append, List.append_assoc]
  have hprintable := normalisePdfText_printable title
  have htitle : Reads (latin1 (literal (escapePdfText (normalisePdfText title))))
      [latin1 (normalisePdfText title)] := by
    rw [latin1_literal, latin1_escape (legible_of_printable hprintable)]
    refine (scans_literal fun c hc heq => ?_).reads
    obtain ⟨u, hu, hlow⟩ := List.mem_map.mp hc
    have hmod := lowByte_eq_iff.mp (hlow.trans heq)
    have hu := hprintable u hu
    simp only [isPrintable, Bool.or_eq_true, Bool.and_eq_true, decide_eq_true_eq] at hu
    change u.val % 256 = 13 at hmod
    omega
  have hproducer := (reads_quiet (by decide : Quiet (js " /Producer "))).append
    ((reads_words (js "InspectionHub") (by decide) (by decide) (by decide)
      (by decide)).append (reads_quiet (by decide : Quiet (js " >>"))))
  have hcreator := (reads_quiet (by decide : Quiet (js " /Creator "))).append
    (reads_words (js "InspectionHub semantic report renderer") (by decide) (by decide)
      (by decide) (by decide))
  have hall := ((reads_quiet (by decide : Quiet (js "<< /Title "))).append htitle).append
    (hcreator.append hproducer)
  simp only [← latin1_append, List.append_assoc, List.nil_append, List.append_nil] at hall
  rw [hsplit]
  simpa only [List.append_assoc, List.cons_append, List.nil_append] using hall

theorem reads_pagesObject (numbers : List Nat) (pageCount : Nat) :
    Reads (latin1 (pagesObject numbers pageCount)) [] := by
  refine reads_quiet ?_
  unfold pagesObject
  refine ((((by decide : Quiet (js "<< /Type /Pages /Count ")).append (quiet_natUnits _)).append
    (by decide)).append ?_).append (by decide)
  cases numbers with
  | nil => decide
  | cons number numbers =>
      have hkid : ∀ n, Quiet (natUnits n ++ js " 0 R") :=
        fun n => (quiet_natUnits n).append (by decide)
      rw [List.map_cons, join_cons]
      refine (hkid number).append (free_lead (by decide) fun part hpart => ?_)
      obtain ⟨n, -, rfl⟩ := List.mem_map.mp hpart
      exact hkid n

theorem quiet_pageObject (contentObject index : Nat) : Quiet (pageObject contentObject index) := by
  unfold pageObject
  exact ((((((((by decide : Quiet (js "<< /Type /Page /Parent 2 0 R /MediaBox [0 0 ")).append
    (quiet_natUnits _)).append (by decide)).append (quiet_natUnits _)).append
    (by decide)).append (quiet_natUnits _)).append (by decide)).append (quiet_natUnits _)).append
    (by decide)

theorem reads_content {stream : JsString} (h : Reads (latin1 stream) texts) :
    Reads (latin1 (contentObject stream)) texts := by
  have hbefore : Quiet (js "<< /Length " ++ natUnits (byteLength stream) ++
      js " >>\nstream\n") := ((by decide : Quiet (js "<< /Length ")).append
    (quiet_natUnits _)).append (by decide)
  have hall := ((reads_quiet hbefore).append h).append
    (reads_quiet (by decide : Quiet (js "\nendstream")))
  rwa [List.nil_append, List.append_nil, ← latin1_append, ← latin1_append] at hall

theorem quiet_xrefSection (maxObject xrefOffset : Nat) (offsets : List Nat) :
    Quiet (xrefSection maxObject xrefOffset offsets) := by
  unfold xrefSection
  rw [join_nil]
  refine free_flatten fun part hpart => ?_
  rcases List.mem_append.mp hpart with hpart | hpart
  · rcases List.mem_append.mp hpart with hpart | hpart
    · rcases List.mem_cons.mp hpart with rfl | hpart
      · exact ((by decide : Quiet (js "xref\n0 ")).append (quiet_natUnits _)).append (by decide)
      · rw [List.mem_singleton.mp hpart]
        decide
    · obtain ⟨offset, -, rfl⟩ := List.mem_map.mp hpart
      have hzeros : ∀ n, Quiet (List.replicate n (CodeUnit.ofChar '0')) := by
        intro n hmem
        obtain ⟨u, hu, hlow⟩ := List.mem_map.mp hmem
        rw [List.eq_of_mem_replicate hu] at hlow
        exact absurd hlow (by decide)
      exact ((hzeros _).append (quiet_natUnits _)).append (by decide)
  · rw [List.mem_singleton.mp hpart]
    exact ((((by decide : Quiet (js "trailer\n<< /Size ")).append (quiet_natUnits _)).append
      (by decide)).append (quiet_natUnits _)).append (by decide)

theorem reads_fixed (pages : List (List StyledLine)) (title : JsString) :
    Reads (latin1 (chunksFrom 1 [catalogObject (6 + pages.length * 2),
      pagesObject (pageNumbers pages.length) pages.length, fontObject, boldFontObject,
      infoObject title]).flatten)
      [latin1 (js "en-AU"), latin1 (normalisePdfText title),
        latin1 (js "InspectionHub semantic report renderer"), latin1 (js "InspectionHub")] := by
  obtain ⟨-, -, hfont, hbold, -⟩ := quiet_fixed
  exact reads_chunks (.cons (reads_catalog _) (.cons (reads_pagesObject _ _)
    (.cons (reads_quiet hfont) (.cons (reads_quiet hbold) (.cons (reads_info title) .nil))))) 1

/-- Every line of the pages reads back as it should. -/
def Readable (pages : List (List StyledLine)) : Prop :=
  ∀ page ∈ pages, ∀ line ∈ page, ReadsAs line (lineText line)

theorem reads_page {page : List StyledLine} (h : ∀ line ∈ page, ReadsAs line (lineText line))
    (pageNumber pageCount : Nat) (module : ReportModule) :
    Reads (latin1 (contentObject (buildPageStream page pageNumber pageCount module)))
      (latin1 bannerText :: (page.map lineText ++ [latin1 (footerText pageNumber pageCount)])) :=
  reads_content (scans_page (List.forall₂_map_right_iff.mpr (List.forall₂_same.mpr h))
    pageNumber pageCount module).reads

theorem reads_pages {pages : List (List StyledLine)} (h : Readable pages) (pageCount : Nat)
    (module : ReportModule) (start index : Nat) :
    Reads (latin1 (chunksFrom start (pageBodies pageCount module index pages)).flatten)
      (pageTexts pageCount index pages) := by
  induction pages generalizing start index with
  | nil => exact scans_nil.reads
  | cons page pages ih =>
      obtain ⟨hpage, hpages⟩ := List.forall_mem_cons.mp h
      have hobject := reads_chunk (reads_quiet (quiet_pageObject (7 + index * 2) index)) start
      have hcontent := reads_chunk (reads_page hpage (index + 1) pageCount module) (start + 1)
      have hall := (hobject.append hcontent).append (ih hpages (start + 1 + 1) (index + 1))
      rw [pageBodies, chunksFrom, chunksFrom, List.flatten_cons, List.flatten_cons, latin1_append,
        latin1_append, ← List.append_assoc]
      exact hall

/-- **The file.** Its literals read back when every line does. -/
theorem literals_fileText {pages : List (List StyledLine)} (h : Readable pages) (title : JsString)
    (module : ReportModule) :
    literals (latin1 (fileText pages title module)) = some (fileTexts pages title) := by
  obtain ⟨-, -, -, -, hstructure, hhead⟩ := quiet_fixed
  have hroot := reads_chunk (reads_quiet hstructure) (6 + pages.length * 2)
  have hpages := reads_pages h pages.length module 6 0
  have hbody := ((reads_quiet hhead).append (reads_fixed pages title)).append (hpages.append hroot)
  have hall := hbody.append (reads_quiet (quiet_xrefSection (6 + pages.length * 2)
    (fileBody pages title module).length (0 :: fileOffsets pages title module)))
  have hbodies : (chunksFrom 1 (bodies pages title module)).flatten =
      (chunksFrom 1 [catalogObject (6 + pages.length * 2),
        pagesObject (pageNumbers pages.length) pages.length, fontObject, boldFontObject,
        infoObject title]).flatten ++
      ((chunksFrom 6 (pageBodies pages.length module 0 pages)).flatten ++
        objectChunk (6 + pages.length * 2) structureRoot) := by
    unfold bodies
    rw [List.append_assoc, chunksFrom_append, chunksFrom_append, List.flatten_append,
      List.flatten_append, length_pageBodies]
    congr 2
    have hnumber : 1 + (0 + 1 + 1 + 1 + 1 + 1) + 2 * pages.length = 6 + pages.length * 2 := by omega
    change (chunksFrom (1 + (0 + 1 + 1 + 1 + 1 + 1) + 2 * pages.length) [structureRoot]).flatten = _
    rw [hnumber]
    exact List.append_nil _
  have hbefore : latin1 (fileBody pages title module) =
      latin1 fileHead ++ latin1 (chunksFrom 1 [catalogObject (6 + pages.length * 2),
        pagesObject (pageNumbers pages.length) pages.length, fontObject, boldFontObject,
        infoObject title]).flatten ++
      (latin1 (chunksFrom 6 (pageBodies pages.length module 0 pages)).flatten ++
        latin1 (objectChunk (6 + pages.length * 2) structureRoot)) := by
    unfold fileBody
    rw [hbodies, latin1_append, latin1_append, latin1_append, List.append_assoc]
  rw [← hbefore, ← latin1_append] at hall
  obtain ⟨o, hscan⟩ := hall
  have htexts := hscan.literals
  rw [List.nil_append, List.append_nil, List.append_nil] at htexts
  exact htexts

end InspectionHub.Reporting.Pdf
