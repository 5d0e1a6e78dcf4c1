import Mathlib

/-!
# Literal strings of the page format

A literal string stands in parentheses. Inside, balanced parentheses belong to
the text, a reverse solidus starts an escape, and an end of line counts as one
line feed. The scanner reads a file byte by byte and keeps the texts of its
literals and the bytes between them.

`escape` writes any text without a carriage return so that it reads back
(`run_literal`). Whatever follows, a literal that has read some bytes never
takes them back (`run_within`).
-/

namespace InspectionHub.PdfString

abbrev Bytes := List UInt8

/-- What the bytes before decide about the next one. -/
inductive Escape where
  | none
  | solidus
  | octal (left value : Nat)
  | carriage
deriving DecidableEq

/-- `depth` counts the open parentheses. -/
structure Scanner where
  depth : Nat
  escape : Escape
  text : Bytes
  texts : List Bytes
  outside : Bytes
deriving DecidableEq

def isOctal (c : UInt8) : Bool := 0x30 ≤ c && c ≤ 0x37

/-- The byte that a solidus and this one stand for. -/
def escaped (c : UInt8) : UInt8 :=
  if c = 0x6E then 0x0A else if c = 0x72 then 0x0D else if c = 0x74 then 0x09
  else if c = 0x62 then 0x08 else if c = 0x66 then 0x0C else c

namespace Scanner

/-- Outside every literal. -/
def between (texts : List Bytes) (outside : Bytes) : Scanner := ⟨0, .none, [], texts, outside⟩

/-- In a literal that has read `text`. -/
def within (text : Bytes) (texts : List Bytes) (outside : Bytes) : Scanner :=
  ⟨1, .none, text, texts, outside⟩

def push (s : Scanner) (c : UInt8) : Scanner := { s with escape := .none, text := s.text ++ [c] }

/-- A byte of a literal that no escape changes. -/
def plain (s : Scanner) (c : UInt8) : Scanner :=
  if c = 0x5C then { s with escape := .solidus }
  else if c = 0x28 then { s.push c with depth := s.depth + 1 }
  else if c = 0x29 then
    if s.depth = 1 then between (s.texts ++ [s.text]) s.outside
    else { s.push c with depth := s.depth - 1 }
  else if c = 0x0D then { s.push 0x0A with escape := .carriage }
  else s.push c

def step (s : Scanner) (c : UInt8) : Scanner :=
  if s.depth = 0 then
    if c = 0x28 then within [] s.texts s.outside else between s.texts (s.outside ++ [c])
  else
    match s.escape with
    | .none => s.plain c
    | .solidus =>
        if isOctal c then { s with escape := .octal 2 (c.toNat - 0x30) }
        else if c = 0x0A then { s with escape := .none }
        else if c = 0x0D then { s with escape := .carriage }
        else s.push (escaped c)
    | .octal left value =>
        if isOctal c then
          if left = 1 then s.push (UInt8.ofNat (value * 8 + (c.toNat - 0x30)))
          else { s with escape := .octal (left - 1) (value * 8 + (c.toNat - 0x30)) }
        else (s.push (UInt8.ofNat value)).plain c
    | .carriage => if c = 0x0A then { s with escape := .none } else s.plain c

def run (s : Scanner) (bytes : Bytes) : Scanner := bytes.foldl step s

end Scanner

open Scanner

/-- The texts of a file's literals; `none` when the last one does not end. -/
def literals (bytes : Bytes) : Option (List Bytes) :=
  let s := run (between [] []) bytes
  if s.depth = 0 then some s.texts else none

/-- What stands outside the literals. -/
def outside (bytes : Bytes) : Bytes := (run (between [] []) bytes).outside

def escapeByte (c : UInt8) : Bytes :=
  if c = 0x5C ∨ c = 0x28 ∨ c = 0x29 then [0x5C, c] else [c]

def escape (text : Bytes) : Bytes := text.flatMap escapeByte

theorem escape_of_plain {text : Bytes} (h : ∀ c ∈ text, c ≠ 0x5C ∧ c ≠ 0x28 ∧ c ≠ 0x29) :
    escape text = text := by
  have hbyte : ∀ c ∈ text, escapeByte c = [c] := by
    intro c hc
    obtain ⟨hs, ho, hcl⟩ := h c hc
    refine if_neg ?_
    rintro (heq | heq | heq)
    · exact hs heq
    · exact ho heq
    · exact hcl heq
  rw [escape, List.flatMap_congr hbyte]
  exact List.flatMap_singleton' text

/-! ## Runs -/

theorem run_append (s : Scanner) (a b : Bytes) : run s (a ++ b) = run (run s a) b :=
  List.foldl_append

theorem run_cons (s : Scanner) (c : UInt8) (b : Bytes) : run s (c :: b) = run (step s c) b := rfl

/-- Bytes without an opening parenthesis stay outside. -/
theorem run_between (texts : List Bytes) (o b : Bytes) (h : 0x28 ∉ b) :
    run (between texts o) b = between texts (o ++ b) := by
  induction b generalizing o with
  | nil => rw [List.append_nil]; rfl
  | cons c b ih =>
      obtain ⟨hc, hb⟩ := not_or.mp (mt List.mem_cons.mpr h)
      have hstep : step (between texts o) c = between texts (o ++ [c]) := by
        unfold step
        rw [if_pos (show (between texts o).depth = 0 from rfl), if_neg (Ne.symm hc)]
        rfl
      rw [run_cons, hstep, ih _ hb, List.append_assoc, List.singleton_append]

theorem step_within {t : Bytes} {ts : List Bytes} {o : Bytes} {c : UInt8} (hs : c ≠ 0x5C)
    (ho : c ≠ 0x28) (hc : c ≠ 0x29) (hr : c ≠ 0x0D) :
    step (within t ts o) c = within (t ++ [c]) ts o := by
  change plain _ c = _
  unfold plain
  rw [if_neg hs, if_neg ho, if_neg hc, if_neg hr]
  rfl

theorem run_escapeByte (t : Bytes) (ts : List Bytes) (o : Bytes) {c : UInt8} (hr : c ≠ 0x0D) :
    run (within t ts o) (escapeByte c) = within (t ++ [c]) ts o := by
  unfold escapeByte
  split
  · next h => rcases h with rfl | rfl | rfl <;> rfl
  · next h =>
      simp only [not_or] at h
      exact step_within h.1 h.2.1 h.2.2 hr

theorem run_escape (t : Bytes) (ts : List Bytes) (o : Bytes) {text : Bytes}
    (h : ∀ c ∈ text, c ≠ 0x0D) : run (within t ts o) (escape text) = within (t ++ text) ts o := by
  induction text generalizing t with
  | nil => rw [List.append_nil]; rfl
  | cons c text ih =>
      obtain ⟨hc, htext⟩ := List.forall_mem_cons.mp h
      have hsplit : escape (c :: text) = escapeByte c ++ escape text := List.flatMap_cons
      rw [hsplit, run_append, run_escapeByte t ts o hc, ih _ htext, List.append_assoc,
        List.singleton_append]

/-- **Literals.** An escaped text reads back. -/
theorem run_literal (ts : List Bytes) (o : Bytes) {text : Bytes} (h : ∀ c ∈ text, c ≠ 0x0D) :
    run (between ts o) (0x28 :: (escape text ++ [0x29])) = between (ts ++ [text]) o := by
  have hopen : step (between ts o) 0x28 = within [] ts o := rfl
  rw [run_cons, hopen, run_append, run_escape [] ts o h]
  rfl

/-! ## Files that read as expected -/

/-- Read outside a literal, the bytes hold these literals and, between them, these bytes. -/
def Scans (b : Bytes) (texts : List Bytes) (o : Bytes) : Prop :=
  ∀ ts rest, run (between ts rest) b = between (ts ++ texts) (rest ++ o)

theorem Scans.append {a b : Bytes} {ts ts' : List Bytes} {o o' : Bytes} (ha : Scans a ts o)
    (hb : Scans b ts' o') : Scans (a ++ b) (ts ++ ts') (o ++ o') := by
  intro earlier rest
  rw [run_append, ha, hb, List.append_assoc, List.append_assoc]

theorem scans_plain {b : Bytes} (h : 0x28 ∉ b) : Scans b [] b := by
  intro ts rest
  rw [run_between ts rest b h, List.append_nil]

theorem scans_literal {text : Bytes} (h : ∀ c ∈ text, c ≠ 0x0D) :
    Scans (0x28 :: (escape text ++ [0x29])) [text] [] := by
  intro ts rest
  rw [run_literal ts rest h, List.append_nil]

/-- No escape under way, but for a carriage return. -/
def Escape.Settled (e : Escape) : Prop := e = .none ∨ e = .carriage

theorem step_settled {e : Escape} (he : e.Settled) (t : Bytes) {c : UInt8} (hs : c ≠ 0x5C)
    (ho : c ≠ 0x28) (hc : c ≠ 0x29) :
    ∃ (t' : Bytes) (e' : Escape), e'.Settled ∧ ∀ ts o,
      step ⟨1, e, t, ts, o⟩ c = ⟨1, e', t', ts, o⟩ := by
  have hplain : ∃ (t' : Bytes) (e' : Escape), e'.Settled ∧ ∀ e ts o,
      plain ⟨1, e, t, ts, o⟩ c = ⟨1, e', t', ts, o⟩ := by
    unfold plain
    simp only [if_neg hs, if_neg ho, if_neg hc]
    by_cases hreturn : c = 0x0D
    · exact ⟨t ++ [0x0A], .carriage, .inr rfl, fun e ts o => if_pos hreturn⟩
    · exact ⟨t ++ [c], .none, .inl rfl, fun e ts o => if_neg hreturn⟩
  obtain ⟨t', e', he', hplain⟩ := hplain
  rcases he with rfl | rfl
  · exact ⟨t', e', he', fun ts o => hplain .none ts o⟩
  · by_cases hline : c = 0x0A
    · exact ⟨t, .none, .inl rfl, fun ts o => if_pos hline⟩
    · refine ⟨t', e', he', fun ts o => ?_⟩
      have hstep : step ⟨1, .carriage, t, ts, o⟩ c = plain ⟨1, .carriage, t, ts, o⟩ c :=
        if_neg hline
      rw [hstep, hplain]

theorem run_escapeByte_settled {e : Escape} (he : e.Settled) (t : Bytes) (c : UInt8) :
    ∃ (t' : Bytes) (e' : Escape), e'.Settled ∧ ∀ ts o,
      run ⟨1, e, t, ts, o⟩ (escapeByte c) = ⟨1, e', t', ts, o⟩ := by
  unfold escapeByte
  split
  · next hspecial =>
      refine ⟨t ++ [c], .none, .inl rfl, fun ts o => ?_⟩
      rcases he with rfl | rfl <;> rcases hspecial with rfl | rfl | rfl <;> rfl
  · next hspecial =>
      simp only [not_or] at hspecial
      exact step_settled he t hspecial.1 hspecial.2.1 hspecial.2.2

/-- An escaped text reads back as some text, and no further. -/
theorem exists_scans_literal (text : Bytes) :
    ∃ t, Scans (0x28 :: (escape text ++ [0x29])) [t] [] := by
  have hinside : ∀ (t : Bytes) (e : Escape), e.Settled → ∃ (t' : Bytes) (e' : Escape),
      e'.Settled ∧ ∀ ts o, run ⟨1, e, t, ts, o⟩ (escape text) = ⟨1, e', t', ts, o⟩ := by
    induction text with
    | nil => exact fun t e he => ⟨t, e, he, fun _ _ => rfl⟩
    | cons c text ih =>
        intro t e he
        obtain ⟨t', e', he', hbyte⟩ := run_escapeByte_settled he t c
        obtain ⟨t'', e'', he'', hrest⟩ := ih t' e' he'
        refine ⟨t'', e'', he'', fun ts o => ?_⟩
        have hsplit : escape (c :: text) = escapeByte c ++ escape text := List.flatMap_cons
        rw [hsplit, run_append, hbyte, hrest]
  obtain ⟨t, e, he, hstate⟩ := hinside [] .none (.inl rfl)
  refine ⟨t, fun ts o => ?_⟩
  have hopen : step (between ts o) 0x28 = ⟨1, .none, [], ts, o⟩ := rfl
  rw [run_cons, hopen, run_append, hstate, List.append_nil]
  rcases he with rfl | rfl <;> rfl

theorem scans_nil : Scans [] [] [] := scans_plain (List.not_mem_nil)

/-- Like `Scans`, whatever stands between the literals. -/
def Reads (b : Bytes) (texts : List Bytes) : Prop := ∃ o, Scans b texts o

theorem Scans.reads {b : Bytes} {texts : List Bytes} {o : Bytes} (h : Scans b texts o) :
    Reads b texts := ⟨o, h⟩

theorem Reads.append {a b : Bytes} {ts ts' : List Bytes} (ha : Reads a ts) (hb : Reads b ts') :
    Reads (a ++ b) (ts ++ ts') := by
  obtain ⟨o, ha⟩ := ha
  obtain ⟨o', hb⟩ := hb
  exact ⟨o ++ o', ha.append hb⟩

theorem Scans.literals {b : Bytes} {texts : List Bytes} {o : Bytes} (h : Scans b texts o) :
    literals b = some texts := by
  unfold PdfString.literals
  rw [h]
  rfl

theorem Scans.outside {b : Bytes} {texts : List Bytes} {o : Bytes} (h : Scans b texts o) :
    outside b = o := by
  unfold PdfString.outside
  rw [h]
  rfl

/-! ## What has been read stays read -/

/-- A later state keeps the texts read, and the text being read is the start of
the one that follows them. -/
def Extends (s s' : Scanner) : Prop :=
  (s'.texts = s.texts ∧ 0 < s'.depth ∧ s.text <+: s'.text) ∨
    ∃ w more, s'.texts = s.texts ++ w :: more ∧ s.text <+: w

theorem texts_step (s : Scanner) (c : UInt8) : s.texts <+: (step s c).texts := by
  unfold step plain
  grind [Scanner.push, between, within]

theorem texts_run (s : Scanner) (b : Bytes) : s.texts <+: (run s b).texts := by
  induction b generalizing s with
  | nil => exact List.prefix_rfl
  | cons c b ih => exact (texts_step s c).trans (ih _)

theorem extends_push {s : Scanner} (h : 0 < s.depth) (c : UInt8) : Extends s (s.push c) :=
  .inl ⟨rfl, h, List.prefix_append ..⟩

theorem extends_plain {s : Scanner} (h : 0 < s.depth) (c : UInt8) : Extends s (s.plain c) := by
  unfold plain
  split
  · exact .inl ⟨rfl, h, List.prefix_rfl⟩
  · split
    · exact .inl ⟨rfl, Nat.succ_pos _, List.prefix_append ..⟩
    · split
      · split
        · exact .inr ⟨s.text, [], rfl, List.prefix_rfl⟩
        · exact .inl ⟨rfl, by change 0 < s.depth - 1; omega, List.prefix_append ..⟩
      · split
        · exact .inl ⟨rfl, h, List.prefix_append ..⟩
        · exact extends_push h c

theorem Extends.trans {s s' s'' : Scanner} (h : Extends s s')
    (hnext : 0 < s'.depth → Extends s' s'') (hgrow : s'.texts <+: s''.texts) : Extends s s'' := by
  rcases h with ⟨htexts, hdepth, htext⟩ | ⟨w, more, htexts, htext⟩
  · rcases hnext hdepth with ⟨htexts', hdepth', htext'⟩ | ⟨w, more, htexts', htext'⟩
    · exact .inl ⟨htexts'.trans htexts, hdepth', htext.trans htext'⟩
    · exact .inr ⟨w, more, by rw [htexts', htexts], htext.trans htext'⟩
  · obtain ⟨later, hlater⟩ := hgrow
    exact .inr ⟨w, more ++ later, by rw [← hlater, htexts, List.append_assoc]; rfl, htext⟩

theorem extends_step {s : Scanner} (h : 0 < s.depth) (c : UInt8) : Extends s (step s c) := by
  have hkeep : ∀ e, Extends s { s with escape := e } := fun e => .inl ⟨rfl, h, List.prefix_rfl⟩
  unfold step
  rw [if_neg (by omega)]
  cases s.escape with
  | none => exact extends_plain h c
  | solidus =>
      dsimp only
      split
      · exact hkeep _
      · split
        · exact hkeep _
        · split
          · exact hkeep _
          · exact extends_push h _
  | octal left value =>
      dsimp only
      split
      · split
        · exact extends_push h _
        · exact hkeep _
      · refine (extends_push h _).trans (fun hdepth => extends_plain hdepth c) ?_
        rcases extends_plain (s := s.push (UInt8.ofNat value)) h c with ⟨heq, -⟩ | ⟨w, more, heq, -⟩
        · rw [heq]
        · exact heq ▸ List.prefix_append ..
  | carriage =>
      dsimp only
      split
      · exact hkeep _
      · exact extends_plain h c

/-- **No way back.** A literal that has been read up to some text either goes on
from it to the end or is one that starts with it. -/
theorem run_within {s : Scanner} (h : 0 < s.depth) (b : Bytes) : Extends s (run s b) := by
  induction b generalizing s with
  | nil => exact .inl ⟨rfl, h, List.prefix_rfl⟩
  | cons c b ih => exact (extends_step h c).trans (fun hdepth => ih hdepth) (texts_run _ b)

/-- What one byte of a literal does, unless it starts an escape. -/
theorem step_plain {t : Bytes} {ts : List Bytes} {o : Bytes} {c : UInt8} (hc : c ≠ 0x5C) :
    step (within t ts o) c = between (ts ++ [t]) o ∨
      ∃ s d, step (within t ts o) c = s ∧ 0 < s.depth ∧ s.texts = ts ∧ s.text = t ++ [d] ∧
        (d = c ∨ d = 0x0A) := by
  change plain _ c = _ ∨ _
  by_cases hopen : c = 0x28
  · refine .inr ⟨_, c, rfl, ?_, ?_⟩ <;> subst hopen
    · exact Nat.succ_pos _
    · exact ⟨rfl, rfl, .inl rfl⟩
  by_cases hclose : c = 0x29
  · subst hclose
    exact .inl rfl
  by_cases hreturn : c = 0x0D
  · refine .inr ⟨_, 0x0A, rfl, ?_, ?_⟩ <;> subst hreturn
    · exact Nat.one_pos
    · exact ⟨rfl, rfl, .inr rfl⟩
  · exact .inr ⟨_, c, step_within hc hopen hclose hreturn, Nat.one_pos, rfl, rfl, .inl rfl⟩

/-- **Misread.** After a byte that is neither the expected one nor the start of an escape, no
continuation makes the literal the expected text. -/
theorem texts_ne {t : Bytes} {ts : List Bytes} {o : Bytes} {c n : UInt8} (hc : c ≠ 0x5C)
    (hn : n ≠ c) (hline : n ≠ 0x0A) (b rest : Bytes) (more : List Bytes) :
    (run (within t ts o) (c :: b)).texts ≠ ts ++ (t ++ n :: rest) :: more := by
  intro heq
  rw [run_cons] at heq
  rcases @step_plain t ts o c hc with hstep | ⟨s, d, rfl, hdepth, htexts, htext, hd⟩
  · -- the literal has ended
    obtain ⟨later, hlater⟩ := texts_run (between (ts ++ [t]) o) b
    rw [hstep, ← hlater] at heq
    have hsame : ts ++ t :: later = ts ++ (t ++ n :: rest) :: more := by
      rw [← heq]
      exact (List.append_assoc ts [t] later).symm
    have hhead := (List.cons.inj (List.append_cancel_left hsame)).1
    have hlength := congrArg List.length hhead
    rw [List.length_append, List.length_cons] at hlength
    omega
  · rcases run_within hdepth b with ⟨hall, -, -⟩ | ⟨w, later, hall, hprefix⟩
    · rw [hall, htexts] at heq
      have hlength := congrArg List.length heq
      rw [List.length_append, List.length_cons] at hlength
      omega
    · rw [hall, htexts] at heq
      have hhead := (List.cons.inj (List.append_cancel_left heq)).1
      obtain ⟨tail, htail⟩ := hprefix
      rw [htext, hhead, List.append_assoc] at htail
      have hbyte := (List.cons.inj (List.append_cancel_left htail)).1
      rcases hd with rfl | rfl
      · exact hn hbyte.symm
      · exact hline hbyte.symm

theorem outside_step (s : Scanner) (c : UInt8) : s.outside <+: (step s c).outside := by
  unfold step plain
  grind [Scanner.push, between, within]

/-- What stands outside the literals is not taken back either. -/
theorem outside_run (s : Scanner) (b : Bytes) : s.outside <+: (run s b).outside := by
  induction b generalizing s with
  | nil => exact List.prefix_rfl
  | cons c b ih => exact (outside_step s c).trans (ih _)

/-! ## Marks -/

/-- White space of the format. -/
def isWhite (c : UInt8) : Bool :=
  c = 0x00 || c = 0x09 || c = 0x0A || c = 0x0C || c = 0x0D || c = 0x20

/-- The tokens of an operator stream whose tokens are set apart. -/
def tokens (b : Bytes) : List Bytes := (b.splitOnP isWhite).filter (· ≠ [])

/-- The tokens that follow a key. -/
def valuesOf (key : Bytes) : List Bytes → List Bytes
  | k :: v :: rest => if k = key then v :: valuesOf key rest else valuesOf key (v :: rest)
  | _ => []

theorem tokens_append {c : UInt8} (hc : isWhite c = true) (a b : Bytes) :
    tokens (a ++ c :: b) = tokens a ++ tokens b := by
  unfold tokens
  rw [List.splitOnP_append_cons _ _ hc, List.filter_append]

theorem tokens_word {b : Bytes} (hb : b ≠ []) (h : ∀ c ∈ b, isWhite c = false) :
    tokens b = [b] := by
  unfold tokens
  rw [List.splitOnP_eq_singleton h, List.filter_cons_of_pos (by simpa using hb)]
  rfl

theorem mem_token {b t : Bytes} (ht : t ∈ tokens b) : ∀ c ∈ t, c ∈ b := by
  have hword : ∀ (l : Bytes), ∀ t ∈ l.splitOnP isWhite, ∀ c ∈ t, c ∈ l := by
    intro l
    induction l with
    | nil =>
        intro t ht c hc
        rw [List.splitOnP_nil, List.mem_singleton] at ht
        rw [ht] at hc
        exact hc
    | cons a l ih =>
        intro t ht c hc
        rw [List.splitOnP_cons_eq_if_modifyHead] at ht
        split at ht
        · rcases List.mem_cons.mp ht with rfl | ht
          · cases hc
          · exact List.mem_cons_of_mem a (ih t ht c hc)
        · cases hsplit : l.splitOnP isWhite with
          | nil => exact absurd hsplit (List.splitOnP_ne_nil isWhite l)
          | cons first rest =>
              rw [hsplit, List.modifyHead_cons] at ht
              rw [hsplit] at ih
              rcases List.mem_cons.mp ht with rfl | ht
              · rcases List.mem_cons.mp hc with rfl | hc
                · exact List.mem_cons_self
                · exact List.mem_cons_of_mem a (ih first List.mem_cons_self c hc)
              · exact List.mem_cons_of_mem a (ih t (List.mem_cons_of_mem first ht) c hc)
  exact hword b t (List.mem_filter.mp ht).1

/-- The values a piece of a stream gives a key, whatever follows it. -/
def Gives (key : Bytes) (b : Bytes) (values : List Bytes) : Prop :=
  ∀ rest, valuesOf key (tokens b ++ rest) = values ++ valuesOf key rest

theorem Gives.append {key a b : Bytes} {values values' : List Bytes} (ha : Gives key a values)
    (hb : Gives key b values') {c : UInt8} (hc : isWhite c = true) :
    Gives key (a ++ c :: b) (values ++ values') := by
  intro rest
  rw [tokens_append hc, List.append_assoc, ha, hb, List.append_assoc]

theorem valuesOf_skip {key : Bytes} {l : List Bytes} (h : key ∉ l) (rest : List Bytes) :
    valuesOf key (l ++ rest) = valuesOf key rest := by
  induction l with
  | nil => rfl
  | cons k l ih =>
      obtain ⟨hk, hl⟩ := not_or.mp (mt List.mem_cons.mpr h)
      rw [← ih hl, List.cons_append]
      cases hrest : l ++ rest with
      | nil => rfl
      | cons v more => rw [valuesOf, if_neg (Ne.symm hk)]

theorem valuesOf_append {key : Bytes} {a : List Bytes} (h : a.getLast? ≠ some key)
    (b : List Bytes) : valuesOf key (a ++ b) = valuesOf key a ++ valuesOf key b := by
  induction a using valuesOf.induct key with
  | case1 v rest ih =>
      cases rest with
      | nil =>
          rw [List.cons_append, List.cons_append, valuesOf, valuesOf, if_pos rfl, if_pos rfl]
          rfl
      | cons w rest =>
          have hrest := ih (by rwa [List.getLast?_cons_cons, List.getLast?_cons_cons] at h)
          rw [List.cons_append, List.cons_append, valuesOf, valuesOf, if_pos rfl, if_pos rfl, hrest]
          rfl
  | case2 k v rest hk ih =>
      have hrest := ih (by rwa [List.getLast?_cons_cons] at h)
      rw [List.cons_append, List.cons_append, valuesOf, valuesOf, if_neg hk, if_neg hk,
        ← List.cons_append, hrest]
  | case3 l hl =>
      cases l with
      | nil => rfl
      | cons k rest =>
          cases rest with
          | cons v rest => exact absurd rfl (hl k v rest)
          | nil =>
              have hk : k ≠ key := fun heq => h (by rw [heq]; rfl)
              cases b with
              | nil => rfl
              | cons v b =>
                  rw [List.singleton_append, valuesOf, if_neg hk]
                  rfl

/-- A piece without one of the key's bytes gives it no value. -/
theorem gives_none {key b : Bytes} {c : UInt8} (hkey : c ∈ key) (hb : c ∉ b) :
    Gives key b [] :=
  valuesOf_skip fun hmem => hb (mem_token hmem c hkey)

/-- A key between other tokens. -/
theorem gives_value {key before after value : Bytes} {c d e : UInt8} (hd : isWhite d = true)
    (he : isWhite e = true) (hvalue : value ≠ []) (hwhite : ∀ c ∈ value, isWhite c = false)
    (hbefore : key ∉ (tokens before)) (hkey : tokens key = [key]) (hafter : key ∉ tokens after)
    (hc : isWhite c = true) :
    Gives key (before ++ c :: (key ++ d :: (value ++ e :: after))) [value] := by
  intro rest
  rw [tokens_append hc, tokens_append hd, tokens_append he, hkey, tokens_word hvalue hwhite,
    List.append_assoc, valuesOf_skip hbefore]
  simp only [List.cons_append, List.nil_append]
  rw [valuesOf, if_pos rfl, valuesOf_skip hafter]

theorem Gives.values {key b : Bytes} {values : List Bytes} (h : Gives key b values) :
    valuesOf key (tokens b) = values := by
  have hnil := h []
  rw [List.append_nil] at hnil
  rw [hnil]
  exact List.append_nil values

/-- Escapes, nested parentheses and ends of lines. -/
example : literals [0x28, 0x5C, 0x31, 0x30, 0x31, 0x28, 0x0D, 0x0A, 0x29, 0x5C, 0x29, 0x29] =
    some [[0x41, 0x28, 0x0A, 0x29, 0x29]] := by decide

end InspectionHub.PdfString
