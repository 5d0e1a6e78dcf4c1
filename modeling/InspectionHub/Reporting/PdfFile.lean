import InspectionHub.Reporting.PdfLayout

/-!
# The file the renderer writes

The objects that `buildPdf` collects under their numbers, the loop that writes
them, and the bytes that come of it: the head, the objects in the order of
their numbers, and the table of their offsets.
-/

namespace InspectionHub.Reporting.Pdf

/-! ## The objects -/

/-- The objects of the pages from `index` on, a page and its contents in turn. -/
def pageBodies (pageCount : Nat) (module : ReportModule) :
    Nat → List (List StyledLine) → List JsString
  | _, [] => []
  | index, page :: rest =>
      pageObject (7 + index * 2) index ::
        contentObject (buildPageStream page (index + 1) pageCount module) ::
        pageBodies pageCount module (index + 1) rest

def pageNumbers (pageCount : Nat) : List Nat :=
  (List.range pageCount).map fun index => 6 + index * 2

/-- Every object, from number 1 on. -/
def bodies (pages : List (List StyledLine)) (title : JsString) (module : ReportModule) :
    List JsString :=
  [catalogObject (6 + pages.length * 2), pagesObject (pageNumbers pages.length) pages.length,
    fontObject, boldFontObject, infoObject title] ++
    pageBodies pages.length module 0 pages ++ [structureRoot]

theorem length_pageBodies (pageCount : Nat) (module : ReportModule) (index : Nat)
    (pages : List (List StyledLine)) :
    (pageBodies pageCount module index pages).length = 2 * pages.length := by
  induction pages generalizing index with
  | nil => rfl
  | cons page pages ih =>
      rw [pageBodies, List.length_cons, List.length_cons, ih, List.length_cons]
      omega

theorem length_bodies (pages : List (List StyledLine)) (title : JsString)
    (module : ReportModule) : (bodies pages title module).length = 6 + pages.length * 2 := by
  unfold bodies
  rw [List.length_append, List.length_append, length_pageBodies]
  simp only [List.length_cons, List.length_nil]
  omega

/-- The object of a page, and the one of its contents. -/
theorem pageBodies_get (pageCount : Nat) (module : ReportModule) (start : Nat)
    {pages : List (List StyledLine)} {i : Nat} {page : List StyledLine}
    (h : pages[i]? = some page) :
    (pageBodies pageCount module start pages)[2 * i]? =
        some (pageObject (7 + (start + i) * 2) (start + i)) ∧
      (pageBodies pageCount module start pages)[2 * i + 1]? =
        some (contentObject (buildPageStream page (start + i + 1) pageCount module)) := by
  induction pages generalizing start i with
  | nil => cases h
  | cons first pages ih =>
      cases i with
      | zero =>
          cases h
          exact ⟨rfl, rfl⟩
      | succ i =>
          obtain ⟨hpage, hcontent⟩ := ih (start + 1) h
          have hshift : start + 1 + i = start + (i + 1) := by omega
          rw [hshift] at hpage hcontent
          exact ⟨hpage, hcontent⟩

/-- What the map holds under the numbers from `start` on. -/
def Holds (objects : OMap Nat JsString) (start : Nat) (bodies : List JsString) : Prop :=
  ∀ (i : Nat) (body : JsString), bodies[i]? = some body → objects.get? (start + i) = some body

variable {objects : OMap Nat JsString} {start : Nat}

theorem Holds.append {a b : List JsString} (ha : Holds objects start a)
    (hb : Holds objects (start + a.length) b) : Holds objects start (a ++ b) := by
  intro i body hbody
  by_cases hi : i < a.length
  · rw [List.getElem?_append_left hi] at hbody
    exact ha i body hbody
  · rw [List.getElem?_append_right (by omega)] at hbody
    have hget := hb _ body hbody
    rwa [Nat.add_assoc, Nat.add_sub_cancel' (by omega)] at hget

/-- What is set under later numbers keeps the earlier objects. -/
theorem Holds.congr {objects objects' : OMap Nat JsString} {bodies : List JsString}
    (h : Holds objects start bodies)
    (hkeep : ∀ k < start + bodies.length, objects'.get? k = objects.get? k) :
    Holds objects' start bodies := by
  intro i body hbody
  have hi : i < bodies.length := (List.getElem?_eq_some_iff.mp hbody).1
  rw [hkeep _ (by omega)]
  exact h i body hbody

theorem Holds.cons {body : JsString} {bodies : List JsString}
    (hbody : objects.get? start = some body) (h : Holds objects (start + 1) bodies) :
    Holds objects start (body :: bodies) := by
  intro i body' hbody'
  cases i with
  | zero =>
      cases hbody'
      exact hbody
  | succ i =>
      have hget := h i body' hbody'
      rwa [Nat.add_assoc, Nat.add_comm 1] at hget

theorem holds_nil (objects : OMap Nat JsString) (start : Nat) : Holds objects start [] :=
  fun _ _ h => (nomatch h)

/-- The loop over the pages sets their objects, and no earlier one. -/
theorem setPages_holds {pageCount : Nat} {numbers contents : List Nat}
    (hnumbers : numbers = (List.range pageCount).map fun index => 6 + index * 2)
    (hcontents : contents = (List.range pageCount).map fun index => 7 + index * 2)
    (module : ReportModule) (index : Nat) {pages : List (List StyledLine)}
    (hcount : index + pages.length = pageCount) (objects : OMap Nat JsString) :
    ∃ objects', setPages numbers contents pageCount module index pages objects = .ok objects' ∧
      Holds objects' (6 + index * 2) (pageBodies pageCount module index pages) ∧
      ∀ k < 6 + index * 2, objects'.get? k = objects.get? k := by
  induction pages generalizing index objects with
  | nil => exact ⟨objects, rfl, holds_nil _ _, fun _ _ => rfl⟩
  | cons page pages ih =>
      rw [List.length_cons] at hcount
      have hnumber : numbers[index]? = some (6 + index * 2) := by
        rw [hnumbers, List.getElem?_map, List.getElem?_range (by omega)]
        rfl
      have hcontent : contents[index]? = some (7 + index * 2) := by
        rw [hcontents, List.getElem?_map, List.getElem?_range (by omega)]
        rfl
      unfold setPages
      rw [hnumber, hcontent]
      dsimp only
      obtain ⟨objects', hset, hholds, hkeep⟩ := ih (index + 1) (by omega)
        ((objects.set (6 + index * 2) (pageObject (7 + index * 2) index)).set (7 + index * 2)
          (contentObject (buildPageStream page (index + 1) pageCount module)))
      have hnext : 6 + (index + 1) * 2 = 6 + index * 2 + 1 + 1 := by omega
      refine ⟨objects', hset, .cons ?_ (.cons ?_ (by rwa [← hnext])), ?_⟩
      · rw [hkeep _ (by omega), OMap.get?_set_of_ne _ _ (by omega), OMap.get?_set_self]
      · rw [hkeep _ (by omega), Nat.add_right_comm, OMap.get?_set_self]
      · intro k hk
        rw [hkeep _ (by omega), OMap.get?_set_of_ne _ _ (by omega),
          OMap.get?_set_of_ne _ _ (by omega)]

/-! ## The loop over the objects -/

/-- The chunks of some objects, from a number on. -/
def chunksFrom : Nat → List JsString → List JsString
  | _, [] => []
  | start, body :: bodies => objectChunk start body :: chunksFrom (start + 1) bodies

/-- Where they start. -/
def offsetsFrom : Nat → Nat → List JsString → List Nat
  | _, _, [] => []
  | start, offset, body :: bodies =>
      offset :: offsetsFrom (start + 1) (offset + (objectChunk start body).length) bodies

theorem chunksFrom_append (start : Nat) (a b : List JsString) :
    chunksFrom start (a ++ b) = chunksFrom start a ++ chunksFrom (start + a.length) b := by
  induction a generalizing start with
  | nil => rfl
  | cons body a ih =>
      rw [List.cons_append, chunksFrom, chunksFrom, ih, List.length_cons, Nat.add_assoc,
        Nat.add_comm 1]
      rfl

/-- An object's offset is the length of what stands before it. -/
theorem offset_eq (start : Nat) (before : JsString) {bodies : List JsString} {i : Nat}
    {body : JsString} (h : bodies[i]? = some body) :
    ∃ earlier later, before ++ (chunksFrom start bodies).flatten =
        earlier ++ objectChunk (start + i) body ++ later ∧
      (offsetsFrom start before.length bodies)[i]? = some earlier.length := by
  induction bodies generalizing start before i with
  | nil => cases h
  | cons first bodies ih =>
      cases i with
      | zero =>
          cases h
          exact ⟨before, (chunksFrom (start + 1) bodies).flatten,
            by rw [chunksFrom, List.flatten_cons, List.append_assoc]; rfl, rfl⟩
      | succ i =>
          obtain ⟨earlier, later, hsplit, hoffset⟩ :=
            ih (start + 1) (before ++ objectChunk start first) h
          refine ⟨earlier, later, ?_, ?_⟩
          · rw [chunksFrom, List.flatten_cons, ← List.append_assoc, hsplit, Nat.add_assoc,
              Nat.add_comm 1]
          · rw [List.length_append] at hoffset
            exact hoffset

/-- The loop writes every object there is. -/
theorem foldlM_writeObject {bodies : List JsString} (hholds : Holds objects start bodies)
    (written : Written) (hlength : start + bodies.length ≤ written.offsets.length) :
    (List.range' start bodies.length).foldlM (writeObject objects) written = .ok
      { chunks := written.chunks ++ chunksFrom start bodies
        offsets := written.offsets.take start ++
          offsetsFrom start written.byteOffset bodies ++
          written.offsets.drop (start + bodies.length)
        byteOffset := written.byteOffset + (chunksFrom start bodies).flatten.length } := by
  induction bodies generalizing start written with
  | nil =>
      change Except.ok written = _
      rw [chunksFrom, offsetsFrom, List.append_nil, List.append_nil, List.length_nil,
        Nat.add_zero, List.take_append_drop]
      rfl
  | cons body bodies ih =>
      rw [List.length_cons] at hlength
      have hbody : objects.get? start = some body := hholds 0 body rfl
      have hrest : Holds objects (start + 1) bodies := by
        intro i body' hbody'
        rw [Nat.add_assoc, Nat.add_comm 1]
        exact hholds (i + 1) body' hbody'
      have hstep : writeObject objects written start = .ok
          { chunks := written.chunks ++ [objectChunk start body]
            offsets := written.offsets.set start written.byteOffset
            byteOffset := written.byteOffset + (objectChunk start body).length } := by
        unfold writeObject
        rw [hbody]
        rfl
      rw [List.length_cons, List.range'_succ, List.foldlM_cons, Throwing.bind_of hstep,
        ih hrest _ (by rw [List.length_set]; omega)]
      have htake : (written.offsets.set start written.byteOffset).take (start + 1) =
          written.offsets.take start ++ [written.byteOffset] := by
        rw [List.take_succ_eq_append_getElem (by rw [List.length_set]; omega),
          List.getElem_set_self, List.take_set_of_le (Nat.le_refl _)]
      have hdrop : (written.offsets.set start written.byteOffset).drop
          (start + 1 + bodies.length) = written.offsets.drop (start + (bodies.length + 1)) := by
        rw [List.drop_set_of_lt (by omega), Nat.add_assoc, Nat.add_comm 1]
      dsimp only
      rw [htake, hdrop]
      simp only [chunksFrom, offsetsFrom, List.append_assoc, List.flatten_cons, List.length_append,
        Nat.add_assoc, List.cons_append, List.nil_append]

/-! ## The bytes -/

/-- The objects between the head and the table. -/
def fileBody (pages : List (List StyledLine)) (title : JsString) (module : ReportModule) :
    JsString :=
  fileHead ++ (chunksFrom 1 (bodies pages title module)).flatten

def fileOffsets (pages : List (List StyledLine)) (title : JsString) (module : ReportModule) :
    List Nat :=
  offsetsFrom 1 fileHead.length (bodies pages title module)

/-- The text whose bytes are the file. -/
def fileText (pages : List (List StyledLine)) (title : JsString) (module : ReportModule) :
    JsString :=
  fileBody pages title module ++ xrefSection (6 + pages.length * 2)
    (fileBody pages title module).length (0 :: fileOffsets pages title module)

/-- `parts.join("")` -/
theorem join_nil (parts : List JsString) : join [] parts = parts.flatten := by
  induction parts with
  | nil => rfl
  | cons part parts ih =>
      cases parts with
      | nil => exact (List.append_nil part).symm ▸ rfl
      | cons next parts =>
          rw [List.flatten_cons, ← ih]
          rfl

theorem mapIdx_eq_range {α β : Type} (f : Nat → β) (l : List α) :
    l.mapIdx (fun i _ => f i) = (List.range l.length).map f := by
  refine List.ext_getElem (by simp) fun i h h' => ?_
  simp

/-- **No object is missing.** -/
theorem buildPdf_eq (pages : List (List StyledLine)) (title : JsString) (module : ReportModule) :
    buildPdf pages title module = .ok (latin1 (fileText pages title module)) := by
  unfold buildPdf
  dsimp only
  rw [mapIdx_eq_range (fun index => 6 + index * 2) pages,
    mapIdx_eq_range (fun index => 7 + index * 2) pages]
  generalize hfixed : ((((OMap.empty.set 1 (catalogObject (6 + pages.length * 2))).set 2
    (pagesObject ((List.range pages.length).map fun index => 6 + index * 2) pages.length)).set 3
    fontObject).set 4 boldFontObject).set 5 (infoObject title) = fixed
  obtain ⟨objects, hset, hpages, hkeep⟩ := setPages_holds rfl rfl module 0
    (Nat.zero_add pages.length) fixed
  rw [Throwing.bind_of hset]
  have hset_keep : ∀ k < 6 + pages.length * 2,
      (objects.set (6 + pages.length * 2) structureRoot).get? k = objects.get? k :=
    fun k hk => OMap.get?_set_of_ne _ _ (by omega)
  have hfive : Holds fixed 1 [catalogObject (6 + pages.length * 2),
      pagesObject (pageNumbers pages.length) pages.length, fontObject, boldFontObject,
      infoObject title] := by
    subst hfixed
    refine .cons ?_ (.cons ?_ (.cons ?_ (.cons ?_ (.cons ?_ (holds_nil _ _))))) <;>
      simp [OMap.get?_set, pageNumbers]
  have hholds : Holds (objects.set (6 + pages.length * 2) structureRoot) 1
      (bodies pages title module) := by
    refine .append (.append ?_ ?_) ?_
    · refine hfive.congr fun k hk => ?_
      simp only [List.length_cons, List.length_nil] at hk
      rw [hset_keep k (by omega), hkeep k (by omega)]
    · refine hpages.congr fun k hk => hset_keep k ?_
      rw [length_pageBodies] at hk
      omega
    · refine .cons ?_ (holds_nil _ _)
      rw [List.length_append, length_pageBodies]
      simp only [List.length_cons, List.length_nil]
      rw [show 1 + (0 + 1 + 1 + 1 + 1 + 1 + 2 * pages.length) = 6 + pages.length * 2 by omega]
      exact OMap.get?_set_self _ _ _
  have hlength := length_bodies pages title module
  have hwrite := foldlM_writeObject hholds
    ⟨[fileHead], List.replicate (6 + pages.length * 2 + 1) 0, byteLength fileHead⟩
    (by rw [List.length_replicate, hlength]; omega)
  rw [hlength] at hwrite
  rw [Throwing.bind_of hwrite]
  have hoffsets : (List.replicate (6 + pages.length * 2 + 1) 0).take 1 ++
      offsetsFrom 1 fileHead.length (bodies pages title module) ++
      (List.replicate (6 + pages.length * 2 + 1) 0).drop (1 + (6 + pages.length * 2)) =
        0 :: fileOffsets pages title module := by
    rw [List.drop_eq_nil_of_le (by rw [List.length_replicate]; omega), List.append_nil]
    rfl
  have hbody : fileHead.length + (chunksFrom 1 (bodies pages title module)).flatten.length =
      (fileBody pages title module).length := by
    unfold fileBody
    rw [List.length_append]
  unfold fileText fileBody
  simp only [byteLength, hoffsets, hbody, join_nil, List.flatten_append, List.flatten_cons,
    List.flatten_nil, List.append_nil, List.append_assoc]
  rfl

variable {host : Js.Host} {digest : String → String} (runtime : Runtime)

/-- **Rendering.** An accepted report's commissioned module is rendered; its pages are those
of its lines, and its bytes those of the file of its pages. -/
theorem generateModulePdf_created {input : ReportSnapshotInput} {snapshot : ReportSnapshot}
    (hcreated : createReportSnapshot host digest input = .ok snapshot) {module : ReportModule}
    (hcommissioned : Commissioned snapshot module) :
    ∃ facts artifact,
      reportSemanticFacts host digest runtime snapshot (some module) = .ok facts ∧
      generateModulePdf runtime host digest snapshot module = .ok artifact ∧
      artifact.bytes = latin1 (fileText (modulePages runtime snapshot module facts)
        (reportTitle runtime snapshot module) module) ∧
      artifact.requiredText = requiredText facts ∧
      Paged (continuationHeader runtime snapshot module) (moduleLines snapshot module facts)
        (modulePages runtime snapshot module facts) := by
  obtain ⟨facts, hfacts, hpaged⟩ := modulePages_paged runtime hcreated module
  have hpdf := buildPdf_eq (modulePages runtime snapshot module facts)
    (reportTitle runtime snapshot module) module
  have hguard : ¬ ((module = .building ∧ snapshot.building.isNone) ∨
      (module = .timber_pest ∧ snapshot.timberPest.isNone)) := by
    rintro (⟨rfl, hnone⟩ | ⟨rfl, hnone⟩)
    · rw [Option.isNone_iff_eq_none] at hnone
      rw [Commissioned, hnone] at hcommissioned
      cases hcommissioned
    · rw [Option.isNone_iff_eq_none] at hnone
      rw [Commissioned, hnone] at hcommissioned
      cases hcommissioned
  refine ⟨facts, ?artifact, hfacts, ?run, ?bytes, ?text, hpaged⟩
  case run =>
    unfold generateModulePdf
    rw [if_neg hguard]
    change (reportSemanticFacts host digest runtime snapshot (some module) >>= _) = _
    rw [Throwing.bind_of hfacts]
    change (buildPdf (modulePages runtime snapshot module facts) _ module >>= _) = _
    rw [Throwing.bind_of hpdf]
    rfl
  case bytes => rfl
  case text => rfl

end InspectionHub.Reporting.Pdf
