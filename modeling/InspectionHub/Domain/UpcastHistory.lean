import InspectionHub.Domain.Upcasting

/-!
# What upcasting keeps of a stored history

A stored event and its draft in the current schema: the same event, of the
same aggregate and version, with the payload renamed. The type of the
aggregate comes out trimmed, as the current schema keeps it.
-/

namespace InspectionHub.Domain

open Contracts Schema

variable {env : Env}

/-! ## Accepted histories are contiguous -/

variable {v : JsVal}

theorem checkLink_ok {previous : Option JsVal} {index : Nat}
    (hindex : previous = none → index = 0) (h : checkLink previous v index = .ok ()) :
    MayFollow (previous.map eventIdentity) (eventIdentity v) := by
  obtain ⟨_, hversion, h⟩ := bind_ok h
  cases previous with
  | none => exact ⟨requireIntegrity_ok hversion (hindex rfl), trivial⟩
  | some p =>
      obtain ⟨_, hsame, h⟩ := bind_ok h
      obtain ⟨_, hnext, -⟩ := bind_ok h
      obtain ⟨horganization, htype, hid⟩ := requireIntegrity_ok hsame
      have hnext := requireIntegrity_ok hnext
      refine ⟨?_, trivial⟩
      rw [EventIdentity.next, ← horganization, ← htype, ← hid, ← hnext]

variable {events : List Document}

/-- The verified events of an accepted history have contiguous identities. -/
theorem verify_contiguous {state next : Option JsVal × Nat}
    (hindex : state.1 = none → state.2 = 0) (h : events.foldlM (verifyStep env) state = .ok next) :
    ∃ vs, List.Forall₂ (fun e v => VerifiedAs env e.val v) events vs ∧
      Contiguous (state.1.map eventIdentity) (vs.map eventIdentity) := by
  induction events generalizing state with
  | nil => exact ⟨[], .nil, by cases state.1 <;> trivial⟩
  | cons e events ih =>
      rw [List.foldlM_cons] at h
      obtain ⟨state', hstep, h⟩ := bind_ok h
      obtain ⟨v, hverify, hstep⟩ := bind_ok hstep
      obtain ⟨_, hlink, hstep⟩ := bind_ok hstep
      cases hstep
      obtain ⟨vs, hvs, hids⟩ := ih (fun hnone => by cases hnone) h
      have hfollow := checkLink_ok hindex hlink
      refine ⟨v :: vs, .cons (verifyStoredEvent_ok hverify) hvs, ?_⟩
      cases hprevious : state.1 with
      | none =>
          rw [hprevious] at hfollow
          exact ⟨hfollow.1, hids⟩
      | some p =>
          rw [hprevious] at hfollow
          exact ⟨hfollow.1, hids⟩

/-! ## What a stored event says -/

/-- The text under `key`, or what stands under `newKey` where there is none. -/
def renamed (m : Fields) (key newKey : String) (f : String → String) : Option JsVal :=
  match m.lookup key with
  | some (.str s) => some (.str (f s))
  | _ => m.lookup newKey

/-- What stands under a key that is renamed away when it holds text. -/
def leftover (m : Fields) (key : String) : Option JsVal :=
  match m.lookup key with
  | some (.str _) => none
  | other => other

/-- The name of a module in the current schema. -/
def currentModuleName (m : String) : String := if m = "pest" then "timber_pest" else m

/-- The metadata of a stored event, key by key, in the words of the current
schema: text under `moduleName` is the module tag and text under
`bookingState` the status. -/
def storedMetadata (event : JsVal) (k : String) : Option JsVal :=
  if isLegacy event then
    let m := spreadOf (event.get? "metadata")
    if k = "module" then renamed m "moduleName" "module" currentModuleName
    else if k = "moduleName" then leftover m "moduleName"
    else if k = "status" then renamed m "bookingState" "status" id
    else if k = "bookingState" then leftover m "bookingState"
    else m.lookup k
  else (event.get? "safeMetadata").bind fun m => m.get? k

/-- The type of a stored event, under its current name. -/
def storedEventType (event : JsVal) : Option String :=
  if isLegacy event then
    (event.str? "name").map fun name => (legacyEventNames.lookup name).getD name
  else event.str? "eventType"

/-- The protected artifacts a stored event refers to. -/
def storedArtifacts (event : JsVal) : Option JsVal :=
  if isLegacy event then event.get? "artifacts" else event.get? "protectedArtifactReferences"

/-- `c` is the stored event in the current schema. -/
structure Migrated (event c : JsVal) : Prop where
  current : c.int? "schemaVersion" = some 1
  eventId : c.str? "eventId" = event.str? "eventId"
  identity : eventIdentity c = (eventIdentity event).trimmed
  eventType : c.str? "eventType" = storedEventType event
  metadata : ∀ k, ((c.get? "safeMetadata").bind fun m => m.get? k) = storedMetadata event k
  artifacts : ∃ a b, c.get? "protectedArtifactReferences" = some a ∧
    storedArtifacts event = some b ∧ Same a b

/-- The event has a draft in the current schema. -/
def Upcasts (env : Env) (e : Document) : Prop := ∃ i draft, upcastDraft env e.val i = .ok draft

/-! ## Reading the input of a draft -/

variable {k : String}

theorem get?_pick (v : JsVal) {keys : List String} (hk : k ∈ keys) :
    (JsVal.obj (pick v keys)).get? k = v.get? k := by
  show (pick v keys).lookup k = v.get? k
  induction keys with
  | nil => cases hk
  | cons j keys ih =>
      rw [pick, List.filterMap_cons]
      by_cases hj : k = j
      · subst hj
        cases hv : v.get? k with
        | none =>
            -- the key is read again further on, to no avail
            refine Fields.lookup_eq_none fun hmem => ?_
            obtain ⟨x, hx, rfl⟩ := List.mem_map.mp hmem
            obtain ⟨j, -, hj⟩ := List.mem_filterMap.mp hx
            obtain ⟨w, hw, rfl⟩ := Option.map_eq_some_iff.mp hj
            rw [hv] at hw
            cases hw
        | some w => simp
      · have hrest := ih ((List.mem_cons.mp hk).resolve_left hj)
        cases v.get? j with
        | none => exact hrest
        | some w =>
            show List.lookup k ((j, w) :: pick v keys) = _
            rw [List.lookup_cons, beq_false_of_ne hj]
            exact hrest

theorem lookup_defined {l : List (String × Option JsVal)} (hl : (l.map Prod.fst).Nodup)
    {o : Option JsVal} (hk : (k, o) ∈ l) : (defined l).lookup k = o := by
  induction l with
  | nil => cases hk
  | cons q l ih =>
      obtain ⟨j, o'⟩ := q
      rw [List.map_cons, List.nodup_cons] at hl
      have hcons : defined ((j, o') :: l) =
          match o' with
          | some v => (j, v) :: defined l
          | none => defined l := by
        cases o' <;> rfl
      rw [hcons]
      rcases List.mem_cons.mp hk with heq | htail
      · cases heq
        cases o with
        | some v => simp
        | none =>
            refine Fields.lookup_eq_none fun hmem => hl.1 ?_
            obtain ⟨x, hx, rfl⟩ := List.mem_map.mp hmem
            obtain ⟨y, hy, hxy⟩ := List.mem_filterMap.mp hx
            obtain ⟨w, -, rfl⟩ := Option.map_eq_some_iff.mp hxy
            exact List.mem_map.mpr ⟨y, hy, rfl⟩
      · have hne : k ≠ j := by
          rintro rfl
          exact hl.1 (List.mem_map.mpr ⟨_, htail, rfl⟩)
        have hrest := ih hl.2 htail
        cases o' with
        | none => exact hrest
        | some v =>
            rw [List.lookup_cons, beq_false_of_ne hne]
            exact hrest

theorem lookup_renameString (m : Fields) {key newKey : String} (f : String → String)
    (hne : newKey ≠ key) (k : String) :
    (renameString m key newKey f).lookup k =
      if k = newKey then renamed m key newKey f
      else if k = key then leftover m key else m.lookup k := by
  by_cases htext : ∃ s, m.lookup key = some (.str s)
  · obtain ⟨s, hs⟩ := htext
    rw [renameString, renamed, leftover, hs]
    dsimp only
    by_cases hk : k = key
    · rw [hk, Fields.lookup_erase_self, if_neg (Ne.symm hne), if_pos rfl]
    · rw [Fields.lookup_erase_of_ne _ hk, Fields.lookup_assign, if_neg hk]
  · -- nothing is renamed, and all three cases read the metadata as it is
    have hrename : renameString m key newKey f = m := by
      unfold renameString
      split
      · next s hs => exact absurd ⟨s, hs⟩ htext
      · rfl
    have hleft : leftover m key = m.lookup key := by
      unfold leftover
      split
      · next s hs => exact absurd ⟨s, hs⟩ htext
      · rfl
    have hnew : renamed m key newKey f = m.lookup newKey := by
      unfold renamed
      split
      · next s hs => exact absurd ⟨s, hs⟩ htext
      · rfl
    rw [hrename, hleft, hnew]
    by_cases hk : k = newKey
    · rw [if_pos hk, hk]
    · by_cases hk' : k = key
      · rw [if_neg hk, if_pos hk', hk']
      · rw [if_neg hk, if_neg hk']

theorem legacyMetadata_lookup {event : JsVal} (hlegacy : isLegacy event = true) (k : String) :
    (legacyMetadata event).lookup k = storedMetadata event k := by
  have hfirst := lookup_renameString (spreadOf (event.get? "metadata")) currentModuleName
    (show "module" ≠ "moduleName" by decide)
  -- the second renaming reads what the first one left as it was
  have hstate : (renameString (spreadOf (event.get? "metadata")) "moduleName" "module"
      currentModuleName).lookup "bookingState" =
      (spreadOf (event.get? "metadata")).lookup "bookingState" := by
    rw [hfirst, if_neg (by decide), if_neg (by decide)]
  have hstatus : (renameString (spreadOf (event.get? "metadata")) "moduleName" "module"
      currentModuleName).lookup "status" =
      (spreadOf (event.get? "metadata")).lookup "status" := by
    rw [hfirst, if_neg (by decide), if_neg (by decide)]
  have hmetadata : legacyMetadata event = renameString (renameString
      (spreadOf (event.get? "metadata")) "moduleName" "module" currentModuleName)
      "bookingState" "status" id := rfl
  rw [hmetadata, lookup_renameString _ _ (show "status" ≠ "bookingState" by decide), hfirst,
    renamed, hstate, hstatus, leftover, hstate, storedMetadata, if_pos hlegacy]
  show (if k = "status" then renamed (spreadOf (event.get? "metadata")) "bookingState" "status" id
    else if k = "bookingState" then leftover (spreadOf (event.get? "metadata")) "bookingState"
    else _) = _
  by_cases h₁ : k = "status"
  · rw [h₁]
    simp
  · by_cases h₂ : k = "bookingState"
    · rw [h₂]
      simp
    · rw [if_neg h₁, if_neg h₂]
      by_cases h₃ : k = "module"
      · rw [if_pos h₃, if_pos h₃]
      · by_cases h₄ : k = "moduleName"
        · rw [if_neg h₃, if_pos h₄, if_neg h₃, if_pos h₄]
        · simp only [if_neg h₁, if_neg h₂, if_neg h₃, if_neg h₄]

/-! ## From the input of a draft to the draft -/

/-- What parsing as a current event keeps: all but the white space around the
aggregate's type. -/
structure ReadsAs (x d : JsVal) : Prop where
  current : d.int? "schemaVersion" = some 1
  str : ∀ k ∈ ["eventId", "eventType", "organizationId"], d.str? k = x.str? k
  aggregateType : d.strAt? ["aggregate", "type"] = (x.strAt? ["aggregate", "type"]).map Js.trim
  aggregateId : d.strAt? ["aggregate", "id"] = x.strAt? ["aggregate", "id"]
  version : d.int? "aggregateVersion" = x.int? "aggregateVersion"
  metadata : d.get? "safeMetadata" = x.get? "safeMetadata"
  artifacts : ∃ a b, d.get? "protectedArtifactReferences" = some a ∧
    x.get? "protectedArtifactReferences" = some b ∧ Same a b

variable {x d : JsVal}

theorem readsAs_of {fmt : Formats} {f : List (String × Schema)} (hf : (f.map Prod.fst).Nodup)
    (hsub : ∀ a ∈ eventDraftFields fmt, a ∈ f) (hx : x.plain = true)
    (h : strictObject f x = .ok d) : ReadsAs x d := by
  have get : ∀ {k : String} {s : Schema}, (k, s) ∈ eventDraftFields fmt →
      ∃ y z, x.get? k = some y ∧ d.get? k = some z ∧ s y = .ok z :=
    fun hk => strictObject_get hf h (hsub _ hk)
  have str : ∀ {k : String} {s : Schema}, (k, s) ∈ eventDraftFields fmt → Exact s →
      d.str? k = x.str? k := fun hk hs => strictObject_str? hf (hsub _ hk) hs h
  refine ⟨?_, ?_, ?_, ?_, ?_, ?_, ?_⟩
  · obtain ⟨y, z, -, hz, hyz⟩ := get (k := "schemaVersion") (s := literalInt 1)
      (by simp [eventDraftFields])
    rw [JsVal.int?, hz, (literalInt_ok hyz).2]
  · intro k hk
    simp only [List.mem_cons, List.not_mem_nil, or_false] at hk
    rcases hk with rfl | rfl | rfl
    · exact str (by simp [eventDraftFields]) (exact_id fmt)
    · exact str (by simp [eventDraftFields]) exact_eventType
    · exact str (by simp [eventDraftFields]) (exact_id fmt)
  · obtain ⟨y, z, hy, hz, hyz⟩ := get (k := "aggregate") (s := aggregateSchema fmt)
      (by simp [eventDraftFields])
    obtain ⟨t, u, ht, hu, htu⟩ := strictObject_get (by simp) hyz (k := "type")
      (s := trimmedText 100) List.mem_cons_self
    obtain ⟨text, rfl, rfl⟩ := trimmedText_ok htu
    simp [JsVal.strAt?, hy, hz, JsVal.str?, ht, hu]
  · obtain ⟨y, z, hy, hz, hyz⟩ := get (k := "aggregate") (s := aggregateSchema fmt)
      (by simp [eventDraftFields])
    have hid : z.str? "id" = y.str? "id" :=
      strictObject_str? (by simp) (List.mem_cons_of_mem _ List.mem_cons_self) (exact_id fmt) hyz
    show (d.get? "aggregate").bind (fun w => w.str? "id") =
      (x.get? "aggregate").bind fun w => w.str? "id"
    rw [hy, hz]
    exact hid
  · obtain ⟨y, z, hy, hz, hyz⟩ := get (k := "aggregateVersion") (s := int positive)
      (by simp [eventDraftFields])
    rw [JsVal.int?, JsVal.int?, hy, hz, exact_int positive y z hyz]
  · obtain ⟨y, z, hy, hz, hyz⟩ := get (k := "safeMetadata") (s := safeMetadataSchema)
      (by simp [eventDraftFields])
    rw [hy, hz, exact_safeMetadata y z hyz]
  · obtain ⟨y, z, hy, hz, hyz⟩ := get (k := "protectedArtifactReferences")
      (s := array (artifactReferenceSchema fmt) anySize) (by simp [eventDraftFields])
    exact ⟨z, y, hz, hy, lossless_array (lossless_artifactReference fmt) y z
      (JsVal.plain_get? hx hy) hyz⟩

theorem ReadsAs.isLegacy (h : ReadsAs x d) : isLegacy d = false := by
  rw [Domain.isLegacy, h.current]
  rfl

theorem ReadsAs.identity (h : ReadsAs x d) :
    eventIdentity d =
      { organizationId := x.str? "organizationId"
        aggregateType := (x.strAt? ["aggregate", "type"]).map Js.trim
        aggregateId := x.strAt? ["aggregate", "id"]
        aggregateVersion := x.int? "aggregateVersion" } := by
  rw [eventIdentity_current h.isLegacy, h.str _ (by simp), h.aggregateType, h.aggregateId,
    h.version]

/-! ## Plain inputs -/

theorem plain_pick (hv : v.plain = true) {keys : List String} (hkeys : keys.Nodup)
    (hproto : "__proto__" ∉ keys) : (JsVal.obj (pick v keys)).plain = true := by
  have hsub : Fields.keys (pick v keys) = keys.filter fun k => (v.get? k).isSome := by
    rw [pick, Fields.keys, List.map_filterMap]
    induction keys with
    | nil => rfl
    | cons k keys ih =>
        have hrest := ih (List.nodup_cons.mp hkeys).2 fun h => hproto (List.mem_cons_of_mem _ h)
        rw [List.filterMap_cons, List.filter_cons]
        cases v.get? k with
        | none => exact hrest
        | some w =>
            show k :: _ = k :: _
            rw [hrest]
  rw [JsVal.plain_obj_iff, hsub]
  refine ⟨hkeys.filter _, fun h => hproto (List.mem_of_mem_filter h), fun x hx => ?_⟩
  obtain ⟨k, -, hk⟩ := List.mem_filterMap.mp hx
  obtain ⟨w, hw, rfl⟩ := Option.map_eq_some_iff.mp hk
  exact JsVal.plain_get? hv hw

theorem plain_defined {l : List (String × Option JsVal)} (hkeys : (l.map Prod.fst).Nodup)
    (hproto : "__proto__" ∉ l.map Prod.fst)
    (hvals : ∀ x ∈ l, ∀ v, x.2 = some v → v.plain = true) :
    (JsVal.obj (defined l)).plain = true := by
  have hsub : (Fields.keys (defined l)).Sublist (l.map Prod.fst) := by
    rw [defined, Fields.keys, List.map_filterMap]
    clear hkeys hproto hvals
    induction l with
    | nil => exact .slnil
    | cons x l ih =>
        obtain ⟨k, o⟩ := x
        cases o with
        | none => exact ih.cons _
        | some v => exact ih.cons_cons _
  rw [JsVal.plain_obj_iff]
  refine ⟨hkeys.sublist hsub, fun h => hproto (hsub.subset h), fun x hx => ?_⟩
  obtain ⟨y, hy, hxy⟩ := List.mem_filterMap.mp hx
  obtain ⟨w, hw, rfl⟩ := Option.map_eq_some_iff.mp hxy
  exact hvals y hy w hw

theorem plain_erase {m : Fields} (hm : (JsVal.obj m).plain = true) (k : String) :
    (JsVal.obj (m.erase k)).plain = true := by
  obtain ⟨hkeys, hproto, hvals⟩ := (JsVal.plain_obj_iff m).mp hm
  rw [JsVal.plain_obj_iff]
  refine ⟨Fields.nodup_erase hkeys k, fun h => hproto ?_, fun x hx => ?_⟩
  · rw [Fields.keys_erase] at h
    exact List.mem_of_mem_filter h
  · exact hvals x (List.mem_of_mem_filter hx)

theorem plain_renameString {m : Fields} (hm : (JsVal.obj m).plain = true) (key : String)
    {newKey : String} (hnew : newKey ≠ "__proto__") (f : String → String) :
    (JsVal.obj (renameString m key newKey f)).plain = true := by
  unfold renameString
  split
  · exact plain_erase (JsVal.plain_assign hm hnew rfl) key
  · exact hm

theorem plain_spreadOf {v : Option JsVal} (hv : ∀ x, v = some x → x.plain = true) :
    (JsVal.obj (spreadOf v)).plain = true := by
  unfold spreadOf
  split
  · next m => exact hv _ rfl
  · next l =>
      have hl := JsVal.plain_arr (hv _ rfl)
      have hkeys : Fields.keys (l.mapIdx fun i v => (String.ofList (Json.natText i), v)) =
          (List.range l.length).map fun i => String.ofList (Json.natText i) := by
        refine List.ext_getElem (by simp [Fields.keys]) fun i hi hi' => ?_
        simp [Fields.keys]
      rw [JsVal.plain_obj_iff, hkeys]
      refine ⟨?_, ?_, fun x hx => ?_⟩
      · refine List.nodup_range.map fun i j hij => ?_
        exact Json.natText_injective (String.ofList_injective hij)
      · intro hproto
        obtain ⟨i, -, hi⟩ := List.mem_map.mp hproto
        have hchars := congrArg String.toList hi
        rw [String.toList_ofList] at hchars
        have hdigit := Json.natText_isDigit i '_' (by rw [hchars]; decide)
        exact absurd hdigit (by decide)
      · obtain ⟨i, hi, rfl⟩ := List.mem_iff_getElem.mp hx
        rw [List.getElem_mapIdx]
        exact hl _ (List.getElem_mem _)
  · rfl

/-! ## The draft of a stored event -/

theorem EventIdentity.trimmed_trimmed (i : EventIdentity) : i.trimmed.trimmed = i.trimmed := by
  have htrim : (Js.trim ∘ Js.trim) = Js.trim := funext Js.trim_trim
  rw [EventIdentity.trimmed, EventIdentity.trimmed, Option.map_map, htrim]

/-- The object `upcastLegacyV0` parses, property by property. -/
def legacyInput (event : JsVal) : List (String × Option JsVal) :=
  let stream := (event.get? "stream").getD .null
  let actorId :=
    if event.str? "actorKind" = some "system" then some .null else event.get? "actorId"
  [("schemaVersion", some (1 : Int)), ("eventId", event.get? "eventId"),
    ("eventType", (((event.str? "name").bind fun n => legacyEventNames.lookup n).orElse
      fun _ => event.str? "name").map .str),
    ("organizationId", event.get? "tenantId"),
    ("aggregate", some (.obj (defined [("type", stream.get? "name"), ("id", stream.get? "id")]))),
    ("aggregateVersion", event.get? "sequence"), ("sessionId", event.get? "sessionId"),
    ("actor", some (.obj (defined [("type", event.get? "actorKind"), ("id", actorId)]))),
    ("clientOccurredAt", event.get? "occurredAt"), ("serverRecordedAt", event.get? "recordedAt"),
    ("idempotencyKey", event.get? "deduplicationKey"),
    ("safeMetadata", some (.obj (legacyMetadata event))),
    ("protectedArtifactReferences", event.get? "artifacts"),
    ("correlationId", event.get? "traceId"), ("causationId", event.get? "parentEventId")]

theorem upcastLegacyV0_eq (event : JsVal) :
    upcastLegacyV0 env event =
      eventDraftV1Schema env.formats (.obj (defined (legacyInput event))) := rfl

theorem legacyInput_keys (event : JsVal) :
    (legacyInput event).map Prod.fst =
      ["schemaVersion", "eventId", "eventType", "organizationId", "aggregate", "aggregateVersion",
        "sessionId", "actor", "clientOccurredAt", "serverRecordedAt", "idempotencyKey",
        "safeMetadata", "protectedArtifactReferences", "correlationId", "causationId"] := rfl

theorem legacyInput_get? (event : JsVal) {o : Option JsVal} (hk : (k, o) ∈ legacyInput event) :
    (JsVal.obj (defined (legacyInput event))).get? k = o :=
  lookup_defined (by rw [legacyInput_keys]; decide) hk

theorem plain_pair {k k' : String} {o o' : Option JsVal} (hk : k ≠ k') (h : k ≠ "__proto__")
    (h' : k' ≠ "__proto__") (ho : ∀ x, o = some x → x.plain = true)
    (ho' : ∀ x, o' = some x → x.plain = true) :
    (JsVal.obj (defined [(k, o), (k', o')])).plain = true := by
  refine plain_defined (by simp [hk]) (by simp [Ne.symm h, Ne.symm h']) fun x hx => ?_
  rcases List.mem_cons.mp hx with rfl | hx
  · exact ho
  · rw [List.mem_singleton.mp hx]
    exact ho'

theorem plain_legacyInput {event : JsVal} (h : event.plain = true) :
    (JsVal.obj (defined (legacyInput event))).plain = true := by
  have prop : ∀ k x, event.get? k = some x → x.plain = true := fun k x hx => JsVal.plain_get? h hx
  have hmetadata : (JsVal.obj (legacyMetadata event)).plain = true :=
    plain_renameString (plain_renameString (plain_spreadOf (prop "metadata")) _ (by decide) _) _
      (by decide) _
  have hstream : ∀ k x, ((event.get? "stream").getD .null).get? k = some x → x.plain = true := by
    intro k x hx
    cases hs : event.get? "stream" with
    | none =>
        rw [hs] at hx
        cases hx
    | some v =>
        rw [hs] at hx
        exact JsVal.plain_get? (prop _ _ hs) hx
  have hactor : ∀ x, (if event.str? "actorKind" = some "system" then some JsVal.null
      else event.get? "actorId") = some x → x.plain = true := by
    intro x hx
    split at hx
    · rw [← Option.some.inj hx]
      rfl
    · exact prop _ x hx
  refine plain_defined (by rw [legacyInput_keys]; decide) (by rw [legacyInput_keys]; decide) ?_
  intro q hq v hv
  simp only [legacyInput, List.mem_cons, List.not_mem_nil, or_false] at hq
  rcases hq with rfl | rfl | rfl | rfl | rfl | rfl | rfl | rfl | rfl | rfl | rfl | rfl | rfl |
    rfl | rfl
  · rw [← Option.some.inj hv]
    rfl
  · exact prop _ v hv
  · obtain ⟨t, -, rfl⟩ := Option.map_eq_some_iff.mp hv
    rfl
  · exact prop _ v hv
  · rw [← Option.some.inj hv]
    exact plain_pair (by decide) (by decide) (by decide) (hstream _) (hstream _)
  · exact prop _ v hv
  · exact prop _ v hv
  · rw [← Option.some.inj hv]
    exact plain_pair (by decide) (by decide) (by decide) (prop _) hactor
  · exact prop _ v hv
  · exact prop _ v hv
  · exact prop _ v hv
  · rw [← Option.some.inj hv]
    exact hmetadata
  · exact prop _ v hv
  · exact prop _ v hv
  · exact prop _ v hv

/-- A legacy event and its draft. -/
theorem migrated_legacy {event : JsVal} (hevent : event.plain = true)
    (hlegacy : isLegacy event = true) {d : JsVal} (h : upcastLegacyV0 env event = .ok d) :
    Migrated event d := by
  rw [upcastLegacyV0_eq] at h
  have hreads := readsAs_of (eventDraftFields_nodup env.formats) (fun a ha => ha)
    (plain_legacyInput hevent) h
  have hstream : ∀ k, ((event.get? "stream").getD .null).str? k = event.strAt? ["stream", k] := by
    intro k
    show _ = (event.get? "stream").bind fun w => w.str? k
    cases event.get? "stream" <;> rfl
  have hid := legacyInput_get? event (k := "eventId") (by simp [legacyInput]; rfl)
  have htype := legacyInput_get? event (k := "eventType") (by simp [legacyInput]; rfl)
  have horganization := legacyInput_get? event (k := "organizationId") (by simp [legacyInput]; rfl)
  have haggregate := legacyInput_get? event (k := "aggregate") (by simp [legacyInput]; rfl)
  have hversion := legacyInput_get? event (k := "aggregateVersion") (by simp [legacyInput]; rfl)
  have hmetadata := legacyInput_get? event (k := "safeMetadata") (by simp [legacyInput]; rfl)
  have hartifacts := legacyInput_get? event (k := "protectedArtifactReferences")
    (by simp [legacyInput]; rfl)
  have hpart : ∀ k o, (k, o) ∈ [("type", ((event.get? "stream").getD .null).get? "name"),
      ("id", ((event.get? "stream").getD .null).get? "id")] →
      (JsVal.obj (defined (legacyInput event))).strAt? ["aggregate", k] =
        match o with
        | some (.str s) => some s
        | _ => none := by
    intro k o hk
    show ((JsVal.obj (defined (legacyInput event))).get? "aggregate").bind
      (fun w => w.str? k) = _
    rw [haggregate]
    show (match (defined _).lookup k with | some (.str s) => some s | _ => none) = _
    rw [lookup_defined (by simp) hk]
  refine ⟨hreads.current, ?_, ?_, ?_, ?_, ?_⟩
  · rw [hreads.str _ (by simp), JsVal.str?, JsVal.str?, hid]
  · rw [hreads.identity, eventIdentity, if_pos hlegacy, EventIdentity.trimmed]
    have h₁ := hpart "type" _ List.mem_cons_self
    have h₂ := hpart "id" _ (List.mem_cons_of_mem _ List.mem_cons_self)
    rw [h₁, h₂, JsVal.str?, horganization, JsVal.int?, hversion, ← hstream, ← hstream]
    rfl
  · rw [hreads.str _ (by simp), JsVal.str?, htype, storedEventType, if_pos hlegacy]
    cases event.str? "name" with
    | none => rfl
    | some name =>
        rw [Option.bind_some, Option.map_some]
        cases legacyEventNames.lookup name <;> rfl
  · intro k
    rw [hreads.metadata, hmetadata]
    exact legacyMetadata_lookup hlegacy k
  · obtain ⟨x, y, hx, hy, hsame⟩ := hreads.artifacts
    refine ⟨x, y, hx, ?_, hsame⟩
    rw [storedArtifacts, if_pos hlegacy, ← hy, hartifacts]

/-- A current event and its draft. -/
theorem migrated_current {event : JsVal} (hevent : event.plain = true)
    (hcurrent : isLegacy event = false) {d : JsVal} (h : currentDraft env event = .ok d) :
    Migrated event d := by
  have hlegacy : ¬ isLegacy event = true := by simp [hcurrent]
  have hreads := readsAs_of (eventDraftFields_nodup env.formats) (fun a ha => ha)
    (plain_pick hevent (by simp) (by simp)) h
  have get : ∀ k ∈ ["schemaVersion", "eventId", "eventType", "organizationId", "aggregate",
      "aggregateVersion", "sessionId", "actor", "clientOccurredAt", "serverRecordedAt",
      "idempotencyKey", "safeMetadata", "protectedArtifactReferences", "correlationId",
      "causationId"], _ := fun k hk => get?_pick event hk
  refine ⟨hreads.current, ?_, ?_, ?_, ?_, ?_⟩
  · rw [hreads.str _ (by simp), JsVal.str?, JsVal.str?, get _ (by simp)]
  · rw [hreads.identity, eventIdentity_current hcurrent, EventIdentity.trimmed]
    simp only [JsVal.strAt?, JsVal.str?, JsVal.int?]
    rw [get _ (by simp), get _ (by simp), get _ (by simp)]
  · rw [hreads.str _ (by simp), storedEventType, if_neg hlegacy, JsVal.str?, JsVal.str?,
      get _ (by simp)]
  · intro k
    rw [hreads.metadata, storedMetadata, if_neg hlegacy, get _ (by simp)]
  · obtain ⟨x, y, hx, hy, hsame⟩ := hreads.artifacts
    refine ⟨x, y, hx, ?_, hsame⟩
    rw [storedArtifacts, if_neg hlegacy, ← hy, get _ (by simp)]

/-- What verification passes on has the identity of the stored event, but for
the white space a current event's type loses. -/
theorem VerifiedAs.identity {e : Document} (h : VerifiedAs env e.val v) :
    (eventIdentity v).trimmed = (eventIdentity e.val).trimmed := by
  rcases h.form with ⟨-, rfl⟩ | ⟨hcurrent, hparse⟩
  · rfl
  · have hreads := readsAs_of (eventEnvelopeFields_nodup env.formats)
      (fun a ha => List.mem_append_left _ ha) e.plain hparse
    have hidentity : eventIdentity v = (eventIdentity e.val).trimmed := by
      rw [hreads.identity, eventIdentity_current hcurrent]
      rfl
    rw [hidentity, EventIdentity.trimmed_trimmed]

/-- The draft of a stored event that has one. -/
theorem exists_draft {e : Document} (h : Upcasts env e) :
    ∃ l, IsDraft env.formats l ∧ (∀ i, upcastDraft env e.val i = .ok (.obj l)) ∧
      Migrated e.val (.obj l) := by
  obtain ⟨i, d, hd⟩ := h
  have hparsed : (if isLegacy e.val then upcastLegacyV0 env e.val else currentDraft env e.val) =
      .ok d := by
    unfold upcastDraft at hd
    split at hd
    · next d' heq =>
        rw [heq]
        exact congrArg Except.ok (Except.ok.inj hd)
    · cases hd
  have hagain : ∀ i, upcastDraft env e.val i = .ok d := by
    intro i
    rw [upcastDraft, hparsed]
  by_cases hlegacy : isLegacy e.val = true
  · rw [if_pos hlegacy] at hparsed
    have hmigrated := migrated_legacy e.plain hlegacy hparsed
    rw [upcastLegacyV0_eq] at hparsed
    obtain ⟨l, rfl, hl⟩ := eventDraft_parsed env.formats (plain_legacyInput e.plain) hparsed
    exact ⟨l, hl, hagain, hmigrated⟩
  · rw [if_neg hlegacy] at hparsed
    have hmigrated := migrated_current e.plain (Bool.eq_false_iff.mpr hlegacy) hparsed
    obtain ⟨l, rfl, hl⟩ := eventDraft_parsed env.formats
      (plain_pick e.plain (by simp) (by simp)) hparsed
    exact ⟨l, hl, hagain, hmigrated⟩

/-- Sealing keeps what migrating gave. -/
theorem Migrated.envelope {event : JsVal} {l : Fields} (hl : IsDraft env.formats l)
    (h : Migrated event (.obj l)) (p : JsVal) :
    Migrated event (.obj (envelope env l p)) where
  current := by
    rw [envelope_int? l p (by simp)]
    exact h.current
  eventId := by
    rw [envelope_str? l p (by simp)]
    exact h.eventId
  identity := by
    rw [eventIdentity_envelope hl]
    exact h.identity
  eventType := by
    rw [envelope_str? l p (by simp)]
    exact h.eventType
  metadata k := by
    rw [envelope_get? l p (by simp)]
    exact h.metadata k
  artifacts := by
    rw [envelope_get? l p (by simp)]
    exact h.artifacts

/-! ## The chain as stored documents -/

variable {p : JsVal}

theorem plain_link (hp : IsLink p) : p.plain = true := by
  cases p with
  | null => rfl
  | str s => rfl
  | _ => cases hp

theorem plain_envelope {l : Fields} (hl : IsDraft env.formats l) (hp : IsLink p)
    (hdigest : HexDigest env) : (JsVal.obj (envelope env l p)).plain = true := by
  have hfits := envelope_fits hdigest hl hp
  have hkeys := hfits.keys
  rw [JsVal.plain_obj_iff, hkeys]
  refine ⟨eventEnvelopeFields_nodup _, by simp [eventEnvelopeFields, eventDraftFields],
    fun x hx => ?_⟩
  rw [Domain.envelope, sealed, List.append_assoc] at hx
  rcases List.mem_append.mp hx with hx | hx
  · exact (JsVal.plain_obj hl.plain).2 x hx
  · simp only [List.cons_append, List.nil_append, List.mem_cons, List.not_mem_nil, or_false] at hx
    rcases hx with rfl | rfl | rfl
    · rfl
    · exact plain_link hp
    · rfl

variable {ls : List Fields}

theorem exists_documents (hdigest : HexDigest env) (hls : ∀ l ∈ ls, IsDraft env.formats l)
    (hp : IsLink p) : ∃ docs : List Document, docs.map Document.val = chainFrom env p ls := by
  induction ls generalizing p with
  | nil => exact ⟨[], rfl⟩
  | cons l ls ih =>
      have hl := hls l List.mem_cons_self
      obtain ⟨docs, hdocs⟩ := ih (fun x hx => hls x (List.mem_cons_of_mem _ hx))
        (isLink_hash hdigest _)
      refine ⟨⟨_, plain_envelope hl hp hdigest⟩ :: docs, ?_⟩
      rw [List.map_cons, hdocs]
      rfl

variable (env) in
theorem chainFrom_migrated (p : JsVal)
    (h : List.Forall₂ (fun e l => IsDraft env.formats l ∧ Migrated e.val (.obj l)) events ls) :
    List.Forall₂ (fun e c => Migrated e.val c) events (chainFrom env p ls) := by
  induction h generalizing p with
  | nil => exact .nil
  | cons he _ ih => exact .cons (he.2.envelope he.1 p) (ih _)

theorem chainFrom_identities (hls : ∀ l ∈ ls, IsDraft env.formats l) (p : JsVal) :
    (chainFrom env p ls).map eventIdentity = identities ls := by
  induction ls generalizing p with
  | nil => rfl
  | cons l ls ih =>
      rw [chainFrom, List.map_cons, ih fun x hx => hls x (List.mem_cons_of_mem _ hx),
        eventIdentity_envelope (hls l List.mem_cons_self)]
      rfl

/-- The drafts of the documents of a chain are those it was made of. -/
theorem chainFrom_drafts (hls : ∀ l ∈ ls, IsDraft env.formats l) {docs : List Document}
    (hdocs : docs.map Document.val = chainFrom env p ls) :
    List.Forall₂ (fun e l => IsDraft env.formats l ∧ ∀ i, upcastDraft env e.val i = .ok (.obj l))
      docs ls := by
  induction ls generalizing p docs with
  | nil =>
      rw [chainFrom, List.map_eq_nil_iff] at hdocs
      rw [hdocs]
      exact .nil
  | cons l ls ih =>
      rw [chainFrom, List.map_eq_cons_iff] at hdocs
      obtain ⟨d, docs, rfl, hd, hdocs⟩ := hdocs
      have hl := hls l List.mem_cons_self
      refine .cons ⟨hl, fun i => ?_⟩ (ih (fun x hx => hls x (List.mem_cons_of_mem _ hx)) hdocs)
      rw [hd]
      exact upcastDraft_envelope hl p i

/-- Contiguous drafts are rebuilt into the chain of their envelopes. -/
theorem upcastEventStream_of (hdigest : HexDigest env)
    (hok : verifyStoredEventChain env events = .ok ())
    (hdrafts : List.Forall₂ (fun e l => IsDraft env.formats l ∧
      ∀ i, upcastDraft env e.val i = .ok (.obj l)) events ls)
    (hids : Contiguous none (identities ls)) :
    upcastEventStream env events = .ok (chainFrom env .null ls) := by
  rw [upcastEventStream, bind_of hok, bind_of (upcast_fold hdigest hdrafts .start hids),
    List.append_nil, List.reverse_reverse]
  rfl

/-- The drafts of an accepted history whose events have them are contiguous. -/
theorem contiguous_drafts (hok : verifyStoredEventChain env events = .ok ())
    (hup : ∀ e ∈ events, Upcasts env e) :
    ∃ ls : List Fields, List.Forall₂ (fun e l => IsDraft env.formats l ∧
      (∀ i, upcastDraft env e.val i = .ok (.obj l)) ∧ Migrated e.val (.obj l)) events ls ∧
      Contiguous none (identities ls) := by
  obtain ⟨s, hs⟩ := verifyStoredEventChain_ok hok
  obtain ⟨vs, hvs, hcontiguous⟩ := verify_contiguous (fun _ => rfl) hs
  have hdrafts : ∃ ls : List Fields, List.Forall₂ (fun e l => IsDraft env.formats l ∧
      (∀ i, upcastDraft env e.val i = .ok (.obj l)) ∧ Migrated e.val (.obj l)) events ls ∧
      identities ls = (vs.map eventIdentity).map (·.trimmed) := by
    clear hcontiguous hs hok
    induction hvs with
    | nil => exact ⟨[], .nil, rfl⟩
    | @cons e v events vs hv _ ih =>
        obtain ⟨ls, hls, hids⟩ := ih fun x hx => hup x (List.mem_cons_of_mem _ hx)
        obtain ⟨l, hl, hdraft, hmigrated⟩ := exists_draft (hup e List.mem_cons_self)
        refine ⟨l :: ls, .cons ⟨hl, hdraft, hmigrated⟩ hls, ?_⟩
        rw [identities, List.map_cons, hmigrated.identity, ← hv.identity]
        show _ :: identities ls = _
        rw [hids]
        rfl
  obtain ⟨ls, hls, hids⟩ := hdrafts
  refine ⟨ls, hls, ?_⟩
  rw [hids]
  exact hcontiguous.trimmed

variable (env) in
/-- **Upcasting preserves the history.** An accepted history whose events have
drafts is rebuilt, event by event, into a chain that verifies and that
upcasting returns unchanged. -/
theorem upcast_preserves_history (hdigest : HexDigest env) {events : List Document}
    (hok : verifyStoredEventChain env events = .ok ()) (hup : ∀ e ∈ events, Upcasts env e) :
    ∃ chain, upcastEventStream env events = .ok chain ∧ chain.length = events.length ∧
      verifyEventChain env chain = .ok () ∧
      List.Forall₂ (fun e c => Migrated e.val c) events chain ∧
      (∀ (k : Nat) c, chain[k]? = some c → c.int? "aggregateVersion" = some ((k : Int) + 1)) ∧
      ∃ docs : List Document, docs.map Document.val = chain ∧
        upcastEventStream env docs = .ok chain := by
  obtain ⟨ls, hls, hcontiguous⟩ := contiguous_drafts hok hup
  have hall : ∀ l ∈ ls, IsDraft env.formats l := by
    intro l hl
    obtain ⟨i, hi, rfl⟩ := List.mem_iff_getElem.mp hl
    exact (hls.get (by rw [hls.length_eq]; exact hi) hi).1
  have hmigrated := chainFrom_migrated env .null (hls.imp fun _ _ h => ⟨h.1, h.2.2⟩)
  obtain ⟨docs, hdocs⟩ := exists_documents hdigest hall (p := .null) rfl
  refine ⟨chainFrom env .null ls, ?_, hmigrated.length_eq.symm, ?_, hmigrated, ?_, docs, hdocs, ?_⟩
  · exact upcastEventStream_of hdigest hok (hls.imp fun _ _ h => ⟨h.1, h.2.1⟩) hcontiguous
  · obtain ⟨t, ht⟩ := verifyEvent_fold hdigest hall (fun _ => rfl) .start hcontiguous
    rw [verifyEventChain, ht]
    rfl
  · intro k c hc
    have hidentity : (identities ls)[k]? = some (eventIdentity c) := by
      rw [← chainFrom_identities hall .null, List.getElem?_map, hc]
      rfl
    have hversion := hcontiguous.versions hidentity
    obtain ⟨hk, hget⟩ := List.getElem?_eq_some_iff.mp hc
    have hcurrent : c.int? "schemaVersion" = some 1 := by
      rw [← hget]
      exact (hmigrated.get (by rwa [hmigrated.length_eq]) hk).current
    rwa [eventIdentity_current (by rw [isLegacy, hcurrent]; rfl)] at hversion
  · obtain ⟨t, ht⟩ := verify_fold hdigest hall (fun _ => rfl) .start hcontiguous hdocs
    have hok' : verifyStoredEventChain env docs = .ok () := by
      rw [verifyStoredEventChain, verifyLoop, ht]
      rfl
    exact upcastEventStream_of hdigest hok' (chainFrom_drafts hall hdocs) hcontiguous

/-! ## White space before the aggregate's type

A stored event whose aggregate type has a space before it is accepted, and
comes out of upcasting without the space.
-/

namespace PaddedKey

/-- SHA-256 of the texts hashed here, in hexadecimal digits throughout. -/
def hexHost : Env :=
  { host with digest := fun text =>
      if Js.isHexDigest (digestOf digests text) then digestOf digests text else payloadHash }

theorem hexHost_digest : HexDigest hexHost := by
  intro text
  simp only [hexHost]
  split
  · assumption
  · decide

theorem sha256_hexHost {hash : String} (h : sha256 host v = hash)
    (hhex : Js.isHexDigest hash = true) : sha256 hexHost v = hash := by
  rw [sha256_host] at h
  simp only [sha256, hexHost]
  rw [h, if_pos hhex]

def paddedType : Document :=
  ⟨(stored "booking-1").assign "aggregate" (.obj
    [("type", .str " inspection"), ("id", .str "20000000-0000-4000-8000-000000000002")]), by decide⟩

theorem accepted_hex {d : Document} (hversion : isLegacy d.val = false)
    (hparse : eventEnvelopeV1Schema hexHost.formats d.val = .ok event.val) :
    verifyStoredEventChain hexHost [d] = .ok () :=
  accepted (sha256_hexHost sha256_payload (by decide))
    (sha256_hexHost sha256_hashedFields (by decide)) hversion hparse

theorem upcasts_event : Upcasts hexHost event := ⟨0, .obj (fieldsWith "booking-1"), rfl⟩

theorem upcasts_paddedType : Upcasts hexHost paddedType :=
  ⟨0, .obj (fieldsWith "booking-1"), rfl⟩

/-- The upcast chain of the stored event. -/
theorem upcast_preserves_event : ∃ chain, upcastEventStream hexHost [event] = .ok chain ∧
    chain.length = 1 ∧ verifyEventChain hexHost chain = .ok () := by
  obtain ⟨chain, hchain, hlength, hverify, -⟩ := upcast_preserves_history hexHost hexHost_digest
    (accepted_hex (d := event) rfl rfl)
    (fun e he => List.mem_singleton.mp he ▸ upcasts_event)
  exact ⟨chain, hchain, hlength, hverify⟩

/-- The type of the aggregate is not the one stored. -/
theorem aggregate_type_trimmed : verifyStoredEventChain hexHost [paddedType] = .ok () ∧
    Upcasts hexHost paddedType ∧ ∃ c, upcastEventStream hexHost [paddedType] = .ok [c] ∧
      c.strAt? ["aggregate", "type"] ≠ paddedType.val.strAt? ["aggregate", "type"] := by
  have haccepted : verifyStoredEventChain hexHost [paddedType] = .ok () := accepted_hex rfl rfl
  obtain ⟨l, hl, hdraft⟩ := eventDraft_parsed hexHost.formats
    (v := .obj (fieldsWith "booking-1")) (by decide) rfl
  cases hl
  refine ⟨haccepted, upcasts_paddedType, .obj (envelope hexHost (fieldsWith "booking-1") .null), ?_, ?_⟩
  · refine upcastEventStream_of hexHost_digest haccepted
      (.cons ⟨hdraft, fun _ => rfl⟩ .nil) ⟨rfl, trivial⟩
  · rw [envelope_strAt? _ _ _ _ (by decide)]
    intro h
    exact absurd (congrArg (Option.map String.toList) h) (by decide)

end PaddedKey

end InspectionHub.Domain
