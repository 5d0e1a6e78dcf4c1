import InspectionHub.Domain.Replay
import InspectionHub.Domain.StoredChain

/-!
# Checkpoint replay agrees with full replay

A checkpoint that passes its checks carries the canonical text of the
recomputed prefix, so its projection is the recomputed one up to the order of
properties; every step of the fold respects that (`applyEvent_agree`), and the
fold splits at the cut (`reduceEvents_split`).
-/

namespace InspectionHub.Domain

open Contracts Schema

variable {env : Env}

/-! ## Agreement of results -/

/-- The same error, or like values. -/
inductive Agree : Except DomainError JsVal → Except DomainError JsVal → Prop where
  | error (e : DomainError) : Agree (.error e) (.error e)
  | ok {v w : JsVal} (h : Alike v w) : Agree (.ok v) (.ok w)

theorem Agree.bind {x y : Except DomainError JsVal} {f g : JsVal → Except DomainError JsVal}
    (h : Agree x y) (hfg : ∀ v w, Alike v w → Agree (f v) (g w)) : Agree (x >>= f) (y >>= g) := by
  cases h with
  | error e => exact .error e
  | ok h => exact hfg _ _ h

/-- A step both sides share. -/
theorem Agree.bind_left {α : Type} (x : Except DomainError α)
    {f g : α → Except DomainError JsVal} (hfg : ∀ a, x = .ok a → Agree (f a) (g a)) :
    Agree (x >>= f) (x >>= g) := by
  cases x with
  | error e => exact .error e
  | ok a => exact hfg a rfl

variable {p q : JsVal}

theorem readProp_agree (h : Alike p q) (k : String) : Agree (readProp p k) (readProp q k) := by
  unfold readProp
  cases hx : p.get? k with
  | some x =>
      obtain ⟨y, hy, hxy⟩ := h.get?_some hx
      rw [hy]
      exact .ok hxy
  | none =>
      rw [h.get?_none hx]
      exact .error _

/-! ## One event -/

/-- The names a patch of a module may use, with plain values. -/
def PlainPatch (patch : Fields) : Prop := ∀ p ∈ patch, p.1 ≠ "__proto__" ∧ p.2.plain = true

theorem metadataString_plain {event v : JsVal} {k : String} (h : metadataString event k = .ok v) :
    v.plain = true := by
  unfold metadataString at h
  split at h
  · split at h
    · cases h
    · cases h
      rfl
  · cases h

theorem metadataModule_key {event : JsVal} {key : String} (h : metadataModule event = .ok key) :
    key ≠ "__proto__" := by
  unfold metadataModule at h
  split at h
  · cases h
    decide
  · cases h
    decide
  · cases h

theorem nextCount_plain {current v : JsVal} (h : nextCount current = .ok v) : v.plain = true := by
  unfold nextCount at h
  split at h
  · cases h
    rfl
  · cases h

theorem updateModule_agree (h : Alike p q) {key : String} (hkey : key ≠ "__proto__")
    {patch : Fields} (hpatch : PlainPatch patch) :
    Agree (updateModule p key patch) (updateModule q key patch) := by
  refine (readProp_agree h "modules").bind fun m m' hm => ?_
  refine (readProp_agree hm key).bind fun c c' hc => ?_
  exact .ok (h.fields.assign (hm.fields.assign (hc.fields.spread hpatch) hkey) (by decide))

/-- Patches of constants and metadata strings. -/
theorem plainPatch_cons {k : String} {v : JsVal} {patch : Fields} (hk : k ≠ "__proto__")
    (hv : v.plain = true) (h : PlainPatch patch) : PlainPatch ((k, v) :: patch) := by
  intro p hp
  rcases List.mem_cons.mp hp with rfl | hp
  · exact ⟨hk, hv⟩
  · exact h p hp

theorem plainPatch_nil : PlainPatch [] := fun _ hp => absurd hp List.not_mem_nil

theorem applyModuleEvent_agree (h : Alike p q) (event : JsVal) :
    Agree (applyModuleEvent p event) (applyModuleEvent q event) := by
  unfold applyModuleEvent
  split
  · refine Agree.bind_left _ fun key hkey => ?_
    refine updateModule_agree h (metadataModule_key hkey) ?_
    exact plainPatch_cons (by decide) rfl plainPatch_nil
  · refine Agree.bind_left _ fun key hkey => ?_
    refine updateModule_agree h (metadataModule_key hkey) ?_
    exact plainPatch_cons (by decide) rfl plainPatch_nil
  · refine Agree.bind_left _ fun snapshotId hs => ?_
    refine Agree.bind_left _ fun approvalId ha => ?_
    refine Agree.bind_left _ fun key hkey => ?_
    refine updateModule_agree h (metadataModule_key hkey) ?_
    exact plainPatch_cons (by decide) rfl (plainPatch_cons (by decide) (metadataString_plain hs)
      (plainPatch_cons (by decide) (metadataString_plain ha) plainPatch_nil))
  · refine Agree.bind_left _ fun key hkey => ?_
    refine (readProp_agree h "modules").bind fun m m' hm => ?_
    refine (readProp_agree hm key).bind fun c c' hc => ?_
    refine Agree.bind_left _ fun replacementId hr => ?_
    have hcount : nextCount c = nextCount c' := by
      rw [nextCount, nextCount, hc.int?]
    rw [hcount]
    refine Agree.bind_left _ fun amendmentCount hn => ?_
    refine updateModule_agree h (metadataModule_key hkey) ?_
    exact plainPatch_cons (by decide) rfl (plainPatch_cons (by decide) (metadataString_plain hr)
      (plainPatch_cons (by decide) rfl
        (plainPatch_cons (by decide) (nextCount_plain hn) plainPatch_nil)))
  · refine Agree.bind_left _ fun key hkey => ?_
    refine updateModule_agree h (metadataModule_key hkey) ?_
    exact plainPatch_cons (by decide) rfl (plainPatch_cons (by decide) rfl plainPatch_nil)
  · refine (readProp_agree h "compactionCheckpointIds").bind fun l l' hl => ?_
    refine Agree.bind_left _ fun checkpointId hc => ?_
    exact .ok (h.fields.assign (hl.push (metadataString_plain hc)) (by decide))
  · exact .ok h

/-- The fields of an envelope the projection copies. -/
def copiedKeys : List String := ["aggregateVersion", "eventId", "organizationId", "aggregate"]

/-- What the projection copies from the event is plain. -/
def PlainEvent (event : JsVal) : Prop := ∀ k ∈ copiedKeys, (prop event k).plain = true

/-- **One event.** Like projections stay alike. -/
theorem applyEvent_agree (h : Alike p q) {event : JsVal} (he : PlainEvent event) :
    Agree (applyEvent p event) (applyEvent q event) := by
  have hversion := he "aggregateVersion" (by decide)
  have hid := he "eventId" (by decide)
  have hnext := (h.fields.assign (Alike.refl hversion) (k := "revision") (by decide)).assign
    (Alike.refl hid) (k := "lastEventId") (by decide)
  unfold applyEvent
  dsimp only
  split
  · next key status hcase =>
      have hkey : key ≠ "__proto__" := by
        have hmem : ∀ c ∈ statusCases, c.2.1 ≠ "__proto__" := by decide
        obtain ⟨l₁, l₂, hl, -⟩ := List.lookup_eq_some_iff.mp hcase
        have hin : (eventTypeText event, key, status) ∈ statusCases := by
          rw [hl]
          exact List.mem_append_right _ List.mem_cons_self
        exact hmem _ hin
      exact .ok (hnext.assign (Alike.refl rfl) hkey)
  · exact applyModuleEvent_agree hnext event

/-! ## The fold -/

variable {events : List JsVal}

theorem foldlM_agree (he : ∀ e ∈ events, PlainEvent e) (h : Alike p q) :
    Agree (events.foldlM applyEvent p) (events.foldlM applyEvent q) := by
  induction events generalizing p q with
  | nil => exact .ok h
  | cons e l ih =>
      rw [List.foldlM_cons, List.foldlM_cons]
      refine (applyEvent_agree h (he e List.mem_cons_self)).bind fun v w hvw => ?_
      exact ih (fun e' he' => he e' (List.mem_cons_of_mem _ he')) hvw

theorem reduceEvents_seed (events : List JsVal) (s : JsVal) :
    reduceEvents events (some s) = events.foldlM applyEvent s := by
  cases events with
  | nil => rfl
  | cons e l => rfl

/-- The fold of a history continues the fold of its prefix. -/
theorem reduceEvents_split {k : Nat} {p : JsVal} (h : reduceEvents (events.take k) none = .ok p) :
    reduceEvents events none = reduceEvents (events.drop k) (some p) := by
  cases events with
  | nil =>
      rw [List.take_nil] at h
      cases h
  | cons e l =>
      cases k with
      | zero => cases h
      | succ k =>
          have hfold : (e :: l).foldlM applyEvent (initialProjection e) =
              ((e :: l).take (k + 1)).foldlM applyEvent (initialProjection e) >>= fun q =>
                ((e :: l).drop (k + 1)).foldlM applyEvent q := by
            rw [← List.foldlM_append, List.take_append_drop]
          have htake : ((e :: l).take (k + 1)).foldlM applyEvent (initialProjection e) = .ok p := h
          rw [reduceEvents_seed]
          show (e :: l).foldlM applyEvent (initialProjection e) = _
          rw [hfold, htake]
          rfl

theorem initialProjection_plain {event : JsVal} (he : PlainEvent event) :
    (initialProjection event).plain = true := by
  have horg := he "organizationId" (by decide)
  have hagg := he "aggregate" (by decide)
  have hid := he "eventId" (by decide)
  have hmodules : ∀ m : String, (initialModule m).plain = true := fun m => by
    simp [initialModule, JsVal.plain, JsVal.plainFields]
  simp [initialProjection, JsVal.plain, JsVal.plainFields, JsVal.plainElems, horg, hagg, hid,
    hmodules]

/-- A computed projection is plain. -/
theorem reduceEvents_plain (he : ∀ e ∈ events, PlainEvent e) {p : JsVal}
    (h : reduceEvents events none = .ok p) : p.plain = true := by
  cases events with
  | nil => cases h
  | cons e l =>
      have hinit := Alike.refl (initialProjection_plain (he e List.mem_cons_self))
      have hagree := foldlM_agree he hinit
      have hfold : (e :: l).foldlM applyEvent (initialProjection e) = .ok p := h
      rw [hfold] at hagree
      cases hagree with
      | ok halike => exact halike.left

/-! ## Upcast histories -/

theorem envelope_plainEvent {v e : JsVal} (h : eventEnvelopeV1Schema env.formats v = .ok e) :
    PlainEvent e := by
  have field := fun {k s} (hk : (k, s) ∈ eventEnvelopeFields env.formats) =>
    strictObject_get (eventEnvelopeFields_nodup env.formats) h (k := k) (s := s) hk
  have plain : ∀ {k : String} {y : JsVal}, e.get? k = some y → y.plain = true →
      (prop e k).plain = true := by
    intro k y hy hplain
    rwa [prop, hy, Option.getD_some]
  have id : ∀ {k : String}, (k, idSchema env.formats) ∈ eventEnvelopeFields env.formats →
      (prop e k).plain = true := by
    intro k hk
    obtain ⟨x, y, -, hy, hxy⟩ := field hk
    obtain ⟨s, rfl⟩ := string_ok hxy
    rw [exact_id env.formats _ _ hxy] at hy
    exact plain hy rfl
  intro k hk
  simp only [copiedKeys, List.mem_cons, List.not_mem_nil, or_false] at hk
  rcases hk with rfl | rfl | rfl | rfl
  · obtain ⟨x, y, -, hy, hxy⟩ := field (k := "aggregateVersion") (s := int positive)
      (by simp [eventEnvelopeFields, eventDraftFields])
    obtain ⟨n, rfl, rfl, -⟩ := int_ok hxy
    exact plain hy rfl
  · exact id (by simp [eventEnvelopeFields, eventDraftFields])
  · exact id (by simp [eventEnvelopeFields, eventDraftFields])
  · obtain ⟨x, y, -, hy, hxy⟩ := field (k := "aggregate") (s := aggregateSchema env.formats)
      (by simp [eventEnvelopeFields, eventDraftFields])
    obtain ⟨l, r, -, rfl, -, hr⟩ := strictObject_ok hxy
    refine plain hy ((JsVal.plain_obj_iff r).mpr ⟨?_, ?_, ?_⟩)
    · rw [keys_of_shape hr]
      simp
    · rw [keys_of_shape hr]
      simp
    · -- the type is a trimmed string and the id a string
      rcases hr with _ | ⟨⟨-, x₁, -, hx₁⟩, _ | ⟨⟨-, x₂, -, hx₂⟩, _ | _⟩⟩
      obtain ⟨s, -, hs⟩ := trimmedText_ok hx₁
      have hx₂ : idSchema env.formats x₂ = .ok _ := hx₂
      obtain ⟨t, rfl⟩ := string_ok hx₂
      have ht := exact_id env.formats _ _ hx₂
      intro p hp
      rcases List.mem_cons.mp hp with rfl | hp
      · rw [hs]
        rfl
      · rw [List.mem_singleton.mp hp, ht]
        rfl

theorem createEventEnvelope_ok {input e : JsVal} {previous : Option JsVal}
    (h : createEventEnvelope env input previous = .ok e) : PlainEvent e := by
  obtain ⟨draft, -, h⟩ := bind_ok h
  cases previous with
  | none =>
      obtain ⟨_, -, h⟩ := bind_ok h
      exact envelope_plainEvent (parse_ok h)
  | some p =>
      obtain ⟨_, -, h⟩ := bind_ok h
      obtain ⟨_, -, h⟩ := bind_ok h
      obtain ⟨_, -, h⟩ := bind_ok h
      exact envelope_plainEvent (parse_ok h)

/-- The upcasting loop adds one event a turn and keeps what it has. -/
theorem upcastLoop_ok {events : List Document} {before done : List JsVal}
    (h : events.foldlM (upcastStep env) before = .ok done) :
    ∃ new, done = new ++ before ∧ new.length = events.length ∧ ∀ e ∈ new, PlainEvent e := by
  induction events generalizing before with
  | nil =>
      cases h
      exact ⟨[], rfl, rfl, fun _ he => absurd he List.not_mem_nil⟩
  | cons d l ih =>
      rw [List.foldlM_cons] at h
      obtain ⟨mid, hstep, h⟩ := bind_ok h
      obtain ⟨draft, -, hstep⟩ := bind_ok hstep
      obtain ⟨current, hcurrent, hstep⟩ := bind_ok hstep
      cases hstep
      obtain ⟨new, rfl, hlen, hplain⟩ := ih h
      refine ⟨new ++ [current], by simp, by simp [hlen], ?_⟩
      intro e he
      rcases List.mem_append.mp he with he | he
      · exact hplain e he
      · rw [List.mem_singleton.mp he]
        exact createEventEnvelope_ok hcurrent

variable {es : List JsVal}

theorem upcastEventStream_ok {events : List Document} (h : upcastEventStream env events = .ok es) :
    es.length = events.length ∧ ∀ e ∈ es, PlainEvent e := by
  obtain ⟨_, -, h⟩ := bind_ok h
  obtain ⟨done, hdone, h⟩ := bind_ok h
  cases h
  obtain ⟨new, rfl, hlen, hplain⟩ := upcastLoop_ok hdone
  refine ⟨by simp [hlen], fun e he => hplain e ?_⟩
  simpa using he

/-- Upcasting an extension extends the upcast history. -/
theorem upcastEventStream_append {events more : List Document}
    (h : upcastEventStream env (events ++ more) = .ok es) :
    ∃ es₀ rest, upcastEventStream env events = .ok es₀ ∧ es = es₀ ++ rest := by
  obtain ⟨u, hverify, h⟩ := bind_ok h
  obtain ⟨done, hdone, h⟩ := bind_ok h
  cases h
  obtain ⟨s, hs⟩ := verifyStoredEventChain_ok hverify
  rw [verifyLoop, List.foldlM_append] at hs
  obtain ⟨s₀, hs₀, -⟩ := bind_ok hs
  have hfirst : verifyStoredEventChain env events = .ok () := by
    rw [verifyStoredEventChain, verifyLoop, hs₀]
    rfl
  rw [List.foldlM_append] at hdone
  obtain ⟨done₀, hdone₀, hdone⟩ := bind_ok hdone
  obtain ⟨new, rfl, -, -⟩ := upcastLoop_ok hdone
  refine ⟨done₀.reverse, new.reverse, ?_, List.reverse_append⟩
  rw [upcastEventStream, hfirst]
  show (events.foldlM (upcastStep env) [] >>= fun _ => _) = _
  rw [hdone₀]
  rfl

/-! ## Checkpoints -/

variable {h : List Document}

/-- What an accepted checkpoint was checked for. -/
theorem resumeFrom_ok {c r : JsVal} (hr : resumeFrom env h es c = .ok r) :
    ∃ (n : Nat) (projection p : JsVal), c.get? "projection" = some projection ∧
      reduceEvents (es.take n) none = .ok p ∧ sha256 env projection = sha256 env p ∧
      reduceEvents (es.drop n) (some projection) = .ok r := by
  unfold resumeFrom at hr
  split at hr
  · cases hr
  · next through _ =>
      split at hr
      · cases hr
      · obtain ⟨_, -, hr⟩ := bind_ok hr
        obtain ⟨projection, hproj, hr⟩ := bind_ok hr
        obtain ⟨_, hhash, hr⟩ := bind_ok hr
        obtain ⟨p, hp, hr⟩ := bind_ok hr
        obtain ⟨_, hhash', hr⟩ := bind_ok hr
        have hget : c.get? "projection" = some projection := by
          split at hproj
          · next v hv => rw [hv, Except.ok.inj hproj]
          · cases hproj
        refine ⟨through.toNat, projection, p, hget, hp, ?_, hr⟩
        exact Option.some.inj ((requireIntegrity_ok hhash).trans (requireIntegrity_ok hhash').symm)

/-- **Soundness.** A checkpoint is rejected or gives the full replay. -/
theorem resumed_alike (hinj : Function.Injective env.digest) {c : JsData} {r : JsVal}
    (hr : replayInspectionProjection env h (some c.val) = .ok r) :
    ∃ r', replayInspectionProjection env h none = .ok r' ∧ Alike r r' := by
  obtain ⟨es, hes, hr⟩ := bind_ok hr
  obtain ⟨u, hne, hr⟩ := bind_ok hr
  obtain ⟨n, projection, p, hproj, hp, hhash, hr⟩ := resumeFrom_ok hr
  have hplain := (upcastEventStream_ok hes).2
  have hpPlain : p.plain = true :=
    reduceEvents_plain (fun e he => hplain e (List.mem_of_mem_take he)) hp
  have hsame : Same projection p := (canonicalJson_eq_iff _ _).mp (hinj hhash)
  have halike : Alike projection p :=
    ⟨hsame.plain (JsVal.distinct_get? c.distinct hproj) hpPlain, hpPlain, hsame⟩
  have hagree : Agree ((es.drop n).foldlM applyEvent projection)
      ((es.drop n).foldlM applyEvent p) :=
    foldlM_agree (fun e he => hplain e (List.mem_of_mem_drop he)) halike
  rw [← reduceEvents_seed, ← reduceEvents_seed, hr, ← reduceEvents_split hp] at hagree
  generalize hfull : reduceEvents es none = full at hagree
  cases hagree with
  | ok hrr =>
      refine ⟨_, ?_, hrr⟩
      rw [replayInspectionProjection, hes]
      show (requireIntegrity _ _ _ >>= fun _ => reduceEvents es none) = _
      rw [hne, hfull]
      rfl

variable (env) in
/-- The checkpoint of a recomputed prefix. -/
def madeCheckpoint (k : Int) (raw : Document) (p : JsVal) : JsVal :=
  .obj [("schemaVersion", (1 : Int)), ("throughAggregateVersion", k),
    ("rawHistoryEventHash", prop raw.val "eventHash"), ("projectionHash", .str (sha256 env p)),
    ("projection", p)]

variable {k : Int}

theorem createReplayCheckpoint_ok {c : JsVal} (hc : createReplayCheckpoint env h k = .ok c) :
    ∃ (es : List JsVal) (raw : Document) (p : JsVal), upcastEventStream env h = .ok es ∧ 1 ≤ k ∧
      k ≤ es.length ∧ h[(k - 1).toNat]? = some raw ∧
      reduceEvents (es.take k.toNat) none = .ok p ∧
      c = madeCheckpoint env k raw p := by
  obtain ⟨es, hes, hc⟩ := bind_ok hc
  by_cases hk : 1 ≤ k ∧ k ≤ es.length
  · rw [if_pos hk] at hc
    cases hraw : h[(k - 1).toNat]? with
    | none =>
        rw [hraw] at hc
        cases hc
    | some raw =>
        rw [hraw] at hc
        obtain ⟨p, hp, hc⟩ := bind_ok hc
        exact ⟨es, raw, p, hes, hk.1, hk.2, rfl, hp, (Except.ok.inj hc).symm⟩
  · rw [if_neg hk] at hc
    cases hc

/-- A checkpoint that passes every check resumes the fold at its version. -/
theorem resumeFrom_of {c p q : JsVal} {raw : Document}
    (hversion : integerOf env (c.get? "throughAggregateVersion") = some k)
    (hraw : (if 1 ≤ k then h[(k - 1).toNat]? else none) = some raw)
    (hhash : raw.val.str? "eventHash" = c.str? "rawHistoryEventHash")
    (hproj : c.get? "projection" = some p)
    (hstored : some (sha256 env p) = c.str? "projectionHash")
    (hcut : reduceEvents (es.take k.toNat) none = .ok q)
    (hrecomputed : some (sha256 env q) = c.str? "projectionHash") :
    resumeFrom env h es c = reduceEvents (es.drop k.toNat) (some p) := by
  unfold resumeFrom
  rw [hversion]
  dsimp only
  rw [hraw, hproj]
  dsimp only
  rw [requireIntegrity_of hhash, hcut]
  show (requireIntegrity (some (sha256 env p) = c.str? "projectionHash") _ _ >>= fun _ =>
    requireIntegrity (some (sha256 env q) = c.str? "projectionHash") _ _ >>= fun _ => _) = _
  rw [requireIntegrity_of hstored, requireIntegrity_of hrecomputed]
  rfl

/-- A made checkpoint passes every check, and the rest is folded from the
prefix. -/
theorem resumeFrom_made {h t : List Document} {es rest : List JsVal} {raw : Document} {p : JsVal}
    (hk : 1 ≤ k) (hlen : k ≤ es.length) (hraw : h[(k - 1).toNat]? = some raw)
    (hp : reduceEvents (es.take k.toNat) none = .ok p) :
    resumeFrom env (h ++ t) (es ++ rest) (madeCheckpoint env k raw p) =
      reduceEvents (es ++ rest) none := by
  have hraw' : (if 1 ≤ k then (h ++ t)[(k - 1).toNat]? else none) = some raw := by
    obtain ⟨hlt, -⟩ := List.getElem?_eq_some_iff.mp hraw
    rw [if_pos hk, List.getElem?_append_left hlt, hraw]
  have htake : (es ++ rest).take k.toNat = es.take k.toNat := by
    apply List.take_append_of_le_length
    omega
  have hcut : reduceEvents ((es ++ rest).take k.toNat) none = .ok p := by rw [htake, hp]
  rw [reduceEvents_split hcut]
  refine resumeFrom_of rfl hraw' ?_ rfl rfl hcut rfl
  -- the raw hash is copied as it stands, a missing one as null
  show raw.val.str? "eventHash" =
    (JsVal.obj [("eventHash", prop raw.val "eventHash")]).str? "eventHash"
  unfold prop JsVal.str?
  cases raw.val.get? "eventHash" with
  | none => rfl
  | some x => rfl

/-- **Completeness.** A made checkpoint replays every extension as the full
replay does. -/
theorem made_replays {c : JsVal} (hc : createReplayCheckpoint env h k = .ok c) (t : List Document) :
    replayInspectionProjection env (h ++ t) (some c) =
      replayInspectionProjection env (h ++ t) none := by
  obtain ⟨es, raw, p, hes, hk, hlen, hraw, hp, rfl⟩ := createReplayCheckpoint_ok hc
  unfold replayInspectionProjection
  cases hall : upcastEventStream env (h ++ t) with
  | error e => rfl
  | ok all =>
      obtain ⟨es', rest, hes', rfl⟩ := upcastEventStream_append hall
      obtain rfl : es = es' := Except.ok.inj (hes.symm.trans hes')
      show (requireIntegrity _ _ _ >>= fun _ => resumeFrom env (h ++ t) (es ++ rest) _) =
        (requireIntegrity _ _ _ >>= fun _ => reduceEvents (es ++ rest) none)
      rw [resumeFrom_made hk hlen hraw hp]

/-- Every prefix of a history that replays has a checkpoint. -/
theorem createReplayCheckpoint_exists {r : JsVal}
    (hr : replayInspectionProjection env h none = .ok r) (hk : 1 ≤ k) (hlen : k ≤ h.length) :
    ∃ c, createReplayCheckpoint env h k = .ok c := by
  obtain ⟨es, hes, hr⟩ := bind_ok hr
  obtain ⟨_, -, hr⟩ := bind_ok hr
  obtain ⟨hcount, -⟩ := upcastEventStream_ok hes
  have hcut : ∃ p, reduceEvents (es.take k.toNat) none = .ok p := by
    have hfull : reduceEvents es none = .ok r := hr
    cases es with
    | nil => cases hfull
    | cons e l =>
        obtain ⟨m, hm⟩ : ∃ m, k.toNat = m + 1 := ⟨k.toNat - 1, by omega⟩
        have hfold : (e :: l).foldlM applyEvent (initialProjection e) = .ok r := hfull
        rw [← List.take_append_drop k.toNat (e :: l), List.foldlM_append] at hfold
        obtain ⟨p, hp, -⟩ := bind_ok hfold
        rw [hm] at hp ⊢
        exact ⟨p, hp⟩
  obtain ⟨p, hp⟩ := hcut
  have hlt : (k - 1).toNat < h.length := by omega
  refine ⟨madeCheckpoint env k h[(k - 1).toNat] p, ?_⟩
  rw [createReplayCheckpoint, hes]
  dsimp only [bind, Except.bind]
  rw [if_pos ⟨hk, by omega⟩, List.getElem?_eq_getElem hlt]
  show (reduceEvents (es.take k.toNat) none >>= fun _ => _) = _
  rw [hp]
  rfl

variable (env) in
/-- **Checkpoint replay.** Whatever the checkpoint, the resumed replay throws
or returns the full replay's projection; and a checkpoint made at any version
of a history that replays gives, on every extension, what the full replay
gives. -/
theorem checkpoint_replay_agrees (hinj : Function.Injective env.digest) (h : List Document) :
    (∀ c : JsData, (∃ e, replayInspectionProjection env h (some c.val) = .error e) ∨
      ∃ r r', replayInspectionProjection env h (some c.val) = .ok r ∧
        replayInspectionProjection env h none = .ok r' ∧ Same r r') ∧
    (∀ r, replayInspectionProjection env h none = .ok r → ∀ k : Int, 1 ≤ k → k ≤ h.length →
      ∃ c, createReplayCheckpoint env h k = .ok c) ∧
    (∀ k c, createReplayCheckpoint env h k = .ok c → ∀ t : List Document,
      replayInspectionProjection env (h ++ t) (some c) =
        replayInspectionProjection env (h ++ t) none) := by
  refine ⟨fun c => ?_, fun r hr k hk hlen => ?_, fun k c hc t => ?_⟩
  · cases hr : replayInspectionProjection env h (some c.val) with
    | error e => exact .inl ⟨e, rfl⟩
    | ok r =>
        obtain ⟨r', hr', halike⟩ := resumed_alike hinj hr
        exact .inr ⟨r, r', rfl, hr', halike.same⟩
  · exact createReplayCheckpoint_exists hr hk hlen
  · exact made_replays hc t

/-! ## A history of one event -/

theorem createEventEnvelope_of {input draft e : JsVal} {payloadHash eventHash : String}
    (hdraft : parse (eventDraftV1Schema env.formats input) = .ok draft)
    (hversion : draft.int? "aggregateVersion" = some 1)
    (hpayload : hashEventPayload env draft = payloadHash)
    (hevent : sha256 env (.obj ((draft.fields.assign "payloadHash" (.str payloadHash)).assign
      "previousEventHash" .null)) = eventHash)
    (henvelope : parse (eventEnvelopeV1Schema env.formats
      (.obj (((draft.fields.assign "payloadHash" (.str payloadHash)).assign
        "previousEventHash" .null).assign "eventHash" (.str eventHash)))) = .ok e) :
    createEventEnvelope env input none = .ok e := by
  subst hpayload hevent
  rw [createEventEnvelope, hdraft]
  show (require (draft.int? "aggregateVersion" = some 1) _ _ _ >>= fun _ => _) = _
  rw [require, if_pos hversion]
  exact henvelope

theorem upcastStep_of {done : List JsVal} {d : Document} {draft e : JsVal}
    (hdraft : upcastDraft env d.val done.length = .ok draft)
    (hcreate : createEventEnvelope env draft done.head? = .ok e) :
    upcastStep env done d = .ok (e :: done) := by
  rw [upcastStep, hdraft]
  show (createEventEnvelope env draft done.head? >>= fun _ => _) = _
  rw [hcreate]
  rfl

namespace PaddedKey

def draft : JsVal := .obj (fieldsWith "booking-1")

theorem createEventEnvelope_draft : createEventEnvelope host draft none = .ok event.val := by
  have hpayload : hashEventPayload host draft = payloadHash := sha256_payload
  have hevent : sha256 host (.obj hashedFields) = eventHash := sha256_hashedFields
  exact createEventEnvelope_of rfl rfl hpayload hevent rfl

theorem upcastEventStream_event : upcastEventStream host [event] = .ok [event.val] := by
  have hdraft : upcastDraft host event.val 0 = .ok draft := rfl
  have hstep : upcastStep host [] event = .ok [event.val] :=
    upcastStep_of hdraft createEventEnvelope_draft
  rw [upcastEventStream, accepted_event, List.foldlM_cons, hstep]
  rfl

/-- The history replays, and its checkpoint replays alike. -/
theorem checkpoint_replay_agrees_here : ∃ r c, replayInspectionProjection host [event] none = .ok r ∧
    createReplayCheckpoint host [event] 1 = .ok c ∧
    replayInspectionProjection host [event] (some c) = .ok r := by
  obtain ⟨r, hr⟩ : ∃ r, replayInspectionProjection host [event] none = .ok r := by
    rw [replayInspectionProjection, upcastEventStream_event]
    exact ⟨_, rfl⟩
  obtain ⟨-, hmake, hagree⟩ := checkpoint_replay_agrees host digest_injective [event]
  obtain ⟨c, hc⟩ := hmake r hr 1 (by decide) (by decide)
  refine ⟨r, c, hr, hc, ?_⟩
  rw [← hr]
  exact hagree 1 c hc []

end PaddedKey

end InspectionHub.Domain
