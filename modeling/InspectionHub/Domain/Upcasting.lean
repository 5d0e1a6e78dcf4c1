import InspectionHub.Domain.StoredChain

/-!
# Upcasting a stored history

A draft in the current schema is its own parse, and `createEventEnvelope`
appends three properties to it: two hashes and the hash it links to. So the
upcast history is the list of drafts, sealed one after the other
(`chainFrom`), whatever mix of schema versions the drafts came from. What
verification asks of the stored identities makes the drafts' identities
contiguous, and nothing else is asked of a history to be rebuilt.
-/

namespace InspectionHub.Domain

open Contracts Schema

variable (env : Env)

/-! ## Sealing a draft -/

/-- The draft with the hash of its payload and the hash it links to. -/
def sealed (l : Fields) (previousEventHash : JsVal) : Fields :=
  l ++ [("payloadHash", .str (hashEventPayload env (.obj l))),
    ("previousEventHash", previousEventHash)]

def envelopeHash (l : Fields) (previousEventHash : JsVal) : String :=
  sha256 env (.obj (sealed env l previousEventHash))

/-- The envelope of a draft. -/
def envelope (l : Fields) (previousEventHash : JsVal) : Fields :=
  sealed env l previousEventHash ++ [("eventHash", .str (envelopeHash env l previousEventHash))]

/-- What a first event, or one after an event of a well-formed hash, links to. -/
def IsLink (previousEventHash : JsVal) : Prop :=
  nullable sha256Schema previousEventHash = .ok previousEventHash

/-- The digest is written in 64 lower-case hexadecimal digits. -/
def HexDigest : Prop := ∀ text, Js.isHexDigest (env.digest text) = true

variable {env} {l : Fields} {p : JsVal}

theorem sha256Schema_of {s : String} (h : Js.isHexDigest s = true) :
    sha256Schema (.str s) = .ok (.str s) := by
  have hcheck : satisfies Js.isHexDigest (some "Expected a lowercase SHA-256 digest") s = .ok s := by
    rw [satisfies, if_pos h]
  simp only [sha256Schema, string, List.foldlM_cons, hcheck]
  rfl

theorem isLink_hash (hdigest : HexDigest env) (text : String) :
    IsLink (.str (env.digest text)) := sha256Schema_of (hdigest text)

/-- An envelope is its own parse. -/
theorem envelope_fits (hdigest : HexDigest env) (hl : IsDraft env.formats l) (hp : IsLink p) :
    Fits (eventEnvelopeFields env.formats) (envelope env l p) := by
  have hseal : Fits [("payloadHash", sha256Schema), ("previousEventHash", nullable sha256Schema),
      ("eventHash", sha256Schema)]
      [("payloadHash", .str (hashEventPayload env (.obj l))), ("previousEventHash", p),
        ("eventHash", .str (envelopeHash env l p))] :=
    .cons ⟨rfl, sha256Schema_of (hdigest _)⟩
      (.cons ⟨rfl, hp⟩ (.cons ⟨rfl, sha256Schema_of (hdigest _)⟩ .nil))
  have happend : envelope env l p =
      l ++ [("payloadHash", .str (hashEventPayload env (.obj l))), ("previousEventHash", p),
        ("eventHash", .str (envelopeHash env l p))] := by
    rw [envelope, sealed, List.append_assoc]
    rfl
  rw [happend]
  exact hl.fits.append hseal

theorem envelope_parsed (hdigest : HexDigest env) (hl : IsDraft env.formats l) (hp : IsLink p) :
    eventEnvelopeV1Schema env.formats (.obj (envelope env l p)) = .ok (.obj (envelope env l p)) :=
  (envelope_fits hdigest hl hp).strictObject (eventEnvelopeFields_nodup env.formats)

theorem isDraft_keys (hl : IsDraft env.formats l) :
    l.keys = ["schemaVersion", "eventId", "eventType", "organizationId", "aggregate",
      "aggregateVersion", "sessionId", "actor", "clientOccurredAt", "serverRecordedAt",
      "idempotencyKey", "safeMetadata", "protectedArtifactReferences", "correlationId",
      "causationId"] := hl.fits.keys

variable {k : String}

/-- An envelope reads as its draft, the three properties of the seal apart. -/
theorem envelope_get? (l : Fields) (p : JsVal)
    (hk : k ∉ ["payloadHash", "previousEventHash", "eventHash"]) :
    (JsVal.obj (envelope env l p)).get? k = (JsVal.obj l).get? k := by
  simp only [List.mem_cons, List.not_mem_nil, or_false, not_or] at hk
  obtain ⟨h₁, h₂, h₃⟩ := hk
  simp [JsVal.get?, envelope, sealed, List.lookup_append, List.lookup_cons, beq_false_of_ne h₁,
    beq_false_of_ne h₂, beq_false_of_ne h₃]

theorem seal_get? (hl : IsDraft env.formats l) (p : JsVal) :
    (JsVal.obj (envelope env l p)).get? "payloadHash" =
        some (.str (hashEventPayload env (.obj l))) ∧
      (JsVal.obj (envelope env l p)).get? "previousEventHash" = some p ∧
      (JsVal.obj (envelope env l p)).get? "eventHash" = some (.str (envelopeHash env l p)) := by
  have hnone : ∀ k ∈ ["payloadHash", "previousEventHash", "eventHash"], l.lookup k = none := by
    intro k hk
    refine Fields.lookup_eq_none ?_
    rw [isDraft_keys hl]
    simp only [List.mem_cons, List.not_mem_nil, or_false] at hk
    rcases hk with rfl | rfl | rfl <;> decide
  refine ⟨?_, ?_, ?_⟩ <;>
    simp [JsVal.get?, envelope, sealed, List.lookup_append, List.lookup_cons, hnone]

theorem hashEventPayload_envelope (l : Fields) (p : JsVal) :
    hashEventPayload env (.obj (envelope env l p)) = hashEventPayload env (.obj l) := by
  have hpick : pick (.obj (envelope env l p))
      ["schemaVersion", "eventType", "safeMetadata", "protectedArtifactReferences"] =
      pick (.obj l)
        ["schemaVersion", "eventType", "safeMetadata", "protectedArtifactReferences"] := by
    unfold pick
    refine List.filterMap_congr fun k hk => ?_
    rw [envelope_get? l p]
    simp only [List.mem_cons, List.not_mem_nil, or_false] at hk
    rcases hk with rfl | rfl | rfl | rfl <;> decide
  rw [hashEventPayload, hashEventPayload, hpick]

theorem withoutHash_envelope (hl : IsDraft env.formats l) (p : JsVal) :
    withoutHash (.obj (envelope env l p)) = .obj (sealed env l p) := by
  have hkeys : ∀ q ∈ sealed env l p, q.1 ≠ "eventHash" := by
    intro q hq heq
    have hmem : "eventHash" ∈ Fields.keys (sealed env l p) :=
      List.mem_map.mpr ⟨q, hq, heq⟩
    rw [sealed, Fields.keys, List.map_append, show List.map Prod.fst l = _ from isDraft_keys hl]
      at hmem
    simp at hmem
  have herase : Fields.erase (envelope env l p) "eventHash" = sealed env l p := by
    rw [Fields.erase, envelope, List.filter_append, List.filter_eq_self.mpr]
    · simp
    · intro q hq
      exact decide_eq_true (hkeys q hq)
  rw [withoutHash, JsVal.fields, herase]

/-! ## Contiguous histories -/

/-- The identity of the event that may follow. -/
def EventIdentity.next (i : EventIdentity) : EventIdentity :=
  { i with aggregateVersion := i.aggregateVersion.map (· + 1) }

/-- The identity with the aggregate's type as the current schema keeps it. -/
def EventIdentity.trimmed (i : EventIdentity) : EventIdentity :=
  { i with aggregateType := i.aggregateType.map Js.trim }

/-- One aggregate, at versions 1, 2, 3, … or on from the version before. -/
def Contiguous : Option EventIdentity → List EventIdentity → Prop
  | _, [] => True
  | none, i :: l => i.aggregateVersion = some 1 ∧ Contiguous (some i) l
  | some p, i :: l => i = p.next ∧ Contiguous (some i) l

theorem Contiguous.trimmed {p : Option EventIdentity} {l : List EventIdentity}
    (h : Contiguous p l) : Contiguous (p.map (·.trimmed)) (l.map (·.trimmed)) := by
  induction l generalizing p with
  | nil => cases p <;> trivial
  | cons i l ih =>
      cases p with
      | none => exact ⟨h.1, ih h.2⟩
      | some p => exact ⟨by rw [h.1]; rfl, ih h.2⟩

/-- The versions of a contiguous history are counted from the start. -/
theorem Contiguous.versions {l : List EventIdentity} (h : Contiguous none l) {k : Nat}
    {i : EventIdentity} (hi : l[k]? = some i) : i.aggregateVersion = some ((k : Int) + 1) := by
  have later : ∀ {l : List EventIdentity} {p : EventIdentity} {n : Int} {k : Nat},
      p.aggregateVersion = some n → Contiguous (some p) l → l[k]? = some i →
      i.aggregateVersion = some (n + 1 + k) := by
    intro l
    induction l with
    | nil => exact fun _ _ hk => by simp at hk
    | cons j l ih =>
        intro p n k hp hl hk
        have hj : j.aggregateVersion = some (n + 1) := by
          rw [hl.1, EventIdentity.next, hp]
          rfl
        cases k with
        | zero =>
            rw [List.getElem?_cons_zero] at hk
            rw [← Option.some.inj hk, hj]
            simp
        | succ k =>
            rw [List.getElem?_cons_succ] at hk
            rw [ih hj hl.2 hk]
            congr 1
            push_cast
            omega
  cases l with
  | nil => simp at hi
  | cons j l =>
      cases k with
      | zero =>
          rw [List.getElem?_cons_zero] at hi
          rw [← Option.some.inj hi, h.1]
          rfl
      | succ k =>
          rw [List.getElem?_cons_succ] at hi
          rw [later h.1 h.2 hi]
          congr 1
          push_cast
          omega

/-! ## The chain of sealed drafts -/

variable (env) in
/-- The drafts sealed one after the other, the first one linking to `p`. -/
def chainFrom : JsVal → List Fields → List JsVal
  | _, [] => []
  | p, l :: ls => .obj (envelope env l p) :: chainFrom (.str (envelopeHash env l p)) ls

variable (env) in
/-- Where a chain stands: the event last built, the hash the next one links
to, and the identity it follows. -/
inductive Tip : Option JsVal → JsVal → Option EventIdentity → Prop where
  | start : Tip none .null none
  | after {l : Fields} {p : JsVal} (hl : IsDraft env.formats l) (hp : IsLink p) :
      Tip (some (.obj (envelope env l p))) (.str (envelopeHash env l p))
        (some (eventIdentity (.obj l)))

variable {previous : Option JsVal} {before : Option EventIdentity}

theorem Tip.link (hdigest : HexDigest env) (h : Tip env previous p before) : IsLink p := by
  cases h with
  | start => rfl
  | after _ _ => exact isLink_hash hdigest _

theorem isDraft_current (hl : IsDraft env.formats l) : isLegacy (.obj l) = false := by
  obtain ⟨y, hy, hyy⟩ := hl.fits.get (eventDraftFields_nodup env.formats) (k := "schemaVersion")
    (s := literalInt 1) (by simp [eventDraftFields])
  have hget : (JsVal.obj l).get? "schemaVersion" = some y := hy
  rw [isLegacy, JsVal.int?, hget, (literalInt_ok hyy).1]
  rfl

theorem envelope_current (hl : IsDraft env.formats l) (p : JsVal) :
    isLegacy (.obj (envelope env l p)) = false := by
  have h := isDraft_current hl
  rwa [isLegacy, JsVal.int?, ← envelope_get? l p (by decide)] at h

theorem envelope_str? (l : Fields) (p : JsVal)
    (hk : k ∉ ["payloadHash", "previousEventHash", "eventHash"]) :
    (JsVal.obj (envelope env l p)).str? k = (JsVal.obj l).str? k := by
  rw [JsVal.str?, JsVal.str?, envelope_get? l p hk]

theorem envelope_strAt? (l : Fields) (p : JsVal) (k k' : String)
    (hk : k ∉ ["payloadHash", "previousEventHash", "eventHash"]) :
    (JsVal.obj (envelope env l p)).strAt? [k, k'] = (JsVal.obj l).strAt? [k, k'] := by
  show ((JsVal.obj (envelope env l p)).get? k).bind _ = ((JsVal.obj l).get? k).bind _
  rw [envelope_get? l p hk]

theorem envelope_int? (l : Fields) (p : JsVal)
    (hk : k ∉ ["payloadHash", "previousEventHash", "eventHash"]) :
    (JsVal.obj (envelope env l p)).int? k = (JsVal.obj l).int? k := by
  rw [JsVal.int?, JsVal.int?, envelope_get? l p hk]

theorem eventIdentity_current {v : JsVal} (h : isLegacy v = false) :
    eventIdentity v =
      { organizationId := v.str? "organizationId"
        aggregateType := v.strAt? ["aggregate", "type"]
        aggregateId := v.strAt? ["aggregate", "id"]
        aggregateVersion := v.int? "aggregateVersion" } := by
  rw [eventIdentity, h]
  rfl

theorem eventIdentity_envelope (hl : IsDraft env.formats l) (p : JsVal) :
    eventIdentity (.obj (envelope env l p)) = eventIdentity (.obj l) := by
  rw [eventIdentity_current (envelope_current hl p), eventIdentity_current (isDraft_current hl),
    envelope_str? l p (by decide), envelope_strAt? l p _ _ (by decide),
    envelope_strAt? l p _ _ (by decide), envelope_int? l p (by decide)]

/-- Two current events of contiguous identities, field by field. -/
theorem next_current {v w : JsVal} (hv : isLegacy v = false) (hw : isLegacy w = false)
    (h : eventIdentity w = (eventIdentity v).next) :
    (w.str? "organizationId" = v.str? "organizationId" ∧
      w.strAt? ["aggregate", "type"] = v.strAt? ["aggregate", "type"] ∧
      w.strAt? ["aggregate", "id"] = v.strAt? ["aggregate", "id"]) ∧
    w.int? "aggregateVersion" = (v.int? "aggregateVersion").map (· + 1) := by
  rw [eventIdentity_current hv, eventIdentity_current hw] at h
  simp only [EventIdentity.next, EventIdentity.mk.injEq] at h
  exact ⟨⟨h.1, h.2.1, h.2.2.1⟩, h.2.2.2⟩

/-! ## One event sealed -/

/-- The identity of an event is one that may follow. -/
def MayFollow (before : Option EventIdentity) (i : EventIdentity) : Prop :=
  Contiguous before [i]

theorem createEventEnvelope_sealed (hdigest : HexDigest env) (hl : IsDraft env.formats l)
    (htip : Tip env previous p before) (hid : MayFollow before (eventIdentity (.obj l))) :
    createEventEnvelope env (.obj l) previous = .ok (.obj (envelope env l p)) := by
  have hdraft : parse (eventDraftV1Schema env.formats (.obj l)) = .ok (.obj l) := by
    rw [eventDraftV1Schema, hl.fits.strictObject (eventDraftFields_nodup env.formats)]
    rfl
  have happend : ((JsVal.obj l).fields.assign "payloadHash"
      (.str (hashEventPayload env (.obj l)))).assign "previousEventHash" p = sealed env l p := by
    have h₁ : "payloadHash" ∉ Fields.keys l := by
      rw [isDraft_keys hl]
      decide
    have h₂ : "previousEventHash" ∉
        Fields.keys (l ++ [("payloadHash", .str (hashEventPayload env (.obj l)))]) := by
      rw [Fields.keys, List.map_append, show List.map Prod.fst l = _ from isDraft_keys hl]
      simp
    rw [JsVal.fields, Fields.assign_new h₁, Fields.assign_new h₂, List.append_assoc]
    rfl
  have hlast : "eventHash" ∉ Fields.keys (sealed env l p) := by
    rw [sealed, Fields.keys, List.map_append, show List.map Prod.fst l = _ from isDraft_keys hl]
    simp
  have hparsed := envelope_parsed hdigest hl (htip.link hdigest)
  -- the rest of the function, once the draft is known to follow
  have hrest : ∀ q : JsVal, q = p →
      parse (eventEnvelopeV1Schema env.formats
        (.obj (Fields.assign (((JsVal.obj l).fields.assign "payloadHash"
          (.str (hashEventPayload env (.obj l)))).assign "previousEventHash" q) "eventHash"
          (.str (sha256 env (.obj (((JsVal.obj l).fields.assign "payloadHash"
            (.str (hashEventPayload env (.obj l)))).assign "previousEventHash" q))))))) =
        .ok (.obj (envelope env l p)) := by
    rintro q rfl
    rw [happend, Fields.assign_new hlast]
    show parse (eventEnvelopeV1Schema env.formats (.obj (envelope env l q))) = _
    rw [hparsed]
    rfl
  rw [createEventEnvelope, bind_of hdraft]
  cases htip with
  | start =>
      have hversion : (JsVal.obj l).int? "aggregateVersion" = some 1 := by
        have h := hid.1
        rwa [eventIdentity_current (isDraft_current hl)] at h
      dsimp only
      rw [bind_of (require_of hversion _ _ _)]
      exact hrest _ rfl
  | @after l' p' hl' hp' =>
      have hprev := envelope_parsed hdigest hl' hp'
      have hnext : eventIdentity (.obj l) = (eventIdentity (.obj (envelope env l' p'))).next := by
        rw [eventIdentity_envelope hl']
        exact hid.1
      obtain ⟨hsame, hversion⟩ := next_current (envelope_current hl' p') (isDraft_current hl) hnext
      have hparse : parse (eventEnvelopeV1Schema env.formats (.obj (envelope env l' p'))) =
          .ok (.obj (envelope env l' p')) := by
        rw [hprev]
        rfl
      dsimp only
      rw [bind_of hparse, bind_of (require_of ⟨hsame.1.symm, hsame.2.1.symm, hsame.2.2.symm⟩ _ _ _),
        bind_of (require_of hversion _ _ _)]
      refine hrest _ ?_
      rw [Option.bind_some, (seal_get? hl' p').2.2]
      rfl

/-- The seal of an envelope: its own hashes, and the link. -/
theorem envelope_seal (hl : IsDraft env.formats l) (p : JsVal) :
    (JsVal.obj (envelope env l p)).str? "payloadHash" =
        some (hashEventPayload env (.obj (envelope env l p))) ∧
      (JsVal.obj (envelope env l p)).str? "eventHash" =
        some (sha256 env (withoutHash (.obj (envelope env l p)))) ∧
      (JsVal.obj (envelope env l p)).get? "previousEventHash" = some p := by
  obtain ⟨hpayload, hprevious, hhash⟩ := seal_get? hl p
  refine ⟨?_, ?_, hprevious⟩
  · rw [JsVal.str?, hpayload, hashEventPayload_envelope]
  · rw [JsVal.str?, hhash, withoutHash_envelope hl]
    rfl

variable {i : Nat}

theorem verifyEventStep_of (hdigest : HexDigest env) (hl : IsDraft env.formats l)
    (htip : Tip env previous p before) (hid : MayFollow before (eventIdentity (.obj l)))
    (hi : i = 0 → previous = none) :
    verifyEventStep env (previous, i) (.obj (envelope env l p)) =
      .ok (some (.obj (envelope env l p)), i + 1) := by
  have hparse : parseOrIntegrity
      (eventEnvelopeV1Schema env.formats (.obj (envelope env l p)))
      "Event envelope failed schema validation" i = .ok (.obj (envelope env l p)) := by
    rw [envelope_parsed hdigest hl (htip.link hdigest)]
    rfl
  obtain ⟨hpayload, hhash, hprevious⟩ := envelope_seal hl p
  have hlink : checkCurrentLink previous (.obj (envelope env l p)) i = .ok () := by
    have hversion : i = 0 → (JsVal.obj (envelope env l p)).int? "aggregateVersion" = some 1 := by
      intro h0
      cases htip with
      | start =>
          have h := hid.1
          rwa [← eventIdentity_envelope hl, eventIdentity_current (envelope_current hl _)] at h
      | after _ _ => cases hi h0
    unfold checkCurrentLink
    rw [bind_of (requireIntegrity_of hversion _ _)]
    cases htip with
    | start =>
        exact requireIntegrity_of (by rw [hprevious]; rfl) _ _
    | @after l' p' hl' hp' =>
        have hnext : eventIdentity (.obj (envelope env l (.str (envelopeHash env l' p')))) =
            (eventIdentity (.obj (envelope env l' p'))).next := by
          rw [eventIdentity_envelope hl, eventIdentity_envelope hl']
          exact hid.1
        obtain ⟨hsame, hversion⟩ := next_current (envelope_current hl' p')
          (envelope_current hl _) hnext
        dsimp only
        rw [bind_of (requireIntegrity_of hsame _ _), bind_of (requireIntegrity_of hversion _ _)]
        refine requireIntegrity_of ?_ _ _
        rw [JsVal.str?, JsVal.str?, hprevious, (seal_get? hl' p').2.2]
  rw [verifyEventStep, bind_of hparse, bind_of hlink, bind_of (requireIntegrity_of hpayload _ _),
    bind_of (requireIntegrity_of hhash _ _)]
  rfl

/-- The stored-history check accepts an envelope where the other one does. -/
theorem verifyStep_of (hdigest : HexDigest env) (hl : IsDraft env.formats l)
    (htip : Tip env previous p before) (hid : MayFollow before (eventIdentity (.obj l)))
    (hi : i = 0 → previous = none) {d : Document} (hd : d.val = .obj (envelope env l p)) :
    verifyStep env (previous, i) d = .ok (some (.obj (envelope env l p)), i + 1) := by
  obtain ⟨hpayload, hhash, hprevious⟩ := envelope_seal hl p
  have hverify : verifyStoredEvent env d.val i = .ok (.obj (envelope env l p)) := by
    rw [verifyStoredEvent, hd, envelope_current hl, if_neg (by simp)]
    exact verifyCurrentEvent_of (envelope_parsed hdigest hl (htip.link hdigest)) hpayload hhash
  have hlink : checkLink previous (.obj (envelope env l p)) i = .ok () := by
    have hversion : i = 0 →
        (eventIdentity (.obj (envelope env l p))).aggregateVersion = some 1 := by
      intro h0
      rw [eventIdentity_envelope hl]
      cases htip with
      | start => exact hid.1
      | after _ _ => cases hi h0
    unfold checkLink
    dsimp only
    rw [bind_of (requireIntegrity_of hversion _ _)]
    cases htip with
    | start => exact requireIntegrity_of (by rw [hprevious]; rfl) _ _
    | @after l' p' hl' hp' =>
        have hnext : eventIdentity (.obj (envelope env l (.str (envelopeHash env l' p')))) =
            (eventIdentity (.obj (envelope env l' p'))).next := by
          rw [eventIdentity_envelope hl, eventIdentity_envelope hl']
          exact hid.1
        dsimp only
        rw [bind_of (requireIntegrity_of (by rw [hnext]; exact ⟨rfl, rfl, rfl⟩) _ _),
          bind_of (requireIntegrity_of (by rw [hnext]; rfl) _ _)]
        refine requireIntegrity_of ?_ _ _
        rw [JsVal.str?, JsVal.str?, hprevious, (seal_get? hl' p').2.2]
  rw [verifyStep, bind_of hverify, bind_of hlink]
  rfl

/-! ## The whole chain -/

/-- The identities of drafts. -/
def identities (ls : List Fields) : List EventIdentity := ls.map fun l => eventIdentity (.obj l)

variable {ls : List Fields}

theorem contiguous_cons (h : Contiguous before (identities (l :: ls))) :
    MayFollow before (eventIdentity (.obj l)) ∧
      Contiguous (some (eventIdentity (.obj l))) (identities ls) := by
  cases before with
  | none => exact ⟨⟨h.1, trivial⟩, h.2⟩
  | some b => exact ⟨⟨h.1, trivial⟩, h.2⟩

/-- Contiguous drafts are sealed one after the other. -/
theorem upcast_fold (hdigest : HexDigest env) {events : List Document}
    (hdrafts : List.Forall₂ (fun e l => IsDraft env.formats l ∧
      ∀ i, upcastDraft env e.val i = .ok (.obj l)) events ls) {done : List JsVal}
    (htip : Tip env done.head? p before) (hids : Contiguous before (identities ls)) :
    events.foldlM (upcastStep env) done = .ok ((chainFrom env p ls).reverse ++ done) := by
  induction hdrafts generalizing done p before with
  | nil => rfl
  | @cons e l events ls he _ ih =>
      obtain ⟨hl, hdraft⟩ := he
      obtain ⟨hfollow, hrest⟩ := contiguous_cons hids
      have hstep : upcastStep env done e = .ok (.obj (envelope env l p) :: done) := by
        rw [upcastStep, bind_of (hdraft _), bind_of (createEventEnvelope_sealed hdigest hl htip hfollow)]
        rfl
      have htail := @ih _ _ (.obj (envelope env l p) :: done) (.after hl (htip.link hdigest)) hrest
      rw [List.foldlM_cons, bind_of hstep, htail, chainFrom, List.reverse_cons, List.append_assoc]
      rfl

theorem verifyEvent_fold (hdigest : HexDigest env) (hls : ∀ l ∈ ls, IsDraft env.formats l)
    (hi : i = 0 → previous = none) (htip : Tip env previous p before)
    (hids : Contiguous before (identities ls)) :
    ∃ s, (chainFrom env p ls).foldlM (verifyEventStep env) (previous, i) = .ok s := by
  induction ls generalizing previous p before i with
  | nil => exact ⟨_, rfl⟩
  | cons l ls ih =>
      have hl := hls l List.mem_cons_self
      obtain ⟨hfollow, hrest⟩ := contiguous_cons hids
      obtain ⟨s, hs⟩ := ih (fun x hx => hls x (List.mem_cons_of_mem _ hx)) (i := i + 1) nofun
        (.after hl (htip.link hdigest)) hrest
      refine ⟨s, ?_⟩
      rw [chainFrom, List.foldlM_cons,
        bind_of (verifyEventStep_of hdigest hl htip hfollow hi)]
      exact hs

theorem verify_fold (hdigest : HexDigest env) (hls : ∀ l ∈ ls, IsDraft env.formats l)
    (hi : i = 0 → previous = none) (htip : Tip env previous p before)
    (hids : Contiguous before (identities ls)) {docs : List Document}
    (hdocs : docs.map Document.val = chainFrom env p ls) :
    ∃ s, docs.foldlM (verifyStep env) (previous, i) = .ok s := by
  induction ls generalizing previous p before i docs with
  | nil =>
      rw [chainFrom, List.map_eq_nil_iff] at hdocs
      rw [hdocs]
      exact ⟨_, rfl⟩
  | cons l ls ih =>
      have hl := hls l List.mem_cons_self
      obtain ⟨hfollow, hrest⟩ := contiguous_cons hids
      rw [chainFrom, List.map_eq_cons_iff] at hdocs
      obtain ⟨d, docs, rfl, hd, hdocs⟩ := hdocs
      obtain ⟨s, hs⟩ := ih (fun x hx => hls x (List.mem_cons_of_mem _ hx)) (i := i + 1) nofun
        (.after hl (htip.link hdigest)) hrest hdocs
      refine ⟨s, ?_⟩
      rw [List.foldlM_cons, bind_of (verifyStep_of hdigest hl htip hfollow hi hd)]
      exact hs

theorem pick_self {v : JsVal} {q : Fields} (h : ∀ x ∈ q, v.get? x.1 = some x.2) :
    pick v q.keys = q := by
  induction q with
  | nil => rfl
  | cons x q ih =>
      have hrest := ih fun y hy => h y (List.mem_cons_of_mem _ hy)
      rw [pick, Fields.keys, List.map_cons, List.filterMap_cons, h x List.mem_cons_self]
      show x :: pick v (Fields.keys q) = _
      rw [hrest]

/-- The draft of an envelope is the draft it was made of. -/
theorem upcastDraft_envelope (hl : IsDraft env.formats l) (p : JsVal) (i : Nat) :
    upcastDraft env (.obj (envelope env l p)) i = .ok (.obj l) := by
  have hpick : pick (.obj (envelope env l p)) l.keys = l := by
    refine pick_self fun x hx => ?_
    have hkey : x.1 ∈ l.keys := List.mem_map_of_mem hx
    have hdraft : x.1 ∉ ["payloadHash", "previousEventHash", "eventHash"] := by
      rw [isDraft_keys hl] at hkey
      intro hseal
      simp only [List.mem_cons, List.not_mem_nil, or_false] at hseal
      rcases hseal with heq | heq | heq <;> rw [heq] at hkey <;> simp at hkey
    rw [envelope_get? l p hdraft]
    exact (Fields.lookup_eq_some_iff (JsVal.plain_obj hl.plain).1 x.1 x.2).mpr hx
  have hdraft : currentDraft env (.obj (envelope env l p)) = .ok (.obj l) := by
    rw [isDraft_keys hl] at hpick
    rw [currentDraft, hpick]
    exact hl.fits.strictObject (eventDraftFields_nodup env.formats)
  rw [upcastDraft, envelope_current hl, if_neg (by simp), hdraft]

end InspectionHub.Domain
