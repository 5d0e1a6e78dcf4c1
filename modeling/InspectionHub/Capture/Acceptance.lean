import InspectionHub.Capture.LedgerSteps

/-!
# When the SQLite ledger accepts an operation

The converses of the lemmas that tell what an accepted operation passed: with
its checks met and room in the tables, an operation is accepted.
-/

namespace InspectionHub.Capture

open Domain (bind_of)

theorem bind_error {α β : Type} {x : Except LedgerError α} {e : LedgerError} (h : x = .error e)
    (f : α → Except LedgerError β) : (x >>= f) = .error e := by
  rw [h]
  rfl

variable {l : SQLiteLedger}

/-- A digest in hexadecimal has 64 characters for the database too. -/
theorem sqlLength_of_isHexDigest {text : String} (h : Js.isHexDigest text = true) :
    sqlLength text = 64 := by
  simp only [Js.isHexDigest, Bool.and_eq_true, decide_eq_true_eq, List.all_eq_true] at h
  have hall : text.toList.takeWhile (· ≠ '\x00') = text.toList := by
    refine List.takeWhile_eq_self_iff.mpr fun c hc => ?_
    have hhex := h.2 c hc
    have hne : c ≠ '\x00' := by
      rintro rfl
      exact absurd hhex (by decide)
    exact decide_eq_true hne
  rw [sqlLength, hall]
  exact h.1

theorem commit_of {captureId : String} {artifact : DurableArtifact} {intent : CaptureIntent}
    (ha : Aligned l) (hintent : l.memory.intents.get? captureId = some intent)
    (hid : artifact.captureId = captureId) (hvalid : ValidArtifact artifact)
    (hnone : l.memory.artifacts.get? captureId = none)
    (huri : ∀ row ∈ l.database.captureArtifacts.values, row.fileUri ≠ artifact.fileUri)
    (hqueue : l.database.captureQueue.get? captureId = none) :
    ∃ l', l.commitDurableCapture false captureId artifact = .ok l' := by
  subst hid
  have hreserved : (l.database.captureIntents.get? artifact.captureId).isSome := by
    rw [← ha.reserved_iff, hintent]
    rfl
  have hrow : l.database.captureArtifacts.get? artifact.captureId = none := by
    rw [← ha.artifacts]
    exact hnone
  let db : Database :=
    { l.database with captureArtifacts := l.database.captureArtifacts.put artifact }
  have hinsert : l.database.insertArtifact artifact = .ok db := by
    obtain ⟨hsynced, hbytes, hsha, -⟩ := hvalid
    unfold Database.insertArtifact
    rw [bind_of (check_of hrow _), bind_of (check_of hreserved _), bind_of (check_of huri _),
      bind_of (check_of (sqlLength_of_isHexDigest hsha) _), bind_of (check_of hbytes _),
      bind_of (check_of hsynced _)]
    rfl
  have henqueue : db.insertQueue (uploadItem artifact) =
      .ok { db with captureQueue := db.captureQueue.put (uploadItem artifact) } :=
    bind_of (check_of hqueue _) _
  unfold SQLiteLedger.commitDurableCapture
  rw [hintent]
  dsimp only
  rw [bind_of (check_of rfl _), assertArtifact, bind_of (check_of hvalid _), hnone]
  simp only [transaction, hinsert, Bool.false_eq_true, if_false, bind, Except.bind, henqueue]
  exact ⟨_, rfl⟩

theorem markIntent_of {captureId : String} (state : CaptureIntentState)
    (failureCode : Option String) {current : CaptureIntent} (ha : Aligned l)
    (hcurrent : l.memory.intents.get? captureId = some current) :
    ∃ l', l.markIntent false captureId state failureCode = .ok l' := by
  have hrow : (l.database.captureIntents.get? captureId).isSome := by
    rw [← ha.reserved_iff, hcurrent]
    rfl
  unfold SQLiteLedger.markIntent
  rw [hcurrent]
  by_cases hstate : state = .acknowledged
  · simp only [transaction, if_pos hstate, Database.insertAcknowledgement, check_of hrow, bind,
      Except.bind, Bool.false_eq_true, if_false]
    exact ⟨_, rfl⟩
  · simp only [transaction, if_neg hstate, bind, Except.bind, Bool.false_eq_true, if_false]
    exact ⟨_, rfl⟩

end InspectionHub.Capture
