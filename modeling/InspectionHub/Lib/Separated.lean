import InspectionHub.Lib.Sql
import InspectionHub.Lib.Uuid

/-!
# Reading fields off a text

Fields joined with bars are the segments of the text as long as none holds a
bar itself; a field that does counts for several. The segments determine the
text (`segments_injective`).
-/

namespace InspectionHub.Sql

/-- The parts of a text between its bars. -/
def segments (s : String) : List (List Char) := s.toList.splitOn '|'

theorem segments_injective : Function.Injective segments := by
  intro s t h
  apply String.toList_inj.mp
  have hjoin := congrArg (List.intercalate ['|']) h
  simpa only [segments, List.intercalate_splitOn] using hjoin

theorem segments_ne_nil (s : String) : segments s ≠ [] := List.splitOn_ne_nil '|' s.toList

/-- A text without bars is one segment. -/
theorem segments_of {s : String} (h : '|' ∉ s.toList) : segments s = [s.toList] :=
  List.splitOn_eq_singleton h

theorem segments_bar (s t : String) : segments (s ++ "|" ++ t) = segments s ++ segments t := by
  have hlist : (s ++ "|" ++ t).toList = s.toList ++ '|' :: t.toList := by simp
  rw [segments, hlist]
  exact List.splitOn_append_cons_self _ _

/-- The segments of joined fields are those of the fields. -/
theorem segments_separated {l : List String} (hl : l ≠ []) :
    segments (separated "|" l) = l.flatMap segments := by
  induction l with
  | nil => exact absurd rfl hl
  | cons a l ih =>
      cases l with
      | nil => simp [separated]
      | cons b l =>
          rw [separated, segments_bar, ih (List.cons_ne_nil b l)]
          rfl

/-- Fields without bars are read back. -/
theorem flatMap_segments {l : List String} (h : ∀ s ∈ l, '|' ∉ s.toList) :
    l.flatMap segments = l.map String.toList := by
  induction l with
  | nil => rfl
  | cons s l ih =>
      rw [List.flatMap_cons, segments_of (h s List.mem_cons_self),
        ih fun t ht => h t (List.mem_cons_of_mem s ht)]
      rfl

theorem bar_not_mem_segment {s : String} {w : List Char} (h : w ∈ segments s) : '|' ∉ w := by
  unfold segments at h
  generalize s.toList = chars at h
  induction chars generalizing w with
  | nil =>
      rw [List.splitOn_nil, List.mem_singleton] at h
      rw [h]
      exact List.not_mem_nil
  | cons c l ih =>
      rw [List.splitOn_cons_eq_if_modifyHead] at h
      split at h
      · rcases List.mem_cons.mp h with rfl | h
        · exact List.not_mem_nil
        · exact ih h
      · next hc =>
          obtain ⟨first, rest, hsplit⟩ := List.exists_cons_of_ne_nil (List.splitOn_ne_nil '|' l)
          rw [hsplit, List.modifyHead_cons] at h
          rcases List.mem_cons.mp h with rfl | h
          · intro hmem
            rcases List.mem_cons.mp hmem with hbar | hmem
            · exact hc (beq_iff_eq.mpr hbar.symm)
            · exact ih (hsplit ▸ List.mem_cons_self) hmem
          · exact ih (hsplit ▸ List.mem_cons_of_mem _ h)

/-- Segments without bars are those of a text. -/
theorem exists_segments {l : List (List Char)} (hl : l ≠ []) (h : ∀ w ∈ l, '|' ∉ w) :
    ∃ s, segments s = l := by
  refine ⟨String.ofList (['|'].intercalate l), ?_⟩
  rw [segments, String.toList_ofList]
  exact List.splitOn_intercalate '|' h hl

theorem bar_not_mem_natText (n : Nat) : '|' ∉ Json.natText n :=
  fun h => absurd (Json.natText_isDigit n _ h) (by decide)

theorem bar_not_mem_uuid (id : Uuid) : '|' ∉ id.text.toList := by
  intro h
  rcases Uuid.mem_text h with h | h <;> exact absurd h (by decide)

/-- A field without the separator is read off a text in one way only. -/
theorem field_cancel {c : Char} {l l' r r' : List Char} (hl : c ∉ l) (hl' : c ∉ l')
    (h : l ++ c :: r = l' ++ c :: r') : l = l' ∧ r = r' := by
  induction l generalizing l' with
  | nil =>
      cases l' with
      | nil => exact ⟨rfl, (List.cons.inj h).2⟩
      | cons d l' => exact absurd ((List.cons.inj h).1 ▸ List.mem_cons_self) hl'
  | cons d l ih =>
      cases l' with
      | nil => exact absurd ((List.cons.inj h).1 ▸ List.mem_cons_self) hl
      | cons d' l' =>
          obtain ⟨hd, hrest⟩ := List.cons.inj h
          obtain ⟨hl'', hr⟩ := ih (fun hc => hl (List.mem_cons_of_mem _ hc))
            (fun hc => hl' (List.mem_cons_of_mem _ hc)) hrest
          exact ⟨by rw [hd, hl''], hr⟩

end InspectionHub.Sql
