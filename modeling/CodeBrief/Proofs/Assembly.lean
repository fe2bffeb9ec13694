import CodeBrief.Proofs.Packing
import CodeBrief.Proofs.Reachable

/-!
# A prompt keeps its limit, and its question

What packing may spend is what the frame, a buffer and the question leave of the
limit. The frame covers what a layout has around its files and the files' sections
stay within the budget, so if there is a budget at all, the layout ends a
buffer below the limit and the final cap never touches it. It follows that the
cap only ever cuts a prompt without files.

The cap itself needs none of this: it holds for every limit above zero, the
reserve and the marker included.
-/

namespace CodeBrief

namespace Priority

theorem rank_perm (files : List ContextFile) : (rank files).Perm files := by
  have hsort := (List.mergeSort_perm (files.map fun f => (f, score f)) precedes).map Prod.fst
  rwa [List.map_map, show Prod.fst ∘ (fun f => (f, score f)) = id from rfl, List.map_id]
    at hsort

theorem length_rank (files : List ContextFile) : (rank files).length = files.length :=
  (rank_perm files).length_eq

end Priority

namespace Session

/-- The text of a prompt before the final cap. -/
def uncapped (s : Session) (question : String) : String :=
  Layout.layout (s.packed question).included (s.packed question).skipped question

/-- What packing may spend on files around a question. -/
def budget (s : Session) (question : String) : Int :=
  s.context.maxPromptLength - Layout.frameLength s.files.length - 100 - question.length

variable {s : Session} {question : String}

theorem packed_eq : s.packed question =
    Packing.pack (Priority.rank s.files) s.context.maxPromptLength
      (Layout.frameLength s.files.length + promptBuffer) question.length := by
  rw [packed, Priority.length_rank]

theorem packed_budget : s.context.maxPromptLength -
    (Layout.frameLength s.files.length + promptBuffer) - question.length =
      s.budget question := by
  rw [budget, promptBuffer]
  omega

theorem included_add_skipped (s : Session) (question : String) :
    (s.packed question).included.length + (s.packed question).skipped = s.files.length := by
  have h := Packing.skipped_add_length (Priority.rank s.files) s.context.maxPromptLength
    (Layout.frameLength s.files.length + promptBuffer) question.length
  rw [← packed_eq, Priority.length_rank] at h
  omega

/-- Files whose headers are not overlong are packed within the budget. -/
theorem sectionsLength_packed_le (hwhole : ∀ f ∈ s.files, f.truncated = false)
    (hhead : ∀ f ∈ s.files, ∀ i : Nat, 1 ≤ i → i ≤ s.files.length →
      (f.header i true).length ≤ 500)
    (hbudget : 0 ≤ s.budget question) :
    (Layout.sectionsLength (s.packed question).included : Int) ≤ s.budget question := by
  have hmem {f : ContextFile} (hf : f ∈ Priority.rank s.files) : f ∈ s.files :=
    (Priority.rank_perm s.files).mem_iff.mp hf
  rw [← packed_budget] at hbudget ⊢
  rw [packed_eq]
  refine Packing.sectionsLength_included_le (fun f hf => hwhole f (hmem hf))
    (fun f hf i hi hn => ?_) hbudget
  rw [Priority.length_rank] at hn
  exact hhead f (hmem hf) i hi hn

/-- The layout stays a buffer below the limit. -/
theorem length_uncapped_le (hwhole : ∀ f ∈ s.files, f.truncated = false)
    (hhead : ∀ f ∈ s.files, ∀ i : Nat, 1 ≤ i → i ≤ s.files.length →
      (f.header i true).length ≤ 500)
    (hbudget : 0 ≤ s.budget question) :
    ((s.uncapped question).length : Int) ≤ s.context.maxPromptLength - 100 := by
  have hsections := sectionsLength_packed_le hwhole hhead hbudget
  have hcount : ((s.packed question).included.length : Int) + (s.packed question).skipped ≤
      s.files.length := Int.ofNat_le.mpr (Nat.le_of_eq (included_add_skipped s question))
  have hframe := Layout.outlineLength_le hcount
  rw [uncapped, Layout.length_layout]
  simp only [budget] at hsections
  omega

/-- Without a budget nothing is packed. -/
theorem included_of_budget_neg (h : s.budget question < 0) :
    (s.packed question).included = [] := by
  rw [packed_eq, Packing.included_pack, packed_budget, Packing.fill_of_neg h]

theorem included_assemble :
    (s.assemble question).included = (s.packed question).included := rfl

theorem hardTruncated_assemble : (s.assemble question).hardTruncated = true ↔
    s.context.maxPromptLength < (s.uncapped question).length := by
  rw [assemble, uncapped]
  exact decide_eq_true_iff

theorem Reachable.limit_pos (hs : s.Reachable) : 0 < s.context.maxPromptLength :=
  hs.sound.valid.2.1

/-- A layout ends in the title of the question and the question as it was asked. -/
theorem uncapped_ends_in_question :
    ∃ front, s.uncapped question = front ++ Layout.questionTitle ++ question :=
  ⟨_, rfl⟩

/-- If there is a budget for files, the prompt is the whole layout, ends in the whole question,
and is a buffer shorter than its limit; so a prompt that is cut has no files in it. -/
theorem assemble_within_budget (hs : s.Reachable)
    (hhead : ∀ f ∈ s.files, ∀ i : Nat, 1 ≤ i → i ≤ s.files.length →
      (f.header i true).length ≤ 500) (question : String) :
    (0 ≤ s.budget question →
      (s.assemble question).hardTruncated = false ∧
      (s.assemble question).prompt = s.uncapped question ∧
      ((s.assemble question).prompt.length : Int) ≤ s.context.maxPromptLength - 100 ∧
      ∃ front, (s.assemble question).prompt = front ++ Layout.questionTitle ++ question) ∧
    ((s.assemble question).hardTruncated = true → (s.assemble question).included = []) := by
  have hlength (h : 0 ≤ s.budget question) :
      ((s.uncapped question).length : Int) ≤ s.context.maxPromptLength - 100 :=
    length_uncapped_le hs.whole hhead h
  refine ⟨fun hbudget => ?_, fun hcut => ?_⟩
  · have hle := hlength hbudget
    have hprompt : (s.assemble question).prompt = s.uncapped question :=
      Layout.enforceCap_of_le
        (show ((s.uncapped question).length : Int) ≤ s.context.maxPromptLength by omega)
    have hwhole : ¬(s.assemble question).hardTruncated = true := by
      rw [hardTruncated_assemble]
      omega
    rw [hprompt]
    exact ⟨Bool.eq_false_iff.mpr hwhole, rfl, hle, uncapped_ends_in_question⟩
  · rw [hardTruncated_assemble] at hcut
    rw [included_assemble]
    refine included_of_budget_neg (Int.not_le.mp fun hbudget => ?_)
    have hle := hlength hbudget
    omega

/-- A session with one reference file and a limit that leaves its prompt no room to spare. -/
theorem assemble_within_budget_one_file :
    let w : Workspace := ⟨none, [], fun _ _ _ => .ok [], fun _ => .ok "x = 1\n"⟩
    let c := { Settings.defaultContext with maxPromptLength := Layout.frameLength 1 + 104 }
    let s := (start ⟨c, []⟩).after (.addReference w "/p/a.py")
    s.Reachable ∧
    (∀ f ∈ s.files, ∀ i : Nat, 1 ≤ i → i ≤ s.files.length → (f.header i true).length ≤ 500) ∧
    s.budget "why?" = 0 ∧ (s.assemble "why?").hardTruncated = false ∧
    ∃ front, (s.assemble "why?").prompt = front ++ Layout.questionTitle ++ "why?" := by
  intro w c s
  have hvalid : c.Valid := ⟨by decide, Int.add_pos_of_nonneg_of_pos (Int.natCast_nonneg _)
    (by decide), by decide⟩
  have hs : s.Reachable := .call _ (.start hvalid)
  have hfiles : s.files = [⟨"/p/a.py", "a.py", "x = 1\n", .reference, false⟩] := by
    decide +kernel
  have hhead : ∀ f ∈ s.files, ∀ i : Nat, 1 ≤ i → i ≤ s.files.length →
      (f.header i true).length ≤ 500 := by
    rw [hfiles]
    intro f hf i hi hn
    obtain rfl : f = ⟨"/p/a.py", "a.py", "x = 1\n", .reference, false⟩ :=
      List.mem_singleton.mp hf
    obtain rfl : i = 1 := Nat.le_antisymm hn hi
    decide +kernel
  have hbudget : s.budget "why?" = 0 := by
    have hquestion : ("why?" : String).length = 4 := by decide +kernel
    have hlimit : s.context.maxPromptLength = Layout.frameLength 1 + 104 := rfl
    rw [budget, hfiles, List.length_singleton, hlimit, hquestion, Int.natCast_one]
    omega
  obtain ⟨hwhole, _, _, hend⟩ :=
    (assemble_within_budget hs hhead "why?").1 (Int.le_of_eq hbudget.symm)
  exact ⟨hs, hhead, hbudget, hwhole, hend⟩

/-- The limit holds whatever it is. The prompt is marked as cut exactly if it is not the layout,
and then it is the beginning of the layout, up to the reserve, and the marker, as much of it as
the limit leaves room for. What is capped stays as it is under the same cap. -/
theorem assemble_capped (hs : s.Reachable) (question : String) :
    let limit := s.context.maxPromptLength
    let layout := s.uncapped question
    let p := s.assemble question
    (p.prompt.length : Int) ≤ limit ∧
    (p.hardTruncated = true ↔ p.prompt ≠ layout) ∧
    (p.hardTruncated = true →
      let kept := (max (limit - 100) 0).toNat
      kept ≤ layout.length ∧
      p.prompt.toList = layout.toList.take kept ++
        if (Layout.capMarker.length : Int) ≤ limit then Layout.capMarker
        else Layout.capMarker.take limit.toNat) ∧
    ∀ text : String,
      Layout.enforceCap limit (Layout.enforceCap limit text) = Layout.enforceCap limit text := by
  intro limit layout p
  have hpos : 0 ≤ limit := Int.le_of_lt hs.limit_pos
  have hlength : (p.prompt.length : Int) ≤ limit := Layout.length_enforceCap_le hpos layout
  have hcut : p.hardTruncated = true ↔ limit < layout.length := hardTruncated_assemble
  refine ⟨hlength, ?_, fun h => ?_, Layout.enforceCap_enforceCap hpos⟩
  · rw [hcut]
    constructor
    · rintro hlt heq
      rw [heq] at hlength
      omega
    · intro hne
      exact Int.not_le.mp fun hle => hne (Layout.enforceCap_of_le hle)
  · have hlt := hcut.mp h
    have hkept : (max (limit - 100) 0).toNat = (limit - Layout.capReserve).toNat := by
      rw [Layout.capReserve]
      omega
    refine ⟨by omega, ?_⟩
    rw [hkept]
    exact Layout.toList_enforceCap_of_lt hpos hlt

/-- A limit that the marker alone is over. -/
theorem assemble_capped_twenty :
    let s := start ⟨{ Settings.defaultContext with maxPromptLength := 20 }, []⟩
    s.Reachable ∧ (s.assemble "why?").hardTruncated = true ∧
    (s.assemble "why?").prompt.toList = Layout.capMarker.take 20 := by
  intro s
  have hs : s.Reachable := .start ⟨by decide, by decide, by decide⟩
  have hcut : (s.assemble "why?").hardTruncated = true := by
    have htitle : Layout.questionTitle.length = 23 := by decide +kernel
    have hlimit : s.context.maxPromptLength = 20 := rfl
    rw [hardTruncated_assemble, uncapped, Layout.length_layout, Layout.outlineLength, hlimit]
    omega
  obtain ⟨_, _, hprompt, _⟩ := assemble_capped hs "why?"
  exact ⟨hs, hcut, (hprompt hcut).2⟩

end Session
end CodeBrief
