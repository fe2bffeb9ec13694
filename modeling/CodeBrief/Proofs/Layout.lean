import CodeBrief.Prompt.Layout
import CodeBrief.Proofs.Decimal

/-!
# The length of a prompt

A layout is three things: what stands around the files, the files' sections, and
the question. Their lengths add up (`length_layout`), and the first is bounded
by a frame that is known before any file is taken (`outlineLength_le`), because
a title is there or not and no count of the summary can have more digits than
the number of all files.

The second half is the cap. It cuts into the layout, appends the marker and cuts
again, and the two cuts meet in one of two ways: from the reserve upwards the
marker is whole and the second cut does nothing, below it only the marker is
left.
-/

namespace CodeBrief.Layout

/-! ## Sections -/

/-- The length of the sections of some files, each kind numbered from one. -/
def sectionsLength (files : List ContextFile) : Nat :=
  (sections (files.filter (·.kind = .source)) 1).length +
    (sections (files.filter (·.kind = .reference)) 1).length

theorem length_sections_cons (f : ContextFile) (rest : List ContextFile) (number : Nat) :
    (sections (f :: rest) number).length =
      f.sectionLength number f.truncated + (sections rest (number + 1)).length := by
  have hfeed : "\n".length = 1 := rfl
  rw [sections, ContextFile.sectionLength]
  simp only [String.length_append, hfeed]
  omega

theorem length_sections_append (a b : List ContextFile) (number : Nat) :
    (sections (a ++ b) number).length =
      (sections a number).length + (sections b (number + a.length)).length := by
  induction a generalizing number with
  | nil => simp [sections]
  | cons f a ih =>
      rw [List.cons_append, length_sections_cons, length_sections_cons, ih, List.length_cons,
        Nat.add_right_comm number 1, Nat.add_assoc number]
      omega

/-- One file more at the end takes the next number of its kind. -/
theorem sectionsLength_concat (files : List ContextFile) (f : ContextFile) :
    sectionsLength (files ++ [f]) =
      sectionsLength files +
        f.sectionLength (files.countP (·.kind = f.kind) + 1 : Nat) f.truncated := by
  have hlast (n : Nat) : (sections [f] (1 + n)).length =
      f.sectionLength (n + 1 : Nat) f.truncated := by
    rw [length_sections_cons, sections, String.length_empty, Nat.add_zero, Nat.add_comm]
  rw [sectionsLength, sectionsLength, List.filter_append, List.filter_append,
    length_sections_append, length_sections_append]
  cases hkind : f.kind with
  | source =>
      rw [List.filter_cons_of_pos (by simp [hkind]), List.filter_cons_of_neg (by simp [hkind]),
        List.filter_nil, List.filter_nil, hlast, List.countP_eq_length_filter, sections,
        String.length_empty]
      omega
  | reference =>
      rw [List.filter_cons_of_neg (by simp [hkind]), List.filter_cons_of_pos (by simp [hkind]),
        List.filter_nil, List.filter_nil, hlast, List.countP_eq_length_filter, sections,
        String.length_empty]
      omega

/-! ## The outline -/

/-- The length of a title over files, which is only there if they are. -/
def titleLength (title : String) (files : List ContextFile) : Nat :=
  if files.isEmpty then 0 else title.length

theorem length_titled (title : String) (files : List ContextFile) :
    (titled title files).length = titleLength title files + (sections files 1).length := by
  rw [titled, titleLength]
  split
  · next h => rw [List.isEmpty_iff.mp h, sections]; rfl
  · rw [String.length_append]

theorem titleLength_le (title : String) (files : List ContextFile) :
    titleLength title files ≤ title.length := by
  rw [titleLength]
  split <;> omega

/-- The length of the summary of a prompt, which is only there if files were skipped. -/
def summaryLength (included : List ContextFile) (skipped : Int) : Nat :=
  if 0 < skipped then
    (summary included.length (included.filter (·.kind = .source)).length
      (included.filter (·.kind = .reference)).length skipped).length
  else 0

/-- What a layout has outside the sections of its files and the question. -/
def outlineLength (included : List ContextFile) (skipped : Int) : Nat :=
  preamble.length + titleLength sourcesTitle (included.filter (·.kind = .source)) +
    titleLength referencesTitle (included.filter (·.kind = .reference)) +
    summaryLength included skipped + questionTitle.length

theorem length_layout (included : List ContextFile) (skipped : Int) (question : String) :
    (layout included skipped question).length =
      outlineLength included skipped + sectionsLength included + question.length := by
  rw [layout, outlineLength, sectionsLength, summaryLength]
  simp only [String.length_append, length_titled]
  split
  · omega
  · rw [String.length_empty]; omega

theorem length_summary_le {included sources references skipped n : Nat}
    (hi : included ≤ n) (hs : sources ≤ n) (hr : references ≤ n) (hk : skipped ≤ n) :
    (summary included sources references skipped).length ≤ (summary n n n n).length := by
  have h1 := Json.length_intText_mono hi
  have h2 := Json.length_intText_mono hs
  have h3 := Json.length_intText_mono hr
  have h4 := Json.length_intText_mono hk
  simp only [summary, String.length_append]
  omega

/-- The frame of as many files as are included and skipped covers the outline. -/
theorem outlineLength_le {included : List ContextFile} {skipped n : Int}
    (h : included.length + skipped ≤ n) :
    outlineLength included skipped ≤ frameLength n := by
  have h1 := titleLength_le sourcesTitle (included.filter (·.kind = .source))
  have h2 := titleLength_le referencesTitle (included.filter (·.kind = .reference))
  have h3 : summaryLength included skipped ≤ (summary n n n n).length := by
    have hs := List.length_filter_le (fun f => decide (f.kind = .source)) included
    have hr := List.length_filter_le (fun f => decide (f.kind = .reference)) included
    rw [summaryLength]
    split
    · next hpos =>
        obtain ⟨k, rfl⟩ := Int.eq_ofNat_of_zero_le (Int.le_of_lt hpos)
        obtain ⟨m, rfl⟩ := Int.eq_ofNat_of_zero_le (show 0 ≤ n by omega)
        exact length_summary_le (by omega) (by omega) (by omega) (by omega)
    · exact Nat.zero_le _
  rw [outlineLength, frameLength]
  omega

/-! ## The cap -/

theorem length_capMarker : capMarker.length = 38 := by decide

theorem capChars_of_le {limit : Int} {cs : List Char} (h : (cs.length : Int) ≤ limit) :
    capChars limit cs = cs := by
  rw [capChars, if_pos h]

/-- What is left of the marker under a limit. -/
def markerWithin (limit : Int) : List Char :=
  if capMarker.length ≤ limit then capMarker else capMarker.take limit.toNat

/-- A prompt over its limit keeps what the reserve leaves, and ends in the marker. -/
theorem capChars_of_lt {limit : Int} {cs : List Char} (hpos : 0 ≤ limit)
    (h : limit < cs.length) :
    capChars limit cs = cs.take (limit - capReserve).toNat ++ markerWithin limit := by
  have hmarker := length_capMarker
  rw [capChars, if_neg (by omega), takeSigned, if_pos hpos, List.take_append,
    List.take_take, List.length_take, markerWithin]
  simp only [capReserve]
  rw [Nat.min_eq_right (by omega)]
  congr 1
  split
  · exact List.take_of_length_le (by omega)
  · congr 1
    omega

theorem length_capChars_le {limit : Int} (hpos : 0 ≤ limit) (cs : List Char) :
    ((capChars limit cs).length : Int) ≤ limit := by
  rcases Int.lt_or_le limit cs.length with h | h
  · have hmarker := length_capMarker
    rw [capChars_of_lt hpos h, List.length_append, List.length_take, markerWithin]
    simp only [capReserve]
    split
    · omega
    · rw [List.length_take]; omega
  · rw [capChars_of_le h]
    exact h

theorem length_enforceCap_le {limit : Int} (hpos : 0 ≤ limit) (prompt : String) :
    ((enforceCap limit prompt).length : Int) ≤ limit := by
  rw [enforceCap, String.length_ofList]
  exact length_capChars_le hpos prompt.toList

theorem enforceCap_of_le {limit : Int} {prompt : String} (h : (prompt.length : Int) ≤ limit) :
    enforceCap limit prompt = prompt := by
  rw [enforceCap, capChars_of_le (by rwa [String.length_toList]), String.ofList_toList]

theorem toList_enforceCap_of_lt {limit : Int} {prompt : String} (hpos : 0 ≤ limit)
    (h : limit < prompt.length) :
    (enforceCap limit prompt).toList =
      prompt.toList.take (limit - capReserve).toNat ++ markerWithin limit := by
  rw [enforceCap, String.toList_ofList,
    capChars_of_lt hpos (by rwa [String.length_toList])]

/-- What has been capped fits, so capping it again does nothing. -/
theorem enforceCap_enforceCap {limit : Int} (hpos : 0 ≤ limit) (prompt : String) :
    enforceCap limit (enforceCap limit prompt) = enforceCap limit prompt :=
  enforceCap_of_le (length_enforceCap_le hpos prompt)

end CodeBrief.Layout
