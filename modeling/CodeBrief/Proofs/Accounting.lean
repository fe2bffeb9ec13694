import CodeBrief.Proofs.Packing

/-!
# A layout renders files for what packing used

Packing and the layout measure the same files apart from each other. Packing goes
through them in order, with a tally by kind, and pays for each with the header of
a whole file. The layout takes the two kinds apart, numbers each from one, and
gives a cut file its longer header. The two sums are the same as long as nothing
is cut (`sectionsLength_take`); a cut file was given room for the longer header
when it was cut, so that what is rendered stays within what was used.
-/

namespace CodeBrief.Packing

/-- The sections of the files taken come to what packing says it used, if none of them was cut. If
one was, all of the budget was used, and they come to no more than that. They are what a layout
has beside its outline and the question. -/
theorem used_covers_sections {files : List ContextFile} {promptLimit frame question : Int}
    (hwhole : ∀ f ∈ files, f.truncated = false)
    (hhead : ∀ f ∈ files, ∀ i : Nat, 1 ≤ i → i ≤ files.length →
      (f.header i true).length ≤ 500)
    (hbudget : 0 ≤ promptLimit - frame - question) :
    let packed := pack files promptLimit frame question
    ((∀ f ∈ packed.included, f.truncated = false) →
      (Layout.sectionsLength packed.included : Int) = packed.used) ∧
    ((∃ f ∈ packed.included, f.truncated = true) →
      (Layout.sectionsLength packed.included : Int) ≤ packed.used ∧
        packed.used = promptLimit - frame - question) ∧
    ∀ (skipped : Int) (text : String),
      (Layout.layout packed.included skipped text).length =
        Layout.outlineLength packed.included skipped + Layout.sectionsLength packed.included +
          text.length := by
  intro packed
  have hcases := sectionsLength_included_cases hwhole hhead hbudget
  refine ⟨fun hnone => ?_, fun hcut => ?_, fun skipped text => Layout.length_layout _ _ _⟩
  · rcases hcases with ⟨-, hsections, -⟩ | ⟨⟨f, hf, hcut⟩, -⟩
    · exact hsections
    · cases (hnone f hf).symm.trans hcut
  · obtain ⟨f, hf, hcut⟩ := hcut
    rcases hcases with ⟨hsubset, -⟩ | ⟨-, hsections, hused⟩
    · cases (hwhole f (hsubset hf)).symm.trans hcut
    · exact ⟨hsections, hused⟩

/-- A reference behind a source that leaves it less than it needs. -/
theorem used_covers_sections_second_cut :
    let short : ContextFile := ⟨"/p/a", "a", "x = 1", .source, false⟩
    let long : ContextFile :=
      ⟨"/p/b", "b", String.ofList (List.replicate 1000 'y'), .reference, false⟩
    let packed := pack [short, long] 1000 60 40
    (∀ f ∈ [short, long], f.truncated = false) ∧
    (∀ f ∈ [short, long], ∀ i : Nat, 1 ≤ i → i ≤ [short, long].length →
      (f.header i true).length ≤ 500) ∧
    (0 : Int) ≤ 1000 - 60 - 40 ∧ packed.included = [short, long.cutTo 668] ∧
    (Layout.sectionsLength packed.included : Int) ≤ packed.used ∧ packed.used = 1000 - 60 - 40 := by
  intro short long packed
  have hpacked : packed = pack [short, long] 1000 60 40 := rfl
  clear_value packed
  have hwhole : ∀ f ∈ [short, long], f.truncated = false := by
    simp only [List.forall_mem_cons]
    exact ⟨rfl, rfl, List.forall_mem_nil _⟩
  have hhead : ∀ f ∈ [short, long], ∀ i : Nat, 1 ≤ i → i ≤ [short, long].length →
      (f.header i true).length ≤ 500 := by
    have hshort : (short.header (1 : Nat) true).length ≤ 500 ∧
        (short.header (2 : Nat) true).length ≤ 500 := by decide +kernel
    have hlong : (long.header (1 : Nat) true).length ≤ 500 ∧
        (long.header (2 : Nat) true).length ≤ 500 := by decide +kernel
    have hnumber {i : Nat} (hpos : 1 ≤ i) (hi : i ≤ 2) : i = 1 ∨ i = 2 := by omega
    simp only [List.forall_mem_cons]
    refine ⟨fun i hpos hi => ?_, fun i hpos hi => ?_, List.forall_mem_nil _⟩
    · rcases hnumber hpos hi with rfl | rfl
      · exact hshort.1
      · exact hshort.2
    · rcases hnumber hpos hi with rfl | rfl
      · exact hlong.1
      · exact hlong.2
  have hshort : short.sectionLength 1 false = 32 := by decide +kernel
  have hlong : long.sectionLength 1 false = 1030 := by
    have hheader : (long.header 1 false).length = 29 := by decide +kernel
    have hcontent : long.content.length = 1000 := by
      rw [String.length_ofList, List.length_replicate]
    rw [ContextFile.sectionLength, hheader, hcontent]
  have hlimit : cutLimit long 1 (1000 - 60 - 40 - short.sectionLength 1 false) = 668 := by
    have hheader : (long.header (1 : Nat) true).length = 41 := by decide +kernel
    rw [cutLimit, hshort, hheader]
    decide
  have hincluded : packed.included = [short, long.cutTo 668] := by
    rw [hpacked, ← hlimit]
    exact included_cut_second (by decide) (by rw [hshort]; decide) (by rw [hshort]; decide)
      (by rw [hshort, hlong]; decide)
  have hmem : long.cutTo 668 ∈ packed.included := by
    rw [hincluded]
    exact List.mem_cons_of_mem _ List.mem_cons_self
  obtain ⟨-, hcut, -⟩ := used_covers_sections hwhole hhead (show (0 : Int) ≤ 1000 - 60 - 40 by decide)
  rw [← hpacked] at hcut
  exact ⟨hwhole, hhead, by decide, hincluded, hcut ⟨long.cutTo 668, hmem, rfl⟩⟩

end CodeBrief.Packing
