import CodeBrief.Proofs.Packing

/-!
# Packing what was packed changes nothing

The files of a prompt are packed again into the same space. Those taken whole are
met in the same order with the same tally, and fit as they did before. The cut
one is measured differently the second time: room was made for it with the header
of a cut file, and it is measured now with that of a whole one. The second is
shorter, so the excerpt fits and is not cut again.
-/

namespace CodeBrief

namespace ContextFile

theorem sectionLength_false_le (f : ContextFile) (number : Int) :
    f.sectionLength number false ≤ f.sectionLength number true := by
  have hlonger := f.length_header_true number
  rw [sectionLength, sectionLength]
  omega

end ContextFile

namespace Packing

theorem Tally.count_add_le (t : Tally) (k k' : Kind) : (t.add k).count k' ≤ t.count k' + 1 := by
  cases k <;> cases k' <;> simp [Tally.add, Tally.count]

/-- No number that a file can get makes its header, as that of a cut file, overlong. -/
def HeadersFit (files : List ContextFile) (t : Tally) : Prop :=
  ∀ f ∈ files, ∀ i : Nat, 1 ≤ i → i ≤ t.count f.kind + files.length → (f.header i true).length ≤ 500

theorem HeadersFit.tail {f : ContextFile} {rest : List ContextFile} {t : Tally}
    (h : HeadersFit (f :: rest) t) : HeadersFit rest (t.add f.kind) := by
  intro g hg i hpos hi
  have hcount := t.count_add_le f.kind g.kind
  refine h g (List.mem_cons_of_mem f hg) i hpos ?_
  rw [List.length_cons]
  omega

theorem fill_singleton {f : ContextFile} {t : Tally} {left : Int}
    (h : (f.sectionLength (t.count f.kind + 1 : Nat) false : Int) ≤ left) :
    (fill [f] t left).1 = [f] := by
  rw [fill]
  simp only []
  rw [if_pos h, fill]

/-- The files taken fill the same space once more. -/
theorem fill_fill {files : List ContextFile} {t : Tally} {left : Int} (h : HeadersFit files t) :
    (fill (fill files t left).1 t left).1 = (fill files t left).1 := by
  induction files generalizing t left with
  | nil => rfl
  | cons f rest ih =>
      rw [fill.eq_def (f :: rest)]
      simp only []
      split
      · next hfits =>
          rw [fill]
          simp only []
          rw [if_pos hfits, ih h.tail]
      · split
        · next hleft =>
            have hhead : (f.header (t.count f.kind + 1 : Nat) true).length ≤ 500 :=
              h f List.mem_cons_self _ (Nat.le_add_left 1 _) (by rw [List.length_cons]; omega)
            have hcut := sectionLength_cutTo_le hleft hhead
            have hwhole := (f.cutTo (cutLimit f (t.count f.kind + 1) left)).sectionLength_false_le
              (t.count f.kind + 1 : Nat)
            exact fill_singleton (Int.le_trans (Int.ofNat_le.mpr hwhole) hcut)
        · rfl

/-- Packing the files taken again, into the same space, takes them all and cuts none further. -/
theorem pack_pack {files : List ContextFile}
    (hhead : ∀ f ∈ files, ∀ i : Nat, 1 ≤ i → i ≤ files.length →
      (f.header i true).length ≤ 500) (promptLimit frame question : Int) :
    let packed := pack files promptLimit frame question
    let again := pack packed.included promptLimit frame question
    again.included = packed.included ∧ again.skipped = 0 := by
  intro packed again
  have hfit : HeadersFit files {} := by
    intro f hf i hpos hi
    refine hhead f hf i hpos ?_
    cases hkind : f.kind <;> simpa [Tally.count, hkind] using hi
  have hincluded : again.included = packed.included := fill_fill hfit
  have hall : again.skipped + again.included.length = packed.included.length :=
    skipped_add_length packed.included promptLimit frame question
  rw [hincluded] at hall
  exact ⟨hincluded, by omega⟩

theorem included_cut_first {f : ContextFile} {promptLimit frame question : Int}
    (hspace : leastSpaceToCut < promptLimit - frame - question)
    (hover : promptLimit - frame - question < f.sectionLength 1 false) :
    (pack [f] promptLimit frame question).included =
      [f.cutTo (cutLimit f 1 (promptLimit - frame - question))] := by
  have hcost : ¬(f.sectionLength 1 false : Int) ≤ promptLimit - frame - question :=
    Int.not_le.mpr hover
  have hnone : ({} : Tally).count f.kind = 0 := by cases f.kind <;> rfl
  rw [included_pack]
  simp [fill, hnone, hcost, hspace]

/-- A file that was cut before and is too long all the same. -/
theorem pack_pack_cut_before :
    let long : ContextFile :=
      ⟨"/p/b", "b", String.ofList (List.replicate 1000 'y'), .reference, true⟩
    (∀ f ∈ [long], ∀ i : Nat, 1 ≤ i → i ≤ [long].length → (f.header i true).length ≤ 500) ∧
    (pack [long] 1000 60 40).included = [long.cutTo 700] ∧
    (pack [long.cutTo 700] 1000 60 40).included = [long.cutTo 700] ∧
    (pack [long.cutTo 700] 1000 60 40).skipped = 0 := by
  intro long
  have hheader : (long.header (1 : Nat) true).length = 41 := by decide +kernel
  have hhead : ∀ f ∈ [long], ∀ i : Nat, 1 ≤ i → i ≤ [long].length →
      (f.header i true).length ≤ 500 := by
    intro f hf i hpos hi
    obtain rfl : f = long := List.mem_singleton.mp hf
    obtain rfl : i = 1 := Nat.le_antisymm hi hpos
    rw [hheader]
    decide
  have hover : (1000 : Int) - 60 - 40 < long.sectionLength 1 false := by
    have hcontent : long.content.length = 1000 := by
      rw [String.length_ofList, List.length_replicate]
    rw [ContextFile.sectionLength, hcontent]
    omega
  have hincluded : (pack [long] 1000 60 40).included = [long.cutTo 700] := by
    have hlimit : cutLimit long 1 (1000 - 60 - 40) = 700 := by
      rw [cutLimit, hheader]
      decide
    rw [← hlimit]
    exact included_cut_first (by decide) hover
  have hagain := pack_pack hhead 1000 60 40
  simp only [hincluded] at hagain
  exact ⟨hhead, hincluded, hagain⟩

end Packing
end CodeBrief
