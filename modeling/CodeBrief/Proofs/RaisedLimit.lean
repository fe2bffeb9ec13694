import CodeBrief.Proofs.Packing

/-!
# Raising the limit of a prompt keeps every file

Two packings of the same files under two limits are compared position by
position. What stands at a position is known without the loop (`takenAt?`): the
file itself before the end of the longest prefix that fits, its excerpt at the
end of it, and nothing behind. The prefix only grows with the budget, so a
position holds the same under the larger limit, or an excerpt became whole, or it
stayed an excerpt of more space (`exists_takenAt?_of_le`). That more space is
never a shorter text is a fact about capping (`length_truncateChars_mono`).
-/

namespace CodeBrief

theorem length_content_cutTo_mono (f : ContextFile) {limit limit' : Int} (h : limit ≤ limit') :
    (f.cutTo limit).content.length ≤ (f.cutTo limit').content.length := by
  have hchars := length_truncateChars_mono f.content.toList h
  simpa only [ContextFile.cutTo, truncate, String.length_ofList] using hchars

theorem length_content_cutTo_le (f : ContextFile) (limit : Int) :
    (f.cutTo limit).content.length ≤ f.content.length := by
  have hchars := length_truncateChars_le_length f.content.toList limit
  simpa only [ContextFile.cutTo, truncate, String.length_ofList, String.length_toList] using hchars

/-- A cut that changes nothing leaves a file that no larger cut changes. -/
theorem ContextFile.cutTo_eq_self_of_le {f : ContextFile} {limit limit' : Int} (h : limit ≤ limit')
    (hself : f.cutTo limit = f) : f.cutTo limit' = f := by
  have hmore := length_content_cutTo_mono f h
  have hless := length_content_cutTo_le f limit'
  rw [hself] at hmore
  have hlength : (truncateChars f.content.toList limit').length = f.content.toList.length := by
    have heq := Nat.le_antisymm hless hmore
    simpa only [cutTo, truncate, String.length_ofList, String.length_toList] using heq
  have htext : truncate f.content limit' = f.content := by
    rw [truncate, truncateChars_of_length_eq hlength, String.ofList_toList]
  have hflag : f.truncated = true := (congrArg ContextFile.truncated hself).symm
  obtain ⟨path, name, content, kind, truncated⟩ := f
  simp only [cutTo, ContextFile.mk.injEq] at htext hflag ⊢
  exact ⟨trivial, trivial, htext, trivial, hflag.symm⟩

namespace Packing

theorem wholeCount_mono (files : List ContextFile) {budget budget' : Int} (h : budget ≤ budget') :
    wholeCount files budget ≤ wholeCount files budget' :=
  Nat.findGreatest_mono_left (fun _ hfits => Int.le_trans hfits h) files.length

theorem cutLimit_mono (f : ContextFile) (number : Nat) {left left' : Int} (h : left ≤ left') :
    cutLimit f number left ≤ cutLimit f number left' := by
  rw [cutLimit, cutLimit]
  omega

/-- What packing takes of the file at a position. -/
def takenAt? (files : List ContextFile) (budget : Int) (i : Nat) : Option ContextFile :=
  let k := wholeCount files budget
  let left := budget - prefixCost files k
  if i < k then files[i]?
  else if i = k ∧ leastSpaceToCut < left then
    files[i]?.map fun f => f.cutTo (cutLimit f (ordinal files i) left)
  else none

theorem getElem?_excerpt (files : List ContextFile) (k : Nat) (left : Int) (j : Nat) :
    (excerpt files k left).1[j]? =
      if j = 0 ∧ leastSpaceToCut < left then
        files[k]?.map fun f => f.cutTo (cutLimit f (ordinal files k) left)
      else none := by
  rw [excerpt]
  cases files[k]? with
  | none => simp
  | some f =>
      by_cases hleft : leastSpaceToCut < left
      · cases j <;> simp [hleft]
      · simp [hleft]

theorem getElem?_fill (files : List ContextFile) (budget : Int) (i : Nat) :
    (fill files {} budget).1[i]? = takenAt? files budget i := by
  have hk := wholeCount_le files budget
  rw [fill_whole, takenAt?]
  split
  · next hi =>
      rw [List.getElem?_append_left (by rw [List.length_take]; omega), List.getElem?_take_of_lt hi]
  · next hi =>
      have hlength : (files.take (wholeCount files budget)).length = wholeCount files budget := by
        rw [List.length_take]
        omega
      rw [List.getElem?_append_right (by omega), hlength, getElem?_excerpt]
      by_cases heq : i = wholeCount files budget
      · rw [heq, Nat.sub_self]
        simp only [true_and]
      · rw [if_neg (by omega), if_neg (by omega)]

/-- A file that is taken is taken from a larger budget as well, with no less of its text and whole
if it was whole. -/
theorem exists_takenAt?_of_le {files : List ContextFile} {budget budget' : Int}
    (h : budget ≤ budget') {i : Nat} {f : ContextFile} (hf : takenAt? files budget i = some f) :
    ∃ g, takenAt? files budget' i = some g ∧ (g.kind, g.path) = (f.kind, f.path) ∧
      f.content.length ≤ g.content.length ∧ (files[i]? = some f → g = f) := by
  have hk := wholeCount_mono files h
  rw [takenAt?] at hf ⊢
  split at hf
  · next hi =>
      rw [if_pos (by omega)]
      exact ⟨f, hf, rfl, Nat.le_refl _, fun _ => rfl⟩
  · next hi =>
      split at hf
      · next hcut =>
          obtain ⟨rfl, hleft⟩ := hcut
          obtain ⟨f₀, hget, rfl⟩ := Option.map_eq_some_iff.mp hf
          rw [hget]
          rcases Nat.lt_or_eq_of_le hk with hlt | heq
          · -- the excerpt became whole
            rw [if_pos hlt]
            exact ⟨f₀, rfl, rfl, length_content_cutTo_le f₀ _, Option.some.inj⟩
          · -- it stayed an excerpt: the files before it cost the same
            have hmore : budget - prefixCost files (wholeCount files budget) ≤
                budget' - prefixCost files (wholeCount files budget') := by
              rw [← heq]
              omega
            have hlimit := cutLimit_mono f₀ (ordinal files (wholeCount files budget)) hmore
            rw [if_neg (by omega), if_pos ⟨heq, by omega⟩]
            refine ⟨_, rfl, rfl, length_content_cutTo_mono f₀ hlimit, fun hwhole => ?_⟩
            have hself := (Option.some.inj hwhole).symm
            rw [hself]
            exact ContextFile.cutTo_eq_self_of_le hlimit hself
      · cases hf

/-- Raising the limit of a prompt never drops a file: those taken stay in front and in order, none
shows less of its text, and what was taken whole stays whole. -/
theorem pack_grows (files : List ContextFile) (frame question : Int) {limit limit' : Int}
    (h : limit ≤ limit') :
    let taken := (pack files limit frame question).included
    let taken' := (pack files limit' frame question).included
    taken.map (fun f => (f.kind, f.path)) <+: taken'.map (fun f => (f.kind, f.path)) ∧
    (∀ (i : Nat) f, files[i]? = some f → taken[i]? = some f → taken'[i]? = some f) ∧
    ∀ (i : Nat) f f', taken[i]? = some f → taken'[i]? = some f' →
      f.content.length ≤ f'.content.length := by
  intro taken taken'
  have hgrows {i : Nat} {f : ContextFile} (hf : taken[i]? = some f) :
      ∃ g, taken'[i]? = some g ∧ (g.kind, g.path) = (f.kind, f.path) ∧
        f.content.length ≤ g.content.length ∧ (files[i]? = some f → g = f) := by
    have hbudget : limit - frame - question ≤ limit' - frame - question := by omega
    rw [show taken = _ from included_pack .., getElem?_fill] at hf
    rw [show taken' = _ from included_pack .., getElem?_fill]
    exact exists_takenAt?_of_le hbudget hf
  refine ⟨?_, fun i f hfile hf => ?_, fun i f f' hf hf' => ?_⟩
  · rw [List.prefix_iff_getElem?]
    intro i hi
    rw [List.length_map] at hi
    obtain ⟨g, hg, hkey, -⟩ := hgrows (List.getElem?_eq_getElem hi)
    rw [List.getElem?_map, hg, List.getElem_map]
    exact congrArg some hkey
  · obtain ⟨g, hg, -, -, hwhole⟩ := hgrows hf
    rw [hg, hwhole hfile]
  · obtain ⟨g, hg, -, hlength, -⟩ := hgrows hf
    rw [hg] at hf'
    cases hf'
    exact hlength

/-- A source that fits and a reference that does not, which is cut under both limits. -/
theorem pack_grows_longer_excerpt :
    let short : ContextFile := ⟨"/p/a", "a", "x = 1", .source, false⟩
    let long : ContextFile :=
      ⟨"/p/b", "b", String.ofList (List.replicate 1000 'y'), .reference, false⟩
    let taken := (pack [short, long] 1000 60 40).included
    let taken' := (pack [short, long] 1100 60 40).included
    (1000 : Int) ≤ 1100 ∧
    taken = [short, long.cutTo 668] ∧ taken' = [short, long.cutTo 768] ∧
    taken.map (fun f => (f.kind, f.path)) <+: taken'.map (fun f => (f.kind, f.path)) ∧
    taken'[0]? = some short ∧
    (long.cutTo 668).content.length ≤ (long.cutTo 768).content.length := by
  intro short long taken taken'
  have hshort : short.sectionLength 1 false = 32 := by decide +kernel
  have hlong : long.sectionLength 1 false = 1030 := by
    have hhead : (long.header 1 false).length = 29 := by decide +kernel
    have hcontent : long.content.length = 1000 := by
      rw [String.length_ofList, List.length_replicate]
    rw [ContextFile.sectionLength, hhead, hcontent]
  have hhead : (long.header (1 : Nat) true).length = 41 := by decide +kernel
  have hcut {f g : ContextFile} {left : Int} (hf : f.kind = .source) (hg : g.kind = .reference)
      (hfits : (f.sectionLength 1 false : Int) ≤ left)
      (hspace : 500 < left - f.sectionLength 1 false)
      (hover : left - f.sectionLength 1 false < g.sectionLength 1 false) :
      (fill [f, g] {} left).1 = [f, g.cutTo (cutLimit g 1 (left - f.sectionLength 1 false))] := by
    simp [fill, hf, hg, Tally.count, Tally.add, hfits, leastSpaceToCut, hspace,
      Int.not_le.mpr hover]
  have hfill {left limit : Int} (hspace : 532 < left) (hover : left < 1062)
      (hlimit : left - 232 = limit) : (fill [short, long] {} left).1 = [short, long.cutTo limit] := by
    have hleft : cutLimit long 1 (left - short.sectionLength 1 false) = limit := by
      rw [cutLimit, hshort, hhead, cutReserve]
      omega
    rw [@hcut short long left rfl rfl (by omega) (by omega) (by omega), hleft]
  have htaken : taken = [short, long.cutTo 668] :=
    (included_pack ..).trans (hfill (by decide) (by decide) (by decide))
  have htaken' : taken' = [short, long.cutTo 768] :=
    (included_pack ..).trans (hfill (by decide) (by decide) (by decide))
  obtain ⟨hfront, hwhole, hlength⟩ :=
    pack_grows [short, long] 60 40 (show (1000 : Int) ≤ 1100 by decide)
  have hget : taken[0]? = some short ∧ taken[1]? = some (long.cutTo 668) := by
    rw [htaken]
    exact ⟨rfl, rfl⟩
  have hget' : taken'[1]? = some (long.cutTo 768) := by
    rw [htaken']
    rfl
  exact ⟨by decide, htaken, htaken', hfront, hwhole 0 short rfl hget.1,
    hlength 1 _ _ hget.2 hget'⟩

end Packing
end CodeBrief
