import Mathlib.Data.List.Pairwise
import CodeBrief.Proofs.Assembly
import CodeBrief.Proofs.Priority

/-!
# The order of files, and of a prompt

What ranking has to do is said without a sort: the same files, none before one
that should come first, and files that are tied as they came. There is only one
such order, so `rank` is known by it (`isRanking_iff`); that ranking twice is
ranking once is then a matter of seeing that an order already made meets it.

Packing goes along that order and stops. What it takes are the first files as
they are, and perhaps the next one cut, and a cut touches neither the kind nor
the path of a file nor, since that looks at names and paths only, its score. So
a prompt shows the beginning of the order.
-/

namespace CodeBrief

namespace Priority

/-! ## Rankings -/

/-- Whether a file may stand before another: by falling score, then by rising path. -/
def MayPrecede (f g : ContextFile) : Prop :=
  score g < score f ∨ score f = score g ∧ f.path ≤ g.path

/-- Whether two files are tied. -/
def Tied (f g : ContextFile) : Prop :=
  score f = score g ∧ f.path = g.path

instance (f : ContextFile) : DecidablePred (Tied f) := fun g =>
  inferInstanceAs (Decidable (score f = score g ∧ f.path = g.path))

/-- The files in their order, tied ones as they came. -/
structure IsRanking (files ranked : List ContextFile) : Prop where
  perm : ranked.Perm files
  sorted : ranked.Pairwise MayPrecede
  stable : ∀ f, ranked.filter (Tied f) = files.filter (Tied f)

variable {f g : ContextFile} {files ranked : List ContextFile}

theorem precedes_scored (f g : ContextFile) :
    precedes (f, score f) (g, score g) = true ↔ MayPrecede f g := by
  simp only [precedes_iff, MayPrecede]

theorem Tied.mayPrecede {x : ContextFile} (hf : Tied x f) (hg : Tied x g) : MayPrecede f g :=
  .inr ⟨hf.1.symm.trans hg.1, (hf.2.symm.trans hg.2).le⟩

theorem tied_of_mayPrecede (hfg : MayPrecede f g) (hgf : MayPrecede g f) : Tied f g := by
  have hpath := path_eq_of_precedes ((precedes_scored f g).mpr hfg) ((precedes_scored g f).mpr hgf)
  refine ⟨?_, hpath⟩
  rcases hfg with hfg | ⟨hfg, -⟩
  · rcases hgf with hgf | ⟨hgf, -⟩ <;> omega
  · exact hfg

theorem mayPrecede_refl (f : ContextFile) : MayPrecede f f :=
  .inr ⟨rfl, le_rfl⟩

/-- The files in front may each stand before the other, so they are tied, and among files that are
tied the first is the same. -/
theorem IsRanking.head_eq (h : IsRanking (g :: files) (f :: ranked))
    (hfiles : (g :: files).Pairwise MayPrecede) : f = g := by
  obtain ⟨hperm, hsorted, hstable⟩ := h
  have hfg : MayPrecede f g := by
    rcases List.mem_cons.mp (hperm.mem_iff.mpr List.mem_cons_self) with rfl | hg
    · exact mayPrecede_refl g
    · exact List.rel_of_pairwise_cons hsorted hg
  have hgf : MayPrecede g f := by
    rcases List.mem_cons.mp (hperm.mem_iff.mp List.mem_cons_self) with rfl | hf
    · exact mayPrecede_refl f
    · exact List.rel_of_pairwise_cons hfiles hf
  have hfirst := hstable f
  rw [List.filter_cons_of_pos (by simp [Tied]),
    List.filter_cons_of_pos (by simpa using tied_of_mayPrecede hfg hgf)] at hfirst
  exact (List.cons.inj hfirst).1

theorem IsRanking.tail (h : IsRanking (f :: files) (f :: ranked)) : IsRanking files ranked := by
  refine ⟨(List.perm_cons f).mp h.perm, h.sorted.of_cons, fun x => ?_⟩
  have hx := h.stable x
  rw [List.filter_cons, List.filter_cons] at hx
  split at hx
  · exact (List.cons.inj hx).2
  · exact hx

/-- Two orders of the same files are one. -/
theorem IsRanking.eq_of_sorted (h : IsRanking files ranked) (hfiles : files.Pairwise MayPrecede) :
    ranked = files := by
  induction ranked generalizing files with
  | nil => exact h.perm.nil_eq
  | cons f ranked ih =>
      cases files with
      | nil => exact absurd h.perm.symm.nil_eq (List.cons_ne_nil _ _).symm
      | cons g files =>
          obtain rfl := h.head_eq hfiles
          rw [ih h.tail hfiles.of_cons]

/-! ## What ranking does -/

theorem rankedWithScores_eq (files : List ContextFile) :
    rankedWithScores files = (rank files).map fun f => (f, score f) := by
  rw [rank, List.map_map]
  refine (List.map_id _).symm.trans (List.map_congr_left fun r hr => ?_)
  obtain ⟨f, -, rfl⟩ := List.mem_map.mp ((List.mergeSort_perm _ _).mem_iff.mp hr)
  rfl

theorem rank_sorted (files : List ContextFile) : (rank files).Pairwise MayPrecede := by
  have hsorted : (rankedWithScores files).Pairwise fun a b => precedes a b = true :=
    List.pairwise_mergeSort precedes_trans precedes_total _
  rw [rankedWithScores_eq, List.pairwise_map] at hsorted
  exact hsorted.imp (precedes_scored _ _).mp

/-- Files that may stand before each other as they come stay in that order. -/
theorem sublist_rank {part : List ContextFile} (hpart : part.Pairwise MayPrecede)
    (h : part.Sublist files) : part.Sublist (rank files) := by
  have hscored : (part.map fun f => (f, score f)).Pairwise fun a b => precedes a b = true :=
    List.pairwise_map.mpr (hpart.imp (precedes_scored _ _).mpr)
  have hsub := (List.sublist_mergeSort precedes_trans precedes_total hscored
    (h.map fun f => (f, score f))).map Prod.fst
  rwa [List.map_map, show Prod.fst ∘ (fun f => (f, score f)) = id from rfl, List.map_id] at hsub

theorem rank_stable (files : List ContextFile) (f : ContextFile) :
    (rank files).filter (Tied f) = files.filter (Tied f) := by
  have htied : (files.filter (Tied f)).Pairwise MayPrecede :=
    List.pairwise_of_forall_mem_list fun g hg g' hg' =>
      Tied.mayPrecede (by simpa using (List.mem_filter.mp hg).2)
        (by simpa using (List.mem_filter.mp hg').2)
  have hsub := (sublist_rank htied List.filter_sublist).filter (Tied f)
  rw [List.filter_filter] at hsub
  simp only [Bool.and_self] at hsub
  exact (hsub.eq_of_length ((rank_perm files).filter _).length_eq.symm).symm

theorem isRanking_rank (files : List ContextFile) : IsRanking files (rank files) :=
  ⟨rank_perm files, rank_sorted files, rank_stable files⟩

/-- Ranking gives the one order that there is. -/
theorem isRanking_iff : IsRanking files ranked ↔ ranked = rank files := by
  have hrank := isRanking_rank files
  constructor
  · intro h
    have hboth : IsRanking (rank files) ranked :=
      ⟨h.perm.trans hrank.perm.symm, h.sorted, fun f => (h.stable f).trans (hrank.stable f).symm⟩
    exact hboth.eq_of_sorted hrank.sorted
  · rintro rfl
    exact hrank

theorem rank_rank (files : List ContextFile) : rank (rank files) = rank files :=
  (isRanking_rank (rank files)).eq_of_sorted (rank_sorted files)

theorem score_congr (hname : f.name = g.name) (hpath : f.path = g.path) : score f = score g := by
  rw [score, score, hname, hpath]

theorem score_cutTo (f : ContextFile) (limit : Int) : score (f.cutTo limit) = score f :=
  score_congr rfl rfl

end Priority

/-! ## What packing takes of an order -/

namespace Packing

variable (files : List ContextFile) (promptLimit frame question : Int)

/-- The first files are taken as they are, and perhaps one more cut. -/
theorem included_eq_or :
    ∃ k ≤ files.length, let included := (pack files promptLimit frame question).included
      included = files.take k ∨
      ∃ f limit, files[k]? = some f ∧ included = files.take k ++ [f.cutTo limit] := by
  rw [included_pack]
  generalize promptLimit - frame - question = budget
  refine ⟨wholeCount files budget, wholeCount_le _ _, ?_⟩
  rw [fill_whole]
  by_cases h : wholeCount files budget < files.length ∧
      leastSpaceToCut < budget - prefixCost files (wholeCount files budget)
  · have hf := List.getElem?_eq_getElem h.1
    rw [excerpt_of_lt hf h.2]
    exact .inr ⟨_, _, hf, rfl⟩
  · rw [excerpt_of_not h, List.append_nil]
    exact .inl rfl

/-- What a cut leaves as it was is the same for the files taken and the first files given. -/
theorem map_included {β : Type} (key : ContextFile → β)
    (hkey : ∀ (f : ContextFile) (limit : Int), key (f.cutTo limit) = key f) :
    let included := (pack files promptLimit frame question).included
    included.map key = (files.take included.length).map key := by
  intro included
  obtain ⟨k, hk, hwhole | ⟨f, limit, hf, hcut⟩⟩ :=
    included_eq_or files promptLimit frame question
  · have hincluded : included = files.take k := hwhole
    rw [hincluded, List.length_take, Nat.min_eq_left hk]
  · have hincluded : included = files.take k ++ [f.cutTo limit] := hcut
    rw [hincluded, List.length_append, List.length_take, Nat.min_eq_left hk, List.length_singleton,
      List.take_add_one, hf, Option.toList_some, List.map_append, List.map_append,
      List.map_singleton, List.map_singleton, hkey]

/-- Only the last of the files taken is not one of those given. -/
theorem dropLast_included_sublist :
    ((pack files promptLimit frame question).included.dropLast).Sublist files := by
  obtain ⟨k, -, hwhole | ⟨f, limit, -, hcut⟩⟩ :=
    included_eq_or files promptLimit frame question
  · rw [hwhole]
    exact (List.dropLast_sublist _).trans (List.take_sublist _ _)
  · rw [hcut, List.dropLast_concat]
    exact List.take_sublist _ _

end Packing

/-! ## The order of a prompt -/

namespace Session

open Priority

variable {s : Session} {question : String}

theorem map_included_assemble {β : Type} (key : ContextFile → β)
    (hkey : ∀ (f : ContextFile) (limit : Int), key (f.cutTo limit) = key f) :
    let included := (s.assemble question).included
    included.map key = ((rank s.files).take included.length).map key := by
  rw [included_assemble, packed_eq]
  exact Packing.map_included _ _ _ _ key hkey

/-- Whatever stands behind the files of a prompt may not stand before one of them. -/
theorem mayPrecede_of_skipped {f g : ContextFile} (hf : f ∈ (s.assemble question).included)
    (hg : g ∈ (rank s.files).drop (s.assemble question).included.length) : MayPrecede f g := by
  have hsorted := rank_sorted s.files
  rw [← List.take_append_drop (s.assemble question).included.length (rank s.files),
    List.pairwise_append] at hsorted
  have hmem := List.mem_map_of_mem (f := fun f => (score f, f.path)) hf
  rw [map_included_assemble (fun f => (score f, f.path)) fun f limit =>
    Prod.ext (score_cutTo f limit) rfl] at hmem
  obtain ⟨f', hf', heq⟩ := List.mem_map.mp hmem
  obtain ⟨hscore, hpath⟩ := Prod.ext_iff.mp heq
  have hprecede := hsorted.2.2 f' hf' g hg
  simp only at hscore hpath
  rwa [MayPrecede, hscore, hpath] at hprecede

theorem whole_of_mem_dropLast (hs : s.Reachable) {f : ContextFile}
    (hf : f ∈ (s.assemble question).included.dropLast) : f.truncated = false := by
  rw [included_assemble, packed_eq] at hf
  have hmem := (Packing.dropLast_included_sublist ..).subset hf
  exact hs.whole f ((rank_perm s.files).mem_iff.mp hmem)

/-- Ranking gives the one order of files by falling score and rising path that leaves tied files as
they came, and ranking again changes nothing. A prompt shows the beginning of that order: no file
that is left out belongs before one that is shown, only the last may be cut, and all files are
shown or counted as left out. -/
theorem assemble_in_order (hs : s.Reachable) (question : String) :
    (∀ files ranked, IsRanking files ranked ↔ ranked = rank files) ∧
    (∀ files, rank (rank files) = rank files) ∧
    s.ranked = (rank s.files).map (fun f => (f, score f)) ∧
    let p := s.assemble question
    (p.included.map fun f => (f.kind, f.path)) <+: (s.ranked.map fun r => (r.1.kind, r.1.path)) ∧
    (∀ f ∈ p.included, ∀ r ∈ s.ranked.drop p.included.length, MayPrecede f r.1) ∧
    (∀ f ∈ p.included.dropLast, f.truncated = false) ∧
    p.included.length + p.skipped = s.stats.referenceFiles + s.stats.sourceFiles := by
  have hranked : s.ranked = (rank s.files).map fun f => (f, score f) := rankedWithScores_eq _
  refine ⟨fun _ _ => isRanking_iff, rank_rank, hranked, ?_⟩
  intro p
  refine ⟨?_, fun f hf r hr => ?_, fun f hf => whole_of_mem_dropLast hs hf, ?_⟩
  · rw [map_included_assemble (fun f => (f.kind, f.path)) fun _ _ => rfl, hranked, List.map_map]
    exact (List.take_prefix _ _).map _
  · rw [hranked, ← List.map_drop] at hr
    obtain ⟨g, hg, rfl⟩ := List.mem_map.mp hr
    exact mayPrecede_of_skipped hf hg
  · have hcount := included_add_skipped s question
    rw [files, List.length_append] at hcount
    exact Int.ofNat_inj.mpr hcount

/-- Three references of which a small budget takes the first: configuration, then a file of no
score of its own; the test is left out. -/
theorem assemble_in_order_three :
    let w : Workspace := ⟨none, [], fun _ _ _ => .ok [], fun _ => .ok "x = 1\n"⟩
    let c := { Settings.defaultContext with maxPromptLength := Layout.frameLength 3 + 152 }
    let s := (((start ⟨c, []⟩).after (.addReference w "/p/b_test.py")).after
      (.addReference w "/p/a.py")).after (.addReference w "/p/config.py")
    s.Reachable ∧ s.ranked.map (fun r => (r.1.path, r.2)) =
      [("/p/config.py", 10), ("/p/a.py", 5), ("/p/b_test.py", 3)] ∧
    (s.assemble "why?").included.map (·.path) = ["/p/config.py"] ∧
    (s.assemble "why?").skipped = 2 := by
  intro w c s
  have hvalid : c.Valid := ⟨by decide, Int.add_pos_of_nonneg_of_pos (Int.natCast_nonneg _)
    (by decide), by decide⟩
  have hs : s.Reachable := .call _ (.call _ (.call _ (.start hvalid)))
  obtain ⟨-, -, -, hprefix, -, -, hcount⟩ := assemble_in_order hs "why?"
  have horder : s.ranked = [(⟨"/p/config.py", "config.py", "x = 1\n", .reference, false⟩, 10),
      (⟨"/p/a.py", "a.py", "x = 1\n", .reference, false⟩, 5),
      (⟨"/p/b_test.py", "b_test.py", "x = 1\n", .reference, false⟩, 3)] := by
    rw [ranked, rankedWithScores_eq_foldr]
    decide +kernel
  have hstats : s.stats.referenceFiles + s.stats.sourceFiles = 3 := by decide +kernel
  have hbudget : s.budget "why?" = 48 := by
    have hfiles : (s.files.length : Int) = 3 := by decide +kernel
    have hquestion : ("why?" : String).length = 4 := by decide +kernel
    have hlimit : s.context.maxPromptLength = Layout.frameLength 3 + 152 := rfl
    rw [budget, hfiles, hlimit, hquestion]
    omega
  have hlength : (s.assemble "why?").included.length = 1 := by
    rw [included_assemble, packed_eq, Packing.included_pack, packed_budget, hbudget, rank, ← ranked,
      horder]
    decide +kernel
  have hpaths := hprefix.map Prod.snd
  rw [horder, List.map_map] at hpaths
  refine ⟨hs, congrArg (List.map fun r => (r.1.path, r.2)) horder, ?_, ?_⟩
  · have htake := List.prefix_iff_eq_take.mp hpaths
    rw [List.length_map, hlength] at htake
    exact htake
  · rw [hlength] at hcount
    omega

end Session
end CodeBrief
