import Mathlib.Data.Nat.Find
import CodeBrief.Prompt.Packing
import CodeBrief.Proofs.Layout
import CodeBrief.Proofs.Truncation

/-!
# What packing takes

The loop of `fill` keeps a running space and a tally by kind. Said without
either: a file has a number among the files of its kind (`ordinal`), a prefix
of the files has a cost (`prefixCost`), and the files taken whole are the
longest prefix whose cost is within the budget (`wholeCount`). Behind it stands
at most one more file, cut to what the prefix leaves (`excerpt`). `fill_eq` is
the passage from the loop to that description; its induction carries the files
already taken along as a prefix `done`, whose tally the loop holds and whose
cost it has spent.

The sections that a layout makes of the files taken cost what packing paid for
them, as long as no file came in already cut: the layout numbers the two kinds
apart as packing does, and a cut leaves room for the longer header.
-/

namespace CodeBrief

namespace ContextFile

theorem length_header_true (f : ContextFile) (number : Int) :
    (f.header number true).length = (f.header number false).length + 12 := by
  have hcut : (cutSuffix true).length = 12 := rfl
  have hwhole : (cutSuffix false).length = 0 := rfl
  simp only [header, String.length_append, hcut, hwhole]
  omega

theorem header_cutTo (f : ContextFile) (limit number : Int) (cut : Bool) :
    (f.cutTo limit).header number cut = f.header number cut := rfl

end ContextFile

namespace Packing

/-! ## Numbers and costs -/

/-- The number of the file at a position among the files of its kind. -/
def ordinal (files : List ContextFile) (j : Nat) : Nat :=
  match files[j]? with
  | some f => (files.take (j + 1)).countP (·.kind = f.kind)
  | none => 0

/-- What the file at a position costs whole. -/
def costAt (files : List ContextFile) (j : Nat) : Nat :=
  match files[j]? with
  | some f => f.sectionLength (ordinal files j) false
  | none => 0

/-- What the first files cost whole. -/
def prefixCost (files : List ContextFile) : (k : Nat) → Nat
  | 0 => 0
  | k + 1 => prefixCost files k + costAt files k

/-- The length of the longest prefix that costs no more than the budget; zero if none does. -/
def wholeCount (files : List ContextFile) (budget : Int) : Nat :=
  Nat.findGreatest (fun k => (prefixCost files k : Int) ≤ budget) files.length

theorem prefixCost_zero (files : List ContextFile) : prefixCost files 0 = 0 := rfl

theorem prefixCost_succ (files : List ContextFile) (k : Nat) :
    prefixCost files (k + 1) = prefixCost files k + costAt files k := rfl

theorem prefixCost_mono {files : List ContextFile} {j k : Nat} (h : j ≤ k) :
    prefixCost files j ≤ prefixCost files k := by
  induction h with
  | refl => exact Nat.le_refl _
  | step _ ih => rw [prefixCost_succ]; omega

theorem ordinal_eq {files : List ContextFile} {k : Nat} {f : ContextFile}
    (hf : files[k]? = some f) :
    ordinal files k = (files.take k).countP (·.kind = f.kind) + 1 := by
  have htake : files.take (k + 1) = files.take k ++ [f] := by
    rw [List.take_add_one, hf, Option.toList_some]
  rw [ordinal, hf]
  simp only [htake, List.countP_append]
  simp

theorem ordinal_range {files : List ContextFile} {k : Nat} {f : ContextFile}
    (hf : files[k]? = some f) : 1 ≤ ordinal files k ∧ ordinal files k ≤ files.length := by
  obtain ⟨hk, -⟩ := List.getElem?_eq_some_iff.mp hf
  have hcount := List.countP_le_length (p := fun g : ContextFile => g.kind = f.kind)
    (l := files.take k)
  rw [List.length_take] at hcount
  rw [ordinal_eq hf]
  omega

theorem costAt_eq {files : List ContextFile} {k : Nat} {f : ContextFile}
    (hf : files[k]? = some f) :
    costAt files k = f.sectionLength (ordinal files k) false := by
  rw [costAt, hf]

theorem costAt_of_none {files : List ContextFile} {k : Nat} (hf : files[k]? = none) :
    costAt files k = 0 := by
  rw [costAt, hf]

theorem ordinal_append (done rest : List ContextFile) (f : ContextFile) :
    ordinal (done ++ f :: rest) done.length = done.countP (·.kind = f.kind) + 1 := by
  rw [ordinal_eq (f := f) (by simp), List.take_left' rfl]

theorem costAt_append (done rest : List ContextFile) (f : ContextFile) :
    costAt (done ++ f :: rest) done.length =
      f.sectionLength (done.countP (·.kind = f.kind) + 1 : Nat) false := by
  rw [costAt_eq (f := f) (by simp), ordinal_append]

/-- The longest prefix is known by two facts: it fits, and one file more does not. -/
theorem wholeCount_eq {files : List ContextFile} {budget : Int} {k : Nat}
    (hle : k ≤ files.length) (hfits : k = 0 ∨ (prefixCost files k : Int) ≤ budget)
    (hmore : k < files.length → budget < prefixCost files (k + 1)) :
    wholeCount files budget = k := by
  rw [wholeCount, Nat.findGreatest_eq_iff]
  refine ⟨hle, fun hk => hfits.resolve_left hk, fun j hj hjn => ?_⟩
  have hcost := hmore (by omega)
  have hmono : prefixCost files (k + 1) ≤ prefixCost files j := prefixCost_mono hj
  omega

/-! ## The loop -/

/-- How many of some files are of each kind. -/
def tallyOf (files : List ContextFile) : Tally :=
  ⟨files.countP (·.kind = .source), files.countP (·.kind = .reference)⟩

theorem count_tallyOf (files : List ContextFile) (k : Kind) :
    (tallyOf files).count k = files.countP (·.kind = k) := by
  cases k <;> rfl

theorem tallyOf_concat (files : List ContextFile) (f : ContextFile) :
    tallyOf (files ++ [f]) = (tallyOf files).add f.kind := by
  cases h : f.kind <;> simp [tallyOf, Tally.add, h]

/-- What is added to the first files taken whole, with the space left then: the next file, cut
down, if there is one and enough is left. -/
def excerpt (files : List ContextFile) (k : Nat) (left : Int) : List ContextFile × Int :=
  match files[k]? with
  | some f =>
      if leastSpaceToCut < left then ([f.cutTo (cutLimit f (ordinal files k) left)], 0)
      else ([], left)
  | none => ([], left)

/-- The loop, entered after the files `done` with what they leave of the budget. -/
theorem fill_eq (budget : Int) (rest : List ContextFile) : ∀ done : List ContextFile,
    ∃ k, done.length ≤ k ∧ k ≤ (done ++ rest).length ∧
      (k = done.length ∨ (prefixCost (done ++ rest) k : Int) ≤ budget) ∧
      (k < (done ++ rest).length → budget < prefixCost (done ++ rest) (k + 1)) ∧
      fill rest (tallyOf done) (budget - prefixCost (done ++ rest) done.length) =
        (rest.take (k - done.length) ++
            (excerpt (done ++ rest) k (budget - prefixCost (done ++ rest) k)).1,
          (excerpt (done ++ rest) k (budget - prefixCost (done ++ rest) k)).2) := by
  induction rest with
  | nil =>
      intro done
      refine ⟨done.length, Nat.le_refl _, by simp, Or.inl rfl, fun h => ?_, ?_⟩
      · rw [List.append_nil] at h
        exact absurd h (Nat.lt_irrefl _)
      · simp [fill, excerpt]
  | cons f rest ih =>
      intro done
      have hcost := costAt_append done rest f
      have hnext := prefixCost_succ (done ++ f :: rest) done.length
      have hone : (done ++ [f]).length = done.length + 1 := by simp
      have hassoc : done ++ [f] ++ rest = done ++ f :: rest := by simp
      rw [fill, count_tallyOf]
      simp only []
      rw [hcost] at hnext
      split
      · next hfits =>
          -- The file is taken whole: it joins `done`, whose cost grows by its own.
          obtain ⟨k, hk, hkn, hpre, hmore, hfill⟩ := ih (done ++ [f])
          rw [hassoc, hone, tallyOf_concat] at hfill
          rw [hassoc] at hkn hpre hmore
          rw [hone] at hk hpre
          have hspent : budget - (prefixCost (done ++ f :: rest) done.length : Int) -
              f.sectionLength (done.countP (·.kind = f.kind) + 1 : Nat) false =
              budget - (prefixCost (done ++ f :: rest) (done.length + 1) : Int) := by
            omega
          have htake : k - done.length = k - (done.length + 1) + 1 := by omega
          refine ⟨k, by omega, hkn, Or.inr ?_, hmore, ?_⟩
          · rcases hpre with h | h
            · rw [h]; omega
            · exact h
          · rw [hspent, hfill, htake, List.take_succ_cons, List.cons_append]
      · next hover =>
          -- It is not: the prefix ends before it.
          have hget : (done ++ f :: rest)[done.length]? = some f := by simp
          refine ⟨done.length, Nat.le_refl _, by simp, Or.inl rfl, fun _ => by omega, ?_⟩
          rw [excerpt, hget]
          simp only [ordinal_append, Nat.sub_self, List.take_zero, List.nil_append]

/-- The files taken are the longest prefix within the budget and the excerpt behind it. -/
theorem fill_whole (files : List ContextFile) (budget : Int) :
    fill files {} budget =
      (files.take (wholeCount files budget) ++
          (excerpt files (wholeCount files budget)
            (budget - prefixCost files (wholeCount files budget))).1,
        (excerpt files (wholeCount files budget)
          (budget - prefixCost files (wholeCount files budget))).2) := by
  obtain ⟨k, _, hkn, hpre, hmore, hfill⟩ := fill_eq budget files []
  have hk : wholeCount files budget = k := wholeCount_eq hkn hpre hmore
  rw [hk]
  simpa [tallyOf, prefixCost_zero] using hfill

theorem wholeCount_le (files : List ContextFile) (budget : Int) :
    wholeCount files budget ≤ files.length :=
  Nat.findGreatest_le _

/-- The prefix taken fits a budget that is not negative, and costs nothing under one that is. -/
theorem prefixCost_wholeCount_le (files : List ContextFile) (budget : Int) :
    (prefixCost files (wholeCount files budget) : Int) ≤ max budget 0 := by
  by_cases h : wholeCount files budget = 0
  · rw [h, prefixCost_zero]
    omega
  · have := Nat.findGreatest_of_ne_zero (P := fun k => (prefixCost files k : Int) ≤ budget)
      (n := files.length) rfl h
    simp only [wholeCount] at this ⊢
    omega

theorem lt_prefixCost_succ {files : List ContextFile} {budget : Int}
    (h : wholeCount files budget < files.length) :
    budget < prefixCost files (wholeCount files budget + 1) := by
  have := Nat.findGreatest_is_greatest (P := fun k => (prefixCost files k : Int) ≤ budget)
    (n := files.length) (Nat.lt_add_one _) h
  simp only [wholeCount] at this ⊢
  omega

/-! ## The excerpt -/

/-- The space is left to a file that costs more than it. -/
theorem lt_costAt_wholeCount {files : List ContextFile} {budget : Int}
    (h : wholeCount files budget < files.length) :
    budget - prefixCost files (wholeCount files budget) <
      costAt files (wholeCount files budget) := by
  have hnext := lt_prefixCost_succ h
  rw [prefixCost_succ] at hnext
  omega

theorem excerpt_of_lt {files : List ContextFile} {k : Nat} {left : Int} {f : ContextFile}
    (hf : files[k]? = some f) (h : leastSpaceToCut < left) :
    excerpt files k left = ([f.cutTo (cutLimit f (ordinal files k) left)], 0) := by
  rw [excerpt, hf]
  exact if_pos h

theorem excerpt_of_not {files : List ContextFile} {k : Nat} {left : Int}
    (h : ¬(k < files.length ∧ leastSpaceToCut < left)) :
    excerpt files k left = ([], left) := by
  rw [excerpt]
  split
  · next f hf =>
      obtain ⟨hk, _⟩ := List.getElem?_eq_some_iff.mp hf
      exact if_neg fun hlt => h ⟨hk, hlt⟩
  · rfl

theorem length_excerpt_le (files : List ContextFile) (k : Nat) (left : Int) :
    (excerpt files k left).1.length ≤ files.length - k := by
  rw [excerpt]
  split
  · next f hf =>
      obtain ⟨hk, _⟩ := List.getElem?_eq_some_iff.mp hf
      split
      · rw [List.length_singleton]; omega
      · exact Nat.zero_le _
  · exact Nat.zero_le _

/-- A header that leaves room for anything leaves room for the cut. -/
theorem cutLimit_nonneg {f : ContextFile} {number : Nat} {left : Int}
    (h : leastSpaceToCut < left) (hhead : (f.header number true).length ≤ 500) :
    0 ≤ cutLimit f number left := by
  simp only [cutLimit, cutReserve, leastSpaceToCut] at *
  omega

/-- A file that does not fit the space left is cut to a shorter text than it has. -/
theorem length_cutTo_lt {f : ContextFile} {number : Nat} {left : Int}
    (hleft : leastSpaceToCut < left) (hcost : left < f.sectionLength number false)
    (hhead : (f.header number true).length ≤ 500) :
    (f.cutTo (cutLimit f number left)).content.length < f.content.length := by
  have hlen := length_truncate_le f.content (cutLimit f number left)
  have hnonneg := cutLimit_nonneg hleft hhead
  have hlonger := f.length_header_true number
  simp only [ContextFile.sectionLength, cutLimit, cutReserve, leastSpaceToCut,
    ContextFile.cutTo] at *
  omega

/-- A cut file with its header takes no more than the space it was cut to. -/
theorem sectionLength_cutTo_le {f : ContextFile} {number : Nat} {left : Int}
    (hleft : leastSpaceToCut < left) (hhead : (f.header number true).length ≤ 500) :
    ((f.cutTo (cutLimit f number left)).sectionLength number true : Int) ≤ left := by
  have hlen := length_truncate_le f.content (cutLimit f number left)
  have hnonneg := cutLimit_nonneg hleft hhead
  rw [ContextFile.sectionLength, ContextFile.header_cutTo]
  simp only [ContextFile.cutTo]
  simp only [cutLimit, cutReserve, leastSpaceToCut] at *
  omega

/-! ## The whole result -/

theorem included_pack (files : List ContextFile) (promptLimit frame question : Int) :
    (pack files promptLimit frame question).included =
      (fill files {} (promptLimit - frame - question)).1 := rfl

theorem used_pack (files : List ContextFile) (promptLimit frame question : Int) :
    (pack files promptLimit frame question).used =
      max (promptLimit - frame - question -
        (fill files {} (promptLimit - frame - question)).2) 0 := rfl

/-- Every file is included or skipped. -/
theorem skipped_add_length (files : List ContextFile) (promptLimit frame question : Int) :
    (pack files promptLimit frame question).skipped +
      (pack files promptLimit frame question).included.length = files.length := by
  have hskip : (pack files promptLimit frame question).skipped =
      files.length - (pack files promptLimit frame question).included.length := rfl
  have hwhole := wholeCount_le files (promptLimit - frame - question)
  have hcut := length_excerpt_le files (wholeCount files (promptLimit - frame - question))
    (promptLimit - frame - question -
      prefixCost files (wholeCount files (promptLimit - frame - question)))
  rw [hskip, included_pack, fill_whole, List.length_append, List.length_take]
  omega

/-- Packing takes whole the longest prefix that costs no more than the budget, and behind it, if
a file is there and more than 500 characters are left, that file cut to what is left. -/
theorem pack_longest_fit (files : List ContextFile) (promptLimit frame question : Int) :
    let budget := promptLimit - frame - question
    let k := wholeCount files budget
    let left := budget - prefixCost files k
    let packed := pack files promptLimit frame question
    (∀ f, files[k]? = some f → 500 < left →
      let header := f.header (ordinal files k) true
      let text := truncate f.content (left - max (200 : Int) (header.length + 1))
      packed.included = files.take k ++ [{ f with content := text, truncated := true }] ∧
        packed.used = budget ∧
        (header.length ≤ 500 → text.length < f.content.length)) ∧
    (¬(k < files.length ∧ 500 < left) →
      packed.included = files.take k ∧ packed.used = prefixCost files k) ∧
    packed.skipped + packed.included.length = files.length := by
  intro budget k left packed
  have hfill : fill files {} budget =
      (files.take k ++ (excerpt files k left).1, (excerpt files k left).2) :=
    fill_whole files budget
  have hincluded : packed.included = (fill files {} budget).1 := included_pack ..
  have hused : packed.used = max (budget - (fill files {} budget).2) 0 := used_pack ..
  refine ⟨fun f hf hleft => ?_, fun hnone => ?_, skipped_add_length ..⟩
  · have hcut := excerpt_of_lt hf hleft
    obtain ⟨hk, _⟩ := List.getElem?_eq_some_iff.mp hf
    rw [hfill, hcut] at hincluded hused
    refine ⟨hincluded, ?_, fun hhead => ?_⟩
    · rw [hused]
      simp only [left] at hleft
      omega
    · have hcost : left < costAt files k := lt_costAt_wholeCount hk
      rw [costAt_eq hf] at hcost
      exact length_cutTo_lt hleft hcost hhead
  · have hwhole := excerpt_of_not hnone
    rw [hfill, hwhole] at hincluded hused
    refine ⟨by rw [hincluded, List.append_nil], ?_⟩
    rw [hused]
    simp only [left]
    omega

/-- A short file and one too long for what it leaves. -/
theorem pack_longest_fit_second_cut :
    let short : ContextFile := ⟨"/p/a", "a", "x = 1", .source, false⟩
    let long : ContextFile :=
      ⟨"/p/b", "b", String.ofList (List.replicate 1000 'y'), .reference, false⟩
    wholeCount [short, long] 900 = 1 ∧ prefixCost [short, long] 1 = 32 ∧
    (pack [short, long] 1000 60 40).included =
      [short, { long with content := truncate long.content 668, truncated := true }] ∧
    (pack [short, long] 1000 60 40).used = 900 ∧
    (truncate long.content 668).length < 1000 := by
  intro short long
  have hcost : prefixCost [short, long] 1 = 32 := by decide +kernel
  have hhead : (long.header (ordinal [short, long] 1) true).length = 41 := by decide +kernel
  have hcontent : long.content.length = 1000 := by
    rw [String.length_ofList, List.length_replicate]
  have hover : 900 < prefixCost [short, long] 2 := by
    rw [prefixCost_succ, costAt_eq (f := long) rfl, ContextFile.sectionLength, hcontent]
    omega
  have hwhole : wholeCount [short, long] 900 = 1 := by
    refine wholeCount_eq (by decide) (Or.inr ?_) (fun _ => Int.ofNat_lt.mpr hover)
    rw [hcost]
    decide
  have h := (pack_longest_fit [short, long] 1000 60 40).1 long
  rw [show (1000 - 60 - 40 : Int) = 900 from rfl, hwhole, hcost] at h
  obtain ⟨hincluded, hused, hshorter⟩ := h rfl (by decide)
  have hlimit : 900 - ((32 : Nat) : Int) - max (200 : Int) (((41 : Nat) : Int) + 1) = 668 := by
    decide
  rw [hhead, hlimit] at hincluded hshorter
  rw [hcontent] at hshorter
  exact ⟨hwhole, hcost, hincluded, hused, hshorter (by decide)⟩

/-! ## What the sections of the files taken come to -/

/-- A layout renders the first files for what they cost, if none of them was cut before. -/
theorem sectionsLength_take {files : List ContextFile}
    (hwhole : ∀ f ∈ files, f.truncated = false) (k : Nat) :
    Layout.sectionsLength (files.take k) = prefixCost files k := by
  induction k with
  | zero => rfl
  | succ k ih =>
      rw [List.take_add_one, prefixCost_succ]
      cases hf : files[k]? with
      | none =>
          rw [Option.toList_none, List.append_nil, ih, costAt_of_none hf, Nat.add_zero]
      | some f =>
          rw [Option.toList_some, Layout.sectionsLength_concat, ih, costAt_eq hf, ordinal_eq hf,
            hwhole f (List.mem_of_getElem? hf)]

/-- A cut file behind the first files is rendered with its longer header. -/
theorem sectionsLength_take_cutTo {files : List ContextFile} {k : Nat} {f : ContextFile}
    (hwhole : ∀ f ∈ files, f.truncated = false) (hf : files[k]? = some f) (limit : Int) :
    Layout.sectionsLength (files.take k ++ [f.cutTo limit]) =
      prefixCost files k + (f.cutTo limit).sectionLength (ordinal files k) true := by
  rw [Layout.sectionsLength_concat, sectionsLength_take hwhole, ordinal_eq hf]
  rfl

/-- What packing took: first files that are rendered for what was used, or a cut file behind them
that is rendered, with its longer header, for no more than the budget, all of which was used. -/
theorem sectionsLength_included_cases {files : List ContextFile} {promptLimit frame question : Int}
    (hwhole : ∀ f ∈ files, f.truncated = false)
    (hhead : ∀ f ∈ files, ∀ i : Nat, 1 ≤ i → i ≤ files.length →
      (f.header i true).length ≤ 500)
    (hbudget : 0 ≤ promptLimit - frame - question) :
    let packed := pack files promptLimit frame question
    packed.included ⊆ files ∧
        (Layout.sectionsLength packed.included : Int) = packed.used ∧
        packed.used ≤ promptLimit - frame - question ∨
      (∃ f ∈ packed.included, f.truncated = true) ∧
        (Layout.sectionsLength packed.included : Int) ≤ packed.used ∧
        packed.used = promptLimit - frame - question := by
  intro packed
  have hincluded : packed.included = (fill files {} (promptLimit - frame - question)).1 := rfl
  have hused : packed.used = max (promptLimit - frame - question -
      (fill files {} (promptLimit - frame - question)).2) 0 := rfl
  have hcost := prefixCost_wholeCount_le files (promptLimit - frame - question)
  rw [fill_whole] at hincluded hused
  generalize promptLimit - frame - question = budget at *
  by_cases h : wholeCount files budget < files.length ∧
      leastSpaceToCut < budget - prefixCost files (wholeCount files budget)
  · obtain ⟨hk, hleft⟩ := h
    generalize wholeCount files budget = k at *
    have hf : files[k]? = some files[k] := List.getElem?_eq_getElem hk
    have hrange := ordinal_range hf
    have hcut := sectionLength_cutTo_le hleft
      (hhead files[k] (List.getElem_mem hk) (ordinal files k) hrange.1 hrange.2)
    rw [excerpt_of_lt hf hleft] at hincluded hused
    refine .inr ⟨⟨_, by rw [hincluded]; exact List.mem_concat_self, rfl⟩, ?_, by omega⟩
    rw [hincluded, sectionsLength_take_cutTo hwhole hf]
    omega
  · rw [excerpt_of_not h] at hincluded hused
    rw [List.append_nil] at hincluded
    have hsections := sectionsLength_take hwhole (wholeCount files budget)
    refine .inl ⟨by rw [hincluded]; exact List.take_subset _ _, ?_, by omega⟩
    rw [hincluded, hsections]
    omega

/-- The sections of the files taken fit the budget, the cut one with its longer header included. -/
theorem sectionsLength_included_le {files : List ContextFile} {promptLimit frame question : Int}
    (hwhole : ∀ f ∈ files, f.truncated = false)
    (hhead : ∀ f ∈ files, ∀ i : Nat, 1 ≤ i → i ≤ files.length →
      (f.header i true).length ≤ 500)
    (hbudget : 0 ≤ promptLimit - frame - question) :
    (Layout.sectionsLength (pack files promptLimit frame question).included : Int) ≤
      promptLimit - frame - question := by
  rcases sectionsLength_included_cases hwhole hhead hbudget with
    ⟨-, hsections, hused⟩ | ⟨-, hsections, hused⟩ <;> omega

/-- Behind a file that fits, one of the other kind that does not is cut to what the first leaves. -/
theorem included_cut_second {f g : ContextFile} {promptLimit frame question : Int}
    (hkind : g.kind ≠ f.kind)
    (hfits : (f.sectionLength 1 false : Int) ≤ promptLimit - frame - question)
    (hspace : leastSpaceToCut < promptLimit - frame - question - f.sectionLength 1 false)
    (hover : promptLimit - frame - question - f.sectionLength 1 false < g.sectionLength 1 false) :
    (pack [f, g] promptLimit frame question).included =
      [f, g.cutTo (cutLimit g 1 (promptLimit - frame - question - f.sectionLength 1 false))] := by
  have hfirst (k : Kind) : ({} : Tally).count k = 0 := by cases k <;> rfl
  have hother : (({} : Tally).add f.kind).count g.kind = 0 := by
    cases hf : f.kind <;> cases hg : g.kind <;> simp_all [Tally.add, Tally.count]
  rw [included_pack]
  generalize promptLimit - frame - question = left at *
  have hcost : ¬(g.sectionLength 1 false : Int) ≤ left - f.sectionLength 1 false :=
    Int.not_le.mpr hover
  simp [fill, hfirst, hother, hfits, hspace, hcost]

/-- Nothing fits a space that is not there. -/
theorem fill_of_neg {files : List ContextFile} {t : Tally} {left : Int} (h : left < 0) :
    fill files t left = ([], left) := by
  cases files with
  | nil => rfl
  | cons f rest =>
      have hspace : ¬leastSpaceToCut < left := by
        rw [leastSpaceToCut]
        omega
      rw [fill]
      simp only []
      rw [if_neg (by omega), if_neg hspace]

end Packing
end CodeBrief
