import CodeBrief.Proofs.JavaScan

/-!
# The state between two lines

In the state between two lines, the innermost type is open exactly when the depth
is above that of its header. The types below it are harder: a header without a
brace can stand under another one, and it is looked at again only when everything
above it has ended. Then the depth has fallen at least to that of the header above,
which was read while the lower one was still waiting for its brace. So the depths
of waiting headers bound what is above them (`Stacked`), and this is what closing
the scopes needs to reach a state in order again (`Steady`). A line that declares
nothing and whose braces balance leaves such a state alone
(`stepCode_eq_of_balanced`).

The other way round, nothing about the depth is hidden for good: two states of
different depth go on to tell different things of the right lines
(`exists_run_ne`).
-/

namespace CodeBrief.Java

/-! ## States in order -/

/-- No type whose brace is still to come lies lower than what is above it. -/
def Stacked : (depth : Int) → List Scope → Prop
  | _, [] => True
  | depth, s :: rest => (s.opened = false → depth ≤ s.depth) ∧ Stacked s.depth rest

/-- A state as it is between two lines of a source. -/
structure Steady (st : State) : Prop where
  stacked : Stacked st.depth st.scopes
  top : ∀ s ∈ st.scopes.head?, s.opened = true → s.depth < st.depth

variable {d d' : Int} {scopes : List Scope} {st : State}

theorem Stacked.of_le (h : Stacked d scopes) (hle : d' ≤ d) : Stacked d' scopes := by
  cases scopes with
  | nil => trivial
  | cons s rest =>
      refine ⟨fun hs => ?_, h.2⟩
      have := h.1 hs
      omega

theorem Stacked.openInnermost (h : Stacked d scopes) (d' : Int) :
    Stacked d' (openInnermost d' scopes) := by
  cases scopes with
  | nil => trivial
  | cons s rest =>
      rw [Java.openInnermost]
      split
      · refine ⟨fun hs => ?_, h.2⟩
        cases hs
      · next hlt => exact ⟨fun _ => Int.not_lt.mp hlt, h.2⟩

/-- What ends was above what is left, so the depth is not above a header that waits there. -/
theorem Stacked.closeScopes (h : Stacked d scopes) : Stacked d (closeScopes d scopes) := by
  induction scopes with
  | nil => trivial
  | cons s rest ih =>
      rw [Java.closeScopes, List.dropWhile_cons]
      split
      · next hends =>
          have hle : d ≤ s.depth := of_decide_eq_true (Bool.and_eq_true_iff.mp hends).2
          exact ih (h.2.of_le hle)
      · exact h

theorem lt_of_mem_head?_closeScopes {s : Scope} (h : s ∈ (closeScopes d scopes).head?)
    (hs : s.opened = true) : s.depth < d := by
  have hstops := List.head?_dropWhile_not (fun s : Scope => s.opened && d ≤ s.depth) scopes
  have htop : (scopes.dropWhile fun s => s.opened && d ≤ s.depth).head? = some s := h
  rw [htop] at hstops
  simpa [hs] using hstops

theorem Steady.stepCode (h : Steady st) (line trimmed : List Char) :
    Steady (stepCode st line trimmed).2 := by
  refine ⟨?_, fun s hs => lt_of_mem_head?_closeScopes hs⟩
  cases hheader : header? trimmed with
  | none =>
      simp only [Java.stepCode, hheader]
      exact (h.stacked.openInnermost _).closeScopes
  | some found =>
      have hpushed : Stacked st.depth (⟨found.2, st.depth, trimmed.contains '{'⟩ :: st.scopes) :=
        ⟨fun _ => Int.le_refl _, h.stacked⟩
      simp only [Java.stepCode, hheader]
      exact (hpushed.openInnermost _).closeScopes

theorem Steady.step (h : Steady st) (line : List Char) : Steady (step st line).2 := by
  rw [Java.step]
  split
  · exact ⟨h.stacked, h.top⟩
  · split
    · exact h
    · split
      · exact h
      · exact h.stepCode line _

theorem Steady.run (h : Steady st) (lines : List (List Char)) : Steady (run st lines).2 := by
  induction lines generalizing st with
  | nil => exact h
  | cons line rest ih => exact ih (h.step line)

theorem steady_start : Steady {} := ⟨trivial, nofun⟩

/-- A line that declares nothing and whose braces balance leaves the scopes as they are. -/
theorem stepCode_eq_of_balanced (h : Steady st) {line trimmed : List Char}
    (hheader : header? trimmed = none) (hbalance : braceBalance line = 0) :
    (Java.stepCode st line trimmed).2 = st := by
  have hopen : openInnermost st.depth st.scopes = st.scopes := by
    cases hscopes : st.scopes with
    | nil => rfl
    | cons s rest =>
        have hstacked : Stacked st.depth (s :: rest) := hscopes ▸ h.stacked
        rw [openInnermost]
        split
        · next hlt =>
            cases hs : s.opened with
            | true => rw [← hs]
            | false =>
                have := hstacked.1 hs
                omega
        · rfl
  have hclose : closeScopes st.depth st.scopes = st.scopes := by
    cases hscopes : st.scopes with
    | nil => rfl
    | cons s rest =>
        rw [closeScopes, List.dropWhile_cons_of_neg]
        have htop := h.top s (by rw [hscopes]; rfl)
        simpa using htop
  simp only [Java.stepCode, hheader, hbalance, Int.add_zero, hopen, hclose]

/-! ## States that can be told apart -/

theorem run_append_fst (st : State) (xs ys : List (List Char)) :
    (run st (xs ++ ys)).1 = (run st xs).1 ++ (run (run st xs).2 ys).1 := by
  have hrun : run st (xs ++ ys) =
      ((run st xs).1 ++ (run (run st xs).2 ys).1, (run (run st xs).2 ys).2) := run_append rfl rfl
  rw [hrun]

theorem step_codeLine (hst : st.inComment = false) {text : List Char}
    (h : CodeLine text) : step st text = stepCode st text text := by
  let flush : Blanks := ⟨[], nofun, List.not_mem_nil⟩
  have hstep := step_around h hst ⟨flush, flush⟩
  rwa [Margins.around, List.nil_append, List.append_nil] at hstep

theorem step_brace (hst : st.inComment = false) {c : Char} (hc : c ∈ ['{', '}']) :
    ∃ scopes, step st [c] = ([], { st with depth := st.depth + braceBalance [c], scopes }) := by
  have hnothing : header? [c] = none ∧ ∀ name, member? name [c] = none := by
    simp only [List.mem_cons, List.not_mem_nil, or_false] at hc
    rcases hc with rfl | rfl
    · exact ⟨by decide, fun _ => rfl⟩
    · exact ⟨by decide, fun _ => rfl⟩
  obtain ⟨hheader, hmember⟩ := hnothing
  rw [step_codeLine hst (codeLine_brace hc), stepCode]
  simp only [hheader, hmember]
  refine ⟨_, Prod.ext ?_ rfl⟩
  cases st.scopes <;> simp

theorem run_braces {c : Char} (hc : c ∈ ['{', '}']) (k : Nat)
    (hst : st.inComment = false) :
    ∃ scopes, run st (List.replicate k [c]) =
      ([], { st with depth := st.depth + k * braceBalance [c], scopes }) := by
  induction k generalizing st with
  | zero => exact ⟨st.scopes, by simp [run]⟩
  | succ k ih =>
      obtain ⟨scopes, hstep⟩ := step_brace hst hc
      have hcode : (step st [c]).2.inComment = false := by
        rw [hstep]
        exact hst
      obtain ⟨scopes', hrest⟩ := ih hcode
      rw [hstep] at hrest
      have hdepth : st.depth + braceBalance [c] + k * braceBalance [c] =
          st.depth + (k + 1 : Nat) * braceBalance [c] := by
        rw [Int.natCast_succ, Int.add_mul]
        omega
      refine ⟨scopes', ?_⟩
      rw [List.replicate_succ, run, hstep, hrest, ← hdepth]
      rfl

/-- Lines of single braces take the depth wherever it should be. -/
theorem exists_braces (k : Int) :
    ∃ lines : List (List Char), (∀ line ∈ lines, '\n' ∉ line) ∧ ∀ st : State, st.inComment = false →
      ∃ scopes, run st lines = ([], { st with depth := st.depth + k, scopes }) := by
  have hbreak {c : Char} (hc : '\n' ≠ c) (n : Nat) :
      ∀ line ∈ List.replicate n [c], '\n' ∉ line := by
    intro line hline
    rw [List.eq_of_mem_replicate hline, List.mem_singleton]
    exact hc
  obtain ⟨n, rfl | rfl⟩ := k.eq_nat_or_neg
  · refine ⟨_, hbreak (c := '{') (by decide) n, fun st hst => ?_⟩
    obtain ⟨scopes, hrun⟩ := run_braces (c := '{') (by decide) n hst
    exact ⟨scopes, by simpa [show braceBalance ['{'] = 1 from rfl] using hrun⟩
  · refine ⟨_, hbreak (c := '}') (by decide) n, fun st hst => ?_⟩
    obtain ⟨scopes, hrun⟩ := run_braces (c := '}') (by decide) n hst
    exact ⟨scopes, by simpa [show braceBalance ['}'] = -1 from rfl] using hrun⟩

theorem step_announce (hst : st.inComment = false) :
    step st "class A".toList = ([.classHeader ['A'] none []], st.announced ['A']) := by
  let flush : Blanks := ⟨[], nofun, List.not_mem_nil⟩
  let h : Header := ⟨⟨flush, flush⟩, .class none [], ⟨['A'], by decide, by decide⟩,
    .below ⟨flush, flush⟩, by decide⟩
  have htext : h.text = "class A".toList := by decide
  rw [← htext, step_codeLine hst h.codeLine_text, stepCode_header]
  rfl

theorem step_field (hst : st.inComment = false) :
    (step (st.announced ['A']) "int x;".toList).1 =
      if 0 < st.depth then [.field ['x'] "int".toList] else [] := by
  have hline : CodeLine "int x;".toList := by
    refine ⟨⟨by decide, ?_, ?_⟩, by decide, by decide, by decide⟩
    · rintro _ ⟨⟩
      decide
    · rintro _ ⟨⟩
      decide
  have hheader : header? "int x;".toList = none := by decide
  have hmember : member? ['A'] "int x;".toList = some (.field ['x'] "int".toList) := by decide
  have hcode : (st.announced ['A']).inComment = false := hst
  rw [step_codeLine hcode hline, stepCode]
  simp only [hheader, hmember, State.announced]
  split <;> rfl

/-- Some lines bring to light whether the depth is above a bound. -/
theorem exists_probe (bound : Int) :
    ∃ lines : List (List Char), (∀ line ∈ lines, '\n' ∉ line) ∧ ∀ st : State, st.inComment = false →
      (run st lines).1 = "\nClass: A".toList ::
        if bound < st.depth then ["  Field: x : int".toList] else [] := by
  -- the bound is brought down to zero, where a field begins to be told
  obtain ⟨braces, hbreak, hbraces⟩ := exists_braces (-bound)
  have hprobe : ∀ line ∈ ["class A".toList, "int x;".toList], '\n' ∉ line := by decide
  refine ⟨braces ++ ["class A".toList, "int x;".toList], ?_, fun st hst => ?_⟩
  · intro line hline
    exact (List.mem_append.mp hline).elim (hbreak line) (hprobe line)
  · obtain ⟨scopes, hrun⟩ := hbraces st hst
    have hcode : (run st braces).2.inComment = false := by rw [hrun, hst]
    have hdepth : 0 < (run st braces).2.depth ↔ bound < st.depth := by
      rw [hrun]
      show 0 < st.depth + -bound ↔ _
      omega
    rw [run_append_fst, run, step_announce hcode, run, step_field hcode, hrun]
    simp only [← hdepth, hrun]
    split <;> rfl

/-- What is told after two states of different depth need not be the same. -/
theorem exists_run_ne {st' : State} (hst : st.inComment = false) (hst' : st'.inComment = false)
    (hne : st.depth ≠ st'.depth) :
    ∃ lines : List (List Char), (∀ line ∈ lines, '\n' ∉ line) ∧
      (run st lines).1 ≠ (run st' lines).1 := by
  obtain ⟨lines, hbreak, hlines⟩ := exists_probe (min st.depth st'.depth)
  refine ⟨lines, hbreak, fun hsame => ?_⟩
  rw [hlines st hst, hlines st' hst'] at hsame
  have hfield := (List.cons.inj hsame).2
  rcases Int.lt_or_gt_of_ne hne with hlt | hlt
  · rw [if_neg (by omega), if_pos (by omega)] at hfield
    cases hfield
  · rw [if_pos (by omega), if_neg (by omega)] at hfield
    cases hfield

end CodeBrief.Java
