import CodeBrief.Proofs.JavaState

/-!
# Comments between the lines and behind them

A comment should not change what is told of a source. Whether it does is decided
by two things: the state that the line of the comment leads to, and what follows.
At a position of a source the lines before it are done with (`told_eq_append`), so
a comment that leads to the same state as no comment is harmless under every
continuation, and one that does not is caught by some continuation.

A line comment is skipped, but an opener of a block comment in it counts. It is
harmless exactly if it leaves no block comment open (`told_insertLine_iff`). A line
with a block comment behind it is skipped as a whole, with its declaration and its
braces. That is harmless exactly if it declares nothing and its braces balance
(`told_commentLine_iff`), where the state in order of `Steady` is needed: in any
other state even such a line could open or end a type.
-/

namespace CodeBrief.Java

open Text

/-- What is told of a source. -/
def told (source : List Char) : List (List Char) :=
  (scan source).map Entry.render

/-- The state in front of a line of a source. -/
def stateAt (n : Nat) (source : List Char) : State :=
  (run {} ((lines source).take n)).2

/-- A source with a line put in front of its line with a number. -/
def insertLine (n : Nat) (line source : List Char) : List Char :=
  join ['\n'] ((lines source).take n ++ line :: (lines source).drop n)

/-- A line with a block comment behind it. -/
def withComment (comment line : List Char) : List Char :=
  line ++ " /* ".toList ++ comment ++ " */".toList

/-- A source with a block comment behind its line with a number. -/
def commentLine (n : Nat) (comment source : List Char) : List Char :=
  join ['\n'] ((lines source).modify n (withComment comment))

/-- Whether a line without blanks at its ends opens a block comment that it does not end. -/
def leavesOpen (trimmed : List Char) : Bool :=
  opensComment trimmed && !occursIn ['*', '/'] trimmed

/-! ## Positions of a source -/

variable {source other line comment : List Char} {rest : List (List Char)} {n : Nat} {st : State}

theorem newline_notMem_lines (h : line ∈ lines source) : '\n' ∉ line :=
  notMem_of_mem_splitAtEach h

/-- The lines up to a position lead to a state there, and the others are read in it. -/
theorem told_of_lines (h : lines other = (lines source).take n ++ rest) :
    told other = (run {} ((lines source).take n)).1 ++ (run (stateAt n source) rest).1 := by
  rw [told, scan, map_render_scanFrom, h, run_append_fst, stateAt]

theorem told_eq_append (n : Nat) (source : List Char) :
    told source =
      (run {} ((lines source).take n)).1 ++ (run (stateAt n source) ((lines source).drop n)).1 :=
  told_of_lines (List.take_append_drop n (lines source)).symm

theorem told_eq_append_line (hline : (lines source)[n]? = some line) :
    told source = (run {} ((lines source).take n)).1 ++
      ((step (stateAt n source) line).1.map Entry.render ++
        (run (step (stateAt n source) line).2 ((lines source).drop (n + 1))).1) := by
  obtain ⟨hn, hget⟩ := List.getElem?_eq_some_iff.mp hline
  rw [told_eq_append n, List.drop_eq_getElem_cons hn, hget, run]

theorem stateAt_congr (h : (lines other).take n = (lines source).take n) :
    stateAt n other = stateAt n source := by
  rw [stateAt, h, stateAt]

theorem lines_join_take (hrest : ∀ l ∈ rest, '\n' ∉ l) (hne : (lines source).take n ++ rest ≠ []) :
    lines (join ['\n'] ((lines source).take n ++ rest)) = (lines source).take n ++ rest := by
  refine splitAtEach_join hne ?_
  intro l hl
  rcases List.mem_append.mp hl with h | h
  · exact newline_notMem_lines (List.mem_of_mem_take h)
  · exact hrest l h

/-- A source can go on in any way from a position on. -/
theorem exists_continuation (hn : n ≤ (lines source).length) (hrest : ∀ l ∈ rest, '\n' ∉ l)
    (hne : (lines source).take n ++ rest ≠ []) :
    ∃ other, (lines other).take n = (lines source).take n ∧ (lines other).drop n = rest := by
  have hlength : ((lines source).take n).length = n := List.length_take_of_le hn
  refine ⟨join ['\n'] ((lines source).take n ++ rest), ?_, ?_⟩
  · rw [lines_join_take hrest hne, List.take_left' hlength]
  · rw [lines_join_take hrest hne, List.drop_left' hlength]

/-! ## Line comments -/

/-- A line comment is skipped, but a block comment may open in it. -/
theorem step_note (hst : st.inComment = false)
    (hnote : startsWith ['/', '/'] (strip line) = true) :
    step st line = ([], { st with inComment := leavesOpen (strip line) }) := by
  rw [step, leavesOpen]
  cases opensComment (strip line) with
  | true => simp
  | false =>
      obtain ⟨depth, inComment, scopes⟩ := st
      obtain rfl : inComment = false := hst
      simp [hnote]

/-- What follows a line comment is read in a block comment if the line comment leaves one open. -/
theorem told_insertLine (hcode : (stateAt n source).inComment = false) (hbreak : '\n' ∉ comment)
    (hnote : startsWith ['/', '/'] (strip comment) = true) :
    told (insertLine n comment source) = (run {} ((lines source).take n)).1 ++
      (run { stateAt n source with inComment := leavesOpen (strip comment) }
        ((lines source).drop n)).1 := by
  have hlines : lines (insertLine n comment source) =
      (lines source).take n ++ comment :: (lines source).drop n := by
    refine lines_join_take (List.forall_mem_cons.mpr ⟨hbreak, fun l hl => ?_⟩) (by simp)
    exact newline_notMem_lines (List.mem_of_mem_drop hl)
  rw [told_of_lines hlines, run, step_note hcode hnote]
  rfl

theorem run_import (st : State) :
    (run st ["import x;".toList]).1 = if st.inComment then [] else ["import x;".toList] := by
  have hstrip : strip "import x;".toList = "import x;".toList := by decide
  have hopens : opensComment "import x;".toList = false := by decide
  have hnote : startsWith ['/', '/'] "import x;".toList = false := by decide
  have hcopied : isCopied "import x;".toList = true := by decide
  cases hst : st.inComment with
  | true => simp [run, step, hst]
  | false =>
      simp only [run, step, hstrip, hopens, hnote, hcopied, hst]
      rfl

/-- At a position outside block comments, a line comment changes nothing that is told, whatever
follows there, exactly if it leaves no block comment open. -/
theorem told_insertLine_iff (hn : n ≤ (lines source).length)
    (hcode : (stateAt n source).inComment = false) (hbreak : '\n' ∉ comment)
    (hnote : startsWith ['/', '/'] (strip comment) = true) :
    (∀ other, (lines other).take n = (lines source).take n →
      told (insertLine n comment other) = told other) ↔ leavesOpen (strip comment) = false := by
  constructor
  · intro h
    -- an import line shows whether the position after the comment is in a block comment
    have himport : ∀ l ∈ ["import x;".toList], '\n' ∉ l := by decide
    obtain ⟨other, htake, hdrop⟩ := exists_continuation hn himport (by simp)
    have hstate : stateAt n other = stateAt n source := stateAt_congr htake
    have hsame := h other htake
    rw [told_insertLine (hstate ▸ hcode) hbreak hnote, told_eq_append n other, hdrop, hstate,
      run_import, run_import, hcode] at hsame
    have hrest := List.append_cancel_left hsame
    cases hopen : leavesOpen (strip comment) with
    | false => rfl
    | true =>
        rw [hopen, if_pos rfl, if_neg Bool.false_ne_true] at hrest
        cases hrest
  · intro hclosed other htake
    have hcode' : (stateAt n other).inComment = false := by rw [stateAt_congr htake, hcode]
    rw [told_insertLine hcode' hbreak hnote, told_eq_append n other, hclosed, ← hcode']

/-- Braces, quotes and a whole block comment in a line comment. -/
theorem told_insertLine_iff_whole_comment :
    let source := "class A \x7b\n  int x;\n\x7d\n".toList
    let comment := "  // \x7b \x7b it's /* \"here\" */ \x7d".toList
    (stateAt 1 source).inComment = false ∧ leavesOpen (strip comment) = false ∧
    ∀ other, (lines other).take 1 = (lines source).take 1 →
      told (insertLine 1 comment other) = told other := by
  intro source comment
  have hcode : (stateAt 1 source).inComment = false := by decide +kernel
  have hclosed : leavesOpen (strip comment) = false := by decide +kernel
  exact ⟨hcode, hclosed,
    (told_insertLine_iff (by decide) hcode (by decide) (by decide +kernel)).mpr hclosed⟩

/-- An opener in a line comment hides the field behind it. -/
theorem told_insertLine_opener :
    let source := "class A \x7b\n  int x;\n\x7d\n".toList
    let comment := "// see /* here".toList
    1 ≤ (lines source).length ∧ (stateAt 1 source).inComment = false ∧ '\n' ∉ comment ∧
    startsWith ['/', '/'] (strip comment) = true ∧
    told source = ["\nClass: A".toList, "  Field: x : int".toList] ∧
    told (insertLine 1 comment source) = ["\nClass: A".toList] := by
  decide +kernel

/-! ## Block comments behind a line -/

/-- A line without a quote and without an opener of a comment. -/
structure PlainLine (line : List Char) : Prop where
  no_quote : '"' ∉ line
  no_note : occursIn ['/', '/'] line = false
  no_comment : occursIn ['/', '*'] line = false

theorem opensComment_cons {c : Char} (hc : c ≠ '"') (cs : List Char) :
    opensComment (c :: cs) = (startsWith ['/', '*'] (c :: cs) || opensComment cs) := by
  have hquote : indexOf? ['"'] (c :: cs) = (indexOf? ['"'] cs).map (· + 1) := by
    rw [indexOf?, if_neg]
    simp [startsWith, Ne.symm hc]
  rw [opensComment, hquote, indexOf?, opensComment]
  cases startsWith ['/', '*'] (c :: cs) with
  | true => cases indexOf? ['"'] cs <;> simp
  | false => cases indexOf? ['/', '*'] cs <;> cases indexOf? ['"'] cs <;> simp

theorem opensComment_append {a : List Char} (ha : '"' ∉ a) (b : List Char) :
    opensComment (a ++ '/' :: '*' :: b) = true := by
  induction a with
  | nil =>
      rw [List.nil_append, opensComment_cons (by decide)]
      rfl
  | cons c cs ih =>
      rw [List.cons_append, opensComment_cons (List.ne_of_not_mem_cons ha).symm,
        ih (List.not_mem_of_not_mem_cons ha), Bool.or_true]

/-- A strip takes only blanks in front of the line and its comment. -/
theorem strip_withComment (comment line : List Char) :
    strip (withComment comment line) =
      (line ++ [' ']).dropWhile isBlank ++ ("/* ".toList ++ comment ++ " *".toList ++ ['/']) := by
  have htrimmed : Trimmed ((line ++ [' ']).dropWhile isBlank ++
      ("/* ".toList ++ comment ++ " *".toList ++ ['/'])) := by
    refine ⟨by simp, ?_, ?_⟩
    · intro c hc
      have hstops := List.head?_dropWhile_not isBlank (line ++ [' '])
      cases hfront : (line ++ [' ']).dropWhile isBlank with
      | nil =>
          rw [hfront] at hc
          cases hc
          decide
      | cons x xs =>
          rw [hfront] at hc hstops
          cases hc
          exact hstops
    · intro c hc
      rw [← List.append_assoc, List.getLast?_concat] at hc
      cases hc
      decide
  have hsplit : withComment comment line = (line ++ [' ']).takeWhile isBlank ++
      ((line ++ [' ']).dropWhile isBlank ++
        ("/* ".toList ++ comment ++ " *".toList ++ ['/'])) ++ [] := by
    rw [List.append_nil, ← List.append_assoc, List.takeWhile_append_dropWhile]
    simp [withComment]
  rw [hsplit]
  exact strip_append (fun c hc => List.mem_takeWhile_imp hc) (List.forall_mem_nil _) htrimmed

/-- A line with a block comment behind it is skipped. -/
theorem step_withComment (hst : st.inComment = false) (hquote : '"' ∉ line)
    (comment : List Char) : step st (withComment comment line) = ([], st) := by
  have hopens : opensComment (strip (withComment comment line)) = true := by
    have hfront : '"' ∉ (line ++ [' ']).dropWhile isBlank := by
      intro h
      have hmem := (List.dropWhile_suffix isBlank).mem h
      simp [hquote] at hmem
    rw [strip_withComment]
    exact opensComment_append hfront _
  have hends : occursIn ['*', '/'] (strip (withComment comment line)) = true := by
    rw [strip_withComment, occursIn_iff]
    refine List.IsSuffix.isInfix
      ⟨(line ++ [' ']).dropWhile isBlank ++ ("/* ".toList ++ comment ++ [' ']), ?_⟩
    simp
  obtain ⟨depth, inComment, scopes⟩ := st
  obtain rfl : inComment = false := hst
  rw [step, hopens, Bool.or_true, if_pos rfl, hends]
  rfl

/-- What follows a line with a block comment behind it is read as if there were no such line. -/
theorem told_commentLine (hline : (lines source)[n]? = some line)
    (hcode : (stateAt n source).inComment = false) (hquote : '"' ∉ line) (hbreak : '\n' ∉ comment) :
    told (commentLine n comment source) = (run {} ((lines source).take n)).1 ++
      (run (stateAt n source) ((lines source).drop (n + 1))).1 := by
  have hlines : lines (commentLine n comment source) =
      (lines source).take n ++ withComment comment line :: (lines source).drop (n + 1) := by
    obtain ⟨hn, hget⟩ := List.getElem?_eq_some_iff.mp hline
    rw [commentLine, List.modify_eq_take_cons_drop hn, hget]
    refine lines_join_take (List.forall_mem_cons.mpr ⟨?_, fun l hl => ?_⟩) (by simp)
    · have hclean : '\n' ∉ line := newline_notMem_lines (List.mem_of_getElem? hline)
      simp [withComment, hclean, hbreak]
    · exact newline_notMem_lines (List.mem_of_mem_drop hl)
  rw [told_of_lines hlines, run, step_withComment hcode hquote]
  rfl

/-- A plain line that tells nothing counts its braces, and does nothing else if they balance. -/
theorem step_quiet (hsteady : Steady st) (hst : st.inComment = false) (hplain : PlainLine line)
    (hquiet : (step st line).1 = []) :
    (step st line).2.inComment = false ∧ (step st line).2.depth = st.depth + braceBalance line ∧
      (braceBalance line = 0 → (step st line).2 = st) := by
  have hpart {needle : List Char} (h : occursIn needle line = false) : ¬needle <:+: strip line := by
    intro hin
    have hthere := occursIn_iff.mpr (hin.trans (isInfix_strip line))
    rw [h] at hthere
    cases hthere
  have hopens : opensComment (strip line) = false :=
    opensComment_eq_false
      (Bool.eq_false_iff.mpr fun h => hpart hplain.no_comment (occursIn_iff.mp h))
  have hnote : startsWith ['/', '/'] (strip line) = false :=
    Bool.eq_false_iff.mpr fun h => hpart hplain.no_note (startsWith_iff.mp h).isInfix
  -- a quiet line is blank or code: what is copied would be told
  rw [step, hst, hopens, hnote, Bool.or_false, if_neg Bool.false_ne_true] at hquiet ⊢
  split at hquiet
  · next hempty =>
      have hblank : ∀ c ∈ line, isBlank c = true :=
        isBlank_of_strip_eq_nil (List.isEmpty_iff.mp (by simpa using hempty))
      have hbalance : braceBalance line = 0 :=
        braceBalance_of_notMem (fun h => absurd (hblank _ h) (by decide))
          (fun h => absurd (hblank _ h) (by decide))
      rw [if_pos hempty, hbalance, Int.add_zero]
      exact ⟨hst, rfl, fun _ => rfl⟩
  · next hempty =>
      rw [if_neg hempty]
      split at hquiet
      · cases hquiet
      · next hcopied =>
          rw [if_neg hcopied]
          have hheader : header? (strip line) = none := by
            have hnone := (List.append_eq_nil_iff.mp hquiet).1
            rwa [Option.toList_eq_nil_iff, Option.map_eq_none_iff] at hnone
          exact ⟨hst, rfl, stepCode_eq_of_balanced hsteady hheader⟩

/-- A block comment behind a plain line outside block comments changes nothing that is told,
whatever follows the line, exactly if the line tells nothing itself and its braces balance. -/
theorem told_commentLine_iff (hline : (lines source)[n]? = some line)
    (hcode : (stateAt n source).inComment = false) (hplain : PlainLine line)
    (hbreak : '\n' ∉ comment) :
    (∀ other, (lines other).take (n + 1) = (lines source).take (n + 1) →
      told (commentLine n comment other) = told other) ↔
    (step (stateAt n source) line).1 = [] ∧ braceBalance line = 0 := by
  have hsteady : Steady (stateAt n source) := steady_start.run _
  -- the two runs part at the line: one reads it, the other one does not
  have hlaw {other : List Char} (htake : (lines other).take (n + 1) = (lines source).take (n + 1)) :
      told (commentLine n comment other) = told other ↔
        (run (stateAt n source) ((lines other).drop (n + 1))).1 =
          (step (stateAt n source) line).1.map Entry.render ++
            (run (step (stateAt n source) line).2 ((lines other).drop (n + 1))).1 := by
    have hline' : (lines other)[n]? = some line := by
      rw [← List.getElem?_take_of_lt (Nat.lt_succ_self n), htake,
        List.getElem?_take_of_lt (Nat.lt_succ_self n), hline]
    have hstate : stateAt n other = stateAt n source := by
      refine stateAt_congr ?_
      have hshorter := congrArg (List.take n) htake
      rwa [List.take_take, List.take_take, Nat.min_eq_left (Nat.le_succ n)] at hshorter
    rw [told_commentLine hline' (hstate ▸ hcode) hplain.no_quote hbreak, told_eq_append_line hline',
      hstate, List.append_cancel_left_eq]
  constructor
  · intro h
    have hsame {rest : List (List Char)} (hrest : ∀ l ∈ rest, '\n' ∉ l) :
        (run (stateAt n source) rest).1 = (step (stateAt n source) line).1.map Entry.render ++
          (run (step (stateAt n source) line).2 rest).1 := by
      obtain ⟨hn, hget⟩ := List.getElem?_eq_some_iff.mp hline
      obtain ⟨other, htake, rfl⟩ := exists_continuation (n := n + 1) hn hrest (by
        rw [List.take_add_one, hline]
        simp)
      exact (hlaw htake).mp (h other htake)
    have hquiet : (step (stateAt n source) line).1 = [] := by
      have hnil := hsame (List.forall_mem_nil _)
      rw [run, run, List.append_nil] at hnil
      exact List.map_eq_nil_iff.mp hnil.symm
    obtain ⟨hcode', hdepth, _⟩ := step_quiet hsteady hcode hplain hquiet
    refine ⟨hquiet, ?_⟩
    cases Int.decEq (braceBalance line) 0 with
    | isTrue hzero => exact hzero
    | isFalse hne =>
        obtain ⟨rest, hrest, happart⟩ := exists_run_ne hcode hcode' (by rw [hdepth]; omega)
        have hrun := hsame hrest
        rw [hquiet, List.map_nil, List.nil_append] at hrun
        exact absurd hrun happart
  · rintro ⟨hquiet, hbalance⟩ other htake
    rw [hlaw htake, hquiet, (step_quiet hsteady hcode hplain hquiet).2.2 hbalance]
    rfl

/-- A comment behind a statement is harmless. -/
theorem told_commentLine_iff_statement :
    let source := "class A \x7b\n  x = y;\n  int z;\n\x7d\n".toList
    (stateAt 1 source).inComment = false ∧
    ∀ other, (lines other).take 2 = (lines source).take 2 →
      told (commentLine 1 "set \"x\" \x7b".toList other) = told other := by
  intro source
  have hline : (lines source)[1]? = some "  x = y;".toList := by decide
  have hcode : (stateAt 1 source).inComment = false := by decide +kernel
  have hplain : PlainLine "  x = y;".toList := ⟨by decide, by decide, by decide⟩
  have hquiet : (step (stateAt 1 source) "  x = y;".toList).1 = [] := by decide +kernel
  exact ⟨hcode, (told_commentLine_iff hline hcode hplain (by decide)).mpr ⟨hquiet, by decide⟩⟩

/-- A comment behind a method hides it and its brace, and the field after it goes with the type. -/
theorem told_commentLine_method :
    let source := "class A \x7b\n  void f() \x7b\n  \x7d\n  int y;\n\x7d\n".toList
    let line := "  void f() \x7b".toList
    (lines source)[1]? = some line ∧ (stateAt 1 source).inComment = false ∧
    PlainLine line ∧
    told source = ["\nClass: A".toList, "  Method: f()".toList, "  Field: y : int".toList] ∧
    told (commentLine 1 ['c'] source) = ["\nClass: A".toList] := by
  have hplain : PlainLine "  void f() \x7b".toList := ⟨by decide, by decide, by decide⟩
  exact ⟨by decide, by decide +kernel, hplain, by decide +kernel, by decide +kernel⟩

end CodeBrief.Java
