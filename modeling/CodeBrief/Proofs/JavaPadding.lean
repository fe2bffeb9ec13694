import CodeBrief.Proofs.JavaComments

/-!
# Lines between the lines

Blank lines and block comments that have lines of their own can stand anywhere
outside a block comment. A blank line is passed over. The first line of a comment
turns the flag of comments on, whatever else is in it, because its opener is the
first thing on the line and no quote can come before it; from there on lines are
looked at for the end of the comment only, and the line that has it turns the flag
off again. Nothing but the flag is touched in between, so a row of such lines
leaves the state as it found it (`run_padding`), and the lines behind them are read
in the state in which they were read without them (`told_insertLines`).
-/

namespace CodeBrief.Java

open Text

/-- The lines of a block comment: the first one starts with its opener, and its end is in the last
line and in no other. -/
structure IsBlockComment (block : List (List Char)) : Prop where
  opener : ∀ line ∈ block.head?, startsWith ['/', '*'] (strip line) = true
  ends : ∃ inside last, block = inside ++ [last] ∧
    (∀ line ∈ inside, occursIn ['*', '/'] line = false) ∧ occursIn ['*', '/'] last = true

/-- Blank lines and block comments in a row. -/
inductive Padding : List (List Char) → Prop
  | nil : Padding []
  | blank {line : List Char} {rest : List (List Char)} (hblank : ∀ c ∈ line, isBlank c = true)
      (hrest : Padding rest) : Padding (line :: rest)
  | comment {block rest : List (List Char)} (hblock : IsBlockComment block)
      (hrest : Padding rest) : Padding (block ++ rest)

/-- A source with lines put in front of its line with a number. -/
def insertLines (n : Nat) (inserted : List (List Char)) (source : List Char) : List Char :=
  join ['\n'] ((lines source).take n ++ (inserted ++ (lines source).drop n))

variable {line source : List Char} {block inside inserted : List (List Char)} {n : Nat} {st : State}

theorem step_blank (hst : st.inComment = false) (hblank : ∀ c ∈ line, isBlank c = true) :
    step st line = ([], st) := by
  have hstrip : strip line = [] := by
    have hfront : line.dropWhile isBlank = [] := List.dropWhile_eq_nil_iff.mpr hblank
    rw [strip, stripBy, hfront]
    rfl
  simp [step, hstrip, hst, opensComment, indexOf?]

theorem opensComment_of_startsWith (h : startsWith ['/', '*'] line = true) :
    opensComment line = true := by
  obtain ⟨rest, rfl⟩ := startsWith_iff.mp h
  exact opensComment_append List.not_mem_nil rest

/-- A line that is in a comment, or that starts one, is looked at for the end of the comment only. -/
theorem step_comment (h : st.inComment = true ∨ startsWith ['/', '*'] (strip line) = true) :
    step st line = ([], { st with inComment := !occursIn ['*', '/'] line }) := by
  have hcomment : (st.inComment || opensComment (strip line)) = true := by
    rw [Bool.or_eq_true]
    exact h.imp id opensComment_of_startsWith
  have hmarks : ∀ c ∈ ['*', '/'], isBlank c = false := by
    rw [List.forall_mem_cons, List.forall_mem_singleton]
    decide
  rw [step, if_pos hcomment, occursIn_strip (by decide) hmarks]

theorem run_inside (hst : st.inComment = true)
    (hinside : ∀ line ∈ inside, occursIn ['*', '/'] line = false) :
    run st inside = ([], st) := by
  induction inside with
  | nil => rfl
  | cons line rest ih =>
      have hstep : step st line = ([], st) := by
        rw [step_comment (.inl hst), hinside line (by simp)]
        show ([], { st with inComment := true }) = _
        rw [← hst]
      rw [run, hstep]
      show ((run st rest).1, (run st rest).2) = _
      rw [ih fun l hl => hinside l (by simp [hl])]

/-- A block comment leaves the state outside comments as it was. -/
theorem run_blockComment (hst : st.inComment = false) (hblock : IsBlockComment block) :
    run st block = ([], st) := by
  obtain ⟨hopener, inside, last, rfl, hinside, hlast⟩ := hblock
  have hend {st' : State} (h : st'.inComment = true ∨ startsWith ['/', '*'] (strip last) = true) :
      run st' [last] = ([], { st' with inComment := false }) := by
    have hstep := step_comment h
    rw [hlast] at hstep
    exact run_singleton hstep
  cases inside with
  | nil =>
      rw [List.nil_append, hend (.inr (hopener last rfl)), ← hst]
  | cons first inside =>
      -- the comment is open between its first line and its last one
      have hfirst : step st first = ([], { st with inComment := !occursIn ['*', '/'] first }) :=
        step_comment (.inr (hopener first rfl))
      rw [hinside first (by simp)] at hfirst
      have hmiddle : run { st with inComment := true } inside = ([], { st with inComment := true }) :=
        run_inside rfl fun l hl => hinside l (List.mem_cons_of_mem first hl)
      have hrun := run_append (run_append (run_singleton hfirst) hmiddle) (hend (.inl rfl))
      rw [List.singleton_append] at hrun
      rw [hrun]
      show ([], { st with inComment := false }) = _
      rw [← hst]

theorem run_padding (hst : st.inComment = false) (hpadding : Padding inserted) :
    run st inserted = ([], st) := by
  induction hpadding with
  | nil => rfl
  | blank hblank hrest ih => exact run_append (run_singleton (step_blank hst hblank)) ih
  | comment hblock hrest ih => exact run_append (run_blockComment hst hblock) ih

/-- At a position outside block comments, blank lines and block comments on lines of their own
change nothing that is told of a source, and the lines behind them are read in the same state. -/
theorem told_insertLines (hcode : (stateAt n source).inComment = false)
    (hpadding : Padding inserted) (hbreak : ∀ line ∈ inserted, '\n' ∉ line) :
    told (insertLines n inserted source) = told source ∧
      (n ≤ (lines source).length →
        stateAt (n + inserted.length) (insertLines n inserted source) = stateAt n source) := by
  have hrun := run_padding hcode hpadding
  have hlines : lines (insertLines n inserted source) =
      (lines source).take n ++ (inserted ++ (lines source).drop n) := by
    refine lines_join_take (fun l hl => ?_) ?_
    · rcases List.mem_append.mp hl with h | h
      · exact hbreak l h
      · exact newline_notMem_lines (List.mem_of_mem_drop h)
    · intro hnil
      have hall := List.take_append_drop n (lines source)
      rw [List.append_eq_nil_iff, List.append_eq_nil_iff] at hnil
      rw [hnil.1, hnil.2.2] at hall
      exact splitAtEach_ne_nil '\n' source hall.symm
  constructor
  · have hrest : run (stateAt n source) (inserted ++ (lines source).drop n) =
        run (stateAt n source) ((lines source).drop n) := run_append hrun rfl
    rw [told_of_lines hlines, hrest, ← told_eq_append n source]
  · intro hn
    have htake : (lines (insertLines n inserted source)).take (n + inserted.length) =
        (lines source).take n ++ inserted := by
      rw [hlines, ← List.append_assoc]
      exact List.take_left' (by simp; omega)
    have hprefix : run {} ((lines source).take n ++ inserted) =
        ((run {} ((lines source).take n)).1 ++ [], stateAt n source) := run_append rfl hrun
    rw [stateAt, htake, hprefix]

/-- A comment with a type, a quote and braces in it, and code behind its end. -/
theorem told_insertLines_class_in_comment :
    let source := "class A \x7b\n  int x;\n\x7d\n".toList
    let inserted := ["", "  /* \x7b", "class B \x7b \"", "  int y; */ \x7d", "/*/", "\t"].map String.toList
    (stateAt 1 source).inComment = false ∧ Padding inserted ∧
    told (insertLines 1 inserted source) = told source ∧
    told source = ["\nClass: A".toList, "  Field: x : int".toList] := by
  intro source inserted
  have hcode : (stateAt 1 source).inComment = false := by decide +kernel
  have hlong : IsBlockComment
      (["  /* \x7b", "class B \x7b \"", "  int y; */ \x7d"].map String.toList) :=
    ⟨by decide, ["  /* \x7b".toList, "class B \x7b \"".toList], "  int y; */ \x7d".toList,
      by decide, by decide, by decide⟩
  have hshort : IsBlockComment ["/*/".toList] :=
    ⟨by decide, [], "/*/".toList, by decide, by decide, by decide⟩
  have hpadding : Padding inserted :=
    .blank (List.all_eq_true.mp (by decide)) (.comment hlong (.comment hshort
      (.blank (List.all_eq_true.mp (by decide)) .nil)))
  exact ⟨hcode, hpadding, (told_insertLines hcode hpadding (by decide)).1, by decide +kernel⟩

end CodeBrief.Java
