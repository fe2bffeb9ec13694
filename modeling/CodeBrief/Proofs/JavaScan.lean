import CodeBrief.Proofs.JavaHeader
import CodeBrief.Proofs.JavaMember

/-!
# Scanning sources in the ordinary layout

The argument follows the nesting. Between two lines the scan is `within` a type:
its scope is on top, its brace was seen, and the depth is that of its body or
deeper. A member leaves this state as it found it, a method by going one deeper
and back, a type by putting its own scope on top and taking it away again
(`run_type`). What is below the top scope is never looked at, except when a type
ends: then the next scope has to stay, and it does because its depth is smaller
(`Settled`).

So a forest is told type by type and member by member, whatever surrounds it, and
`scan_sourceOf` follows from the empty state.
-/

namespace CodeBrief.Java

open Text

/-! ## Runs -/

/-- What is told of lines read in a state, and the state after them. -/
def run (st : State) : List (List Char) → List (List Char) × State
  | [] => ([], st)
  | line :: rest =>
      ((step st line).1.map Entry.render ++ (run (step st line).2 rest).1,
        (run (step st line).2 rest).2)

theorem map_render_scanFrom (st : State) (lines : List (List Char)) :
    (scanFrom st lines).map Entry.render = (run st lines).1 := by
  induction lines generalizing st with
  | nil => rfl
  | cons line rest ih => rw [scanFrom, List.map_append, ih, run]

theorem run_append {st st₁ st₂ : State} {xs ys a b : List (List Char)}
    (hx : run st xs = (a, st₁)) (hy : run st₁ ys = (b, st₂)) :
    run st (xs ++ ys) = (a ++ b, st₂) := by
  induction xs generalizing st a with
  | nil =>
      obtain ⟨rfl, rfl⟩ := Prod.mk.inj hx
      exact hy
  | cons x xs ih =>
      obtain ⟨rfl, hst⟩ := Prod.mk.inj hx
      have hrest := ih (Prod.ext rfl hst)
      rw [List.cons_append, run, hrest, List.append_assoc]

theorem run_singleton {st st' : State} {line : List Char} {es : List Entry}
    (h : step st line = (es, st')) : run st [line] = (es.map Entry.render, st') := by
  rw [run, h, run, List.append_nil]

theorem run_blank (st : State) (hst : st.inComment = false) (n : Nat) :
    run st (List.replicate n []) = ([], st) := by
  have hstep : step st [] = ([], st) := by
    simp [step, strip, stripBy, dropEndWhile, opensComment, indexOf?, hst]
  induction n with
  | zero => rfl
  | succ n ih => exact run_append (run_singleton hstep) ih

/-! ## States between lines -/

/-- A state in which lines of code are read and no scope is about to end. -/
structure Settled (st : State) : Prop where
  code : st.inComment = false
  depth : 0 ≤ st.depth
  top : ∀ s ∈ st.scopes.head?, s.depth < st.depth

/-- The state in the body of a type that began in `st`, so many braces deeper than its members. -/
def State.within (st : State) (name : List Char) (deeper : Int) : State :=
  { st with depth := st.depth + 1 + deeper, scopes := ⟨name, st.depth, true⟩ :: st.scopes }

variable {st : State}

theorem Settled.within (hst : Settled st) (name : List Char) : Settled (st.within name 0) where
  code := hst.code
  depth := by
    have := hst.depth
    simp only [State.within]
    omega
  top := by
    rintro _ ⟨⟩
    simp only [State.within]
    omega

theorem openInnermost_opened {d : Int} {s : Scope} {rest : List Scope} (h : s.opened = true) :
    openInnermost d (s :: rest) = s :: rest := by
  obtain ⟨name, depth, opened⟩ := s
  obtain rfl : opened = true := h
  simp [openInnermost]

theorem closeScopes_of_lt {d : Int} {scopes : List Scope} (h : ∀ s ∈ scopes.head?, s.depth < d) :
    closeScopes d scopes = scopes := by
  cases scopes with
  | nil => rfl
  | cons s rest =>
      have hs : ¬d ≤ s.depth := by
        have := h s rfl
        omega
      simp [closeScopes, hs]

theorem closeScopes_cons_of_lt {d : Int} {s : Scope} {rest : List Scope} (h : s.depth < d) :
    closeScopes d (s :: rest) = s :: rest := by
  refine closeScopes_of_lt ?_
  rintro _ ⟨⟩
  exact h

/-- A line of a body that declares no type: its member is told, and its braces are counted. -/
theorem stepCode_within (hst : Settled st) {text name : List Char} {deeper : Int}
    (hheader : header? text = none) (hk : 0 ≤ deeper) (hb : 0 ≤ deeper + braceBalance text) :
    stepCode (st.within name deeper) text text =
      ((member? name text).toList, st.within name (deeper + braceBalance text)) := by
  have hdepth := hst.depth
  have hpos : 0 < st.depth + 1 + deeper := by omega
  have hclose : closeScopes (st.depth + 1 + deeper + braceBalance text)
      (⟨name, st.depth, true⟩ :: st.scopes) = ⟨name, st.depth, true⟩ :: st.scopes :=
    closeScopes_cons_of_lt (show st.depth < _ by omega)
  simp only [stepCode, State.within, hheader, openInnermost_opened, hclose, hpos, if_true]
  simp only [Option.map_none, Option.toList_none, List.nil_append]
  rw [Int.add_assoc (st.depth + 1)]

/-- The closing brace of a type takes its scope away, and no other. -/
theorem stepCode_close (hst : Settled st) (name : List Char) :
    stepCode (st.within name 0) ['}'] ['}'] = ([], st) := by
  have hdepth : st.depth + 1 + 0 + braceBalance ['}'] = st.depth := by
    rw [show braceBalance ['}'] = -1 from rfl]
    omega
  have hclose : closeScopes st.depth (⟨name, st.depth, true⟩ :: st.scopes) = st.scopes := by
    rw [closeScopes, List.dropWhile_cons_of_pos (by simp)]
    -- what was on top before the type has a smaller depth, so the loop stops there
    exact closeScopes_of_lt hst.top
  have hheader : header? ['}'] = none := by decide
  have hmember : member? name ['}'] = none := rfl
  simp only [stepCode, State.within, hheader, hdepth, openInnermost_opened, hclose, hmember,
    ite_self]
  rfl

/-- The state after a header whose brace has not been seen. -/
def State.announced (st : State) (name : List Char) : State :=
  { st with scopes := ⟨name, st.depth, false⟩ :: st.scopes }

theorem stepCode_header (st : State) (h : Header) :
    stepCode st h.text h.text =
      ([h.entry], match h.brace with
        | .behind _ => st.within h.name.text 0
        | .below _ => st.announced h.name.text) := by
  have hbalance : braceBalance h.text = h.brace.mark.length := by
    rw [braceBalance, h.count_text.1, h.count_text.2]
    omega
  have hopened := h.contains_text
  simp only [stepCode, h.header?_text, h.member?_text, ite_self, hbalance, hopened]
  cases h.brace with
  | behind gap =>
      have hclose : closeScopes (st.depth + 1) (⟨h.name.text, st.depth, true⟩ :: st.scopes) =
          ⟨h.name.text, st.depth, true⟩ :: st.scopes :=
        closeScopes_cons_of_lt (show st.depth < _ by omega)
      have hone : ((1 : Nat) : Int) = 1 := rfl
      simp only [Brace.mark, List.length_singleton, List.isEmpty_cons, Bool.not_false, hone,
        openInnermost_opened, hclose, State.within, Int.add_zero]
      rfl
  | below m =>
      simp [Brace.mark, openInnermost, closeScopes, State.announced]

/-- A brace on the line after its header opens the type. -/
theorem stepCode_open (st : State) (name : List Char) :
    stepCode (st.announced name) ['{'] ['{'] = ([], st.within name 0) := by
  have hheader : header? ['{'] = none := by decide
  have hmember : member? name ['{'] = none := rfl
  have hbalance : braceBalance ['{'] = 1 := rfl
  have hlt : st.depth < st.depth + 1 := by omega
  simp [stepCode, State.announced, State.within, hheader, hmember, hbalance, openInnermost, hlt,
    closeScopes]

theorem run_header (h : Header) (hst : Settled st) :
    run st h.lines = ([h.digest], st.within h.name.text 0) := by
  have hline := step_around h.codeLine_text hst.code h.margins
  rw [stepCode_header] at hline
  have hrun := run_singleton hline
  rw [List.map_singleton, h.render_entry] at hrun
  rw [Header.lines]
  cases hb : h.brace with
  | behind gap =>
      rw [hb] at hrun
      exact hrun
  | below m =>
      rw [hb] at hrun
      have hbrace := step_around (codeLine_brace List.mem_cons_self)
        (show (st.announced h.name.text).inComment = false from hst.code) m
      rw [stepCode_open] at hbrace
      exact run_append hrun (run_singleton hbrace)

/-! ## Members and types -/

theorem run_field (hst : Settled st) (owner : Name) (m : Margins) (type : TypeName) (name : Name) :
    run (st.within owner.text 0) (Member.field m type name).lines =
      ((Member.field m type name).digest owner, st.within owner.text 0) := by
  have hbalance := braceBalance_fieldText type name
  have hline := step_around (codeLine_fieldText type name) (hst.within owner.text).code m
  rw [stepCode_within hst (header?_fieldText type name) (Int.le_refl 0) (by rw [hbalance]; decide),
    member?_fieldText, hbalance] at hline
  exact run_singleton hline

theorem run_method (hst : Settled st) (owner : Name) (m : Margins) (result : Option TypeName)
    (name : Name) (params : Params) (closing : Margins) :
    run (st.within owner.text 0) (Member.method m result name params closing).lines =
      ((Member.method m result name params closing).digest owner, st.within owner.text 0) := by
  have hbalance := braceBalance_methodText result name params
  have hline := step_around (codeLine_methodText result name params) (hst.within owner.text).code m
  rw [stepCode_within hst (header?_methodText result name params) (Int.le_refl 0)
    (by rw [hbalance]; decide), member?_methodText, hbalance] at hline
  have hend := step_around (codeLine_brace (c := '}') (by decide))
    (show (st.within owner.text 1).inComment = false from hst.code) closing
  rw [stepCode_within hst (by decide) (by decide) (by decide)] at hend
  have hrun := run_append (run_singleton hline) (run_singleton hend)
  have hdigest : (if name.text = owner.text then Entry.constructor name.text params.shown
      else .method name.text params.shown).render = methodDigest owner name params := by
    rw [methodDigest]
    split <;> rfl
  rw [Option.toList_some, List.map_singleton, hdigest] at hrun
  rw [Member.lines, Member.digest]
  exact hrun

mutual

/-- A type leaves the state as it found it. -/
theorem run_type (t : TypeDecl) {st : State} (hst : Settled st) :
    run st t.lines = (t.digest, st) := by
  match t with
  | .decl header members closing =>
      have hend := step_around (codeLine_brace (c := '}') (by decide))
        (hst.within header.name.text).code closing
      rw [stepCode_close hst] at hend
      rw [TypeDecl.lines, TypeDecl.digest, ← List.singleton_append, ← List.append_nil
        (Member.allDigests header.name members)]
      exact run_append (run_header header hst)
        (run_append (run_members header.name members hst) (run_singleton hend))

theorem run_member (owner : Name) (m : Member) {st : State} (hst : Settled st) :
    run (st.within owner.text 0) m.lines = (m.digest owner, st.within owner.text 0) := by
  match m with
  | .field margins type name => exact run_field hst owner margins type name
  | .method margins result name params closing =>
      exact run_method hst owner margins result name params closing
  | .nested type =>
      rw [Member.lines, Member.digest]
      exact run_type type (hst.within owner.text)

theorem run_members (owner : Name) (ms : List Member) {st : State} (hst : Settled st) :
    run (st.within owner.text 0) (Member.allLines ms) =
      (Member.allDigests owner ms, st.within owner.text 0) := by
  match ms with
  | [] => rw [Member.allLines, Member.allDigests]; rfl
  | m :: rest =>
      rw [Member.allLines, Member.allDigests]
      exact run_append (run_member owner m hst) (run_members owner rest hst)

end

theorem run_types (types : List TypeDecl) (hst : Settled st) :
    run st (types.flatMap TypeDecl.lines) = (types.flatMap TypeDecl.digest, st) := by
  induction types with
  | nil => rfl
  | cons t rest ih =>
      rw [List.flatMap_cons, List.flatMap_cons]
      exact run_append (run_type t hst) ih

/-! ## Sources -/

mutual

theorem TypeDecl.newline_notMem (t : TypeDecl) : ∀ line ∈ t.lines, '\n' ∉ line := by
  match t with
  | .decl header members closing =>
      have hheader : ∀ line ∈ header.lines, '\n' ∉ line := header.newline_notMem_lines
      intro line hline
      rw [TypeDecl.lines, List.mem_append, List.mem_append, List.mem_singleton] at hline
      rcases hline with h | h | rfl
      · exact hheader line h
      · exact Member.newline_notMem_all members line h
      · exact closing.notMem_around (by decide)

theorem Member.newline_notMem (m : Member) : ∀ line ∈ m.lines, '\n' ∉ line := by
  match m with
  | .field margins type name =>
      intro line hline
      rw [Member.lines, List.mem_singleton] at hline
      subst hline
      exact margins.notMem_around (notMem_fieldText type name (by decide) (by decide) (by decide))
  | .method margins result name params closing =>
      intro line hline
      rw [Member.lines, List.mem_cons, List.mem_singleton] at hline
      rcases hline with rfl | rfl
      · exact margins.notMem_around (newline_notMem_methodText result name params)
      · exact closing.notMem_around (by decide)
  | .nested type =>
      rw [Member.lines]
      exact TypeDecl.newline_notMem type

theorem Member.newline_notMem_all (ms : List Member) :
    ∀ line ∈ Member.allLines ms, '\n' ∉ line := by
  match ms with
  | [] =>
      rw [Member.allLines]
      exact nofun
  | m :: rest =>
      intro line hline
      rw [Member.allLines, List.mem_append] at hline
      rcases hline with h | h
      · exact Member.newline_notMem m line h
      · exact Member.newline_notMem_all rest line h

end

/-- The lines of a source come back; an empty forest is one empty line. -/
theorem lines_sourceOf (types : List TypeDecl) (breaks : Nat) :
    ∃ n, Text.lines (sourceOf types breaks) =
      types.flatMap TypeDecl.lines ++ List.replicate n [] := by
  have hnewline :
      ∀ line ∈ types.flatMap TypeDecl.lines ++ List.replicate breaks [], '\n' ∉ line := by
    intro line hline
    rcases List.mem_append.mp hline with h | h
    · obtain ⟨t, _, h⟩ := List.mem_flatMap.mp h
      exact t.newline_notMem line h
    · rw [List.eq_of_mem_replicate h]
      exact List.not_mem_nil
  by_cases hne : types.flatMap TypeDecl.lines ++ List.replicate breaks [] = []
  · refine ⟨1, ?_⟩
    rw [sourceOf, hne, (List.append_eq_nil_iff.mp hne).1]
    rfl
  · exact ⟨breaks, splitAtEach_join hne hnewline⟩

/-- A forest of types in the ordinary layout is told in pre-order, each member under the type that
it stands in, and nothing else is told. -/
theorem scan_sourceOf (types : List TypeDecl) (breaks : Nat) :
    (scan (sourceOf types breaks)).map Entry.render = types.flatMap TypeDecl.digest := by
  obtain ⟨n, hlines⟩ := lines_sourceOf types breaks
  have hstart : Settled {} := ⟨rfl, Int.le_refl 0, nofun⟩
  have hrun := run_append (run_types types hstart) (run_blank {} rfl n)
  rw [scan, map_render_scanFrom, hlines, hrun, List.append_nil]

/-- A class whose brace is on the next line, with a field, an inner interface and a constructor. -/
example : ∃ t : TypeDecl,
    sourceOf [t] 1 = ("class A extends B\n\x7b\n  private int x;\n  interface I \x7b\n  \x7d\n" ++
      "  public A( int x ) \x7b\n  \x7d\n\x7d\n").toList ∧
    t.digest = ["\nClass: A extends B".toList, "  Field: x : int".toList, "\nInterface: I".toList,
      "  Constructor: A(int x)".toList] := by
  let flush : Blanks := ⟨[], nofun, nofun⟩
  let one : Blanks := ⟨[' '], List.all_eq_true.mp (by decide), by decide⟩
  let two : Blanks := ⟨[' ', ' '], List.all_eq_true.mp (by decide), by decide⟩
  let a : Name := ⟨['A'], by decide, by decide⟩
  let b : Name := ⟨['B'], by decide, by decide⟩
  let i : Name := ⟨['I'], by decide, by decide⟩
  let x : Name := ⟨['x'], by decide, by decide⟩
  let int : TypeName := ⟨"int".toList, by decide, by decide⟩
  let params : Params :=
    ⟨" int x ".toList, by decide, by decide, by decide, by decide, by decide, by decide⟩
  let inner : TypeDecl := .decl ⟨⟨two, flush⟩, .interface, i, .behind one, by decide⟩ [] ⟨two, flush⟩
  refine ⟨.decl ⟨⟨flush, flush⟩, .class (some b) [], a, .below ⟨flush, flush⟩, by decide⟩
    [.field ⟨two, flush⟩ int x, .nested inner, .method ⟨two, flush⟩ none a params ⟨two, flush⟩]
    ⟨flush, flush⟩, ?_, ?_⟩ <;> decide

end CodeBrief.Java
