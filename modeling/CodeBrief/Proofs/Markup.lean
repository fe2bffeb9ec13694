import CodeBrief.Terminal.Markup

/-!
# What markup leaves of a message

A message is shown as it is if and only if it is plain (`shown_eq_self_iff`): it has
no tag, no backslash in front of a bracket, no control and no code of a picture. One
direction reads the definitions. The other one counts. No piece of a message shows
more marks than it has, a mark being a bracket, a backslash or a control
(`isMark`), and whatever is read as markup shows fewer, so a message that is shown in
full has no markup. Pictures have no marks, which is all that is used of them.

Nothing here depends on the vocabulary of the terminal. Only a closing tag, or a
style with a parenthesis, can make a text impossible to show, so a text without
either is always shown (`exists_shown_of_tags`).
-/

namespace CodeBrief.Terminal.Markup

open Text (Point Wide)

variable {v : Vocabulary}

/-! ## Tags -/

theorem tagRest?_eq_some {ps rest after : List Point} (h : tagRest? ps = some (rest, after)) :
    ps = rest ++ .char ']' :: after ∧ .char '[' ∉ rest := by
  induction ps generalizing rest with
  | nil => cases h
  | cons p ps ih =>
      rw [tagRest?] at h
      split at h
      · next hclose =>
          cases h
          subst hclose
          exact ⟨rfl, List.not_mem_nil⟩
      · split at h
        · cases h
        · next hopen =>
            obtain ⟨⟨rest', after'⟩, hfound, heq⟩ := Option.map_eq_some_iff.mp h
            cases heq
            obtain ⟨rfl, hrest⟩ := ih hfound
            exact ⟨rfl, List.not_mem_cons_of_ne_of_not_mem (Ne.symm hopen) hrest⟩

theorem isSome_tagRest? {rest : List Point} (h : .char '[' ∉ rest) (after : List Point) :
    (tagRest? (rest ++ .char ']' :: after)).isSome = true := by
  induction rest with
  | nil => rfl
  | cons p rest ih =>
      rw [List.cons_append, tagRest?]
      split
      · rfl
      · rw [if_neg (Ne.symm (List.ne_of_not_mem_cons h)), Option.isSome_map]
        exact ih (List.not_mem_of_not_mem_cons h)

/-- What is read as a tag stands between brackets and has no opening bracket inside. -/
theorem tag?_eq_some {ps body after : List Point} (h : tag? ps = some (body, after)) :
    ps = bracketed body ++ after ∧
      ∃ p rest, body = p :: rest ∧ startsTag p = true ∧ .char '[' ∉ rest := by
  rw [tag?.eq_def] at h
  split at h
  · next p ps =>
      split at h
      · next hstarts =>
          obtain ⟨⟨rest, after'⟩, hfound, heq⟩ := Option.map_eq_some_iff.mp h
          cases heq
          obtain ⟨rfl, hrest⟩ := tagRest?_eq_some hfound
          exact ⟨by simp [bracketed], p, rest, rfl, hstarts, hrest⟩
      · cases h
  · cases h

theorem isSome_tag? {p : Point} {rest : List Point} (hp : startsTag p = true) (h : .char '[' ∉ rest)
    (after : List Point) : (tag? (bracketed (p :: rest) ++ after)).isSome = true := by
  have heq : bracketed (p :: rest) ++ after =
      .char '[' :: p :: (rest ++ .char ']' :: after) := by simp [bracketed]
  rw [heq, tag?, if_pos hp, Option.isSome_map]
  exact isSome_tagRest? h after

theorem tag?_eq_none_of_head {ps : List Point} (h : ps.head? ≠ some (.char '[')) : tag? ps = none := by
  cases htag : tag? ps with
  | none => rfl
  | some found =>
      obtain ⟨heq, -⟩ := tag?_eq_some htag
      rw [heq] at h
      exact absurd rfl h

/-! ## The first tag -/

/-- Backslashes at the front of a text, and what follows them. -/
theorem exists_backslashes (ps : List Point) :
    ∃ k, ps = List.replicate k (.char '\\') ++ dropBackslashes ps ∧
      (dropBackslashes ps).length + k = ps.length := by
  have happend := List.takeWhile_append_dropWhile (p := (· = Point.char '\\')) (l := ps)
  have hall : ps.takeWhile (· = .char '\\') =
      List.replicate (ps.takeWhile (· = .char '\\')).length (.char '\\') := by
    refine List.eq_replicate_iff.mpr ⟨rfl, fun p hp => ?_⟩
    exact of_decide_eq_true (List.all_eq_true.mp List.all_takeWhile p hp)
  refine ⟨(ps.takeWhile (· = .char '\\')).length, ?_, ?_⟩
  · rw [← hall]
    exact happend.symm
  · have hlength := congrArg List.length happend
    rw [List.length_append] at hlength
    rw [dropBackslashes]
    omega

theorem dropBackslashes_of_head {ps : List Point} (h : ps.head? ≠ some (.char '\\')) :
    dropBackslashes ps = ps := by
  cases ps with
  | nil => rfl
  | cons p ps => exact List.dropWhile_cons_of_neg (by simpa using h)

/-- A text that starts with no backslash adds nothing to backslashes in front of it. -/
theorem dropBackslashes_append {ps qs : List Point} (h : dropBackslashes ps ≠ []) :
    dropBackslashes (ps ++ qs) = dropBackslashes ps ++ qs := by
  rw [dropBackslashes, List.dropWhile_append, if_neg]
  · rfl
  · simpa [List.isEmpty_iff, dropBackslashes] using h

theorem firstTag?_cons_of_tag {p : Point} {ps body after : List Point}
    (h : tag? (dropBackslashes (p :: ps)) = some (body, after)) :
    firstTag? (p :: ps) =
      some ⟨[], ps.length + 1 - (dropBackslashes (p :: ps)).length, body, after⟩ := by
  rw [firstTag?, h]

theorem firstTag?_cons_of_none {p : Point} {ps : List Point}
    (h : tag? (dropBackslashes (p :: ps)) = none) :
    firstTag? (p :: ps) = (firstTag? ps).map fun f => { f with front := p :: f.front } := by
  rw [firstTag?, h]

/-- A tag is found where it stands. -/
theorem firstTag?_eq_some {ps : List Point} {f : Found} (h : firstTag? ps = some f) :
    ps = f.front ++ (List.replicate f.backslashes (.char '\\') ++ (bracketed f.body ++ f.after)) ∧
      ∃ p rest, f.body = p :: rest ∧ startsTag p = true ∧ .char '[' ∉ rest := by
  induction ps generalizing f with
  | nil => cases h
  | cons p ps ih =>
      cases htag : tag? (dropBackslashes (p :: ps)) with
      | some found =>
          obtain ⟨k, hps, hlength⟩ := exists_backslashes (p :: ps)
          obtain ⟨hfound, hbody⟩ := tag?_eq_some htag
          rw [firstTag?_cons_of_tag htag] at h
          cases h
          have hk : ps.length + 1 - (dropBackslashes (p :: ps)).length = k := by
            rw [List.length_cons] at hlength
            omega
          refine ⟨?_, hbody⟩
          rw [hk, ← hfound]
          exact hps
      | none =>
          rw [firstTag?_cons_of_none htag] at h
          obtain ⟨g, hg, rfl⟩ := Option.map_eq_some_iff.mp h
          obtain ⟨hps, hbody⟩ := ih hg
          exact ⟨congrArg (p :: ·) hps, hbody⟩

theorem length_after_lt {ps : List Point} {f : Found} (h : firstTag? ps = some f) :
    f.after.length < ps.length := by
  obtain ⟨hps, -⟩ := firstTag?_eq_some h
  rw [hps]
  simp only [bracketed, List.length_append, List.length_cons]
  omega

/-- There is no first tag if and only if there is none at all. -/
theorem firstTag?_eq_none_iff {ps : List Point} :
    firstTag? ps = none ↔ ∀ s, s <:+ ps → tag? s = none := by
  induction ps with
  | nil => exact iff_of_true rfl fun s hs => List.suffix_nil.mp hs ▸ rfl
  | cons p ps ih =>
      constructor
      · intro h
        cases htag : tag? (dropBackslashes (p :: ps)) with
        | some found =>
            rw [firstTag?_cons_of_tag htag] at h
            cases h
        | none =>
            rw [firstTag?_cons_of_none htag, Option.map_eq_none_iff] at h
            intro s hs
            rcases List.suffix_cons_iff.mp hs with rfl | hs
            · by_cases hp : p = .char '\\'
              · exact tag?_eq_none_of_head (by simp [hp])
              · rwa [dropBackslashes_of_head (by simpa using hp)] at htag
            · exact ih.mp h s hs
      · intro h
        have hdrop : tag? (dropBackslashes (p :: ps)) = none := h _ (List.dropWhile_suffix _)
        rw [firstTag?_cons_of_none hdrop, ih.mpr fun s hs => h s (hs.trans (List.suffix_cons p ps))]
        rfl

/-! ## Pieces -/

theorem piecesFrom_of_none {ps : List Point} (h : firstTag? ps = none) (fuel : Nat) :
    piecesFrom fuel ps = [.text ps] := by
  cases fuel with
  | zero => rfl
  | succ fuel => rw [piecesFrom, h]

theorem piecesFrom_succ {ps : List Point} {f : Found} (h : firstTag? ps = some f) (fuel : Nat) :
    piecesFrom (fuel + 1) ps =
      .text f.front :: escaped f.backslashes f.body ++ piecesFrom fuel f.after := by
  rw [piecesFrom, h]

/-- More fuel than characters changes nothing. -/
theorem piecesFrom_eq_piecesFrom {fuel fuel' : Nat} {ps : List Point} (h : ps.length ≤ fuel)
    (h' : ps.length ≤ fuel') : piecesFrom fuel ps = piecesFrom fuel' ps := by
  induction fuel generalizing fuel' ps with
  | zero =>
      obtain rfl := List.length_eq_zero_iff.mp (Nat.le_zero.mp h)
      rw [piecesFrom_of_none rfl, piecesFrom_of_none rfl]
  | succ fuel ih =>
      cases hfirst : firstTag? ps with
      | none => rw [piecesFrom_of_none hfirst, piecesFrom_of_none hfirst]
      | some f =>
          have hafter := length_after_lt hfirst
          obtain ⟨fuel', rfl⟩ := Nat.exists_eq_succ_of_ne_zero (Nat.ne_zero_of_lt (Nat.lt_of_lt_of_le hafter h'))
          rw [piecesFrom_succ hfirst, piecesFrom_succ hfirst,
            @ih fuel' f.after (by omega) (by omega)]

theorem pieces_of_none {ps : List Point} (h : firstTag? ps = none) : pieces ps = [.text ps] :=
  piecesFrom_of_none h ps.length

theorem pieces_of_some {ps : List Point} {f : Found} (h : firstTag? ps = some f) :
    pieces ps = .text f.front :: escaped f.backslashes f.body ++ pieces f.after := by
  have hafter := length_after_lt h
  have hfuel : ps.length = ps.length - 1 + 1 := by omega
  have heq : piecesFrom (ps.length - 1) f.after = pieces f.after :=
    piecesFrom_eq_piecesFrom (by omega) (Nat.le_refl _)
  rw [pieces, hfuel, piecesFrom_succ h, heq]

/-- What stands in a tag. -/
def Piece.body? : Piece → Option (List Point)
  | .tag body => some body
  | .text _ => none

/-- The tags of a message. -/
def tags (ps : List Point) : List (List Point) :=
  (pieces ps).filterMap Piece.body?

theorem mem_tags {ps body : List Point} : body ∈ tags ps ↔ .tag body ∈ pieces ps := by
  rw [tags, List.mem_filterMap]
  constructor
  · rintro ⟨piece, hpiece, heq⟩
    cases piece with
    | text _ => cases heq
    | tag _ =>
        cases heq
        exact hpiece
  · exact fun h => ⟨_, h, rfl⟩

theorem tags_of_none {ps : List Point} (h : firstTag? ps = none) : tags ps = [] := by
  rw [tags, pieces_of_none h]
  rfl

theorem tags_of_some {ps : List Point} {f : Found} (h : firstTag? ps = some f) :
    tags ps = (escaped f.backslashes f.body).filterMap Piece.body? ++ tags f.after := by
  rw [tags, pieces_of_some h, List.filterMap_append]
  rfl

/-! ## What text shows -/

/-- A code point that a picture has none of. -/
def NotPictured (q : Point → Bool) : Prop :=
  ∀ c, isMark (.char c) = false → q (.char c) = false

/-- The text of a code that has been opened. -/
def opening : Option (List Point) → List Point
  | none => []
  | some code => .char ':' :: code

section Counting

variable {q : Point → Bool} (hq : NotPictured q)
include hq

theorem countP_codeText_le (code : List Point) :
    (codeText v code).countP q ≤ (opening (some code) ++ [Point.char ':']).countP q := by
  rw [codeText]
  split
  · next picture _ =>
      have hnone : (picture.chars.map Point.char).countP q = 0 := by
        rw [List.countP_eq_zero]
        intro p hp
        obtain ⟨c, hc, rfl⟩ := List.mem_map.mp hp
        rw [hq c (picture.shown c hc)]
        exact Bool.false_ne_true
      rw [hnone]
      exact Nat.zero_le _
  · exact Nat.le_refl _

theorem countP_emojisFrom_le (code : Option (List Point)) (ps : List Point) :
    (emojisFrom v code ps).countP q ≤ (opening code ++ ps).countP q := by
  fun_induction emojisFrom v code ps with
  | case1 => exact Nat.le_refl _
  | case2 code => simp [opening]
  | case3 ps ih => exact ih
  | case4 p ps hp ih =>
      simp only [opening, List.nil_append, List.countP_cons] at ih ⊢
      omega
  | case5 code ps ih =>
      have hcode := countP_codeText_le (v := v) hq code
      simp only [opening, List.countP_append, List.countP_cons, List.countP_nil] at ih hcode ⊢
      omega
  | case6 code p ps hp hblank ih =>
      simp only [opening, List.countP_append, List.countP_cons, List.countP_nil] at ih ⊢
      omega
  | case7 code p ps hp hblank ih =>
      simp only [opening, List.countP_append, List.countP_cons, List.countP_nil] at ih ⊢
      omega

theorem countP_emojis_le (ps : List Point) : (emojis v ps).countP q ≤ ps.countP q :=
  countP_emojisFrom_le hq none ps

end Counting

theorem unescape_sublist (ps : List Point) : (unescape ps).Sublist ps := by
  fun_induction unescape ps with
  | case1 => exact List.Sublist.slnil
  | case2 ps ih => exact (ih.cons_cons _).cons _
  | case3 p ps _ ih => exact ih.cons_cons _

theorem countP_textOf_le {q : Point → Bool} (hq : NotPictured q) (ps : List Point) :
    (textOf v ps).countP q ≤ ps.countP q := by
  have hshown : (textOf v ps).countP q ≤ (emojis v (unescape ps)).countP q :=
    List.filter_sublist.countP_le
  exact Nat.le_trans hshown (Nat.le_trans (countP_emojis_le hq _) (unescape_sublist ps).countP_le)

theorem notPictured_isMark : NotPictured isMark := fun _ h => h

theorem notPictured_isHidden : NotPictured isHidden := by
  intro c h
  rw [isMark, Bool.or_eq_false_iff] at h
  exact h.2

theorem notPictured_isHalf : NotPictured Point.isHalf := fun _ _ => rfl

/-! ## What a message shows -/

/-- Reading a tag with backslashes before it, behind some text, reads the rest with the tags that are
open then. -/
theorem exists_of_read_escaped {opened : List Opened} {front body : List Point} {k : Nat}
    {rest : List Piece} {out : List Point}
    (h : read v opened (.text front :: escaped k body ++ rest) = .ok out) :
    ∃ opened' shown out', read v opened' rest = .ok out' ∧
      out = textOf v front ++ (textOf v (List.replicate (k / 2) (.char '\\')) ++ (shown ++ out')) ∧
      (k % 2 = 0 ∧ shown = [] ∨ k % 2 = 1 ∧ shown = textOf v (bracketed body)) := by
  rw [escaped] at h
  simp only [List.cons_append, List.nil_append, read] at h
  split at h
  · next heven =>
      rw [read] at h
      split at h
      · next opened' _ =>
          cases hrest : read v opened' rest with
          | error why =>
              rw [hrest] at h
              cases h
          | ok out' =>
              rw [hrest] at h
              cases h
              exact ⟨opened', [], out', hrest, rfl, .inl ⟨heven, rfl⟩⟩
      · cases h
  · next hodd =>
      rw [read] at h
      cases hrest : read v opened rest with
      | error why =>
          rw [hrest] at h
          cases h
      | ok out' =>
          rw [hrest] at h
          cases h
          exact ⟨opened, _, out', hrest, rfl, .inr ⟨by omega, rfl⟩⟩

theorem read_text (opened : List Opened) (ps : List Point) :
    read v opened [.text ps] = .ok (textOf v ps) := by
  rw [read, read, Except.map, List.append_nil]

/-- No message shows more of anything that pictures have none of than it has. -/
theorem countP_le_of_read {q : Point → Bool} (hq : NotPictured q) {ps out : List Point}
    {opened : List Opened} (h : read v opened (pieces ps) = .ok out) : out.countP q ≤ ps.countP q := by
  induction hn : ps.length using Nat.strongRecOn generalizing ps opened out with
  | ind n ih =>
      subst hn
      cases hfirst : firstTag? ps with
      | none =>
          rw [pieces_of_none hfirst, read_text] at h
          cases h
          exact countP_textOf_le hq ps
      | some f =>
          rw [pieces_of_some hfirst] at h
          obtain ⟨opened', shown, out', hrest, rfl, hshown⟩ := exists_of_read_escaped h
          have hout := ih f.after.length (length_after_lt hfirst) hrest rfl
          have hfront := countP_textOf_le (v := v) hq f.front
          have hback := countP_textOf_le (v := v) hq (List.replicate (f.backslashes / 2) (.char '\\'))
          have hbody := countP_textOf_le (v := v) hq (bracketed f.body)
          have hless : (List.replicate (f.backslashes / 2) (Point.char '\\')).countP q ≤
              (List.replicate f.backslashes (Point.char '\\')).countP q :=
            (List.replicate_sublist_replicate _ |>.mpr (Nat.div_le_self _ 2)).countP_le
          obtain ⟨hps, -⟩ := firstTag?_eq_some hfirst
          rw [hps]
          simp only [List.countP_append]
          rcases hshown with ⟨-, rfl⟩ | ⟨-, rfl⟩
          · simp only [List.countP_nil]
            omega
          · omega

/-- A message with a tag shows fewer marks than it has. -/
theorem countP_lt_of_read {ps out : List Point} {opened : List Opened} {f : Found}
    (hfirst : firstTag? ps = some f) (h : read v opened (pieces ps) = .ok out) :
    out.countP isMark < ps.countP isMark := by
  rw [pieces_of_some hfirst] at h
  obtain ⟨opened', shown, out', hrest, rfl, hshown⟩ := exists_of_read_escaped h
  have hout := countP_le_of_read notPictured_isMark hrest
  have hfront := countP_textOf_le (v := v) notPictured_isMark f.front
  have hback := countP_textOf_le (v := v) notPictured_isMark
    (List.replicate (f.backslashes / 2) (.char '\\'))
  have hbody := countP_textOf_le (v := v) notPictured_isMark (bracketed f.body)
  have hmark : isMark (.char '\\') = true := rfl
  have hopen : 0 < (bracketed f.body).countP isMark :=
    List.countP_pos_iff.mpr ⟨.char '[', List.mem_cons_self, rfl⟩
  obtain ⟨hps, -⟩ := firstTag?_eq_some hfirst
  rw [hps]
  simp only [List.countP_append, List.countP_replicate, hmark, if_true] at hback ⊢
  rcases hshown with ⟨-, rfl⟩ | ⟨hodd, rfl⟩
  · simp only [List.countP_nil]
    omega
  · omega

theorem mapM_char?_eq_some {ps : List Point} {cs : List Char} :
    ps.mapM Point.char? = some cs ↔ ps = cs.map .char := by
  induction ps generalizing cs with
  | nil => simp [eq_comm]
  | cons p ps ih =>
      rw [List.mapM_cons]
      cases p with
      | char c =>
          cases hps : ps.mapM Point.char? with
          | none =>
              refine iff_of_false nofun fun heq => ?_
              obtain ⟨d, ds, rfl⟩ : ∃ d ds, cs = d :: ds := by
                cases cs with
                | nil => cases heq
                | cons d ds => exact ⟨d, ds, rfl⟩
              rw [ih.mpr (List.cons.inj heq).2] at hps
              cases hps
          | some ds =>
              have hds := ih.mp hps
              cases cs with
              | nil => exact iff_of_false nofun nofun
              | cons d cs =>
                  rw [hds]
                  simp [Point.char?, List.map_inj_right fun _ _ => Point.char.inj]
      | high _ => exact iff_of_false nofun fun heq => by cases cs <;> cases heq
      | low _ => exact iff_of_false nofun fun heq => by cases cs <;> cases heq

theorem exists_chars {ps : List Point} (h : ∀ p ∈ ps, ¬p.isHalf = true) :
    ∃ cs : List Char, ps = cs.map .char := by
  induction ps with
  | nil => exact ⟨[], rfl⟩
  | cons p ps ih =>
      obtain ⟨hp, hps⟩ := List.forall_mem_cons.mp h
      obtain ⟨cs, rfl⟩ := ih hps
      cases p with
      | char c => exact ⟨c :: cs, rfl⟩
      | high _ => exact absurd rfl hp
      | low _ => exact absurd rfl hp

/-- A message is shown if it can be read, painted and encoded. -/
theorem shown_eq_ok_iff {message : Wide} {cs : List Char} :
    shown v message = .ok cs ↔
      read v [] (pieces message.points) = .ok (cs.map .char) ∧
        v.paints (pieces message.points) = true := by
  rw [shown]
  cases hread : read v [] (pieces message.points) with
  | error why => exact iff_of_false nofun fun h => by cases h.1
  | ok text =>
      simp only []
      split
      · next hpaints =>
          cases htext : text.mapM Point.char? with
          | none =>
              refine iff_of_false nofun fun h => ?_
              cases h.1
              rw [mapM_char?_eq_some.mpr rfl] at htext
              cases htext
          | some ds =>
              rw [mapM_char?_eq_some.mp htext]
              simp [hpaints, List.map_inj_right fun _ _ => Point.char.inj]
      · next hpaints => exact iff_of_false nofun fun h => hpaints h.2

/-! ## Plain texts -/

/-- Nothing in a text is markup: every bracket that starts a tag has another one open before it is
closed, no backslash stands in front of a bracket, and there are neither controls nor codes of
pictures. -/
structure Plain (v : Vocabulary) (ps : List Point) : Prop where
  noTag : ∀ a p body b, ps = a ++ (bracketed (p :: body) ++ b) → startsTag p = true → .char '[' ∈ body
  noEscape : ¬[.char '\\', .char '['] <:+: ps
  noControl : ∀ p ∈ ps, isHidden p = false
  noPicture : emojis v ps = ps

/-- A backslash that is left out is missed in the count. -/
theorem unescape_eq_self_iff {ps : List Point} :
    unescape ps = ps ↔ ¬[.char '\\', .char '['] <:+: ps := by
  fun_induction unescape ps with
  | case1 => exact iff_of_true rfl (by simp)
  | case2 ps ih =>
      refine iff_of_false (fun heq => ?_) (not_not_intro ?_)
      · have hlength := congrArg List.length heq
        have hle := (unescape_sublist ps).length_le
        simp only [List.length_cons] at hlength
        omega
      · exact List.IsPrefix.isInfix (List.prefix_append [.char '\\', .char '['] ps)
  | case3 p ps hnot ih =>
      rw [List.cons.injEq, and_iff_right rfl, ih]
      refine not_congr ⟨fun h => h.trans (List.suffix_cons p ps).isInfix, ?_⟩
      · rintro ⟨a, b, hab⟩
        cases a with
        | nil =>
            obtain ⟨rfl, rfl⟩ := List.cons.inj hab
            exact absurd rfl (hnot b rfl)
        | cons x a => exact ⟨a, b, (List.cons.inj hab).2⟩

theorem plain_iff {ps : List Point} :
    Plain v ps ↔ firstTag? ps = none ∧ unescape ps = ps ∧ (∀ p ∈ ps, isHidden p = false) ∧
      emojis v ps = ps := by
  have htag : firstTag? ps = none ↔ ∀ a p body b, ps = a ++ (bracketed (p :: body) ++ b) →
      startsTag p = true → .char '[' ∈ body := by
    rw [firstTag?_eq_none_iff]
    constructor
    · intro h a p body b hps hstarts
      refine Decidable.byContradiction fun hbody => ?_
      have hsome := isSome_tag? hstarts hbody b
      rw [h _ ⟨a, hps.symm⟩] at hsome
      cases hsome
    · rintro h s ⟨a, rfl⟩
      cases hs : tag? s with
      | none => rfl
      | some found =>
          obtain ⟨rfl, p, rest, hbody, hstarts, hrest⟩ := tag?_eq_some hs
          exact absurd (h a p rest found.2 (by rw [hbody]) hstarts) hrest
  rw [unescape_eq_self_iff, htag]
  exact ⟨fun h => ⟨h.noTag, h.noEscape, h.noControl, h.noPicture⟩,
    fun ⟨h1, h2, h3, h4⟩ => ⟨h1, h2, h3, h4⟩⟩

theorem textOf_of_plain {ps : List Point} (h : Plain v ps) : textOf v ps = ps := by
  obtain ⟨-, hescape, hcontrol, hpicture⟩ := plain_iff.mp h
  rw [textOf, hescape, hpicture]
  exact List.filter_eq_self.mpr fun p hp => by rw [hcontrol p hp]; rfl

theorem pieces_of_plain {ps : List Point} (h : Plain v ps) : pieces ps = [.text ps] :=
  pieces_of_none (plain_iff.mp h).1

/-- What `unescape` leaves out are marks. -/
theorem length_unescape (ps : List Point) :
    (unescape ps).length + ps.countP isMark = ps.length + (unescape ps).countP isMark := by
  fun_induction unescape ps with
  | case1 => rfl
  | case2 ps ih =>
      have hback : isMark (.char '\\') = true := rfl
      simp only [List.length_cons, List.countP_cons, hback, if_true]
      omega
  | case3 p ps _ ih =>
      simp only [List.length_cons, List.countP_cons]
      omega

theorem plain_of_textOf_eq_self {ps : List Point} (htag : firstTag? ps = none)
    (h : textOf v ps = ps) : Plain v ps := by
  have hcontrol : ∀ p ∈ ps, isHidden p = false := fun p hp => by
    rw [← h] at hp
    simpa using (List.mem_filter.mp hp).2
  have hescape : unescape ps = ps := by
    have hshown : (textOf v ps).countP isMark ≤ (emojis v (unescape ps)).countP isMark :=
      List.filter_sublist.countP_le
    have hpicture := countP_emojis_le (v := v) notPictured_isMark (unescape ps)
    have hlength := length_unescape ps
    rw [h] at hshown
    exact (unescape_sublist ps).eq_of_length_le (by omega)
  have hpicture : emojis v ps = ps := by
    have hle := countP_emojis_le (v := v) notPictured_isHidden ps
    have hnone : ps.countP isHidden = 0 :=
      List.countP_eq_zero.mpr fun p hp => by rw [hcontrol p hp]; exact Bool.false_ne_true
    have hall := List.countP_eq_zero.mp (Nat.le_zero.mp (hnone ▸ hle))
    rw [textOf, hescape, List.filter_eq_self.mpr fun p hp => by simpa using hall p hp] at h
    exact h
  exact plain_iff.mpr ⟨htag, hescape, hcontrol, hpicture⟩

/-- A message is shown as it is if and only if nothing in it is markup. -/
theorem shown_eq_self_iff {s : String} : shown v s = .ok s.toList ↔ Plain v (Text.points s) := by
  rw [shown_eq_ok_iff]
  change read v [] (pieces (Text.points s)) = .ok (Text.points s) ∧
    v.paints (pieces (Text.points s)) = true ↔ _
  constructor
  · rintro ⟨hread, -⟩
    cases hfirst : firstTag? (Text.points s) with
    | none =>
        rw [pieces_of_none hfirst, read_text] at hread
        exact plain_of_textOf_eq_self hfirst (Except.ok.inj hread)
    | some f => exact absurd (countP_lt_of_read hfirst hread) (Nat.lt_irrefl _)
  · intro h
    rw [pieces_of_plain h, read_text, textOf_of_plain h]
    exact ⟨rfl, v.paints_of_notMem _ fun body hbody => by cases List.mem_singleton.mp hbody⟩

/-! ## Messages that can be shown -/

/-- A tag that closes nothing and has no parenthesis. -/
def Opens (body : List Point) : Prop :=
  .char '/' ∉ body ∧ .char '(' ∉ body

instance (body : List Point) : Decidable (Opens body) :=
  inferInstanceAs (Decidable (_ ∧ _))

theorem exists_addTag {body : List Point} (h : Opens body) (opened : List Opened) :
    ∃ opened', addTag v opened body = .ok opened' := by
  have hname {p : Point} (hp : p ∉ body) : p ∉ nameOf body := fun hmem =>
    hp ((List.takeWhile_prefix _).mem hmem)
  rw [addTag]
  split
  · next name heq => exact absurd (heq ▸ List.mem_cons_self) (hname h.1)
  · obtain ⟨normal, hnormal⟩ :=
      Option.isSome_iff_exists.mp (v.isSome_normal? (nameOf body) (hname h.2))
    rw [hnormal]
    exact ⟨_, rfl⟩

/-- Where nothing is closed, nothing fails. -/
theorem exists_read {ps : List Piece} (h : ∀ body, .tag body ∈ ps → Opens body) (opened : List Opened) :
    ∃ out, read v opened ps = .ok out := by
  induction ps generalizing opened with
  | nil => exact ⟨[], rfl⟩
  | cons piece ps ih =>
      have hrest : ∀ body, .tag body ∈ ps → Opens body := fun body hbody =>
        h body (List.mem_cons_of_mem piece hbody)
      cases piece with
      | text t =>
          obtain ⟨out, hout⟩ := ih hrest opened
          exact ⟨textOf v t ++ out, by rw [read, hout]; rfl⟩
      | tag body =>
          obtain ⟨opened', hopened⟩ := exists_addTag (h body List.mem_cons_self) opened
          obtain ⟨out, hout⟩ := ih hrest opened'
          exact ⟨out, by rw [read, hopened]; exact hout⟩

/-- A text with no closing tags and no parentheses in its tags can be shown. -/
theorem exists_shown_of_tags {s : String} (h : ∀ body ∈ tags (Text.points s), Opens body) :
    ∃ cs, shown v s = .ok cs := by
  have htags : ∀ body, .tag body ∈ pieces (Text.points s) → Opens body := fun body hbody =>
    h body (mem_tags.mpr hbody)
  obtain ⟨out, hout⟩ := exists_read (v := v) htags []
  have hle := countP_le_of_read notPictured_isHalf hout
  have hnone : (Text.points s).countP Point.isHalf = 0 :=
    List.countP_eq_zero.mpr (List.any_eq_false.mp (Text.any_isHalf_points s))
  have hhalf := List.countP_eq_zero.mp (Nat.le_zero.mp (hnone ▸ hle))
  obtain ⟨cs, hcs⟩ := exists_chars hhalf
  exact ⟨cs, shown_eq_ok_iff.mpr ⟨hcs ▸ hout, v.paints_of_notMem _ fun body hbody => (htags body hbody).2⟩⟩

end CodeBrief.Terminal.Markup
