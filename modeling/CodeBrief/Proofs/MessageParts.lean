import CodeBrief.Proofs.Markup

/-!
# Messages put together

What a message is read as can depend on where a text stands in it. A bracket that is
open at the end of a text could be closed behind it, a backslash could meet a bracket,
and a colon could end a code. None of this happens in front of a tag, since the bracket
of the tag comes first (`pieces_append_tag`), nor in front of harmless text that starts
with a blank (`Plain.append`).
-/

namespace CodeBrief.Terminal.Markup

open Text (Point)

variable {v : Vocabulary}

/-- A code point that is never part of markup: no bracket, no backslash, no colon and no control. -/
def Harmless (p : Point) : Prop :=
  p ∉ [.char '[', .char ']', .char '\\', .char ':'] ∧ isHidden p = false

instance (p : Point) : Decidable (Harmless p) :=
  inferInstanceAs (Decidable (_ ∧ _))

/-- A text that closes no bracket in front of it. -/
def Follows (ps : List Point) : Prop :=
  .char ']' ∉ ps.takeWhile (· ≠ .char '[')

theorem Harmless.ne {p : Point} (h : Harmless p) :
    p ≠ .char '[' ∧ p ≠ .char ']' ∧ p ≠ .char '\\' ∧ p ≠ .char ':' := by
  simpa [not_or] using h.1

theorem notMem_of_harmless {t : List Point} (ht : ∀ p ∈ t, Harmless p) {p : Point}
    (h : ¬Harmless p) : p ∉ t :=
  fun hmem => h (ht p hmem)

theorem follows_of_harmless {t : List Point} (ht : ∀ p ∈ t, Harmless p) : Follows t :=
  fun hclose => notMem_of_harmless ht (by decide) ((List.takeWhile_prefix _).mem hclose)

theorem tagRest?_of_follows {ps : List Point} (h : Follows ps) : tagRest? ps = none := by
  induction ps with
  | nil => rfl
  | cons p ps ih =>
      rw [tagRest?]
      by_cases hopen : p = .char '['
      · rw [hopen]
        rfl
      · rw [Follows, List.takeWhile_cons_of_pos (by simpa using hopen)] at h
        rw [if_neg (Ne.symm (List.ne_of_not_mem_cons h)), if_neg hopen,
          ih (List.not_mem_of_not_mem_cons h)]
        rfl

theorem tagRest?_append {ps qs : List Point} (hqs : Follows qs) :
    tagRest? (ps ++ qs) = (tagRest? ps).map fun found => (found.1, found.2 ++ qs) := by
  induction ps with
  | nil => exact tagRest?_of_follows hqs
  | cons p ps ih =>
      rw [List.cons_append, tagRest?, tagRest?]
      split
      · rfl
      · split
        · rfl
        · rw [ih, Option.map_map, Option.map_map]
          rfl

/-- A tag at the front of a text does not change with what follows the text. -/
theorem tag?_append {ps qs : List Point} (hps : ps ≠ []) (hqs : Follows qs) :
    tag? (ps ++ qs) = (tag? ps).map fun found => (found.1, found.2 ++ qs) := by
  obtain ⟨p, ps, rfl⟩ := List.exists_cons_of_ne_nil hps
  by_cases hopen : p = .char '['
  · subst hopen
    cases ps with
    | cons p ps =>
        rw [List.cons_append, List.cons_append, tag?, tag?]
        split
        · rw [tagRest?_append hqs, Option.map_map, Option.map_map]
          rfl
        · rfl
    | nil =>
        -- The bracket is the last character, and the tag would have to lie in what follows.
        cases qs with
        | nil => rfl
        | cons q qs =>
            rw [List.singleton_append, tag?]
            split
            · next hstarts =>
                have hq : q ≠ .char '[' := by
                  rintro rfl
                  cases hstarts
                rw [Follows, List.takeWhile_cons_of_pos (by simpa using hq)] at hqs
                rw [tagRest?_of_follows (List.not_mem_of_not_mem_cons hqs)]
                rfl
            · rfl
  · rw [tag?_eq_none_of_head (by simpa using hopen), tag?_eq_none_of_head (by simpa using hopen)]
    rfl

/-- The first tag of two texts put together. Backslashes at the end of the first one must not meet a
bracket. -/
theorem firstTag?_append {ps qs : List Point} (hqs : Follows qs)
    (hend : ps.getLast? = some (.char '\\') →
      qs.head? ≠ some (.char '[') ∧ qs.head? ≠ some (.char '\\')) :
    firstTag? (ps ++ qs) =
      match firstTag? ps with
      | some f => some { f with after := f.after ++ qs }
      | none => (firstTag? qs).map fun g => { g with front := ps ++ g.front } := by
  induction ps with
  | nil => cases h : firstTag? qs <;> simp [firstTag?, h]
  | cons p ps ih =>
      have htag : tag? (dropBackslashes (p :: (ps ++ qs))) =
          (tag? (dropBackslashes (p :: ps))).map fun found => (found.1, found.2 ++ qs) := by
        by_cases hdrop : dropBackslashes (p :: ps) = []
        · obtain ⟨k, hk, hlength⟩ := exists_backslashes (p :: ps)
          rw [hdrop, List.length_nil, List.length_cons] at hlength
          rw [hdrop, List.append_nil] at hk
          obtain ⟨hopen, hback⟩ := hend (by rw [hk, List.getLast?_replicate, if_neg (by omega)])
          have hall : dropBackslashes (p :: ps ++ qs) = qs := by
            rw [hk, dropBackslashes, List.dropWhile_append_of_pos (by simp)]
            exact dropBackslashes_of_head hback
          rw [hdrop, ← List.cons_append, hall, tag?_eq_none_of_head hopen]
          rfl
        · rw [← List.cons_append, dropBackslashes_append hdrop, tag?_append hdrop hqs]
      cases hfound : tag? (dropBackslashes (p :: ps)) with
      | some found =>
          have hdrop : dropBackslashes (p :: ps) ≠ [] := by
            intro heq
            rw [heq] at hfound
            cases hfound
          rw [hfound] at htag
          rw [List.cons_append, firstTag?_cons_of_tag htag, firstTag?_cons_of_tag hfound,
            ← List.cons_append, dropBackslashes_append hdrop]
          simp only [List.length_append]
          congr 2
          omega
      | none =>
          rw [hfound] at htag
          rw [List.cons_append, firstTag?_cons_of_none htag, firstTag?_cons_of_none hfound,
            ih fun hlast => hend (by rw [List.getLast?_cons, hlast]; rfl)]
          cases firstTag? ps with
          | some f => rfl
          | none => cases firstTag? qs <;> rfl

theorem getLast?_after {ps : List Point} {f : Found} (h : firstTag? ps = some f) (hne : f.after ≠ []) :
    f.after.getLast? = ps.getLast? := by
  obtain ⟨hps, -⟩ := firstTag?_eq_some h
  rw [hps]
  simp [List.getLast?_append, List.getLast?_eq_some_getLast hne]

/-- A tag behind a text divides the pieces, if no backslash stands in front of it. -/
theorem pieces_append_tag {ps body rest : List Point} (hend : ps.getLast? ≠ some (.char '\\'))
    (htag : tag? (bracketed body ++ rest) = some (body, rest)) :
    pieces (ps ++ (bracketed body ++ rest)) = pieces ps ++ (escaped 0 body ++ pieces rest) := by
  have hfirst : firstTag? (bracketed body ++ rest) = some ⟨[], 0, body, rest⟩ := by
    have hdrop : dropBackslashes (bracketed body ++ rest) = bracketed body ++ rest := rfl
    have hcons : bracketed body ++ rest = .char '[' :: (body ++ [.char ']'] ++ rest) := rfl
    rw [hcons] at htag hdrop ⊢
    rw [firstTag?_cons_of_tag (by rw [hdrop]; exact htag), hdrop, List.length_cons, Nat.sub_self]
  have hfollows : Follows (bracketed body ++ rest) := by simp [Follows, bracketed]
  induction hn : ps.length using Nat.strongRecOn generalizing ps with
  | ind n ih =>
      subst hn
      have happend := firstTag?_append hfollows fun h => absurd h hend
      cases hps : firstTag? ps with
      | none =>
          rw [hps, hfirst] at happend
          rw [pieces_of_some happend, pieces_of_none hps]
          simp
      | some f =>
          rw [hps] at happend
          have hafter : f.after.getLast? ≠ some (.char '\\') := by
            by_cases hne : f.after = []
            · simp [hne]
            · rwa [getLast?_after hps hne]
          rw [pieces_of_some happend, pieces_of_some hps,
            ih f.after.length (length_after_lt hps) hafter rfl]
          simp

theorem tags_append_tag {ps body rest : List Point} (hend : ps.getLast? ≠ some (.char '\\'))
    (htag : tag? (bracketed body ++ rest) = some (body, rest)) :
    tags (ps ++ (bracketed body ++ rest)) = tags ps ++ body :: tags rest := by
  rw [tags, pieces_append_tag hend htag, List.filterMap_append, List.filterMap_append]
  rfl

section Harmless

variable {ps t : List Point} (ht : ∀ p ∈ t, Harmless p)
include ht

theorem firstTag?_append_of_harmless :
    firstTag? (ps ++ t) = (firstTag? ps).map fun f => { f with after := f.after ++ t } := by
  have hhead (p : Point) (hp : ¬Harmless p) : t.head? ≠ some p := fun h =>
    notMem_of_harmless ht hp (List.mem_of_mem_head? h)
  have hnone : firstTag? t = none := by
    refine firstTag?_eq_none_iff.mpr fun s hs => tag?_eq_none_of_head fun h => ?_
    exact notMem_of_harmless ht (by decide) (hs.mem (List.mem_of_mem_head? h))
  rw [firstTag?_append (follows_of_harmless ht) fun _ => ⟨hhead _ (by decide), hhead _ (by decide)⟩,
    hnone]
  cases firstTag? ps <;> rfl

theorem tags_append_of_harmless : tags (ps ++ t) = tags ps := by
  induction hn : ps.length using Nat.strongRecOn generalizing ps with
  | ind n ih =>
      subst hn
      have happend : firstTag? (ps ++ t) = _ := firstTag?_append_of_harmless ht
      cases hps : firstTag? ps with
      | none =>
          rw [hps] at happend
          rw [tags_of_none happend, tags_of_none hps]
      | some f =>
          rw [hps] at happend
          rw [tags_of_some happend, tags_of_some hps, ih f.after.length (length_after_lt hps) rfl]

theorem unescape_append_of_harmless : unescape (ps ++ t) = unescape ps ++ t := by
  have htail : unescape t = t := unescape_eq_self_iff.mpr fun h =>
    notMem_of_harmless ht (by decide) (h.subset List.mem_cons_self)
  fun_induction unescape ps with
  | case1 => exact htail
  | case2 ps ih => rw [List.cons_append, List.cons_append, unescape, ih]; rfl
  | case3 p ps hnot ih =>
      rw [List.cons_append, unescape, ih]
      · rfl
      · intro rest hp heq
        cases ps with
        | nil => exact notMem_of_harmless ht (by decide) (heq ▸ List.mem_cons_self)
        | cons q ps => exact hnot ps hp (by rw [(List.cons.inj heq).1])

theorem emojis_of_harmless : emojis v t = t := by
  induction t with
  | nil => rfl
  | cons p t ih =>
      have hcolon := (ht p List.mem_cons_self).ne.2.2.2
      rw [emojis, emojisFrom, if_neg hcolon]
      exact congrArg (p :: ·) (ih fun q hq => ht q (List.mem_cons_of_mem p hq))

/-- A blank ends a code, so what follows it is by itself. -/
theorem emojis_append_of_harmless (hblank : ∀ p, t.head? = some p → isBlank p = true) :
    emojis v (ps ++ t) = emojis v ps ++ t := by
  cases t with
  | nil => simp
  | cons p t =>
      have hp := hblank p rfl
      have hcolon := (ht p List.mem_cons_self).ne.2.2.2
      have htail : emojisFrom v none t = t :=
        emojis_of_harmless fun q hq => ht q (List.mem_cons_of_mem p hq)
      rw [emojis, emojis]
      fun_induction emojisFrom v none ps with
      | case1 => rw [List.nil_append, emojisFrom, if_neg hcolon, htail]
      | case2 code => rw [List.nil_append, emojisFrom, if_neg hcolon, if_pos hp, htail]
      | case3 ps ih => rw [List.cons_append, emojisFrom, if_pos rfl, ih]
      | case4 q ps hq ih => rw [List.cons_append, emojisFrom, if_neg hq, ih]; rfl
      | case5 code ps ih => rw [List.cons_append, emojisFrom, if_pos rfl, ih, List.append_assoc]
      | case6 code q ps hq hb ih =>
          rw [List.cons_append, emojisFrom, if_neg hq, if_pos hb, ih]
          simp
      | case7 code q ps hq hb ih => rw [List.cons_append, emojisFrom, if_neg hq, if_neg hb, ih]

/-- A plain text stays plain in front of harmless text that starts with a blank. -/
theorem Plain.append (h : Plain v ps) (hblank : ∀ p, t.head? = some p → isBlank p = true) :
    Plain v (ps ++ t) := by
  obtain ⟨htag, hescape, hcontrol, hpicture⟩ := plain_iff.mp h
  refine plain_iff.mpr ⟨?_, ?_, ?_, ?_⟩
  · rw [firstTag?_append_of_harmless ht, htag]
    rfl
  · rw [unescape_append_of_harmless ht, hescape]
  · exact List.forall_mem_append.mpr ⟨hcontrol, fun p hp => (ht p hp).2⟩
  · rw [emojis_append_of_harmless ht hblank, hpicture]

end Harmless

section Front

variable {p : Point} {ps : List Point} (hp : Harmless p)
include hp

theorem firstTag?_cons_of_harmless :
    firstTag? (p :: ps) = (firstTag? ps).map fun f => { f with front := p :: f.front } := by
  obtain ⟨hopen, -, hback, -⟩ := hp.ne
  refine firstTag?_cons_of_none ?_
  rw [dropBackslashes_of_head (by simpa using hback)]
  exact tag?_eq_none_of_head (by simpa using hopen)

theorem tags_cons_of_harmless : tags (p :: ps) = tags ps := by
  have hcons : firstTag? (p :: ps) = _ := firstTag?_cons_of_harmless hp
  cases hps : firstTag? ps with
  | none =>
      rw [hps] at hcons
      rw [tags_of_none hcons, tags_of_none hps]
  | some f =>
      rw [hps] at hcons
      rw [tags_of_some hcons, tags_of_some hps]

/-- A plain text stays plain behind a harmless character. -/
theorem Plain.cons (h : Plain v ps) : Plain v (p :: ps) := by
  obtain ⟨-, -, hback, hcolon⟩ := hp.ne
  obtain ⟨htag, hescape, hcontrol, hpicture⟩ := plain_iff.mp h
  refine plain_iff.mpr ⟨?_, ?_, ?_, ?_⟩
  · rw [firstTag?_cons_of_harmless hp, htag]
    rfl
  · rw [unescape, hescape]
    exact fun rest heq => absurd heq hback
  · exact List.forall_mem_cons.mpr ⟨hp.2, hcontrol⟩
  · rw [emojis, emojisFrom, if_neg hcolon]
    exact congrArg (p :: ·) hpicture

end Front

/-- A plain text in front of a tag is shown as it is. -/
theorem Plain.read_append_tag {ps body rest : List Point} (h : Plain v ps)
    (hend : ps.getLast? ≠ some (.char '\\'))
    (htag : tag? (bracketed body ++ rest) = some (body, rest)) (opened : List Opened) :
    read v opened (pieces (ps ++ (bracketed body ++ rest))) =
      match addTag v opened body with
      | .ok opened => (read v opened (pieces rest)).map (ps ++ ·)
      | .error why => .error why := by
  have hnil : textOf v [] = [] := rfl
  rw [pieces_append_tag hend htag, pieces_of_plain h, escaped]
  simp only [List.cons_append, List.nil_append, read, textOf_of_plain h, Nat.zero_mod, Nat.zero_div,
    List.replicate_zero, if_true, hnil]
  cases addTag v opened body with
  | error why => rfl
  | ok opened => cases hrest : read v opened (pieces rest) <;> simp [hrest, Except.map]

end CodeBrief.Terminal.Markup
