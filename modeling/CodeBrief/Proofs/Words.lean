import Mathlib.Data.List.TakeWhile
import CodeBrief.Java.Line
import CodeBrief.Proofs.Split

/-!
# Words, blanks and needles in a line

A line is taken apart at its boundaries. `EndsWord rest` says that a word cannot
go on into `rest`; at such a place a line reads as the word and what follows it,
whatever that is (`words_append`, `word?_append`). A character that no needle has
is a boundary for searches (`occursIn_append_cons`), and the blanks around a text
are one for a strip (`strip_append`).
-/

namespace CodeBrief

namespace Text

section Needles

variable {needle a b : List Char} {sep : Char}

theorem startsWith_append_cons (h : sep ∉ needle) :
    startsWith needle (a ++ sep :: b) = startsWith needle a := by
  induction needle generalizing a with
  | nil => cases a <;> rfl
  | cons n ns ih =>
      have hn : n ≠ sep := (List.ne_of_not_mem_cons h).symm
      cases a with
      | nil => simp [startsWith, hn]
      | cons c cs =>
          simp only [List.cons_append, startsWith]
          rw [ih (List.not_mem_of_not_mem_cons h)]

/-- No occurrence reaches over a character that the needle has not. -/
theorem occursIn_append_cons (hne : needle ≠ []) (h : sep ∉ needle) :
    occursIn needle (a ++ sep :: b) = (occursIn needle a || occursIn needle b) := by
  have hs : startsWith needle (sep :: b) = false := by
    obtain ⟨n, ns, rfl⟩ := List.exists_cons_of_ne_nil hne
    simp [startsWith, (List.ne_of_not_mem_cons h).symm]
  induction a with
  | nil => simp [occursIn, hs, hne]
  | cons c cs ih =>
      rw [List.cons_append, occursIn, occursIn, ih, ← List.cons_append,
        startsWith_append_cons h, Bool.or_assoc]

theorem occursIn_of_notMem (h : sep ∈ needle) (ha : sep ∉ a) : occursIn needle a = false := by
  have hs (cs : List Char) (hc : sep ∉ cs) : startsWith needle cs = false := by
    induction needle generalizing cs with
    | nil => cases h
    | cons n ns ih =>
        cases cs with
        | nil => rfl
        | cons c cs =>
            rw [List.mem_cons, not_or] at hc
            rcases List.mem_cons.mp h with rfl | h
            · simp [startsWith, hc.1]
            · rw [startsWith, ih h cs hc.2, Bool.and_false]
  induction a with
  | nil => cases needle with
    | nil => cases h
    | cons n ns => rfl
  | cons c cs ih =>
      rw [occursIn, hs _ ha, ih (List.not_mem_of_not_mem_cons ha)]
      rfl

theorem indexOf?_eq_none (h : occursIn needle a = false) : indexOf? needle a = none := by
  induction a with
  | nil => rw [occursIn] at h; simp [indexOf?, h]
  | cons c cs ih =>
      rw [occursIn, Bool.or_eq_false_iff] at h
      rw [indexOf?, h.1, ih h.2]
      rfl

theorem startsWith_iff : startsWith needle a = true ↔ needle <+: a := by
  induction needle generalizing a with
  | nil => simp [startsWith]
  | cons n ns ih =>
      cases a with
      | nil => simp [startsWith]
      | cons c cs => rw [startsWith, Bool.and_eq_true, beq_iff_eq, ih, List.cons_prefix_cons]

theorem occursIn_iff : occursIn needle a = true ↔ needle <:+: a := by
  induction a with
  | nil => rw [occursIn, List.isEmpty_iff, List.infix_nil]
  | cons c cs ih =>
      rw [occursIn, Bool.or_eq_true, startsWith_iff, ih, List.infix_cons_iff]

end Needles

/-- A text that starts and ends with characters that are not blank. -/
structure Trimmed (text : List Char) : Prop where
  ne_nil : text ≠ []
  head : ∀ c ∈ text.head?, isBlank c = false
  last : ∀ c ∈ text.getLast?, isBlank c = false

theorem dropWhile_append_eq {p : Char → Bool} {a b : List Char} (ha : ∀ c ∈ a, p c = true)
    (hb : ∀ c ∈ b.head?, p c = false) : (a ++ b).dropWhile p = b := by
  rw [List.dropWhile_append_of_pos ha]
  cases b with
  | nil => rfl
  | cons c cs => rw [List.dropWhile_cons_of_neg (by simp [hb c rfl])]

theorem takeWhile_append_eq {p : Char → Bool} {a b : List Char} (ha : ∀ c ∈ a, p c = true)
    (hb : ∀ c ∈ b.head?, p c = false) : (a ++ b).takeWhile p = a := by
  rw [List.takeWhile_append_of_pos ha]
  cases b with
  | nil => simp
  | cons c cs => rw [List.takeWhile_cons_of_neg (by simp [hb c rfl]), List.append_nil]

/-- A strip takes the blanks around a trimmed text and nothing of it. -/
theorem strip_append {left text right : List Char} (hl : ∀ c ∈ left, isBlank c = true)
    (hr : ∀ c ∈ right, isBlank c = true) (ht : Trimmed text) :
    strip (left ++ text ++ right) = text := by
  have hhead : ∀ c ∈ (text ++ right).head?, isBlank c = false := by
    obtain ⟨t, ts, rfl⟩ := List.exists_cons_of_ne_nil ht.ne_nil
    exact ht.head
  have hlast : ∀ c ∈ text.reverse.head?, isBlank c = false := by
    rw [List.head?_reverse]
    exact ht.last
  rw [strip, stripBy, dropEndWhile, List.append_assoc, dropWhile_append_eq hl hhead,
    List.reverse_append, dropWhile_append_eq (fun c hc => hr c (List.mem_reverse.mp hc)) hlast,
    List.reverse_reverse]

theorem isInfix_strip (cs : List Char) : strip cs <:+: cs := by
  have hend : strip cs <+: cs.dropWhile isBlank :=
    List.reverse_suffix.mp (by
      rw [strip, stripBy, dropEndWhile, List.reverse_reverse]
      exact List.dropWhile_suffix _)
  exact hend.isInfix.trans (List.dropWhile_suffix _).isInfix

theorem exists_eq_around_strip (cs : List Char) :
    ∃ left right, cs = left ++ (strip cs ++ right) ∧ (∀ c ∈ left, isBlank c = true) ∧
      ∀ c ∈ right, isBlank c = true := by
  let rest := (cs.dropWhile isBlank).reverse
  refine ⟨cs.takeWhile isBlank, (rest.takeWhile isBlank).reverse, ?_,
    fun c hc => List.mem_takeWhile_imp hc,
    fun c hc => List.mem_takeWhile_imp (List.mem_reverse.mp hc)⟩
  have hend : strip cs ++ (rest.takeWhile isBlank).reverse = cs.dropWhile isBlank := by
    rw [strip, stripBy, dropEndWhile, ← List.reverse_append, List.takeWhile_append_dropWhile]
    exact List.reverse_reverse _
  rw [hend, List.takeWhile_append_dropWhile]

/-- What has no blank in it does not reach into the blanks around a text. -/
theorem occursIn_strip {needle : List Char} (hne : needle ≠ [])
    (hneedle : ∀ c ∈ needle, isBlank c = false) (cs : List Char) :
    occursIn needle (strip cs) = occursIn needle cs := by
  have hempty : occursIn needle [] = false := by simp [occursIn, hne]
  have hsep {c : Char} (hc : isBlank c = true) : c ∉ needle := by
    intro h
    rw [hneedle c h] at hc
    cases hc
  have hfront (left text : List Char) (hl : ∀ c ∈ left, isBlank c = true) :
      occursIn needle (left ++ text) = occursIn needle text := by
    induction left with
    | nil => rfl
    | cons c left ih =>
        have hcons := occursIn_append_cons (a := []) (b := left ++ text) hne (hsep (hl c (by simp)))
        rw [List.nil_append, hempty, Bool.false_or] at hcons
        rw [List.cons_append, hcons, ih fun d hd => hl d (List.mem_cons_of_mem c hd)]
  have hback (text right : List Char) (hr : ∀ c ∈ right, isBlank c = true) :
      occursIn needle (text ++ right) = occursIn needle text := by
    cases right with
    | nil => rw [List.append_nil]
    | cons c right =>
        have hright := hfront right [] fun d hd => hr d (List.mem_cons_of_mem c hd)
        rw [List.append_nil] at hright
        rw [occursIn_append_cons hne (hsep (hr c (by simp))), hright, hempty, Bool.or_false]
  obtain ⟨left, right, hcs, hl, hr⟩ := exists_eq_around_strip cs
  conv => rhs; rw [hcs]
  rw [hfront left _ hl, hback (strip cs) right hr]

/-- Only a text of blanks is stripped to nothing. -/
theorem isBlank_of_strip_eq_nil {cs : List Char} (h : strip cs = []) :
    ∀ c ∈ cs, isBlank c = true := by
  rw [strip, stripBy, dropEndWhile, List.reverse_eq_nil_iff, List.dropWhile_eq_nil_iff] at h
  have hrest : cs.dropWhile isBlank = [] := by
    have hstops := List.head?_dropWhile_not isBlank cs
    cases hd : cs.dropWhile isBlank with
    | nil => rfl
    | cons c rest =>
        rw [hd] at h hstops
        have hc : isBlank c = true := h c (List.mem_reverse.mpr List.mem_cons_self)
        simp [hc] at hstops
  exact List.dropWhile_eq_nil_iff.mp hrest

/-- The code points of the blanks. -/
def blankPoints : List Nat :=
  List.range' 0x09 5 ++ List.range' 0x1C 5 ++ [0x85, 0xA0, 0x1680] ++ List.range' 0x2000 11 ++
    [0x2028, 0x2029, 0x202F, 0x205F, 0x3000]

theorem isWord_of_isBlank {c : Char} (h : isBlank c = true) : isWord c = false := by
  have hmem : c.toNat ∈ blankPoints := by
    simp only [isBlank, isSpace, Bool.or_eq_true, Bool.and_eq_true, decide_eq_true_eq] at h
    simp only [blankPoints, List.mem_append, List.mem_range'_1, List.mem_cons, List.not_mem_nil]
    omega
  have hnone : ∀ n ∈ blankPoints, isWord (Char.ofNat n) = false := by decide +kernel
  have := hnone _ hmem
  rwa [Char.ofNat_toNat] at this

theorem isBlank_of_isWord {c : Char} (h : isWord c = true) : isBlank c = false := by
  cases hb : isBlank c with
  | false => rfl
  | true => rw [isWord_of_isBlank hb] at h; cases h

/-- A run of word characters. -/
structure IsWord (w : List Char) : Prop where
  ne_nil : w ≠ []
  all : ∀ c ∈ w, isWord c = true

instance (w : List Char) : Decidable (IsWord w) :=
  decidable_of_iff (w ≠ [] ∧ w.all isWord = true)
    ⟨fun h => ⟨h.1, List.all_eq_true.mp h.2⟩, fun h => ⟨h.ne_nil, List.all_eq_true.mpr h.all⟩⟩

/-- No word goes on into the text. -/
def EndsWord (rest : List Char) : Prop :=
  ∀ c ∈ rest.head?, isWord c = false

theorem endsWord_cons {c : Char} {rest : List Char} (h : isWord c = false) :
    EndsWord (c :: rest) := by
  intro d hd
  cases hd
  exact h

theorem IsWord.notMem {w : List Char} {c : Char} (hw : IsWord w) (hc : isWord c = false) :
    c ∉ w := by
  intro h
  rw [hw.all c h] at hc
  cases hc

theorem IsWord.notBlank {w : List Char} (hw : IsWord w) : ∀ c ∈ w, isBlank c = false :=
  fun c hc => isBlank_of_isWord (hw.all c hc)

/-- The text ends in a word. -/
def WordLast (text : List Char) : Prop :=
  ∃ r w, text = r ++ w ∧ IsWord w

theorem IsWord.wordLast {w : List Char} (hw : IsWord w) : WordLast w :=
  ⟨[], w, rfl, hw⟩

theorem WordLast.append_left {b : List Char} (h : WordLast b) (a : List Char) :
    WordLast (a ++ b) := by
  obtain ⟨r, w, rfl, hw⟩ := h
  exact ⟨a ++ r, w, (List.append_assoc a r w).symm, hw⟩

theorem WordLast.trimmed {text : List Char} (h : WordLast text)
    (hhead : ∀ c ∈ text.head?, isBlank c = false) : Trimmed text := by
  obtain ⟨r, w, rfl, hw⟩ := h
  refine ⟨List.append_ne_nil_of_right_ne_nil r hw.ne_nil, hhead, fun c hc => ?_⟩
  obtain ⟨x, xs, rfl⟩ := List.exists_cons_of_ne_nil hw.ne_nil
  rw [List.getLast?_append, List.getLast?_cons, Option.some_or, ← List.getLast?_cons] at hc
  exact hw.notBlank c (List.mem_of_getLast? hc)

theorem IsWord.head_notBlank {w rest : List Char} (hw : IsWord w) :
    ∀ c ∈ (w ++ rest).head?, isBlank c = false := by
  obtain ⟨x, xs, rfl⟩ := List.exists_cons_of_ne_nil hw.ne_nil
  rintro _ ⟨⟩
  exact hw.notBlank x List.mem_cons_self

theorem IsWord.trimmed {w : List Char} (hw : IsWord w) : Trimmed w := by
  refine hw.wordLast.trimmed ?_
  rw [← List.append_nil w]
  exact hw.head_notBlank

end Text

namespace Java

open Text

section Words

variable {w rest : List Char} {c : Char}

theorem word?_append (hw : IsWord w) (h : EndsWord rest) :
    word? (w ++ rest) = some (w, rest) := by
  have htake := takeWhile_append_eq hw.all h
  have hdrop := dropWhile_append_eq hw.all h
  obtain ⟨c, cs, rfl⟩ := List.exists_cons_of_ne_nil hw.ne_nil
  rw [List.cons_append] at htake hdrop ⊢
  rw [word?, if_pos (hw.all c List.mem_cons_self), htake, hdrop]

theorem wordsFrom_true_append (hw : ∀ c ∈ w, isWord c = true) :
    wordsFrom true (w ++ rest) = wordsFrom true rest := by
  induction w with
  | nil => rfl
  | cons c cs ih =>
      rw [List.cons_append, wordsFrom, hw c List.mem_cons_self]
      exact ih fun d hd => hw d (List.mem_cons_of_mem c hd)

theorem wordsFrom_true (h : EndsWord rest) : wordsFrom true rest = words rest := by
  cases rest with
  | nil => rfl
  | cons c cs => simp [words, wordsFrom, h c rfl]

/-- A word that ends is the first of its line. -/
theorem words_append (hw : IsWord w) (h : EndsWord rest) :
    words (w ++ rest) = (w, rest) :: words rest := by
  have htake := takeWhile_append_eq hw.all h
  have hdrop := dropWhile_append_eq hw.all h
  obtain ⟨c, cs, rfl⟩ := List.exists_cons_of_ne_nil hw.ne_nil
  have hc := hw.all c List.mem_cons_self
  have hcs : wordsFrom true (cs ++ rest) = wordsFrom true rest :=
    wordsFrom_true_append fun d hd => hw.all d (List.mem_cons_of_mem c hd)
  rw [List.cons_append] at htake hdrop ⊢
  rw [words, wordsFrom, htake, hdrop, hc, hcs, wordsFrom_true h]
  rfl

theorem words_cons (hc : isWord c = false) : words (c :: rest) = words rest := by
  simp [words, wordsFrom, hc]

theorem words_gap_append {gap : List Char} (h : ∀ c ∈ gap, isWord c = false) :
    words (gap ++ rest) = words rest := by
  induction gap with
  | nil => rfl
  | cons c cs ih =>
      rw [List.cons_append, words_cons (h c List.mem_cons_self)]
      exact ih fun d hd => h d (List.mem_cons_of_mem c hd)

/-- A word in which a search finds nothing is passed over. -/
theorem firstM_words_append {α : Type} {f : List Char × List Char → Option α} (hw : IsWord w)
    (h : EndsWord rest) (hf : f (w, rest) = none) :
    (words (w ++ rest)).firstM f = (words rest).firstM f := by
  rw [words_append hw h, firstM_eq_findSome?, firstM_eq_findSome?, List.findSome?_cons, hf]

theorem takeWhile_append_cons {a : List Char} (hc : isWord c = false) :
    (a ++ c :: rest).takeWhile isWord = a.takeWhile isWord := by
  induction a with
  | nil => simp [hc]
  | cons x xs ih => rw [List.cons_append, List.takeWhile_cons, List.takeWhile_cons, ih]

theorem map_fst_wordsFrom_append_cons {a : List Char} (inside : Bool) (hc : isWord c = false) :
    (wordsFrom inside (a ++ c :: rest)).map Prod.fst =
      (wordsFrom inside a).map Prod.fst ++ (words rest).map Prod.fst := by
  induction a generalizing inside with
  | nil => simp [wordsFrom, words, hc]
  | cons x xs ih =>
      have htake : (x :: xs ++ c :: rest).takeWhile isWord = (x :: xs).takeWhile isWord :=
        takeWhile_append_cons hc
      rw [List.cons_append] at htake ⊢
      rw [wordsFrom, wordsFrom]
      split
      · rw [List.map_cons, List.map_cons, ih, htake, List.cons_append]
      · exact ih _

theorem hasControlWord_eq (line : List Char) :
    hasControlWord line = ((words line).map Prod.fst).any controlWords.contains := by
  rw [hasControlWord, List.any_map]
  rfl

theorem hasControlWord_append_cons {a : List Char} (hc : isWord c = false) :
    hasControlWord (a ++ c :: rest) = (hasControlWord a || hasControlWord rest) := by
  rw [hasControlWord_eq, words, map_fst_wordsFrom_append_cons false hc, List.any_append,
    hasControlWord_eq a, hasControlWord_eq rest]
  rfl

theorem hasControlWord_word (hw : IsWord w) (h : w ∉ controlWords) : hasControlWord w = false := by
  have hwords : words (w ++ []) = [(w, [])] := words_append hw nofun
  rw [List.append_nil] at hwords
  simp [hasControlWord, hwords, h]

end Words

section Front

variable {w rest : List Char} {c : Char} {ms : List (List Char)}

/-- Of the words that can be asked for at the front of a line, only the one that stands there is
found. -/
theorem dropStart?_bind_afterBlanks? {k : List Char} (hw : ∀ c ∈ w, isBlank c = false)
    (hc : c ∉ k) : (dropStart? k (w ++ c :: rest)).bind afterBlanks? =
      if k = w then afterBlanks? (c :: rest) else none := by
  induction k generalizing w with
  | nil =>
      cases w with
      | nil => rfl
      | cons x xs => simp [dropStart?, afterBlanks?, hw x List.mem_cons_self]
  | cons n ns ih =>
      cases w with
      | nil => simp [dropStart?, (List.ne_of_not_mem_cons hc).symm]
      | cons x xs =>
          rw [List.cons_append, dropStart?]
          by_cases hx : n = x
          · rw [if_pos hx, ih (fun d hd => hw d (List.mem_cons_of_mem x hd))
              (List.not_mem_of_not_mem_cons hc)]
            simp [hx]
          · simp [hx]

theorem afterModifier?_append (hw : ∀ c ∈ w, isBlank c = false) (hc : ∀ m ∈ ms, c ∉ m) :
    afterModifier? ms (w ++ c :: rest) = if w ∈ ms then afterBlanks? (c :: rest) else none := by
  rw [afterModifier?, firstM_eq_findSome?]
  induction ms with
  | nil => rfl
  | cons m ms ih =>
      rw [List.findSome?_cons, ih fun m' hm => hc m' (List.mem_cons_of_mem m hm),
        dropStart?_bind_afterBlanks? hw (hc m List.mem_cons_self)]
      by_cases hm : m = w
      · subst hm
        rw [if_pos rfl, if_pos List.mem_cons_self]
        cases afterBlanks? (c :: rest) with
        | none => simp
        | some r => rfl
      · simp [hm, List.mem_cons, Ne.symm hm]

theorem afterBlanks?_cons (hc : isBlank c = true) (h : ∀ d ∈ rest.head?, isBlank d = false) :
    afterBlanks? (c :: rest) = some rest := by
  rw [afterBlanks?, if_pos hc]
  exact congrArg some (dropWhile_append_eq (a := []) nofun h)

theorem skipModifiers_append (hw : ∀ c ∈ w, isBlank c = false) (hc : ∀ m ∈ ms, c ∉ m)
    (h : w ∉ ms ∨ isBlank c = false) (fuel : Nat) :
    skipModifiers ms fuel (w ++ c :: rest) = w ++ c :: rest := by
  have hnone : afterModifier? ms (w ++ c :: rest) = none := by
    rw [afterModifier?_append hw hc]
    rcases h with h | h
    · rw [if_neg h]
    · simp [afterBlanks?, h]
  cases fuel with
  | zero => rfl
  | succ fuel => rw [skipModifiers, hnone]

theorem nameAfter?_eq (k : String) (line : List Char) :
    nameAfter? k line =
      (((dropStart? k.toList line).bind afterBlanks?).bind word?).map Prod.fst := by
  rw [nameAfter?]
  cases dropStart? k.toList line with
  | none => rfl
  | some r => cases h : afterBlanks? r with
    | none => simp [h]
    | some r' => cases h' : word? r' <;> simp [h, h']

theorem nameAfter?_append {k : String} (hw : ∀ c ∈ w, isBlank c = false) (hc : c ∉ k.toList) :
    nameAfter? k (w ++ c :: rest) =
      if k.toList = w then ((afterBlanks? (c :: rest)).bind word?).map Prod.fst else none := by
  rw [nameAfter?_eq, dropStart?_bind_afterBlanks? hw hc]
  split <;> rfl

/-- A line of words declares nothing by a keyword that is not one of them, whichever of them are
modifiers. -/
theorem nameAfter?_skipModifiers_eq_none {k : String} {ws : List (List Char)} (hne : ws ≠ [])
    (hws : ∀ w ∈ ws, IsWord w) (hk : k.toList ∉ ws) (hc : isBlank c = false)
    (hspace : ' ' ∉ k.toList ∧ ∀ m ∈ ms, ' ' ∉ m) (hend : c ∉ k.toList ∧ ∀ m ∈ ms, c ∉ m)
    (fuel : Nat) :
    nameAfter? k (skipModifiers ms fuel (join [' '] ws ++ c :: rest)) = none := by
  induction ws generalizing fuel with
  | nil => exact absurd rfl hne
  | cons w ws ih =>
      have hw := (hws w List.mem_cons_self).notBlank
      have hkw : k.toList ≠ w := fun h => hk (h ▸ List.mem_cons_self)
      cases ws with
      | nil =>
          rw [join, skipModifiers_append hw hend.2 (.inr hc), nameAfter?_append hw hend.1,
            if_neg hkw]
      | cons v ws =>
          have hblank : afterBlanks? (' ' :: (join [' '] (v :: ws) ++ c :: rest)) =
              some (join [' '] (v :: ws) ++ c :: rest) := by
            obtain ⟨u, hu, r, hr⟩ := join_eq_append (List.cons_ne_nil v ws) [' '] (c :: rest)
            rw [hr]
            exact afterBlanks?_cons rfl (hws u (List.mem_cons_of_mem w hu)).head_notBlank
          rw [join_append (List.cons_ne_nil v ws) [' '] (c :: rest), List.singleton_append]
          -- a modifier is taken off and the rest is shorter; any other first word stays in front
          by_cases hm : w ∈ ms
          · cases fuel with
            | zero => rw [skipModifiers, nameAfter?_append hw hspace.1, if_neg hkw]
            | succ fuel =>
                rw [skipModifiers, afterModifier?_append hw hspace.2, if_pos hm, hblank]
                exact ih (by simp) (fun u hu => hws u (List.mem_cons_of_mem w hu))
                  (fun h => hk (List.mem_cons_of_mem w h)) fuel
          · rw [skipModifiers_append hw hspace.2 (.inl hm), nameAfter?_append hw hspace.1,
              if_neg hkw]

end Front

end Java

end CodeBrief
