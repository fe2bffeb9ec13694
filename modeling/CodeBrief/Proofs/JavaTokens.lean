import CodeBrief.Proofs.JavaHeader

/-!
# Lines as rows of tokens

A line that is written freely is a row of words and marks with blanks between them
(`spell`), where only two words in a row need a blank (`Spaced`). The searches of a
header look at the line as text. On such a line they do what is said of the tokens
alone: the name behind the first `extends` is the word after the first such token
(`extendedName?_spell`), and the list behind `implements` goes on as long as words
and commas alternate and breaks off at any other mark (`implementedNames_spell`).
-/

namespace CodeBrief.Java

open Text

inductive Token where
  | word (text : List Char)
  | mark (c : Char)
  deriving DecidableEq, Repr

def Token.text : Token → List Char
  | .word w => w
  | .mark c => [c]

def Token.Proper : Token → Prop
  | .word w => IsWord w
  | .mark c => isWord c = false ∧ isBlank c = false

/-- The text of tokens, each with the blanks behind it. -/
def spell : List (Token × List Char) → List Char
  | [] => []
  | (t, gap) :: rest => t.text ++ (gap ++ spell rest)

/-- The gaps are blanks, and no word goes on into the next token. -/
def Spaced : List (Token × List Char) → Prop
  | [] => True
  | (t, gap) :: rest =>
      t.Proper ∧ (∀ c ∈ gap, isBlank c = true) ∧
        (match t with
          | .word _ => EndsWord (gap ++ spell rest)
          | .mark _ => True) ∧ Spaced rest

instance : (t : Token) → Decidable t.Proper
  | .word w => inferInstanceAs (Decidable (IsWord w))
  | .mark c => inferInstanceAs (Decidable (isWord c = false ∧ isBlank c = false))

instance (rest : List Char) : Decidable (EndsWord rest) :=
  decidable_of_iff (rest.head?.all fun c => !isWord c) (by cases rest <;> simp [EndsWord])

instance : (ps : List (Token × List Char)) → Decidable (Spaced ps)
  | [] => inferInstanceAs (Decidable True)
  | (.word w, gap) :: rest =>
      have := instDecidableSpaced rest
      decidable_of_iff
        (IsWord w ∧ gap.all isBlank = true ∧ EndsWord (gap ++ spell rest) ∧ Spaced rest)
        (by rw [List.all_eq_true]; exact Iff.rfl)
  | (.mark c, gap) :: rest =>
      have := instDecidableSpaced rest
      decidable_of_iff ((Token.mark c).Proper ∧ gap.all isBlank = true ∧ True ∧ Spaced rest)
        (by rw [List.all_eq_true]; exact Iff.rfl)

/-- The word at the front of a row of tokens. -/
def frontWord? : List Token → Option (List Char)
  | .word w :: _ => some w
  | _ => none

/-- The word behind the first `extends` that has one. -/
def extendedIn : List Token → Option (List Char)
  | [] => none
  | t :: rest =>
      (if t = .word "extends".toList then frontWord? rest else none).or (extendedIn rest)

/-- Words with a mark behind each, as far as the marks are commas. -/
def listedIn : List Token → List (List Char)
  | .word w :: .mark c :: rest => w :: if c = ',' then listedIn rest else []
  | _ => []

/-- A word with a mark behind it, which is followed by another listing if it is a comma. -/
def IsListing : List Token → Prop
  | .word _ :: .mark c :: rest => c = ',' → IsListing rest
  | _ => False

variable {gap : List Char} {ps qs : List (Token × List Char)} {ts us : List Token} {t : Token}

theorem Spaced.of_append (h : Spaced (ps ++ qs)) : Spaced qs := by
  induction ps with
  | nil => exact h
  | cons p ps ih =>
      obtain ⟨t, gap⟩ := p
      exact ih h.2.2.2

theorem mem_spell {c : Char} (h : c ∈ spell ps) :
    ∃ p ∈ ps, c ∈ p.1.text ∨ c ∈ p.2 := by
  induction ps with
  | nil => cases h
  | cons p ps ih =>
      obtain ⟨t, gap⟩ := p
      rw [spell, List.mem_append, List.mem_append] at h
      rcases h with h | h | h
      · exact ⟨_, List.mem_cons_self, .inl h⟩
      · exact ⟨_, List.mem_cons_self, .inr h⟩
      · obtain ⟨p, hp, hc⟩ := ih h
        exact ⟨p, List.mem_cons_of_mem _ hp, hc⟩

theorem Spaced.of_mem (h : Spaced ps) {p : Token × List Char} (hp : p ∈ ps) :
    p.1.Proper ∧ ∀ c ∈ p.2, isBlank c = true := by
  induction ps with
  | nil => cases hp
  | cons q ps ih =>
      obtain ⟨t, gap⟩ := q
      rcases List.mem_cons.mp hp with rfl | hp
      · exact ⟨h.1, h.2.1⟩
      · exact ih h.2.2.2 hp

theorem Spaced.head_notBlank (h : Spaced ps) : ∀ c ∈ (spell ps).head?, isBlank c = false := by
  cases ps with
  | nil => exact nofun
  | cons p ps =>
      obtain ⟨t, gap⟩ := p
      cases t with
      | word w =>
          have hw : IsWord w := h.1
          exact hw.head_notBlank
      | mark c =>
          rintro _ ⟨⟩
          exact h.1.2

theorem words_gap (hgap : ∀ c ∈ gap, isBlank c = true) (rest : List Char) :
    words (gap ++ rest) = words rest :=
  words_gap_append fun c hc => isWord_of_isBlank (hgap c hc)

/-- What a search finds in a word, and what it finds in the words behind. -/
theorem firstM_words_spell {α : Type} (f : List Char × List Char → Option α) {w : List Char}
    (h : Spaced ((.word w, gap) :: ps)) :
    (words (spell ((.word w, gap) :: ps))).firstM f =
      (f (w, gap ++ spell ps)).or ((words (spell ps)).firstM f) := by
  obtain ⟨hw, hgap, hends, hrest⟩ := h
  show (words (w ++ (gap ++ spell ps))).firstM f = _
  rw [words_append hw hends, words_gap hgap, firstM_eq_findSome?, firstM_eq_findSome?,
    List.findSome?_cons]
  cases f (w, gap ++ spell ps) <;> rfl

theorem words_mark {c : Char} (h : Spaced ((.mark c, gap) :: ps)) :
    words (spell ((.mark c, gap) :: ps)) = words (spell ps) := by
  obtain ⟨hc, hgap, -, hrest⟩ := h
  show words (c :: (gap ++ spell ps)) = _
  rw [words_cons hc.1, words_gap hgap]

/-- A gap is all that is passed over, and there is one if anything is. -/
theorem afterBlanks?_gap (hgap : ∀ c ∈ gap, isBlank c = true) (h : Spaced ps) :
    afterBlanks? (gap ++ spell ps) = if gap = [] then none else some (spell ps) := by
  cases gap with
  | nil =>
      rw [List.nil_append, if_pos rfl]
      have hhead := h.head_notBlank
      cases htext : spell ps with
      | nil => rfl
      | cons c cs =>
          rw [htext] at hhead
          rw [afterBlanks?, hhead c rfl, if_neg Bool.false_ne_true]
  | cons b gap =>
      have hdrop : (gap ++ spell ps).dropWhile isBlank = spell ps :=
        dropWhile_append_eq (fun c hc => hgap c (List.mem_cons_of_mem b hc)) h.head_notBlank
      rw [List.cons_append, afterBlanks?, if_pos (hgap b List.mem_cons_self), hdrop,
        if_neg (List.cons_ne_nil b gap)]

/-- Two words in a row are apart. -/
theorem gap_ne_nil {w gap' : List Char} (hw : IsWord w)
    (hends : EndsWord (gap ++ spell ((.word w, gap') :: ps))) : gap ≠ [] := by
  rintro rfl
  obtain ⟨c, cs, rfl⟩ := List.exists_cons_of_ne_nil hw.ne_nil
  have hc := hends c rfl
  rw [hw.all c List.mem_cons_self] at hc
  cases hc

/-- The word behind a gap is the next token, if that is a word. -/
theorem bind_word?_gap (hgap : ∀ c ∈ gap, isBlank c = true) (hends : EndsWord (gap ++ spell ps))
    (h : Spaced ps) :
    ((afterBlanks? (gap ++ spell ps)).bind word?).map Prod.fst = frontWord? (ps.map Prod.fst) := by
  rw [afterBlanks?_gap hgap h]
  cases ps with
  | nil => split <;> rfl
  | cons p ps =>
      obtain ⟨t, gap'⟩ := p
      obtain ⟨ht, hgap', hends', hrest⟩ := h
      cases t with
      | word w =>
          have hw : IsWord w := ht
          rw [if_neg (gap_ne_nil hw hends), Option.bind_some]
          show (word? (w ++ (gap' ++ spell ps))).map Prod.fst = some w
          rw [word?_append hw hends']
          rfl
      | mark c =>
          have hnone : word? (spell ((.mark c, gap') :: ps)) = none := by
            show word? (c :: (gap' ++ spell ps)) = none
            rw [word?, ht.1, if_neg Bool.false_ne_true]
          split
          · rfl
          · rw [Option.bind_some, hnone]
            rfl

/-! ## The name behind `extends` -/

theorem extendedName?_spell (h : Spaced ps) :
    extendedName? (spell ps) = extendedIn (ps.map Prod.fst) := by
  induction ps with
  | nil => rfl
  | cons p ps ih =>
      obtain ⟨t, gap⟩ := p
      have hrest := ih h.2.2.2
      rw [extendedName?] at hrest
      rw [extendedName?, List.map_cons, extendedIn, ← hrest]
      cases t with
      | mark c => rw [words_mark h, if_neg (by simp), Option.none_or]
      | word w =>
          rw [firstM_words_spell _ h]
          simp only [Token.word.injEq, bind_word?_gap h.2.1 h.2.2.1 h.2.2.2]

theorem extendedIn_cons_of_ne (ht : t ≠ .word "extends".toList) :
    extendedIn (t :: ts) = extendedIn ts := by
  rw [extendedIn, if_neg ht, Option.none_or]

theorem extendedIn_append (hts : ∀ t ∈ ts, t ≠ .word "extends".toList) :
    extendedIn (ts ++ us) = extendedIn us := by
  induction ts with
  | nil => rfl
  | cons t ts ih =>
      rw [List.cons_append, extendedIn_cons_of_ne (hts t List.mem_cons_self)]
      exact ih fun u hu => hts u (List.mem_cons_of_mem t hu)

/-- Nothing is taken for extended over a mark. -/
theorem extendedIn_append_mark (ts us : List Token) (c : Char) :
    extendedIn (ts ++ .mark c :: us) = (extendedIn ts).or (extendedIn us) := by
  induction ts with
  | nil => exact extendedIn_cons_of_ne (by simp)
  | cons t ts ih =>
      have hfront : frontWord? (ts ++ .mark c :: us) = frontWord? ts := by
        cases ts with
        | nil => rfl
        | cons u ts => cases u <;> rfl
      rw [List.cons_append, extendedIn, extendedIn, hfront, ih, Option.or_assoc]

/-! ## The names behind `implements` -/

theorem implementedNames_spell_cons (h : Spaced ((t, gap) :: ps))
    (ht : t ≠ .word "implements".toList) :
    implementedNames (spell ((t, gap) :: ps)) = implementedNames (spell ps) := by
  unfold implementedNames
  cases t with
  | mark c => rw [words_mark h]
  | word w =>
      have hw : w ≠ "implements".toList := fun hw => ht (by rw [hw])
      simp only [firstM_words_spell _ h, if_neg hw, Option.none_or]

theorem implementedNames_spell_append (h : Spaced (ps ++ qs))
    (hps : ∀ t ∈ ps.map Prod.fst, t ≠ .word "implements".toList) :
    implementedNames (spell (ps ++ qs)) = implementedNames (spell qs) := by
  induction ps with
  | nil => rfl
  | cons p ps ih =>
      obtain ⟨t, gap⟩ := p
      rw [List.map_cons, List.forall_mem_cons] at hps
      rw [← ih h.2.2.2 hps.2]
      exact implementedNames_spell_cons h hps.1

theorem isNameList_of_isBlank {c : Char} (h : isBlank c = true) : isNameList c = true := by
  simp [isNameList, h]

theorem isNameList_of_isWord {c : Char} (h : isWord c = true) : isNameList c = true := by
  simp [isNameList, h]

/-- A listing taken apart at its commas. The induction carries the blanks behind a comma. -/
theorem map_strip_listing (ps : List (Token × List Char)) {left : List Char}
    (hleft : ∀ c ∈ left, isBlank c = true) (h : Spaced ps) (hlisting : IsListing (ps.map Prod.fst)) :
    (splitAtEach ',' (left ++ (spell ps).takeWhile isNameList)).map strip =
      listedIn (ps.map Prod.fst) := by
  match ps, hlisting with
  | (.word w, gap) :: (.mark c, gap') :: rest, hlisting =>
      obtain ⟨hw, hgap, -, hc, hgap', -, hrest⟩ := h
      have hw : IsWord w := hw
      have hstrip : strip (left ++ w ++ gap) = w := strip_append hleft hgap hw.trimmed
      have hcomma {blanks : List Char} (hb : ∀ c ∈ blanks, isBlank c = true) : ',' ∉ blanks :=
        fun hmem => absurd (hb ',' hmem) (by decide)
      have hsep : ',' ∉ left ++ w ++ gap := by
        simp only [List.mem_append, not_or]
        exact ⟨⟨hcomma hleft, hw.notMem (by decide)⟩, hcomma hgap⟩
      have hlist : ∀ d ∈ w ++ gap, isNameList d = true := by
        intro d hd
        rcases List.mem_append.mp hd with hd | hd
        · exact isNameList_of_isWord (hw.all d hd)
        · exact isNameList_of_isBlank (hgap d hd)
      have hspell : spell ((.word w, gap) :: (.mark c, gap') :: rest) =
          (w ++ gap) ++ c :: (gap' ++ spell rest) := by
        simp [spell, Token.text]
      rw [hspell, List.takeWhile_append_of_pos hlist, List.map_cons, List.map_cons, listedIn]
      by_cases hcc : c = ','
      · have hmore := map_strip_listing rest hgap' hrest (hlisting hcc)
        have htake : (gap' ++ spell rest).takeWhile isNameList =
            gap' ++ (spell rest).takeWhile isNameList :=
          List.takeWhile_append_of_pos fun d hd => isNameList_of_isBlank (hgap' d hd)
        subst hcc
        rw [List.takeWhile_cons_of_pos (by decide), htake, ← List.append_assoc, ← List.append_assoc,
          splitAtEach_append_cons hsep, List.map_cons, hstrip, hmore, if_pos rfl]
      · have hstop : isNameList c = false := by simp [isNameList, hc.1, hc.2, hcc]
        rw [List.takeWhile_cons_of_neg (by simp [hstop]), List.append_nil, ← List.append_assoc,
          splitAtEach_of_notMem hsep, List.map_singleton, hstrip, if_neg hcc]

theorem isWord_of_mem_listedIn (ps : List (Token × List Char)) (h : Spaced ps) {w : List Char}
    (hw : w ∈ listedIn (ps.map Prod.fst)) : IsWord w := by
  match ps with
  | (.word v, gap) :: (.mark c, gap') :: rest =>
      rw [List.map_cons, List.map_cons, listedIn] at hw
      rcases List.mem_cons.mp hw with rfl | hw
      · exact h.1
      · split at hw
        · exact isWord_of_mem_listedIn rest h.2.2.2.2.2.2 hw
        · cases hw

theorem IsListing.exists_word (h : IsListing ts) : ∃ w rest, ts = .word w :: rest := by
  match ts with
  | .word w :: rest => exact ⟨w, rest, rfl⟩

theorem implementedNames_spell {k : List Char} (hk : k = "implements".toList)
    (h : Spaced ((.word k, gap) :: ps)) (hlisting : IsListing (ps.map Prod.fst)) :
    implementedNames (spell ((.word k, gap) :: ps)) = listedIn (ps.map Prod.fst) := by
  obtain ⟨w, rest, hword⟩ := hlisting.exists_word
  -- a word is next, so there is a gap, and the list is not empty
  have hblank : afterBlanks? (gap ++ spell ps) = some (spell ps) := by
    have hnext := bind_word?_gap h.2.1 h.2.2.1 h.2.2.2
    rw [hword, afterBlanks?_gap h.2.1 h.2.2.2] at hnext
    rw [afterBlanks?_gap h.2.1 h.2.2.2]
    split at hnext
    · cases hnext
    · next hne => rw [if_neg hne]
  have hne : (spell ps).takeWhile isNameList ≠ [] := by
    obtain ⟨⟨t, gap'⟩, qs, rfl, ht, -⟩ := List.map_eq_cons_iff.mp hword
    obtain rfl : t = .word w := ht
    have hw : IsWord w := h.2.2.2.1
    obtain ⟨c, cs, rfl⟩ := List.exists_cons_of_ne_nil hw.ne_nil
    show (c :: (cs ++ (gap' ++ spell qs))).takeWhile isNameList ≠ []
    rw [List.takeWhile_cons_of_pos (isNameList_of_isWord (hw.all c List.mem_cons_self))]
    exact List.cons_ne_nil _ _
  have hnames := map_strip_listing ps (List.forall_mem_nil _) h.2.2.2 hlisting
  rw [List.nil_append] at hnames
  have hfilter : (listedIn (ps.map Prod.fst)).filter (· ≠ []) = listedIn (ps.map Prod.fst) := by
    refine List.filter_eq_self.mpr fun w hw => ?_
    exact decide_eq_true (isWord_of_mem_listedIn ps h.2.2.2 hw).ne_nil
  unfold implementedNames
  dsimp only
  rw [firstM_words_spell _ h]
  simp only [hk, if_true, hblank, if_pos (Or.inl hne), Option.some_or, Option.getD_some, hnames]
  exact hfilter

end CodeBrief.Java
