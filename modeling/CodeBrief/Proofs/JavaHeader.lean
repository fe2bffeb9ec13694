import CodeBrief.Proofs.JavaLine

/-!
# The header of a type, read back

A header is read word by word. Its keyword and its name stand at the front
(`nameAfter?_keyword`); the two clauses are searched for among all its words, so a
word that is neither `extends` nor `implements` is passed over, and what is found
is what was put in (`extendedName?_text`, `implementedNames_text`). The opening
brace and the blanks before it belong to no word and to no list of names.
-/

namespace CodeBrief.Java

open Text

/-! ## Searches for clauses -/

section Clauses

variable {w n rest : List Char} {c : Char}

theorem extendedName?_append (hw : IsWord w) (h : EndsWord rest) (hne : w ≠ "extends".toList) :
    extendedName? (w ++ rest) = extendedName? rest :=
  firstM_words_append hw h (if_neg hne)

theorem extendedName?_cons (hc : isWord c = false) :
    extendedName? (c :: rest) = extendedName? rest := by
  rw [extendedName?, words_cons hc, extendedName?]

theorem extendedName?_eq_none (h : ∀ w ∈ words rest, w.1 ≠ "extends".toList) :
    extendedName? rest = none := by
  rw [extendedName?, firstM_eq_findSome?, List.findSome?_eq_none_iff]
  exact fun w hw => if_neg (h w hw)

theorem isWord_extends : IsWord "extends".toList := by decide

theorem extendedName?_extends (hn : IsWord n) (h : EndsWord rest) :
    extendedName? ("extends".toList ++ ' ' :: (n ++ rest)) = some n := by
  have hblank : afterBlanks? (' ' :: (n ++ rest)) = some (n ++ rest) :=
    afterBlanks?_cons (by decide) hn.head_notBlank
  rw [extendedName?, words_append isWord_extends (endsWord_cons (by decide)), firstM_eq_findSome?,
    List.findSome?_cons]
  simp [hblank, word?_append hn h]

theorem implementedNames_append (hw : IsWord w) (h : EndsWord rest)
    (hne : w ≠ "implements".toList) :
    implementedNames (w ++ rest) = implementedNames rest := by
  unfold implementedNames
  dsimp only
  rw [firstM_words_append hw h (if_neg hne)]

theorem implementedNames_cons (hc : isWord c = false) :
    implementedNames (c :: rest) = implementedNames rest := by
  rw [implementedNames, words_cons hc, implementedNames]

theorem implementedNames_eq_nil (h : words rest = []) : implementedNames rest = [] := by
  rw [implementedNames, h]
  rfl

theorem isWord_implements : IsWord "implements".toList := by decide

/-- The names between `implements` and the end of the list. -/
theorem implementedNames_implements {names : List Char} (hne : names ≠ [])
    (hnames : ∀ c ∈ names, isNameList c = true) (hhead : ∀ c ∈ names.head?, isBlank c = false)
    (hrest : ∀ c ∈ rest.head?, isNameList c = false) :
    implementedNames ("implements".toList ++ ' ' :: (names ++ rest)) =
      ((splitAtEach ',' names).map strip).filter (· ≠ []) := by
  have hblank : afterBlanks? (' ' :: (names ++ rest)) = some (names ++ rest) := by
    refine afterBlanks?_cons (by decide) ?_
    obtain ⟨x, xs, rfl⟩ := List.exists_cons_of_ne_nil hne
    exact hhead
  have htake : (names ++ rest).takeWhile isNameList = names := takeWhile_append_eq hnames hrest
  rw [implementedNames, words_append isWord_implements (endsWord_cons (by decide)),
    firstM_eq_findSome?, List.findSome?_cons]
  simp [hblank, htake, hne]

end Clauses

/-! ## Lists of names -/

section Names

variable {rest : List Char}

theorem join_names_cons (n m : Name) (names : List Name) (rest : List Char) :
    join ", ".toList ((n :: m :: names).map Name.text) ++ rest =
      n.text ++ ',' :: ' ' :: (join ", ".toList ((m :: names).map Name.text) ++ rest) :=
  join_append (List.cons_ne_nil _ _) ", ".toList rest

theorem mem_join_names {names : List Name} {c : Char}
    (h : c ∈ join ", ".toList (names.map Name.text)) : isWord c = true ∨ c ∈ [' ', ','] := by
  rcases mem_join h with h | ⟨w, hw, h⟩
  · exact .inr (by simpa [or_comm] using h)
  · obtain ⟨n, _, rfl⟩ := List.mem_map.mp hw
    exact .inl (n.isWord.all c h)

theorem words_join_names (h : EndsWord rest) (names : List Name) :
    ∀ w ∈ words (join ", ".toList (names.map Name.text) ++ rest),
      w.1 ∈ names.map Name.text ∨ w ∈ words rest := by
  induction names with
  | nil => exact fun w hw => .inr hw
  | cons n names ih =>
      intro w hw
      have hfirst : w.1 = n.text → w.1 ∈ (n :: names).map Name.text :=
        fun h => h ▸ List.mem_cons_self
      cases names with
      | nil =>
          rw [List.map_singleton, join, words_append n.isWord h, List.mem_cons] at hw
          rcases hw with rfl | hw
          · exact .inl (hfirst rfl)
          · exact .inr hw
      | cons m names =>
          rw [join_names_cons, words_append n.isWord (endsWord_cons (by decide)),
            words_cons (by decide), words_cons (by decide), List.mem_cons] at hw
          rcases hw with rfl | hw
          · exact .inl (hfirst rfl)
          · exact (ih w hw).imp (List.mem_cons_of_mem _) id

theorem Name.strip_around (n : Name) {left right : List Char} (hl : ∀ c ∈ left, isBlank c = true)
    (hr : ∀ c ∈ right, isBlank c = true) : strip (left ++ n.text ++ right) = n.text :=
  strip_append hl hr n.isWord.trimmed

/-- A list of names, taken apart. The induction carries the blank that follows a comma. -/
theorem splitAtEach_join_names {left right : List Char} (hl : ∀ c ∈ left, isBlank c = true)
    (hr : ∀ c ∈ right, isBlank c = true) {names : List Name} (hne : names ≠ []) :
    (splitAtEach ',' (left ++ (join ", ".toList (names.map Name.text) ++ right))).map strip =
      names.map Name.text := by
  have hcomma {blanks : List Char} (h : ∀ c ∈ blanks, isBlank c = true) : ',' ∉ blanks :=
    fun hmem => absurd (h ',' hmem) (by decide)
  induction names generalizing left with
  | nil => exact absurd rfl hne
  | cons n names ih =>
      have hn : ',' ∉ n.text := n.isWord.notMem (by decide)
      cases names with
      | nil =>
          have hsep : ',' ∉ left ++ n.text ++ right := by
            simp only [List.mem_append, not_or]
            exact ⟨⟨hcomma hl, hn⟩, hcomma hr⟩
          rw [List.map_singleton, join, ← List.append_assoc, splitAtEach_of_notMem hsep,
            List.map_singleton, n.strip_around hl hr]
      | cons m names =>
          have hsep : ',' ∉ left ++ n.text := by
            rw [List.mem_append, not_or]
            exact ⟨hcomma hl, hn⟩
          have hstrip : strip (left ++ n.text) = n.text := by
            rw [← List.append_nil (left ++ n.text)]
            exact n.strip_around hl (List.forall_mem_nil _)
          have hrest := @ih [' '] (List.all_eq_true.mp (by decide)) (List.cons_ne_nil m names)
          rw [List.singleton_append] at hrest
          rw [join_names_cons, ← List.append_assoc, splitAtEach_append_cons hsep, List.map_cons,
            hstrip, hrest]
          rfl

end Names

/-! ## The pieces of a header -/

/-- A header without its brace. -/
def Header.front (h : Header) : List Char :=
  h.kind.keyword ++ ' ' :: (h.name.text ++ h.kind.clauses)

theorem Header.text_eq (h : Header) : h.text = h.front ++ h.brace.onHeader := by
  simp [Header.text, headerText, Header.front]

theorem Kind.keyword_mem (k : Kind) : k.keyword ∈ keywords ["class", "interface"] := by
  cases k
  · exact List.mem_cons_self
  · exact List.mem_cons_of_mem _ List.mem_cons_self

theorem Kind.isWord_keyword (k : Kind) : IsWord k.keyword := by
  have hall : ∀ w ∈ keywords ["class", "interface"], IsWord w := by decide
  exact hall _ k.keyword_mem

theorem mem_clause {keyword said : List Char} (hk : IsWord keyword)
    (h : ∀ c ∈ said, isWord c = true ∨ c ∈ [' ', ',']) :
    ∀ c ∈ clause keyword said, isWord c = true ∨ c ∈ [' ', ','] := by
  intro c hc
  simp only [clause, List.mem_cons, List.mem_append] at hc
  rcases hc with rfl | hc | rfl | hc
  · exact .inr List.mem_cons_self
  · exact .inl (hk.all c hc)
  · exact .inr List.mem_cons_self
  · exact h c hc

theorem mem_extendsClause (base : Option Name) :
    ∀ c ∈ extendsClause base, isWord c = true ∨ c ∈ [' ', ','] := by
  cases base with
  | none => exact nofun
  | some b => exact mem_clause isWord_extends fun c hc => .inl (b.isWord.all c hc)

theorem mem_implementsClause (interfaces : List Name) :
    ∀ c ∈ implementsClause interfaces, isWord c = true ∨ c ∈ [' ', ','] := by
  cases interfaces with
  | nil => exact nofun
  | cons n names => exact mem_clause isWord_implements fun c hc => mem_join_names hc

theorem Header.mem_front {h : Header} {c : Char} (hc : c ∈ h.front) :
    isWord c = true ∨ c ∈ [' ', ','] := by
  have hclauses : c ∈ h.kind.clauses → isWord c = true ∨ c ∈ [' ', ','] := by
    intro hc
    cases hk : h.kind with
    | interface => rw [hk] at hc; cases hc
    | «class» base interfaces =>
        rw [hk] at hc
        rcases List.mem_append.mp hc with hc | hc
        · exact mem_extendsClause base c hc
        · exact mem_implementsClause interfaces c hc
  simp only [Header.front, List.mem_append, List.mem_cons] at hc
  rcases hc with hc | rfl | hc | hc
  · exact .inl (h.kind.isWord_keyword.all c hc)
  · exact .inr List.mem_cons_self
  · exact .inl (h.name.isWord.all c hc)
  · exact hclauses hc

theorem wordLast_clause {a keyword said : List Char} (h : WordLast said) :
    WordLast (a ++ clause keyword said) :=
  ((h.append_left [' ']).append_left (' ' :: keyword)).append_left a

theorem wordLast_extendsClause (base : Option Name) {a : List Char} (ha : WordLast a) :
    WordLast (a ++ extendsClause base) := by
  cases base with
  | none => exact (List.append_nil a).symm ▸ ha
  | some b => exact wordLast_clause b.isWord.wordLast

theorem wordLast_implementsClause (interfaces : List Name) {a : List Char} (ha : WordLast a) :
    WordLast (a ++ implementsClause interfaces) := by
  cases interfaces with
  | nil => exact (List.append_nil a).symm ▸ ha
  | cons n names =>
      have hne : (n :: names).map Name.text ≠ [] := List.cons_ne_nil _ _
      obtain ⟨w, hw, r, hr⟩ := join_eq_append_last hne ", ".toList
      obtain ⟨m, _, rfl⟩ := List.mem_map.mp hw
      rw [implementsClause, hr]
      exact wordLast_clause (m.isWord.wordLast.append_left r)

/-- A header ends in a word, its brace apart. -/
theorem Header.wordLast_front (h : Header) : WordLast h.front := by
  have hname (k : List Char) : WordLast (k ++ ' ' :: h.name.text) :=
    (h.name.isWord.wordLast.append_left [' ']).append_left k
  have hfront : h.front = h.kind.keyword ++ ' ' :: h.name.text ++ h.kind.clauses := by
    simp [Header.front]
  rw [hfront]
  cases h.kind with
  | interface => exact (List.append_nil _).symm ▸ hname _
  | «class» base interfaces =>
      rw [Kind.clauses, ← List.append_assoc]
      exact wordLast_implementsClause interfaces (wordLast_extendsClause base (hname _))

/-! ## The brace -/

theorem Brace.endsWord_onHeader (b : Brace) : EndsWord b.onHeader := by
  cases b with
  | below m => exact nofun
  | behind gap =>
      obtain ⟨_ | ⟨x, xs⟩, hblank, _⟩ := gap
      · exact endsWord_cons (by decide)
      · exact endsWord_cons (isWord_of_isBlank (hblank x List.mem_cons_self))

theorem Brace.words_onHeader (b : Brace) : words b.onHeader = [] := by
  cases b with
  | below m => rfl
  | behind gap => exact words_gap_append fun c hc => isWord_of_isBlank (gap.blank c hc)

/-- The blanks between a header and a brace on its line. -/
def Brace.gap : Brace → List Char
  | .behind gap => gap.text
  | .below _ => []

/-- The brace itself, if it is on the header line. -/
def Brace.mark : Brace → List Char
  | .behind _ => ['{']
  | .below _ => []

theorem Brace.onHeader_eq (b : Brace) : b.onHeader = b.gap ++ b.mark := by
  cases b <;> rfl

theorem Brace.gap_blank (b : Brace) : ∀ c ∈ b.gap, isBlank c = true := by
  cases b with
  | behind gap => exact gap.blank
  | below m => exact nofun

/-! ## What the header declares -/

theorem clause_append (keyword said rest : List Char) :
    clause keyword said ++ rest = ' ' :: (keyword ++ ' ' :: (said ++ rest)) := by
  rw [clause, List.cons_append, List.append_assoc, List.cons_append]

theorem endsWord_extendsClause (base : Option Name) {rest : List Char} (h : EndsWord rest) :
    EndsWord (extendsClause base ++ rest) := by
  cases base with
  | none => exact h
  | some b => exact endsWord_cons (by decide)

theorem endsWord_implementsClause (interfaces : List Name) {rest : List Char} (h : EndsWord rest) :
    EndsWord (implementsClause interfaces ++ rest) := by
  cases interfaces with
  | nil => exact h
  | cons n names => exact endsWord_cons (by decide)

theorem Name.ne (n : Name) {k : List Char} (hk : k ∈ reserved) : n.text ≠ k :=
  fun h => n.unreserved (h ▸ hk)

theorem extendedName?_implementsClause (interfaces : List Name) (brace : Brace) :
    extendedName? (implementsClause interfaces ++ brace.onHeader) = none := by
  have hnone : extendedName? brace.onHeader = none :=
    extendedName?_eq_none (by rw [brace.words_onHeader]; exact nofun)
  cases interfaces with
  | nil => exact hnone
  | cons n names =>
      rw [implementsClause, clause_append, extendedName?_cons (by decide),
        extendedName?_append isWord_implements (endsWord_cons (by decide)) (by decide),
        extendedName?_cons (by decide)]
      refine extendedName?_eq_none fun w hw => ?_
      rcases words_join_names brace.endsWord_onHeader (n :: names) w hw with h | h
      · obtain ⟨m, _, hm⟩ := List.mem_map.mp h
        exact hm ▸ m.ne (by decide)
      · rw [brace.words_onHeader] at h
        cases h

theorem extendedName?_clauses (base : Option Name) (interfaces : List Name) (brace : Brace) :
    extendedName? (extendsClause base ++ (implementsClause interfaces ++ brace.onHeader)) =
      base.map Name.text := by
  cases base with
  | none => exact extendedName?_implementsClause interfaces brace
  | some b =>
      rw [extendsClause, clause_append, extendedName?_cons (by decide),
        extendedName?_extends b.isWord
          (endsWord_implementsClause interfaces brace.endsWord_onHeader)]
      rfl

theorem implementedNames_implementsClause (interfaces : List Name) (brace : Brace) :
    implementedNames (implementsClause interfaces ++ brace.onHeader) =
      interfaces.map Name.text := by
  cases interfaces with
  | nil => exact implementedNames_eq_nil brace.words_onHeader
  | cons n names =>
      have hlist : ∀ c ∈ join ", ".toList ((n :: names).map Name.text) ++ brace.gap,
          isNameList c = true := by
        intro c hc
        rcases List.mem_append.mp hc with hc | hc
        · rcases mem_join_names hc with hc | hc
          · simp [isNameList, hc]
          · exact List.all_eq_true.mp (show [' ', ','].all isNameList = true by decide) c hc
        · simp [isNameList, brace.gap_blank c hc]
      have hmark : ∀ c ∈ brace.mark.head?, isNameList c = false := by
        cases brace with
        | behind gap => rintro _ ⟨⟩; decide
        | below m => exact nofun
      have hne : (n :: names).map Name.text ≠ [] := List.cons_ne_nil _ _
      obtain ⟨w, hw, r, hr⟩ := join_eq_append hne ", ".toList brace.gap
      obtain ⟨m, _, rfl⟩ := List.mem_map.mp hw
      have hnames := @splitAtEach_join_names [] brace.gap (List.forall_mem_nil _) brace.gap_blank _
        (List.cons_ne_nil n names)
      rw [List.nil_append] at hnames
      have hfilter : ((n :: names).map Name.text).filter (· ≠ []) = (n :: names).map Name.text := by
        refine List.filter_eq_self.mpr fun w hw => ?_
        obtain ⟨m, _, rfl⟩ := List.mem_map.mp hw
        exact decide_eq_true m.isWord.ne_nil
      rw [implementsClause, clause_append, implementedNames_cons (by decide), brace.onHeader_eq,
        ← List.append_assoc, implementedNames_implements ?_ hlist ?_ hmark, hnames, hfilter]
      · rw [hr]
        exact List.append_ne_nil_of_left_ne_nil m.isWord.ne_nil r
      · rw [hr]
        exact m.isWord.head_notBlank

theorem implementedNames_clauses (base : Option Name) (interfaces : List Name) (brace : Brace) :
    implementedNames (extendsClause base ++ (implementsClause interfaces ++ brace.onHeader)) =
      interfaces.map Name.text := by
  have himplements := implementedNames_implementsClause interfaces brace
  cases base with
  | none => exact himplements
  | some b =>
      rw [extendsClause, clause_append, implementedNames_cons (by decide),
        implementedNames_append isWord_extends (endsWord_cons (by decide)) (by decide),
        implementedNames_cons (by decide), implementedNames_append b.isWord
          (endsWord_implementsClause interfaces brace.endsWord_onHeader) (b.ne (by decide)),
        himplements]

theorem Kind.endsWord_clauses (k : Kind) (brace : Brace) :
    EndsWord (k.clauses ++ brace.onHeader) := by
  cases k with
  | interface => exact brace.endsWord_onHeader
  | «class» base interfaces =>
      rw [Kind.clauses, List.append_assoc]
      exact endsWord_extendsClause base
        (endsWord_implementsClause interfaces brace.endsWord_onHeader)

/-- The keyword of a type is no modifier, and the name behind it is found. -/
theorem nameAfter?_keyword {k : String} {ms : List (List Char)} {n rest : List Char}
    (hk : IsWord k.toList) (hms : k.toList ∉ ms) (hspace : ∀ m ∈ ms, ' ' ∉ m) (hn : IsWord n)
    (h : EndsWord rest) (fuel : Nat) :
    nameAfter? k (skipModifiers ms fuel (k.toList ++ ' ' :: (n ++ rest))) = some n := by
  have hblank : afterBlanks? (' ' :: (n ++ rest)) = some (n ++ rest) :=
    afterBlanks?_cons (by decide) hn.head_notBlank
  rw [skipModifiers_append hk.notBlank hspace (.inl hms),
    nameAfter?_append hk.notBlank (hk.notMem (by decide)), if_pos rfl, hblank, Option.bind_some,
    word?_append hn h]
  rfl

def Header.entry (h : Header) : Entry :=
  match h.kind with
  | .class base interfaces =>
      .classHeader h.name.text (base.map Name.text) (interfaces.map Name.text)
  | .interface => .interfaceHeader h.name.text

theorem Header.notMem_text (h : Header) {c : Char} (hw : isWord c = false) (hb : isBlank c = false)
    (hs : c ∉ [',', '{']) : c ∉ h.text := by
  simp only [List.mem_cons, List.not_mem_nil, or_false, not_or] at hs
  have hgap : c ∉ h.brace.gap := fun hmem => by
    rw [h.brace.gap_blank c hmem] at hb
    cases hb
  have hmark : c ∉ h.brace.mark := by
    cases h.brace with
    | behind gap => simpa [Brace.mark] using hs.2
    | below m => exact List.not_mem_nil
  rw [h.text_eq, h.brace.onHeader_eq, List.mem_append, List.mem_append, not_or, not_or]
  refine ⟨fun hmem => ?_, hgap, hmark⟩
  rcases h.mem_front hmem with hc | hc
  · rw [hw] at hc
    cases hc
  · simp only [List.mem_cons, List.not_mem_nil, or_false] at hc
    rcases hc with rfl | rfl
    · exact absurd hb (by decide)
    · exact hs.1 rfl

theorem Header.header?_text (h : Header) : header? h.text = some (h.entry, h.name.text) := by
  have hequals : h.text.contains '=' = false := by
    rw [List.contains_eq_mem]
    exact decide_eq_false (h.notMem_text (by decide) (by decide) (by decide))
  obtain ⟨margins, kind, name, brace, hnew⟩ := h
  have hends := kind.endsWord_clauses brace
  cases kind with
  | «class» base interfaces =>
      have hkeyword : IsWord "class".toList := by decide
      have hclass : className? (headerText (.class base interfaces) name brace) = some name.text :=
        nameAfter?_keyword hkeyword (by decide) (by decide) name.isWord hends _
      have htext : headerText (.class base interfaces) name brace = "class".toList ++
          ' ' :: (name.text ++ (Kind.clauses (.class base interfaces) ++ brace.onHeader)) := rfl
      have hextended : extendedName? (headerText (.class base interfaces) name brace) =
          base.map Name.text := by
        rw [htext, extendedName?_append hkeyword (endsWord_cons (by decide)) (by decide),
          extendedName?_cons (by decide), extendedName?_append name.isWord hends (name.ne (by decide)),
          Kind.clauses, List.append_assoc, extendedName?_clauses]
      have himplemented : implementedNames (headerText (.class base interfaces) name brace) =
          interfaces.map Name.text := by
        rw [htext,
          implementedNames_append hkeyword (endsWord_cons (by decide)) (by decide),
          implementedNames_cons (by decide),
          implementedNames_append name.isWord hends (name.ne (by decide)), Kind.clauses,
          List.append_assoc, implementedNames_clauses]
      simp only [Header.text] at hequals ⊢
      simp only [header?, hclass, hequals, hnew, hextended, himplemented]
      rfl
  | interface =>
      have hkeyword : IsWord "interface".toList := by decide
      have htext : headerText .interface name brace = "interface".toList ++
          ' ' :: (name.text ++ (Kind.interface.clauses ++ brace.onHeader)) := rfl
      have hclass : className? (headerText .interface name brace) = none := by
        rw [className?, htext,
          skipModifiers_append hkeyword.notBlank (by decide) (.inl (by decide)),
          nameAfter?_append hkeyword.notBlank (by decide), if_neg (by decide)]
      have hinterface : interfaceName? (headerText .interface name brace) = some name.text :=
        nameAfter?_keyword hkeyword (by decide) (by decide) name.isWord hends _
      simp only [Header.text, header?, hclass, hinterface]
      rfl

theorem Header.front_cons (h : Header) (rest : List Char) :
    ∃ cs, h.front ++ rest = 'c' :: cs ∨ h.front ++ rest = 'i' :: 'n' :: cs := by
  rw [Header.front]
  cases h.kind with
  | «class» base interfaces => exact ⟨_, .inl rfl⟩
  | interface => exact ⟨_, .inr rfl⟩

theorem Header.codeLine_text (h : Header) : CodeLine h.text := by
  have hslash : '/' ∉ h.text := h.notMem_text (by decide) (by decide) (by decide)
  have hcomment : occursIn ['/', '*'] h.text = false := occursIn_of_notMem List.mem_cons_self hslash
  have hhead : ∀ c ∈ h.text.head?, isBlank c = false := by
    rw [h.text_eq]
    obtain ⟨cs, hcs | hcs⟩ := h.front_cons h.brace.onHeader
    all_goals
      rw [hcs]
      rintro _ ⟨⟩
      decide
  have htrimmed : Trimmed h.text := by
    rw [h.text_eq, h.brace.onHeader_eq] at hhead ⊢
    generalize h.brace = brace at hhead ⊢
    cases brace with
    | below m =>
        rw [Brace.gap, Brace.mark, List.append_nil, List.append_nil] at hhead ⊢
        exact h.wordLast_front.trimmed hhead
    | behind gap =>
        rw [← List.append_assoc] at hhead ⊢
        refine ⟨List.append_ne_nil_of_right_ne_nil _ (List.cons_ne_nil _ _), hhead, ?_⟩
        rw [Brace.mark, List.getLast?_concat]
        rintro _ ⟨⟩
        decide
  refine ⟨htrimmed, hcomment, ?_, ?_⟩
  all_goals
    rw [h.text_eq]
    obtain ⟨cs, hcs | hcs⟩ := h.front_cons h.brace.onHeader
    all_goals
      rw [hcs]
      rfl

theorem Header.member?_text (h : Header) (owner : List Char) : member? owner h.text = none := by
  have hp : '(' ∉ h.text := h.notMem_text (by decide) (by decide) (by decide)
  have hs : ';' ∉ h.text := h.notMem_text (by decide) (by decide) (by decide)
  have he : '=' ∉ h.text := h.notMem_text (by decide) (by decide) (by decide)
  have ha : '@' ∉ h.text := h.notMem_text (by decide) (by decide) (by decide)
  obtain ⟨c, cs, hcs⟩ := List.exists_cons_of_ne_nil h.codeLine_text.trimmed.ne_nil
  rw [hcs] at hp hs he ha ⊢
  exact member?_eq_none (List.ne_of_not_mem_cons ha).symm hp hs he

/-- The only brace of a header line is the opening one of its type. -/
theorem Header.count_text (h : Header) :
    h.text.count '{' = h.brace.mark.length ∧ h.text.count '}' = 0 := by
  have hfront : '{' ∉ h.front := fun hmem => by
    rcases h.mem_front hmem with hc | hc
    · exact absurd hc (by decide)
    · exact absurd hc (by decide)
  have hgap : '{' ∉ h.brace.gap := fun hmem => absurd (h.brace.gap_blank _ hmem) (by decide)
  constructor
  · rw [h.text_eq, h.brace.onHeader_eq, List.count_append, List.count_append,
      List.count_eq_zero.mpr hfront, List.count_eq_zero.mpr hgap]
    cases h.brace <;> rfl
  · exact List.count_eq_zero.mpr (h.notMem_text (by decide) (by decide) (by decide))

theorem Header.contains_text (h : Header) : h.text.contains '{' = !h.brace.mark.isEmpty := by
  have hcount := h.count_text.1
  rw [List.contains_eq_mem]
  cases hm : h.brace.mark with
  | nil =>
      rw [hm] at hcount
      exact decide_eq_false (List.count_eq_zero.mp hcount)
  | cons c cs =>
      rw [hm] at hcount
      exact decide_eq_true (List.count_pos_iff.mp (by rw [hcount]; exact Nat.succ_pos _))

theorem Header.newline_notMem_text (h : Header) : '\n' ∉ h.text := by
  rw [h.text_eq, List.mem_append, not_or]
  constructor
  · intro hmem
    rcases h.mem_front hmem with hc | hc
    · exact absurd hc (by decide)
    · exact absurd hc (by decide)
  · cases h.brace with
    | behind gap => simpa [Brace.onHeader] using gap.one_line
    | below m => exact List.not_mem_nil

theorem Header.newline_notMem_lines (h : Header) : ∀ line ∈ h.lines, '\n' ∉ line := by
  intro line hline
  rcases List.mem_cons.mp hline with rfl | hline
  · exact h.margins.notMem_around h.newline_notMem_text
  · generalize h.brace = brace at hline
    cases brace with
    | behind gap => cases hline
    | below m =>
        obtain rfl := List.mem_singleton.mp hline
        exact m.notMem_around (by decide)

theorem Header.render_entry (h : Header) : h.entry.render = h.digest := by
  obtain ⟨margins, kind, name, brace, hnew⟩ := h
  cases kind with
  | interface => exact (List.append_nil _).symm
  | «class» base interfaces =>
      cases base <;> cases interfaces <;> exact List.append_assoc _ _ _

end CodeBrief.Java
