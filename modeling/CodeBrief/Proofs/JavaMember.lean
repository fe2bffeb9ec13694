import CodeBrief.Proofs.JavaLine

/-!
# The lines of members, read back

Lines of members begin alike, with a modifier and the words of a signature, so
what holds of fields and methods is said once about `declared`: it is no header,
it has a modifier of members, and its words are not words of control flow. The
results are `member?_fieldText` and `member?_methodText`.
-/

namespace CodeBrief.Java

open Text

/-- How lines of members begin: a modifier and the words of a signature. -/
def declared (modifier : List Char) (ts : List TypeName) : List Char :=
  join [' '] (modifier :: ts.map TypeName.text)

theorem fieldText_eq (type : TypeName) (name : Name) :
    fieldText type name = declared "private".toList [type, name.asType] ++ [';'] :=
  rfl

theorem methodText_eq (result : Option TypeName) (name : Name) (params : Params) :
    methodText result name params =
      declared "public".toList (result.toList ++ [name.asType]) ++
        '(' :: (params.text ++ ')' :: [' ', '{']) := by
  cases result <;> rfl

theorem hasControlWord_join {ws : List (List Char)} (h : ∀ w ∈ ws, IsWord w ∧ w ∉ controlWords) :
    hasControlWord (join [' '] ws) = false := by
  induction ws with
  | nil => rfl
  | cons w ws ih =>
      have hw := h w List.mem_cons_self
      cases ws with
      | nil => exact hasControlWord_word hw.1 hw.2
      | cons v ws =>
          rw [join, List.append_assoc, List.singleton_append,
            hasControlWord_append_cons (by decide), hasControlWord_word hw.1 hw.2, ih fun u hu => h u (List.mem_cons_of_mem w hu)]
          rfl

section Declared

variable {modifier rest : List Char} {ts : List TypeName} {c : Char}

theorem declared_cons (hts : ts ≠ []) :
    declared modifier ts ++ rest =
      modifier ++ ' ' :: (join [' '] (ts.map TypeName.text) ++ rest) := by
  rw [declared, join_append (by simpa using hts), List.singleton_append]

variable (hm : modifier ∈ keywords ["public", "private"])

include hm

theorem isWord_modifier : IsWord modifier := by
  have hall : ∀ m ∈ keywords ["public", "private"], IsWord m := by decide
  exact hall modifier hm

theorem isWord_declared :
    ∀ w ∈ modifier :: ts.map TypeName.text, IsWord w := by
  intro w hw
  rcases List.mem_cons.mp hw with rfl | hw
  · exact isWord_modifier hm
  · obtain ⟨t, _, rfl⟩ := List.mem_map.mp hw
    exact t.isWord

theorem notMem_declared (hc : isWord c = false) (hs : c ≠ ' ') :
    c ∉ declared modifier ts := by
  intro h
  rcases mem_join h with h | ⟨w, hw, h⟩
  · exact hs (List.mem_singleton.mp h)
  · exact (isWord_declared hm w hw).notMem hc h

/-- No keyword of a type stands in a signature. -/
theorem keyword_notMem_declared {k : List Char} (hk : k ∈ keywords ["class", "interface"]) :
    k ∉ modifier :: ts.map TypeName.text := by
  have hall : ∀ k ∈ keywords ["class", "interface"],
      k ∉ keywords ["public", "private"] ∧ k ∈ reserved ∧ k ∉ primitives := by decide
  intro h
  rcases List.mem_cons.mp h with rfl | h
  · exact (hall _ hk).1 hm
  · obtain ⟨t, _, rfl⟩ := List.mem_map.mp h
    have hkeyword : ∀ w ∈ [t.text], w ∈ reserved ∧ w ∉ primitives := by simpa using (hall _ hk).2
    exact t.notMem hkeyword List.mem_cons_self

theorem header?_declared (hc : c ∈ [';', '(']) :
    header? (declared modifier ts ++ c :: rest) = none := by
  obtain ⟨hblank, hclass, hinterface⟩ : isBlank c = false ∧
      (c ∉ "class".toList ∧ ∀ m ∈ classModifiers, c ∉ m) ∧
        (c ∉ "interface".toList ∧ ∀ m ∈ interfaceModifiers, c ∉ m) := by
    simp only [List.mem_cons, List.not_mem_nil, or_false] at hc
    rcases hc with rfl | rfl <;> decide
  have hnoClass : className? (declared modifier ts ++ c :: rest) = none :=
    nameAfter?_skipModifiers_eq_none (List.cons_ne_nil _ _) (isWord_declared hm)
      (keyword_notMem_declared hm (by decide)) hblank (by decide) hclass _
  have hnoInterface : interfaceName? (declared modifier ts ++ c :: rest) = none :=
    nameAfter?_skipModifiers_eq_none (List.cons_ne_nil _ _) (isWord_declared hm)
      (keyword_notMem_declared hm (by decide)) hblank (by decide) hinterface _
  rw [header?, hnoClass, hnoInterface]
  rfl

theorem hasControlWord_declared (hc : isWord c = false) :
    hasControlWord (declared modifier ts ++ c :: rest) = hasControlWord rest := by
  have hmodifier : ∀ m ∈ keywords ["public", "private"], m ∉ controlWords := by decide
  have hjoin : hasControlWord (declared modifier ts) = false := by
    refine hasControlWord_join fun w hw => ⟨isWord_declared hm w hw, ?_⟩
    rcases List.mem_cons.mp hw with rfl | hw
    · exact hmodifier _ hm
    · obtain ⟨t, _, rfl⟩ := List.mem_map.mp hw
      exact t.notMem controlWords_reserved
  rw [hasControlWord_append_cons hc, hjoin, Bool.false_or]

theorem hasMemberModifier_declared (hts : ts ≠ []) :
    hasMemberModifier (declared modifier ts ++ rest) = true := by
  have hmodifier : ∀ m ∈ keywords ["public", "private"], m ∈ memberModifiers := by decide
  rw [declared_cons hts, hasMemberModifier,
    words_append (isWord_modifier hm) (endsWord_cons (by decide)), List.any_cons]
  simp [hmodifier modifier hm, show isBlank ' ' = true from by decide]

/-- The beginning of a line of a member, letter by letter. -/
theorem declared_front (hts : ts ≠ []) (rest : List Char) :
    ∃ cs, declared modifier ts ++ rest = 'p' :: 'u' :: cs ∨
      declared modifier ts ++ rest = 'p' :: 'r' :: 'i' :: cs := by
  have hall : modifier = "public".toList ∨ modifier = "private".toList := by
    simpa [keywords] using hm
  rw [declared_cons hts]
  rcases hall with rfl | rfl
  · exact ⟨_, .inl rfl⟩
  · exact ⟨_, .inr rfl⟩

theorem codeLine_declared (hts : ts ≠ []) (hs : c ∉ ['/', '*', ' '])
    (hlast : ∀ d ∈ (c :: rest).getLast?, isBlank d = false)
    (hrest : occursIn ['/', '*'] rest = false) : CodeLine (declared modifier ts ++ c :: rest) := by
  simp only [List.mem_cons, List.not_mem_nil, or_false, not_or] at hs
  have hlast' : ∀ d ∈ (declared modifier ts ++ c :: rest).getLast?, isBlank d = false := by
    rw [List.getLast?_append, List.getLast?_cons, Option.some_or, ← List.getLast?_cons]
    exact hlast
  have hstar : '*' ∉ declared modifier ts := notMem_declared hm (by decide) (by decide)
  have hdeclared : occursIn ['/', '*'] (declared modifier ts) = false :=
    occursIn_of_notMem (by simp) hstar
  have hcomment : occursIn ['/', '*'] (declared modifier ts ++ c :: rest) = false := by
    rw [occursIn_append_cons (List.cons_ne_nil _ _) (by simp [hs]), hrest, hdeclared]
    rfl
  obtain ⟨cs, h | h⟩ := declared_front hm hts (c :: rest)
  all_goals
    rw [h] at hlast' hcomment ⊢
    exact ⟨⟨List.cons_ne_nil _ _, by rintro d ⟨⟩; decide, hlast'⟩, hcomment, rfl, rfl⟩

end Declared

/-! ## Fields -/

theorem afterType_append {w rest : List Char} (hw : IsWord w) :
    afterType (w ++ ' ' :: rest) = [' ' :: rest] := by
  have hdrop : (w ++ ' ' :: rest).dropWhile (fun c => isWord c || c == '.') = ' ' :: rest := by
    refine dropWhile_append_eq (fun c hc => ?_) ?_
    · rw [hw.all c hc, Bool.true_or]
    · rintro d ⟨⟩
      decide
  obtain ⟨c, cs, rfl⟩ := List.exists_cons_of_ne_nil hw.ne_nil
  rw [List.cons_append] at hdrop ⊢
  simp only [afterType, hdrop, hw.all c List.mem_cons_self, Bool.true_or, if_true]
  rfl

theorem typeAndName?_append {t n rest : List Char} (ht : IsWord t) (hn : IsWord n)
    (h : EndsWord rest) : typeAndName? (t ++ ' ' :: (n ++ rest)) = some (t, n) := by
  have hblank : afterBlanks? (' ' :: (n ++ rest)) = some (n ++ rest) :=
    afterBlanks?_cons (by decide) hn.head_notBlank
  have hlength : (t ++ ' ' :: (n ++ rest)).length - (' ' :: (n ++ rest)).length = t.length := by
    rw [List.length_append, Nat.add_sub_cancel]
  rw [typeAndName?, afterType_append ht, firstM_eq_findSome?, List.findSome?_cons, typedName?,
    hblank, Option.bind_some, word?_append hn h, hlength, List.take_left]
  rfl

theorem withoutModifiers_append {ms : List (List Char)} {w rest : List Char} {c : Char}
    (hw : IsWord w) (hc : ∀ m ∈ ms, c ∉ m) (h : w ∉ ms) (fuel : Nat) :
    withoutModifiers ms fuel (w ++ c :: rest) = [w ++ c :: rest] := by
  cases fuel with
  | zero => rfl
  | succ fuel => rw [withoutModifiers, afterModifier?_append hw.notBlank hc, if_neg h]

theorem fieldInfo_fieldText (type : TypeName) (name : Name) :
    fieldInfo (fieldText type name) = some (type.text, name.text) := by
  have hspace : ∀ m ∈ fieldModifiers, ' ' ∉ m := by decide
  have hprivate : IsWord "private".toList := isWord_modifier (by decide)
  have htext : fieldText type name =
      "private".toList ++ ' ' :: (type.text ++ ' ' :: (name.text ++ [';'])) := by
    simp [fieldText, join]
  have hafter : afterModifier? fieldModifiers (fieldText type name) =
      some (type.text ++ ' ' :: (name.text ++ [';'])) := by
    rw [htext, afterModifier?_append hprivate.notBlank hspace, if_pos (by decide),
      afterBlanks?_cons (by decide) type.isWord.head_notBlank]
  obtain ⟨fuel, hfuel⟩ : ∃ fuel, (fieldText type name).length = fuel + 1 := by
    rw [htext]
    exact ⟨_, rfl⟩
  rw [fieldInfo, hfuel, withoutModifiers, hafter]
  simp only [withoutModifiers_append type.isWord hspace (type.notMem fieldModifiers_reserved)]
  rw [firstM_eq_findSome?, List.singleton_append, List.findSome?_cons,
    typeAndName?_append type.isWord name.isWord (endsWord_cons (by decide))]

theorem codeLine_fieldText (type : TypeName) (name : Name) : CodeLine (fieldText type name) := by
  rw [fieldText_eq]
  refine codeLine_declared (by decide) (List.cons_ne_nil _ _) (by decide) ?_ (by decide)
  rintro _ ⟨⟩
  decide

theorem header?_fieldText (type : TypeName) (name : Name) :
    header? (fieldText type name) = none := by
  rw [fieldText_eq]
  exact header?_declared (by decide) (by decide)

theorem notMem_fieldText (type : TypeName) (name : Name) {c : Char} (hc : isWord c = false)
    (hs : c ≠ ' ') (hend : c ≠ ';') : c ∉ fieldText type name := by
  rw [fieldText_eq, List.mem_append, not_or]
  exact ⟨notMem_declared (by decide) hc hs, by simpa using hend⟩

theorem braceBalance_fieldText (type : TypeName) (name : Name) :
    braceBalance (fieldText type name) = 0 :=
  braceBalance_of_notMem (notMem_fieldText type name (by decide) (by decide) (by decide))
    (notMem_fieldText type name (by decide) (by decide) (by decide))

theorem member?_fieldText (owner : List Char) (type : TypeName) (name : Name) :
    member? owner (fieldText type name) = some (.field name.text type.text) := by
  have hm : "private".toList ∈ keywords ["public", "private"] := by decide
  have hopen : '(' ∉ fieldText type name :=
    notMem_fieldText type name (by decide) (by decide) (by decide)
  have hbrace : '{' ∉ fieldText type name :=
    notMem_fieldText type name (by decide) (by decide) (by decide)
  have hmethod : isMethod (fieldText type name) = false := by
    rw [isMethod, List.contains_eq_mem, decide_eq_false hopen]
    rfl
  have hfield : isField (fieldText type name) = true := by
    have hsemi : ';' ∈ fieldText type name := by simp [fieldText]
    have hcontrol : hasControlWord (fieldText type name) = false := by
      rw [fieldText_eq, hasControlWord_declared hm (by decide)]
      rfl
    have hmodifier : hasMemberModifier (fieldText type name) = true := by
      rw [fieldText_eq, hasMemberModifier_declared hm (List.cons_ne_nil _ _)]
    simp only [isField, List.contains_eq_mem]
    rw [decide_eq_false hopen, decide_eq_false hbrace, decide_eq_true hsemi, hcontrol, hmodifier]
    rfl
  have hannotation : withoutAnnotations (fieldText type name) = fieldText type name :=
    withoutAnnotations_cons (by decide)
  simp [member?, hannotation, hmethod, hfield, fieldInfo_fieldText]

/-! ## Methods -/

section Methods

variable {w rest : List Char} {c : Char}

theorem methodInfo_cons (hc : isWord c = false) : methodInfo (c :: rest) = methodInfo rest := by
  rw [methodInfo, words_cons hc, methodInfo]

/-- A word with another behind it has no parameters. -/
theorem methodInfo_skip {v : List Char} (hw : IsWord w) (hv : IsWord v) :
    methodInfo (w ++ ' ' :: (v ++ rest)) = methodInfo (v ++ rest) := by
  have hdrop : (' ' :: (v ++ rest)).dropWhile isBlank = v ++ rest :=
    dropWhile_append_eq (a := [' ']) (List.all_eq_true.mp (by decide)) hv.head_notBlank
  have hrest : methodInfo (' ' :: (v ++ rest)) = methodInfo (v ++ rest) :=
    methodInfo_cons (by decide)
  refine (firstM_words_append hw (endsWord_cons (by decide)) ?_).trans hrest
  obtain ⟨x, xs, rfl⟩ := List.exists_cons_of_ne_nil hv.ne_nil
  have hx : x ≠ '(' := fun h => (hv.notMem (c := '(') (by decide)) (h ▸ List.mem_cons_self)
  simp only [hdrop]
  split
  · next hinner => exact absurd (List.cons.inj hinner).1 hx
  · rfl

theorem methodInfo_append {p : List Char} (hw : IsWord w) (hp : ')' ∉ p) :
    methodInfo (w ++ '(' :: (p ++ ')' :: rest)) = some (w, shownParameters p) := by
  have htake : (p ++ ')' :: rest).takeWhile (· ≠ ')') = p := by
    refine takeWhile_append_eq (fun c hc => ?_) (by rintro d ⟨⟩; rfl)
    exact decide_eq_true fun h => hp (h ▸ hc)
  have hclose : (p ++ ')' :: rest).contains ')' = true := by simp
  have hparen : ('(' :: (p ++ ')' :: rest)).dropWhile isBlank = '(' :: (p ++ ')' :: rest) := by
    rw [List.dropWhile_cons_of_neg (by decide)]
  rw [methodInfo, words_append hw (endsWord_cons (by decide)), firstM_eq_findSome?,
    List.findSome?_cons]
  simp only [hparen, hclose, htake, if_true]

/-- Of a signature, the last word has the parameters. -/
theorem methodInfo_join {ws : List (List Char)} {n p : List Char} (hws : ∀ w ∈ ws, IsWord w)
    (hn : IsWord n) (hp : ')' ∉ p) :
    methodInfo (join [' '] (ws ++ [n]) ++ '(' :: (p ++ ')' :: rest)) =
      some (n, shownParameters p) := by
  induction ws with
  | nil => exact methodInfo_append hn hp
  | cons w ws ih =>
      have hne : ws ++ [n] ≠ [] := by simp
      obtain ⟨v, hv, r, hr⟩ := join_eq_append hne [' '] ('(' :: (p ++ ')' :: rest))
      have hword : IsWord v := by
        rcases List.mem_append.mp hv with hv | hv
        · exact hws v (List.mem_cons_of_mem w hv)
        · exact List.mem_singleton.mp hv ▸ hn
      have hrest := ih fun u hu => hws u (List.mem_cons_of_mem w hu)
      rw [List.cons_append, join_append hne, List.singleton_append]
      rw [hr] at hrest ⊢
      rw [methodInfo_skip (hws w List.mem_cons_self) hword, hrest]

end Methods

theorem codeLine_methodText (result : Option TypeName) (name : Name) (params : Params) :
    CodeLine (methodText result name params) := by
  have hcomment : occursIn ['/', '*'] (params.text ++ ')' :: [' ', '{']) = false := by
    rw [occursIn_append_cons (List.cons_ne_nil _ _) (by decide), params.no_comment]
    decide
  rw [methodText_eq]
  refine codeLine_declared (by decide) (by simp) (by decide) ?_ hcomment
  intro d hd
  have hend : '(' :: (params.text ++ ')' :: [' ', '{']) =
      ('(' :: params.text ++ [')', ' ']) ++ ['{'] := by
    simp
  rw [hend, List.getLast?_concat] at hd
  cases hd
  decide

theorem header?_methodText (result : Option TypeName) (name : Name) (params : Params) :
    header? (methodText result name params) = none := by
  rw [methodText_eq]
  exact header?_declared (by decide) (by decide)

theorem braceBalance_methodText (result : Option TypeName) (name : Name) (params : Params) :
    braceBalance (methodText result name params) = 1 := by
  have hm : "public".toList ∈ keywords ["public", "private"] := by decide
  have hsplit : '(' :: (params.text ++ ')' :: [' ', '{']) =
      ['('] ++ params.text ++ [')', ' ', '{'] := by
    simp
  have hdeclared (ts : List TypeName) : braceBalance (declared "public".toList ts) = 0 :=
    braceBalance_of_notMem (notMem_declared hm (by decide) (by decide))
      (notMem_declared hm (by decide) (by decide))
  have hparams : braceBalance params.text = 0 :=
    braceBalance_of_notMem params.no_brace.1 params.no_brace.2
  rw [methodText_eq, hsplit, braceBalance_append, braceBalance_append, braceBalance_append,
    hdeclared, hparams]
  rfl

theorem newline_notMem_methodText (result : Option TypeName) (name : Name) (params : Params) :
    '\n' ∉ methodText result name params := by
  rw [methodText_eq, List.mem_append, not_or]
  exact ⟨notMem_declared (by decide) (by decide) (by decide), by simp [params.one_line]⟩

theorem member?_methodText (owner : List Char) (result : Option TypeName) (name : Name)
    (params : Params) :
    member? owner (methodText result name params) =
      some (if name.text = owner then .constructor name.text params.shown
        else .method name.text params.shown) := by
  have hm : "public".toList ∈ keywords ["public", "private"] := by decide
  have htext := methodText_eq result name params
  have hequals : '=' ∉ methodText result name params := by
    rw [htext, List.mem_append, not_or]
    exact ⟨notMem_declared hm (by decide) (by decide), by simp [params.no_equals]⟩
  have hopen : '(' ∈ methodText result name params := by simp [htext]
  have hclose : ')' ∈ methodText result name params := by simp [htext]
  have hcontrol : hasControlWord (methodText result name params) = false := by
    rw [htext, hasControlWord_declared hm (by decide), hasControlWord_append_cons (by decide),
      params.no_control]
    decide
  have hmodifier : hasMemberModifier (methodText result name params) = true := by
    rw [htext, hasMemberModifier_declared hm (by simp)]
  have hfront : ∃ cs, methodText result name params = 'p' :: 'u' :: cs := by
    rw [htext, declared_cons (by simp)]
    exact ⟨_, rfl⟩
  have hsynchronized : opensSynchronized (methodText result name params) = false := by
    obtain ⟨cs, h⟩ := hfront
    rw [h]
    rfl
  have hmethod : isMethod (methodText result name params) = true := by
    simp only [isMethod, List.contains_eq_mem]
    rw [decide_eq_true hopen, decide_eq_true hclose, decide_eq_false hequals, hcontrol, hmodifier,
      hsynchronized]
    rfl
  have hannotation : withoutAnnotations (methodText result name params) =
      methodText result name params := by
    obtain ⟨cs, h⟩ := hfront
    rw [h]
    exact withoutAnnotations_cons (by decide)
  have hinfo : methodInfo (methodText result name params) = some (name.text, params.shown) := by
    have hwords : ∀ w ∈ "public".toList :: (result.map TypeName.text).toList, IsWord w := by
      intro w hw
      rcases List.mem_cons.mp hw with rfl | hw
      · exact isWord_modifier hm
      · cases result with
        | none => cases hw
        | some t => exact List.mem_singleton.mp hw ▸ t.isWord
    exact methodInfo_join hwords name.isWord params.no_close
  simp [member?, hannotation, hmethod, hinfo]

end CodeBrief.Java
