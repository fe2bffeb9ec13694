import CodeBrief.Proofs.JavaComments
import CodeBrief.Proofs.JavaTokens

/-!
# Class headers with type parameters

A class header as it can really be written: modifiers, a name, type parameters with
or without bounds, a base and interfaces, each with or without type arguments, and
any blanks between the tokens. What is told of such a line is worked out token by
token (`step_classHeader`). Three things are told wrong. The searches for clauses do
not know where a clause can stand, so the first `extends` counts, be it that of a
bound or of a wildcard. A list of interfaces breaks off at the first type argument.
And a name that ends in `new` in front of a space is taken for the keyword, and the
line is no header. Nothing else goes wrong: without these three the header is told
as it is (`entriesAt_classHeader_iff`).
-/

namespace CodeBrief.Java

open Text

/-! ## Headers -/

/-- The marks that type arguments are made of. -/
def argumentMarks : List Char := ['<', '>', ',', '?', '.', '&', '[', ']']

def Token.InArguments : Token → Prop
  | .word w => w ≠ "implements".toList
  | .mark c => c ∈ argumentMarks

instance : (t : Token) → Decidable t.InArguments
  | .word w => inferInstanceAs (Decidable (w ≠ "implements".toList))
  | .mark c => inferInstanceAs (Decidable (c ∈ argumentMarks))

/-- A type with what stands behind its name, which is nothing or starts with an angle bracket. -/
structure TypeUse where
  name : Name
  arguments : List Token
  opens : ∀ t ∈ arguments.head?, t = .mark '<'
  inside : ∀ t ∈ arguments, t.InArguments

structure TypeParameter where
  name : Name
  bound : Option TypeUse

/-- A modifier of a class and the blanks behind it. -/
structure Modifier where
  text : List Char
  gap : List Char
  known : text ∈ classModifiers
  blank : ∀ c ∈ gap, isBlank c = true
  apart : gap ≠ []

structure ClassHeader where
  modifiers : List Modifier
  name : Name
  parameters : List TypeParameter
  base : Option TypeUse
  interfaces : List TypeUse

def TypeUse.tokens (t : TypeUse) : List Token :=
  .word t.name.text :: t.arguments

def TypeParameter.tokens (p : TypeParameter) : List Token :=
  .word p.name.text ::
    match p.bound with
    | none => []
    | some b => .word "extends".toList :: b.tokens

/-- Rows of tokens with commas between them. -/
def separated : List (List Token) → List Token
  | [] => []
  | [ts] => ts
  | ts :: us :: rest => ts ++ .mark ',' :: separated (us :: rest)

def parameterTokens : List TypeParameter → List Token
  | [] => []
  | p :: ps => .mark '<' :: (separated ((p :: ps).map TypeParameter.tokens) ++ [.mark '>'])

def baseTokens : Option TypeUse → List Token
  | none => []
  | some t => .word "extends".toList :: t.tokens

def interfaceTokens : List TypeUse → List Token
  | [] => []
  | t :: ts => .word "implements".toList :: separated ((t :: ts).map TypeUse.tokens)

/-- The tokens of a header behind its modifiers. -/
def ClassHeader.tokens (h : ClassHeader) : List Token :=
  .word "class".toList :: .word h.name.text :: (parameterTokens h.parameters ++
    (baseTokens h.base ++ (interfaceTokens h.interfaces ++ [.mark '{'])))

def modifierText (modifiers : List Modifier) : List Char :=
  modifiers.flatMap fun m => m.text ++ m.gap

/-- A text is the header, with any blanks between its tokens. -/
def ClassHeader.Written (h : ClassHeader) (text : List Char) : Prop :=
  ∃ ps, ps.map Prod.fst = h.tokens ∧ Spaced ps ∧ text = modifierText h.modifiers ++ spell ps

/-- The name of the first bound of a type parameter. -/
def firstBound (parameters : List TypeParameter) : Option (List Char) :=
  parameters.findSome? fun p => p.bound.map fun b => b.name.text

/-- The name that is told as the base: that of the first bound, or the base, or the first bound of a
wildcard among the arguments of the interfaces. -/
def ClassHeader.toldBase (h : ClassHeader) : Option (List Char) :=
  (firstBound h.parameters).or
    ((h.base.map fun b => b.name.text).or (h.interfaces.findSome? fun t => extendedIn t.arguments))

/-- The names up to the first one with arguments. -/
def toldInterfaces : List TypeUse → List (List Char)
  | [] => []
  | t :: rest => t.name.text :: if t.arguments = [] then toldInterfaces rest else []

/-! ## The tokens of a header -/

theorem forall_mem_separated {P : Token → Prop} (hcomma : P (.mark ',')) {rows : List (List Token)}
    (hrows : ∀ ts ∈ rows, ∀ t ∈ ts, P t) : ∀ t ∈ separated rows, P t := by
  match rows with
  | [] => exact nofun
  | [ts] => exact hrows ts List.mem_cons_self
  | ts :: us :: rest =>
      have hrest : ∀ t ∈ separated (us :: rest), P t :=
        forall_mem_separated hcomma fun vs hvs => hrows vs (List.mem_cons_of_mem ts hvs)
      rw [separated, List.forall_mem_append, List.forall_mem_cons]
      exact ⟨hrows ts List.mem_cons_self, hcomma, hrest⟩

/-- What holds of names, of `extends` and of all that arguments are made of holds of every token
between the name of a class and its interfaces, and of those between the interfaces. -/
theorem forall_mem_parts {P : Token → Prop} (hname : ∀ n : Name, P (.word n.text))
    (hextends : P (.word "extends".toList)) (hmark : ∀ c ∈ argumentMarks, P (.mark c))
    (harguments : ∀ t : TypeUse, ∀ u ∈ t.arguments, P u) (h : ClassHeader) :
    (∀ t ∈ parameterTokens h.parameters ++ baseTokens h.base, P t) ∧
      ∀ t ∈ separated (h.interfaces.map TypeUse.tokens), P t := by
  have hcomma : P (.mark ',') := hmark ',' (by decide)
  have huse (t : TypeUse) : ∀ u ∈ t.tokens, P u :=
    List.forall_mem_cons.mpr ⟨hname t.name, harguments t⟩
  have hbound (b : Option TypeUse) : ∀ t ∈ baseTokens b, P t := by
    cases b with
    | none => exact nofun
    | some b => exact List.forall_mem_cons.mpr ⟨hextends, huse b⟩
  have hparameter (p : TypeParameter) : ∀ t ∈ p.tokens, P t :=
    List.forall_mem_cons.mpr ⟨hname p.name, hbound p.bound⟩
  have hparameters (ps : List TypeParameter) : ∀ t ∈ parameterTokens ps, P t := by
    cases ps with
    | nil => exact nofun
    | cons p ps =>
        rw [parameterTokens, List.forall_mem_cons, List.forall_mem_append]
        refine ⟨hmark '<' (by decide), ?_, List.forall_mem_singleton.mpr (hmark '>' (by decide))⟩
        refine forall_mem_separated hcomma fun ts hts => ?_
        obtain ⟨q, -, rfl⟩ := List.mem_map.mp hts
        exact hparameter q
  refine ⟨List.forall_mem_append.mpr ⟨hparameters h.parameters, hbound h.base⟩, ?_⟩
  refine forall_mem_separated hcomma fun ts hts => ?_
  obtain ⟨t, -, rfl⟩ := List.mem_map.mp hts
  exact huse t

theorem extendedIn_separated (rows : List (List Token)) (c : Char) (us : List Token) :
    extendedIn (separated rows ++ .mark c :: us) = (rows.findSome? extendedIn).or (extendedIn us) := by
  match rows with
  | [] => exact extendedIn_cons_of_ne (by simp)
  | [ts] => simp [separated, extendedIn_append_mark]
  | ts :: us' :: rest =>
      rw [separated, List.append_assoc, List.cons_append, extendedIn_append_mark,
        extendedIn_separated (us' :: rest) c us, ← Option.or_assoc, List.findSome?_cons (a := ts)]
      cases extendedIn ts <;> rfl

variable {h : ClassHeader}

theorem TypeUse.extendedIn_tokens (t : TypeUse) : extendedIn t.tokens = extendedIn t.arguments :=
  extendedIn_cons_of_ne fun heq => t.name.ne (by decide) (Token.word.inj heq)

theorem TypeParameter.extendedIn_tokens (p : TypeParameter) :
    extendedIn p.tokens = p.bound.map fun b => b.name.text := by
  have hname : Token.word p.name.text ≠ .word "extends".toList :=
    fun heq => p.name.ne (by decide) (Token.word.inj heq)
  rw [TypeParameter.tokens, extendedIn_cons_of_ne hname]
  cases p.bound with
  | none => rfl
  | some b =>
      show (if _ then _ else none).or _ = _
      rw [if_pos rfl]
      rfl

theorem extendedIn_parameterTokens (ps : List TypeParameter) (us : List Token) :
    extendedIn (parameterTokens ps ++ us) =
      (firstBound ps).or (extendedIn us) := by
  cases ps with
  | nil => rfl
  | cons p ps =>
      rw [parameterTokens, List.cons_append, List.append_assoc, extendedIn_cons_of_ne (by simp),
        List.singleton_append, extendedIn_separated, List.findSome?_map]
      show (List.findSome? (fun p => extendedIn p.tokens) (p :: ps)).or _ = _
      simp only [TypeParameter.extendedIn_tokens, firstBound]

theorem extendedIn_baseTokens (b : Option TypeUse) (us : List Token) :
    extendedIn (baseTokens b ++ us) = (b.map fun b => b.name.text).or (extendedIn us) := by
  cases b with
  | none => rfl
  | some b =>
      show (if _ then _ else none).or _ = _
      rw [if_pos rfl]
      rfl

theorem extendedIn_interfaceTokens (ts : List TypeUse) :
    extendedIn (interfaceTokens ts ++ [.mark '{']) =
      ts.findSome? fun t => extendedIn t.arguments := by
  cases ts with
  | nil => rfl
  | cons t ts =>
      rw [interfaceTokens, List.cons_append, extendedIn_cons_of_ne (by decide),
        extendedIn_separated, List.findSome?_map]
      show (List.findSome? (fun t => extendedIn t.tokens) (t :: ts)).or none = _
      rw [Option.or_none]
      simp only [TypeUse.extendedIn_tokens]

/-- What the tokens of a header extend: the base is looked for where a clause is, and everything
else that says `extends` is in the way. -/
theorem ClassHeader.extendedIn_tokens (h : ClassHeader) : extendedIn h.tokens = h.toldBase := by
  have hname : Token.word h.name.text ≠ .word "extends".toList :=
    fun heq => h.name.ne (by decide) (Token.word.inj heq)
  rw [ClassHeader.tokens, extendedIn_cons_of_ne (by decide), extendedIn_cons_of_ne hname,
    extendedIn_parameterTokens, extendedIn_baseTokens, extendedIn_interfaceTokens]
  rfl

/-- A list of interfaces in front of a mark that is no comma. -/
theorem listing_interfaces (ts : List TypeUse) (hne : ts ≠ []) {c : Char} (hc : c ≠ ',') :
    IsListing (separated (ts.map TypeUse.tokens) ++ [.mark c]) ∧
      listedIn (separated (ts.map TypeUse.tokens) ++ [.mark c]) = toldInterfaces ts := by
  -- arguments start with a bracket, which ends the list
  have hopened (t : TypeUse) (us : List Token) (harguments : t.arguments ≠ []) :
      IsListing (t.tokens ++ us) ∧ listedIn (t.tokens ++ us) = [t.name.text] := by
    obtain ⟨u, rest, hrest⟩ := List.exists_cons_of_ne_nil harguments
    have hopens := t.opens u (by rw [hrest]; rfl)
    rw [TypeUse.tokens, hrest, hopens]
    exact ⟨fun heq => absurd heq (by decide), rfl⟩
  match ts with
  | [t] =>
      rw [List.map_singleton, separated, toldInterfaces, toldInterfaces, ite_self]
      by_cases harguments : t.arguments = []
      · rw [TypeUse.tokens, harguments]
        refine ⟨fun heq => absurd heq hc, ?_⟩
        show t.name.text :: (if c = ',' then _ else _) = _
        rw [if_neg hc]
      · exact hopened t _ harguments
  | t :: u :: rest =>
      have hmore := listing_interfaces (u :: rest) (List.cons_ne_nil u rest) hc
      rw [List.map_cons, List.map_cons, separated, List.append_assoc, List.cons_append,
        toldInterfaces]
      by_cases harguments : t.arguments = []
      · rw [TypeUse.tokens, harguments, if_pos rfl, ← hmore.2]
        exact ⟨fun _ => hmore.1, rfl⟩
      · rw [if_neg harguments]
        exact hopened t _ harguments

theorem ClassHeader.front_ne_implements (h : ClassHeader) :
    ∀ t ∈ .word "class".toList :: .word h.name.text ::
        (parameterTokens h.parameters ++ baseTokens h.base), t ≠ .word "implements".toList := by
  have hname (n : Name) : Token.word n.text ≠ .word "implements".toList :=
    fun heq => n.ne (by decide) (Token.word.inj heq)
  have hparts := (forall_mem_parts (P := (· ≠ .word "implements".toList)) hname (by decide)
    (fun c _ => by simp) (fun t u hu => by rintro rfl; exact t.inside _ hu rfl) h).1
  rw [List.forall_mem_cons, List.forall_mem_cons]
  exact ⟨by decide, hname h.name, hparts⟩

/-- The marks of a header. -/
theorem ClassHeader.mark_mem_tokens (h : ClassHeader) {c : Char} (hc : .mark c ∈ h.tokens) :
    c ∈ '{' :: argumentMarks := by
  have hparts := forall_mem_parts (P := fun t => ∀ c, t = .mark c → c ∈ '{' :: argumentMarks)
    (fun n c heq => by cases heq) (fun c heq => by cases heq)
    (fun d hd c heq => Token.mark.inj heq ▸ List.mem_cons_of_mem _ hd)
    (fun t u hu c heq => List.mem_cons_of_mem _ (heq ▸ t.inside u hu : Token.InArguments (.mark c))) h
  have hinterfaces : .mark c ∈ interfaceTokens h.interfaces → c ∈ '{' :: argumentMarks := by
    cases hinterfaces : h.interfaces with
    | nil => exact nofun
    | cons t ts =>
        rw [hinterfaces] at hparts
        intro hc
        rcases List.mem_cons.mp hc with hc | hc
        · cases hc
        · exact hparts.2 _ hc c rfl
  simp only [ClassHeader.tokens, List.mem_cons, List.mem_append, reduceCtorEq, false_or,
    Token.mark.injEq, List.not_mem_nil, or_false] at hc
  rcases hc with hc | hc | hc | rfl
  · exact hparts.1 _ (List.mem_append_left _ hc) c rfl
  · exact hparts.1 _ (List.mem_append_right _ hc) c rfl
  · exact hinterfaces hc
  · exact List.mem_cons_self

theorem ClassHeader.implementedNames_spell {ps : List (Token × List Char)} (hps : Spaced ps)
    (htokens : ps.map Prod.fst = h.tokens) :
    implementedNames (spell ps) = toldInterfaces h.interfaces := by
  have hsplit : ps.map Prod.fst = (.word "class".toList :: .word h.name.text ::
      (parameterTokens h.parameters ++ baseTokens h.base)) ++
        (interfaceTokens h.interfaces ++ [.mark '{']) := by
    rw [htokens, ClassHeader.tokens]
    simp
  obtain ⟨front, clause, rfl, hfront, hclause⟩ := List.map_eq_append_iff.mp hsplit
  rw [implementedNames_spell_append hps (by rw [hfront]; exact h.front_ne_implements)]
  have hspaced : Spaced clause := hps.of_append
  cases hinterfaces : h.interfaces with
  | nil =>
      rw [hinterfaces] at hclause
      have hnone : ∀ t ∈ clause.map Prod.fst, t ≠ .word "implements".toList := by
        rw [hclause]
        simp [interfaceTokens]
      have hnil : implementedNames (spell (clause ++ [])) = implementedNames (spell []) :=
        implementedNames_spell_append (by rwa [List.append_nil]) hnone
      rw [List.append_nil] at hnil
      rw [hnil]
      rfl
  | cons t ts =>
      rw [hinterfaces] at hclause
      obtain ⟨⟨k, gap⟩, rest, rfl, hk, hrest⟩ := List.map_eq_cons_iff.mp hclause
      obtain rfl : k = .word "implements".toList := hk
      have hrest : rest.map Prod.fst = separated ((t :: ts).map TypeUse.tokens) ++ [.mark '{'] := hrest
      have hlisting := listing_interfaces (t :: ts) (List.cons_ne_nil t ts) (c := '{') (by decide)
      rw [← hrest] at hlisting
      rw [Java.implementedNames_spell rfl hspaced hlisting.1, hlisting.2]

/-! ## Modifiers -/

theorem classModifiers_word : ∀ m ∈ classModifiers, m = "non-sealed".toList ∨ IsWord m := by decide

theorem classModifiers_clause :
    ∀ m ∈ classModifiers, m ≠ "extends".toList ∧ m ≠ "implements".toList := by decide

/-- Modifiers are tokens too, of which one has a hyphen in it. -/
theorem exists_modifier_tokens {ps : List (Token × List Char)} (hps : Spaced ps)
    (modifiers : List Modifier) :
    ∃ qs, Spaced (qs ++ ps) ∧ spell (qs ++ ps) = modifierText modifiers ++ spell ps ∧
      (∀ t ∈ qs.map Prod.fst, t ≠ .word "extends".toList ∧ t ≠ .word "implements".toList) ∧
      ∀ c, .mark c ∈ qs.map Prod.fst → c = '-' := by
  induction modifiers with
  | nil => exact ⟨[], hps, rfl, nofun, nofun⟩
  | cons m modifiers ih =>
      obtain ⟨qs, hspaced, hspell, hclause, hmark⟩ := ih
      have hends : EndsWord (m.gap ++ spell (qs ++ ps)) := by
        obtain ⟨b, gap, hgap⟩ := List.exists_cons_of_ne_nil m.apart
        rw [hgap]
        exact endsWord_cons (isWord_of_isBlank (m.blank b (by rw [hgap]; exact List.mem_cons_self)))
      have htext : modifierText (m :: modifiers) ++ spell ps =
          m.text ++ (m.gap ++ spell (qs ++ ps)) := by
        rw [hspell, modifierText, List.flatMap_cons]
        simp [modifierText]
      rw [htext]
      rcases classModifiers_word m.text m.known with hm | hm
      · rw [hm]
        refine ⟨(.word "non".toList, []) :: (.mark '-', []) :: (.word "sealed".toList, m.gap) :: qs,
          ⟨by decide, nofun, endsWord_cons (by decide), by decide, nofun, trivial, by decide,
            m.blank, hends, hspaced⟩,
          rfl, ?_, ?_⟩
        · simp only [List.map_cons, List.forall_mem_cons]
          exact ⟨by decide, by decide, by decide, hclause⟩
        · intro c hc
          simp only [List.map_cons, List.mem_cons, reduceCtorEq, false_or, Token.mark.injEq] at hc
          exact hc.elim id (hmark c)
      · refine ⟨(.word m.text, m.gap) :: qs, ⟨hm, m.blank, hends, hspaced⟩, rfl, ?_, ?_⟩
        · obtain ⟨hextends, himplements⟩ := classModifiers_clause m.text m.known
          simp only [List.map_cons, List.forall_mem_cons, ne_eq, Token.word.injEq]
          exact ⟨⟨hextends, himplements⟩, hclause⟩
        · intro c hc
          simp only [List.map_cons, List.mem_cons, reduceCtorEq, false_or] at hc
          exact hmark c hc

theorem length_le_modifierText (modifiers : List Modifier) :
    modifiers.length ≤ (modifierText modifiers).length := by
  induction modifiers with
  | nil => exact Nat.le_refl _
  | cons m modifiers ih =>
      have hgap := List.length_pos_iff.mpr m.apart
      rw [modifierText, List.flatMap_cons, List.length_append, List.length_append, List.length_cons]
      rw [modifierText] at ih
      omega

/-- The keyword and the name, with a gap between them. -/
theorem ClassHeader.exists_keyword {ps : List (Token × List Char)} (hps : Spaced ps)
    (htokens : ps.map Prod.fst = h.tokens) :
    ∃ gap gap' rest, ps = (.word "class".toList, gap) :: (.word h.name.text, gap') :: rest ∧
      gap ≠ [] := by
  obtain ⟨⟨k, gap⟩, ps', rfl, hk, hps'⟩ := List.map_eq_cons_iff.mp htokens
  obtain ⟨⟨n, gap'⟩, rest, rfl, hn, -⟩ := List.map_eq_cons_iff.mp hps'
  obtain rfl : k = .word "class".toList := hk
  obtain rfl : n = .word h.name.text := hn
  exact ⟨gap, gap', rest, rfl, gap_ne_nil h.name.isWord hps.2.2.1⟩

variable {text : List Char}

/-- A header starts with a modifier or with its keyword, and a blank is behind it. -/
theorem ClassHeader.Written.exists_front (hwritten : h.Written text) :
    ∃ w ∈ "class".toList :: classModifiers, ∃ b rest, isBlank b = true ∧ text = w ++ b :: rest := by
  obtain ⟨ps, htokens, hspaced, rfl⟩ := hwritten
  cases h.modifiers with
  | nil =>
      obtain ⟨gap, gap', rest, rfl, hne⟩ := ClassHeader.exists_keyword hspaced htokens
      obtain ⟨b, gap, rfl⟩ := List.exists_cons_of_ne_nil hne
      exact ⟨_, List.mem_cons_self, b, gap ++ spell ((.word h.name.text, gap') :: rest),
        hspaced.2.1 b List.mem_cons_self, rfl⟩
  | cons m modifiers =>
      obtain ⟨b, gap, hgap⟩ := List.exists_cons_of_ne_nil m.apart
      refine ⟨m.text, List.mem_cons_of_mem _ m.known, b, gap ++ (modifierText modifiers ++ spell ps),
        m.blank b (by rw [hgap]; exact List.mem_cons_self), ?_⟩
      rw [modifierText, List.flatMap_cons, hgap]
      simp [modifierText]

theorem ClassHeader.Written.ne_nil (hwritten : h.Written text) : text ≠ [] := by
  obtain ⟨w, -, b, rest, -, rfl⟩ := hwritten.exists_front
  exact List.append_ne_nil_of_right_ne_nil w (List.cons_ne_nil b rest)

theorem notBlank_of_all {w : List Char} (h : (w.all fun c => !isBlank c) = true) :
    ∀ c ∈ w, isBlank c = false := by
  intro c hc
  have hc := List.all_eq_true.mp h c hc
  rwa [Bool.not_eq_true'] at hc

theorem notBlank_of_mem_front {w : List Char} (hw : w ∈ "class".toList :: classModifiers) :
    ∀ c ∈ w, isBlank c = false := by
  have hall : ∀ w ∈ "class".toList :: classModifiers, (w.all fun c => !isBlank c) = true := by decide
  exact notBlank_of_all (hall w hw)

section Skipping

variable (ms : List (List Char)) (hms : ∀ m ∈ ms, (m.all fun c => !isBlank c) = true)
  (hclass : "class".toList ∉ ms)

include hms hclass

theorem skipModifiers_modifierText {ps : List (Token × List Char)} (hps : Spaced ps)
    (htokens : ps.map Prod.fst = h.tokens) (modifiers : List Modifier) {fuel : Nat}
    (hfuel : modifiers.length ≤ fuel) :
    skipModifiers ms fuel (modifierText modifiers ++ spell ps) =
      modifierText (modifiers.dropWhile fun m => m.text ∈ ms) ++ spell ps := by
  have hblank {b : Char} (hb : isBlank b = true) : ∀ m ∈ ms, b ∉ m := by
    intro m hm hmem
    rw [notBlank_of_all (hms m hm) b hmem] at hb
    cases hb
  induction modifiers generalizing fuel with
  | nil =>
      obtain ⟨gap, gap', rest, rfl, hne⟩ := ClassHeader.exists_keyword hps htokens
      obtain ⟨b, gap, rfl⟩ := List.exists_cons_of_ne_nil hne
      exact skipModifiers_append (notBlank_of_mem_front List.mem_cons_self)
        (hblank (hps.2.1 b List.mem_cons_self)) (.inl hclass) fuel
  | cons m modifiers ih =>
      obtain ⟨fuel, rfl⟩ : ∃ n, fuel = n + 1 := ⟨fuel - 1, by simp at hfuel; omega⟩
      obtain ⟨b, gap, hgap⟩ := List.exists_cons_of_ne_nil m.apart
      have hb : isBlank b = true := m.blank b (by rw [hgap]; exact List.mem_cons_self)
      have htext : modifierText (m :: modifiers) ++ spell ps =
          m.text ++ b :: (gap ++ (modifierText modifiers ++ spell ps)) := by
        rw [modifierText, List.flatMap_cons, hgap]
        simp [modifierText]
      have hnotBlank := notBlank_of_mem_front (List.mem_cons_of_mem _ m.known)
      by_cases hm : m.text ∈ ms
      · obtain ⟨qs, hspaced, hspell, -⟩ := exists_modifier_tokens hps modifiers
        have hafter := afterBlanks?_gap m.blank hspaced
        rw [if_neg m.apart, hgap, List.cons_append, hspell] at hafter
        rw [htext, skipModifiers, afterModifier?_append hnotBlank (hblank hb), if_pos hm, hafter,
          List.dropWhile_cons_of_pos (by simpa using hm)]
        exact ih (Nat.le_of_succ_le_succ hfuel)
      · rw [List.dropWhile_cons_of_neg (by simpa using hm), htext]
        exact skipModifiers_append hnotBlank (hblank hb) (.inl hm) (fuel + 1)

/-- Skipped modifiers leave a header with fewer of them. -/
theorem ClassHeader.Written.skipModifiers (hwritten : h.Written text) :
    { h with modifiers := h.modifiers.dropWhile fun m => m.text ∈ ms }.Written
      (skipModifiers ms text.length text) := by
  obtain ⟨ps, htokens, hspaced, rfl⟩ := hwritten
  have hlength := length_le_modifierText h.modifiers
  exact ⟨ps, htokens, hspaced, skipModifiers_modifierText ms hms hclass hspaced htokens h.modifiers
    (by rw [List.length_append]; omega)⟩

end Skipping

/-! ## What is told of a header -/

theorem ClassHeader.Written.className? (hwritten : h.Written text) :
    className? text = some h.name.text := by
  have hskipped := hwritten.skipModifiers classModifiers (by decide) (by decide)
  have hall : h.modifiers.dropWhile (fun m => m.text ∈ classModifiers) = [] :=
    List.dropWhile_eq_nil_iff.mpr fun m _ => decide_eq_true m.known
  rw [hall] at hskipped
  obtain ⟨ps, htokens, hspaced, htext⟩ := hskipped
  obtain ⟨gap, gap', rest, rfl, -⟩ := ClassHeader.exists_keyword hspaced htokens
  rw [Java.className?, htext, nameAfter?_eq]
  show (((some (gap ++ spell ((.word h.name.text, gap') :: rest))).bind afterBlanks?).bind
    word?).map Prod.fst = _
  rw [Option.bind_some, bind_word?_gap hspaced.2.1 hspaced.2.2.1 hspaced.2.2.2]
  rfl

theorem ClassHeader.Written.interfaceName? (hwritten : h.Written text) :
    interfaceName? text = none := by
  have hskipped := hwritten.skipModifiers interfaceModifiers (by decide) (by decide)
  obtain ⟨w, hw, b, rest, hb, htext⟩ := hskipped.exists_front
  have hkeyword : ∀ w ∈ "class".toList :: classModifiers, "interface".toList ≠ w := by decide
  have hblank : b ∉ "interface".toList := by
    have hword : IsWord "interface".toList := by decide
    intro hmem
    rw [hword.notBlank b hmem] at hb
    cases hb
  rw [Java.interfaceName?, htext, nameAfter?_append (notBlank_of_mem_front hw) hblank,
    if_neg (hkeyword w hw)]

theorem ClassHeader.Written.extendedName? (hwritten : h.Written text) :
    extendedName? text = h.toldBase := by
  obtain ⟨ps, htokens, hspaced, rfl⟩ := hwritten
  obtain ⟨qs, hqs, hspell, hclause, -⟩ := exists_modifier_tokens hspaced h.modifiers
  rw [← hspell, extendedName?_spell hqs, List.map_append,
    extendedIn_append fun t ht => (hclause t ht).1, htokens, h.extendedIn_tokens]

theorem ClassHeader.Written.implementedNames (hwritten : h.Written text) :
    implementedNames text = toldInterfaces h.interfaces := by
  obtain ⟨ps, htokens, hspaced, rfl⟩ := hwritten
  obtain ⟨qs, hqs, hspell, hclause, -⟩ := exists_modifier_tokens hspaced h.modifiers
  rw [← hspell, implementedNames_spell_append hqs fun t ht => (hclause t ht).2,
    h.implementedNames_spell hspaced htokens]

/-- The characters that can stand in a header. -/
theorem ClassHeader.Written.notMem (hwritten : h.Written text) {c : Char} (hw : isWord c = false)
    (hb : isBlank c = false) (hmark : c ∉ '-' :: '{' :: argumentMarks) : c ∉ text := by
  obtain ⟨ps, htokens, hspaced, rfl⟩ := hwritten
  obtain ⟨qs, hqs, hspell, -, hhyphen⟩ := exists_modifier_tokens hspaced h.modifiers
  rw [← hspell]
  intro hmem
  obtain ⟨⟨t, gap⟩, hp, hc | hc⟩ := mem_spell hmem
  · have htoken : t ∈ (qs ++ ps).map Prod.fst := List.mem_map_of_mem hp
    have hproper := (hqs.of_mem hp).1
    cases t with
    | word w =>
        rw [IsWord.all hproper c hc] at hw
        cases hw
    | mark d =>
        obtain rfl := List.mem_singleton.mp hc
        rw [List.map_append, List.mem_append, htokens] at htoken
        rcases htoken with htoken | htoken
        · exact hmark (by rw [hhyphen c htoken]; exact List.mem_cons_self)
        · exact hmark (List.mem_cons_of_mem _ (h.mark_mem_tokens htoken))
  · rw [(hqs.of_mem hp).2 c hc] at hb
    cases hb

theorem ClassHeader.Written.member? (hwritten : h.Written text) (owner : List Char) :
    member? owner text = none := by
  have hp : '(' ∉ text := hwritten.notMem (by decide) (by decide) (by decide)
  have hs : ';' ∉ text := hwritten.notMem (by decide) (by decide) (by decide)
  have he : '=' ∉ text := hwritten.notMem (by decide) (by decide) (by decide)
  have ha : '@' ∉ text := hwritten.notMem (by decide) (by decide) (by decide)
  obtain ⟨c, cs, hcs⟩ := List.exists_cons_of_ne_nil hwritten.ne_nil
  rw [hcs] at hp hs he ha ⊢
  exact member?_eq_none (List.ne_of_not_mem_cons ha).symm hp hs he

theorem ClassHeader.Written.isCopied (hwritten : h.Written text) : isCopied text = false := by
  obtain ⟨w, hw, b, rest, -, rfl⟩ := hwritten.exists_front
  simp only [classModifiers, keywords, List.map_cons, List.map_nil, List.mem_cons,
    List.not_mem_nil, or_false] at hw
  rcases hw with rfl | rfl | rfl | rfl | rfl | rfl | rfl | rfl | rfl | rfl <;> rfl

theorem ClassHeader.Written.header? (hwritten : h.Written text) :
    header? text = if occursIn "new ".toList text = true then none
      else some (.classHeader h.name.text h.toldBase (toldInterfaces h.interfaces), h.name.text) := by
  have hequals : text.contains '=' = false := by
    rw [List.contains_eq_mem]
    exact decide_eq_false (hwritten.notMem (by decide) (by decide) (by decide))
  simp only [Java.header?, hwritten.className?, hwritten.interfaceName?, hwritten.extendedName?,
    hwritten.implementedNames, hequals, Option.map_none]
  cases occursIn "new ".toList text <;> rfl

variable {st : State} {line source : List Char} {n : Nat}

/-- Outside comments, a line with the header of a class tells what was worked out for its tokens, or
nothing if there is a word that ends in `new` in it. -/
theorem step_classHeader (hst : st.inComment = false) (hwritten : h.Written (strip line)) :
    (step st line).1 = if occursIn "new ".toList (strip line) = true then []
      else [.classHeader h.name.text h.toldBase (toldInterfaces h.interfaces)] := by
  have hslash : '/' ∉ strip line := hwritten.notMem (by decide) (by decide) (by decide)
  have hcomment : opensComment (strip line) = false :=
    opensComment_eq_false (occursIn_of_notMem List.mem_cons_self hslash)
  have hnote : startsWith ['/', '/'] (strip line) = false := by
    rw [← Bool.not_eq_true, startsWith_iff]
    exact fun hstarts => hslash (hstarts.subset List.mem_cons_self)
  have hempty : (strip line).isEmpty = false := List.isEmpty_eq_false_iff.mpr hwritten.ne_nil
  simp only [step, hst, hcomment, hempty, hnote, hwritten.isCopied, Bool.or_self,
    Bool.false_eq_true, if_false]
  simp only [stepCode, hwritten.header?, hwritten.member?]
  cases occursIn "new ".toList (strip line) with
  | true => cases st.scopes <;> simp
  | false => simp

/-! ## Which headers are told as they are -/

theorem ClassHeader.toldBase_eq_iff (h : ClassHeader) :
    h.toldBase = h.base.map (fun b => b.name.text) ↔
      (∀ b, firstBound h.parameters = some b → h.base.map (fun b => b.name.text) = some b) ∧
        (h.base = none → ∀ t ∈ h.interfaces, extendedIn t.arguments = none) := by
  rw [toldBase]
  cases firstBound h.parameters with
  | some b =>
      rw [Option.some_or]
      constructor
      · intro heq
        refine ⟨fun b' hb' => Option.some.inj hb' ▸ heq.symm, fun hnone => ?_⟩
        rw [hnone] at heq
        cases heq
      · exact fun hbound => (hbound.1 b rfl).symm
  | none =>
      rw [Option.none_or]
      cases h.base with
      | some s => exact ⟨fun _ => ⟨nofun, nofun⟩, fun _ => rfl⟩
      | none =>
          rw [Option.map_none, Option.none_or, List.findSome?_eq_none_iff]
          exact ⟨fun hnone => ⟨nofun, fun _ => hnone⟩, fun hnone => hnone.2 rfl⟩

theorem toldInterfaces_eq_iff (ts : List TypeUse) :
    toldInterfaces ts = ts.map (fun t => t.name.text) ↔ ∀ t ∈ ts.dropLast, t.arguments = [] := by
  match ts with
  | [] => exact ⟨fun _ => nofun, fun _ => rfl⟩
  | [t] =>
      rw [toldInterfaces, toldInterfaces, ite_self]
      exact ⟨fun _ => nofun, fun _ => rfl⟩
  | t :: u :: rest =>
      have hrest := toldInterfaces_eq_iff (u :: rest)
      rw [toldInterfaces, List.map_cons, List.cons.injEq, List.dropLast_cons_cons,
        List.forall_mem_cons, ← hrest]
      by_cases harguments : t.arguments = []
      · simp [harguments]
      · simp [harguments]

/-! ## Lines of a source -/

/-- What is told of the line of a source with a number. -/
def entriesAt (n : Nat) (source : List Char) : List Entry :=
  match (lines source)[n]? with
  | some line => (step (stateAt n source) line).1
  | none => []

theorem scanFrom_eq_flatMap (st : State) (ls : List (List Char)) :
    scanFrom st ls = (List.range ls.length).flatMap fun n =>
      match ls[n]? with
      | some line => (step (run st (ls.take n)).2 line).1
      | none => [] := by
  induction ls generalizing st with
  | nil => rfl
  | cons line rest ih =>
      rw [scanFrom, ih, List.length_cons, List.range_succ_eq_map, List.flatMap_cons,
        List.flatMap_map]
      rfl

/-- A source is told line by line. -/
theorem scan_eq_flatMap (source : List Char) :
    scan source = (List.range (lines source).length).flatMap fun n => entriesAt n source :=
  scanFrom_eq_flatMap {} (lines source)

/-- A class header on a line of its own outside comments is told with its name, its base and its
interfaces exactly if no word in it ends in `new`, no bound is taken for the base, and only the last
interface has arguments. -/
theorem entriesAt_classHeader_iff (hline : (lines source)[n]? = some line)
    (hcode : (stateAt n source).inComment = false) (hwritten : h.Written (strip line)) :
    entriesAt n source = [.classHeader h.name.text (h.base.map fun b => b.name.text)
        (h.interfaces.map fun t => t.name.text)] ↔
      occursIn "new ".toList (strip line) = false ∧
        ((∀ b, firstBound h.parameters = some b → h.base.map (fun b => b.name.text) = some b) ∧
          (h.base = none → ∀ t ∈ h.interfaces, extendedIn t.arguments = none)) ∧
        ∀ t ∈ h.interfaces.dropLast, t.arguments = [] := by
  rw [entriesAt, hline]
  show (step (stateAt n source) line).1 = _ ↔ _
  rw [step_classHeader hcode hwritten, ← toldInterfaces_eq_iff, ← h.toldBase_eq_iff]
  cases occursIn "new ".toList (strip line) with
  | true => simp
  | false => simp

/-- Blanks, a modifier with a hyphen, and arguments of the class, of its base and of its last
interface. -/
theorem entriesAt_classHeader_iff_last_arguments :
    let line := "  non-sealed class Box<T>extends Base< T >  implements Shape , Holder<T>\x7b ".toList
    let source := "package p;\n".toList ++ line ++ "\n\x7d\n".toList
    (lines source)[1]? = some line ∧ (stateAt 1 source).inComment = false ∧
      (∃ h : ClassHeader, h.Written (strip line)) ∧
      entriesAt 1 source =
        [.classHeader "Box".toList (some "Base".toList) ["Shape".toList, "Holder".toList]] := by
  intro line source
  let t : Name := ⟨['T'], by decide, by decide⟩
  let box : Name := ⟨"Box".toList, by decide, by decide⟩
  let arguments : List Token := [.mark '<', .word ['T'], .mark '>']
  let base : TypeUse := ⟨⟨"Base".toList, by decide, by decide⟩, arguments, by decide, by decide⟩
  let shape : TypeUse := ⟨⟨"Shape".toList, by decide, by decide⟩, [], by decide, by decide⟩
  let holder : TypeUse := ⟨⟨"Holder".toList, by decide, by decide⟩, arguments, by decide, by decide⟩
  let modifier : Modifier :=
    ⟨"non-sealed".toList, [' '], by decide, List.all_eq_true.mp (by decide), by decide⟩
  let h : ClassHeader := ⟨[modifier], box, [⟨t, none⟩], some base, [shape, holder]⟩
  have hwritten : h.Written (strip line) := by
    refine ⟨[(.word "class".toList, [' ']), (.word "Box".toList, []), (.mark '<', []),
      (.word ['T'], []), (.mark '>', []), (.word "extends".toList, [' ']), (.word "Base".toList, []),
      (.mark '<', [' ']), (.word ['T'], [' ']), (.mark '>', [' ', ' ']),
      (.word "implements".toList, [' ']), (.word "Shape".toList, [' ']), (.mark ',', [' ']),
      (.word "Holder".toList, []), (.mark '<', []), (.word ['T'], []), (.mark '>', []),
      (.mark '{', [])], rfl, by decide, by decide⟩
  have hline : (lines source)[1]? = some line := by decide
  have hcode : (stateAt 1 source).inComment = false := by decide
  have htold := (entriesAt_classHeader_iff hline hcode hwritten).mpr
    ⟨by decide, ⟨nofun, nofun⟩, by decide⟩
  exact ⟨hline, hcode, ⟨h, hwritten⟩, htold⟩

/-- A class without a base is told with the bound of its parameter as its base. -/
theorem entriesAt_classHeader_bound :
    ∃ h : ClassHeader, h.base = none ∧ h.Written "class Box<T extends Shape> \x7b".toList ∧
      told "class Box<T extends Shape> \x7b\n\x7d\n".toList =
        ["\nClass: Box extends Shape".toList] := by
  let t : Name := ⟨['T'], by decide, by decide⟩
  let box : Name := ⟨"Box".toList, by decide, by decide⟩
  let shape : TypeUse := ⟨⟨"Shape".toList, by decide, by decide⟩, [], by decide, by decide⟩
  refine ⟨⟨[], box, [⟨t, some shape⟩], none, []⟩, rfl, ?_, by decide⟩
  exact ⟨[(.word "class".toList, [' ']), (.word "Box".toList, []), (.mark '<', []),
    (.word ['T'], [' ']), (.word "extends".toList, [' ']), (.word "Shape".toList, []),
    (.mark '>', [' ']), (.mark '{', [])], rfl, by decide, by decide⟩

end CodeBrief.Java
