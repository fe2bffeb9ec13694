import CodeBrief.Digest.Declaration
import CodeBrief.Proofs.Words

/-!
# A digest can be read back

The text of a digest says which declarations it is made of. Each declaration is
one line, with an empty line in front of it for a class or an interface, and no
line of a declaration is empty; so the text falls apart into declarations in one
way only (`flatMap_lines_injective`). A line starts with a head that says of which
kind the declaration is. No head starts another one (`kind_eq_of_prefix_head`), so the
kind is known from the line, and in what is behind the head a name ends where
something stands that is no part of a name.

All of this needs declarations of the shape that scripts have (`Shaped`). A name
with a line feed, or with a comma in a list of names, could be taken for two.
-/

namespace CodeBrief

open Text

/-! ## Names and lists of names -/

/-- Letters, digits, the low line and the dollar sign. -/
def isNamePart (c : Char) : Bool :=
  isWord c || c == '$'

def IsIdentifier (name : String) : Prop :=
  name ≠ "" ∧ ∀ c ∈ name.toList, isNamePart c = true

/-- What stands for a parameter that is no plain name. -/
def placeholders : List String := ["...", "\x7b ... \x7d", "[ ... ]"]

def IsParameter (param : String) : Prop :=
  IsIdentifier param ∨ param ∈ placeholders

/-- A text that can stand in a list. -/
structure IsListed (name : String) : Prop where
  ne_empty : name ≠ ""
  no_comma : ',' ∉ name.toList
  one_line : '\n' ∉ name.toList

def listed (names : List String) : List Char :=
  join ", ".toList (names.map String.toList)

instance (name : String) : Decidable (IsIdentifier name) :=
  decidable_of_iff (name ≠ "" ∧ name.toList.all isNamePart = true) (and_congr_right' List.all_eq_true)

instance (param : String) : Decidable (IsParameter param) :=
  inferInstanceAs (Decidable (IsIdentifier param ∨ param ∈ placeholders))

section Names

variable {m n param : String} {a b : List Char} {ms ns : List String}

theorem IsIdentifier.notMem (hn : IsIdentifier n) {c : Char} (hc : isNamePart c = false) :
    c ∉ n.toList := by
  intro hmem
  rw [hn.2 c hmem] at hc
  cases hc

theorem IsIdentifier.isListed (hn : IsIdentifier n) : IsListed n :=
  ⟨hn.1, hn.notMem (by decide), hn.notMem (by decide)⟩

theorem IsParameter.isListed (hparam : IsParameter param) : IsListed param := by
  rcases hparam with hparam | hparam
  · exact hparam.isListed
  · have hall : ∀ p ∈ placeholders, p ≠ "" ∧ ',' ∉ p.toList ∧ '\n' ∉ p.toList := by decide
    obtain ⟨hne, hcomma, hline⟩ := hall param hparam
    exact ⟨hne, hcomma, hline⟩

/-- A name in front of something that is no part of it comes back. -/
theorem IsIdentifier.append_inj (hm : IsIdentifier m) (hn : IsIdentifier n)
    (ha : ∀ c ∈ a.head?, isNamePart c = false) (hb : ∀ c ∈ b.head?, isNamePart c = false)
    (h : m.toList ++ a = n.toList ++ b) : m = n ∧ a = b := by
  have hname : m.toList = n.toList := by
    rw [← takeWhile_append_eq hm.2 ha, h, takeWhile_append_eq hn.2 hb]
  refine ⟨String.toList_injective hname, ?_⟩
  rw [hname] at h
  exact List.append_cancel_left h

theorem listed_cons (n : String) (ns : List String) :
    listed (n :: ns) = join [','] (n.toList :: ns.map fun n => ' ' :: n.toList) := by
  induction ns generalizing n with
  | nil => rfl
  | cons m ns ih =>
      have hrest := ih m
      rw [listed, List.map_cons] at hrest
      rw [listed, List.map_cons, List.map_cons, join, hrest, List.map_cons, join]
      cases ns <;> simp [join]

theorem splitAtEach_listed_cons (hns : ∀ m ∈ n :: ns, IsListed m) :
    splitAtEach ',' (listed (n :: ns)) = n.toList :: ns.map fun n => ' ' :: n.toList := by
  rw [listed_cons, splitAtEach_join (List.cons_ne_nil _ _)]
  rw [List.forall_mem_cons] at hns ⊢
  refine ⟨hns.1.no_comma, ?_⟩
  intro piece hpiece
  obtain ⟨m, hm, rfl⟩ := List.mem_map.mp hpiece
  exact List.not_mem_cons_of_ne_of_not_mem (by decide) (hns.2 m hm).no_comma

theorem listed_ne_nil (hne : ns ≠ []) (hns : ∀ n ∈ ns, IsListed n) : listed ns ≠ [] := by
  obtain ⟨n, ns, rfl⟩ := List.exists_cons_of_ne_nil hne
  intro hnil
  have hsplit := splitAtEach_listed_cons hns
  rw [hnil] at hsplit
  have hempty : n.toList = [] := (List.cons.inj hsplit).1.symm
  exact (hns n List.mem_cons_self).ne_empty (String.toList_eq_nil_iff.mp hempty)

theorem listed_inj (hms : ∀ m ∈ ms, IsListed m) (hns : ∀ n ∈ ns, IsListed n)
    (h : listed ms = listed ns) : ms = ns := by
  cases ms with
  | nil =>
      by_contra hne
      exact listed_ne_nil (Ne.symm hne) hns h.symm
  | cons m ms =>
      cases ns with
      | nil => exact absurd h (listed_ne_nil (List.cons_ne_nil m ms) hms)
      | cons n ns =>
          have hsplit := splitAtEach_listed_cons hms
          rw [h, splitAtEach_listed_cons hns] at hsplit
          obtain ⟨hfirst, hrest⟩ := List.cons.inj hsplit
          have hinjective (x y : String) (hxy : ' ' :: x.toList = ' ' :: y.toList) : x = y :=
            String.toList_injective (List.cons.inj hxy).2
          rw [String.toList_injective hfirst, (List.map_inj_right hinjective).mp hrest]

theorem newline_notMem_listed (hns : ∀ n ∈ ns, IsListed n) : '\n' ∉ listed ns := by
  intro hmem
  rcases mem_join hmem with hmem | ⟨piece, hpiece, hmem⟩
  · exact absurd hmem (by decide)
  · obtain ⟨n, hn, rfl⟩ := List.mem_map.mp hpiece
    exact (hns n hn).one_line hmem

end Names

/-! ## Declarations of scripts -/

def variableKeywords : List String := ["const", "let", "var"]

namespace Declaration

/-- The declarations that a script can have. -/
def Shaped : Declaration → Prop
  | imported source => '\n' ∉ source.toList
  | exported keyword name =>
      keyword = "function" ∧ IsIdentifier name ∨ keyword ∈ variableKeywords ∧ name = ""
  | classType name base => IsIdentifier name ∧ ∀ b ∈ base.toList, IsIdentifier b
  | interfaceType name bases => IsIdentifier name ∧ ∀ b ∈ bases, IsIdentifier b
  | typeAlias name => IsIdentifier name
  | function name params => IsIdentifier name ∧ ∀ p ∈ params, IsParameter p
  | method name _ params => IsIdentifier name ∧ ∀ p ∈ params, IsParameter p
  | property name _ => IsIdentifier name
  | binding keyword name => keyword ∈ variableKeywords ∧ IsIdentifier name

instance : (d : Declaration) → Decidable d.Shaped
  | imported source => inferInstanceAs (Decidable ('\n' ∉ source.toList))
  | exported keyword name => inferInstanceAs (Decidable
      (keyword = "function" ∧ IsIdentifier name ∨ keyword ∈ variableKeywords ∧ name = ""))
  | classType name base =>
      inferInstanceAs (Decidable (IsIdentifier name ∧ ∀ b ∈ base.toList, IsIdentifier b))
  | interfaceType name bases =>
      inferInstanceAs (Decidable (IsIdentifier name ∧ ∀ b ∈ bases, IsIdentifier b))
  | typeAlias name => inferInstanceAs (Decidable (IsIdentifier name))
  | function name params =>
      inferInstanceAs (Decidable (IsIdentifier name ∧ ∀ p ∈ params, IsParameter p))
  | method name _ params =>
      inferInstanceAs (Decidable (IsIdentifier name ∧ ∀ p ∈ params, IsParameter p))
  | property name _ => inferInstanceAs (Decidable (IsIdentifier name))
  | binding keyword name =>
      inferInstanceAs (Decidable (keyword ∈ variableKeywords ∧ IsIdentifier name))

/-- What the head of a line says of a declaration. -/
inductive Kind where
  | imported
  | exported (keyword : String)
  | classType
  | interfaceType
  | typeAlias
  | function
  | method (role : MethodRole)
  | property (isStatic : Bool)
  | binding (keyword : String)
  deriving DecidableEq, Repr

def kind : Declaration → Kind
  | imported _ => .imported
  | exported keyword _ => .exported keyword
  | classType _ _ => .classType
  | interfaceType _ _ => .interfaceType
  | typeAlias _ => .typeAlias
  | function _ _ => .function
  | method _ role _ => .method role
  | property _ isStatic => .property isStatic
  | binding keyword _ => .binding keyword

/-- The kinds of the declarations of scripts. -/
def Kind.all : List Kind :=
  [imported, exported "function", classType, interfaceType, typeAlias, function, property true,
    property false] ++ (variableKeywords.map exported ++ (variableKeywords.map binding ++
      MethodRole.labelled.map fun r => method r.2))

/-- How a line of a kind starts. -/
def Kind.head : Kind → List Char
  | imported => "import ... from '".toList
  | exported keyword => "export ".toList ++ (keyword.toList ++ [' '])
  | classType => "Class: ".toList
  | interfaceType => "Interface: ".toList
  | typeAlias => "Type: ".toList
  | function => "Function: ".toList
  | method role => "  ".toList ++ (role.label.toList ++ ": ".toList)
  | property isStatic =>
      "  ".toList ++ ((if isStatic then "Static Property" else "Property").toList ++ ": ".toList)
  | binding keyword => keyword.toList ++ [' ']

/-- Whether a blank line is in front. -/
def Kind.apart : Kind → Bool
  | classType | interfaceType => true
  | _ => false

def extending (names : List String) : List Char :=
  if names = [] then [] else " extends ".toList ++ listed names

/-- What is behind the head. -/
def tail : Declaration → List Char
  | imported source => source.toList ++ "'".toList
  | exported keyword name => if keyword = "function" then name.toList else "...".toList
  | classType name base => name.toList ++ extending base.toList
  | interfaceType name bases => name.toList ++ extending bases
  | function name params | method name _ params => name.toList ++ '(' :: (listed params ++ [')'])
  | typeAlias name | property name _ | binding _ name => name.toList

def line (d : Declaration) : List Char :=
  d.kind.head ++ d.tail

def lines (d : Declaration) : List (List Char) :=
  if d.kind.apart then [[], d.line] else [d.line]

variable {d e : Declaration} {ms ns : List String}

theorem Shaped.kind_mem (hd : d.Shaped) : d.kind ∈ Kind.all := by
  have hkeyword {keyword : String} (h : keyword ∈ variableKeywords) :
      .exported keyword ∈ Kind.all ∧ .binding keyword ∈ Kind.all :=
    ⟨List.mem_append_right _ (List.mem_append_left _ (List.mem_map_of_mem h)),
      List.mem_append_right _ (List.mem_append_right _ (List.mem_append_left _
        (List.mem_map_of_mem h)))⟩
  have hmethod (role : MethodRole) : .method role ∈ Kind.all := by cases role <;> decide
  have hproperty (isStatic : Bool) : .property isStatic ∈ Kind.all := by cases isStatic <;> decide
  cases d with
  | exported keyword name =>
      rcases hd with ⟨rfl, -⟩ | ⟨h, -⟩
      · exact List.mem_cons_of_mem _ List.mem_cons_self
      · exact (hkeyword h).1
  | binding keyword name => exact (hkeyword hd.1).2
  | method name role params => exact hmethod role
  | property name isStatic => exact hproperty isStatic
  | _ => simp [kind, Kind.all]

/-- No head starts another one. -/
theorem kind_eq_of_prefix_head {k l : Kind} (hk : k ∈ Kind.all) (hl : l ∈ Kind.all)
    (h : k.head <+: l.head) : k = l := by
  have hall : ∀ k ∈ Kind.all, ∀ l ∈ Kind.all, k.head <+: l.head → k = l := by decide
  exact hall k hk l hl h

theorem kind_tail_of_line (hd : d.Shaped) (he : e.Shaped) (h : d.line = e.line) :
    d.kind = e.kind ∧ d.tail = e.tail := by
  have hkind : d.kind = e.kind := by
    have hstarts : d.kind.head <+: e.line := ⟨d.tail, h⟩
    rcases List.prefix_or_prefix_of_prefix hstarts ⟨e.tail, rfl⟩ with hde | hed
    · exact kind_eq_of_prefix_head hd.kind_mem he.kind_mem hde
    · exact (kind_eq_of_prefix_head he.kind_mem hd.kind_mem hed).symm
  refine ⟨hkind, ?_⟩
  rw [line, line, hkind] at h
  exact List.append_cancel_left h

/-! ## What is behind the head -/

theorem extending_nil : extending [] = [] := rfl

theorem extending_of_ne_nil (hne : ns ≠ []) : extending ns = " extends ".toList ++ listed ns :=
  if_neg hne

theorem extending_inj (hms : ∀ m ∈ ms, IsIdentifier m) (hns : ∀ n ∈ ns, IsIdentifier n)
    (h : extending ms = extending ns) : ms = ns := by
  have hsaid {names : List String} (hne : names ≠ []) : extending names ≠ [] := by
    rw [extending_of_ne_nil hne]
    exact List.append_ne_nil_of_left_ne_nil (by decide) _
  by_cases hmnil : ms = []
  · by_contra hne
    rw [hmnil, extending_nil] at h
    exact hsaid (fun hnil => hne (hmnil.trans hnil.symm)) h.symm
  · have hnnil : ns ≠ [] := by
      rintro rfl
      exact hsaid hmnil h
    rw [extending_of_ne_nil hmnil, extending_of_ne_nil hnnil] at h
    exact listed_inj (fun m hm => (hms m hm).isListed) (fun n hn => (hns n hn).isListed)
      (List.append_cancel_left h)

theorem extending_head (ns : List String) :
    ∀ c ∈ (extending ns).head?, isNamePart c = false := by
  rw [extending]
  split
  · exact nofun
  · rintro _ ⟨⟩
    decide

/-- A name and what it extends. -/
theorem extending_append_inj {m n : String} (hm : IsIdentifier m ∧ ∀ b ∈ ms, IsIdentifier b)
    (hn : IsIdentifier n ∧ ∀ b ∈ ns, IsIdentifier b)
    (h : m.toList ++ extending ms = n.toList ++ extending ns) : m = n ∧ ms = ns := by
  obtain ⟨hname, hrest⟩ := hm.1.append_inj hn.1 (extending_head ms) (extending_head ns) h
  exact ⟨hname, extending_inj hm.2 hn.2 hrest⟩

/-- A name and its parameters. -/
theorem parameters_append_inj {m n : String} (hm : IsIdentifier m ∧ ∀ p ∈ ms, IsParameter p)
    (hn : IsIdentifier n ∧ ∀ p ∈ ns, IsParameter p)
    (h : m.toList ++ '(' :: (listed ms ++ [')']) = n.toList ++ '(' :: (listed ns ++ [')'])) :
    m = n ∧ ms = ns := by
  have hopen (rest : List Char) : ∀ c ∈ ('(' :: rest).head?, isNamePart c = false := by
    rintro _ ⟨⟩
    decide
  obtain ⟨hname, hrest⟩ := hm.1.append_inj hn.1 (hopen _) (hopen _) h
  refine ⟨hname, ?_⟩
  have hlisted : listed ms = listed ns := List.append_cancel_right (List.cons.inj hrest).2
  exact listed_inj (fun p hp => (hm.2 p hp).isListed) (fun p hp => (hn.2 p hp).isListed) hlisted

/-- A declaration is known from its kind and from what is behind the head. -/
theorem eq_of_kind_tail (hd : d.Shaped) (he : e.Shaped) (hkind : d.kind = e.kind)
    (htail : d.tail = e.tail) : d = e := by
  cases d with
  | imported source =>
      cases e with
      | imported source' => rw [String.toList_injective (List.append_cancel_right htail)]
      | _ => cases hkind
  | exported keyword name =>
      cases e with
      | exported keyword' name' =>
          obtain rfl : keyword = keyword' := Kind.exported.inj hkind
          by_cases hkeyword : keyword = "function"
          · rw [tail, tail, if_pos hkeyword, if_pos hkeyword] at htail
            rw [String.toList_injective htail]
          · rcases hd with hd | hd
            · exact absurd hd.1 hkeyword
            · rcases he with he | he
              · exact absurd he.1 hkeyword
              · rw [hd.2, he.2]
      | _ => cases hkind
  | classType name base =>
      cases e with
      | classType name' base' =>
          obtain ⟨rfl, hbase⟩ := extending_append_inj hd he htail
          have hsame : base = base' := by
            rw [← Option.head?_toList (o := base), hbase, Option.head?_toList]
          rw [hsame]
      | _ => cases hkind
  | interfaceType name bases =>
      cases e with
      | interfaceType name' bases' =>
          obtain ⟨rfl, rfl⟩ := extending_append_inj hd he htail
          rfl
      | _ => cases hkind
  | typeAlias name =>
      cases e with
      | typeAlias name' => rw [String.toList_injective htail]
      | _ => cases hkind
  | function name params =>
      cases e with
      | function name' params' =>
          obtain ⟨rfl, rfl⟩ := parameters_append_inj hd he htail
          rfl
      | _ => cases hkind
  | method name role params =>
      cases e with
      | method name' role' params' =>
          obtain rfl : role = role' := Kind.method.inj hkind
          obtain ⟨rfl, rfl⟩ := parameters_append_inj hd he htail
          rfl
      | _ => cases hkind
  | property name isStatic =>
      cases e with
      | property name' isStatic' =>
          rw [Kind.property.inj hkind, String.toList_injective htail]
      | _ => cases hkind
  | binding keyword name =>
      cases e with
      | binding keyword' name' =>
          rw [Kind.binding.inj hkind, String.toList_injective htail]
      | _ => cases hkind

theorem eq_of_line (hd : d.Shaped) (he : e.Shaped) (h : d.line = e.line) : d = e := by
  obtain ⟨hkind, htail⟩ := kind_tail_of_line hd he h
  exact eq_of_kind_tail hd he hkind htail

/-! ## The lines of declarations -/

theorem Shaped.line_ne_nil (hd : d.Shaped) : d.line ≠ [] := by
  have hheads : ∀ k ∈ Kind.all, k.head ≠ [] := by decide
  rw [line]
  exact List.append_ne_nil_of_left_ne_nil (hheads d.kind hd.kind_mem) d.tail

theorem lines_ne_nil (d : Declaration) : d.lines ≠ [] := by
  rw [lines]
  split <;> exact List.cons_ne_nil _ _

theorem newline_notMem_extending (hns : ∀ n ∈ ns, IsIdentifier n) : '\n' ∉ extending ns := by
  rw [extending]
  split
  · exact List.not_mem_nil
  · exact List.not_mem_append (by decide) (newline_notMem_listed fun n hn => (hns n hn).isListed)

theorem newline_notMem_parameters (hns : ∀ p ∈ ns, IsParameter p) :
    '\n' ∉ '(' :: (listed ns ++ [')']) := by
  rw [List.mem_cons, List.mem_append, not_or, not_or]
  exact ⟨by decide, newline_notMem_listed fun p hp => (hns p hp).isListed, by decide⟩

theorem Shaped.newline_notMem_line (hd : d.Shaped) : '\n' ∉ d.line := by
  have hheads : ∀ k ∈ Kind.all, '\n' ∉ k.head := by decide
  have hname {n : String} (hn : IsIdentifier n) : '\n' ∉ n.toList := hn.notMem (by decide)
  have htail : '\n' ∉ d.tail := by
    cases d with
    | imported source => exact List.not_mem_append hd (by decide)
    | exported keyword name =>
        rcases hd with ⟨hkeyword, hn⟩ | ⟨hkeyword, -⟩
        · rw [tail, if_pos hkeyword]
          exact hname hn
        · have hne : ∀ k ∈ variableKeywords, k ≠ "function" := by decide
          rw [tail, if_neg (hne keyword hkeyword)]
          decide
    | classType name base => exact List.not_mem_append (hname hd.1) (newline_notMem_extending hd.2)
    | interfaceType name bases =>
        exact List.not_mem_append (hname hd.1) (newline_notMem_extending hd.2)
    | function name params => exact List.not_mem_append (hname hd.1) (newline_notMem_parameters hd.2)
    | method name role params =>
        exact List.not_mem_append (hname hd.1) (newline_notMem_parameters hd.2)
    | binding keyword name => exact hname hd.2
    | typeAlias name => exact hname hd
    | property name isStatic => exact hname hd
  exact List.not_mem_append (hheads d.kind hd.kind_mem) htail

theorem Shaped.newline_notMem_lines (hd : d.Shaped) : ∀ l ∈ d.lines, '\n' ∉ l := by
  rw [lines]
  split
  · rw [List.forall_mem_cons, List.forall_mem_singleton]
    exact ⟨List.not_mem_nil, hd.newline_notMem_line⟩
  · exact List.forall_mem_singleton.mpr hd.newline_notMem_line

theorem toList_commas (names : List String) : (commas names).toList = listed names := by
  rw [commas, String.toList_intercalate, listed, join_eq_intercalate]

theorem toList_append_commas (front : String) (names : List String) :
    (front ++ if names.isEmpty then "" else " extends " ++ commas names).toList =
      front.toList ++ extending names := by
  rw [String.toList_append, extending]
  cases names with
  | nil => rfl
  | cons n ns =>
      show _ ++ (" extends " ++ commas (n :: ns)).toList = _
      rw [String.toList_append, toList_commas, if_neg (List.cons_ne_nil n ns)]

theorem toList_parameters (front : String) (params : List String) :
    (front ++ "(" ++ commas params ++ ")").toList =
      front.toList ++ '(' :: (listed params ++ [')']) := by
  rw [String.toList_append, String.toList_append, String.toList_append, toList_commas,
    List.append_assoc, List.append_assoc]
  rfl

/-- The text of a declaration is its lines. -/
theorem Shaped.toList_render (hd : d.Shaped) : d.render.toList = join ['\n'] d.lines := by
  cases d with
  | imported source =>
      show ("import ... from '" ++ source ++ "'").toList =
        "import ... from '".toList ++ (source.toList ++ "'".toList)
      rw [String.toList_append, String.toList_append, List.append_assoc]
  | exported keyword name =>
      show (if keyword = "function" then "export function " ++ name
          else "export " ++ keyword ++ " ...").toList =
        ("export ".toList ++ (keyword.toList ++ [' '])) ++
          (if keyword = "function" then name.toList else "...".toList)
      by_cases hkeyword : keyword = "function"
      · rw [if_pos hkeyword, if_pos hkeyword, String.toList_append, hkeyword]
        rfl
      · rw [if_neg hkeyword, if_neg hkeyword, String.toList_append, String.toList_append,
          List.append_assoc, List.append_assoc, List.append_assoc]
        rfl
  | classType name base =>
      have hrender : (classType name base).render = ("\nClass: " ++ name) ++
          if base.toList.isEmpty then "" else " extends " ++ commas base.toList := by
        cases base with
        | none => rfl
        | some b =>
            show "\nClass: " ++ name ++ (if b = "" then "" else " extends " ++ b) = _
            rw [if_neg (hd.2 b List.mem_cons_self).1]
            rfl
      rw [hrender, toList_append_commas, String.toList_append, List.append_assoc]
      rfl
  | interfaceType name bases =>
      show (("\nInterface: " ++ name) ++
          if bases.isEmpty then "" else " extends " ++ commas bases).toList =
        '\n' :: ("Interface: ".toList ++ (name.toList ++ extending bases))
      rw [toList_append_commas, String.toList_append, List.append_assoc]
      rfl
  | typeAlias name => exact String.toList_append
  | function name params =>
      show ("Function: " ++ name ++ "(" ++ commas params ++ ")").toList =
        "Function: ".toList ++ (name.toList ++ '(' :: (listed params ++ [')']))
      rw [toList_parameters, String.toList_append, List.append_assoc]
  | method name role params =>
      show ("  " ++ role.label ++ ": " ++ name ++ "(" ++ commas params ++ ")").toList =
        ("  ".toList ++ (role.label.toList ++ ": ".toList)) ++
          (name.toList ++ '(' :: (listed params ++ [')']))
      rw [toList_parameters]
      simp only [String.toList_append, List.append_assoc]
  | property name isStatic =>
      show ("  " ++ (if isStatic then "Static Property" else "Property") ++ ": " ++ name).toList =
        ("  ".toList ++ ((if isStatic then "Static Property" else "Property").toList ++
          ": ".toList)) ++ name.toList
      simp only [String.toList_append, List.append_assoc]
  | binding keyword name =>
      show (keyword ++ " " ++ name).toList = (keyword.toList ++ [' ']) ++ name.toList
      rw [String.toList_append, String.toList_append]
      rfl

/-- The first declaration of a row of lines is known from them. -/
theorem lines_append_inj {rest rest' : List (List Char)} (hd : d.Shaped) (he : e.Shaped)
    (h : d.lines ++ rest = e.lines ++ rest') : d = e ∧ rest = rest' := by
  have hline : d.line = e.line ∧ rest = rest' := by
    rw [lines, lines] at h
    split at h <;> split at h
    · exact List.cons.inj (List.cons.inj h).2
    · exact absurd (List.cons.inj h).1.symm he.line_ne_nil
    · exact absurd (List.cons.inj h).1 hd.line_ne_nil
    · exact List.cons.inj h
  exact ⟨eq_of_line hd he hline.1, hline.2⟩

theorem flatMap_lines_injective {ds es : List Declaration} (hds : ∀ d ∈ ds, d.Shaped)
    (hes : ∀ e ∈ es, e.Shaped) (h : ds.flatMap lines = es.flatMap lines) : ds = es := by
  induction ds generalizing es with
  | nil =>
      cases es with
      | nil => rfl
      | cons e es =>
          have hnil := (List.append_eq_nil_iff.mp h.symm).1
          exact absurd hnil e.lines_ne_nil
  | cons d ds ih =>
      cases es with
      | nil => exact absurd (List.append_eq_nil_iff.mp h).1 d.lines_ne_nil
      | cons e es =>
          rw [List.forall_mem_cons] at hds hes
          obtain ⟨rfl, hrest⟩ := lines_append_inj hds.1 hes.1 h
          rw [ih hds.2 hes.2 hrest]

end Declaration

namespace Digest

variable {d e : Digest}

theorem toList_render (hd : ∀ x ∈ d.declarations, x.Shaped) :
    d.render.toList = join ['\n'] (d.declarations.flatMap Declaration.lines) := by
  have hmap : (d.declarations.map Declaration.render).map String.toList =
      (d.declarations.map Declaration.lines).map (join ['\n']) := by
    rw [List.map_map, List.map_map]
    exact List.map_congr_left fun x hx => (hd x hx).toList_render
  have hne : ∀ row ∈ d.declarations.map Declaration.lines, row ≠ [] := by
    intro row hrow
    obtain ⟨x, -, rfl⟩ := List.mem_map.mp hrow
    exact x.lines_ne_nil
  rw [render, String.toList_intercalate, hmap]
  show List.intercalate ['\n'] _ = _
  rw [← join_eq_intercalate, join_map_join hne, List.flatMap_def]

/-- The lines of a digest, of which one is not empty unless there are none. -/
theorem splitAtEach_render (hd : ∀ x ∈ d.declarations, x.Shaped) (hne : d.declarations ≠ []) :
    splitAtEach '\n' d.render.toList = d.declarations.flatMap Declaration.lines := by
  rw [toList_render hd, splitAtEach_join]
  · obtain ⟨x, xs, hxs⟩ := List.exists_cons_of_ne_nil hne
    rw [hxs, List.flatMap_cons]
    exact List.append_ne_nil_of_left_ne_nil x.lines_ne_nil _
  · intro l hl
    obtain ⟨x, hx, hl⟩ := List.mem_flatMap.mp hl
    exact (hd x hx).newline_notMem_lines l hl

theorem render_ne_empty (hd : ∀ x ∈ d.declarations, x.Shaped) (hne : d.declarations ≠ []) :
    d.render ≠ "" := by
  obtain ⟨x, xs, hxs⟩ := List.exists_cons_of_ne_nil hne
  intro hempty
  have hsplit := splitAtEach_render hd hne
  have hline : x.line ∈ d.declarations.flatMap Declaration.lines := by
    rw [hxs, List.flatMap_cons, Declaration.lines]
    split <;> simp
  rw [← hsplit, hempty] at hline
  exact (hd x (by simp [hxs])).line_ne_nil (List.mem_singleton.mp hline)

/-- Digests with the same text have the same declarations. -/
theorem eq_of_render_eq (hd : ∀ x ∈ d.declarations, x.Shaped)
    (he : ∀ x ∈ e.declarations, x.Shaped) (h : d.render = e.render) :
    d.declarations = e.declarations := by
  by_cases hdnil : d.declarations = []
  · by_cases henil : e.declarations = []
    · rw [hdnil, henil]
    · have hempty : d.render = "" := by rw [render, hdnil]; rfl
      exact absurd (h ▸ hempty) (render_ne_empty he henil)
  · by_cases henil : e.declarations = []
    · have hempty : e.render = "" := by rw [render, henil]; rfl
      exact absurd (h.symm ▸ hempty) (render_ne_empty hd hdnil)
    · have hlines := splitAtEach_render hd hdnil
      rw [h, splitAtEach_render he henil] at hlines
      exact Declaration.flatMap_lines_injective hd he hlines.symm

/-- Names that look like keywords, and a source that looks like the end of a line. -/
theorem eq_of_render_eq_two_languages :
    let declarations : List Declaration :=
      [.imported "a' from 'b", .exported "const" "", .exported "function" "export",
        .classType "Class" (some "extends"), .interfaceType "$" ["A", "unknown"],
        .method "constructor" .constructor ["...", "x_1"], .property "x" true,
        .function "f" ["\x7b ... \x7d", "[ ... ]"], .binding "let" "const", .typeAlias "Type"]
    let d : Digest := ⟨.javascript, declarations⟩
    let e : Digest := ⟨.typescript, declarations⟩
    (∀ x ∈ declarations, x.Shaped) ∧ d.render = e.render ∧ d.declarations = e.declarations := by
  intro declarations d e
  have hshaped : ∀ x ∈ declarations, x.Shaped := by decide
  have hrender : d.render = e.render := rfl
  exact ⟨hshaped, hrender, eq_of_render_eq hshaped hshaped hrender⟩

/-- A comma in a name is taken for one between names. -/
example : (Declaration.interfaceType "I" ["A, B"]).render =
    (Declaration.interfaceType "I" ["A", "B"]).render := by decide

end Digest

end CodeBrief
