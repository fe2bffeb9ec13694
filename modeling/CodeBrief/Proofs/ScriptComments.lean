import CodeBrief.Proofs.CommentNodes
import CodeBrief.Proofs.Walk

/-!
# Comments and what a tree declares

What a tree declares is the same with its comments and without them, but for the
bases of its classes (`map_withoutBase_declarations`). Parameters and the types
that an interface extends are listed without comments, and everything else is
looked up by a field or by a type that is not that of comments.

The base of a class is looked up by position: it is the first named child of the
clause before the body, or of an extends clause that has no value. If a comment
stands there, it is found in the place of the base, and the class is declared
without one. So comments change a digest exactly if a class that is declared has
its base hidden in this way (`HidesBase`).
-/

namespace CodeBrief.Walk

open Node (isComment placesBelow mem_placesBelow namedChildren_induction forall_below_iff
  forall_descendant?_iff)

/-! ## Trees with comments -/

/-- The comments of a tree are leaves in no field, and none is the first child of a declaration of
variables. -/
structure CommentsApart (root : Node) : Prop where
  leaf : ∀ n ∈ root.all, n.isComment = true → n.children = []
  fieldless : ∀ n ∈ root.all, n.isComment = true → n.field = none
  notFirst : ∀ n ∈ root.all, n.type ∈ variableNodes → ∀ c ∈ n.children.head?, c.isComment = false

theorem CommentsApart.child {n c : Node} (h : CommentsApart n) (hc : c ∈ n.children) :
    CommentsApart c where
  leaf m hm := h.leaf m (Node.mem_all_of_mem_children hc hm)
  fieldless m hm := h.fieldless m (Node.mem_all_of_mem_children hc hm)
  notFirst m hm := h.notFirst m (Node.mem_all_of_mem_children hc hm)

theorem mem_children_of_mem_namedChildren {n c : Node} (hc : c ∈ n.namedChildren) :
    c ∈ n.children :=
  List.mem_of_mem_filter hc

theorem mem_children_of_inField? {n c : Node} {name : String} (h : n.inField? name = some c) :
    c ∈ n.children :=
  List.mem_of_find?_eq_some h

section Lookups

variable {n : Node} (h : CommentsApart n)

include h

theorem CommentsApart.inField? (name : String) :
    n.withoutComments.inField? name = (n.inField? name).map Node.withoutComments :=
  n.inField?_withoutComments
    (fun c hc => h.fieldless c (Node.mem_all_of_mem_children hc c.mem_all_self)) name

/-- What is made of the node in a field, if it depends on its type and its text alone. -/
theorem CommentsApart.inField?_map {α : Type} (name : String) (f : Node → α)
    (hf : ∀ c, f c.withoutComments = f c) :
    (n.withoutComments.inField? name).map f = (n.inField? name).map f := by
  rw [h.inField?, Option.map_map]
  exact congrArg (Option.map · _) (funext hf)

theorem CommentsApart.childOf {name : String} {c : Node} (hc : n.inField? name = some c) :
    CommentsApart c :=
  h.child (mem_children_of_inField? hc)

theorem CommentsApart.namedChild {c : Node} (hc : c ∈ n.namedChildren) : CommentsApart c :=
  h.child (mem_children_of_mem_namedChildren hc)

/-! ## What is looked up past comments -/

theorem keywordOf_withoutComments (hn : n.type ∈ variableNodes) :
    keywordOf n.withoutComments = keywordOf n := by
  have hfirst := h.notFirst n n.mem_all_self hn
  rw [keywordOf, keywordOf, Node.children_withoutComments]
  cases hchildren : n.children with
  | nil => rfl
  | cons c rest =>
      rw [hchildren] at hfirst
      rw [List.filter_cons_of_pos (by simp [hfirst c rfl])]
      simp

theorem paramLabel_withoutComments (showPatterns : Bool) :
    paramLabel showPatterns n.withoutComments = paramLabel showPatterns n := by
  have hpattern (c : Node) :
      patternLabel showPatterns c.withoutComments = patternLabel showPatterns c := by
    simp [patternLabel]
  have hvalue : (n.withoutComments.inField? "value").isSome = (n.inField? "value").isSome := by
    rw [h.inField?, Option.isSome_map]
  have haccess : n.withoutComments.children.any (·.type = "accessibility_modifier") =
      n.children.any (·.type = "accessibility_modifier") := by
    rw [Node.children_withoutComments, List.any_map, List.any_filter]
    refine congrArg n.children.any (funext fun c => ?_)
    by_cases hc : c.type = "accessibility_modifier" <;> simp [isComment, hc]
  rw [paramLabel, paramLabel, hvalue, haccess, h.inField?, hpattern, Node.type_withoutComments]
  cases n.inField? "pattern" with
  | none => rfl
  | some pattern => simp only [Option.map_some, hpattern]

theorem paramLabels_withoutComments (showPatterns : Bool) :
    paramLabels showPatterns n.withoutComments = paramLabels showPatterns n := by
  rw [paramLabels, paramLabels, h.inField?]
  cases hps : n.inField? "parameters" with
  | none => rfl
  | some ps =>
      have hps' := h.childOf hps
      have htype (c : Node) : decide (c.type ≠ "comment") = !c.isComment := by
        simp [isComment]
      have hkept : (fun c : Node => !c.isComment) ∘ Node.withoutComments = fun c => !c.isComment :=
        funext fun c => by simp [isComment]
      simp only [Option.map_some, htype]
      rw [Node.namedChildren_withoutComments, List.filter_map, hkept, List.filter_filter,
        List.map_map]
      simp only [Bool.and_self]
      refine List.map_congr_left fun c hc => ?_
      exact paramLabel_withoutComments (hps'.namedChild (List.mem_of_mem_filter hc)) showPatterns

theorem extendedName_withoutComments : extendedName n.withoutComments = extendedName n := by
  have hname : ((n.withoutComments.inField? "name").getD n.withoutComments) =
      ((n.inField? "name").getD n).withoutComments := by
    rw [h.inField?, Option.getD_map]
  rw [extendedName, extendedName, hname, Node.type_withoutComments,
    ← apply_ite Node.withoutComments, Node.type_withoutComments, Node.text_withoutComments]

theorem extendedNames_withoutComments : extendedNames n.withoutComments = extendedNames n := by
  rw [extendedNames, extendedNames, n.filter_type_withoutComments (by decide), List.flatMap_map]
  refine List.flatMap_congr fun clause hclause => ?_
  have hclause' := h.namedChild (List.mem_of_mem_filter hclause)
  refine clause.filterMap_withoutComments (fun c hc _ => ?_) (fun c _ hcomment => ?_)
  · exact extendedName_withoutComments (hclause'.namedChild hc)
  · have htype : c.type = "comment" := of_decide_eq_true hcomment
    simp [extendedName, htype]

theorem methodOf_withoutComments : methodOf n.withoutComments = methodOf n := by
  have hrole (name : String) : roleOf n.withoutComments name = roleOf n name := by
    rw [roleOf, roleOf, n.hasToken_withoutComments (by decide),
      n.hasToken_withoutComments (by decide), n.hasToken_withoutComments (by decide)]
  rw [methodOf, methodOf, h.inField?]
  cases n.inField? "name" with
  | none => rfl
  | some name =>
      simp only [Option.map_some, Node.type_withoutComments, Node.text_withoutComments, hrole,
        paramLabels_withoutComments h]

theorem exportOf_withoutComments : exportOf n.withoutComments = exportOf n := by
  rw [exportOf, exportOf, n.hasToken_withoutComments (by decide), h.inField?]
  cases hd : n.inField? "declaration" with
  | none => rfl
  | some d =>
      have hd' := h.childOf hd
      simp only [Option.map_some, Node.type_withoutComments]
      by_cases hvariable : d.type ∈ variableNodes
      · rw [if_pos hvariable, if_pos hvariable, keywordOf_withoutComments hd' hvariable]
      · rw [if_neg hvariable, if_neg hvariable, hd'.inField?_map "name" _ fun c => by simp]

theorem fieldOf_withoutComments : fieldOf n.withoutComments = fieldOf n := by
  rw [fieldOf, fieldOf, n.hasToken_withoutComments (by decide), h.inField?, h.inField?,
    ← Option.map_or]
  cases (n.inField? "name").or (n.inField? "property") with
  | none => rfl
  | some name => simp only [Option.map_some, Node.type_withoutComments, Node.text_withoutComments]

theorem variablesOf_withoutComments (hn : n.type ∈ variableNodes) :
    variablesOf n.withoutComments = variablesOf n := by
  rw [variablesOf, variablesOf, keywordOf_withoutComments h hn,
    n.filter_type_withoutComments (by decide), List.filterMap_map]
  refine List.filterMap_congr fun d hd => ?_
  have hd' := h.namedChild (List.mem_of_mem_filter hd)
  rw [Function.comp_apply, hd'.inField?]
  cases d.inField? "name" with
  | none => rfl
  | some name => simp only [Option.map_some, Node.type_withoutComments, Node.text_withoutComments]

end Lookups

/-! ## The base of a class -/

/-- The name that a node is. -/
def plainName? (n : Node) : Option String :=
  if n.type = "identifier" then some n.text else none

/-- What a clause before the body of a class names as its base behind the comments. -/
def baseBehindComments (heritage : Node) : Option Node :=
  match heritage.namedChildren.find? fun c => !c.isComment && c.type ≠ "implements_clause" with
  | some clause =>
      if clause.type = "extends_clause" then
        match clause.inField? "value" with
        | some value => some value
        | none => clause.namedChildren.find? (!·.isComment)
      else some clause
  | none => none

/-- The clauses of a class before its body. -/
def heritages (n : Node) : List Node :=
  n.namedChildren.filter (·.type = "class_heritage")

/-- The base class behind the comments, if it is a plain name. -/
def baseNameBehindComments (n : Node) : Option String :=
  ((heritages n).filterMap fun heritage => (baseBehindComments heritage).bind plainName?).head?

/-- A comment stands in the place of a base that is a plain name. -/
def HidesBase (heritage : Node) : Prop :=
  (baseOf heritage).any isComment ∧ (baseBehindComments heritage).any (·.type = "identifier")

instance (heritage : Node) : Decidable (HidesBase heritage) :=
  inferInstanceAs (Decidable (_ ∧ _))

theorem baseName_eq_head? (n : Node) :
    baseName n =
      ((heritages n).filterMap fun heritage => (baseOf heritage).bind plainName?).head? := by
  refine congrArg List.head? (List.filterMap_congr fun heritage _ => ?_)
  cases baseOf heritage <;> rfl

/-- A comment stands in the place of the base, or the base is the one behind the comments. -/
theorem baseOf_cases (heritage : Node) :
    baseOf heritage = baseBehindComments heritage ∨
      ∃ c, baseOf heritage = some c ∧ c.isComment = true := by
  rw [baseOf, baseBehindComments]
  rcases Node.find?_cases (·.type ≠ "implements_clause") heritage.namedChildren with
    heq | ⟨c, hfound, hc⟩
  · rw [heq]
    cases heritage.namedChildren.find? fun c =>
        !c.isComment && decide (c.type ≠ "implements_clause") with
    | none => exact .inl rfl
    | some clause =>
        simp only
        split
        · cases clause.inField? "value" with
          | some value => exact .inl rfl
          | none =>
              have hfirst : clause.namedChildren.head? = clause.namedChildren.find? fun _ => true := by
                rw [← List.head?_filter, List.filter_true]
              simp only [hfirst]
              simpa only [Bool.and_true] using Node.find?_cases (fun _ => true) clause.namedChildren
        · exact .inl rfl
  · -- the comment is no extends clause, so it is the base itself
    have htype : c.type = "comment" := of_decide_eq_true hc
    rw [hfound]
    exact .inr ⟨c, by simp [htype], hc⟩

theorem baseOf_withoutComments {heritage : Node} (h : CommentsApart heritage) :
    baseOf heritage.withoutComments = (baseBehindComments heritage).map Node.withoutComments := by
  rw [baseOf, baseBehindComments, Node.find?_withoutComments _ fun c => by simp]
  cases hclause : heritage.namedChildren.find? fun c =>
      !c.isComment && decide (c.type ≠ "implements_clause") with
  | none => rfl
  | some clause =>
      have hclause' := h.namedChild (List.mem_of_find?_eq_some hclause)
      simp only [Option.map_some, Node.type_withoutComments, hclause'.inField?]
      split
      · cases clause.inField? "value" with
        | some value => rfl
        | none =>
            simp only [Option.map_none]
            rw [Node.namedChildren_withoutComments, List.head?_map, List.head?_filter]
      · rfl

theorem baseName_withoutComments {n : Node} (h : CommentsApart n) :
    baseName n.withoutComments = baseNameBehindComments n := by
  have hname : plainName? ∘ Node.withoutComments = plainName? :=
    funext fun c => by simp [plainName?]
  have hheritages : heritages n.withoutComments = (heritages n).map Node.withoutComments :=
    n.filter_type_withoutComments (by decide)
  rw [baseName_eq_head?, baseNameBehindComments, hheritages, List.filterMap_map]
  refine congrArg List.head? (List.filterMap_congr fun heritage hheritage => ?_)
  have hheritage' := h.namedChild (List.mem_of_mem_filter hheritage)
  rw [Function.comp_apply, baseOf_withoutComments hheritage', Option.bind_map, hname]

theorem bind_baseOf_eq_iff (heritage : Node) :
    (baseOf heritage).bind plainName? = (baseBehindComments heritage).bind plainName? ↔
      ¬HidesBase heritage := by
  have hcomment {c : Node} (hc : c.isComment = true) : c.type ≠ "identifier" := by
    rw [of_decide_eq_true hc]
    decide
  rcases baseOf_cases heritage with heq | ⟨c, hbase, hc⟩
  · refine iff_of_true (by rw [heq]) ?_
    rintro ⟨hhidden, hname⟩
    rw [← heq] at hname
    cases hbase : baseOf heritage with
    | none =>
        rw [hbase] at hhidden
        cases hhidden
    | some c =>
        rw [hbase] at hhidden hname
        exact hcomment hhidden (of_decide_eq_true hname)
  · rw [HidesBase, hbase, Option.bind_some, plainName?, if_neg (hcomment hc), Option.any_some,
      and_iff_right hc]
    cases baseBehindComments heritage with
    | none => simp
    | some base =>
        rw [Option.bind_some, plainName?]
        by_cases hname : base.type = "identifier" <;> simp [hname]

/-- Where a class has one clause before its body at most, the base is found as it is behind the
comments unless one of them hides it. -/
theorem baseName_eq_iff {n : Node} (hone : (heritages n).length ≤ 1) :
    baseName n = baseNameBehindComments n ↔ ∀ heritage ∈ heritages n, ¬HidesBase heritage := by
  rw [baseName_eq_head?, baseNameBehindComments]
  match heritages n, hone with
  | [], _ => simp
  | [heritage], _ =>
      have hhead (f : Node → Option String) : ([heritage].filterMap f).head? = f heritage := by
        cases h : f heritage <;> simp [h]
      rw [hhead, hhead, bind_baseOf_eq_iff, List.forall_mem_singleton]

/-! ## What single nodes declare -/

/-- A declaration up to the base of a class. -/
def withoutBase : Declaration → Declaration
  | .classType name _ => .classType name none
  | d => d

/-- A node is a class with a name. -/
def NamedClass (n : Node) : Prop :=
  n.type ∈ classNodes ∧ (n.inField? "name").isSome

instance (n : Node) : Decidable (NamedClass n) :=
  inferInstanceAs (Decidable (_ ∧ _))

section Own

variable {n : Node} {t : String} {inFunction : Bool}

theorem own_of_class (hn : n.type ∈ classNodes) : own t inFunction n =
    ((n.inField? "name").map fun s => .classType s.text (baseName n)).toList := by
  have hkind : (classNodes, fun n => (n.inField? "name").map fun s =>
      .classType s.text (baseName n)) ∈ anywhere := by
    simp [anywhere]
  exact own_of_anywhere hkind hn

theorem own_of_isComment (h : n.isComment = true) : own t inFunction n = [] := by
  have htype : n.type = "comment" := of_decide_eq_true h
  refine own_of_other ?_ ?_ fun kind hkind => ?_ <;> rw [htype]
  · decide
  · decide
  · revert kind
    simp [anywhere, classNodes, functionNodes, fieldNodes]

theorem own_class_withoutComments (h : CommentsApart n) (hn : n.type ∈ classNodes) :
    own t inFunction n.withoutComments =
      ((n.inField? "name").map fun s => .classType s.text (baseNameBehindComments n)).toList := by
  rw [own_of_class (by rwa [Node.type_withoutComments]), baseName_withoutComments h,
    h.inField?_map "name" _ fun c => by simp]

theorem own_withoutComments (h : CommentsApart n) (hn : n.type ∉ classNodes) :
    own t inFunction n.withoutComments = own t inFunction n := by
  have htype := n.type_withoutComments
  rcases own_cases n with hvariable | hmethod | ⟨kind, hkind, hn'⟩ | hnone
  · rw [own_of_variable hvariable, own_of_variable (by rwa [htype]),
      variablesOf_withoutComments h hvariable]
  · rw [own_of_method hmethod, own_of_method (by rwa [htype]), methodOf_withoutComments h]
  · rw [own_of_anywhere hkind hn', own_of_anywhere hkind (by rwa [htype])]
    refine congrArg Option.toList ?_
    simp only [anywhere, List.mem_cons, List.not_mem_nil, or_false] at hkind
    rcases hkind with rfl | rfl | rfl | rfl | rfl | rfl | rfl
    case inl => exact h.inField?_map "source" _ fun c => by simp
    case inr.inl => exact exportOf_withoutComments h
    case inr.inr.inl => exact absurd hn' hn
    case inr.inr.inr.inl =>
      simp only [extendedNames_withoutComments h]
      exact h.inField?_map "name" _ fun c => by simp
    case inr.inr.inr.inr.inl => exact h.inField?_map "name" _ fun c => by simp
    case inr.inr.inr.inr.inr.inl =>
      simp only [paramLabels_withoutComments h]
      exact h.inField?_map "name" _ fun c => by simp
    case inr.inr.inr.inr.inr.inr => exact fieldOf_withoutComments h
  · rw [hnone n rfl, hnone _ htype]

theorem map_withoutBase_own (h : CommentsApart n) :
    (own t inFunction n.withoutComments).map withoutBase =
      (own t inFunction n).map withoutBase := by
  by_cases hn : n.type ∈ classNodes
  · rw [own_class_withoutComments h hn, own_of_class hn]
    cases n.inField? "name" <;> rfl
  · rw [own_withoutComments h hn]

theorem own_withoutComments_iff (h : CommentsApart n) :
    own t inFunction n.withoutComments = own t inFunction n ↔
      (NamedClass n → baseName n = baseNameBehindComments n) := by
  by_cases hn : n.type ∈ classNodes
  · rw [own_class_withoutComments h hn, own_of_class hn, NamedClass]
    cases n.inField? "name" with
    | none => simp
    | some name => simp [hn, eq_comm]
  · exact iff_of_true (own_withoutComments h hn) fun hclass => absurd hclass.1 hn

end Own

/-! ## From nodes to trees -/

/-- Lists whose parts have the same lengths are the same if their parts are. -/
theorem flatMap_eq_iff {α β : Type} {l : List α} {f g : α → List β}
    (h : ∀ a ∈ l, (f a).length = (g a).length) :
    l.flatMap f = l.flatMap g ↔ ∀ a ∈ l, f a = g a := by
  have hlength : (l.map f).map List.length = (l.map g).map List.length := by
    rw [List.map_map, List.map_map]
    exact List.map_congr_left h
  rw [← List.map_inj_left, List.eq_iff_flatten_eq, and_iff_left hlength, List.flatMap_def,
    List.flatMap_def]

theorem nodes_of_isComment {c : Node} (hc : c.isComment = true) (hleaf : c.children = [])
    (t : String) (inFunction : Bool) : nodes t inFunction c = [] := by
  rw [nodes_eq_append, own_of_isComment hc, Node.namedChildren, hleaf]
  rfl

/-- The children that are left declare what all of them declare without comments. -/
theorem flatMap_nodes_withoutComments {n : Node} (h : CommentsApart n) (t : String)
    (inFunction : Bool) :
    n.withoutComments.namedChildren.flatMap (nodes t inFunction) =
      n.namedChildren.flatMap fun c => nodes t inFunction c.withoutComments := by
  refine n.flatMap_withoutComments (fun _ _ _ => rfl) fun c hc hcomment => ?_
  have hleaf := (h.namedChild hc).leaf c c.mem_all_self hcomment
  refine nodes_of_isComment (by simpa [isComment] using hcomment) ?_ t inFunction
  rw [Node.children_withoutComments, hleaf]
  rfl

theorem map_withoutBase_nodes {n : Node} (h : CommentsApart n) (t : String) (inFunction : Bool) :
    (nodes t inFunction n.withoutComments).map withoutBase =
      (nodes t inFunction n).map withoutBase := by
  induction n using namedChildren_induction generalizing t inFunction with
  | h n ih =>
      rw [nodes_eq_append, nodes_eq_append, List.map_append, List.map_append,
        map_withoutBase_own h, Node.type_withoutComments, flatMap_nodes_withoutComments h,
        List.map_flatMap, List.map_flatMap]
      refine congrArg (_ ++ ·) (List.flatMap_congr fun c hc => ?_)
      exact ih c hc (h.namedChild hc) _ _

theorem length_nodes_withoutComments {n : Node} (h : CommentsApart n) (t : String)
    (inFunction : Bool) :
    (nodes t inFunction n.withoutComments).length = (nodes t inFunction n).length := by
  simpa only [List.length_map] using congrArg List.length (map_withoutBase_nodes h t inFunction)

theorem flatMap_nodes_withoutComments_iff {n : Node} (h : CommentsApart n) (t : String)
    (inFunction : Bool) :
    n.withoutComments.namedChildren.flatMap (nodes t inFunction) =
        n.namedChildren.flatMap (nodes t inFunction) ↔
      ∀ c ∈ n.namedChildren, nodes t inFunction c.withoutComments = nodes t inFunction c := by
  rw [flatMap_nodes_withoutComments h]
  exact flatMap_eq_iff fun c hc => length_nodes_withoutComments (h.namedChild hc) t inFunction

theorem nodes_withoutComments_iff {n : Node} (h : CommentsApart n) (t : String) (inFunction : Bool) :
    nodes t inFunction n.withoutComments = nodes t inFunction n ↔
      ∀ place m, n.descendant? place = some m → NamedClass m →
        baseName m = baseNameBehindComments m := by
  induction n using namedChildren_induction generalizing t inFunction with
  | h n ih =>
      have hlength : (own t inFunction n.withoutComments).length = (own t inFunction n).length := by
        simpa only [List.length_map] using congrArg List.length (map_withoutBase_own h)
      rw [forall_descendant?_iff, nodes_eq_append, nodes_eq_append, Node.type_withoutComments,
        List.append_eq_append_iff_of_size_eq_left hlength, own_withoutComments_iff h,
        flatMap_nodes_withoutComments_iff h]
      refine and_congr_right' (forall₂_congr fun c hc => ?_)
      exact ih c hc (h.namedChild hc) _ _

/-- A class that a tree declares. -/
def DeclaresClass (root n : Node) : Prop :=
  NamedClass n ∧ ∃ place, place ≠ [] ∧ root.descendant? place = some n

theorem forall_declaresClass_iff {root : Node} {P : Node → Prop} :
    (∀ n, DeclaresClass root n → P n) ↔
      ∀ place n, place ≠ [] → root.descendant? place = some n → NamedClass n → P n :=
  ⟨fun h place n hne hn hclass => h n ⟨hclass, place, hne, hn⟩,
    fun h n ⟨hclass, place, hne, hn⟩ => h place n hne hn hclass⟩

theorem forall_placesBelow_iff {root : Node} {P : Node → Prop} :
    (∀ place ∈ placesBelow root, ∀ n ∈ root.descendant? place, NamedClass n → P n) ↔
      ∀ n, DeclaresClass root n → P n := by
  rw [forall_declaresClass_iff]
  exact ⟨fun h place n hne hn => h place (mem_placesBelow.mpr ⟨hne, Option.isSome_of_mem hn⟩) n hn,
    fun h place hplace n => h place n (mem_placesBelow.mp hplace).1⟩

instance (root : Node) (P : Node → Prop) [DecidablePred P] :
    Decidable (∀ n, DeclaresClass root n → P n) :=
  decidable_of_iff _ forall_placesBelow_iff

theorem declarations_withoutComments_iff {root : Node} (h : CommentsApart root) :
    declarations root.withoutComments = declarations root ↔
      ∀ n, DeclaresClass root n → baseName n = baseNameBehindComments n := by
  rw [forall_declaresClass_iff, forall_below_iff, declarations_eq_nodes, declarations_eq_nodes,
    Node.type_withoutComments, flatMap_nodes_withoutComments_iff h]
  exact forall₂_congr fun c hc => nodes_withoutComments_iff (h.namedChild hc) _ _

theorem map_withoutBase_declarations {root : Node} (h : CommentsApart root) :
    (declarations root.withoutComments).map withoutBase =
      (declarations root).map withoutBase := by
  rw [declarations_eq_nodes, declarations_eq_nodes, Node.type_withoutComments,
    flatMap_nodes_withoutComments h, List.map_flatMap, List.map_flatMap]
  exact List.flatMap_congr fun c hc => map_withoutBase_nodes (h.namedChild hc) _ _

/-- Comments change what a tree declares at most in the bases of classes, and they change nothing
if and only if the base of every declared class is the one behind the comments. Where classes have
one clause before their bodies at most, that is if no comment hides the base of one. -/
theorem declarations_withoutComments {root : Node} (h : CommentsApart root) :
    (declarations root.withoutComments).map withoutBase = (declarations root).map withoutBase ∧
    (declarations root.withoutComments = declarations root ↔
      ∀ n, DeclaresClass root n → baseName n = baseNameBehindComments n) ∧
    ((∀ n, DeclaresClass root n → (heritages n).length ≤ 1) →
      (declarations root.withoutComments = declarations root ↔
        ∀ n, DeclaresClass root n → ∀ heritage ∈ heritages n, ¬HidesBase heritage)) := by
  refine ⟨map_withoutBase_declarations h, declarations_withoutComments_iff h, fun hone => ?_⟩
  rw [declarations_withoutComments_iff h]
  exact forall₂_congr fun n hn => baseName_eq_iff (hone n hn)

/-- Comments among parameters, in a body and behind a base are passed over. -/
theorem declarations_withoutComments_passed_over :
    let comment : Node := .mk "comment" true none "/* c */" []
    let name (type text : String) : Node := .mk type true (some "name") text []
    let identifier (text : String) : Node := .mk "identifier" true none text []
    let parameters : Node := .mk "formal_parameters" true (some "parameters") ""
      [comment, identifier "x"]
    let body : Node := .mk "class_body" true (some "body") ""
      [comment, .mk "method_definition" true none "" [name "property_identifier" "m", parameters]]
    let root : Node := .mk "program" true none ""
      [comment, .mk "class_declaration" true none ""
        [.mk "class" false none "class" [], comment, name "identifier" "A",
          .mk "class_heritage" true none ""
            [.mk "extends" false none "extends" [], identifier "B", comment], body]]
    CommentsApart root ∧
      declarations root = [.classType "A" (some "B"), .method "m" .method ["x"]] ∧
      declarations root.withoutComments = declarations root := by
  intro comment name identifier parameters body root
  have hapart : CommentsApart root := ⟨by decide, by decide, by decide⟩
  have hdeclared : declarations root =
      [.classType "A" (some "B"), .method "m" .method ["x"]] := by decide
  exact ⟨hapart, hdeclared, ((declarations_withoutComments hapart).2.2 (by decide)).mpr (by decide)⟩

/-- A comment in front of a base hides it. -/
theorem declarations_withoutComments_hidden_base :
    let root : Node := .mk "program" true none ""
      [.mk "class_declaration" true none ""
        [.mk "class" false none "class" [], .mk "identifier" true (some "name") "A" [],
          .mk "class_heritage" true none ""
            [.mk "extends" false none "extends" [], .mk "comment" true none "/* c */" [],
              .mk "identifier" true none "B" []],
          .mk "class_body" true (some "body") "\x7b\x7d" []]]
    CommentsApart root ∧ declarations root = [.classType "A" none] ∧
      declarations root.withoutComments = [.classType "A" (some "B")] :=
  ⟨⟨by decide, by decide, by decide⟩, by decide, by decide⟩

end CodeBrief.Walk
