import CodeBrief.Digest.Walk
import CodeBrief.Proofs.NodePlaces

/-!
# A tree declares what its nodes declare, one by one

The walk carries a list and a flag down the tree. Said without either: a tree
declares, place by place, what the node there declares (`declarations_eq_flatMap`).
That depends on the node, on the type of its parent, and on whether one of its
proper ancestors below the root is a function (`Surrounded`), at whatever distance.

The flag of the walk is not about the root but about the nodes above, so the
passage goes through the declarations at a place as they are found on the way down
(`declaredAlong`), where the flag is that of the way so far.
-/

namespace CodeBrief.Walk

open Node (descendant? placesOf placesBelow placesOf_eq_cons mem_placesBelow pairwise_placesBelow
  flatMap_placesBelow namedChildren_induction)

/-! ## Declarations by place -/

/-- The type of the parent of the node at a place. -/
def parentType (root : Node) (place : List Nat) : String :=
  ((root.descendant? place.dropLast).map (·.type)).getD ""

/-- A function stands above a place, below the root. -/
def Surrounded (root : Node) (place : List Nat) : Prop :=
  ∃ k, k < place.length ∧ 0 < k ∧ (root.descendant? (place.take k)).any (·.type ∈ functionScopes)

instance (root : Node) (place : List Nat) : Decidable (Surrounded root place) :=
  inferInstanceAs (Decidable (∃ k, k < place.length ∧ _))

/-- What the node at a place declares. -/
def declaredAt (root : Node) (place : List Nat) : List Declaration :=
  match root.descendant? place with
  | some n => own (parentType root place) (decide (Surrounded root place)) n
  | none => []

/-! ## The walk, place by place -/

/-- What is declared at a place below a node, where the type of its parent and whether a function
is above it are known. -/
def declaredAlong (parentType : String) (inFunction : Bool) (n : Node) : List Nat → List Declaration
  | [] => own parentType inFunction n
  | i :: place =>
      match n.namedChildren[i]? with
      | some c => declaredAlong n.type (inFunction || n.type ∈ functionScopes) c place
      | none => []

theorem below_eq_flatMap (parentType : String) (inFunction : Bool) (children : List Node) :
    below parentType inFunction children =
      (children.filter (·.named)).flatMap (nodes parentType inFunction) := by
  induction children with
  | nil => rw [below, List.filter_nil, List.flatMap_nil]
  | cons n rest ih =>
      rw [below, ih]
      split
      · next h => rw [List.filter_cons_of_pos h, List.flatMap_cons]
      · next h => rw [List.filter_cons_of_neg h, List.nil_append]

theorem nodes_eq_append (parentType : String) (inFunction : Bool) (n : Node) :
    nodes parentType inFunction n = own parentType inFunction n ++
      n.namedChildren.flatMap (nodes n.type (inFunction || n.type ∈ functionScopes)) := by
  cases n with
  | mk type named field text children => rw [nodes, below_eq_flatMap]; rfl

/-- A node and what is below it declare what they declare place by place. -/
theorem nodes_eq_flatMap (parentType : String) (inFunction : Bool) (n : Node) :
    nodes parentType inFunction n =
      (placesOf n).flatMap (declaredAlong parentType inFunction n) := by
  induction n using namedChildren_induction generalizing parentType inFunction with
  | h n ih =>
      rw [nodes_eq_append, placesOf_eq_cons, List.flatMap_cons, declaredAlong,
        flatMap_placesBelow _
          (fun c => declaredAlong n.type (inFunction || n.type ∈ functionScopes) c) n
          (fun i c place hc => by rw [declaredAlong, hc])]
      rw [List.flatMap_def, List.flatMap_def]
      refine congrArg (_ ++ ·) (congrArg List.flatten (List.map_congr_left fun c hc => ?_))
      exact ih c hc _ _

/-! ## From the way down to the ancestors -/

/-- A node is a function, or one stands between it and a place below it. -/
def Enclosed (n : Node) (place : List Nat) : Prop :=
  ∃ k, k < place.length ∧ (n.descendant? (place.take k)).any (·.type ∈ functionScopes)

instance (n : Node) (place : List Nat) : Decidable (Enclosed n place) :=
  inferInstanceAs (Decidable (∃ k, k < place.length ∧ _))

section Child

variable {n c : Node} {i : Nat} (hc : n.namedChildren[i]? = some c)

include hc

theorem descendant?_cons (place : List Nat) :
    n.descendant? (i :: place) = c.descendant? place := by
  rw [descendant?, hc, Option.bind_some]

theorem surrounded_cons {place : List Nat} : Surrounded n (i :: place) ↔ Enclosed c place := by
  constructor
  · rintro ⟨k, hk, hpos, hany⟩
    obtain ⟨k, rfl⟩ := Nat.exists_eq_succ_of_ne_zero (Nat.ne_of_gt hpos)
    rw [List.take_succ_cons, descendant?_cons hc] at hany
    exact ⟨k, Nat.lt_of_succ_lt_succ hk, hany⟩
  · rintro ⟨k, hk, hany⟩
    refine ⟨k + 1, Nat.succ_lt_succ hk, Nat.succ_pos k, ?_⟩
    rw [List.take_succ_cons, descendant?_cons hc]
    exact hany

theorem enclosed_cons {place : List Nat} :
    Enclosed n (i :: place) ↔ n.type ∈ functionScopes ∨ Enclosed c place := by
  rw [← surrounded_cons hc]
  constructor
  · rintro ⟨k, hk, hany⟩
    cases k with
    | zero => exact Or.inl (of_decide_eq_true hany)
    | succ k => exact Or.inr ⟨k + 1, hk, Nat.succ_pos k, hany⟩
  · rintro (h | ⟨k, hk, _, hany⟩)
    · exact ⟨0, Nat.succ_pos _, decide_eq_true h⟩
    · exact ⟨k, hk, hany⟩

theorem parentType_cons (place : List Nat) :
    parentType n (i :: place) = if place = [] then n.type else parentType c place := by
  rw [parentType, parentType]
  cases place with
  | nil => rfl
  | cons j place => rw [List.dropLast_cons_cons, descendant?_cons hc, if_neg (List.cons_ne_nil _ _)]

end Child

/-- The flag that comes down to a place says whether a function was met on the way. -/
theorem declaredAlong_eq (t : String) (inFunction : Bool) (n : Node) (place : List Nat) :
    declaredAlong t inFunction n place =
      match n.descendant? place with
      | some m =>
          own (if place = [] then t else parentType n place)
            (inFunction || decide (Enclosed n place)) m
      | none => [] := by
  induction place generalizing t inFunction n with
  | nil =>
      have hout : ¬Enclosed n [] := fun ⟨_, hk, _⟩ => absurd hk (Nat.not_lt_zero _)
      simp [declaredAlong, descendant?, hout]
  | cons i place ih =>
      rw [declaredAlong]
      cases hc : n.namedChildren[i]? with
      | none => simp [descendant?, hc]
      | some c =>
          rw [descendant?_cons hc, parentType_cons hc, if_neg (List.cons_ne_nil _ _)]
          simp only [ih, enclosed_cons hc, Bool.decide_or, Bool.or_assoc]

theorem declaredAt_cons {root c : Node} {i : Nat} (hc : root.namedChildren[i]? = some c)
    (place : List Nat) :
    declaredAt root (i :: place) = declaredAlong root.type false c place := by
  rw [declaredAt, declaredAlong_eq, descendant?_cons hc, parentType_cons hc]
  simp only [surrounded_cons hc, Bool.false_or]

theorem declarations_eq_nodes (root : Node) :
    declarations root = root.namedChildren.flatMap (nodes root.type false) := by
  rw [declarations, below_eq_flatMap, Node.namedChildren]

theorem declarations_eq_placesBelow (root : Node) :
    declarations root = (placesBelow root).flatMap (declaredAt root) := by
  rw [declarations_eq_nodes, flatMap_placesBelow (declaredAt root) (declaredAlong root.type false) root
    fun i c place hc => declaredAt_cons hc place]
  exact congrArg (List.flatMap · root.namedChildren)
    (funext fun c => nodes_eq_flatMap root.type false c)

/-! ## What single nodes declare -/

/-- The types of nodes that may stand anywhere, with what a node of such a type declares. -/
def anywhere : List (List String × (Node → Option Declaration)) :=
  [(["import_statement"], fun n => (n.inField? "source").map fun s => .imported (unquoted s.text)),
   (["export_statement"], exportOf),
   (classNodes, fun n => (n.inField? "name").map fun s => .classType s.text (baseName n)),
   (["interface_declaration"],
    fun n => (n.inField? "name").map fun s => .interfaceType s.text (extendedNames n)),
   (["type_alias_declaration"], fun n => (n.inField? "name").map fun s => .typeAlias s.text),
   (functionNodes, fun n => (n.inField? "name").map fun s => .function s.text (paramLabels true n)),
   (fieldNodes, fieldOf)]

/-- Whether a declaration is made only by nodes at some places. -/
def placed : Declaration → Bool
  | .method .. => true
  | .binding .. => true
  | _ => false

/-- The variable of a declarator with a plain name. -/
def declaratorBinding? (keyword : String) (declarator : Node) : Option Declaration :=
  if declarator.type = "variable_declarator" then
    (declarator.inField? "name").bind fun name =>
      if name.type = "identifier" then some (.binding keyword name.text) else none
  else none

/-- What a node of a tree declares, by its type. -/
structure DeclaredByType (root : Node) (place : List Nat) (n : Node) : Prop where
  bindings : n.type ∈ variableNodes → ∀ first rest, n.children = first :: rest →
    declaredAt root place =
      if Surrounded root place then [] else n.namedChildren.filterMap (declaratorBinding? first.type)
  ofVariable : ∀ keyword name, .binding keyword name ∈ declaredAt root place →
    n.type ∈ variableNodes ∧ ¬Surrounded root place
  methods : n.type = "method_definition" →
    declaredAt root place = if parentType root place = "class_body" then (methodOf n).toList else []
  ofMethod : ∀ name role params, .method name role params ∈ declaredAt root place →
    n.type = "method_definition" ∧ parentType root place = "class_body"
  others : ∀ kind ∈ anywhere, n.type ∈ kind.1 → declaredAt root place = (kind.2 n).toList

section Own

variable {t : String} {inFunction : Bool} {n : Node} {d : Declaration}

theorem own_of_variable (h : n.type ∈ variableNodes) :
    own t inFunction n = if inFunction then [] else variablesOf n := by
  simp only [variableNodes, List.mem_cons, List.not_mem_nil, or_false] at h
  rcases h with h | h <;> cases inFunction <;>
    simp [own, h, classNodes, functionNodes, fieldNodes, variableNodes]

theorem own_of_method (h : n.type = "method_definition") :
    own t inFunction n = if t = "class_body" then (methodOf n).toList else [] := by
  simp [own, h, classNodes, functionNodes, fieldNodes, variableNodes]

theorem own_of_anywhere {kind : List String × (Node → Option Declaration)} (hkind : kind ∈ anywhere)
    (h : n.type ∈ kind.1) : own t inFunction n = (kind.2 n).toList := by
  simp only [anywhere, List.mem_cons, List.not_mem_nil, or_false] at hkind
  rcases hkind with rfl | rfl | rfl | rfl | rfl | rfl | rfl <;>
    simp only [classNodes, functionNodes, fieldNodes, List.mem_cons, List.not_mem_nil, or_false] at h
  case inl => simp [own, h]
  case inr.inl => simp [own, h]
  case inr.inr.inl => rcases h with h | h <;> simp [own, h, classNodes]
  case inr.inr.inr.inl => simp [own, h, classNodes]
  case inr.inr.inr.inr.inl => simp [own, h, classNodes]
  case inr.inr.inr.inr.inr.inl => rcases h with h | h <;> simp [own, h, classNodes, functionNodes]
  case inr.inr.inr.inr.inr.inr =>
    rcases h with h | h <;> simp [own, h, classNodes, functionNodes, fieldNodes]

theorem own_of_other (hvariable : n.type ∉ variableNodes) (hmethod : n.type ≠ "method_definition")
    (hkind : ∀ kind ∈ anywhere, n.type ∉ kind.1) : own t inFunction n = [] := by
  simp [anywhere] at hkind
  simp [own, hkind, hvariable, hmethod]

/-- Every node that declares something is of one of these types. -/
theorem own_cases (n : Node) : n.type ∈ variableNodes ∨ n.type = "method_definition" ∨
    (∃ kind ∈ anywhere, n.type ∈ kind.1) ∨
      ∀ m : Node, m.type = n.type → ∀ t inFunction, own t inFunction m = [] := by
  by_cases hvariable : n.type ∈ variableNodes
  · exact Or.inl hvariable
  · by_cases hmethod : n.type = "method_definition"
    · exact Or.inr (Or.inl hmethod)
    · by_cases hkind : ∃ kind ∈ anywhere, n.type ∈ kind.1
      · exact Or.inr (Or.inr (Or.inl hkind))
      · refine Or.inr (Or.inr (Or.inr fun m htype t inFunction => ?_))
        rw [← htype] at hvariable hmethod hkind
        exact own_of_other hvariable hmethod fun kind hmem hn => hkind ⟨kind, hmem, hn⟩

theorem variablesOf_eq_filterMap {first : Node} {rest : List Node} (h : n.children = first :: rest) :
    variablesOf n = n.namedChildren.filterMap (declaratorBinding? first.type) := by
  have hkeyword : keywordOf n = first.type := by rw [keywordOf, h]; rfl
  rw [variablesOf, List.filterMap_filter, hkeyword]
  refine congrArg (List.filterMap · n.namedChildren) (funext fun d => ?_)
  rw [declaratorBinding?]
  cases d.inField? "name" <;> simp

theorem eq_binding_of_mem_variablesOf (h : d ∈ variablesOf n) :
    ∃ keyword name, d = .binding keyword name := by
  obtain ⟨declarator, _, hd⟩ := List.mem_filterMap.mp h
  split at hd
  · split at hd
    · cases hd
      exact ⟨_, _, rfl⟩
    · cases hd
  · cases hd

theorem eq_method_of_methodOf (h : methodOf n = some d) :
    ∃ name role params, d = .method name role params := by
  rw [methodOf] at h
  split at h
  · split at h
    · cases h
      exact ⟨_, _, _, rfl⟩
    · cases h
  · cases h

theorem eq_exported_of_exportOf (h : exportOf n = some d) :
    ∃ keyword name, d = .exported keyword name := by
  rw [exportOf] at h
  split at h
  · cases h
  · split at h
    · split at h
      · cases h
        exact ⟨_, _, rfl⟩
      · split at h
        · obtain ⟨name, _, rfl⟩ := Option.map_eq_some_iff.mp h
          exact ⟨_, _, rfl⟩
        · cases h
    · cases h

theorem eq_property_of_fieldOf (h : fieldOf n = some d) :
    ∃ name isStatic, d = .property name isStatic := by
  rw [fieldOf] at h
  split at h
  · split at h
    · cases h
      exact ⟨_, _, rfl⟩
    · cases h
  · cases h

/-- Methods and variables are not declared anywhere. -/
theorem not_placed_of_anywhere {kind : List String × (Node → Option Declaration)}
    (hkind : kind ∈ anywhere) (h : kind.2 n = some d) : placed d = false := by
  simp only [anywhere, List.mem_cons, List.not_mem_nil, or_false] at hkind
  rcases hkind with rfl | rfl | rfl | rfl | rfl | rfl | rfl
  case inr.inl =>
    obtain ⟨_, _, rfl⟩ := eq_exported_of_exportOf h
    rfl
  case inr.inr.inr.inr.inr.inr =>
    obtain ⟨_, _, rfl⟩ := eq_property_of_fieldOf h
    rfl
  all_goals
    obtain ⟨_, _, rfl⟩ := Option.map_eq_some_iff.mp h
    rfl

theorem of_binding_mem_own {keyword name : String} (h : .binding keyword name ∈ own t inFunction n) :
    n.type ∈ variableNodes ∧ inFunction = false := by
  rcases own_cases n with hn | hn | ⟨kind, hkind, hn⟩ | hnone
  · refine ⟨hn, ?_⟩
    rw [own_of_variable hn] at h
    cases inFunction with
    | false => rfl
    | true => cases h
  · rw [own_of_method hn] at h
    split at h
    · obtain ⟨_, _, _, heq⟩ := eq_method_of_methodOf (Option.mem_toList.mp h)
      cases heq
    · cases h
  · rw [own_of_anywhere hkind hn] at h
    exact absurd (not_placed_of_anywhere hkind (Option.mem_toList.mp h)) (by simp [placed])
  · rw [hnone n rfl] at h
    cases h

theorem of_method_mem_own {name : String} {role : MethodRole} {params : List String}
    (h : .method name role params ∈ own t inFunction n) :
    n.type = "method_definition" ∧ t = "class_body" := by
  rcases own_cases n with hn | hn | ⟨kind, hkind, hn⟩ | hnone
  · rw [own_of_variable hn] at h
    split at h
    · cases h
    · obtain ⟨_, _, heq⟩ := eq_binding_of_mem_variablesOf h
      cases heq
  · refine ⟨hn, ?_⟩
    rw [own_of_method hn] at h
    split at h
    · assumption
    · cases h
  · rw [own_of_anywhere hkind hn] at h
    exact absurd (not_placed_of_anywhere hkind (Option.mem_toList.mp h)) (by simp [placed])
  · rw [hnone n rfl] at h
    cases h

end Own

theorem declaredAt_eq_own {root n : Node} {place : List Nat} (h : root.descendant? place = some n) :
    declaredAt root place = own (parentType root place) (decide (Surrounded root place)) n := by
  rw [declaredAt, h]

theorem declaredByType {root n : Node} {place : List Nat} (h : root.descendant? place = some n) :
    DeclaredByType root place n where
  bindings hn first rest hfirst := by
    rw [declaredAt_eq_own h, own_of_variable hn, variablesOf_eq_filterMap hfirst]
    simp only [decide_eq_true_eq]
  ofVariable keyword name hmem := by
    rw [declaredAt_eq_own h] at hmem
    obtain ⟨hn, hout⟩ := of_binding_mem_own hmem
    exact ⟨hn, of_decide_eq_false hout⟩
  methods hn := by rw [declaredAt_eq_own h, own_of_method hn]
  ofMethod name role params hmem := by
    rw [declaredAt_eq_own h] at hmem
    exact of_method_mem_own hmem
  others kind hkind hn := by rw [declaredAt_eq_own h, own_of_anywhere hkind hn]

/-- A tree declares, place by place in the order of a dictionary, what the node at each place
declares by its type, its parent's type and the functions above it. -/
theorem declarations_eq_flatMap (root : Node) :
    ∃ places : List (List Nat),
      (∀ place, place ∈ places ↔ place ≠ [] ∧ (root.descendant? place).isSome) ∧
      places.Pairwise (List.Lex (· < ·)) ∧
      declarations root = places.flatMap (declaredAt root) ∧
      ∀ place n, root.descendant? place = some n → DeclaredByType root place n :=
  ⟨placesBelow root, fun _ => mem_placesBelow, pairwise_placesBelow root,
    declarations_eq_placesBelow root, fun _ _ => declaredByType⟩

/-- A variable two levels below a function is left out, and a class beside it is not. -/
example :
    let identifier (name : String) : Node := .mk "identifier" true (some "name") name []
    let bind (name : String) : Node := .mk "lexical_declaration" true none ""
      [.mk "let" false none "let" [],
        .mk "variable_declarator" true none "" [identifier name]]
    let body : Node := .mk "statement_block" true (some "body") ""
      [.mk "if_statement" true none "" [bind "x"],
        .mk "class_declaration" true none "" [identifier "C"]]
    declarations (.mk "program" true none ""
      [bind "y", .mk "function_declaration" true none "" [identifier "f", body], bind "z"]) =
      [.binding "let" "y", .function "f" [], .classType "C" none, .binding "let" "z"] := by
  decide

end CodeBrief.Walk
