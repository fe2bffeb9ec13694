import CodeBrief.Digest.Node

/-!
# Places in a syntax tree

The place of a node is the list of positions that lead to it through named
children. The places of a tree in pre-order (`placesOf`) are exactly those that
lead to a node (`mem_placesOf`), and they are in the order of a dictionary
(`pairwise_placesOf`), so that pre-order needs no walk to say what it is.
-/

namespace CodeBrief.Node

/-- The node that a list of positions among named children leads to. -/
def descendant? : (place : List Nat) → Node → Option Node
  | [], n => some n
  | i :: place, n => n.namedChildren[i]?.bind (descendant? place)

mutual

/-- The places of a node and of the nodes below it. -/
def placesOf : Node → List (List Nat)
  | .mk _ _ _ _ children => [] :: placesFrom 0 children

/-- The places of the named nodes of a list and of the nodes below them, where the first has a
position. -/
def placesFrom (i : Nat) : List Node → List (List Nat)
  | [] => []
  | n :: rest =>
      if n.named then (placesOf n).map (i :: ·) ++ placesFrom (i + 1) rest else placesFrom i rest

end

/-- The places below a node. -/
def placesBelow (n : Node) : List (List Nat) :=
  n.namedChildren.zipIdx.flatMap fun c => (placesOf c.1).map (c.2 :: ·)

theorem placesFrom_eq_flatMap (i : Nat) (nodes : List Node) :
    placesFrom i nodes =
      ((nodes.filter (·.named)).zipIdx i).flatMap fun c => (placesOf c.1).map (c.2 :: ·) := by
  induction nodes generalizing i with
  | nil => rw [placesFrom, List.filter_nil, List.zipIdx_nil, List.flatMap_nil]
  | cons n nodes ih =>
      rw [placesFrom]
      split
      · next h => rw [List.filter_cons_of_pos h, List.zipIdx_cons, List.flatMap_cons, ih]
      · next h => rw [List.filter_cons_of_neg h, ih]

theorem placesOf_eq_cons (n : Node) : placesOf n = [] :: placesBelow n := by
  cases n with
  | mk type named field text children => rw [placesOf, placesFrom_eq_flatMap]; rfl

theorem mem_placesOf {n : Node} {place : List Nat} :
    place ∈ placesOf n ↔ (n.descendant? place).isSome := by
  induction place generalizing n with
  | nil => simp [placesOf_eq_cons, descendant?]
  | cons i place ih =>
      rw [placesOf_eq_cons, List.mem_cons, or_iff_right (List.cons_ne_nil _ _), placesBelow,
        List.mem_flatMap, descendant?]
      constructor
      · rintro ⟨⟨c, j⟩, hc, hplace⟩
        obtain ⟨rest, hrest, heq⟩ := List.mem_map.mp hplace
        cases heq
        rw [List.mk_mem_zipIdx_iff_getElem?] at hc
        rw [hc]
        exact ih.mp hrest
      · intro h
        cases hc : n.namedChildren[i]? with
        | none =>
            rw [hc] at h
            cases h
        | some c =>
            rw [hc] at h
            exact ⟨(c, i), List.mk_mem_zipIdx_iff_getElem?.mpr hc,
              List.mem_map.mpr ⟨place, ih.mpr h, rfl⟩⟩

theorem mem_placesBelow {n : Node} {place : List Nat} :
    place ∈ placesBelow n ↔ place ≠ [] ∧ (n.descendant? place).isSome := by
  rw [← mem_placesOf, placesOf_eq_cons, List.mem_cons]
  constructor
  · intro h
    refine ⟨?_, Or.inr h⟩
    rintro rfl
    obtain ⟨c, _, hc⟩ := List.mem_flatMap.mp h
    obtain ⟨rest, _, heq⟩ := List.mem_map.mp hc
    cases heq
  · rintro ⟨hne, h⟩
    exact h.resolve_left hne

/-- What holds of a node if it holds of its named children holds of every node. -/
theorem namedChildren_induction {P : Node → Prop}
    (h : ∀ n : Node, (∀ c ∈ n.namedChildren, P c) → P n) (n : Node) : P n :=
  h n fun c _ => namedChildren_induction h c
termination_by sizeOf n
decreasing_by
  next hc =>
    cases n with
    | mk type named field text children =>
        have hsize := List.sizeOf_lt_of_mem (List.mem_filter.mp hc).1
        simp only [Node.mk.sizeOf_spec, Node.children] at hsize ⊢
        omega

/-- What holds at every place below a node holds at every place of its named children. -/
theorem forall_below_iff {P : Node → Prop} {n : Node} :
    (∀ place m, place ≠ [] → n.descendant? place = some m → P m) ↔
      ∀ c ∈ n.namedChildren, ∀ place m, c.descendant? place = some m → P m := by
  constructor
  · intro h c hc place m hm
    obtain ⟨i, hi⟩ := List.mem_iff_getElem?.mp hc
    refine h (i :: place) m (List.cons_ne_nil _ _) ?_
    rw [descendant?, hi, Option.bind_some, hm]
  · intro h place m hne hm
    obtain ⟨i, place, rfl⟩ := List.exists_cons_of_ne_nil hne
    obtain ⟨c, hi, hm⟩ := Option.bind_eq_some_iff.mp hm
    exact h c (List.mem_of_getElem? hi) place m hm

theorem forall_descendant?_iff {P : Node → Prop} {n : Node} :
    (∀ place m, n.descendant? place = some m → P m) ↔
      P n ∧ ∀ c ∈ n.namedChildren, ∀ place m, c.descendant? place = some m → P m := by
  rw [← forall_below_iff]
  constructor
  · exact fun h => ⟨h [] n rfl, fun place m _ hm => h place m hm⟩
  · rintro ⟨hself, hbelow⟩ place m hm
    by_cases hplace : place = []
    · subst hplace
      cases hm
      exact hself
    · exact hbelow place m hplace hm

/-- The places of a node are in the order of a dictionary. -/
theorem pairwise_placesOf (n : Node) : (placesOf n).Pairwise (List.Lex (· < ·)) := by
  induction n using namedChildren_induction with
  | h n ih =>
      rw [placesOf_eq_cons, List.pairwise_cons]
      constructor
      · intro place hplace
        obtain ⟨i, rest, rfl⟩ := List.exists_cons_of_ne_nil (mem_placesBelow.mp hplace).1
        exact .nil
      · rw [placesBelow, List.pairwise_flatMap]
        constructor
        · rintro ⟨c, i⟩ hc
          have hchild : c ∈ n.namedChildren :=
            List.mem_of_getElem? (List.mk_mem_zipIdx_iff_getElem?.mp hc)
          exact List.pairwise_map.mpr ((ih c hchild).imp fun h => .cons h)
        · have hindex : (n.namedChildren.zipIdx.map (·.2)).Pairwise (· < ·) := by
            rw [List.zipIdx_map_snd]
            exact List.pairwise_lt_range'
          refine (List.pairwise_map.mp hindex).imp fun {c c'} hlt place hplace place' hplace' => ?_
          obtain ⟨rest, _, rfl⟩ := List.mem_map.mp hplace
          obtain ⟨rest', _, rfl⟩ := List.mem_map.mp hplace'
          exact .rel hlt

theorem pairwise_placesBelow (n : Node) : (placesBelow n).Pairwise (List.Lex (· < ·)) := by
  have h := pairwise_placesOf n
  rw [placesOf_eq_cons, List.pairwise_cons] at h
  exact h.2

/-- What is listed place by place below a node is listed child by child. -/
theorem flatMap_placesBelow {α : Type} (f : List Nat → List α) (g : Node → List Nat → List α)
    (n : Node) (h : ∀ i c place, n.namedChildren[i]? = some c → f (i :: place) = g c place) :
    (placesBelow n).flatMap f = n.namedChildren.flatMap fun c => (placesOf c).flatMap (g c) := by
  calc (placesBelow n).flatMap f
    _ = n.namedChildren.zipIdx.flatMap fun c => (placesOf c.1).flatMap (g c.1) := by
        rw [placesBelow, List.flatMap_assoc, List.flatMap_def, List.flatMap_def]
        refine congrArg List.flatten (List.map_congr_left ?_)
        rintro ⟨c, i⟩ hc
        rw [List.mk_mem_zipIdx_iff_getElem?] at hc
        rw [List.flatMap_map]
        exact congrArg (List.flatMap · (placesOf c)) (funext fun place => h i c place hc)
    _ = (n.namedChildren.zipIdx.map (·.1)).flatMap fun c => (placesOf c).flatMap (g c) := by
        rw [List.flatMap_map]
    _ = n.namedChildren.flatMap fun c => (placesOf c).flatMap (g c) := by
        rw [List.zipIdx_map_fst]

end CodeBrief.Node
