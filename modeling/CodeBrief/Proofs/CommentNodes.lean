import Mathlib.Data.List.Basic
import Mathlib.Data.List.Find
import CodeBrief.Digest.Walk

/-!
# Syntax trees without their comments

A comment may stand among the children of any node, and it is a named node.
Taking the comments out of a tree leaves every other node in its place, with its
type, its field and its text. So whatever is looked up by a field is found as
before, since a comment is in none, and the same tokens are there. What is looked
up by position is another matter: the first of the children may be a comment.
-/

namespace CodeBrief

namespace Node

/-- Whether a node is a comment. -/
def isComment (n : Node) : Bool :=
  n.type = "comment"

mutual

/-- A node without the comments below it. -/
def withoutComments : Node → Node
  | .mk type named field text children => .mk type named field text (withoutCommentsIn children)

/-- The nodes of a list that are no comments, without the comments below them. -/
def withoutCommentsIn : List Node → List Node
  | [] => []
  | n :: rest =>
      if n.isComment then withoutCommentsIn rest
      else withoutComments n :: withoutCommentsIn rest

end

mutual

/-- A node and all nodes below it, tokens among them. -/
def all : Node → List Node
  | .mk type named field text children => .mk type named field text children :: allIn children

/-- The nodes of a list and all nodes below them. -/
def allIn : List Node → List Node
  | [] => []
  | n :: rest => all n ++ allIn rest

end

/-! ## All nodes of a tree -/

theorem mem_all_self (n : Node) : n ∈ n.all := by
  cases n with
  | mk type named field text children =>
      rw [all]
      exact List.mem_cons_self

theorem mem_allIn {nodes : List Node} {c m : Node} (hc : c ∈ nodes) (hm : m ∈ c.all) :
    m ∈ allIn nodes := by
  induction nodes with
  | nil => cases hc
  | cons n rest ih =>
      rw [allIn, List.mem_append]
      rcases List.mem_cons.mp hc with rfl | hrest
      · exact .inl hm
      · exact .inr (ih hrest)

theorem mem_all_of_mem_children {n c m : Node} (hc : c ∈ n.children) (hm : m ∈ c.all) :
    m ∈ n.all := by
  cases n with
  | mk type named field text children =>
      rw [all]
      exact List.mem_cons_of_mem _ (mem_allIn hc hm)

/-! ## What stays as it is -/

@[simp] theorem type_withoutComments (n : Node) : n.withoutComments.type = n.type := by
  cases n
  rw [withoutComments]
  rfl

@[simp] theorem named_withoutComments (n : Node) : n.withoutComments.named = n.named := by
  cases n
  rw [withoutComments]
  rfl

@[simp] theorem field_withoutComments (n : Node) : n.withoutComments.field = n.field := by
  cases n
  rw [withoutComments]
  rfl

@[simp] theorem text_withoutComments (n : Node) : n.withoutComments.text = n.text := by
  cases n
  rw [withoutComments]
  rfl

/-! ## Children -/

theorem withoutCommentsIn_eq_map (nodes : List Node) :
    withoutCommentsIn nodes = (nodes.filter (!·.isComment)).map withoutComments := by
  induction nodes with
  | nil => rw [withoutCommentsIn, List.filter_nil, List.map_nil]
  | cons n rest ih =>
      rw [withoutCommentsIn]
      split
      · next h => rw [List.filter_cons_of_neg (by simp [h]), ih]
      · next h => rw [List.filter_cons_of_pos (by simp [h]), List.map_cons, ih]

theorem children_withoutComments (n : Node) :
    n.withoutComments.children = (n.children.filter (!·.isComment)).map withoutComments := by
  cases n with
  | mk type named field text children =>
      rw [withoutComments, ← withoutCommentsIn_eq_map]
      rfl

theorem namedChildren_withoutComments (n : Node) :
    n.withoutComments.namedChildren =
      (n.namedChildren.filter (!·.isComment)).map withoutComments := by
  have hnamed : (fun c : Node => c.named) ∘ withoutComments = fun c => c.named :=
    funext named_withoutComments
  rw [namedChildren, children_withoutComments, List.filter_map, hnamed, List.filter_filter,
    namedChildren, List.filter_filter]
  exact congrArg _ (List.filter_congr fun c _ => Bool.and_comm _ _)

/-- The named children of a type are the same ones, if that is not the type of comments. -/
theorem filter_type_withoutComments (n : Node) {type : String} (h : type ≠ "comment") :
    n.withoutComments.namedChildren.filter (·.type = type) =
      (n.namedChildren.filter (·.type = type)).map withoutComments := by
  have htype : (fun c : Node => decide (c.type = type)) ∘ withoutComments =
      fun c => decide (c.type = type) :=
    funext fun c => by rw [Function.comp_apply, type_withoutComments]
  rw [namedChildren_withoutComments, List.filter_map, htype, List.filter_filter]
  refine congrArg _ (List.filter_congr fun c _ => ?_)
  by_cases hc : c.type = type
  · simp [isComment, hc, h]
  · simp [hc]

/-- What comments have no part in is listed as before. -/
theorem filterMap_withoutComments {β : Type} {f g : Node → Option β} (n : Node)
    (hkept : ∀ c ∈ n.namedChildren, c.isComment = false → f c.withoutComments = g c)
    (hcomment : ∀ c ∈ n.namedChildren, c.isComment = true → g c = none) :
    n.withoutComments.namedChildren.filterMap f = n.namedChildren.filterMap g := by
  rw [namedChildren_withoutComments, List.filterMap_map, List.filterMap_filter]
  refine List.filterMap_congr fun c hc => ?_
  cases h : c.isComment with
  | false => exact hkept c hc h
  | true => exact (hcomment c hc h).symm

/-- Entries from which nothing comes may be left out. -/
theorem flatMap_filter_of_nil {α β : Type} {p : α → Bool} {g : α → List β} {l : List α}
    (h : ∀ a ∈ l, p a = false → g a = []) : (l.filter p).flatMap g = l.flatMap g := by
  induction l with
  | nil => rfl
  | cons a l ih =>
      have hrest := ih fun b hb => h b (List.mem_cons_of_mem _ hb)
      rw [List.flatMap_cons, ← hrest]
      cases hp : p a with
      | false =>
          rw [List.filter_cons_of_neg (by simp [hp]), h a List.mem_cons_self hp, List.nil_append]
      | true => rw [List.filter_cons_of_pos hp, List.flatMap_cons]

theorem flatMap_withoutComments {β : Type} {f g : Node → List β} (n : Node)
    (hkept : ∀ c ∈ n.namedChildren, c.isComment = false → f c.withoutComments = g c)
    (hcomment : ∀ c ∈ n.namedChildren, c.isComment = true → g c = []) :
    n.withoutComments.namedChildren.flatMap f = n.namedChildren.flatMap g := by
  have hnone : ∀ c ∈ n.namedChildren, (!c.isComment) = false → g c = [] :=
    fun c hc h => hcomment c hc (by simpa using h)
  rw [namedChildren_withoutComments, List.flatMap_map, ← flatMap_filter_of_nil hnone]
  refine List.flatMap_congr fun c hc => ?_
  obtain ⟨hmem, hc⟩ := List.mem_filter.mp hc
  exact hkept c hmem (by simpa using hc)

/-- The first child that keeps a rule which no comment keeps. -/
theorem find?_withoutComments (n : Node) {p : Node → Bool}
    (hp : ∀ c, p c.withoutComments = p c) :
    n.withoutComments.namedChildren.find? p =
      (n.namedChildren.find? fun c => !c.isComment && p c).map withoutComments := by
  have hcomp : p ∘ withoutComments = p := funext hp
  rw [namedChildren_withoutComments, List.find?_map, hcomp, List.find?_filter]
  simp only [Bool.decide_and, Bool.decide_eq_true]

/-- What is looked up among nodes is a comment, or it is found behind the comments as well. -/
theorem find?_cases (p : Node → Bool) (nodes : List Node) :
    nodes.find? p = nodes.find? (fun c => !c.isComment && p c) ∨
      ∃ c, nodes.find? p = some c ∧ c.isComment = true := by
  induction nodes with
  | nil => exact .inl rfl
  | cons n rest ih =>
      cases hp : p n with
      | false =>
          rw [List.find?_cons_of_neg (by simp [hp]), List.find?_cons_of_neg (by simp [hp])]
          exact ih
      | true =>
          cases hn : n.isComment with
          | true => exact .inr ⟨n, List.find?_cons_of_pos hp, hn⟩
          | false =>
              rw [List.find?_cons_of_pos hp, List.find?_cons_of_pos (by simp [hn, hp])]
              exact .inl rfl

/-- What is in a field is found as before. -/
theorem inField?_withoutComments (n : Node)
    (h : ∀ c ∈ n.children, c.isComment = true → c.field = none) (name : String) :
    n.withoutComments.inField? name = (n.inField? name).map withoutComments := by
  have hcomp : (fun c : Node => decide (c.field = some name)) ∘ withoutComments =
      fun c => decide (c.field = some name) :=
    funext fun c => by rw [Function.comp_apply, field_withoutComments]
  rw [inField?, children_withoutComments, List.find?_map, hcomp, List.find?_filter, inField?]
  refine congrArg _ (List.find?_congr fun c hc => ?_)
  cases hcomment : c.isComment with
  | false => simp
  | true => simp [h c hc hcomment]

theorem hasToken_withoutComments (n : Node) {token : String} (h : token ≠ "comment") :
    n.withoutComments.hasToken token = n.hasToken token := by
  rw [hasToken, hasToken, children_withoutComments, List.any_map, List.any_filter]
  refine congrArg n.children.any (funext fun c => ?_)
  rw [Function.comp_apply, type_withoutComments, named_withoutComments]
  by_cases hc : c.type = token
  · simp [isComment, hc, h]
  · simp [hc]

end Node
end CodeBrief
