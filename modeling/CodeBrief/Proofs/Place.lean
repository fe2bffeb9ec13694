import CodeBrief.Proofs.Path

/-!
# Places, and the spellings that lead to them

A place is a way down from the root: names that can stand in a folder, and no
double dot among them. Following double dots by name leaves a place
(`isPlace_locate`), a place is its own resolution, and two places with one
spelling are one (`text_absolute_inj`).

A slash or a dot more, a way down and back up, or the current folder in front
change the spelling of a path and not the place that it leads to
(`locate_respelled`). All of it comes from two facts: a slash puts the components
of two spellings one after the other, and where a path starts is known by its
first character.
-/

namespace CodeBrief.Path

/-- What can be the name of a file or a folder. -/
def IsName (c : String) : Prop :=
  IsComponent c ∧ c ≠ ".."

instance (c : String) : Decidable (IsName c) :=
  inferInstanceAs (Decidable (_ ∧ _))

/-- A way down from the root. -/
def IsPlace (place : List String) : Prop :=
  ∀ c ∈ place, IsName c

instance (place : List String) : Decidable (IsPlace place) :=
  inferInstanceAs (Decidable (∀ c ∈ place, IsName c))

theorem IsPlace.isComponent {place : List String} (h : IsPlace place) :
    ∀ c ∈ place, IsComponent c := fun c hc => (h c hc).1

theorem isPlace_append {p q : List String} : IsPlace (p ++ q) ↔ IsPlace p ∧ IsPlace q :=
  List.forall_mem_append

/-! ## Following double dots -/

theorem foldl_step_of_isPlace {place : List String} (h : IsPlace place) (back : List String) :
    place.foldl step back = place.reverse ++ back := by
  induction place generalizing back with
  | nil => rfl
  | cons c rest ih =>
      have hc : c ≠ ".." := (h c List.mem_cons_self).2
      have hrest : IsPlace rest := fun d hd => h d (List.mem_cons_of_mem _ hd)
      rw [List.foldl_cons, step, if_neg hc, ih hrest]
      simp

/-- A place in front of a path is where the path starts. -/
theorem follow_nil_append {place : List String} (h : IsPlace place) (components : List String) :
    follow [] (place ++ components) = follow place components := by
  rw [follow, follow, List.foldl_append, List.reverse_nil, foldl_step_of_isPlace h, List.append_nil]

theorem locate_absolute {place : List String} (h : IsPlace place) (cwd : List String) :
    locate cwd (absolute place) = place := by
  have hfollow := follow_nil_append h []
  rw [List.append_nil] at hfollow
  show follow [] place = place
  rw [hfollow, follow, List.foldl_nil, List.reverse_reverse]

theorem resolve_absolute {place : List String} (h : IsPlace place) (cwd : List String) :
    (absolute place).resolve cwd = absolute place := by
  rw [resolve, locate_absolute h]

theorem isPlace_follow {start components : List String} (hstart : IsPlace start)
    (hcomponents : ∀ c ∈ components, IsComponent c) : IsPlace (follow start components) := by
  suffices h : ∀ back : List String, IsPlace back → IsPlace (components.foldl step back) by
    intro c hc
    have hback : IsPlace start.reverse := fun d hd => hstart d (List.mem_reverse.mp hd)
    exact h start.reverse hback c (List.mem_reverse.mp hc)
  induction components with
  | nil => exact fun _ hback => hback
  | cons d rest ih =>
      intro back hback
      refine ih (fun c hc => hcomponents c (List.mem_cons_of_mem _ hc)) (step back d) ?_
      intro c hc
      rw [step] at hc
      split at hc
      · exact hback c (List.mem_of_mem_tail hc)
      · next hd =>
          rcases List.mem_cons.mp hc with heq | hc
          · rw [heq]
            exact ⟨hcomponents d List.mem_cons_self, hd⟩
          · exact hback c hc

/-- What a spelled path leads to from a place is a place. -/
theorem isPlace_locate {cwd : List String} (hcwd : IsPlace cwd) (s : String) :
    IsPlace (locate cwd (ofString s)) := by
  have hread : ∀ c ∈ (ofString s).components, IsComponent c :=
    fun _ => isComponent_of_mem_componentsOf
  rw [locate]
  split
  · exact isPlace_follow hcwd hread
  · exact isPlace_follow (List.forall_mem_nil _) hread

/-! ## The spelling of a place -/

theorem text_absolute_inj {p q : List String} (hp : IsPlace p) (hq : IsPlace q)
    (h : (absolute p).text = (absolute q).text) : p = q := by
  have hread := congrArg ofString h
  rw [ofString_text_absolute hp.isComponent, ofString_text_absolute hq.isComponent] at hread
  exact congrArg Path.components hread

/-! ## Other spellings -/

theorem componentsOf_append_slash (a b : List Char) :
    componentsOf (a ++ '/' :: b) = componentsOf a ++ componentsOf b := by
  rw [componentsOf, Text.splitAtEach_append_sep, List.map_append, List.filter_append]
  rfl

theorem componentsOf_component {c : String} (h : IsComponent c) : componentsOf c.toList = [c] := by
  have hall : ∀ d ∈ [c], IsComponent d := List.forall_mem_singleton.mpr h
  exact componentsOf_join hall

/-- Where a spelled path starts is known by its first character. -/
theorem anchorOf_eq_relative_iff (cs : List Char) : anchorOf cs = .relative ↔ cs.head? ≠ some '/' := by
  cases cs with
  | nil => simp [anchorOf]
  | cons c cs =>
      rw [anchorOf.eq_def]
      split
      all_goals simp_all

/-- The place that a spelled path starts from. -/
def startOf (cwd : List String) (cs : List Char) : List String :=
  if cs.head? = some '/' then [] else cwd

theorem locate_ofString (cwd : List String) (s : String) :
    locate cwd (ofString s) = follow (startOf cwd s.toList) (componentsOf s.toList) := by
  have hanchor := anchorOf_eq_relative_iff s.toList
  by_cases h : s.toList.head? = some '/'
  · rw [startOf, if_pos h, locate, ofString]
    split
    · next hrelative => exact absurd h (hanchor.mp hrelative)
    · rfl
  · rw [startOf, if_neg h, locate, ofString, hanchor.mpr h]

theorem startOf_append_slash (cwd : List String) (a b b' : List Char) :
    startOf cwd (a ++ '/' :: b) = startOf cwd (a ++ '/' :: b') := by
  cases a with
  | nil => rfl
  | cons c a => rfl

/-- Two spellings that differ behind a slash lead to one place if the components there take away
as much as they add. -/
theorem locate_append_slash (cwd : List String) {p q : String} {a b b' : List Char}
    (hp : p.toList = a ++ '/' :: b) (hq : q.toList = a ++ '/' :: b')
    (h : ∀ back : List String, (componentsOf b).foldl step back = (componentsOf b').foldl step back) :
    locate cwd (ofString p) = locate cwd (ofString q) := by
  rw [locate_ofString, locate_ofString, hp, hq, startOf_append_slash cwd a b b',
    componentsOf_append_slash, componentsOf_append_slash, follow, follow, List.foldl_append,
    List.foldl_append, h]

/-- Spellings of one path: a slash or a dot more, a way down and back up, a way up from the root, a
slash at the end, and the folder that a relative path starts from in front of it. -/
inductive Respelled (cwd : List String) : String → String → Prop
  | slash (a b : String) : Respelled cwd (a ++ "//" ++ b) (a ++ "/" ++ b)
  | dot (a b : String) : Respelled cwd (a ++ "/./" ++ b) (a ++ "/" ++ b)
  | back (a b : String) {c : String} (hc : IsName c) :
      Respelled cwd (a ++ "/" ++ c ++ "/../" ++ b) (a ++ "/" ++ b)
  | above (b : String) : Respelled cwd ("/../" ++ b) ("/" ++ b)
  | closing {a : String} (ha : a ≠ "") : Respelled cwd (a ++ "/") a
  | relative {s : String} (hs : s.toList.head? ≠ some '/') :
      Respelled cwd s ((absolute cwd).text ++ "/" ++ s)
  | symm {p q : String} (h : Respelled cwd p q) : Respelled cwd q p
  | trans {p q r : String} (h : Respelled cwd p q) (h' : Respelled cwd q r) : Respelled cwd p r

/-- A relative path is one below the folder that it starts from. -/
theorem locate_relative {cwd : List String} (hcwd : IsPlace cwd) {s : String}
    (hs : s.toList.head? ≠ some '/') :
    locate cwd (ofString s) = locate cwd (ofString ((absolute cwd).text ++ "/" ++ s)) := by
  have htext : ((absolute cwd).text ++ "/" ++ s).toList =
      (absolute cwd).text.toList ++ '/' :: s.toList := by
    simp
  have hcomponents : componentsOf (absolute cwd).text.toList = cwd :=
    congrArg Path.components (ofString_text_absolute hcwd.isComponent)
  have hstart : startOf cwd ((absolute cwd).text.toList ++ '/' :: s.toList) = [] := by
    rw [toList_text_absolute]
    rfl
  rw [locate_ofString, locate_ofString, htext, hstart, componentsOf_append_slash, hcomponents,
    follow_nil_append hcwd, startOf, if_neg hs]

/-- One path, however it is spelled, leads to one place. -/
theorem locate_respelled {cwd : List String} (hcwd : IsPlace cwd) {p q : String}
    (h : Respelled cwd p q) : locate cwd (ofString p) = locate cwd (ofString q) := by
  induction h with
  | slash a b =>
      refine @locate_append_slash cwd _ _ a.toList ('/' :: b.toList) b.toList ?_ ?_ ?_
      · simp
      · simp
      · intro back
        rfl
  | dot a b =>
      refine @locate_append_slash cwd _ _ a.toList ('.' :: '/' :: b.toList) b.toList ?_ ?_ ?_
      · simp
      · simp
      · intro back
        have hdot := componentsOf_append_slash ['.'] b.toList
        rw [List.singleton_append] at hdot
        rw [hdot]
        rfl
  | @back a b c hc =>
      refine @locate_append_slash cwd _ _ a.toList (c.toList ++ '/' :: ("..".toList ++ '/' :: b.toList))
        b.toList ?_ ?_ ?_
      · simp
      · simp
      · intro back
        have hup : componentsOf "..".toList = [".."] := componentsOf_component (by decide)
        rw [componentsOf_append_slash, componentsOf_append_slash, componentsOf_component hc.1, hup,
          List.foldl_append, List.foldl_append]
        -- the step down is undone by the step up
        show (componentsOf b.toList).foldl step (step (step back c) "..") = _
        rw [step.eq_def back c, if_neg hc.2]
        rfl
  | above b =>
      have hup : componentsOf "..".toList = [".."] := componentsOf_component (by decide)
      have hp : ("/../" ++ b).toList = [] ++ '/' :: ("..".toList ++ '/' :: b.toList) := by simp
      have hq : ("/" ++ b).toList = [] ++ '/' :: b.toList := by simp
      rw [locate_ofString, locate_ofString, hp, hq, componentsOf_append_slash,
        componentsOf_append_slash, componentsOf_append_slash, hup]
      rfl
  | @closing a ha =>
      obtain ⟨c, cs, hcs⟩ := List.exists_cons_of_ne_nil (mt String.toList_eq_nil_iff.mp ha)
      have hp : (a ++ "/").toList = c :: cs ++ '/' :: [] := by simp [hcs]
      have hnil : componentsOf [] = [] := rfl
      rw [locate_ofString, locate_ofString, hp, hcs, componentsOf_append_slash, hnil, List.append_nil]
      rfl
  | relative hs => exact locate_relative hcwd hs
  | symm _ ih => exact ih.symm
  | trans _ _ ih ih' => exact ih.trans ih'

end CodeBrief.Path
