import CodeBrief.Path
import CodeBrief.Proofs.Split

/-!
# A spelled path is read back

What reading makes the components of a path are texts of one kind
(`IsComponent`), and a path of such components is the one that its spelling is
read as (`ofString_text_absolute`). Resolving a path against a folder keeps to
components, so the place that a path leads to is known by its spelling, its last
component included.
-/

namespace CodeBrief.Path

/-- What can be a component of a path. -/
def IsComponent (c : String) : Prop :=
  c ≠ "" ∧ c ≠ "." ∧ '/' ∉ c.toList

instance (c : String) : Decidable (IsComponent c) :=
  inferInstanceAs (Decidable (_ ∧ _ ∧ _))

theorem isComponent_of_mem_componentsOf {cs : List Char} {c : String} (h : c ∈ componentsOf cs) :
    IsComponent c := by
  obtain ⟨hmem, hne⟩ := List.mem_filter.mp h
  obtain ⟨p, hp, rfl⟩ := List.mem_map.mp hmem
  obtain ⟨hempty, hdot⟩ := of_decide_eq_true hne
  refine ⟨hempty, hdot, ?_⟩
  rw [String.toList_ofList]
  exact Text.notMem_of_mem_splitAtEach hp

theorem isComponent_of_mem_follow {start components : List String}
    (hstart : ∀ c ∈ start, IsComponent c) (hcomponents : ∀ c ∈ components, IsComponent c) :
    ∀ c ∈ follow start components, IsComponent c := by
  suffices h : ∀ back : List String, (∀ c ∈ back, IsComponent c) →
      ∀ c ∈ components.foldl step back, IsComponent c by
    intro c hc
    exact h start.reverse (fun d hd => hstart d (List.mem_reverse.mp hd)) c (List.mem_reverse.mp hc)
  induction components with
  | nil => exact fun _ hback => hback
  | cons d rest ih =>
      intro back hback
      refine ih (fun c hc => hcomponents c (List.mem_cons_of_mem _ hc)) (step back d) ?_
      intro c hc
      rw [step] at hc
      split at hc
      · exact hback c (List.mem_of_mem_tail hc)
      · rcases List.mem_cons.mp hc with rfl | hc
        · exact hcomponents c List.mem_cons_self
        · exact hback c hc

/-- The place that a path leads to from a folder is one of components. -/
theorem isComponent_of_mem_locate {cwd : List String} (hcwd : ∀ c ∈ cwd, IsComponent c)
    (s : String) : ∀ c ∈ locate cwd (ofString s), IsComponent c := by
  have hread : ∀ c ∈ (ofString s).components, IsComponent c :=
    fun _ => isComponent_of_mem_componentsOf
  rw [locate]
  split
  · exact isComponent_of_mem_follow hcwd hread
  · exact isComponent_of_mem_follow (List.forall_mem_nil _) hread

theorem toList_text_absolute (components : List String) :
    (absolute components).text.toList =
      '/' :: Text.join ['/'] (components.map String.toList) := by
  have hne : "/" ++ String.intercalate "/" components ≠ "" := by
    intro h
    have hchars := congrArg String.toList h
    rw [String.toList_append] at hchars
    exact List.cons_ne_nil _ _ hchars
  have htext : (absolute components).text = "/" ++ String.intercalate "/" components := by
    rw [text]
    exact if_neg hne
  rw [htext, String.toList_append, String.toList_intercalate, Text.join_eq_intercalate]
  rfl

theorem componentsOf_join {components : List String} (h : ∀ c ∈ components, IsComponent c) :
    componentsOf (Text.join ['/'] (components.map String.toList)) = components := by
  cases components with
  | nil => rfl
  | cons c rest =>
      have hsplit : Text.splitAtEach '/' (Text.join ['/'] ((c :: rest).map String.toList)) =
          (c :: rest).map String.toList := by
        refine Text.splitAtEach_join (List.cons_ne_nil _ _) fun p hp => ?_
        obtain ⟨d, hd, rfl⟩ := List.mem_map.mp hp
        exact (h d hd).2.2
      rw [componentsOf, hsplit, List.map_map]
      have hid : String.ofList ∘ String.toList = id := funext fun _ => String.ofList_toList
      rw [hid, List.map_id, List.filter_eq_self]
      intro d hd
      exact decide_eq_true ⟨(h d hd).1, (h d hd).2.1⟩

/-- No component is empty, so a single slash is in front of the first. -/
theorem anchorOf_join {components : List String} (h : ∀ c ∈ components, IsComponent c) :
    anchorOf ('/' :: Text.join ['/'] (components.map String.toList)) = .root := by
  cases components with
  | nil => rfl
  | cons c rest =>
      obtain ⟨hempty, -, hslash⟩ := h c List.mem_cons_self
      obtain ⟨x, xs, hc⟩ := List.exists_cons_of_ne_nil (mt String.toList_eq_nil_iff.mp hempty)
      have hfront : ∃ more, Text.join ['/'] ((c :: rest).map String.toList) = x :: more := by
        rw [List.map_cons, hc]
        cases rest with
        | nil => exact ⟨xs, rfl⟩
        | cons d rest => exact ⟨_, rfl⟩
      obtain ⟨more, hmore⟩ := hfront
      have hx : x ≠ '/' := by
        rintro rfl
        exact hslash (hc ▸ List.mem_cons_self)
      rw [hmore, anchorOf.eq_def]
      split
      · rfl
      · next heq => exact absurd (List.cons.inj (List.cons.inj heq).2).1 hx
      · rfl
      · next hroot => exact absurd rfl (hroot _)

/-- An absolute path is read back from its spelling. -/
theorem ofString_text_absolute {components : List String} (h : ∀ c ∈ components, IsComponent c) :
    ofString (absolute components).text = absolute components := by
  have hcomponents : componentsOf ('/' :: Text.join ['/'] (components.map String.toList)) =
      componentsOf (Text.join ['/'] (components.map String.toList)) := rfl
  rw [ofString, toList_text_absolute, anchorOf_join h, hcomponents, componentsOf_join h, absolute]

end CodeBrief.Path
