import CodeBrief.Workspace.FileTree

/-!
# Writing to a tree leaves its folders where they are

Putting something at a place replaces what stands there and makes the folders
above it. Where no folder stood at the place itself, every folder of the tree is
still one afterwards (`folderAt_put`). That is the only thing that following a
path looks at on its way, so a path along which folders were made leads to the
same place in every tree that still has them (`follow_makeFolders`), and in
particular in the tree with one more file.
-/

namespace CodeBrief.FileTree

/-! ## Entries -/

theorem find?_set_self (name : String) (t : FileTree) (es : List (String × FileTree)) :
    find? name (set name t es) = some t := by
  induction es with
  | nil => rw [set, find?, if_pos rfl]
  | cons e es ih =>
      obtain ⟨n, u⟩ := e
      rw [set]
      split
      · next h => rw [find?, if_pos h]
      · next h => rw [find?, if_neg h, ih]

theorem find?_set_of_ne {name other : String} (h : other ≠ name) (t : FileTree)
    (es : List (String × FileTree)) : find? other (set name t es) = find? other es := by
  induction es with
  | nil => simp [set, find?, Ne.symm h]
  | cons e es ih =>
      obtain ⟨n, u⟩ := e
      rw [set, find?]
      split
      · next hn =>
          subst hn
          rw [find?, if_neg (Ne.symm h), if_neg (Ne.symm h)]
      · rw [find?, ih]

theorem set_self {name : String} {t : FileTree} {es : List (String × FileTree)}
    (h : find? name es = some t) : set name t es = es := by
  induction es with
  | nil => cases h
  | cons e es ih =>
      obtain ⟨n, u⟩ := e
      rw [find?] at h
      rw [set]
      split at h
      · next hn => rw [if_pos hn, Option.some.inj h]
      · next hn => rw [if_neg hn, ih h]

/-! ## Places -/

theorem at?_cons (name : String) (rest : List String) (t : FileTree) :
    at? (name :: rest) t = (find? name t.entries).bind (at? rest) := by
  rw [at?]
  cases find? name t.entries <;> rfl

theorem at?_append (p q : List String) (t : FileTree) :
    at? (p ++ q) t = (at? p t).bind (at? q) := by
  induction p generalizing t with
  | nil => rfl
  | cons name p ih =>
      rw [List.cons_append, at?_cons, at?_cons]
      cases find? name t.entries with
      | none => rfl
      | some u => exact ih u

theorem at?_concat {t : FileTree} {place : List String} {es : List (String × FileTree)}
    (h : at? place t = some (folder es)) (name : String) :
    at? (place ++ [name]) t = find? name es := by
  rw [at?_append, h, Option.bind_some, at?_cons]
  cases hf : find? name (entries (folder es)) with
  | none => exact hf.symm
  | some u => exact hf.symm

theorem folderAt_iff {t : FileTree} {place : List String} :
    t.folderAt place = true ↔ ∃ es, at? place t = some (folder es) := by
  rw [folderAt]
  cases at? place t with
  | none => simp
  | some u => cases u <;> simp [isFolder]

theorem folderAt_cons (name : String) (rest : List String) (t : FileTree) :
    t.folderAt (name :: rest) = true ↔
      ∃ u, find? name t.entries = some u ∧ u.folderAt rest = true := by
  rw [folderAt_iff, at?_cons]
  cases find? name t.entries with
  | none => simp
  | some u => simp [folderAt_iff]

/-! ## Putting something at a place -/

theorem put_nil (t new : FileTree) : t.put [] new = new := by
  rw [put]

theorem put_cons (t : FileTree) (name : String) (rest : List String) (new : FileTree) :
    t.put (name :: rest) new =
      folder (set name (((find? name t.entries).getD (folder [])).put rest new) t.entries) := by
  rw [put]

theorem at?_put_self (t : FileTree) (place : List String) (new : FileTree) :
    at? place (t.put place new) = some new := by
  induction place generalizing t with
  | nil => rw [put_nil, at?]
  | cons name rest ih =>
      rw [put_cons, at?_cons, entries, find?_set_self, Option.bind_some, ih]

/-- Putting what stands at a place there again changes nothing. -/
theorem put_self {t new : FileTree} {place : List String} (h : at? place t = some new) :
    t.put place new = t := by
  induction place generalizing t with
  | nil => rw [put_nil, Option.some.inj h]
  | cons name rest ih =>
      rw [at?_cons] at h
      obtain ⟨u, hu, hrest⟩ := Option.bind_eq_some_iff.mp h
      cases t with
      | file bytes => cases hu
      | folder es => rw [put_cons, hu, Option.getD_some, ih hrest, set_self hu, entries]

/-- A folder stays one if something is put where there was none. -/
theorem folderAt_put {t : FileTree} {place other : List String} (new : FileTree)
    (hplace : t.folderAt place = false) (hother : t.folderAt other = true) :
    (t.put place new).folderAt other = true := by
  induction place generalizing t other with
  | nil =>
      cases t with
      | file bytes =>
          cases other with
          | nil => cases hother
          | cons m other =>
              obtain ⟨u, hu, _⟩ := (folderAt_cons m other _).mp hother
              cases hu
      | folder es => cases hplace
  | cons name rest ih =>
      rw [put_cons]
      cases other with
      | nil => rfl
      | cons m other =>
          obtain ⟨u, hu, hfolder⟩ := (folderAt_cons m other t).mp hother
          rw [folderAt_cons, entries]
          by_cases hm : m = name
          · subst hm
            have hrest : u.folderAt rest = false := by
              rw [← hplace, Bool.eq_iff_iff, folderAt_cons, hu]
              simp
            rw [find?_set_self, hu, Option.getD_some]
            exact ⟨_, rfl, ih hrest hfolder⟩
          · rw [find?_set_of_ne hm]
            exact ⟨u, hu, hfolder⟩

/-! ## Following a path -/

theorem follow_append (t : FileTree) (tail : List String) {components : List String} :
    ∀ {place : List String}, t.follow place (components ++ tail) =
      (t.follow place components).bind fun there => t.follow there tail := by
  induction components with
  | nil => exact rfl
  | cons c rest ih =>
      intro place
      rw [List.cons_append, follow, follow]
      split
      · split
        · exact ih
        · split
          · exact ih
          · rfl
      · rfl
      · rfl

/-- A path that is there already needs no folder to be made. -/
theorem makeFolders_of_follow {t : FileTree} {place' components : List String} :
    ∀ {place : List String}, t.follow place components = .ok place' →
      t.makeFolders place components = .ok (t, place') := by
  induction components with
  | nil =>
      intro place h
      rw [follow] at h
      cases h
      rw [makeFolders]
  | cons c rest ih =>
      intro place h
      rw [follow] at h
      rw [makeFolders]
      split at h
      · split at h
        · next hdots => rw [if_pos hdots, ih h]
        · next hdots =>
            rw [if_neg hdots]
            split at h
            · exact ih h
            · cases h
      · cases h
      · cases h

/-- One tree has a folder wherever another has one. -/
def KeepsFolders (t t' : FileTree) : Prop :=
  ∀ place, t.folderAt place = true → t'.folderAt place = true

theorem KeepsFolders.refl (t : FileTree) : KeepsFolders t t := fun _ h => h

theorem KeepsFolders.trans {t t' t'' : FileTree} (h : KeepsFolders t t')
    (h' : KeepsFolders t' t'') : KeepsFolders t t'' := fun place hp => h' place (h place hp)

theorem keepsFolders_put {t : FileTree} {place : List String} (new : FileTree)
    (h : t.folderAt place = false) : KeepsFolders t (t.put place new) :=
  fun _ hother => folderAt_put new h hother

theorem keepsFolders_makeFolders {components : List String} :
    ∀ {t t' : FileTree} {place place' : List String},
      makeFolders t place components = .ok (t', place') → KeepsFolders t t' := by
  induction components with
  | nil =>
      intro t t' place place' h
      rw [makeFolders] at h
      cases h
      exact KeepsFolders.refl t
  | cons c rest ih =>
      intro t t' place place' h
      rw [makeFolders] at h
      split at h
      · next es hes =>
          split at h
          · exact ih h
          · split at h
            · exact ih h
            · next hnone =>
                refine (keepsFolders_put (folder []) ?_).trans (ih h)
                rw [folderAt, at?_concat hes, hnone]
      · cases h
      · cases h

/-- A path along which folders were made leads to the place of the last in every tree that has
these folders, and what follows it in the path is followed from there. -/
theorem follow_makeFolders {components : List String} (tail : List String) :
    ∀ {t t' u : FileTree} {place place' : List String},
      makeFolders t place components = .ok (t', place') → t'.folderAt place' = true →
      KeepsFolders t' u →
      u.folderAt place = true ∧ u.follow place (components ++ tail) = u.follow place' tail := by
  induction components with
  | nil =>
      intro t t' u place place' h hplace hu
      rw [makeFolders] at h
      cases h
      exact ⟨hu place hplace, rfl⟩
  | cons c rest ih =>
      intro t t' u place place' h hplace hu
      have hkeep := keepsFolders_makeFolders h
      rw [makeFolders] at h
      split at h
      · next es hes =>
          have hhere : u.folderAt place = true :=
            hu place (hkeep place (folderAt_iff.mpr ⟨es, hes⟩))
          obtain ⟨es', hes'⟩ := folderAt_iff.mp hhere
          rw [List.cons_append, follow, hes']
          refine ⟨hhere, ?_⟩
          -- A step down is one in `u` too: the folder it leads to is kept.
          have hdown {s : FileTree} (hs : makeFolders s (place ++ [c]) rest = .ok (t', place')) :
              ∃ v, find? c es' = some v := by
            obtain ⟨hc, _⟩ := ih hs hplace hu
            obtain ⟨vs, hvs⟩ := folderAt_iff.mp hc
            rw [at?_concat hes'] at hvs
            exact ⟨_, hvs⟩
          simp only []
          split at h
          · next hdots => rw [if_pos hdots]; exact (ih h hplace hu).2
          · next hdots =>
              rw [if_neg hdots]
              split at h
              all_goals
                obtain ⟨v, hv⟩ := hdown h
                rw [hv]
                exact (ih h hplace hu).2
      · cases h
      · cases h

end CodeBrief.FileTree
