import CodeBrief.Proofs.FileTree
import CodeBrief.Settings.Store

/-!
# The root of a project is the nearest one

A project is looked for by a walk from a place upwards: a folder that holds a folder of
settings ends it, and so does the root of all places, which is its own parent. The
walk is stated turn by turn (`Climbs`), with the number of folders that it looks
at. Every walk ends, there is one from every place, and no two from the same one; so
what `findRoot` gives is what the walk ends with.

That the root found is the nearest rests on one fact about ways down: what leads to
a place or to a folder above it is a prefix of the way to the place, and a
prefix is the whole way or a prefix of the way to its parent.
-/

namespace CodeBrief.Settings

/-- A folder that stands at a place and holds a folder of settings. A file of that name does not
count. -/
def HoldsSettings (t : FileTree) (place : List String) : Prop :=
  ∃ entries inner, t.at? place = some (.folder entries) ∧
    FileTree.find? folderName entries = some (.folder inner)

theorem folderAt_iff_holdsSettings {t : FileTree} {place : List String} :
    t.folderAt (place ++ [folderName]) = true ↔ HoldsSettings t place := by
  rw [FileTree.folderAt_iff]
  constructor
  · rintro ⟨inner, h⟩
    rw [FileTree.at?_append] at h
    obtain ⟨u, hu, hinner⟩ := Option.bind_eq_some_iff.mp h
    cases u with
    | file bytes => cases hinner
    | folder entries =>
        rw [FileTree.at?_cons] at hinner
        obtain ⟨v, hv, hsame⟩ := Option.bind_eq_some_iff.mp hinner
        cases hsame
        exact ⟨entries, inner, hu, hv⟩
  · rintro ⟨entries, inner, hu, hinner⟩
    exact ⟨inner, (FileTree.at?_concat hu folderName).trans hinner⟩

/-! ## The walk -/

/-- A walk upwards from a place, the number of folders that it looks at, and what it ends with. Only
the root of all places is its own parent. -/
inductive Climbs (t : FileTree) : (place : List String) → Nat → Option (List String) → Prop
  | found {place : List String} (holds : HoldsSettings t place) : Climbs t place 1 (some place)
  | top {place : List String} (parent : place.dropLast = place) (lacks : ¬HoldsSettings t place) :
      Climbs t place 1 none
  | up {place : List String} {n : Nat} {r : Option (List String)} (parent : place.dropLast ≠ place)
      (lacks : ¬HoldsSettings t place) (rest : Climbs t place.dropLast n r) : Climbs t place (n + 1) r

variable {t : FileTree} {place : List String} {n : Nat} {r : Option (List String)}

/-- No place has two walks. -/
theorem Climbs.unique (h : Climbs t place n r) {m : Nat} {s : Option (List String)}
    (h' : Climbs t place m s) : m = n ∧ s = r := by
  induction h generalizing m s with
  | found holds =>
      cases h' with
      | found => exact ⟨rfl, rfl⟩
      | top _ lacks => exact absurd holds lacks
      | up _ lacks => exact absurd holds lacks
  | top parent lacks =>
      cases h' with
      | found holds => exact absurd holds lacks
      | top => exact ⟨rfl, rfl⟩
      | up other => exact absurd parent other
  | up parent lacks _ ih =>
      cases h' with
      | found holds => exact absurd holds lacks
      | top other => exact absurd other parent
      | up _ _ rest =>
          obtain ⟨rfl, rfl⟩ := ih rest
          exact ⟨rfl, rfl⟩

/-- The walk from a place ends after no more looks than there are folders on the way to it. -/
theorem exists_climbs (t : FileTree) (back : List String) :
    ∃ n ≤ back.length + 1, Climbs t back.reverse n (findRoot.climb t back) := by
  induction back with
  | nil =>
      refine ⟨1, Nat.le_refl 1, ?_⟩
      have hhere : t.folderAt [folderName] = true ↔ HoldsSettings t [] :=
        @folderAt_iff_holdsSettings t []
      rw [findRoot.climb]
      split
      · next h => exact .found (hhere.mp h)
      · next h => exact .top rfl fun holds => h (hhere.mpr holds)
  | cons name back ih =>
      obtain ⟨n, hn, hrest⟩ := ih
      rw [findRoot.climb]
      split
      · next h => exact ⟨1, by omega, .found (folderAt_iff_holdsSettings.mp h)⟩
      · next h =>
          have hparent : (name :: back).reverse.dropLast = back.reverse := by simp
          refine ⟨n + 1, Nat.succ_le_succ hn, .up ?_ (fun holds => h ?_) ?_⟩
          · rw [hparent]
            simp
          · exact folderAt_iff_holdsSettings.mpr holds
          · rw [hparent]
            exact hrest

/-! ## What the walk ends with -/

/-- Of the folders that lead to a place, the place itself included, the one furthest down that holds
settings. -/
structure IsNearest (t : FileTree) (place found : List String) : Prop where
  above : found <+: place
  holds : HoldsSettings t found
  nearest : ∀ p, p <+: place → HoldsSettings t p → p <+: found

theorem IsNearest.unique {p q : List String} (hp : IsNearest t place p) (hq : IsNearest t place q) :
    p = q := by
  have hpq := hq.nearest p hp.above hp.holds
  have hqp := hp.nearest q hq.above hq.holds
  exact hpq.eq_of_length (Nat.le_antisymm hpq.length_le hqp.length_le)

/-- What leads to a place is the way to it or leads to its parent. -/
theorem prefix_iff_dropLast {p : List String} (hne : place ≠ []) :
    p <+: place ↔ p = place ∨ p <+: place.dropLast := by
  have hplace := List.dropLast_concat_getLast hne
  have hconcat := @List.prefix_concat_iff _ p place.dropLast (place.getLast hne)
  rwa [hplace] at hconcat

/-- The nearest folder that holds settings, or nothing where no folder does. -/
def IsAnswer (t : FileTree) (place : List String) : Option (List String) → Prop
  | some found => IsNearest t place found
  | none => ∀ p, p <+: place → ¬HoldsSettings t p

theorem Climbs.isAnswer (h : Climbs t place n r) : IsAnswer t place r := by
  induction h with
  | found holds => exact ⟨List.prefix_rfl, holds, fun p hp _ => hp⟩
  | @top place parent lacks =>
      have hnil : place = [] := by
        rcases place.eq_nil_or_concat with hnil | ⟨front, name, rfl⟩
        · exact hnil
        · simp at parent
      subst hnil
      intro p hp
      rwa [List.prefix_nil.mp hp]
  | @up place n r parent lacks _ ih =>
      have hne : place ≠ [] := by
        rintro rfl
        exact parent rfl
      cases r with
      | none =>
          intro p hp
          rcases (prefix_iff_dropLast hne).mp hp with rfl | hp
          · exact lacks
          · exact ih p hp
      | some found =>
          refine ⟨ih.above.trans (List.dropLast_prefix place), ih.holds, fun p hp holds => ?_⟩
          rcases (prefix_iff_dropLast hne).mp hp with rfl | hp
          · exact absurd holds lacks
          · exact ih.nearest p hp holds

theorem IsAnswer.eq_some_iff (h : IsAnswer t place r) {found : List String} :
    r = some found ↔ IsNearest t place found := by
  cases r with
  | none => exact iff_of_false nofun fun hfound => h found hfound.above hfound.holds
  | some other =>
      constructor
      · rintro ⟨⟩
        exact h
      · exact fun hfound => congrArg some (IsNearest.unique h hfound)

theorem IsAnswer.eq_none_iff (h : IsAnswer t place r) :
    r = none ↔ ∀ p, p <+: place → ¬HoldsSettings t p := by
  cases r with
  | none => exact iff_of_true rfl h
  | some found => exact iff_of_false nofun fun hnone => hnone found h.above h.holds

/-- The root found from a path is the nearest folder with settings among the place that the path leads
to and all the folders above it, and none is found only if there is none. The walk ends for every
path, and looks at each of these folders once at most. -/
theorem findRoot_nearest (d : Disk) (start : Path) :
    let place := (d.resolve start).components
    (∀ root, findRoot d start = some root ↔
      ∃ found, root = Path.absolute found ∧ IsNearest d.root place found) ∧
    (findRoot d start = none ↔ ∀ p, p <+: place → ¬HoldsSettings d.root p) ∧
    ∃ n ≤ place.length + 1, ∃ r, r.map Path.absolute = findRoot d start ∧
      ∀ m s, Climbs d.root place m s ↔ m = n ∧ s = r := by
  intro place
  obtain ⟨n, hn, hwalk⟩ := exists_climbs d.root place.reverse
  rw [List.reverse_reverse] at hwalk
  rw [List.length_reverse] at hn
  have hanswer := hwalk.isAnswer
  have hresult : findRoot d start = (findRoot.climb d.root place.reverse).map Path.absolute := rfl
  rw [hresult]
  refine ⟨fun root => ?_, ?_, n, hn, _, rfl, fun m s => ⟨hwalk.unique, ?_⟩⟩
  · rw [Option.map_eq_some_iff]
    refine exists_congr fun found => ?_
    rw [hanswer.eq_some_iff, and_comm, eq_comm]
  · rw [Option.map_eq_none_iff]
    exact hanswer.eq_none_iff
  · rintro ⟨rfl, rfl⟩
    exact hwalk

/-- A file with the name of the settings folder is passed over, and the root of all places counts. -/
example :
    let d : Disk := ⟨.folder [(folderName, .folder []),
      ("srv", .folder [(folderName, .file []), ("app", .folder [])])], ["srv", "app"]⟩
    findRoot d (Path.ofString "src/..") = some (Path.absolute []) := by decide +kernel

end CodeBrief.Settings
