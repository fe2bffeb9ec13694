import CodeBrief.Proofs.Collected
import CodeBrief.Proofs.RaisedLimit

/-!
# A text that is capped again and again

On its way into a prompt a text may be capped four times: as the beginning of a
script without a structure, as a summary, as what is collected, and as the file
that packing cuts. None of these knows of the others. Still no text shows two
markers, or a part of one, as long as every limit leaves room for more than a
marker.

The reason is that the marker has one length. A text that was cut and does not fit
the next limit is too long by what stands in front of its marker, so the next cut
falls in front of it, and a line feed of the marker is out of its reach. So a cut
of a cut text is a cut of the text (`Capped.trans`), and that is all that a run of
caps needs.
-/

namespace CodeBrief

/-- A text that is as it was, or was cut once: what stands in front of a place, with one marker
behind. -/
inductive Capped (cs : List Char) : List Char → Prop
  | whole : Capped cs cs
  | cut {k : Nat} (shorter : k + truncationMarker.length < cs.length) :
      Capped cs (cs.take k ++ truncationMarker)

theorem Capped.trans {cs ds es : List Char} (h : Capped cs ds) (h' : Capped ds es) :
    Capped cs es := by
  cases h' with
  | whole => exact h
  | @cut j shorter' =>
      cases h with
      | whole => exact .cut shorter'
      | @cut k shorter =>
          rw [List.length_append, List.length_take] at shorter'
          have hfront : j ≤ (cs.take k).length := by
            rw [List.length_take]
            omega
          rw [List.take_append_of_le_length hfront, List.take_take, Nat.min_eq_left (by omega)]
          exact .cut (by omega)

theorem capped_truncateChars (cs : List Char) {limit : Int}
    (hroom : truncationMarker.length < limit) : Capped cs (truncateChars cs limit) := by
  by_cases hfits : (cs.length : Int) ≤ limit
  · rw [truncateChars_of_fits hfits]
    exact .whole
  · have hcut := cutPoint_le cs (limit.toNat - truncationMarker.length)
    rw [truncateChars_of_long (by omega) hroom]
    exact .cut (by omega)

theorem capped_truncate (s : String) {limit : Int} (hroom : truncationMarker.length < limit) :
    Capped s.toList (truncate s limit).toList := by
  rw [toList_truncate]
  exact capped_truncateChars s.toList hroom

/-! ## A run of caps -/

theorem capped_foldl_truncate (s : String) {limits : List Int}
    (h : ∀ limit ∈ limits, truncationMarker.length < limit) :
    Capped s.toList (limits.foldl truncate s).toList := by
  apply List.foldlRecOn (motive := fun t => Capped s.toList t.toList) limits truncate .whole
  intro t ht limit hlimit
  exact ht.trans (capped_truncate t (h limit hlimit))

theorem length_foldl_truncate_le (limits : List Int) (s : String) :
    (limits.foldl truncate s).length ≤ s.length := by
  apply List.foldlRecOn (motive := fun t => t.length ≤ s.length) limits truncate (Nat.le_refl _)
  intro t ht limit _
  have hle := length_truncateChars_le_length t.toList limit
  rw [← toList_truncate] at hle
  exact Nat.le_trans hle ht

theorem length_foldl_truncate_le_of_mem {limits : List Int} {limit : Int} (h : limit ∈ limits)
    (s : String) : (limits.foldl truncate s).length ≤ limit.toNat := by
  obtain ⟨before, behind, rfl⟩ := List.append_of_mem h
  rw [List.foldl_append, List.foldl_cons]
  exact Nat.le_trans (length_foldl_truncate_le behind _) (length_truncate_le _ limit)

theorem foldl_truncate_of_fits {limits : List Int} {s : String}
    (h : ∀ limit ∈ limits, (s.length : Int) ≤ limit) : limits.foldl truncate s = s := by
  apply List.foldlRecOn (motive := fun t => t = s) limits truncate rfl
  intro t ht limit hlimit
  rw [ht]
  exact truncate_of_fits (h limit hlimit)

/-- Under limits with room for more than a marker, one after another in any order, a text stays as
it is if it fits all of them, and otherwise becomes what stands in front of a place in it with one
marker behind. Either way every limit is kept. -/
theorem foldl_truncate_cut_once (s : String) {limits : List Int}
    (h : ∀ limit ∈ limits, truncationMarker.length < limit) :
    let capped := limits.foldl truncate s
    (capped = s ∨ ∃ k, k < s.length ∧ capped.toList = s.toList.take k ++ truncationMarker) ∧
    (capped = s ↔ ∀ limit ∈ limits, (s.length : Int) ≤ limit) ∧
    ∀ limit ∈ limits, (capped.length : Int) ≤ limit := by
  intro capped
  have hkept : ∀ limit ∈ limits, (capped.length : Int) ≤ limit := by
    intro limit hlimit
    have hroom := h limit hlimit
    have hle : capped.length ≤ limit.toNat := length_foldl_truncate_le_of_mem hlimit s
    omega
  refine ⟨?_, ⟨fun hwhole => ?_, foldl_truncate_of_fits⟩, hkept⟩
  · have hcapped : Capped s.toList capped.toList := capped_foldl_truncate s h
    generalize htext : capped.toList = cs at hcapped
    cases hcapped with
    | whole => exact .inl (String.toList_injective htext)
    | @cut k shorter =>
        rw [String.length_toList] at shorter
        exact .inr ⟨k, by omega, rfl⟩
  · rwa [hwhole] at hkept

/-- A text of two lines under three limits, of which the second cuts what the first has cut and the
third changes nothing. -/
theorem foldl_truncate_cut_once_three :
    let s := "12345678\nabcdefghijklmnopqrstuvwxyz0123456789"
    let capped := [44, 38, 42].foldl truncate s
    (∀ limit ∈ [44, 38, 42], (truncationMarker.length : Int) < limit) ∧
    truncate s 44 = "12345678\nabcdefg\n\n// ... (content truncated)" ∧
    capped = "12345678\na\n\n// ... (content truncated)" ∧
    (∃ k, k < s.length ∧ capped.toList = s.toList.take k ++ truncationMarker) ∧
    ∀ limit ∈ [44, 38, 42], (capped.length : Int) ≤ limit := by
  intro s capped
  have hroom : ∀ limit ∈ [44, 38, 42], (truncationMarker.length : Int) < limit := by decide
  have hcapped : capped = "12345678\na\n\n// ... (content truncated)" := by decide +kernel
  obtain ⟨hcut, -, hkept⟩ := foldl_truncate_cut_once s hroom
  refine ⟨hroom, by decide +kernel, hcapped, hcut.resolve_left fun hwhole => ?_, hkept⟩
  have hother : "12345678\na\n\n// ... (content truncated)" = s := hcapped.symm.trans hwhole
  exact absurd hother (by decide)

/-! ## The files of a prompt -/

namespace Collection

/-- What is known of a text before it is capped: its structure, or all of it. -/
def digestOf (path : Path) (text : String) : String :=
  (Summary.structureOf (Language.ofPath path.text) text).1

theorem capped_sourceOf {limit : Int} (hroom : truncationMarker.length < limit) (path : Path)
    (text : String) :
    Capped (digestOf path text).toList (sourceOf limit path text).content.toList :=
  (capped_truncate _ hroom).trans (capped_truncate _ hroom)

end Collection

namespace Packing

/-- What packing takes of a file is all of it or what fits a limit. The limit has room for more than
a marker, unless the header alone takes up nearly all the space in which a file is cut. -/
theorem capped_of_takenAt? {files : List ContextFile} {budget : Int} {i : Nat} {f : ContextFile}
    (hheader : ∀ g ∈ files, ∀ number : Nat,
      (g.header number true).length + truncationMarker.length < leastSpaceToCut)
    (hf : takenAt? files budget i = some f) :
    ∃ g ∈ files, Capped g.content.toList f.content.toList := by
  rw [takenAt?] at hf
  split at hf
  · exact ⟨f, List.mem_of_getElem? hf, .whole⟩
  · split at hf
    · next hcut =>
        obtain ⟨g, hg, rfl⟩ := Option.map_eq_some_iff.mp hf
        have hmem := List.mem_of_getElem? hg
        refine ⟨g, hmem, capped_truncate g.content ?_⟩
        have hshort := hheader g hmem (ordinal files i)
        have hspace := hcut.2
        have hmarker : truncationMarker.length = 28 := by decide
        rw [cutLimit, cutReserve, hmarker]
        rw [leastSpaceToCut, hmarker] at hshort
        rw [leastSpaceToCut] at hspace
        omega
    · cases hf

/-- However source files are packed, each is shown with its structure or text, or with the front of
that and one marker; and so is the text of a script whose structure is its own beginning. -/
theorem capped_of_mem_included {texts : List (Path × String)} {limit : Int}
    (hroom : truncationMarker.length < limit)
    (hheader : ∀ t ∈ texts, ∀ number : Nat,
      ((Collection.sourceOf limit t.1 t.2).header number true).length + truncationMarker.length <
        leastSpaceToCut)
    {promptLimit frame question : Int} {f : ContextFile}
    (hf : f ∈ (pack (texts.map fun t => Collection.sourceOf limit t.1 t.2) promptLimit frame
      question).included) :
    ∃ t ∈ texts, Capped (Collection.digestOf t.1 t.2).toList f.content.toList ∧
      (Collection.digestOf t.1 t.2 = truncate t.2 fallbackLimit →
        Capped t.2.toList f.content.toList) := by
  obtain ⟨i, hi⟩ := List.getElem?_of_mem hf
  rw [included_pack, getElem?_fill] at hi
  obtain ⟨g, hg, hcapped⟩ := capped_of_takenAt? (List.forall_mem_map.mpr hheader) hi
  obtain ⟨t, ht, rfl⟩ := List.mem_map.mp hg
  have hdigest := (Collection.capped_sourceOf hroom t.1 t.2).trans hcapped
  refine ⟨t, ht, hdigest, fun hfallback => ?_⟩
  have hfront : Capped t.2.toList (truncate t.2 fallbackLimit).toList :=
    capped_truncate t.2 (by decide)
  rw [hfallback] at hdigest
  exact hfront.trans hdigest

end Packing
end CodeBrief
