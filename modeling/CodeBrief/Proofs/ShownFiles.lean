import CodeBrief.Command.Run
import CodeBrief.Proofs.Decimal
import CodeBrief.Proofs.LoadedSettings
import CodeBrief.Proofs.MessageParts
import CodeBrief.Proofs.Split

/-!
# How files are shown

The names of files are shown as messages, so they are shown as they are if nothing in
them is markup. In the table of files that is all there is to it. In the summary of a
prompt the kind of a file stands in square brackets, which makes it a tag: it is never
shown, whatever the file is called, and a summary is shown as it is only if it
lists no file (`shown_verbatim_iff`).

For the summary the plain names have to be taken in their places. What stands between
two tags is the end of the line of one file and the start of the next one, and a name
is still plain there, since what is put around it is harmless and starts with a blank
(`read_files`).
-/

namespace CodeBrief

open Terminal (Markup.shown Panel Vocabulary Trouble)
open Terminal.Markup
open Text (Point points points_append)

/-! ## Texts of a summary that are never markup -/

/-- A text of characters that no markup has. -/
def HarmlessText (s : String) : Prop := ∀ p ∈ points s, Harmless p

instance (s : String) : Decidable (HarmlessText s) :=
  List.decidableBAll Harmless (points s)

theorem HarmlessText.append {s t : String} (hs : HarmlessText s) (ht : HarmlessText t) :
    HarmlessText (s ++ t) := by
  rw [HarmlessText, points_append]
  exact List.forall_mem_append.mpr ⟨hs, ht⟩

theorem harmlessText_iff {s : String} : HarmlessText s ↔ ∀ c ∈ s.toList, Harmless (.char c) :=
  List.forall_mem_map

theorem harmlessText_ofList {cs : List Char} (h : ∀ c ∈ cs, Harmless (.char c)) :
    HarmlessText (String.ofList cs) := by
  rwa [harmlessText_iff, String.toList_ofList]

theorem harmless_of_isDigit {c : Char} (h : c.isDigit = true) : Harmless (.char c) := by
  have hlow : 48 ≤ c.toNat := (Char.isDigit_iff_toNat.mp h).1
  refine ⟨fun hmem => ?_, ?_⟩
  · simp only [List.mem_cons, List.not_mem_nil, or_false, Point.char.injEq] at hmem
    rcases hmem with rfl | rfl | rfl | rfl <;> cases h
  · simp only [isHidden, isActing, List.mem_cons, List.not_mem_nil, or_false, decide_eq_false_iff_not]
    omega

theorem harmless_of_mem_digits {n : Nat} {c : Char} (h : c ∈ Text.digits n) :
    Harmless (.char c) :=
  harmless_of_isDigit (Text.isDigit_of_mem_digits h)

theorem harmlessText_toString (n : Nat) : HarmlessText (toString n) :=
  harmlessText_iff.mpr fun _ hc => harmless_of_mem_digits hc

theorem harmlessText_intText (n : Int) : HarmlessText (Json.intText n) := by
  rw [Json.intText]
  split
  · refine harmlessText_ofList (List.forall_mem_cons.mpr ⟨by decide, ?_⟩)
    exact fun _ hc => harmless_of_mem_digits hc
  · exact harmlessText_ofList fun _ hc => harmless_of_mem_digits hc

theorem Text.mem_groupThrees {c : Char} {cs : List Char} (h : c ∈ groupThrees cs) :
    c = ',' ∨ c ∈ cs := by
  fun_induction groupThrees cs with
  | case1 a b x d rest ih =>
      simp only [List.mem_cons] at h ih ⊢
      rcases h with h | h | h | h | h
      · exact .inr (.inl h)
      · exact .inr (.inr (.inl h))
      · exact .inr (.inr (.inr (.inl h)))
      · exact .inl h
      · rcases ih h with h | h
        · exact .inl h
        · exact .inr (.inr (.inr (.inr h)))
  | case2 => exact .inr h

theorem harmlessText_grouped (n : Nat) : HarmlessText (String.ofList (Text.grouped n)) := by
  refine harmlessText_ofList fun c hc => ?_
  rw [Text.grouped, List.mem_reverse] at hc
  rcases Text.mem_groupThrees hc with rfl | hc
  · decide
  · exact harmless_of_mem_digits (List.mem_reverse.mp hc)

namespace AssembledPrompt

/-! ## The parts of a summary -/

/-- The lines of a summary in front of those of its files. -/
def headLines (p : AssembledPrompt) : List String :=
  let sources := (p.included.filter (·.kind = .source)).length
  let references := p.included.length - sources
  ["Prompt length: " ++ String.ofList (Text.grouped p.prompt.length) ++ " chars",
   "Included " ++ toString p.included.length ++ " files (" ++ toString sources ++ " source, " ++
     toString references ++ " reference)"] ++
  (if p.skipped ≠ 0 then
    ["Skipped " ++ Json.intText p.skipped ++ " files due to length constraints"] else [])

/-- The lines of a summary behind those of its files. -/
def lastLines (p : AssembledPrompt) : List String :=
  if p.hardTruncated then ["Prompt was cut by the final length cap"] else []

/-- The line of a file in a summary without the kind of the file. -/
def bareLine (f : ContextFile) : String :=
  "  -  " ++ f.name ++ ContextFile.cutSuffix f.truncated

/-- A summary without the kinds of the files. -/
def bareSummary (p : AssembledPrompt) : String :=
  String.intercalate "\n" (p.headLines ++ p.included.map bareLine ++ p.lastLines)

variable {v : Vocabulary} {p : AssembledPrompt} {files : List ContextFile} {front last : List Point}

/-- Lines that each start with a line feed. -/
def fed (lines : List String) : List Point :=
  lines.flatMap fun l => .char '\n' :: points l

theorem fed_cons (l : String) (lines : List String) :
    fed (l :: lines) = .char '\n' :: points l ++ fed lines :=
  List.flatMap_cons

theorem points_intercalate_cons (l : String) (lines : List String) :
    points (String.intercalate "\n" (l :: lines)) = points l ++ fed lines := by
  induction lines generalizing l with
  | nil => simp [fed]
  | cons next lines ih =>
      have hlines : String.intercalate "\n" (l :: next :: lines) =
          l ++ ("\n" ++ String.intercalate "\n" (next :: lines)) := by
        rw [← String.toList_inj]
        simp [String.toList_intercalate]
      rw [hlines, points_append, points_append, ih, fed_cons]
      rfl

/-- What stands in a summary behind its first words and in front of its files. -/
def headRest (p : AssembledPrompt) : List Point :=
  .char ' ' :: points (String.ofList (Text.grouped p.prompt.length) ++ " chars") ++
    fed p.headLines.tail

/-- The text of a summary whose files have given lines. -/
theorem points_intercalate_lines (p : AssembledPrompt) (line : ContextFile → String) :
    points (String.intercalate "\n" (p.headLines ++ p.included.map line ++ p.lastLines)) =
      (points "Prompt length:" ++ p.headRest) ++ (fed (p.included.map line) ++ fed p.lastLines) := by
  have hfed (a b : List String) : fed (a ++ b) = fed a ++ fed b := List.flatMap_append
  have hhead : p.headLines = ("Prompt length: " ++ String.ofList (Text.grouped p.prompt.length) ++
      " chars") :: p.headLines.tail := rfl
  have hstart : points "Prompt length: " = points "Prompt length:" ++ [.char ' '] := rfl
  rw [hhead, List.cons_append, List.cons_append, points_intercalate_cons, hfed, hfed, headRest]
  simp only [points_append, hstart, List.append_assoc, List.cons_append, List.nil_append]

theorem harmless_of_mem_fed {lines : List String} (h : ∀ l ∈ lines, HarmlessText l) :
    ∀ p ∈ fed lines, Harmless p := by
  intro p hp
  obtain ⟨l, hl, hp⟩ := List.mem_flatMap.mp hp
  rcases List.mem_cons.mp hp with rfl | hp
  · decide
  · exact h l hl p hp

theorem harmless_headRest : ∀ q ∈ p.headRest, Harmless q := by
  have hlength : HarmlessText (String.ofList (Text.grouped p.prompt.length) ++ " chars") :=
    (harmlessText_grouped _).append (by decide)
  have hcounts (all sources references : Nat) : HarmlessText ("Included " ++ toString all ++
      " files (" ++ toString sources ++ " source, " ++ toString references ++ " reference)") := by
    have hall : HarmlessText ("Included " ++ toString all ++ " files (") :=
      (HarmlessText.append (by decide) (harmlessText_toString all)).append (by decide)
    have hsources := (hall.append (harmlessText_toString sources)).append
      (show HarmlessText " source, " by decide)
    exact (hsources.append (harmlessText_toString references)).append (by decide)
  have hskipped : HarmlessText
      ("Skipped " ++ Json.intText p.skipped ++ " files due to length constraints") :=
    (HarmlessText.append (by decide) (harmlessText_intText _)).append (by decide)
  have htail : ∀ l ∈ p.headLines.tail, HarmlessText l := by
    rw [headLines, List.cons_append, List.tail_cons, List.singleton_append, List.forall_mem_cons]
    refine ⟨hcounts _ _ _, ?_⟩
    split
    · exact List.forall_mem_singleton.mpr hskipped
    · exact List.forall_mem_nil _
  exact List.forall_mem_append.mpr
    ⟨List.forall_mem_cons.mpr ⟨by decide, hlength⟩, harmless_of_mem_fed htail⟩

theorem harmless_fed_lastLines : ∀ q ∈ fed p.lastLines, Harmless q := by
  refine harmless_of_mem_fed ?_
  rw [lastLines]
  split
  · exact List.forall_mem_singleton.mpr (by decide)
  · exact List.forall_mem_nil _

/-- Lines that each start with a line feed start with a blank. -/
theorem isBlank_of_head?_fed {lines : List String} :
    ∀ q, (fed lines).head? = some q → isBlank q = true := by
  intro q hq
  cases lines with
  | nil => cases hq
  | cons l lines =>
      cases hq
      decide

theorem plain_head : Plain v (points "Prompt length:" ++ p.headRest) := by
  have hstart : Plain v (points "Prompt length:") :=
    plain_iff.mpr ⟨by decide, by decide, by decide, rfl⟩
  refine hstart.append harmless_headRest fun q hq => ?_
  obtain rfl : .char ' ' = q := Option.some.inj hq
  rfl

/-! ## Its files -/

/-- What stands behind the kind of a file in its line. -/
def nameText (f : ContextFile) : String :=
  " " ++ (f.name ++ ContextFile.cutSuffix f.truncated)

theorem fed_fileLine (f : ContextFile) (lines : List String) (rest : List Point) :
    fed (fileLine f :: lines) ++ rest = points "\n  - " ++
      (bracketed (points f.kind.tag) ++ (points (nameText f) ++ (fed lines ++ rest))) := by
  have hline : fileLine f = "  - " ++ ("[" ++ (f.kind.tag ++ ("]" ++ nameText f))) := by
    rw [← String.toList_inj]
    simp [fileLine, nameText]
  have hstart : points "\n  - " = .char '\n' :: points "  - " := rfl
  have hopen : points "[" = [.char '['] := rfl
  have hclose : points "]" = [.char ']'] := rfl
  rw [fed_cons, hline, hstart, bracketed]
  simp only [points_append, hopen, hclose, List.append_assoc, List.cons_append, List.nil_append]

theorem fed_bareLine (f : ContextFile) (lines : List String) (rest : List Point) :
    fed (bareLine f :: lines) ++ rest =
      points "\n  - " ++ (points (nameText f) ++ (fed lines ++ rest)) := by
  have hline : bareLine f = "  - " ++ nameText f := by
    rw [← String.toList_inj]
    simp [bareLine, nameText]
  have hstart : points "\n  - " = .char '\n' :: points "  - " := rfl
  rw [fed_cons, hline, hstart]
  simp only [points_append, List.append_assoc, List.cons_append]

/-- The kind of a file in brackets is a tag. -/
theorem tag?_kind (k : Kind) (rest : List Point) :
    tag? (bracketed (points k.tag) ++ rest) = some (points k.tag, rest) := by
  cases k <;> rfl

theorem opens_kind (k : Kind) : Opens (points k.tag) := by
  cases k <;> decide

theorem harmless_cutSuffix (cut : Bool) : HarmlessText (ContextFile.cutSuffix cut) := by
  cases cut <;> decide

theorem isBlank_of_head?_cutSuffix {cut : Bool} :
    ∀ q, (points (ContextFile.cutSuffix cut)).head? = some q → isBlank q = true := by
  cases cut <;> decide

theorem plain_nameText {f : ContextFile} (h : Plain v (points f.name)) :
    Plain v (points (nameText f)) := by
  have hname : Plain v (points (f.name ++ ContextFile.cutSuffix f.truncated)) := by
    rw [points_append]
    exact h.append (harmless_cutSuffix _) isBlank_of_head?_cutSuffix
  have hblank : Harmless (.char ' ') := by decide
  rw [nameText, points_append]
  exact hname.cons hblank

theorem tags_nameText (f : ContextFile) : tags (points (nameText f)) = tags (points f.name) := by
  have hblank : Harmless (.char ' ') := by decide
  rw [nameText, points_append, points_append]
  exact (tags_cons_of_harmless hblank).trans (tags_append_of_harmless (harmless_cutSuffix _))

/-- No backslash stands in front of the kind of a file. -/
theorem getLast?_append_lineStart (front : List Point) :
    (front ++ points "\n  - ").getLast? ≠ some (.char '\\') := by
  rw [List.getLast?_append]
  nofun

/-- The lines of files with plain names are shown without the kinds, behind a plain text and in front
of a harmless one. -/
theorem read_files (h : ∀ f ∈ files, Plain v (points f.name)) (hfront : Plain v front)
    (hlast : ∀ q ∈ last, Harmless q) (hblank : ∀ q, last.head? = some q → isBlank q = true)
    (opened : List Opened) :
    read v opened (pieces (front ++ (fed (files.map fileLine) ++ last))) =
      .ok (front ++ (fed (files.map bareLine) ++ last)) := by
  induction files generalizing front opened with
  | nil =>
      have hplain : Plain v (front ++ last) := hfront.append hlast hblank
      show read v opened (pieces (front ++ last)) = .ok (front ++ last)
      rw [pieces_of_plain hplain, read_text, textOf_of_plain hplain]
  | cons f files ih =>
      obtain ⟨hname, hfiles⟩ := List.forall_mem_cons.mp h
      have hstart : Plain v (front ++ points "\n  - ") :=
        hfront.append (by decide) (by decide)
      obtain ⟨opened', hopened⟩ := exists_addTag (v := v) (opens_kind f.kind) opened
      rw [List.map_cons, List.map_cons, fed_fileLine, fed_bareLine, ← List.append_assoc,
        hstart.read_append_tag (getLast?_append_lineStart front) (tag?_kind f.kind _), hopened]
      simp only []
      rw [ih hfiles (plain_nameText hname), Except.map, List.append_assoc]

/-- If the tags of names only open, so do all tags of the lines of their files. -/
theorem opens_of_mem_tags_files (h : ∀ f ∈ files, ∀ body ∈ tags (points f.name), Opens body)
    (hfront : ∀ body ∈ tags front, Opens body) (hlast : ∀ q ∈ last, Harmless q) :
    ∀ body ∈ tags (front ++ (fed (files.map fileLine) ++ last)), Opens body := by
  induction files generalizing front with
  | nil =>
      show ∀ body ∈ tags (front ++ last), Opens body
      rwa [tags_append_of_harmless hlast]
  | cons f files ih =>
      obtain ⟨hname, hfiles⟩ := List.forall_mem_cons.mp h
      have hstart : tags (front ++ points "\n  - ") = tags front :=
        tags_append_of_harmless (by decide)
      rw [List.map_cons, fed_fileLine, ← List.append_assoc,
        tags_append_tag (getLast?_append_lineStart front) (tag?_kind f.kind _), hstart]
      refine List.forall_mem_append.mpr ⟨hfront, List.forall_mem_cons.mpr ⟨opens_kind f.kind, ?_⟩⟩
      exact ih hfiles (by rwa [tags_nameText])

theorem points_summary (p : AssembledPrompt) :
    points p.summary =
      (points "Prompt length:" ++ p.headRest) ++ (fed (p.included.map fileLine) ++ fed p.lastLines) :=
  points_intercalate_lines p fileLine

/-- If the tags of names only open, the summary can be shown. -/
theorem opens_of_mem_tags_summary (h : ∀ f ∈ p.included, ∀ body ∈ tags (points f.name), Opens body) :
    ∀ body ∈ tags (points p.summary), Opens body := by
  have hhead : tags (points "Prompt length:" ++ p.headRest) = [] :=
    (tags_append_of_harmless harmless_headRest).trans (by decide)
  rw [points_summary]
  exact opens_of_mem_tags_files h (by rw [hhead]; exact List.forall_mem_nil _) harmless_fed_lastLines

/-- The summary of files with plain names is shown without their kinds. -/
theorem shown_summary (h : ∀ f ∈ p.included, Plain v (points f.name)) :
    Markup.shown v p.summary = .ok p.bareSummary.toList := by
  have hopens : ∀ body ∈ tags (points p.summary), Opens body :=
    opens_of_mem_tags_summary fun f hf body hbody => by
      rw [tags_of_none (plain_iff.mp (h f hf)).1] at hbody
      cases hbody
  rw [shown_eq_ok_iff]
  refine ⟨?_, v.paints_of_notMem _ fun body hbody => (hopens body (mem_tags.mpr hbody)).2⟩
  show read v [] (pieces (points p.summary)) = .ok (points p.bareSummary)
  rw [points_summary, read_files h plain_head harmless_fed_lastLines isBlank_of_head?_fed, bareSummary,
    points_intercalate_lines]

/-- A summary that lists a file has a tag. -/
theorem not_plain_summary (h : p.included ≠ []) : ¬Plain v (points p.summary) := by
  obtain ⟨f, files, hincluded⟩ := List.exists_cons_of_ne_nil h
  intro hplain
  have hmem : points f.kind.tag ∈ tags (points p.summary) := by
    rw [points_summary, hincluded, List.map_cons, fed_fileLine, ← List.append_assoc,
      tags_append_tag (getLast?_append_lineStart _) (tag?_kind f.kind _)]
    exact List.mem_append_right _ List.mem_cons_self
  rw [tags_of_none (plain_iff.mp hplain).1] at hmem
  cases hmem

theorem plain_summary (h : p.included = []) : Plain v (points p.summary) := by
  rw [points_summary, h]
  exact plain_head.append harmless_fed_lastLines isBlank_of_head?_fed

end AssembledPrompt

namespace Command

/-! ## What a run shows -/

/-- How showing something ends, on a console that it leaves as it is. -/
def shownOn {α : Type} (c : Console) : Except Trouble α → Except Stop α × Console
  | .ok a => (.ok a, c)
  | .error why => (.error (.crashed (.unshown why)), c)

theorem shownOn_eq_iff {α : Type} {c : Console} {r : Except Trouble α} {a : α} :
    shownOn c r = (.ok a, c) ↔ r = .ok a := by
  cases r <;> simp [shownOn]

theorem shown_run (message : Text.Wide) (c : Console) :
    (Run.shown message).run c = shownOn c (Markup.shown c.terminal message) := by
  rw [Run.shown, run_bind, Settings.get_run]
  simp only []
  cases Markup.shown c.terminal message <;> rfl

/-- A message is shown as it is if and only if it is plain. -/
theorem shown_run_eq_iff {message : String} {c : Console} :
    (Run.shown message).run c = (.ok message.toList, c) ↔ Plain c.terminal (points message) := by
  rw [shown_run, ← shown_eq_self_iff]
  exact shownOn_eq_iff

/-- The panel of a summary is put around what is shown of it. -/
theorem summary_run {p : AssembledPrompt} {text : List Char} {c : Console}
    (h : Markup.shown c.terminal p.summary = .ok text) :
    (Run.summary p).run c =
      (Run.printLines .diagnostics (Panel.lines ⟨"Prompt", 1, 0⟩ text)).run c := by
  rw [Run.summary, run_bind, shown_run, h, shownOn]

/-- The row of a file with a name in the table of files. -/
def fileRow (n : Nat) (r : ContextFile × Nat) (name : List Char) : List (List Char) :=
  [Text.digits n, name, r.1.kind.tag.toList, Text.digits r.2, Text.grouped r.1.content.length]

/-- The rows of files as their names are shown. -/
def shownRows (v : Vocabulary) : (n : Nat) → List (ContextFile × Nat) →
    Except Trouble (List (List (List Char)))
  | _, [] => .ok []
  | n, r :: rest =>
      match Markup.shown v r.1.name with
      | .ok name => (shownRows v (n + 1) rest).map (fileRow n r name :: ·)
      | .error why => .error why

/-- The rows of files with their names as they are. -/
def namedRows : (n : Nat) → List (ContextFile × Nat) → List (List (List Char))
  | _, [] => []
  | n, r :: rest => fileRow n r r.1.name.toList :: namedRows (n + 1) rest

theorem fileRows_run (n : Nat) (ranked : List (ContextFile × Nat)) (c : Console) :
    (Run.fileRows n ranked).run c = shownOn c (shownRows c.terminal n ranked) := by
  induction ranked generalizing n with
  | nil => rfl
  | cons r ranked ih =>
      obtain ⟨f, score⟩ := r
      rw [Run.fileRows, run_bind, shown_run, shownRows]
      cases Markup.shown c.terminal f.name with
      | error why => rfl
      | ok name =>
          simp only [shownOn]
          rw [run_bind, ih (n + 1)]
          cases shownRows c.terminal (n + 1) ranked <;> rfl

variable {v : Vocabulary}

/-- All names are shown as they are if and only if all of them are plain. -/
theorem shownRows_eq_iff (n : Nat) (ranked : List (ContextFile × Nat)) :
    shownRows v n ranked = .ok (namedRows n ranked) ↔ ∀ r ∈ ranked, Plain v (points r.1.name) := by
  induction ranked generalizing n with
  | nil => exact iff_of_true rfl (List.forall_mem_nil _)
  | cons r ranked ih =>
      rw [List.forall_mem_cons, ← ih (n + 1), ← shown_eq_self_iff, shownRows, namedRows]
      cases Markup.shown v r.1.name <;> cases shownRows v (n + 1) ranked <;>
        simp [fileRow, Except.map]

theorem exists_shownRows {ranked : List (ContextFile × Nat)}
    (h : ∀ r ∈ ranked, ∀ body ∈ tags (points r.1.name), Opens body) (n : Nat) :
    ∃ rows, shownRows v n ranked = .ok rows := by
  induction ranked generalizing n with
  | nil => exact ⟨[], rfl⟩
  | cons r ranked ih =>
      obtain ⟨hr, hranked⟩ := List.forall_mem_cons.mp h
      obtain ⟨name, hname⟩ := exists_shown_of_tags (v := v) hr
      obtain ⟨rows, hrows⟩ := ih hranked (n + 1)
      exact ⟨fileRow n r name :: rows, by rw [shownRows, hname, hrows]; rfl⟩

/-- A summary is shown as it is if and only if it lists no file; files with plain names are shown in
it without their kinds. The table of files shows their names as they are, with their kinds, if and
only if all names are plain. What can be the name of a file has no slash, and neither the summary nor
the table fails if there is no parenthesis in the tags of its names either. -/
theorem shown_verbatim_iff (p : AssembledPrompt) (ranked : List (ContextFile × Nat)) (c : Console) :
    ((Run.shown p.summary).run c = (.ok p.summary.toList, c) ↔ p.included = []) ∧
    ((∀ f ∈ p.included, Plain c.terminal (points f.name)) →
      (Run.summary p).run c = (Run.printLines .diagnostics
        (Panel.lines ⟨"Prompt", 1, 0⟩ p.bareSummary.toList)).run c) ∧
    ((Run.fileRows 1 ranked).run c = (.ok (namedRows 1 ranked), c) ↔
      ∀ r ∈ ranked, Plain c.terminal (points r.1.name)) ∧
    ((∀ f ∈ p.included, ∀ body ∈ tags (points f.name), Opens body) →
      ∃ c', (Run.summary p).run c = (.ok (), c')) ∧
    ((∀ r ∈ ranked, ∀ body ∈ tags (points r.1.name), Opens body) →
      ∃ rows, (Run.fileRows 1 ranked).run c = (.ok rows, c)) := by
  refine ⟨?_, fun hplain => ?_, ?_, fun hopens => ?_, fun hopens => ?_⟩
  · rw [shown_run_eq_iff]
    constructor
    · intro hplain
      exact Decidable.byContradiction fun hne => AssembledPrompt.not_plain_summary hne hplain
    · exact AssembledPrompt.plain_summary
  · exact summary_run (AssembledPrompt.shown_summary hplain)
  · rw [fileRows_run, ← shownRows_eq_iff 1]
    exact shownOn_eq_iff
  · obtain ⟨text, htext⟩ := exists_shown_of_tags (AssembledPrompt.opens_of_mem_tags_summary hopens)
    exact ⟨_, summary_run htext⟩
  · obtain ⟨rows, hrows⟩ := exists_shownRows hopens 1
    exact ⟨rows, by rw [fileRows_run, hrows, shownOn]⟩

/-- A console with nothing on its disk. -/
def blankConsole : Console := { terminal := Terminal.standard, disk := ⟨.folder [], []⟩ }

/-- A cut file with a number in brackets in its name, and a colon that starts no code. -/
theorem shown_verbatim_iff_number :
    let f : ContextFile := ⟨"/p/x[0]:.py", "x[0]:.py", "x = 1", .source, true⟩
    let p : AssembledPrompt := ⟨"why?", [f], 0, false⟩
    (∀ f ∈ p.included, Plain Terminal.standard (points f.name)) ∧
    (∀ f ∈ p.included, ∀ body ∈ tags (points f.name), Opens body) ∧
    p.bareSummary = "Prompt length: 4 chars\nIncluded 1 files (1 source, 0 reference)\n  -  x[0]:.py (truncated)" ∧
    (Run.summary p).run blankConsole = (Run.printLines .diagnostics
      (Panel.lines ⟨"Prompt", 1, 0⟩ p.bareSummary.toList)).run blankConsole ∧
    (∃ c', (Run.summary p).run blankConsole = (.ok (), c')) ∧
    (Run.fileRows 1 [(f, 5)]).run blankConsole = (.ok (namedRows 1 [(f, 5)]), blankConsole) ∧
    ∃ rows, (Run.fileRows 1 [(f, 5)]).run blankConsole = (.ok rows, blankConsole) := by
  intro f p
  have hname : Plain Terminal.standard (points "x[0]:.py") :=
    plain_iff.mpr ⟨by decide, by decide, by decide, rfl⟩
  have htags : ∀ body ∈ tags (points "x[0]:.py"), Opens body := by
    rw [tags_of_none (plain_iff.mp hname).1]
    exact List.forall_mem_nil _
  have hplain : ∀ f ∈ p.included, Plain Terminal.standard (points f.name) :=
    List.forall_mem_singleton.mpr hname
  have hopens : ∀ f ∈ p.included, ∀ body ∈ tags (points f.name), Opens body :=
    List.forall_mem_singleton.mpr htags
  have hrow : ∀ r ∈ [(f, 5)], Plain Terminal.standard (points r.1.name) :=
    List.forall_mem_singleton.mpr hname
  have hrowTags : ∀ r ∈ [(f, 5)], ∀ body ∈ tags (points r.1.name), Opens body :=
    List.forall_mem_singleton.mpr htags
  obtain ⟨-, hsummary, hrows, hshown, htable⟩ := shown_verbatim_iff p [(f, 5)] blankConsole
  exact ⟨hplain, hopens, by decide, hsummary hplain, hshown hopens, hrows.mpr hrow,
    htable hrowTags⟩

/-- A file whose name starts with a letter in brackets: the table and the summary leave the letter
out, and the summary leaves out the kind of the file as well. -/
theorem shown_verbatim_bracket :
    let f : ContextFile := ⟨"/p/[b].ts", "[b].ts", "", .source, false⟩
    let p : AssembledPrompt := ⟨"why?", [f], 0, false⟩
    let text := "Prompt length: 4 chars\nIncluded 1 files (1 source, 0 reference)\n  -  .ts".toList
    ((Run.shown p.summary).run blankConsole = (.ok text, blankConsole) ∧
      ¬(AssembledPrompt.fileLine f).toList <:+: text ∧ ¬f.name.toList <:+: text) ∧
    (Run.fileRows 1 [(f, 5)]).run blankConsole =
      (.ok [["1".toList, ".ts".toList, "source".toList, "5".toList, "0".toList]], blankConsole) ∧
    ¬f.name.toList <:+: ".ts".toList := by
  intro f p text
  refine ⟨⟨?_, by decide +kernel, by decide +kernel⟩, ?_, by decide +kernel⟩
  · rw [shown_run, shownOn_eq_iff]
    show Markup.shown Terminal.standard p.summary = .ok text
    decide +kernel
  · rw [fileRows_run, shownOn_eq_iff]
    show shownRows Terminal.standard 1 [(f, 5)] = _
    decide +kernel

/-- A parenthesis in a tag can make a name impossible to show. -/
example : Markup.shown Terminal.standard "[rgb(,,)].ts" = .error .unreadableStyle := rfl

end Command

end CodeBrief
