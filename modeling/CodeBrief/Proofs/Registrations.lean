import Mathlib.Data.Finset.Card
import Mathlib.Data.Finset.Range
import CodeBrief.Proofs.LiveSettings

/-!
# Ending a registration by its ticket

A subscription hands out a ticket, and handing the ticket back ends the
registration. What is kept of registrations is a list of listeners alone, so a
ticket that comes back takes away the first registration of an equal listener,
whether it is its own or not. Which tickets are still out is read off the
requests (`openTickets`); how often a listener is told is read off the list.

One request moves the two numbers together (`count_after`), except in one case: a
ticket that is no longer out comes back while another ticket of its listener is.
Then a registration is lost whose ticket nobody has handed back (`Stray`). So the
two numbers agree along a run exactly if that never happens, and a listener is
never told too often in any case (`tells_open_iff`).
-/

namespace CodeBrief.Settings.Live

open Json (Value)

/-- A subscription, or a ticket handed back; tickets are numbered as they are handed out. -/
inductive Request (α : Type) where
  | subscribe (listener : α)
  | cancel (ticket : Nat)
  deriving DecidableEq, Repr

/-- Live settings, and the listener that each ticket stands for. -/
structure Desk (α : Type) where
  live : Live α
  tickets : List α

variable {α : Type} {start l : Live α} {requests : List (Request α)} {x : α}

theorem map_fst_of_update {changes : List (String × Value)} {new : Live α}
    {told : List (α × Context)} (h : l.update changes = .ok (new, told)) :
    told.map Prod.fst = l.listeners := by
  rw [update] at h
  split at h
  · cases h
    rw [List.map_map]
    exact List.map_id l.listeners
  · cases h

theorem exists_update (hvalid : l.context.Valid) : ∃ new told, l.update [] = .ok (new, told) := by
  have hchanged : changed l.context [] = .ok l.context := by
    have hknown : unknownName? l.context [] = none := rfl
    simp only [changed, hknown, List.foldl_nil, Context.check_members hvalid]
  exact ⟨_, _, by rw [update, hchanged]⟩

/-! ## What the requests say -/

/-- The listeners of the subscriptions, in order. -/
def subscribed (requests : List (Request α)) : List α :=
  requests.filterMap fun
    | .subscribe listener => some listener
    | .cancel _ => none

/-- A ticket is handed back after it was handed out. -/
def Issued (earlier : List (Request α)) : Request α → Prop
  | .subscribe _ => True
  | .cancel k => k < (subscribed earlier).length

/-- A condition on each request and those before it. -/
def Along (p : List (Request α) → Request α → Prop) (requests : List (Request α)) : Prop :=
  ∀ n (h : n < requests.length), p (requests.take n) requests[n]

instance (earlier : List (Request α)) : (r : Request α) → Decidable (Issued earlier r)
  | .subscribe _ => inferInstanceAs (Decidable True)
  | .cancel k => inferInstanceAs (Decidable (k < (subscribed earlier).length))

instance (p : List (Request α) → Request α → Prop) [∀ earlier r, Decidable (p earlier r)]
    (requests : List (Request α)) : Decidable (Along p requests) :=
  inferInstanceAs (Decidable (∀ n (h : n < requests.length), p (requests.take n) requests[n]))

theorem along_concat {p : List (Request α) → Request α → Prop} {r : Request α} :
    Along p (requests ++ [r]) ↔ Along p requests ∧ p requests r := by
  constructor
  · intro h
    constructor
    · intro n hn
      have hn' : n < (requests ++ [r]).length := by simp; omega
      have hp := h n hn'
      rwa [List.take_append_of_le_length (by omega), List.getElem_append_left hn] at hp
    · have hp := h requests.length (by simp)
      rwa [List.take_left' rfl, List.getElem_concat_length rfl] at hp
  · intro h n hn
    have hcases : n < requests.length ∨ n = requests.length := by
      simp at hn
      omega
    rcases hcases with hlt | rfl
    · rw [List.take_append_of_le_length (by omega), List.getElem_append_left hlt]
      exact h.1 n hlt
    · rw [List.take_left' rfl, List.getElem_concat_length rfl]
      exact h.2

theorem subscribed_concat (requests : List (Request α)) (r : Request α) :
    subscribed (requests ++ [r]) = subscribed requests ++ subscribed [r] :=
  List.filterMap_append

/-- A ticket that is not out yet has not come back. -/
theorem cancel_notMem_of_issued (h : Along Issued requests) {k : Nat}
    (hk : (subscribed requests).length ≤ k) : .cancel k ∉ requests := by
  induction requests using List.reverseRecOn with
  | nil => exact List.not_mem_nil
  | append_singleton requests r ih =>
      obtain ⟨hearlier, hr⟩ := along_concat.mp h
      rw [subscribed_concat, List.length_append] at hk
      rw [List.mem_append, List.mem_singleton, not_or]
      refine ⟨ih hearlier (by omega), ?_⟩
      intro hcancel
      subst hcancel
      have hlt : k < (subscribed requests).length := hr
      omega

variable [DecidableEq α]

/-- The tickets of a listener that have not been handed back. -/
def openTickets (requests : List (Request α)) (x : α) : Finset Nat :=
  (Finset.range (subscribed requests).length).filter fun k =>
    (subscribed requests)[k]? = some x ∧ .cancel k ∉ requests

/-- A ticket of a listener comes back once more while another one is out. -/
def Stray (x : α) (earlier : List (Request α)) : Request α → Prop
  | .subscribe _ => False
  | .cancel k =>
      (subscribed earlier)[k]? = some x ∧ k ∉ openTickets earlier x ∧
        (openTickets earlier x).Nonempty

instance (x : α) (earlier : List (Request α)) : (r : Request α) → Decidable (Stray x earlier r)
  | .subscribe _ => inferInstanceAs (Decidable False)
  | .cancel k =>
      inferInstanceAs (Decidable ((subscribed earlier)[k]? = some x ∧ k ∉ openTickets earlier x ∧
        (openTickets earlier x).Nonempty))

theorem mem_openTickets {k : Nat} :
    k ∈ openTickets requests x ↔ (subscribed requests)[k]? = some x ∧ .cancel k ∉ requests := by
  rw [openTickets, Finset.mem_filter, Finset.mem_range, and_iff_right_iff_imp]
  intro h
  exact (List.getElem?_eq_some_iff.mp h.1).1

theorem openTickets_subscribe (h : Along Issued requests) (y : α) :
    openTickets (requests ++ [.subscribe y]) x =
      if y = x then insert (subscribed requests).length (openTickets requests x)
      else openTickets requests x := by
  have hfresh := cancel_notMem_of_issued h (Nat.le_refl _)
  have hsubscribed : subscribed (requests ++ [.subscribe y]) = subscribed requests ++ [y] :=
    subscribed_concat ..
  ext k
  have hmem : k ∈ openTickets (requests ++ [.subscribe y]) x ↔
      (subscribed requests ++ [y])[k]? = some x ∧ .cancel k ∉ requests := by
    rw [mem_openTickets, hsubscribed]
    simp
  rw [hmem]
  rcases Nat.lt_trichotomy k (subscribed requests).length with hlt | heq | hgt
  · rw [List.getElem?_append_left hlt]
    split
    · rw [Finset.mem_insert, mem_openTickets]
      simp [Nat.ne_of_lt hlt]
    · rw [mem_openTickets]
  · subst heq
    have hout : (subscribed requests).length ∉ openTickets requests x := by
      simp [mem_openTickets]
    rw [List.getElem?_concat_length]
    split
    · next hy => simp [hy, hfresh]
    · next hy => simp [hy, hout]
  · have hnone : (subscribed requests ++ [y])[k]? = none := by
      rw [List.getElem?_eq_none_iff, List.length_append, List.length_singleton]
      omega
    have hout : k ∉ openTickets requests x := by
      rw [mem_openTickets, List.getElem?_eq_none (Nat.le_of_lt hgt)]
      simp
    rw [hnone]
    split
    · simp [hout, Nat.ne_of_gt hgt]
    · simp [hout]

theorem openTickets_cancel (requests : List (Request α)) (x : α) (k : Nat) :
    openTickets (requests ++ [.cancel k]) x = (openTickets requests x).erase k := by
  have hsubscribed : subscribed (requests ++ [.cancel k]) = subscribed requests :=
    (subscribed_concat ..).trans (List.append_nil _)
  ext j
  rw [Finset.mem_erase, mem_openTickets, mem_openTickets, hsubscribed, List.mem_append,
    List.mem_singleton, Request.cancel.injEq, not_or]
  constructor
  · intro h
    exact ⟨h.2.2, h.1, h.2.1⟩
  · intro h
    exact ⟨h.2.1, h.2.2, h.1⟩

/-! ## What is kept of the registrations -/

/-- The desk after a request; a ticket that was never handed out ends nothing. -/
def Desk.after (d : Desk α) : Request α → Desk α
  | .subscribe listener => ⟨d.live.subscribe listener, d.tickets ++ [listener]⟩
  | .cancel k =>
      match d.tickets[k]? with
      | some listener => { d with live := d.live.unsubscribe listener }
      | none => d

/-- The desk after a run of requests. -/
def desk (start : Live α) (requests : List (Request α)) : Desk α :=
  requests.foldl Desk.after ⟨start, []⟩

/-- Every successful update tells a listener so many times. -/
def Tells (l : Live α) (x : α) (n : Nat) : Prop :=
  ∀ changes new told, l.update changes = .ok (new, told) → (told.map Prod.fst).count x = n

theorem desk_concat (start : Live α) (requests : List (Request α)) (r : Request α) :
    desk start (requests ++ [r]) = (desk start requests).after r :=
  List.foldl_concat ..

theorem tickets_desk (start : Live α) (requests : List (Request α)) :
    (desk start requests).tickets = subscribed requests := by
  induction requests using List.reverseRecOn with
  | nil => rfl
  | append_singleton requests r ih =>
      rw [desk_concat, subscribed_concat, ← ih]
      cases r with
      | subscribe listener => rfl
      | cancel k =>
          rw [Desk.after]
          show _ = (desk start requests).tickets ++ []
          rw [List.append_nil]
          split <;> rfl

theorem context_desk (start : Live α) (requests : List (Request α)) :
    (desk start requests).live.context = start.context := by
  induction requests using List.reverseRecOn with
  | nil => rfl
  | append_singleton requests r ih =>
      rw [desk_concat, ← ih]
      cases r with
      | subscribe listener => rfl
      | cancel k =>
          rw [Desk.after]
          split <;> rfl

theorem tells_iff (hvalid : l.context.Valid) {n : Nat} :
    l.Tells x n ↔ l.listeners.count x = n := by
  constructor
  · intro h
    obtain ⟨new, told, hupdate⟩ := exists_update hvalid
    have hcount := h [] new told hupdate
    rwa [map_fst_of_update hupdate] at hcount
  · intro h changes new told hupdate
    rw [map_fst_of_update hupdate]
    exact h

theorem count_subscribe (start : Live α) (requests : List (Request α)) (x y : α) :
    (desk start (requests ++ [.subscribe y])).live.listeners.count x =
      (desk start requests).live.listeners.count x + if y = x then 1 else 0 := by
  rw [desk_concat]
  show List.count x ((desk start requests).live.listeners ++ [y]) = _
  rw [List.count_append, List.count_singleton]
  simp

theorem count_cancel (start : Live α) (requests : List (Request α)) (x : α) (k : Nat) :
    (desk start (requests ++ [.cancel k])).live.listeners.count x =
      (desk start requests).live.listeners.count x -
        if (subscribed requests)[k]? = some x then 1 else 0 := by
  rw [desk_concat, Desk.after, tickets_desk]
  cases (subscribed requests)[k]? with
  | none => simp
  | some y =>
      show List.count x ((desk start requests).live.listeners.erase y) = _
      rw [List.count_erase]
      simp

/-- What a request does to the registrations of a listener and to its open tickets. The two part
only at a stray ticket. -/
theorem count_after (hissued : Along Issued requests) {r : Request α}
    (hle : (desk start requests).live.listeners.count x ≤ (openTickets requests x).card) :
    let now := (desk start (requests ++ [r])).live.listeners.count x
    now ≤ (openTickets (requests ++ [r]) x).card ∧
      ((desk start requests).live.listeners.count x = (openTickets requests x).card →
        (now = (openTickets (requests ++ [r]) x).card ↔ ¬Stray x requests r)) := by
  intro now
  cases r with
  | subscribe y =>
      have hnow : now = _ := count_subscribe start requests x y
      have hfresh : (subscribed requests).length ∉ openTickets requests x := by
        simp [mem_openTickets]
      rw [hnow, openTickets_subscribe hissued]
      split
      · rw [Finset.card_insert_of_notMem hfresh]
        exact ⟨by omega, fun heq => iff_of_true (by omega) id⟩
      · exact ⟨by omega, fun heq => iff_of_true (by omega) id⟩
  | cancel k =>
      have hnow : now = _ := count_cancel start requests x k
      rw [hnow, openTickets_cancel]
      by_cases hout : k ∈ openTickets requests x
      · rw [Finset.card_erase_of_mem hout, if_pos (mem_openTickets.mp hout).1]
        refine ⟨by omega, fun heq => iff_of_true (by omega) ?_⟩
        intro hstray
        exact hstray.2.1 hout
      · rw [Finset.erase_eq_of_notMem hout]
        refine ⟨by omega, fun heq => ?_⟩
        -- the ticket was in already, so a registration is lost if there is one to lose
        have hstray : Stray x requests (.cancel k) ↔
            (subscribed requests)[k]? = some x ∧ 0 < (openTickets requests x).card := by
          rw [Finset.card_pos]
          exact ⟨fun h => ⟨h.1, h.2.2⟩, fun h => ⟨h.1, hout, h.2⟩⟩
        rw [hstray]
        split
        · next hk =>
            rw [and_iff_right hk]
            omega
        · next hk => exact iff_of_true (by omega) (fun h => hk h.1)

theorem count_desk_le (hfresh : start.listeners = []) (hissued : Along Issued requests) :
    (desk start requests).live.listeners.count x ≤ (openTickets requests x).card := by
  induction requests using List.reverseRecOn with
  | nil =>
      show start.listeners.count x ≤ _
      rw [hfresh]
      exact Nat.zero_le _
  | append_singleton requests r ih =>
      have hearlier := (along_concat.mp hissued).1
      exact (count_after hearlier (ih hearlier)).1

theorem count_desk_iff (hfresh : start.listeners = []) (hissued : Along Issued requests) :
    (∀ earlier, earlier <+: requests →
      (desk start earlier).live.listeners.count x = (openTickets earlier x).card) ↔
    Along (fun earlier r => ¬Stray x earlier r) requests := by
  induction requests using List.reverseRecOn with
  | nil =>
      refine iff_of_true ?_ ?_
      · intro earlier h
        rw [List.prefix_nil.mp h]
        show start.listeners.count x = _
        rw [hfresh]
        rfl
      · intro n hn
        cases hn
  | append_singleton requests r ih =>
      have hearlier := (along_concat.mp hissued).1
      have hstep := (count_after hearlier (r := r) (count_desk_le (x := x) hfresh hearlier)).2
      rw [along_concat, ← ih hearlier]
      constructor
      · intro h
        have hbefore : ∀ earlier, earlier <+: requests →
            (desk start earlier).live.listeners.count x = (openTickets earlier x).card := by
          intro earlier hp
          exact h earlier (hp.trans (List.prefix_append ..))
        exact ⟨hbefore, (hstep (hbefore requests List.prefix_rfl)).mp (h _ List.prefix_rfl)⟩
      · intro h earlier hp
        rcases List.prefix_concat_iff.mp hp with rfl | hp
        · exact (hstep (h.1 requests List.prefix_rfl)).mpr h.2
        · exact h.1 earlier hp

/-- After every part of a run of requests, a successful update tells a listener once for each of
its tickets that are out, exactly if no ticket of the listener comes back once more while another
one is out; and a listener is never told more often than that. -/
theorem tells_open_iff (hvalid : start.context.Valid) (hfresh : start.listeners = [])
    (hissued : Along Issued requests) (x : α) :
    (∃ n ≤ (openTickets requests x).card, (desk start requests).live.Tells x n) ∧
    ((∀ earlier, earlier <+: requests →
        (desk start earlier).live.Tells x (openTickets earlier x).card) ↔
      Along (fun earlier r => ¬Stray x earlier r) requests) := by
  have htells {earlier : List (Request α)} {n : Nat} :
      (desk start earlier).live.Tells x n ↔ (desk start earlier).live.listeners.count x = n :=
    tells_iff (by rw [context_desk]; exact hvalid)
  constructor
  · exact ⟨_, count_desk_le hfresh hissued, htells.mpr rfl⟩
  · rw [← count_desk_iff hfresh hissued]
    exact forall₂_congr fun earlier _ => htells

/-- A ticket may come back twice when no other one of its listener is out. -/
theorem tells_open_iff_repeated :
    let start : Live String := ⟨⟨2, 50000, 3000, ["py"], []⟩, []⟩
    let requests : List (Request String) :=
      [.subscribe "b", .subscribe "a", .cancel 0, .cancel 0, .subscribe "a", .cancel 2, .subscribe "b"]
    start.context.Valid ∧ Along Issued requests ∧ (openTickets requests "b").card = 1 ∧
    (desk start requests).live.Tells "b" 1 := by
  intro start requests
  have hvalid : start.context.Valid := ⟨by decide, by decide, by decide⟩
  have hissued : Along Issued requests := by decide
  have hopen : (openTickets requests "b").card = 1 := by decide
  have hnever : Along (fun earlier r => ¬Stray "b" earlier r) requests := by decide
  have htells := (tells_open_iff hvalid rfl hissued "b").2.mpr hnever requests List.prefix_rfl
  rw [hopen] at htells
  exact ⟨hvalid, hissued, hopen, htells⟩

/-- Two registrations of one listener, and the ticket of the first one handed back twice: its
second registration is lost, whose ticket is still out. -/
theorem tells_none_of_repeated :
    let start : Live String := ⟨⟨2, 50000, 3000, ["py"], []⟩, []⟩
    let requests : List (Request String) :=
      [.subscribe "a", .subscribe "a", .cancel 0, .cancel 0]
    start.context.Valid ∧ start.listeners = [] ∧ Along Issued requests ∧
    (openTickets requests "a").card = 1 ∧ (desk start requests).live.Tells "a" 0 := by
  intro start requests
  have hvalid : start.context.Valid := ⟨by decide, by decide, by decide⟩
  have hcount : (desk start requests).live.listeners.count "a" = 0 := by decide
  have hcontext : (desk start requests).live.context = start.context := context_desk ..
  exact ⟨hvalid, rfl, by decide, by decide, (tells_iff (hcontext ▸ hvalid)).mpr hcount⟩

end CodeBrief.Settings.Live
