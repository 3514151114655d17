import Mathlib.Data.List.Basic

/-!
# Reading a history in pages

A history lies at increasing positions. A request scans from a position and stops
at another, returning what lies between; it may stop anywhere, so a short page
says nothing about what comes after. A reader that follows the stops and gives up
at the first short page has read exactly what lies before that stop.
-/

namespace ShowUp.CursorPaging

set_option autoImplicit false

universe u v w
variable {α : Type u} {β : Type v} (position : α → Nat)

def between (history : List α) (low high : Nat) : List α :=
  history.filter fun a => low ≤ position a ∧ position a < high

def Ordered (history : List α) : Prop := history.Pairwise fun a b => position a ≤ position b

theorem between_cons (a : α) (rest : List α) (low high : Nat) :
    between position (a :: rest) low high =
      if low ≤ position a ∧ position a < high then a :: between position rest low high
      else between position rest low high := by
  simp only [between, List.filter_cons, decide_eq_true_eq]

theorem between_eq_nil_of_first {history : List α} {low high : Nat}
    (past : ∀ a ∈ history, high ≤ position a) : between position history low high = [] := by
  apply List.filter_eq_nil_iff.mpr
  intro a ha
  have := past a ha
  simp only [decide_eq_true_eq]
  omega

theorem between_append {history : List α} (ordered : Ordered position history)
    {low mid high : Nat} (h₁ : low ≤ mid) (h₂ : mid ≤ high) :
    between position history low mid ++ between position history mid high =
      between position history low high := by
  induction history with
  | nil => rfl
  | cons a rest ih =>
    obtain ⟨first, ordered⟩ := List.pairwise_cons.mp ordered
    have ih := ih ordered
    simp only [between_cons]
    by_cases below : position a < mid
    · rw [if_neg (by omega : ¬ (mid ≤ position a ∧ position a < high))]
      by_cases inside : low ≤ position a
      · rw [if_pos ⟨inside, below⟩, if_pos ⟨inside, by omega⟩, List.cons_append, ih]
      · rw [if_neg fun h => inside h.1, if_neg fun h => inside h.1, ih]
    · -- everything from here on lies past the middle
      have none : between position rest low mid = [] :=
        between_eq_nil_of_first position fun b hb => by have := first b hb; omega
      rw [none, List.nil_append] at ih
      rw [if_neg fun h => below h.2, none, List.nil_append, ih]
      by_cases inside : position a < high
      · rw [if_pos ⟨by omega, inside⟩, if_pos ⟨by omega, inside⟩]
      · rw [if_neg fun h => inside h.2, if_neg fun h => inside h.2]

structure Page (α : Type u) where
  items : List α
  stop : Nat

/-- A request is answered by what lies between its start and where scanning stopped. -/
structure Answers (history : List α) (latest limit start : Nat) (page : Page α) : Prop where
  items_eq : page.items = between position history start page.stop
  stop_ge : start ≤ page.stop
  stop_le : page.stop ≤ latest
  advances : start < latest → start < page.stop
  limited : page.items.length ≤ limit

section Answers
variable {position} {history : List α} {latest limit start : Nat}

theorem between_succ_length_le
    (strict : history.Pairwise fun a b => position a < position b) {high : Nat}
    (next : high ≤ start + 1) : (between position history start high).length ≤ 1 := by
  induction history with
  | nil => exact Nat.zero_le _
  | cons a rest ih =>
    obtain ⟨first, strict⟩ := List.pairwise_cons.mp strict
    rw [between_cons]
    split
    · have none : between position rest start high = [] :=
        between_eq_nil_of_first position fun b member => by
          have := first b member
          omega
      rw [none]
      exact Nat.le_refl 1
    · exact ih strict

theorem Answers.one (start : Nat) (strict : history.Pairwise fun a b => position a < position b)
    (positive : 0 < limit) (within : start ≤ latest) :
    Answers position history latest limit start
      ⟨between position history start (min (start + 1) latest), min (start + 1) latest⟩ where
  items_eq := rfl
  stop_ge := by dsimp only; omega
  stop_le := Nat.min_le_right _ _
  advances := by dsimp only; omega
  limited := Nat.le_trans (between_succ_length_le strict (Nat.min_le_left _ _)) positive

/-- Up to the item after a full page there is a full page. -/
theorem between_cut (strict : history.Pairwise fun a b => position a < position b) {a : α}
    (cut : (between position history start latest)[limit]? = some a) :
    (between position history start (position a)).length = limit := by
  induction history generalizing limit with
  | nil => cases cut
  | cons b rest ih =>
    obtain ⟨first, strict⟩ := List.pairwise_cons.mp strict
    rw [between_cons] at cut ⊢
    by_cases inside : start ≤ position b ∧ position b < latest
    · rw [if_pos inside] at cut
      cases limit with
      | zero =>
        cases cut
        rw [if_neg fun h => Nat.lt_irrefl _ h.2]
        exact congrArg List.length (between_eq_nil_of_first position fun c member =>
          Nat.le_of_lt (first c member))
      | succ limit =>
        rw [List.getElem?_cons_succ] at cut
        have later := first a (List.mem_of_mem_filter (List.mem_of_getElem? cut))
        rw [if_pos ⟨inside.1, later⟩, List.length_cons, ih strict cut]
    · rw [if_neg inside] at cut
      have member := List.mem_filter.mp (List.mem_of_getElem? cut)
      have later := first a member.1
      have within := of_decide_eq_true member.2
      rw [if_neg fun h => inside ⟨h.1, by omega⟩, ih strict cut]

/-- Where a page of at most `limit` items has to stop. -/
def fillingStop (position : α → Nat) (history : List α) (latest limit start : Nat) : Nat :=
  (((between position history start latest)[limit]?).map position).getD latest

theorem Answers.filling (start : Nat)
    (strict : history.Pairwise fun a b => position a < position b) (positive : 0 < limit)
    (within : start ≤ latest) :
    Answers position history latest limit start
      ⟨between position history start (fillingStop position history latest limit start),
        fillingStop position history latest limit start⟩ ∧
    ((between position history start (fillingStop position history latest limit start)).length <
      limit → fillingStop position history latest limit start = latest) := by
  unfold fillingStop
  cases cut : (between position history start latest)[limit]? with
  | none => exact ⟨⟨rfl, within, Nat.le_refl _, id, List.getElem?_eq_none_iff.mp cut⟩, fun _ => rfl⟩
  | some a =>
    have full := between_cut strict cut
    have inside := of_decide_eq_true (List.mem_filter.mp (List.mem_of_getElem? cut)).2
    have ahead : start < position a := by
      by_contra behind
      have none : between position history start (position a) = [] :=
        List.filter_eq_nil_iff.mpr fun b _ => by
          simp only [decide_eq_true_eq]
          omega
      rw [none] at full
      exact absurd full.symm (Nat.ne_of_gt positive)
    dsimp only [Option.map_some, Option.getD_some]
    refine ⟨⟨rfl, inside.1, Nat.le_of_lt inside.2, fun _ => ahead, Nat.le_of_eq full⟩, ?_⟩
    intro short
    exact absurd full (Nat.ne_of_lt short)

end Answers

/-- Following the stops from request `n` on, up to the first page below the limit. A token
says where a request starts. -/
inductive Reads {τ : Type w} (page : Nat → τ → Page α) (tokenAt : Nat → τ) (limit : Nat) :
    Nat → τ → List α → Nat → Prop
  | last {n : Nat} {token : τ} (short : (page n token).items.length < limit) :
      Reads page tokenAt limit n token (page n token).items (page n token).stop
  | more {n stop : Nat} {token : τ} {items : List α}
      (full : ¬ (page n token).items.length < limit)
      (rest : Reads page tokenAt limit (n + 1) (tokenAt (page n token).stop) items stop) :
      Reads page tokenAt limit n token ((page n token).items ++ items) stop

section Reads
variable {position} {τ : Type w} {page : Nat → τ → Page α} {tokenAt : Nat → τ}
  {startOf : τ → Nat} {history : List α} {latest limit n start stop stop' : Nat} {token : τ}
  {items items' : List α}

theorem Reads.unique (h : Reads page tokenAt limit n token items stop)
    (h' : Reads page tokenAt limit n token items' stop') : items = items' ∧ stop = stop' := by
  induction h generalizing items' with
  | last short =>
    cases h' with
    | last => exact ⟨rfl, rfl⟩
    | more full => exact absurd short full
  | more full rest ih =>
    cases h' with
    | last short => exact absurd short full
    | more _ rest' =>
      obtain ⟨rfl, rfl⟩ := ih rest'
      exact ⟨rfl, rfl⟩

section Answered
variable (resumes : ∀ p, startOf (tokenAt p) = p)
  (answers : ∀ n token, startOf token ≤ latest →
    Answers position history latest limit (startOf token) (page n token))
include resumes answers

/-- What has been read is what lies before the stop. -/
theorem Reads.items_eq (ordered : Ordered position history)
    (h : Reads page tokenAt limit n token items stop) (within : startOf token ≤ latest) :
    items = between position history (startOf token) stop ∧
      startOf token ≤ stop ∧ stop ≤ latest := by
  induction h with
  | @last n token short =>
    have answer := answers n token within
    exact ⟨answer.items_eq, answer.stop_ge, answer.stop_le⟩
  | @more n stop token items full rest ih =>
    have answer := answers n token within
    rw [resumes] at ih
    obtain ⟨items_eq, stop_ge, stop_le⟩ := ih answer.stop_le
    refine ⟨?_, Nat.le_trans answer.stop_ge stop_ge, stop_le⟩
    rw [answer.items_eq, items_eq, between_append position ordered answer.stop_ge stop_ge]

/-- Where a short page means the end, reading ends at the end. -/
theorem Reads.stop_eq
    (honest : ∀ n token, startOf token ≤ latest → (page n token).items.length < limit →
      (page n token).stop = latest)
    (h : Reads page tokenAt limit n token items stop) (within : startOf token ≤ latest) :
    stop = latest := by
  induction h with
  | @last n token short => exact honest n token within short
  | @more n stop token items full rest ih =>
    rw [resumes] at ih
    exact ih (answers n token within).stop_le

end Answered

theorem Answers.remaining_lt {answer : Page α} (ordered : Ordered position history)
    (answers : Answers position history latest limit start answer) (positive : 0 < limit)
    (full : ¬ answer.items.length < limit) :
    (between position history answer.stop latest).length <
      (between position history start latest).length := by
  have split := between_append position ordered answers.stop_ge answers.stop_le
  rw [← split, List.length_append, ← answers.items_eq]
  omega

end Reads

/-- A filtered reading loses nothing that matters exactly when nothing that matters is
filtered out. -/
theorem filterMap_filter_eq_iff (keep : α → Bool) (g : α → Option β) (history : List α) :
    (history.filter keep).filterMap g = history.filterMap g ↔
      ∀ a ∈ history, (g a).isSome → keep a := by
  induction history with
  | nil => simp
  | cons a rest ih =>
    cases kept : keep a with
    | true =>
      rw [List.filter_cons_of_pos kept]
      cases seen : g a with
      | none => simp [seen, ih]
      | some b => simp [seen, ih, kept]
    | false =>
      rw [List.filter_cons_of_neg (by simp [kept])]
      cases seen : g a with
      | none => simp [seen, ih]
      | some b =>
        constructor
        · intro same
          have shorter := ((List.filter_sublist (p := keep) (l := rest)).filterMap g).length_le
          rw [same, List.filterMap_cons, seen, List.length_cons] at shorter
          omega
        · intro all
          have := all a List.mem_cons_self (by simp [seen])
          simp [kept] at this

end ShowUp.CursorPaging
