import Mathlib.Data.List.Basic

/-!
# Lines of text

A reader that honours every line break ends a line at the pair of break units,
and at each of them alone. Lines that hold no break of their own are read back
as they were written.
-/

namespace ShowUp.Lines

set_option autoImplicit false

universe u
variable {α : Type u} [DecidableEq α] (cr lf : α)

def pushHead (u : α) : List (List α) → List (List α)
  | [] => [[u]]
  | line :: lines => (u :: line) :: lines

/-- The pieces between the breaks; `afterCr` is set where the first half of a pair has just
been read. -/
def splitFrom (afterCr : Bool) : List α → List (List α)
  | [] => [[]]
  | u :: rest =>
    if u = lf then if afterCr then splitFrom false rest else [] :: splitFrom false rest
    else if u = cr then [] :: splitFrom true rest
    else pushHead u (splitFrom false rest)

def split (text : List α) : List (List α) := splitFrom cr lf false text

/-- Lines as they are written, each with a pair of break units after it. -/
def terminate (lines : List (List α)) : List α := lines.flatMap (· ++ [cr, lf])

/-- The text with every break replaced by the second unit of the pair. -/
def normalise (text : List α) : List α := [lf].intercalate (split cr lf text)

def Unbroken (line : List α) : Prop := cr ∉ line ∧ lf ∉ line

instance (line : List α) : Decidable (Unbroken cr lf line) := inferInstanceAs (Decidable (_ ∧ _))

variable {cr lf}

omit [DecidableEq α] in
theorem Unbroken.of_cons {u : α} {line : List α} (h : Unbroken cr lf (u :: line)) :
    u ≠ cr ∧ u ≠ lf ∧ Unbroken cr lf line := by
  obtain ⟨hc, hl⟩ := h
  rw [List.mem_cons, not_or] at hc hl
  exact ⟨Ne.symm hc.1, Ne.symm hl.1, hc.2, hl.2⟩

omit [DecidableEq α] in
theorem Unbroken.cons {u : α} {line : List α} (hc : u ≠ cr) (hl : u ≠ lf)
    (h : Unbroken cr lf line) : Unbroken cr lf (u :: line) :=
  ⟨List.not_mem_cons_of_ne_of_not_mem (Ne.symm hc) h.1,
    List.not_mem_cons_of_ne_of_not_mem (Ne.symm hl) h.2⟩

omit [DecidableEq α] in
theorem unbroken_append {line rest : List α} :
    Unbroken cr lf (line ++ rest) ↔ Unbroken cr lf line ∧ Unbroken cr lf rest := by
  unfold Unbroken
  simp only [List.mem_append, not_or]
  exact and_and_and_comm

omit [DecidableEq α] in
theorem mem_pushHead {u : α} {lines : List (List α)} {line : List α}
    (h : line ∈ pushHead u lines) : line = [u] ∨ (∃ l ∈ lines, line = u :: l) ∨ line ∈ lines := by
  cases lines with
  | nil => exact Or.inl (List.mem_singleton.mp h)
  | cons l lines =>
    rcases List.mem_cons.mp h with rfl | h
    · exact Or.inr (Or.inl ⟨l, List.mem_cons_self, rfl⟩)
    · exact Or.inr (Or.inr (List.mem_cons_of_mem _ h))

/-- What is read between breaks holds none. -/
theorem unbroken_of_mem (text : List α) (afterCr : Bool) :
    ∀ line ∈ splitFrom cr lf afterCr text, Unbroken cr lf line := by
  have empty : Unbroken cr lf ([] : List α) := ⟨List.not_mem_nil, List.not_mem_nil⟩
  induction text generalizing afterCr with
  | nil =>
    intro line h
    rw [List.mem_singleton.mp h]
    exact empty
  | cons u rest ih =>
    intro line h
    unfold splitFrom at h
    by_cases hl : u = lf
    · rw [if_pos hl] at h
      cases afterCr with
      | true => exact ih false line h
      | false =>
        rcases List.mem_cons.mp h with rfl | h
        · exact empty
        · exact ih false line h
    · rw [if_neg hl] at h
      by_cases hc : u = cr
      · rw [if_pos hc] at h
        rcases List.mem_cons.mp h with rfl | h
        · exact empty
        · exact ih true line h
      · rw [if_neg hc] at h
        rcases mem_pushHead h with rfl | ⟨l, hm, rfl⟩ | h
        · exact empty.cons hc hl
        · exact (ih false l hm).cons hc hl
        · exact ih false line h

/-- A line is read up to the break after it. -/
theorem splitFrom_line (distinct : cr ≠ lf) {line : List α} (h : Unbroken cr lf line)
    (rest : List α) (afterCr : Bool) :
    splitFrom cr lf afterCr (line ++ cr :: rest) = line :: splitFrom cr lf true rest := by
  induction line generalizing afterCr with
  | nil => rw [List.nil_append, splitFrom, if_neg distinct, if_pos rfl]
  | cons u line ih =>
    obtain ⟨hc, hl, h⟩ := h.of_cons
    rw [List.cons_append, splitFrom, if_neg hl, if_neg hc, ih h, pushHead]

theorem split_terminate (distinct : cr ≠ lf) {lines : List (List α)}
    (h : ∀ line ∈ lines, Unbroken cr lf line) :
    split cr lf (terminate cr lf lines) = lines ++ [[]] := by
  induction lines with
  | nil => rfl
  | cons line lines ih =>
    have rest := ih fun l hm => h l (List.mem_cons_of_mem _ hm)
    unfold terminate split at rest
    rw [split, terminate, List.flatMap_cons, List.append_assoc, List.cons_append,
      splitFrom_line distinct (h line List.mem_cons_self), List.cons_append, splitFrom, if_pos rfl,
      if_pos rfl, List.nil_append, rest, List.cons_append]

/-- Written lines are read back exactly when none of them holds a break. -/
theorem split_terminate_iff (distinct : cr ≠ lf) (lines : List (List α)) :
    split cr lf (terminate cr lf lines) = lines ++ [[]] ↔
      ∀ line ∈ lines, Unbroken cr lf line := by
  constructor
  · intro h line hm
    apply unbroken_of_mem (terminate cr lf lines) false
    change line ∈ split cr lf (terminate cr lf lines)
    rw [h]
    exact List.mem_append_left _ hm
  · exact split_terminate distinct

/-- A piece with a break on both sides is a line of its own. -/
theorem mem_split (distinct : cr ≠ lf) {line : List α} (h : Unbroken cr lf line)
    (before rest : List α) : line ∈ split cr lf (before ++ cr :: (line ++ cr :: rest)) := by
  have later : ∀ afterCr,
      line ∈ (splitFrom cr lf afterCr (before ++ cr :: (line ++ cr :: rest))).tail := by
    induction before with
    | nil =>
      intro afterCr
      rw [List.nil_append, splitFrom, if_neg distinct, if_pos rfl, splitFrom_line distinct h]
      exact List.mem_cons_self
    | cons u before ih =>
      intro afterCr
      rw [List.cons_append, splitFrom]
      by_cases hl : u = lf
      · rw [if_pos hl]
        cases afterCr with
        | true => exact ih false
        | false => exact List.mem_of_mem_tail (ih false)
      · rw [if_neg hl]
        by_cases hc : u = cr
        · rw [if_pos hc]
          exact List.mem_of_mem_tail (ih true)
        · rw [if_neg hc]
          have found := ih false
          cases lines : splitFrom cr lf false (before ++ cr :: (line ++ cr :: rest)) with
          | nil =>
            rw [lines] at found
            cases found
          | cons first others =>
            rw [lines] at found
            exact found
  exact List.mem_of_mem_tail (later false)

/-- A written line that holds two breaks gives the piece between them as a line. -/
theorem mem_split_terminate (distinct : cr ≠ lf) {lines : List (List α)} {before line after : List α}
    (written : before ++ cr :: (line ++ cr :: after) ∈ lines) (h : Unbroken cr lf line) :
    line ∈ split cr lf (terminate cr lf lines) := by
  obtain ⟨first, others, rfl⟩ := List.append_of_mem written
  have split := mem_split distinct h (terminate cr lf first ++ before)
    (after ++ [cr, lf] ++ terminate cr lf others)
  simpa [terminate] using split

theorem normalise_eq {text : List α} (h : cr ∉ text) : normalise cr lf text = text := by
  have some : ∀ rest : List α, splitFrom cr lf false rest ≠ [] := by
    intro rest
    cases rest with
    | nil => exact List.cons_ne_nil _ _
    | cons u rest =>
      unfold splitFrom
      split
      · exact List.cons_ne_nil _ _
      · split
        · exact List.cons_ne_nil _ _
        · unfold pushHead
          split <;> exact List.cons_ne_nil _ _
  unfold normalise split
  induction text with
  | nil => rfl
  | cons u text ih =>
    have ih := ih fun m => h (List.mem_cons_of_mem _ m)
    have hc : u ≠ cr := fun e => h (e ▸ List.mem_cons_self)
    obtain ⟨first, others, lines⟩ := List.exists_cons_of_ne_nil (some text)
    rw [lines] at ih
    unfold splitFrom
    by_cases hl : u = lf
    · rw [if_pos hl, lines, if_neg Bool.false_ne_true, List.intercalate_cons_cons, ih, hl]
      rfl
    · rw [if_neg hl, if_neg hc, lines, pushHead]
      cases others with
      | nil =>
        rw [List.intercalate_singleton] at ih ⊢
        rw [ih]
      | cons other others =>
        rw [List.intercalate_cons_cons] at ih ⊢
        rw [List.cons_append, List.cons_append, ih]

end ShowUp.Lines
