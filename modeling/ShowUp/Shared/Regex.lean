import Mathlib.Data.List.TakeDrop

/-!
# Regular expressions

The forms of a JavaScript pattern that this development needs, matched as the
language does it: alternatives in their order, a repetition as long as possible,
and back from either where what follows fails. A pattern is anchored at the start.
-/

namespace ShowUp

set_option autoImplicit false

universe u v

inductive Regex (α : Type u) where
  | text (units : List α)
  | sequence (first second : Regex α)
  /-- `first|second` -/
  | either (first second : Regex α)
  /-- `[members]+` -/
  | plus (members : α → Bool)
  /-- `(body)`, which is captured -/
  | group (body : Regex α)
  /-- `$` -/
  | atEnd

namespace Regex
variable {α : Type u} {β : Type v}

/-- What `next` gives after the longest possible run of members. -/
def runPlus (members : α → Bool) (next : List α → Option β) : List α → Option β
  | [] => none
  | u :: rest =>
    if members u then (runPlus members next rest).or (next rest) else none

variable [DecidableEq α]

/-- What `next` gives after the first way to match that it does not refuse. -/
def run : Regex α → List α → List (List α) → (List α → List (List α) → Option β) → Option β
  | text units, input, captures, next =>
    if units.isPrefixOf input then next (input.drop units.length) captures else none
  | sequence first second, input, captures, next =>
    first.run input captures fun rest captures => second.run rest captures next
  | either first second, input, captures, next =>
    (first.run input captures next).or (second.run input captures next)
  | plus members, input, captures, next =>
    runPlus members (fun rest => next rest captures) input
  | group body, input, captures, next =>
    body.run input captures fun rest captures =>
      next rest (captures ++ [input.take (input.length - rest.length)])
  | atEnd, input, captures, next => if input = [] then next input captures else none

/-- The captures of the match, where there is one. -/
def exec (pattern : Regex α) (input : List α) : Option (List (List α)) :=
  pattern.run input [] fun _ captures => some captures

def test (pattern : Regex α) (input : List α) : Bool := (pattern.exec input).isSome

omit [DecidableEq α] in
/-- What follows a repetition and cannot begin with a member is tried once only. -/
theorem runPlus_eq {members : α → Bool} {next : List α → Option β}
    (apart : ∀ u rest, members u = true → next (u :: rest) = none) (input : List α) :
    runPlus members next input =
      if input.takeWhile members = [] then none else next (input.dropWhile members) := by
  induction input with
  | nil => rfl
  | cons u rest ih =>
    unfold runPlus
    by_cases member : members u = true
    · rw [if_pos member, ih, List.takeWhile_cons_of_pos member, List.dropWhile_cons_of_pos member,
        if_neg (List.cons_ne_nil _ _)]
      cases rest with
      | nil => rfl
      | cons v rest =>
        by_cases more : members v = true
        · rw [List.takeWhile_cons_of_pos more, if_neg (List.cons_ne_nil _ _), apart v rest more,
            Option.or_none]
        · rw [List.takeWhile_cons_of_neg more, if_pos rfl, Option.none_or,
            List.dropWhile_cons_of_neg more]
    · rw [if_neg member, List.takeWhile_cons_of_neg member, if_pos rfl]

section Run
variable (input : List α) (captures : List (List α))
  (next : List α → List (List α) → Option β)

@[simp] theorem run_sequence (first second : Regex α) :
    (sequence first second).run input captures next =
      first.run input captures fun rest captures => second.run rest captures next := rfl

@[simp] theorem run_either (first second : Regex α) :
    (either first second).run input captures next =
      (first.run input captures next).or (second.run input captures next) := rfl

@[simp] theorem run_plus (members : α → Bool) :
    (plus members).run input captures next =
      runPlus members (fun rest => next rest captures) input := rfl

@[simp] theorem run_group (body : Regex α) :
    (group body).run input captures next = body.run input captures fun rest captures =>
      next rest (captures ++ [input.take (input.length - rest.length)]) := rfl

theorem run_text (units : List α) :
    (text units).run (units ++ input) captures next = next input captures := by
  rw [run, if_pos (List.isPrefixOf_iff_prefix.mpr (List.prefix_append units input)),
    List.drop_left]

theorem run_text_of_ne {u v : α} (h : u ≠ v) (units : List α) :
    (text (u :: units)).run (v :: input) captures next = none := by
  rw [run, List.isPrefixOf_cons_cons, beq_eq_false_iff_ne.mpr h]
  rfl

end Run

end Regex

end ShowUp
