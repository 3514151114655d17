import ShowUp.Shared.Decimal
import ShowUp.Shared.Regex

/-!
# Event ids in addresses

`parseEventId` of `lib/domain/event-id.ts`, which the pages ask, and `eventIdFromPath`
of the technical details, which reads the same id out of the whole path.
-/

namespace ShowUp.Client

set_option autoImplicit false

open Utf16 Regex

def maxEventId : Nat := 2 ^ 64 - 1

/-- `/^\d+$/` -/
def onlyDigits : Regex UInt16 := .sequence (.plus isDigit) .atEnd

def parseEventId (raw : Text) : Option Nat :=
  if !onlyDigits.test raw then none
  else
    -- `BigInt` has nothing to throw at when all it is given are digits
    let parsed := value raw
    if 0 < parsed ∧ parsed ≤ maxEventId then some parsed else none

def slash : UInt16 := 0x2F

/-- `(?:events|reservations|organizer\/events)` -/
def eventNames : Regex UInt16 :=
  .either (.text (ofString "events"))
    (.either (.text (ofString "reservations")) (.text (ofString "organizer/events")))

/-- `/^\/(?:events|reservations|organizer\/events)\/(\d+)(?:\/|$)/` -/
def eventPath : Regex UInt16 :=
  .sequence (.text [slash]) (.sequence eventNames (.sequence (.text [slash])
    (.sequence (.group (.plus isDigit)) (.either (.text [slash]) .atEnd))))

def eventIdFromPath (pathname : Text) : Option Nat :=
  match (eventPath.exec pathname).bind (·[0]?) with
  | none | some [] => none
  | some matched =>
    let id := value matched
    if 0 < id then some id else none

/-- What comes before an event id in the paths of the pages. -/
def eventStems : List Text :=
  [ofString "/events/", ofString "/reservations/", ofString "/organizer/events/"]

def IsDigits (raw : Text) : Prop := raw ≠ [] ∧ ∀ u ∈ raw, isDigit u = true

theorem isDigits_iff (raw : Text) :
    IsDigits raw ↔ raw.takeWhile isDigit ≠ [] ∧ raw.dropWhile isDigit = [] := by
  rw [IsDigits, List.dropWhile_eq_nil_iff]
  constructor
  · rintro ⟨nonempty, digits⟩
    rw [List.takeWhile_eq_self_iff.mpr digits]
    exact ⟨nonempty, digits⟩
  · rintro ⟨first, digits⟩
    refine ⟨?_, digits⟩
    rintro rfl
    exact first rfl

theorem onlyDigits_test_iff (raw : Text) : onlyDigits.test raw = true ↔ IsDigits raw := by
  have apart : ∀ u rest, isDigit u = true →
      atEnd.run (u :: rest) [] (fun _ captures => some captures) = none :=
    fun u rest _ => if_neg (List.cons_ne_nil u rest)
  have matched : onlyDigits.exec raw =
      if raw.takeWhile isDigit = [] then none
      else if raw.dropWhile isDigit = [] then some [] else none := runPlus_eq apart raw
  rw [isDigits_iff, test, matched]
  split
  · rename_i none
    exact iff_of_false Bool.noConfusion fun digits => digits.1 none
  · rename_i first
    split
    · rename_i last
      exact iff_of_true rfl ⟨first, last⟩
    · rename_i more
      exact iff_of_false Bool.noConfusion fun digits => more digits.2

/-- What `eventPath` makes of what is left when its digits are read. -/
def pathEnd (raw rest : Text) : Option (List Text) :=
  (either (text [slash]) atEnd).run rest [raw.take (raw.length - rest.length)]
    fun _ captures => some captures

theorem pathEnd_digit (raw : Text) {u : UInt16} (digit : isDigit u = true) (rest : Text) :
    pathEnd raw (u :: rest) = none := by
  have other : slash ≠ u := by
    rintro rfl
    exact absurd digit (by decide)
  rw [pathEnd, run_either, run_text_of_ne _ _ _ other, Option.none_or]
  exact if_neg (List.cons_ne_nil u rest)

/-- No two of the names begin alike. -/
theorem eventNames_run {name : Text}
    (h : name ∈ [ofString "events", ofString "reservations", ofString "organizer/events"])
    {next : Text → List Text → Option (List Text)} (input : Text) (captures : List Text) :
    eventNames.run (name ++ input) captures next = next input captures := by
  have events : ofString "events" = 0x65 :: ofString "vents" := by decide
  have reservations : ofString "reservations" = 0x72 :: ofString "eservations" := by decide
  have organizer : ofString "organizer/events" = 0x6F :: ofString "rganizer/events" := by decide
  have er : (0x65 : UInt16) ≠ 0x72 := by decide
  have eo : (0x65 : UInt16) ≠ 0x6F := by decide
  have ro : (0x72 : UInt16) ≠ 0x6F := by decide
  simp only [List.mem_cons, List.not_mem_nil, or_false] at h
  rw [eventNames, run_either, run_either]
  rcases h with rfl | rfl | rfl
  · rw [run_text, events, reservations, organizer, List.cons_append, run_text_of_ne _ _ _ er.symm,
      run_text_of_ne _ _ _ eo.symm, Option.or_none, Option.or_none]
  · rw [run_text, events, reservations, organizer, List.cons_append, run_text_of_ne _ _ _ er,
      run_text_of_ne _ _ _ ro.symm, Option.or_none, Option.none_or]
  · rw [run_text, events, reservations, organizer, List.cons_append, run_text_of_ne _ _ _ eo,
      run_text_of_ne _ _ _ ro, Option.none_or, Option.none_or]

theorem eventPath_exec {stem : Text} (h : stem ∈ eventStems) (raw : Text) :
    eventPath.exec (stem ++ raw) =
      if raw.takeWhile isDigit = [] then none else pathEnd raw (raw.dropWhile isDigit) := by
  obtain ⟨name, known, rfl⟩ : ∃ name ∈ [ofString "events", ofString "reservations",
      ofString "organizer/events"], stem = [slash] ++ (name ++ [slash]) := by
    revert stem
    decide
  rw [exec, eventPath, List.append_assoc, List.append_assoc, run_sequence, run_text, run_sequence,
    eventNames_run known, run_sequence, run_text, run_sequence, run_group, run_plus]
  exact runPlus_eq (fun u rest digit => pathEnd_digit raw digit rest) raw

theorem eventPath_digits {stem raw : Text} (h : stem ∈ eventStems) (digits : IsDigits raw) :
    eventPath.exec (stem ++ raw) = some [raw] := by
  obtain ⟨first, last⟩ := (isDigits_iff raw).mp digits
  rw [eventPath_exec h, if_neg first, last, pathEnd, List.length_nil, Nat.sub_zero,
    List.take_length]
  rfl

theorem eventPath_noDigits {stem raw : Text} (h : stem ∈ eventStems) (whole : slash ∉ raw)
    (noDigits : ¬ IsDigits raw) : eventPath.exec (stem ++ raw) = none := by
  rw [eventPath_exec h]
  split
  · rfl
  · rename_i first
    cases more : raw.dropWhile isDigit with
    | nil => exact absurd ((isDigits_iff raw).mpr ⟨first, more⟩) noDigits
    | cons u rest =>
      have other : slash ≠ u := by
        rintro rfl
        exact whole ((List.dropWhile_suffix isDigit).subset (more ▸ List.mem_cons_self))
      rw [pathEnd, run_either, run_text_of_ne _ _ _ other, Option.none_or]
      exact if_neg (List.cons_ne_nil u rest)

theorem parseEventId_digits {raw : Text} (digits : IsDigits raw) :
    parseEventId raw =
      if 0 < value raw ∧ value raw ≤ maxEventId then some (value raw) else none := by
  unfold parseEventId
  rw [(onlyDigits_test_iff raw).mpr digits]
  rfl

theorem parseEventId_noDigits {raw : Text} (noDigits : ¬ IsDigits raw) :
    parseEventId raw = none := by
  have unmatched : onlyDigits.test raw = false :=
    Bool.eq_false_iff.mpr fun matched => noDigits ((onlyDigits_test_iff raw).mp matched)
  unfold parseEventId
  rw [unmatched]
  rfl

theorem parseEventId_eq_some_iff (raw : Text) (id : Nat) :
    parseEventId raw = some id ↔ IsDigits raw ∧ value raw = id ∧ 1 ≤ id ∧ id ≤ 2 ^ 64 - 1 := by
  by_cases digits : IsDigits raw
  · rw [parseEventId_digits digits]
    constructor
    · intro parsed
      split at parsed
      · rename_i range
        cases parsed
        exact ⟨digits, rfl, range⟩
      · cases parsed
    · rintro ⟨_, rfl, range⟩
      exact if_pos range
  · rw [parseEventId_noDigits digits]
    exact iff_of_false (fun none => by cases none) fun parsed => digits parsed.1

theorem eventIdFromPath_digits {stem raw : Text} (h : stem ∈ eventStems) (digits : IsDigits raw) :
    eventIdFromPath (stem ++ raw) = if 0 < value raw then some (value raw) else none := by
  unfold eventIdFromPath
  rw [eventPath_digits h digits]
  cases raw with
  | nil => exact absurd rfl digits.1
  | cons => rfl

theorem eventIdFromPath_noDigits {stem raw : Text} (h : stem ∈ eventStems) (whole : slash ∉ raw)
    (noDigits : ¬ IsDigits raw) : eventIdFromPath (stem ++ raw) = none := by
  unfold eventIdFromPath
  rw [eventPath_noDigits h whole noDigits]
  rfl

theorem IsDigits.whole {raw : Text} (digits : IsDigits raw) : slash ∉ raw := by
  intro mem
  exact absurd (digits.2 slash mem) (by decide)

/-- The pages and the panel go by one rule exactly where the digits do not exceed 64 bits. -/
theorem one_rule_iff (raw : Text) :
    ((∀ id, parseEventId raw = some id ↔
        IsDigits raw ∧ value raw = id ∧ 1 ≤ id ∧ id ≤ 2 ^ 64 - 1) ∧
      (slash ∉ raw → ∀ stem ∈ eventStems, eventIdFromPath (stem ++ raw) = parseEventId raw)) ↔
    ¬ (IsDigits raw ∧ 2 ^ 64 ≤ value raw) := by
  constructor
  · rintro ⟨_, agree⟩ ⟨digits, large⟩
    have stem : ofString "/events/" ∈ eventStems := List.mem_cons_self
    have same := agree digits.whole _ stem
    have positive : 0 < value raw := Nat.lt_of_lt_of_le (by decide) large
    have refused : ¬ (0 < value raw ∧ value raw ≤ maxEventId) := by
      unfold maxEventId
      omega
    rw [eventIdFromPath_digits stem digits, parseEventId_digits digits, if_pos positive,
      if_neg refused] at same
    cases same
  · intro small
    refine ⟨parseEventId_eq_some_iff raw, fun whole stem h => ?_⟩
    by_cases digits : IsDigits raw
    · have bound : value raw ≤ maxEventId := by
        have := not_and.mp small digits
        unfold maxEventId
        omega
      simp only [eventIdFromPath_digits h digits, parseEventId_digits digits, bound, and_true]
    · rw [eventIdFromPath_noDigits h whole digits, parseEventId_noDigits digits]

/-- One past the largest id: no page takes it, and the panel does. -/
theorem pastLargest_shown :
    parseEventId (ofString "18446744073709551616") = none ∧
      eventIdFromPath (ofString "/events/18446744073709551616") = some 18446744073709551616 ∧
      ¬ ∀ raw, slash ∉ raw → ∀ stem ∈ eventStems,
        eventIdFromPath (stem ++ raw) = parseEventId raw := by
  have refused : parseEventId (ofString "18446744073709551616") = none := by decide
  have shown : eventIdFromPath (ofString "/events/18446744073709551616") =
    some 18446744073709551616 := by decide
  refine ⟨refused, shown, fun agree => ?_⟩
  have same := agree (ofString "18446744073709551616") (by decide) _ List.mem_cons_self
  rw [refused] at same
  cases shown.symm.trans same

end ShowUp.Client
