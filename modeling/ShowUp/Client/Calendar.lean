import ShowUp.Shared.IsoDate
import ShowUp.Shared.Lines

/-!
# The calendar export

`buildCalendarIcs` of `lib/domain/calendar.ts`. Title and venue are whatever an
organizer stored on chain. The reader is one that honours every line break and
undoes the TEXT escapes of RFC 5545.
-/

namespace ShowUp.Client

set_option autoImplicit false

open Utf16 Lines

structure CalendarEvent where
  id : Text
  title : Text
  venue : Text
  startTime : ℚ
  endTime : ℚ
  cancellationDeadline : ℚ
  reservationUrl : Text

def cr : UInt16 := 0x0D

def lf : UInt16 := 0x0A

def backslash : UInt16 := 0x5C

def semicolon : UInt16 := 0x3B

def comma : UInt16 := 0x2C

def lowerN : UInt16 := 0x6E

def upperN : UInt16 := 0x4E

/-- `text.replaceAll(unit, replacement)` -/
def replaceUnit (unit : UInt16) (replacement text : Text) : Text :=
  text.flatMap fun u => if u = unit then replacement else [u]

/-- `text.replace(needle, replacement)`, which replaces the first occurrence -/
def replaceFirst (needle replacement : Text) : Text → Text
  | [] => if needle.isEmpty then replacement else []
  | u :: rest =>
    if needle.isPrefixOf (u :: rest) then replacement ++ (u :: rest).drop needle.length
    else u :: replaceFirst needle replacement rest

/-- `text.replace(/\.\d{3}Z$/, "Z")` -/
def dropMilliseconds (text : Text) : Text :=
  match text.reverse with
  | z :: c :: b :: a :: p :: before =>
    if p = point ∧ [a, b, c].all isDigit ∧ z = Moment.upperZ then before.reverse ++ [Moment.upperZ]
    else text
  | _ => text

section Builder
/- `product` is the multiplication of doubles. Times outside the years 1970 to 9999, among
them those that make `toISOString` throw, have no text here. -/
variable (product : ℚ → ℚ → ℚ)

def isoDate (unixSeconds : ℚ) : Option Text :=
  (Moment.ofMs? (product unixSeconds 1000)).map Moment.toISOString

def compactUtc (unixSeconds : ℚ) : Option Text :=
  (isoDate product unixSeconds).map fun iso =>
    dropMilliseconds (replaceUnit Moment.colon [] (replaceUnit Moment.hyphen [] iso))

def cancellationText (unixSeconds : ℚ) : Option Text :=
  (isoDate product unixSeconds).map (replaceFirst (ofString ".000Z") (ofString "Z"))

def calendarDetails (event : CalendarEvent) : Option Text := do
  let cancellation ← cancellationText product event.cancellationDeadline
  return [lf].intercalate
    [ofString "Your ShowUp attendance reservation on Stellar Testnet.",
      ofString "Free cancellation until " ++ cancellation ++ ofString ".",
      ofString "Open reservation: " ++ event.reservationUrl]

def escapeIcsText (value : Text) : Text :=
  replaceUnit comma [backslash, comma] (replaceUnit semicolon [backslash, semicolon]
    (replaceUnit lf [backslash, lowerN] (replaceUnit backslash [backslash, backslash] value)))

/-- `lines` of `buildCalendarIcs` -/
def calendarLines (event : CalendarEvent) (generatedAt : ℚ) : Option (List Text) := do
  let stamp ← compactUtc product generatedAt
  let start ← compactUtc product event.startTime
  let finish ← compactUtc product event.endTime
  let details ← calendarDetails product event
  return [
    ofString "BEGIN:VCALENDAR",
    ofString "VERSION:2.0",
    ofString "PRODID:-//ShowUp//Attendance Commitment//EN",
    ofString "CALSCALE:GREGORIAN",
    ofString "METHOD:PUBLISH",
    ofString "BEGIN:VEVENT",
    ofString "UID:showup-event-" ++ escapeIcsText event.id ++ ofString "@showup",
    ofString "DTSTAMP:" ++ stamp,
    ofString "DTSTART:" ++ start,
    ofString "DTEND:" ++ finish,
    ofString "SUMMARY:" ++ escapeIcsText event.title,
    ofString "LOCATION:" ++ escapeIcsText event.venue,
    ofString "DESCRIPTION:" ++ escapeIcsText details,
    ofString "URL:" ++ escapeIcsText event.reservationUrl,
    ofString "END:VEVENT",
    ofString "END:VCALENDAR"]

/-- The lines joined by the pair of break units, and one more pair. -/
def buildCalendarIcs (event : CalendarEvent) (generatedAt : ℚ) : Option Text :=
  (calendarLines product event generatedAt).map fun lines =>
    [cr, lf].intercalate lines ++ [cr, lf]

end Builder

/-- A TEXT value with its escapes undone. -/
def unescapeText : Text → Text
  | [] => []
  | [u] => [u]
  | u :: v :: rest =>
    if u = backslash then
      (if v = lowerN ∨ v = upperN then lf else v) :: unescapeText rest
    else u :: unescapeText (v :: rest)

/-- What becomes of one unit when it is escaped. -/
def escapeUnit (u : UInt16) : Text :=
  if u = lf then [backslash, lowerN]
  else if u = backslash ∨ u = semicolon ∨ u = comma then [backslash, u]
  else [u]

/-- The replacements come in an order in which none meets what another has put in. -/
theorem escapeIcsText_eq (value : Text) : escapeIcsText value = value.flatMap escapeUnit := by
  unfold escapeIcsText replaceUnit
  rw [List.flatMap_assoc, List.flatMap_assoc, List.flatMap_assoc]
  congr 1
  funext u
  unfold escapeUnit
  by_cases hn : u = lf
  · subst hn
    decide
  · by_cases hb : u = backslash
    · subst hb
      decide
    · by_cases hs : u = semicolon
      · subst hs
        decide
      · by_cases hc : u = comma
        · subst hc
          decide
        · simp [hn, hb, hs, hc]

theorem unescapeText_cons {u : UInt16} (h : u ≠ backslash) (rest : Text) :
    unescapeText (u :: rest) = u :: unescapeText rest := by
  cases rest with
  | nil => rfl
  | cons v rest => rw [unescapeText, if_neg h]

theorem unescapeText_escape (value : Text) : unescapeText (escapeIcsText value) = value := by
  rw [escapeIcsText_eq]
  induction value with
  | nil => rfl
  | cons u rest ih =>
    rw [List.flatMap_cons, escapeUnit]
    by_cases hn : u = lf
    · rw [if_pos hn, List.cons_append, List.cons_append, List.nil_append, unescapeText, if_pos rfl,
        if_pos (Or.inl rfl), ih, hn]
    · rw [if_neg hn]
      by_cases special : u = backslash ∨ u = semicolon ∨ u = comma
      · have plain : ¬ (u = lowerN ∨ u = upperN) := by
          rcases special with rfl | rfl | rfl <;> decide
        rw [if_pos special, List.cons_append, List.cons_append, List.nil_append, unescapeText,
          if_pos rfl, if_neg plain, ih]
      · rw [if_neg special, List.cons_append, List.nil_append,
          unescapeText_cons (fun h => special (Or.inl h)), ih]

theorem mem_escapeIcsText {value : Text} {u : UInt16} (h : u ∈ escapeIcsText value) :
    u ≠ lf ∧ (u = cr → cr ∈ value) := by
  rw [escapeIcsText_eq] at h
  obtain ⟨v, hv, h⟩ := List.mem_flatMap.mp h
  unfold escapeUnit at h
  split at h
  · simp only [List.mem_cons, List.not_mem_nil, or_false] at h
    rcases h with rfl | rfl <;> exact ⟨by decide, fun h => absurd h (by decide)⟩
  · rename_i plain
    have only : u = backslash ∨ u = v := by
      split at h
      · simpa using h
      · exact Or.inr (List.mem_singleton.mp h)
    rcases only with rfl | rfl
    · exact ⟨by decide, fun h => absurd h (by decide)⟩
    · exact ⟨plain, fun h => h ▸ hv⟩

theorem cr_mem_escapeIcsText {value : Text} (h : cr ∈ value) : cr ∈ escapeIcsText value := by
  rw [escapeIcsText_eq]
  exact List.mem_flatMap.mpr ⟨cr, h, by decide⟩

/-- Escaping leaves a line break only where the text holds a lone or paired CR. -/
theorem unbroken_escape {value : Text} : Unbroken cr lf (escapeIcsText value) ↔ cr ∉ value := by
  constructor
  · exact fun h m => h.1 (cr_mem_escapeIcsText m)
  · intro h
    exact ⟨fun m => h ((mem_escapeIcsText m).2 rfl), fun m => (mem_escapeIcsText m).1 rfl⟩

theorem unbroken_dates {text : Text} (h : ∀ u ∈ text, Moment.DateUnit u) :
    Unbroken cr lf text := by
  constructor
  · intro m
    have unit := h cr m
    revert unit
    unfold Moment.DateUnit
    decide
  · intro m
    have unit := h lf m
    revert unit
    unfold Moment.DateUnit
    decide

theorem mem_replaceUnit_nil {unit u : UInt16} {text : Text} (h : u ∈ replaceUnit unit [] text) :
    u ∈ text := by
  obtain ⟨v, hv, h⟩ := List.mem_flatMap.mp h
  split at h
  · cases h
  · rwa [List.mem_singleton.mp h]

theorem mem_replaceFirst {needle replacement text : Text} {u : UInt16}
    (h : u ∈ replaceFirst needle replacement text) : u ∈ replacement ∨ u ∈ text := by
  induction text with
  | nil =>
    unfold replaceFirst at h
    split at h
    · exact Or.inl h
    · cases h
  | cons v rest ih =>
    unfold replaceFirst at h
    split at h
    · exact (List.mem_append.mp h).imp_right List.mem_of_mem_drop
    · rcases List.mem_cons.mp h with rfl | h
      · exact Or.inr List.mem_cons_self
      · exact (ih h).imp_right (List.mem_cons_of_mem _)

theorem mem_dropMilliseconds {text : Text} {u : UInt16} (h : u ∈ dropMilliseconds text) :
    u = Moment.upperZ ∨ u ∈ text := by
  unfold dropMilliseconds at h
  split at h
  · rename_i before reversed
    split at h
    · rcases List.mem_append.mp h with h | h
      · refine Or.inr (List.mem_reverse.mp ?_)
        rw [reversed]
        simp only [List.mem_cons]
        exact Or.inr (Or.inr (Or.inr (Or.inr (Or.inr (List.mem_reverse.mp h)))))
      · exact Or.inl (List.mem_singleton.mp h)
    · exact Or.inr h
  · exact Or.inr h

section Output
variable {product : ℚ → ℚ → ℚ} {event : CalendarEvent} {generatedAt : ℚ}

theorem unbroken_compactUtc {time : ℚ} {text : Text} (written : compactUtc product time = some text) :
    Unbroken cr lf text := by
  obtain ⟨iso, dated, rfl⟩ := Option.map_eq_some_iff.mp written
  obtain ⟨moment, _, rfl⟩ := Option.map_eq_some_iff.mp dated
  apply unbroken_dates
  intro u h
  rcases mem_dropMilliseconds h with rfl | h
  · unfold Moment.DateUnit
    decide
  · exact moment.dateUnit_toISOString u (mem_replaceUnit_nil (mem_replaceUnit_nil h))

theorem unbroken_cancellationText {time : ℚ} {text : Text}
    (written : cancellationText product time = some text) : Unbroken cr lf text := by
  obtain ⟨iso, dated, rfl⟩ := Option.map_eq_some_iff.mp written
  obtain ⟨moment, _, rfl⟩ := Option.map_eq_some_iff.mp dated
  apply unbroken_dates
  intro u h
  rcases mem_replaceFirst h with h | h
  · have letter : ofString "Z" = [Moment.upperZ] := by decide
    rw [letter, List.mem_singleton] at h
    rw [h]
    unfold Moment.DateUnit
    decide
  · exact moment.dateUnit_toISOString u h

/-- The name each line starts with. -/
def propertyNames : List Text :=
  [ofString "BEGIN:", ofString "VERSION:", ofString "PRODID:", ofString "CALSCALE:",
    ofString "METHOD:", ofString "BEGIN:", ofString "UID:", ofString "DTSTAMP:",
    ofString "DTSTART:", ofString "DTEND:", ofString "SUMMARY:", ofString "LOCATION:",
    ofString "DESCRIPTION:", ofString "URL:", ofString "END:", ofString "END:"]

/-- The output is the sixteen lines intended, each under its property's name, and title and
venue are read back from theirs. -/
def ReadsBack (product : ℚ → ℚ → ℚ) (event : CalendarEvent) (generatedAt : ℚ) (out : Text) :
    Prop :=
  ∃ lines summary location, calendarLines product event generatedAt = some lines ∧
    split cr lf out = lines ++ [[]] ∧ lines.length = 16 ∧
    List.Forall₂ (fun name line => name <+: line) propertyNames lines ∧
    lines[10]? = some (ofString "SUMMARY:" ++ summary) ∧
    unescapeText summary = normalise cr lf event.title ∧
    lines[11]? = some (ofString "LOCATION:" ++ location) ∧
    unescapeText location = normalise cr lf event.venue

/-- No text of the event holds a CR. -/
structure CalendarEvent.WithoutCr (event : CalendarEvent) : Prop where
  title : cr ∉ event.title
  venue : cr ∉ event.venue
  id : cr ∉ event.id
  url : cr ∉ event.reservationUrl

theorem intercalate_terminate (lines : List Text) (some : lines ≠ []) :
    [cr, lf].intercalate lines ++ [cr, lf] = terminate cr lf lines := by
  induction lines with
  | nil => exact absurd rfl some
  | cons line lines ih =>
    cases lines with
    | nil =>
      rw [List.intercalate_singleton, terminate, List.flatMap_cons, List.flatMap_nil,
        List.append_nil]
    | cons next lines =>
      have rest := ih (List.cons_ne_nil _ _)
      rw [List.intercalate_cons_cons, List.append_assoc, rest]
      rfl

theorem exists_calendarLines (inYears : ∀ time ∈ [generatedAt, event.startTime, event.endTime,
    event.cancellationDeadline], (Moment.ofMs? (product time 1000)).isSome) :
    ∃ lines, calendarLines product event generatedAt = some lines := by
  have written : ∀ {time : ℚ}, (Moment.ofMs? (product time 1000)).isSome →
      ∃ iso, isoDate product time = some iso := by
    intro time h
    obtain ⟨moment, dated⟩ := Option.isSome_iff_exists.mp h
    exact ⟨_, by rw [isoDate, dated, Option.map_some]⟩
  simp only [List.forall_mem_cons] at inYears
  obtain ⟨stamp, start, finish, cancellation, _⟩ := inYears
  obtain ⟨_, stamp⟩ := written stamp
  obtain ⟨_, start⟩ := written start
  obtain ⟨_, finish⟩ := written finish
  obtain ⟨_, cancellation⟩ := written cancellation
  simp [calendarLines, compactUtc, calendarDetails, cancellationText, stamp, start, finish,
    cancellation]

theorem unbroken_calendarLines {lines : List Text}
    (built : calendarLines product event generatedAt = some lines) :
    (∀ line ∈ lines, Unbroken cr lf line) ↔ event.WithoutCr := by
  simp only [calendarLines, Option.bind_eq_bind, Option.bind_eq_some_iff, Option.pure_def,
    Option.some.injEq] at built
  obtain ⟨stamp, hStamp, start, hStart, finish, hFinish, details, hDetails, rfl⟩ := built
  simp only [calendarDetails, Option.bind_eq_bind, Option.bind_eq_some_iff, Option.pure_def,
    Option.some.injEq] at hDetails
  obtain ⟨cancellation, hCancellation, rfl⟩ := hDetails
  have hDates := unbroken_cancellationText hCancellation
  simp +decide only [List.forall_mem_cons, unbroken_append, unbroken_escape,
    unbroken_compactUtc hStamp, unbroken_compactUtc hStart, unbroken_compactUtc hFinish,
    List.intercalate_cons_cons, List.intercalate_singleton, List.mem_append, hDates.1, true_and,
    and_true, or_false, false_or]
  constructor
  · rintro ⟨id, title, venue, _, url⟩
    exact ⟨title, venue, id, url⟩
  · rintro ⟨title, venue, id, url⟩
    exact ⟨id, title, venue, url, url⟩

theorem buildCalendarIcs_eq {lines : List Text}
    (built : calendarLines product event generatedAt = some lines) :
    buildCalendarIcs product event generatedAt = some (terminate cr lf lines) := by
  have some : lines ≠ [] := by
    rintro rfl
    simp [calendarLines, Option.bind_eq_some_iff] at built
  rw [buildCalendarIcs, built, Option.map_some, intercalate_terminate lines some]

/-- The lines intended are sixteen, under their names, and hold title and venue escaped. -/
theorem calendarLines_shape {lines : List Text}
    (built : calendarLines product event generatedAt = some lines) :
    lines.length = 16 ∧ List.Forall₂ (fun name line => name <+: line) propertyNames lines ∧
      lines[10]? = some (ofString "SUMMARY:" ++ escapeIcsText event.title) ∧
      lines[11]? = some (ofString "LOCATION:" ++ escapeIcsText event.venue) := by
  simp only [calendarLines, Option.bind_eq_bind, Option.bind_eq_some_iff, Option.pure_def,
    Option.some.injEq] at built
  obtain ⟨stamp, _, start, _, finish, _, details, _, rfl⟩ := built
  have uid : ofString "UID:" <+: ofString "UID:showup-event-" := by decide
  refine ⟨rfl, ?_, rfl, rfl⟩
  unfold propertyNames
  repeat' apply List.Forall₂.cons
  all_goals first
    | with_reducible exact List.prefix_append _ _
    | decide
    | exact (uid.trans (List.prefix_append _ _)).trans (List.prefix_append _ _)

/-- The export is read back as the lines intended exactly when no text in it holds a CR. -/
theorem export_readsBack_iff (inYears : ∀ time ∈ [generatedAt, event.startTime, event.endTime,
    event.cancellationDeadline], (Moment.ofMs? (product time 1000)).isSome) :
    (∃ out, buildCalendarIcs product event generatedAt = some out ∧
      ReadsBack product event generatedAt out) ↔ event.WithoutCr := by
  obtain ⟨lines, built⟩ := exists_calendarLines inYears
  obtain ⟨count, named, summary, location⟩ := calendarLines_shape built
  rw [buildCalendarIcs_eq built, ← unbroken_calendarLines built]
  constructor
  · rintro ⟨out, written, lines', _, _, built', read, _⟩
    cases Option.some.inj written
    cases Option.some.inj (built.symm.trans built')
    exact (split_terminate_iff (by decide) lines).mp read
  · intro clean
    have texts := (unbroken_calendarLines built).mp clean
    refine ⟨_, rfl, lines, _, _, built, split_terminate (by decide) clean, count, named, summary,
      ?_, location, ?_⟩
    · rw [unescapeText_escape, normalise_eq texts.title]
    · rw [unescapeText_escape, normalise_eq texts.venue]

end Output

namespace Scenario

/-- The event of the builder's own tests. -/
def calendarEvent : CalendarEvent where
  id := ofString "42"
  title := ofString "Build, ship; celebrate"
  venue := ofString "Istanbul, Türkiye"
  startTime := 1800000000
  endTime := 1800007200
  cancellationDeadline := 1799996400
  reservationUrl := ofString "https://showup.example/reservations/42"

/-- A title in which a CR ends the line and another property follows. -/
def injected : CalendarEvent :=
  { calendarEvent with title := ofString "Meetup\rATTENDEE:mailto:a@b.example\rX-A:" }

theorem inYears {event : CalendarEvent} (start : event.startTime = 1800000000)
    (finish : event.endTime = 1800007200) (cancellation : event.cancellationDeadline = 1799996400) :
    ∀ time ∈ [1700000000, event.startTime, event.endTime, event.cancellationDeadline],
      (Moment.ofMs? (time * 1000)).isSome := by
  rw [start, finish, cancellation]
  simp only [List.forall_mem_cons, List.not_mem_nil, false_imp_iff, implies_true, and_true]
  refine ⟨?_, ?_, ?_, ?_⟩
  · exact Moment.ofMs?_isSome 1700000000000 (by norm_num) (by decide)
  · exact Moment.ofMs?_isSome 1800000000000 (by norm_num) (by decide)
  · exact Moment.ofMs?_isSome 1800007200000 (by norm_num) (by decide)
  · exact Moment.ofMs?_isSome 1799996400000 (by norm_num) (by decide)

end Scenario

theorem export_readsBack_iff_tests :
    ∃ out, buildCalendarIcs (· * ·) Scenario.calendarEvent 1700000000 = some out ∧
      ReadsBack (· * ·) Scenario.calendarEvent 1700000000 out := by
  apply (export_readsBack_iff (Scenario.inYears rfl rfl rfl)).mpr
  exact ⟨by decide, by decide, by decide, by decide⟩

/-- The title's second line is a property of its own to the reader. -/
theorem export_injected : ∃ out,
    buildCalendarIcs (· * ·) Scenario.injected 1700000000 = some out ∧
      ofString "ATTENDEE:mailto:a@b.example" ∈ split cr lf out ∧
      ¬ ReadsBack (· * ·) Scenario.injected 1700000000 out := by
  obtain ⟨lines, built⟩ : ∃ lines, calendarLines (· * ·) Scenario.injected 1700000000 = some lines :=
    exists_calendarLines (Scenario.inYears rfl rfl rfl)
  obtain ⟨_, _, summary, _⟩ := calendarLines_shape built
  have written := List.mem_of_getElem? summary
  have broken : ofString "SUMMARY:" ++ escapeIcsText Scenario.injected.title =
      ofString "SUMMARY:Meetup" ++ cr :: (ofString "ATTENDEE:mailto:a@b.example" ++
        cr :: ofString "X-A:") := by decide
  rw [broken] at written
  refine ⟨_, buildCalendarIcs_eq built, ?_, ?_⟩
  · exact mem_split_terminate (by decide) written (by decide)
  · rintro ⟨lines', _, _, built', read, _⟩
    cases Option.some.inj (built.symm.trans built')
    have clean := (split_terminate_iff (by decide) lines).mp read _ written
    exact absurd clean (by decide)

end ShowUp.Client
