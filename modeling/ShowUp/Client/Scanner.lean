import Mathlib.Data.List.Nodup
import ShowUp.Shared.Generations
import ShowUp.Shared.Runs
import ShowUp.Shared.Utf16

/-!
# The QR scanner

`useScanner` of `lib/qr/use-scanner.ts`. The starts are numbered from 0. Loading
the decoder, getting the camera and the decoder's reports come when they come;
each finds out from the generation whether its start still counts.
-/

namespace ShowUp.Client

set_option autoImplicit false

open Runs

inductive ScannerState where
  | idle
  | requesting
  | scanning
  | error (message : String)
  deriving DecidableEq

/-- What the hook looks at in a thrown value. -/
structure CameraError where
  isObject : Bool
  /-- what `getKind` gives, where it is a function: a string or something else -/
  getKind : Option (Option String)
  staticKind : Option String
  name : Option String
  /-- the message of an instance of `Error` -/
  message : Option String
  deriving DecidableEq

def cameraErrorMessage (error : CameraError) : String :=
  match error.name with
  | some "NotAllowedError" => "Camera permission was denied or blocked by browser policy."
  | some "NotFoundError" => "No camera was found on this device."
  | some "NotReadableError" => "The camera is busy or could not be started."
  | some "OverconstrainedError" => "No camera matches the requested settings."
  | some "SecurityError" =>
    "Camera access is disabled. Use HTTPS or localhost and check browser settings."
  | _ =>
    match error.message with
    | none | some "" => "The camera could not be started."
    | some message => message

def frameMissKinds : List String := ["NotFoundException", "ChecksumException", "FormatException"]

def isExpectedFrameMiss (error : CameraError) : Bool :=
  if !error.isObject then false
  else
    match error.getKind, error.staticKind, error.name with
    | some (some kind), _, _ => frameMissKinds.contains kind
    | _, some kind, _ => frameMissKinds.contains kind
    | _, none, some name => frameMissKinds.contains name
    | _, none, none => false

/-- How far a call of `start` has come. -/
inductive Phase where
  | done
  | loading
  | acquiring
  | received
  | failed
  deriving DecidableEq

/-- The decoder was given a callback, which it may call from then on. -/
def Phase.decoding : Phase → Bool
  | acquiring | received | failed => true
  | _ => false

/-- The hook. A camera goes by the number of the start it was asked for by. -/
structure Scanner where
  generation : Generations
  controlsRef : Option Nat
  state : ScannerState
  phase : Nat → Phase
  /-- the cameras `stop` was called on -/
  stopped : List Nat
  /-- what `onResult` was given, with the start it comes from -/
  delivered : List (Nat × Text)

inductive ScannerInput where
  | start (supported : Bool)
  | stop
  | unmount
  | moduleLoaded (k : Nat)
  | moduleFailed (k : Nat) (error : CameraError)
  | acquired (k : Nat)
  | acquisitionFailed (k : Nat) (error : CameraError)
  | decoded (k : Nat) (result : Option Text) (error : Option CameraError)

namespace Scanner

def initial : Scanner where
  generation := .initial
  controlsRef := none
  state := .idle
  phase := fun _ => .done
  stopped := []
  delivered := []

/-- `controlsRef.current?.stop(); controlsRef.current = null;` -/
def release (s : Scanner) : Scanner :=
  { s with controlsRef := none, stopped := s.stopped ++ s.controlsRef.toList }

def setPhase (s : Scanner) (k : Nat) (phase : Phase) : Scanner :=
  { s with phase := Function.update s.phase k phase }

def setState (s : Scanner) (state : ScannerState) : Scanner := { s with state := state }

/-- `activeControls.stop()` -/
def stopCamera (s : Scanner) (k : Nat) : Scanner := { s with stopped := s.stopped ++ [k] }

def start (s : Scanner) (supported : Bool) : Scanner :=
  let k := s.generation.started
  let begun := { s with generation := s.generation.begin }.release
  if supported then (begun.setState .requesting).setPhase k .loading
  else begun.setState (.error
    "Camera scanning requires HTTPS or localhost and a supported browser.")

def stop (s : Scanner) : Scanner :=
  { s with generation := s.generation.advance }.release.setState .idle

def unmount (s : Scanner) : Scanner :=
  { s with generation := s.generation.advance }.release

/-- The `catch` block of a start. -/
def fail (s : Scanner) (k : Nat) (error : CameraError) : Scanner :=
  if s.generation.IsCurrent k then s.release.setState (.error (cameraErrorMessage error)) else s

/-- The rest of `start` once its camera is there. -/
def acquire (s : Scanner) (k : Nat) : Scanner :=
  if s.generation.IsCurrent k then { s with controlsRef := some k }.setState .scanning
  else s.stopCamera k

/-- The start is over: its camera stops and its generation has passed. -/
def finish (s : Scanner) (k : Nat) (state : ScannerState) : Scanner :=
  ({ s with generation := s.generation.advance, controlsRef := none }.stopCamera k).setState state

/-- The decoder's callback -/
def decode (s : Scanner) (k : Nat) (result : Option Text) (error : Option CameraError) : Scanner :=
  if s.generation.IsCurrent k then
    match result, error with
    | some text, _ =>
      let finished := s.finish k .idle
      { finished with delivered := finished.delivered ++ [(k, text)] }
    | none, some error =>
      if isExpectedFrameMiss error then s
      else s.finish k (.error (cameraErrorMessage error))
    | none, none => s
  else s.stopCamera k

def step (s : Scanner) : ScannerInput → Scanner
  | .start supported => s.start supported
  | .stop => s.stop
  | .unmount => s.unmount
  | .moduleLoaded k =>
    if s.phase k = .loading then
      s.setPhase k (if s.generation.IsCurrent k then .acquiring else .done)
    else s
  | .moduleFailed k error => if s.phase k = .loading then (s.setPhase k .done).fail k error else s
  | .acquired k => if s.phase k = .acquiring then (s.setPhase k .received).acquire k else s
  | .acquisitionFailed k error =>
    if s.phase k = .acquiring then (s.setPhase k .failed).fail k error else s
  | .decoded k result error => if (s.phase k).decoding then s.decode k result error else s

end Scanner

/-- The call of `start` that goes on with the input. -/
def ScannerInput.task : ScannerInput → Option Nat
  | start _ | stop | unmount => none
  | moduleLoaded k | moduleFailed k _ | acquired k | acquisitionFailed k _ | decoded k _ _ => some k

/-- Inputs that put an end to every start before them. -/
def ScannerInput.Supersedes (i : ScannerInput) : Prop := i.task = none

def ScannerInput.isStart : ScannerInput → Bool
  | start _ => true
  | _ => false

def starts (is : List ScannerInput) : Nat := is.countP ScannerInput.isStart

namespace Scanner

/-- All that can come of a start that goes on. -/
inductive Continues (s : Scanner) (k : Nat) : Scanner → Prop
  | ignored : Continues s k s
  | moved {phase : Phase} : phase ≠ .received → Continues s k (s.setPhase k phase)
  | failed {phase : Phase} (error : CameraError) : phase ≠ .received →
    Continues s k ((s.setPhase k phase).fail k error)
  | acquired : Continues s k ((s.setPhase k .received).acquire k)
  | decoded (result : Option Text) (error : Option CameraError) :
    Continues s k (s.decode k result error)

theorem continues (s : Scanner) {k : Nat} {i : ScannerInput} (task : i.task = some k) :
    Continues s k (s.step i) := by
  unfold step
  cases i with
  | start | stop | unmount => cases task
  | moduleLoaded =>
    cases task
    dsimp only
    split
    · split <;> exact .moved (by decide)
    · exact .ignored
  | moduleFailed =>
    cases task
    dsimp only
    split
    · exact .failed _ (by decide)
    · exact .ignored
  | acquired =>
    cases task
    dsimp only
    split
    · exact .acquired
    · exact .ignored
  | acquisitionFailed =>
    cases task
    dsimp only
    split
    · exact .failed _ (by decide)
    · exact .ignored
  | decoded =>
    cases task
    dsimp only
    split
    · exact .decoded _ _
    · exact .ignored

/-- What holds after every step. -/
structure Inv (s : Scanner) : Prop where
  held : ∀ k, s.controlsRef = some k → s.generation.IsCurrent k
  kept : ∀ k, s.phase k = .received → s.controlsRef = some k ∨ k ∈ s.stopped
  past : ∀ d ∈ s.delivered, s.generation.Outdated d.1
  once : (s.delivered.map Prod.fst).Nodup

variable {s : Scanner} {k : Nat}

theorem phase_setPhase (s : Scanner) (k : Nat) (phase : Phase) (j : Nat) :
    (s.setPhase k phase).phase j = if j = k then phase else s.phase j :=
  Function.update_apply s.phase k phase j

theorem initial_inv : Inv initial where
  held := fun _ h => by cases h
  kept := fun _ h => by cases h
  past := fun _ h => absurd h List.not_mem_nil
  once := List.nodup_nil

theorem Inv.setState (h : Inv s) (state : ScannerState) : Inv (s.setState state) :=
  ⟨h.held, h.kept, h.past, h.once⟩

theorem Inv.stopCamera (h : Inv s) (k : Nat) : Inv (s.stopCamera k) where
  held := h.held
  kept := fun j received => (h.kept j received).imp_right (List.mem_append_left _)
  past := h.past
  once := h.once

theorem Inv.setPhase (h : Inv s) (k : Nat) {phase : Phase} (other : phase ≠ .received) :
    Inv (s.setPhase k phase) where
  held := h.held
  kept := by
    intro j received
    rw [phase_setPhase] at received
    split at received
    · exact absurd received other
    · exact h.kept j received
  past := h.past
  once := h.once

/-- A later generation, with the camera at hand let go. -/
theorem Inv.release (h : Inv s) {g : Generations}
    (later : ∀ k, s.generation.Outdated k → g.Outdated k) :
    Inv { s with generation := g }.release where
  held := fun _ none => by cases none
  kept := by
    intro j received
    rcases h.kept j received with held | stopped
    · exact Or.inr (List.mem_append_right _ (Option.mem_toList.mpr held))
    · exact Or.inr (List.mem_append_left _ stopped)
  past := fun d mem => later d.1 (h.past d mem)
  once := h.once

theorem Inv.fail (h : Inv s) (k : Nat) (error : CameraError) : Inv (s.fail k error) := by
  unfold Scanner.fail
  split
  · exact (h.release fun _ outdated => outdated).setState _
  · exact h

theorem Inv.acquire (h : Inv s) (k : Nat) : Inv ((s.setPhase k .received).acquire k) := by
  have others : ∀ j, j ≠ k → (s.setPhase k .received).phase j = .received →
      s.controlsRef = some j ∨ j ∈ s.stopped := by
    intro j apart received
    rw [phase_setPhase, if_neg apart] at received
    exact h.kept j received
  unfold Scanner.acquire
  split
  · rename_i current
    refine ⟨?_, ?_, h.past, h.once⟩
    · intro j same
      cases same
      exact current
    · intro j received
      by_cases same : j = k
      · exact Or.inl (congrArg some same.symm)
      · rcases others j same received with held | stopped
        · exact absurd ((h.held j held).unique current) same
        · exact Or.inr stopped
  · refine ⟨h.held, ?_, h.past, h.once⟩
    intro j received
    by_cases same : j = k
    · exact Or.inr (List.mem_append_right _ (List.mem_singleton.mpr same))
    · exact (others j same received).imp_right (List.mem_append_left _)

theorem Inv.finish (h : Inv s) (current : s.generation.IsCurrent k) (state : ScannerState) :
    Inv (s.finish k state) where
  held := fun _ none => by cases none
  kept := by
    intro j received
    rcases h.kept j received with held | stopped
    · have same := (h.held j held).unique current
      exact Or.inr (List.mem_append_right _ (List.mem_singleton.mpr same))
    · exact Or.inr (List.mem_append_left _ stopped)
  past := fun d mem => (h.past d mem).advance
  once := h.once

theorem Inv.decode (h : Inv s) (k : Nat) (result : Option Text) (error : Option CameraError) :
    Inv (s.decode k result error) := by
  unfold Scanner.decode
  split
  · rename_i current
    split
    · rename_i text
      have finished := h.finish current .idle
      refine ⟨finished.held, finished.kept, ?_, ?_⟩
      · intro d mem
        rcases List.mem_append.mp mem with mem | mem
        · exact finished.past d mem
        · rw [List.mem_singleton.mp mem]
          exact Generations.outdated_advance current.lt_started
      · rw [List.map_append, List.nodup_append]
        refine ⟨h.once, List.nodup_singleton _, ?_⟩
        intro j earlier j' last same
        obtain ⟨d, before, rfl⟩ := List.mem_map.mp earlier
        have last : j' = k := List.mem_singleton.mp last
        rw [← last, ← same] at current
        exact (h.past d before).2 current
    · split
      · exact h
      · exact h.finish current _
    · exact h
  · exact h.stopCamera k

theorem Inv.continues (h : Inv s) {s' : Scanner} (next : Continues s k s') : Inv s' := by
  cases next with
  | ignored => exact h
  | moved other => exact h.setPhase k other
  | failed error other => exact (h.setPhase k other).fail k error
  | acquired => exact h.acquire k
  | decoded result error => exact h.decode k result error

theorem Inv.step (h : Inv s) (i : ScannerInput) : Inv (s.step i) := by
  cases task : i.task with
  | some k => exact h.continues (Scanner.continues s task)
  | none =>
    cases i with
    | start supported =>
      have begun := h.release fun _ outdated => outdated.begin
      unfold Scanner.step Scanner.start
      dsimp only
      split
      · exact (begun.setState _).setPhase _ (by decide)
      · exact begun.setState _
    | stop => exact (h.release fun _ outdated => outdated.advance).setState _
    | unmount => exact h.release fun _ outdated => outdated.advance
    | _ => cases task

theorem run_inv (is : List ScannerInput) : Inv (run step initial is) :=
  run_invariant (fun _ i h => h.step i) initial_inv is

theorem generation_start (s : Scanner) (supported : Bool) :
    (s.step (.start supported)).generation = s.generation.begin := by
  cases supported <;> rfl

/-- A start that goes on leaves the count or raises it, and it delivers at most one result. -/
theorem Continues.spec {s' : Scanner} (next : Continues s k s') :
    (s'.generation = s.generation ∨ s'.generation = s.generation.advance) ∧
      (s'.delivered = s.delivered ∨
        ∃ text, s.generation.IsCurrent k ∧ s'.delivered = s.delivered ++ [(k, text)]) ∧
      (¬ s.generation.IsCurrent k → s'.state = s.state) := by
  cases next with
  | ignored | moved => exact ⟨Or.inl rfl, Or.inl rfl, fun _ => rfl⟩
  | failed =>
    unfold fail
    split
    · rename_i current
      exact ⟨Or.inl rfl, Or.inl rfl, fun outdated => absurd current outdated⟩
    · exact ⟨Or.inl rfl, Or.inl rfl, fun _ => rfl⟩
  | acquired =>
    unfold acquire
    split
    · rename_i current
      exact ⟨Or.inl rfl, Or.inl rfl, fun outdated => absurd current outdated⟩
    · exact ⟨Or.inl rfl, Or.inl rfl, fun _ => rfl⟩
  | decoded result error =>
    unfold decode
    split
    · rename_i current
      have say : ∀ {state : ScannerState}, ¬ s.generation.IsCurrent k → state = s.state :=
        fun outdated => absurd current outdated
      split
      · exact ⟨Or.inr rfl, Or.inr ⟨_, current, rfl⟩, say⟩
      · split
        · exact ⟨Or.inl rfl, Or.inl rfl, say⟩
        · exact ⟨Or.inr rfl, Or.inl rfl, say⟩
      · exact ⟨Or.inl rfl, Or.inl rfl, say⟩
    · exact ⟨Or.inl rfl, Or.inl rfl, fun _ => rfl⟩

theorem generation_step (s : Scanner) (i : ScannerInput) :
    (s.step i).generation = s.generation ∨ (s.step i).generation = s.generation.advance ∨
      i.isStart = true ∧ (s.step i).generation = s.generation.begin := by
  cases task : i.task with
  | some k => exact (continues s task).spec.1.imp_right Or.inl
  | none =>
    cases i with
    | start supported => exact Or.inr (Or.inr ⟨rfl, generation_start s supported⟩)
    | stop => exact Or.inr (Or.inl rfl)
    | unmount => exact Or.inr (Or.inl rfl)
    | _ => cases task

theorem started_step (s : Scanner) (i : ScannerInput) :
    (s.step i).generation.started = s.generation.started + if i.isStart then 1 else 0 := by
  cases task : i.task with
  | some k =>
    have other : i.isStart = false := by cases i <;> first | rfl | cases task
    rcases (continues s task).spec.1 with same | same <;> simp [same, other]
  | none =>
    cases i with
    | start supported => rw [generation_start, Generations.started_begin]; rfl
    | stop => rfl
    | unmount => rfl
    | _ => cases task

theorem started_run (is : List ScannerInput) :
    (run step initial is).generation.started = starts is := by
  induction is using List.reverseRecOn with
  | nil => rfl
  | append_singleton is i ih =>
    rw [run_concat, started_step, ih, starts, starts, List.countP_append, List.countP_singleton]

theorem outdated_step (h : s.generation.Outdated k) (i : ScannerInput) :
    (s.step i).generation.Outdated k := by
  rcases generation_step s i with same | same | ⟨_, same⟩
  · exact same ▸ h
  · exact same ▸ h.advance
  · exact same ▸ h.begin

/-- A start is over with the next start, stop or unmount. -/
theorem outdated_superseded (started : k < s.generation.started) {i : ScannerInput}
    (supersedes : i.Supersedes) : (s.step i).generation.Outdated k := by
  cases i with
  | start supported => exact generation_start s supported ▸ Generations.outdated_begin started
  | stop => exact Generations.outdated_advance started
  | unmount => exact Generations.outdated_advance started
  | _ => cases supersedes

theorem delivered_superseding (s : Scanner) {i : ScannerInput} (supersedes : i.Supersedes) :
    (s.step i).delivered = s.delivered := by
  cases i with
  | start supported => cases supported <;> rfl
  | stop => rfl
  | unmount => rfl
  | _ => cases supersedes

/-- Whatever is delivered comes from the start that counts. -/
theorem delivered_step (s : Scanner) (i : ScannerInput) :
    (s.step i).delivered = s.delivered ∨
      ∃ k text, s.generation.IsCurrent k ∧
        (s.step i).delivered = s.delivered ++ [(k, text)] := by
  cases task : i.task with
  | some k =>
    rcases (continues s task).spec.2.1 with same | ⟨text, current, more⟩
    · exact Or.inl same
    · exact Or.inr ⟨k, text, current, more⟩
  | none => exact Or.inl (delivered_superseding s task)

def deliveries (s : Scanner) (k : Nat) : List (Nat × Text) :=
  s.delivered.filter fun d => d.1 = k

/-- An outdated start delivers nothing more. -/
theorem deliveries_outdated (h : s.generation.Outdated k) (is : List ScannerInput) :
    (run step s is).deliveries k = s.deliveries k := by
  have keep : ∀ t i, t.generation.Outdated k ∧ t.deliveries k = s.deliveries k →
      (step t i).generation.Outdated k ∧ (step t i).deliveries k = s.deliveries k := by
    rintro t i ⟨outdated, same⟩
    refine ⟨outdated_step outdated i, ?_⟩
    rcases delivered_step t i with none | ⟨k', text, current, more⟩
    · rw [deliveries, none]
      exact same
    · have other : k' ≠ k := by
        rintro rfl
        exact outdated.2 current
      rw [deliveries, more, List.filter_append, ← same, deliveries]
      simp [other]
  exact (run_invariant keep ⟨h, rfl⟩ is).2

/-- No start counts until the next one. -/
theorem quiet_step (h : ∀ k, ¬ s.generation.IsCurrent k) {i : ScannerInput}
    (other : i.isStart = false) : ∀ k, ¬ (s.step i).generation.IsCurrent k := by
  intro k
  rcases generation_step s i with same | same | ⟨start, _⟩
  · rw [same]
    exact h k
  · rw [same]
    exact Generations.not_isCurrent_advance _ k
  · rw [other] at start
    cases start

def Settled (s : Scanner) : Prop := ∀ k, s.phase k ≠ .loading ∧ s.phase k ≠ .acquiring

/-- The camera may be on. -/
def Running (s : Scanner) (k : Nat) : Prop :=
  (s.phase k = .acquiring ∨ s.phase k = .received) ∧ k ∉ s.stopped

end Scanner

open Scanner in
/-- Starts, stops and the unmounting of the scanner, whatever else comes in between. -/
theorem scanner_generations (is : List ScannerInput) :
    ((run step initial is).delivered.map Prod.fst).Nodup ∧
    (∀ before supported between i after,
      is = before ++ .start supported :: between ++ i :: after → i.Supersedes →
      (run step initial is).deliveries (starts before) =
        (run step initial (before ++ .start supported :: between)).deliveries (starts before)) ∧
    (∀ k, (run step initial is).phase k = .received →
      (run step initial is).controlsRef = some k ∨ k ∈ (run step initial is).stopped) ∧
    (∀ before i after, is = before ++ i :: after → i = .stop ∨ i = .unmount →
      (∀ j ∈ after, j.isStart = false) →
      (run step initial is).controlsRef = none ∧
        ((run step initial is).Settled → ∀ k, ¬ (run step initial is).Running k)) ∧
    (∀ i k, i.task = some k → k + 1 < starts is →
      ((run step initial is).step i).state = (run step initial is).state) := by
  have inv := run_inv is
  refine ⟨inv.once, ?_, inv.kept, ?_, ?_⟩
  · rintro before supported between i after rfl supersedes
    rw [run_append, run_cons]
    have started : starts before <
        (run step initial (before ++ .start supported :: between)).generation.started := by
      rw [started_run, starts, starts, List.countP_append, List.countP_cons_of_pos rfl]
      omega
    generalize run step initial (before ++ .start supported :: between) = s at started ⊢
    rw [deliveries_outdated (outdated_superseded started supersedes), deliveries, deliveries,
      delivered_superseding s supersedes]
  · rintro before i after rfl ends others
    rw [run_append, run_cons] at inv ⊢
    have quiet : ∀ k, ¬ ((run step initial before).step i).generation.IsCurrent k := by
      rcases ends with rfl | rfl <;> exact Generations.not_isCurrent_advance _
    have last := run_invariant_along (P := fun s => ∀ k, ¬ s.generation.IsCurrent k)
      (fun s j h other => quiet_step h other) quiet (along_of_forall step others _)
    generalize run step ((run step initial before).step i) after = s at inv last ⊢
    have released : s.controlsRef = none := by
      cases held : s.controlsRef with
      | none => rfl
      | some k => exact absurd (inv.held k held) (last k)
    refine ⟨released, ?_⟩
    rintro settled k ⟨acquiring | received, running⟩
    · exact (settled k).2 acquiring
    · rcases inv.kept k received with held | stopped
      · rw [released] at held
        cases held
      · exact running stopped
  · intro i k task older
    apply (continues _ task).spec.2.2
    intro current
    have last := current.last
    rw [started_run] at last
    omega

end ShowUp.Client
