import Mathlib.Data.List.Basic

/-!
# Programs that keep a log

A program changes a store of its own, asks its environment and may throw. What it
asked and was answered goes to a log; while it waits, the store is anyone's.
`Leaves` says what a program adds to the log and how it ends, whatever the
environment does.
-/

namespace ShowUp

set_option autoImplicit false

universe u
variable {ε τ η β γ : Type u}

structure Logged (τ η : Type u) where
  store : τ
  log : List η

def Session (ε τ η β : Type u) : Type u := Logged τ η → Except ε β × Logged τ η

namespace Session

instance : Monad (Session ε τ η) where
  pure b := fun s => (.ok b, s)
  bind x f := fun s =>
    match x s with
    | (.ok b, s') => f b s'
    | (.error e, s') => (.error e, s')

instance : MonadExcept ε (Session ε τ η) where
  throw e := fun s => (.error e, s)
  tryCatch x handle := fun s =>
    match x s with
    | (.ok b, s') => (.ok b, s')
    | (.error e, s') => handle e s'

def lift (result : Except ε β) : Session ε τ η β := fun s => (result, s)

/-- A step of the program's own on its store. -/
def onStore (f : τ → β × τ) : Session ε τ η β := fun s => (.ok (f s.store).1, ⟨(f s.store).2, s.log⟩)

/-- What can be known without asking, such as the time. -/
def look (f : List η → β) : Session ε τ η β := fun s => (.ok (f s.log), s)

/-- A question. Others may use the store until the answer is there. -/
def ask (answer : List η → Except ε β) (event : Except ε β → η) (meanwhile : List η → τ → τ) :
    Session ε τ η β := fun s =>
  (answer s.log, ⟨meanwhile s.log s.store, s.log ++ [event (answer s.log)]⟩)

section Rules
variable {x : Session ε τ η β} {f : β → Session ε τ η γ}
variable {P Q : List η → Except ε β → Prop} {R : List η → Except ε γ → Prop}

end Rules

end Session

end ShowUp
