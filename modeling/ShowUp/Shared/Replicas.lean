import Mathlib.Data.List.Basic

/-!
# Lagging replicas

A state that moves on is read from replicas, each of which may still show any state
it has been in. Where the moves go forward in a preorder, whatever was read is behind
the state now, and what no move can undo still holds.
-/

namespace ShowUp

set_option autoImplicit false

universe u

structure Replicas (σ : Type u) where
  now : σ
  /-- the newest first -/
  past : List σ

namespace Replicas

variable {σ : Type u}

def initial (s : σ) : Replicas σ := ⟨s, []⟩

def advance (r : Replicas σ) (s : σ) : Replicas σ := ⟨s, r.now :: r.past⟩

/-- What a replica shows that is so many moves behind. -/
def seen (r : Replicas σ) (lag : Nat) : σ := (r.now :: r.past).getD lag r.now

/-- Some replica shows, or may still show, a state of the kind. -/
def Shown (r : Replicas σ) (P : σ → Prop) : Prop := ∃ lag, P (r.seen lag)

/-- Whatever could be seen can still be seen. -/
def Keeps (r r' : Replicas σ) : Prop := ∀ lag, ∃ lag', r'.seen lag' = r.seen lag

theorem Keeps.refl (r : Replicas σ) : r.Keeps r := fun lag => ⟨lag, rfl⟩

theorem Keeps.advance (r : Replicas σ) (s : σ) : r.Keeps (r.advance s) := by
  intro lag
  have shows : r.seen lag = ((r.now :: r.past)[lag]?).getD r.now :=
    List.getD_eq_getElem?_getD
  cases found : (r.now :: r.past)[lag]? with
  | none => exact ⟨1, by rw [shows, found]; rfl⟩
  | some past =>
    refine ⟨lag + 1, ?_⟩
    rw [shows, found, Replicas.seen, Replicas.advance, List.getD_eq_getElem?_getD,
      List.getElem?_cons_succ, found]
    rfl

theorem Shown.later {r r' : Replicas σ} {P : σ → Prop} (shown : r.Shown P) (keeps : r.Keeps r') :
    r'.Shown P := by
  obtain ⟨lag, holds⟩ := shown
  obtain ⟨lag', same⟩ := keeps lag
  exact ⟨lag', same ▸ holds⟩

/-- Every state there was is behind the state now. -/
def Forward (R : σ → σ → Prop) (r : Replicas σ) : Prop := ∀ s ∈ r.past, R s r.now

section Preorder
variable {R : σ → σ → Prop} {r : Replicas σ} {s : σ}

theorem Forward.initial (R : σ → σ → Prop) (s : σ) : (initial s).Forward R := by
  intro past member
  cases member

theorem Forward.advance (trans : ∀ {a b c}, R a b → R b c → R a c) (forward : r.Forward R)
    (next : R r.now s) : (r.advance s).Forward R := by
  intro past member
  rcases List.mem_cons.mp member with rfl | older
  · exact next
  · exact trans (forward past older) next

theorem Forward.seen (refl : ∀ a, R a a) (forward : r.Forward R) (lag : Nat) :
    R (r.seen lag) r.now := by
  unfold Replicas.seen
  rw [List.getD_eq_getElem?_getD]
  cases found : (r.now :: r.past)[lag]? with
  | none => exact refl r.now
  | some past =>
    rcases List.mem_cons.mp (List.mem_of_getElem? found) with rfl | older
    · exact refl r.now
    · exact forward past older

end Preorder

end Replicas

end ShowUp
