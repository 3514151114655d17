import ShowUp.Shared.Json
import ShowUp.Shared.Runs

/-!
# The deposit that survives a reload

`lib/anchor/session.ts`: one record, as JSON under one key of the session storage.
Any call of the storage may throw, which leaves everything as it was. Over it stands
what the session is for: a slot that holds one record or none.
-/

namespace ShowUp.Anchor

set_option autoImplicit false

open Utf16 Runs

universe u

/-- The only fields allowed to persist. -/
structure PersistedDeposit (σ : Type u) where
  depositId : σ
  account : Option σ := none
  quoteId : Option σ := none
  claimableBalanceId : Option σ := none
  deriving DecidableEq

/-- `Partial<PersistedDeposit>`. A field that is absent is not a field without a value, but
for the id, where `??` takes them for the same. -/
structure DepositPatch (σ : Type u) where
  depositId : Option σ := none
  account : Option (Option σ) := none
  quoteId : Option (Option σ) := none
  claimableBalanceId : Option (Option σ) := none

/-- Which calls of the storage do not throw. -/
structure StorageAccess where
  available : Bool
  get : Bool
  set : Bool
  remove : Bool

def StorageAccess.working : StorageAccess := ⟨true, true, true, true⟩

inductive DepositCall (σ : Type u) where
  | save (record : PersistedDeposit σ)
  | update (patch : DepositPatch σ)
  | clear

/-- `{ ...existing, ...patch, depositId }` -/
def mergeDeposit {σ : Type u} (existing : Option (PersistedDeposit σ)) (patch : DepositPatch σ)
    (depositId : σ) : PersistedDeposit σ where
  depositId := depositId
  account := patch.account.getD (existing.bind PersistedDeposit.account)
  quoteId := patch.quoteId.getD (existing.bind PersistedDeposit.quoteId)
  claimableBalanceId :=
    patch.claimableBalanceId.getD (existing.bind PersistedDeposit.claimableBalanceId)

/-! The slot. A record whose id is empty is as good as none. -/

section Slot
variable {σ : Type u} [DecidableEq σ] [Inhabited σ]

def PersistedDeposit.loadable (record : PersistedDeposit σ) : Option (PersistedDeposit σ) :=
  if record.depositId = default then none else some record

def slotStep (access : StorageAccess) (slot : Option (PersistedDeposit σ)) :
    DepositCall σ → Option (PersistedDeposit σ)
  | .save record => if access.available && access.set then record.loadable else slot
  | .update patch =>
    let existing := if access.available && access.get then slot else none
    match patch.depositId <|> existing.map PersistedDeposit.depositId with
    | none => slot
    | some depositId =>
      if depositId = default then slot
      else if access.available && access.set then some (mergeDeposit existing patch depositId)
      else slot
  | .clear => if access.available && access.remove then none else slot

end Slot

/-! The storage. -/

inductive DepositKey where
  | depositId
  | account
  | quoteId
  | claimableBalanceId
  deriving DecidableEq

def DepositKey.name : DepositKey → Text
  | depositId => ofString "depositId"
  | account => ofString "account"
  | quoteId => ofString "quoteId"
  | claimableBalanceId => ofString "claimableBalanceId"

def PersistedDeposit.get (record : PersistedDeposit Text) : DepositKey → Option Text
  | .depositId => some record.depositId
  | .account => record.account
  | .quoteId => record.quoteId
  | .claimableBalanceId => record.claimableBalanceId

/-- The order in which an object has its keys. -/
structure KeyOrder where
  keys : List DepositKey
  nodup : keys.Nodup
  complete : ∀ key, key ∈ keys

/-- `JSON.stringify(record)`, which leaves out what is undefined. -/
def stringifyDeposit (order : KeyOrder) (record : PersistedDeposit Text) : Text :=
  Json.objectText (order.keys.filterMap fun key =>
    (record.get key).map fun value => (key.name, Json.quote value))

def saveDeposit (access : StorageAccess) (order : KeyOrder) (record : PersistedDeposit Text)
    (stored : Option Text) : Option Text :=
  if access.available && access.set then some (stringifyDeposit order record) else stored

/-- `typeof record[key] === "string" ? record[key] : undefined` -/
def stringField (fields : List (Text × Json)) (key : DepositKey) : Option Text :=
  match fields.lookup key.name with
  | some (.string value) => some value
  | _ => none

def readDeposit : Json → Option (PersistedDeposit Text)
  | .object fields =>
    match stringField fields .depositId with
    | none | some [] => none
    | some depositId => some
      { depositId
        account := stringField fields .account
        quoteId := stringField fields .quoteId
        claimableBalanceId := stringField fields .claimableBalanceId }
  | _ => none

def loadDeposit (access : StorageAccess) (stored : Option Text) :
    Option (PersistedDeposit Text) :=
  if access.available && access.get then
    match stored with
    | none | some [] => none
    | some raw => (Json.parse raw).bind readDeposit
  else none

def updateDeposit (access : StorageAccess) (order : KeyOrder) (patch : DepositPatch Text)
    (stored : Option Text) : Option Text :=
  let existing := loadDeposit access stored
  match patch.depositId <|> existing.map PersistedDeposit.depositId with
  | none | some [] => stored
  | some depositId => saveDeposit access order (mergeDeposit existing patch depositId) stored

def clearDeposit (access : StorageAccess) (stored : Option Text) : Option Text :=
  if access.available && access.remove then none else stored

/-- A call of the session, with the storage as it then is and the keys as they come. -/
structure SessionCall where
  access : StorageAccess
  order : KeyOrder
  call : DepositCall Text

def SessionCall.step (stored : Option Text) (c : SessionCall) : Option Text :=
  match c.call with
  | .save record => saveDeposit c.access c.order record stored
  | .update patch => updateDeposit c.access c.order patch stored
  | .clear => clearDeposit c.access stored

theorem DepositKey.name_injective : Function.Injective DepositKey.name := by
  intro key key'
  cases key <;> cases key' <;> decide

theorem DepositKey.name_plain (key : DepositKey) : ∀ u ∈ key.name, Json.IsPlain u := by
  apply Json.isPlain_of_all
  cases key <;> decide

/-- Among fields of distinct keys each key finds its own. -/
theorem lookup_filterMap {β : Type u} (f : DepositKey → Option β) {keys : List DepositKey}
    (nodup : keys.Nodup) (key : DepositKey) :
    (keys.filterMap fun key => (f key).map fun value => (key.name, value)).lookup key.name =
      if key ∈ keys then f key else none := by
  induction keys with
  | nil => rfl
  | cons first rest ih =>
    obtain ⟨fresh, nodup⟩ := List.nodup_cons.mp nodup
    have ih := ih nodup
    by_cases same : key = first
    · subst same
      rw [if_neg fresh] at ih
      rw [if_pos List.mem_cons_self]
      cases known : f key with
      | none => rw [List.filterMap_cons_none (by rw [known]; rfl), ih]
      | some value =>
        rw [List.filterMap_cons_some (by rw [known]; rfl), List.lookup_cons_self]
    · have other : (key.name == first.name) = false :=
        beq_eq_false_iff_ne.mpr fun h => same (DepositKey.name_injective h)
      have here : key ∈ first :: rest ↔ key ∈ rest := by
        rw [List.mem_cons, or_iff_right same]
      simp only [here]
      cases known : f first with
      | none => rw [List.filterMap_cons_none (by rw [known]; rfl), ih]
      | some value =>
        rw [List.filterMap_cons_some (by rw [known]; rfl), List.lookup_cons, other]
        exact ih

/-- A record as its members are written and read. -/
def PersistedDeposit.members (order : KeyOrder) (record : PersistedDeposit Text) :
    List Json.Member :=
  order.keys.filterMap fun key =>
    (record.get key).map fun value => ⟨key.name, Json.quote value, .string value⟩

theorem stringifyDeposit_eq (order : KeyOrder) (record : PersistedDeposit Text) :
    stringifyDeposit order record =
      Json.objectText ((record.members order).map fun m => (m.key, m.text)) := by
  unfold stringifyDeposit PersistedDeposit.members
  rw [List.map_filterMap]
  simp only [Option.map_map]
  rfl

theorem parse_stringifyDeposit (order : KeyOrder) (record : PersistedDeposit Text) :
    Json.parse (stringifyDeposit order record) =
      some (.object ((record.members order).map Json.Member.field)) := by
  rw [stringifyDeposit_eq]
  apply Json.parse_objectText
  · apply List.ne_nil_of_mem
    exact List.mem_filterMap.mpr ⟨.depositId, order.complete _, rfl⟩
  · intro m mem
    obtain ⟨key, _, written⟩ := List.mem_filterMap.mp mem
    obtain ⟨value, _, rfl⟩ := Option.map_eq_some_iff.mp written
    exact ⟨key.name_plain, Json.readsAs_text value⟩
  · have keys : ((record.members order).map Json.Member.key) =
        (order.keys.filter fun key => (record.get key).isSome).map DepositKey.name := by
      unfold PersistedDeposit.members
      rw [List.map_filterMap, ← List.filterMap_eq_map, ← List.filterMap_eq_filter,
        List.filterMap_filterMap]
      congr 1
      funext key
      cases known : record.get key <;> simp [Option.guard, known]
    rw [keys]
    exact (order.nodup.filter _).map DepositKey.name_injective

theorem stringField_members (order : KeyOrder) (record : PersistedDeposit Text)
    (key : DepositKey) :
    stringField ((record.members order).map Json.Member.field) key = record.get key := by
  have fields : (record.members order).map Json.Member.field =
      order.keys.filterMap fun key =>
        ((record.get key).map Json.string).map fun value => (key.name, value) := by
    unfold PersistedDeposit.members
    rw [List.map_filterMap]
    congr 1
    funext key
    cases record.get key <;> rfl
  unfold stringField
  rw [fields, lookup_filterMap _ order.nodup, if_pos (order.complete key)]
  cases record.get key <;> rfl

/-- What is saved is what is loaded, whatever the strings are. -/
theorem load_stringify (order : KeyOrder) (record : PersistedDeposit Text) :
    loadDeposit .working (some (stringifyDeposit order record)) = record.loadable := by
  have brace : stringifyDeposit order record ≠ [] := List.cons_ne_nil _ _
  have read : loadDeposit .working (some (stringifyDeposit order record)) =
      (Json.parse (stringifyDeposit order record)).bind readDeposit := by
    unfold loadDeposit
    split
    · split
      · contradiction
      · rename_i empty
        exact absurd (Option.some.inj empty) brace
      · rename_i raw _ same
        cases same
        rfl
    · contradiction
  rw [read, parse_stringifyDeposit, Option.bind_some, readDeposit, stringField_members,
    stringField_members, stringField_members, stringField_members]
  obtain ⟨depositId, account, quoteId, claimableBalanceId⟩ := record
  cases depositId with
  | nil => rfl
  | cons u rest => exact (if_neg (List.cons_ne_nil u rest)).symm

theorem load_access (access : StorageAccess) (stored : Option Text) :
    loadDeposit access stored =
      if access.available && access.get then loadDeposit .working stored else none := rfl

theorem load_save (access : StorageAccess) (order : KeyOrder) (record : PersistedDeposit Text)
    (stored : Option Text) :
    loadDeposit .working (saveDeposit access order record stored) =
      if access.available && access.set then record.loadable else loadDeposit .working stored := by
  unfold saveDeposit
  split
  · exact load_stringify order record
  · rfl

/-- One call changes what can be loaded as it changes the slot. -/
theorem load_step (stored : Option Text) (c : SessionCall) :
    loadDeposit .working (c.step stored) =
      slotStep c.access (loadDeposit .working stored) c.call := by
  obtain ⟨access, order, call⟩ := c
  cases call with
  | save record => exact load_save access order record stored
  | update patch =>
    simp only [SessionCall.step, updateDeposit, slotStep, ← load_access]
    cases patch.depositId <|> (loadDeposit access stored).map PersistedDeposit.depositId with
    | none => rfl
    | some depositId =>
      cases depositId with
      | nil => rfl
      | cons u rest =>
        have nonempty : u :: rest ≠ (default : Text) := List.cons_ne_nil u rest
        dsimp only
        rw [load_save, if_neg nonempty]
        rfl
  | clear =>
    simp only [SessionCall.step, clearDeposit, slotStep]
    split <;> rfl

/-- Whatever was stored before, and however the storage fails: what is loaded is what the
slot holds. -/
theorem session_refines_slot (stored : Option Text) (calls : List SessionCall)
    (access : StorageAccess) :
    loadDeposit access (run SessionCall.step stored calls) =
      if access.available && access.get then
        run (fun slot (c : SessionCall) => slotStep c.access slot c.call)
          (loadDeposit .working stored) calls
      else none := by
  have slot : loadDeposit .working (run SessionCall.step stored calls) =
      run (fun slot (c : SessionCall) => slotStep c.access slot c.call)
        (loadDeposit .working stored) calls := by
    induction calls generalizing stored with
    | nil => rfl
    | cons c calls ih => rw [run_cons, run_cons, ih, load_step]
  rw [load_access, slot]

end ShowUp.Anchor
