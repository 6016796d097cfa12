import RenderCore.Proofs.Stencil.Operations

/-!
# Recently used buffers as a plain list

A list of buffers with their keys, least recently used first, answers all that a cache is asked:
a use moves an item to the end, a new buffer is appended, and a purge drops items from the front.
`RecentList.Answers` is that rule, operation by operation.
-/

namespace RenderCore

/-- Buffers with their keys, least recently used first, and what a purge may leave. -/
structure RecentList where
  items : List (ArenaKey × StencilBuffer) := []
  budget : CacheBudget

namespace RecentList

def keys (list : RecentList) : List ArenaKey := list.items.map (·.1)

def lookup (list : RecentList) (key : ArenaKey) : Option StencilBuffer :=
  (list.items.find? (·.1 = key)).map (·.2)

def append (list : RecentList) (key : ArenaKey) (buffer : StencilBuffer) : RecentList :=
  { list with items := list.items ++ [(key, buffer)] }

def erase (list : RecentList) (key : ArenaKey) : RecentList :=
  { list with items := list.items.filter (·.1 ≠ key) }

/-- A key that is not in the list moves nothing. -/
def moveToEnd (list : RecentList) (key : ArenaKey) : RecentList :=
  match list.lookup key with
  | some buffer => (list.erase key).append key buffer
  | none => list

def revise (list : RecentList) (key : ArenaKey) (change : StencilBuffer → StencilBuffer) :
    RecentList :=
  { list with
    items := list.items.map fun item => if item.1 = key then (key, change item.2) else item }

/-- The last key whose buffer has a scratch key. -/
def lastWith (list : RecentList) (scratch : ScratchKey) : Option ArenaKey :=
  (list.items.filter (·.2.header.scratchKey = some scratch)).getLast?.map (·.1)

/-- Storage of some buffers, in 64-bit words that wrap around. -/
def bytes (items : List (ArenaKey × StencilBuffer)) : UInt64 := (items.map (·.2.shape.bytes)).sum

/-- What is left when items are dropped from the front as long as there is more than a budget
    allows, and the front is not the one to keep. -/
def trim (budget : CacheBudget) (keep : Option ArenaKey) :
    List (ArenaKey × StencilBuffer) → List (ArenaKey × StencilBuffer)
  | [] => []
  | item :: rest =>
    if budget.allows (rest.length + 1) (bytes (item :: rest)) ∨ keep = some item.1 then item :: rest
    else trim budget keep rest

def purge (list : RecentList) (keep : Option ArenaKey) : RecentList :=
  { list with items := trim list.budget keep list.items }

/-- A new buffer is appended under a key that is not in the list, and a purge may follow that
    spares it; or there is a fault and the list stays as it is. -/
def Adds (list : RecentList) (lifeCycle : LifeCycle) (shape : StencilShape)
    (after : ArenaKey → RecentList → RecentList) (outcome : Except Fault ArenaKey)
    (next : RecentList) : Prop :=
  (∃ key id storage, key ∉ list.keys ∧ outcome = .ok key ∧
    next = after key (list.append key (.made id lifeCycle (some storage) shape))) ∨
  ∃ fault, outcome = .error fault ∧ next = list

/-- The last buffer of a form is moved to the end; if there is none, a new one is added and items
    are dropped from the front, but not the new one. -/
def Finds (list : RecentList) (shape : StencilShape) (outcome : Except Fault ArenaKey)
    (next : RecentList) : Prop :=
  match list.lastWith shape.scratchKey with
  | some key => outcome = .ok key ∧ next = list.moveToEnd key
  | none => list.Adds .cached shape (fun key grown => grown.purge (some key)) outcome next

variable {δ α : Type}

/-- What the list answers to an operation, and the list that is left. -/
def Answers : Operation δ α → RecentList → Except Fault α → RecentList → Prop
  | .insert buffer _, list, outcome, next =>
    ∃ key, key ∉ list.keys ∧ outcome = .ok key ∧ next = list.append key buffer
  | .allocate lifeCycle shape, list, outcome, next =>
    list.Adds lifeCycle shape (fun _ grown => grown) outcome next
  | .findScratch scratch, list, outcome, next =>
    outcome = .ok (list.lastWith scratch) ∧
      next = match list.lastWith scratch with
        | some key => list.moveToEnd key
        | none => list
  | .findOrCreate shape, list, outcome, next => list.Finds shape outcome next
  | .find key, list, outcome, next => outcome = .ok (list.lookup key) ∧ next = list
  | .contains key, list, outcome, next => outcome = .ok (list.lookup key).isSome ∧ next = list
  | .access key, list, outcome, next => outcome = .ok (list.lookup key) ∧ next = list.moveToEnd key
  | .setClip key clip, list, outcome, next =>
    outcome = .ok (list.lookup key).isSome ∧
      next = (list.moveToEnd key).revise key fun buffer => { buffer with clip }
  | .releaseInPlace key, list, outcome, next =>
    outcome = .ok (list.lookup key).isSome ∧ next = (list.moveToEnd key).revise key .abandon
  | .evict key, list, outcome, next =>
    outcome = .ok (list.lookup key).isSome ∧ next = list.erase key
  | .purge, list, outcome, next =>
    next = list.purge none ∧ outcome = .ok (list.items.length - next.items.length)
  | .purgeAll, list, outcome, next => outcome = .ok () ∧ next = { list with items := [] }
  | .abandonAll, list, outcome, next => outcome = .ok () ∧ next = { list with items := [] }
  | .setBudget budget, list, outcome, next => outcome = .ok () ∧ next = { list with budget }
  | .attach attachment shape, list, outcome, next =>
    match attachment.fitting list.lookup shape with
    | some key => outcome = .ok (key, attachment) ∧ next = list
    | none => ∃ found, list.Finds shape found next ∧
        outcome = found.map fun key => (key, { key := some key })
  | .resolve attachment, list, outcome, next =>
    outcome = .ok (attachment.resolved list.lookup) ∧ next = list
  | .accessAttached attachment, list, outcome, next =>
    outcome = .ok (attachment.resolved list.lookup) ∧
      next = match attachment.key with
        | some key => list.moveToEnd key
        | none => list
  | .setClipAttached attachment clip, list, outcome, next =>
    outcome = .ok ((attachment.resolved list.lookup).1.isSome,
        (attachment.resolved list.lookup).2) ∧
      next = match attachment.key with
        | some key => (list.moveToEnd key).revise key fun buffer => { buffer with clip }
        | none => list
  | .elsewhere _, list, outcome, next => outcome = .ok () ∧ next = list

/-- The operation looks for a buffer that is not in the list. -/
def Misses : Operation δ α → RecentList → Prop
  | .findScratch scratch, list => list.lastWith scratch = none
  | .access key, list => list.lookup key = none
  | .setClip key _, list => list.lookup key = none
  | .releaseInPlace key, list => list.lookup key = none
  | .evict key, list => list.lookup key = none
  | .accessAttached attachment, list => ∀ key, attachment.key = some key → list.lookup key = none
  | .setClipAttached attachment _, list =>
    ∀ key, attachment.key = some key → list.lookup key = none
  | _, _ => False

end RecentList

end RenderCore
