/-!
# Arenas with weak keys

An arena holds values in numbered slots. A key names a slot and the version of the slot at which
the value was put there; when the value is taken out, the version is raised, so the key finds
nothing from then on. A slot that became vacant last is filled first.
-/

namespace RenderCore

/-- A weak reference to a value in an arena. Slots are numbered from 1, so that a key with slot 0
    finds nothing in any arena. -/
structure ArenaKey where
  slot : Nat
  version : UInt32
  deriving DecidableEq, Repr

/-- The key that finds nothing. -/
def ArenaKey.null : ArenaKey := ⟨0, 0⟩

/-- A slot: its version, and the value it holds. -/
structure ArenaSlot (α : Type) where
  version : UInt32
  value : Option α
  deriving DecidableEq, Repr

/-- Values in slots. -/
structure Arena (α : Type) where
  slots : Array (ArenaSlot α) := #[]
  /-- Places of the vacant slots, last vacated first. -/
  vacant : List Nat := []
  deriving DecidableEq, Repr

namespace Arena

variable {α : Type}

/-- The place in the array and the slot that a key names, if the slot still has the key's
    version and holds a value. -/
def locate? (arena : Arena α) (key : ArenaKey) : Option (Nat × α) :=
  match key.slot with
  | 0 => none
  | place + 1 =>
    match arena.slots[place]? with
    | some slot => if slot.version = key.version then slot.value.map (place, ·) else none
    | none => none

/-- The value that a key refers to. -/
def find? (arena : Arena α) (key : ArenaKey) : Option α := (arena.locate? key).map (·.2)

/-- Whether a key still refers to a value. -/
def contains (arena : Arena α) (key : ArenaKey) : Bool := (arena.find? key).isSome

/-- The values and their keys, in the order of the slots. -/
def toList (arena : Arena α) : List (ArenaKey × α) :=
  arena.slots.toList.zipIdx.filterMap fun (slot, place) =>
    slot.value.map fun value => (⟨place + 1, slot.version⟩, value)

/-- Number of values. -/
def size (arena : Arena α) : Nat := arena.toList.length

/-- Puts a value into a slot and gives its key. The version of a slot that holds a value is
    odd. -/
def insert (arena : Arena α) (value : α) : ArenaKey × Arena α :=
  let fresh := (⟨arena.slots.size + 1, 1⟩, { arena with slots := arena.slots.push ⟨1, some value⟩ })
  match arena.vacant with
  | [] => fresh
  | place :: rest =>
    match arena.slots[place]? with
    | none => fresh
    | some slot =>
      let version := slot.version ||| 1
      (⟨place + 1, version⟩,
        { slots := arena.slots.setIfInBounds place ⟨version, some value⟩, vacant := rest })

/-- Changes the value that a key refers to. -/
def update (arena : Arena α) (key : ArenaKey) (change : α → α) : Arena α :=
  match arena.locate? key with
  | some (place, value) =>
    { arena with slots := arena.slots.setIfInBounds place ⟨key.version, some (change value)⟩ }
  | none => arena

/-- Takes out the value that a key refers to. -/
def remove? (arena : Arena α) (key : ArenaKey) : Option (α × Arena α) :=
  match arena.locate? key with
  | some (place, value) =>
    some (value,
      { slots := arena.slots.setIfInBounds place ⟨key.version + 1, none⟩
        vacant := place :: arena.vacant })
  | none => none

/-- Takes out all values, in the order of the slots. -/
def clear (arena : Arena α) : Arena α :=
  { slots := arena.slots.map fun slot =>
      if slot.value.isSome then ⟨slot.version + 1, none⟩ else slot
    vacant := (arena.toList.map (·.1.slot - 1)).reverse ++ arena.vacant }

end Arena

end RenderCore
