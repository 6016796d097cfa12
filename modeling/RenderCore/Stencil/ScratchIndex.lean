import RenderCore.Stencil.Arena
import RenderCore.Stencil.ScratchKey

/-!
# Looking up entries by scratch key

A renderer has few forms of buffer in use at a time, so the index is a list of scratch keys, each
with the keys of its entries. A scratch key without entries is not kept.
-/

namespace RenderCore

/-- The entries of each scratch key. -/
structure ScratchIndex where
  lists : List (ScratchKey × List ArenaKey) := []
  deriving DecidableEq, Repr

namespace ScratchIndex

/-- The entries of a scratch key, if it has some. -/
def find? (index : ScratchIndex) (scratch : ScratchKey) : Option (List ArenaKey) :=
  index.lists.lookup scratch

/-- Adds an entry to those of a scratch key. -/
def add (index : ScratchIndex) (scratch : ScratchKey) (key : ArenaKey) : ScratchIndex :=
  match index.find? scratch with
  | none => ⟨index.lists ++ [(scratch, [key])]⟩
  | some _ => ⟨index.lists.map fun (other, keys) =>
      if other = scratch then (other, keys ++ [key]) else (other, keys)⟩

/-- Takes an entry out of those of a scratch key. -/
def remove (index : ScratchIndex) (scratch : ScratchKey) (key : ArenaKey) : ScratchIndex :=
  ⟨index.lists.filterMap fun (other, keys) =>
    if other = scratch then
      let kept := keys.filter (· ≠ key)
      if kept.isEmpty then none else some (other, kept)
    else some (other, keys)⟩

end ScratchIndex

end RenderCore
