import RenderCore.Proofs.Stencil.Handlings

/-!
# Moves

What happens to the buffers of a cache happens in moves: a buffer comes into the cache, is handled
there, leaves it and goes away. A move says which storage was freed with it and which was reported
as lost. Operations on the cache are lists of moves, and where an operation is cut short, the moves
that were made stay made. What the moves do to buffers, and to which, are the events of an
operation.
-/

namespace RenderCore

variable {δ : Type}

/-- What buffers, backend and journal are at one moment. -/
structure Scene (δ : Type) where
  find : ArenaKey → Option StencilBuffer
  backend : δ
  journal : Journal

/-- The buffers of a cache and the session they live in. -/
def CacheSession.scene (work : CacheSession δ) : Scene δ :=
  ⟨work.cache.find?, work.session.backend, work.session.journal⟩

/-- How a buffer leaves a cache. -/
inductive Leaving where
  /-- It is evicted. -/
  | evicted
  /-- Its eviction is cut short. -/
  | cutShort
  /-- The cache forgets all its buffers. -/
  | forgotten
  /-- The cache goes away. -/
  | dropped
  deriving DecidableEq, Repr

/-- What is done to a buffer that leaves a cache, before it goes away. -/
def Leaving.handlings : Leaving → List Handling
  | .evicted => [.release]
  | .cutShort => []
  | .forgotten => [.abandon]
  | .dropped => []

/-- Something that happens around a cache. -/
inductive Move (δ : Type) where
  /-- An entry is written that does not report lost storage. -/
  | report (entry : Entry)
  /-- The backend is asked for storage. -/
  | ask (shape : StencilShape)
  | come (key : ArenaKey) (buffer : StencilBuffer)
  /-- A buffer is handled in the cache. -/
  | handle (key : ArenaKey) (handling : Handling) (freed : List StencilId)
  | leave (key : ArenaKey) (how : Leaving) (freed : List StencilId) (lost : Option Entry)
  /-- A buffer that was to come goes away instead. -/
  | waste (buffer : StencilBuffer) (lost : Option Entry)
  /-- The program does something else with its session. -/
  | elsewhere (change : Session δ → Session δ)

/-- What becomes of a buffer in a move. -/
inductive Event where
  | come (key : ArenaKey)
  | handle (key : ArenaKey) (handling : Handling)
  | leave (key : ArenaKey) (how : Leaving)
  | waste
  deriving DecidableEq, Repr

/-- Whether the event is what an operation is for, and not what is left of it after a panic. -/
def Event.Whole : Event → Prop
  | .leave _ how => how ≠ .cutShort
  | .waste => False
  | _ => True

/-- The event in a move, if a buffer is concerned. -/
def Move.event? : Move δ → Option Event
  | .come key _ => some (.come key)
  | .handle key handling _ => some (.handle key handling)
  | .leave key how _ _ => some (.leave key how)
  | .waste _ _ => some .waste
  | _ => none

namespace Scene

/-- The scene with another buffer, or none, under a key. -/
def put (scene : Scene δ) (key : ArenaKey) (buffer : Option StencilBuffer) : Scene δ :=
  { scene with find := Function.update scene.find key buffer }

theorem find_put_of_ne (scene : Scene δ) {key other : ArenaKey} (apart : other ≠ key)
    (buffer : Option StencilBuffer) : (scene.put key buffer).find other = scene.find other :=
  Function.update_of_ne apart _ _

variable [Backend δ]

/-- The scene after storage was freed, and after it was reported as lost. -/
def settle (scene : Scene δ) (freed : List StencilId) (lost : Option Entry) : Scene δ :=
  { scene with
    backend := freed.foldl (fun backend storage => Backend.deleteStencil storage backend)
      scene.backend
    journal := scene.journal.noted lost.toList }

@[simp] theorem find_settle (scene : Scene δ) (freed : List StencilId) (lost : Option Entry) :
    (scene.settle freed lost).find = scene.find := rfl

end Scene

variable [Backend δ] {build : Build}

/-- What a move does. -/
inductive Move.Does (build : Build) : Move δ → Scene δ → Scene δ → Prop where
  | report {entry : Entry} {scene : Scene δ}
      (other : ∀ storage, entry ≠ StencilBuffer.lossEntry storage) :
      Does build (.report entry) scene { scene with journal := scene.journal.note entry }
  | ask {shape : StencilShape} {scene : Scene δ} :
      Does build (.ask shape) scene
        { scene with backend := ((Backend.createStencil build shape).outcome scene.backend).2 }
  | come {key : ArenaKey} {buffer : StencilBuffer} {scene : Scene δ}
      (absent : scene.find key = none) :
      Does build (.come key buffer) scene (scene.put key (some buffer))
  | handle {key : ArenaKey} {handling : Handling} {buffer : StencilBuffer} {scene : Scene δ}
      (live : scene.find key = some buffer) :
      Does build (.handle key handling (handling.freed buffer)) scene
        ((scene.settle (handling.freed buffer) none).put key (some (handling.after buffer)))
  | leave {key : ArenaKey} {how : Leaving} {buffer : StencilBuffer} {scene : Scene δ}
      (live : scene.find key = some buffer) :
      Does build
        (.leave key how (buffer.freedBy how.handlings) (buffer.handled how.handlings).loss?) scene
        ((scene.settle (buffer.freedBy how.handlings)
          (buffer.handled how.handlings).loss?).put key none)
  | waste {buffer : StencilBuffer} {scene : Scene δ} :
      Does build (.waste buffer buffer.loss?) scene (scene.settle [] buffer.loss?)
  | elsewhere {change : Session δ → Session δ} {scene : Scene δ} {session : Session δ}
      (backend : session.backend = scene.backend) (journal : session.journal = scene.journal) :
      Does build (.elsewhere change) scene
        { scene with backend := (change session).backend, journal := (change session).journal }

/-- Moves that lead from one scene to another, first one first. -/
inductive Moves (build : Build) : Scene δ → List (Move δ) → Scene δ → Prop where
  | nil {scene : Scene δ} : Moves build scene [] scene
  | cons {move : Move δ} {moves : List (Move δ)} {first between last : Scene δ}
      (does : move.Does build first between) (rest : Moves build between moves last) :
      Moves build first (move :: moves) last

theorem Moves.append {first between last : Scene δ} {moves others : List (Move δ)}
    (before : Moves build first moves between) (after : Moves build between others last) :
    Moves build first (moves ++ others) last := by
  induction before with
  | nil => exact after
  | cons does rest ih => exact .cons does (ih after)

theorem Moves.split {first last : Scene δ} {moves others : List (Move δ)}
    (made : Moves build first (moves ++ others) last) :
    ∃ between, Moves build first moves between ∧ Moves build between others last := by
  induction moves generalizing first with
  | nil => exact ⟨first, .nil, made⟩
  | cons move moves ih =>
    cases made with
    | cons does rest =>
      obtain ⟨between, before, after⟩ := ih rest
      exact ⟨between, .cons does before, after⟩

/-! ## Moves of one kind -/

/-- Moves of a permitted kind lead from one scene to another, in the course of some events. -/
def Reaches (build : Build) (may : Move δ → Prop) (events : List Event) (first last : Scene δ) :
    Prop :=
  ∃ moves, Moves build first moves last ∧ (∀ move ∈ moves, may move) ∧
    moves.filterMap Move.event? = events

namespace Reaches

variable {may : Move δ → Prop} {events more : List Event} {first last later : Scene δ}

theorem refl (scene : Scene δ) : Reaches build may [] scene scene :=
  ⟨[], .nil, by simp, rfl⟩

theorem trans (reaches : Reaches build may events first last)
    (further : Reaches build may more last later) :
    Reaches build may (events ++ more) first later := by
  obtain ⟨moves, made, permitted, rfl⟩ := reaches
  obtain ⟨others, made', permitted', rfl⟩ := further
  refine ⟨moves ++ others, made.append made', fun move member => ?_, List.filterMap_append⟩
  exact (List.mem_append.mp member).elim (permitted move) (permitted' move)

theorem next {move : Move δ} {event : Event} (reaches : Reaches build may events first last)
    (does : move.Does build last later) (permitted : may move)
    (shows : move.event? = some event) : Reaches build may (events ++ [event]) first later :=
  reaches.trans ⟨[move], .cons does .nil, by simpa using permitted, by
    rw [List.filterMap_cons_some shows, List.filterMap_nil]⟩

/-- A move that concerns no buffer. -/
theorem aside {move : Move δ} (reaches : Reaches build may events first last)
    (does : move.Does build last later) (permitted : may move) (silent : move.event? = none) :
    Reaches build may events first later := by
  have alone : Reaches build may [] last later :=
    ⟨[move], .cons does .nil, by simpa using permitted, List.filterMap_cons_none silent⟩
  simpa using reaches.trans alone

/-- All buffers leave that have one of some keys. -/
theorem allLeave {how : Leaving}
    (idle : ∀ buffer : StencilBuffer, buffer.freedBy how.handlings = [])
    (permitted : ∀ key freed lost, may (.leave key how freed lost)) (keys : List ArenaKey)
    (distinct : keys.Nodup) (live : ∀ key ∈ keys, (last.find key).isSome)
    (reaches : Reaches build may events first last) :
    Reaches build may (events ++ keys.map (.leave · how)) first
      { find := fun key => if key ∈ keys then none else last.find key
        backend := last.backend
        journal := last.journal.noted <| keys.filterMap fun key =>
          (last.find key).bind fun buffer => (buffer.handled how.handlings).loss? } := by
  induction keys generalizing last events with
  | nil => simpa [Journal.noted] using reaches
  | cons key rest ih =>
    obtain ⟨buffer, found⟩ := Option.isSome_iff_exists.mp (live key List.mem_cons_self)
    obtain ⟨apart, distinct⟩ := List.nodup_cons.mp distinct
    have left := reaches.next (.leave found) (permitted _ _ _) rfl
    have others : ∀ other ∈ rest, other ≠ key := by
      rintro other member rfl
      exact apart member
    have kept : ∀ other ∈ rest, ((last.settle (buffer.freedBy how.handlings)
        (buffer.handled how.handlings).loss?).put key none).find other = last.find other :=
      fun other member => last.find_put_of_ne (others other member) none
    have gone := ih distinct (fun other member => by
      rw [kept other member]
      exact live other (List.mem_cons_of_mem key member)) left
    have losses := List.filterMap_congr fun other member => congrArg (Option.bind ·
      fun buffer => (buffer.handled how.handlings).loss?) (kept other member)
    rw [losses] at gone
    rw [List.map_cons, List.append_cons]
    convert gone using 2
    · funext other
      by_cases same : other = key
      · simp [same, Scene.put]
      · simp [same, Scene.find_put_of_ne]
    · rw [Scene.put, Scene.settle, idle]
      rfl
    · rw [List.filterMap_cons, found, Option.bind_some]
      cases (buffer.handled how.handlings).loss? <;> rfl

end Reaches

end RenderCore
