import RenderCore.Proofs.Stencil.OperationMoves

/-!
# The lives of buffers

A buffer that comes into a cache leaves it again, at the latest when the cache goes away. What was
done to it before it came, while it was there and when it left is its life. Over a whole life its
storage is freed at most once, and exactly what is neither freed nor abandoned is reported as lost.
-/

namespace RenderCore

variable {δ : Type}

namespace Move

/-- How a move handles the buffer of a key in its place. -/
def handling? (key : ArenaKey) : Move δ → Option Handling
  | .handle own handling _ => if own = key then some handling else none
  | _ => none

/-- The storage that a move frees in handling the buffer of a key. -/
def freed (key : ArenaKey) : Move δ → List StencilId
  | .handle own _ freed => if own = key then freed else []
  | _ => []

/-- Whether a move takes the buffer of a key out of the cache. -/
def Takes (key : ArenaKey) : Move δ → Prop
  | .leave own _ _ _ => own = key
  | _ => False

end Move

/-- If a buffer comes before anything else becomes of any, it comes in one of the moves. -/
theorem Move.exists_come {moves : List (Move δ)} {key : ArenaKey} {others : List Event}
    (events : moves.filterMap Move.event? = .come key :: others) :
    ∃ before buffer after, moves = before ++ .come key buffer :: after ∧
      after.filterMap Move.event? = others := by
  obtain ⟨before, move, after, parts, -, comes, rest⟩ := List.filterMap_eq_cons_iff.mp events
  cases move with
  | come own buffer =>
    obtain rfl := Event.come.inj (Option.some.inj comes)
    exact ⟨before, buffer, after, parts, rest⟩
  | _ => cases comes

/-- If a buffer leaves before anything else becomes of any, nothing was done to it meanwhile. -/
theorem Move.quiet_life {life later : List (Move δ)} {key : ArenaKey} {how how' : Leaving}
    {freed : List StencilId} {lost : Option Entry} {others : List Event}
    (kept : ∀ move ∈ life, ¬ move.Takes key)
    (events : (life ++ .leave key how freed lost :: later).filterMap Move.event? =
      .leave key how' :: others) :
    how = how' ∧ life.filterMap (·.handling? key) = [] ∧ life.flatMap (·.freed key) = [] := by
  have leaves : (leave key how freed lost : Move δ).event? = some (.leave key how) := rfl
  rw [List.filterMap_append, List.filterMap_cons_some leaves] at events
  cases quiet : life.filterMap Move.event? with
  | nil =>
    rw [quiet, List.nil_append] at events
    have idle : ∀ move ∈ life, move.handling? key = none ∧ move.freed key = [] := by
      intro move member
      have silent := List.filterMap_eq_nil_iff.mp quiet move member
      cases move with
      | handle own handling freed => cases silent
      | _ => exact ⟨rfl, rfl⟩
    exact ⟨(Event.leave.inj (List.cons.inj events).1).2,
      List.filterMap_eq_nil_iff.mpr fun move member => (idle move member).1,
      List.flatMap_eq_nil_iff.mpr fun move member => (idle move member).2⟩
  | cons event rest =>
    rw [quiet, List.cons_append] at events
    obtain rfl := (List.cons.inj events).1
    have first : Event.leave key how' ∈ life.filterMap Move.event? := by
      rw [quiet]
      exact List.mem_cons_self
    obtain ⟨move, member, shows⟩ := List.mem_filterMap.mp first
    cases move with
    | leave own how'' freed' lost' =>
      exact absurd (Event.leave.inj (Option.some.inj shows)).1 (kept _ member)
    | _ => cases shows

variable [Backend δ] {build : Build}

/-- A move that has nothing to do with a key leaves its buffer alone. -/
theorem Move.Does.find_eq {move : Move δ} {scene next : Scene δ} {key : ArenaKey}
    {buffer : StencilBuffer} (does : move.Does build scene next)
    (live : scene.find key = some buffer) (unhandled : move.handling? key = none)
    (kept : ¬ move.Takes key) : next.find key = some buffer ∧ move.freed key = [] := by
  have elsewhere : ∀ {own : ArenaKey} (scene : Scene δ) (other : Option StencilBuffer), own ≠ key →
      (scene.put own other).find key = scene.find key :=
    fun _ _ apart => Function.update_of_ne (Ne.symm apart) _ _
  cases does with
  | report other => exact ⟨live, rfl⟩
  | ask => exact ⟨live, rfl⟩
  | come absent =>
    refine ⟨(elsewhere _ _ ?_).trans live, rfl⟩
    rintro rfl
    rw [absent] at live
    contradiction
  | @handle own handling held _ found =>
    have apart : own ≠ key := by
      rintro rfl
      simp [handling?] at unhandled
    exact ⟨(elsewhere _ _ apart).trans live, if_neg apart⟩
  | leave found => exact ⟨(elsewhere _ _ kept).trans live, rfl⟩
  | waste => exact ⟨live, rfl⟩
  | elsewhere backend journal => exact ⟨live, rfl⟩

/-- A buffer that is there at first and not in the end was handled for a while and then left. -/
theorem Moves.life {moves : List (Move δ)} {first last : Scene δ} {key : ArenaKey}
    {buffer : StencilBuffer} (made : Moves build first moves last)
    (live : first.find key = some buffer) (gone : last.find key = none) :
    ∃ life how freed lost later, moves = life ++ .leave key how freed lost :: later ∧
      (∀ move ∈ life, ¬ move.Takes key) ∧
      life.flatMap (·.freed key) = buffer.freedBy (life.filterMap (·.handling? key)) ∧
      freed = (buffer.handled (life.filterMap (·.handling? key))).freedBy how.handlings ∧
      lost = ((buffer.handled (life.filterMap (·.handling? key))).handled how.handlings).loss? := by
  induction made generalizing buffer with
  | nil =>
    rw [live] at gone
    contradiction
  | @cons move moves first between last does rest ih =>
    by_cases takes : move.Takes key
    · -- The life is over with this move.
      cases does with
      | @leave own how held _ found =>
        obtain rfl : own = key := takes
        obtain rfl : held = buffer := Option.some.inj (found.symm.trans live)
        exact ⟨[], how, _, _, moves, rfl, by simp, rfl, rfl, rfl⟩
      | _ => exact takes.elim
    cases handled : move.handling? key with
    | none =>
      obtain ⟨kept, idle⟩ := does.find_eq live handled takes
      obtain ⟨life, how, freed, lost, later, rfl, others, freed_eq, rfl, rfl⟩ := ih kept gone
      refine ⟨move :: life, how, _, _, later, rfl, List.forall_mem_cons.mpr ⟨takes, others⟩, ?_⟩
      rw [List.flatMap_cons, idle, List.nil_append, List.filterMap_cons_none handled]
      exact ⟨freed_eq, rfl, rfl⟩
    | some handling =>
      cases does with
      | @handle own _ held _ found =>
        obtain ⟨rfl, rfl⟩ : own = key ∧ _ = handling := by
          simpa [Move.handling?] using handled
        obtain rfl : held = buffer := Option.some.inj (found.symm.trans live)
        obtain ⟨life, how, freed, lost, later, rfl, others, freed_eq, rfl, rfl⟩ :=
          ih (Function.update_self _ _ _) gone
        refine ⟨_ :: life, how, _, _, later, rfl, List.forall_mem_cons.mpr ⟨takes, others⟩, ?_⟩
        rw [List.flatMap_cons, List.filterMap_cons_some handled, freed_eq]
        exact ⟨congrArg (· ++ _) (if_pos rfl), rfl, rfl⟩
      | _ => contradiction

/-! ## A whole program -/

/-- What a program does to a cache one after the other, with the moves that each deed comes to,
    whichever way it ends: they are due to the deed, and the events among them accord with its
    end. -/
inductive Played (build : Build) :
    CacheSession δ → List (Deed δ) → List (Move δ) → CacheSession δ → Prop where
  | nil {work : CacheSession δ} : Played build work [] [] work
  | cons {work last : CacheSession δ} {deed : Deed δ} {deeds : List (Deed δ)}
      {moves others : List (Move δ)}
      (made : Moves build work.scene moves ((deed.act build).outcome work).2.scene)
      (due : ∀ move ∈ moves, deed.May move)
      (ended : deed.Ended work.cache ((deed.act build).outcome work).1
        ((deed.act build).outcome work).2.cache (moves.filterMap Move.event?))
      (rest : Played build ((deed.act build).outcome work).2 deeds others last) :
      Played build work (deed :: deeds) (moves ++ others) last

theorem Played.moves {work last : CacheSession δ} {deeds : List (Deed δ)} {moves : List (Move δ)}
    (played : Played build work deeds moves last) :
    Moves build work.scene moves last.scene := by
  induction played with
  | nil => exact .nil
  | cons made due ended rest ih => exact made.append ih

theorem exists_played (build : Build) (work : CacheSession δ) (arranged : work.cache.Arranged)
    (deeds : List (Deed δ)) :
    ∃ moves last, Played build work deeds moves last ∧ last.cache.Arranged := by
  induction deeds generalizing work with
  | nil => exact ⟨[], work, .nil, arranged⟩
  | cons deed deeds ih =>
    obtain ⟨arranged, moves, made, due, ended⟩ := deed.exists_moves build arranged
    obtain ⟨others, last, rest, ordered⟩ := ih _ arranged
    exact ⟨moves ++ others, last, .cons made due ended rest, ordered⟩

/-- The cache of a session goes away: its buffers leave, and what is lost with them is reported. -/
theorem exists_dropped (build : Build) (work : CacheSession δ) :
    ∃ moves, Moves build work.scene moves
        ⟨fun _ => none, work.session.backend, (work.cache.drop.outcome work.session.journal).2⟩ ∧
      ∀ move ∈ moves, ∃ key freed lost, move = .leave key .dropped freed lost := by
  rw [StencilCache.drop_outcome]
  have start : Reaches build (fun move => ∃ key freed lost, move = .leave key .dropped freed lost)
      [] work.scene work.scene := .refl work.scene
  obtain ⟨moves, made, due, -⟩ :=
    start.emptied (fun _ => rfl) fun key freed lost => ⟨key, freed, lost, rfl⟩
  exact ⟨moves, made, due⟩

/-- Every buffer is freed, abandoned or reported as lost, and only one of these.

    Outside a cache, each thing that is done to a buffer frees what it has to free and does nothing
    else in the session, and a buffer that goes away only reports what is lost. Whatever a program
    does to a cache, in either build and also where it is cut short, and then lets the cache go,
    every buffer that came into the cache leaves it, and so settles what it had been made over: in
    all that was done to it before it came, while it was there and when it left. A buffer that
    failed to come goes away at once.

    What was done to buffers is what the answers tell: whatever an eviction or a purge takes was
    released as it left, and what the cache forgets was abandoned. Only a panic leaves an eviction
    half done, and only the one in which it came. -/
theorem every_buffer_settles (build : Build) (budget : CacheBudget) (session : Session δ)
    (deeds : List (Deed δ)) :
    (∀ (handling : Handling) (buffer : StencilBuffer) (session : Session δ),
      (handling.act buffer).outcome session =
        (.ok (handling.after buffer), session.without (handling.freed buffer))) ∧
    (∀ (buffer : StencilBuffer) (journal : Journal), buffer.drop.outcome journal =
      (journal.heeded buffer.loss?.toList (.ok ()), journal.noted buffer.loss?.toList)) ∧
    (∀ (fresh : StencilBuffer) (handlings : List Handling), fresh.header.released = false →
      fresh.Settles handlings (fresh.freedBy handlings) (fresh.handled handlings).loss?) ∧
    ∃ moves last leaving, Played build ⟨{ budget }, session⟩ deeds moves last ∧
      Moves build last.scene leaving
        ⟨fun _ => none, last.session.backend, (last.cache.drop.outcome last.session.journal).2⟩ ∧
      (∀ move ∈ leaving, ∃ key freed lost, move = .leave key .dropped freed lost) ∧
      (∀ before key buffer rest, moves ++ leaving = before ++ .come key buffer :: rest →
        ∃ life how freed lost later, rest = life ++ .leave key how freed lost :: later ∧
          (∀ move ∈ life, ¬ move.Takes key) ∧
          ∀ (fresh : StencilBuffer) (outside : List Handling), fresh.header.released = false →
            buffer = fresh.handled outside →
            fresh.Settles (outside ++ life.filterMap (·.handling? key) ++ how.handlings)
              (fresh.freedBy outside ++ life.flatMap (·.freed key) ++ freed) lost) ∧
      ∀ buffer lost, .waste buffer lost ∈ moves ++ leaving →
        ∀ (fresh : StencilBuffer) (outside : List Handling), fresh.header.released = false →
          buffer = fresh.handled outside → fresh.Settles outside (fresh.freedBy outside) lost := by
  refine ⟨Handling.act_outcome, StencilBuffer.drop_outcome,
    fun fresh handlings new => fresh.settles new handlings, ?_⟩
  obtain ⟨moves, last, played, -⟩ := exists_played build ⟨{ budget }, session⟩
    (StencilCache.coherent_empty budget).arranged deeds
  obtain ⟨leaving, dropped, due⟩ := exists_dropped build last
  have made := played.moves.append dropped
  refine ⟨moves, last, leaving, played, dropped, due, fun before key buffer rest parts => ?_,
    fun buffer lost member fresh outside new same => ?_⟩
  · rw [parts] at made
    obtain ⟨between, -, made⟩ := made.split
    cases made with
    | cons does rest =>
      cases does with
      | come absent =>
        obtain ⟨life, how, freed, lost, later, rfl, kept, freed_eq, rfl, rfl⟩ :=
          rest.life (Function.update_self _ _ _) rfl
        refine ⟨life, how, _, _, later, rfl, kept, fun fresh outside new same => ?_⟩
        subst same
        have settles := StencilBuffer.settles new
          (outside ++ life.filterMap (·.handling? key) ++ how.handlings)
        rw [StencilBuffer.freedBy_append, StencilBuffer.freedBy_append,
          StencilBuffer.handled_append, StencilBuffer.handled_append,
          StencilBuffer.handled_append] at settles
        rw [freed_eq]
        exact settles
  · obtain ⟨before, rest, parts⟩ := List.append_of_mem member
    rw [parts] at made
    obtain ⟨between, -, made⟩ := made.split
    cases made with
    | cons does rest =>
      cases does with
      | waste =>
        subst same
        exact StencilBuffer.settles new outside

/-- A buffer that is made in a cache and evicted is released: its storage is freed, and not
    reported. -/
theorem evicted_buffer_settles :
    ∃ (moves : List (Move Software)) (last : CacheSession Software),
      Played .release ⟨{ budget := {} }, .software none⟩
        [.operate (.allocate .cached ⟨64, 32, 8, 4⟩), .operate (.evict ⟨1, 1⟩)] moves last ∧
        moves.filterMap Move.event? = [.come ⟨1, 1⟩, .leave ⟨1, 1⟩ .evicted] ∧
        ∃ storage, .leave ⟨1, 1⟩ .evicted [storage] none ∈ moves := by
  obtain ⟨-, -, -, moves, last, leaving, played, -, dropped, lives, -⟩ :=
    every_buffer_settles .release {} (.software none)
      [.operate (.allocate .cached ⟨64, 32, 8, 4⟩), .operate (.evict ⟨1, 1⟩)]
  have whole := played
  cases played with | @cons _ _ _ _ making _ _ due ended rest =>
  cases rest with | @cons _ _ _ _ evicting _ _ _ ended' rest =>
  cases rest
  have came : making.filterMap Move.event? = [.come ⟨1, 1⟩] :=
    (ended.course (by decide +kernel :
      (((Operation.allocate .cached ⟨64, 32, 8, 4⟩).act .release).outcome
        (⟨{ budget := {} }, .software none⟩ : CacheSession Software)).1 = .ok ⟨1, 1⟩)).2
  have gone : evicting.filterMap Move.event? = [.leave ⟨1, 1⟩ .evicted] :=
    (ended'.course (by decide +kernel : (((Operation.evict ⟨1, 1⟩).act .release).outcome
      (((Operation.allocate .cached ⟨64, 32, 8, 4⟩).act .release).outcome
        (⟨{ budget := {} }, .software none⟩ : CacheSession Software)).2).1 = .ok true)).2
  refine ⟨_, _, whole, by simp [came, gone], ?_⟩
  clear whole ended ended'
  obtain ⟨before, buffer, after, rfl, quiet⟩ := Move.exists_come came
  obtain ⟨id, storage, rfl⟩ := due _ (List.mem_append_right before List.mem_cons_self)
  obtain ⟨life, how, freed, lost, later, parts, kept, settles⟩ := lives before ⟨1, 1⟩
    (.made id .cached (some storage) ⟨64, 32, 8, 4⟩) (after ++ evicting ++ leaving) (by simp)
  have events := congrArg (List.filterMap Move.event?) parts
  rw [List.filterMap_append, List.filterMap_append, quiet, gone] at events
  obtain ⟨rfl, unhandled, unfreed⟩ := Move.quiet_life kept events.symm
  have settles := settles (.made id .cached (some storage) ⟨64, 32, 8, 4⟩) [] rfl rfl
  rw [unhandled, unfreed] at settles
  obtain rfl : freed = [storage] :=
    (settles.freed_iff storage).mpr ⟨rfl, (by decide : LifeCycle.cached ≠ .wrapped), rfl⟩
  obtain rfl : lost = none := by
    rw [Option.eq_none_iff_forall_ne_some]
    intro entry reported
    obtain ⟨-, -, -, ungiven, -⟩ := (settles.lost_iff entry).mp reported
    exact absurd (ungiven .release List.mem_cons_self) (by decide)
  refine ⟨storage, ?_⟩
  have member : .leave ⟨1, 1⟩ .evicted [storage] none ∈ after ++ evicting ++ leaving :=
    parts ▸ List.mem_append_right life List.mem_cons_self
  rcases List.mem_append.mp member with listed | listed
  · simpa using .inr (List.mem_append.mp listed)
  · obtain ⟨key, freed, lost, same⟩ := dropped _ listed
    exact absurd (Move.leave.inj same).2.1 (by decide)

end RenderCore
