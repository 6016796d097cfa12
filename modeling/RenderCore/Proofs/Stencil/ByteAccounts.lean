import RenderCore.Proofs.Stencil.AttachmentRecency

/-!
# Bytes that were counted in can be counted out

A debug build counts a buffer in only if neither its size nor the total overflows. From then on its
shape does not change, so that its size can be worked out again, and the total is the exact sum of
all sizes, so that the size can be taken away. An eviction is therefore never stopped by its
arithmetic, in either build, and does the same in both.
-/

namespace RenderCore

variable {δ α : Type} {build : Build}

namespace StencilCache

variable {cache other : StencilCache} {key : ArenaKey} {buffer : StencilBuffer}

/-- The cache is coherent, and what a debug build checks about its bytes holds. -/
structure Accounted (build : Build) (cache : StencilCache) : Prop where
  coherent : cache.Coherent
  /-- The sizes of all buffers can be worked out. -/
  sized : ∀ key buffer, cache.find? key = some buffer →
    buffer.shape.checkedBytes build = .ok buffer.shape.bytes
  /-- Their sum fits into a word. -/
  fits : build = .debug → cache.heldBytes < 2 ^ 64

theorem accounted_empty (build : Build) (budget : CacheBudget) : Accounted build { budget } where
  coherent := coherent_empty budget
  sized := by simp [find?]
  fits _ := by
    change 0 < 2 ^ 64
    decide

theorem Accounted.total (accounted : cache.Accounted .debug) :
    cache.totalBytes.toNat = cache.heldBytes := by
  rw [accounted.coherent.counted, Nat.mod_eq_of_lt (accounted.fits rfl)]

/-- The size of a buffer can be taken from the total. -/
theorem Accounted.totalWithout (accounted : cache.Accounted build)
    (live : cache.find? key = some buffer) {rest : StencilCache}
    (total : rest.totalBytes = cache.totalBytes) :
    CacheSession.totalWithout build rest buffer = .ok (cache.totalBytes - buffer.shape.bytes) := by
  unfold CacheSession.totalWithout
  rw [accounted.sized key buffer live, total]
  change build.sub64 cache.totalBytes buffer.shape.bytes = _
  cases build with
  | release => exact Build.sub64_release _ _
  | debug =>
    have held := heldBytes_discharge live
    have exact := accounted.total
    have small := cache.totalBytes.toNat_lt
    have back : (cache.totalBytes - buffer.shape.bytes).toNat + buffer.shape.bytes.toNat =
        cache.totalBytes.toNat := by
      rw [UInt64.toNat_sub]
      omega
    simp [Build.sub64, Build.checked, back]

/-- Only the shapes of the buffers matter. -/
theorem Accounted.alike (accounted : cache.Accounted build) (coherent : other.Coherent)
    (alike : cache.Alike other) : other.Accounted build where
  coherent := coherent
  sized key buffer found := by
    obtain ⟨buffer', found', same⟩ := alike.symm.found found
    rw [← same.shape]
    exact accounted.sized key buffer' found'
  fits debug := by
    rw [alike.heldBytes]
    exact accounted.fits debug

theorem Accounted.touch (accounted : cache.Accounted build) (key : ArenaKey) :
    (cache.touch key).Accounted build :=
  accounted.alike (accounted.coherent.touch key) (alike_touch cache key)

theorem Accounted.revise (accounted : cache.Accounted build) (key : ArenaKey)
    {change : StencilBuffer → StencilBuffer}
    (same : ∀ buffer : StencilBuffer, buffer.Same (change buffer)) :
    (cache.revise key change).Accounted build :=
  accounted.alike (accounted.coherent.revise key same) (alike_revise cache key same)

theorem Accounted.setBudget (accounted : cache.Accounted build) (budget : CacheBudget) :
    (cache.setBudget budget).Accounted build :=
  accounted.alike (accounted.coherent.setBudget budget) (alike_of_find?_eq fun _ => rfl)

theorem Accounted.findScratch (accounted : cache.Accounted build) (scratch : ScratchKey) :
    (cache.findScratch scratch).2.Accounted build :=
  accounted.alike (accounted.coherent.findScratch scratch)
    (alike_of_find?_eq (find?_findScratch cache scratch))

theorem Accounted.tick (accounted : cache.Accounted build) : cache.tick.Accounted build := by
  have arranged := accounted.coherent.arranged.tick
  exact accounted.alike ⟨arranged.tidy, arranged.recent, arranged.indexed,
    accounted.coherent.counted.alike rfl (alike_of_find?_eq fun _ => rfl)⟩
    (alike_of_find?_eq fun _ => rfl)

theorem Accounted.discharge (accounted : cache.Accounted build) (key : ArenaKey) :
    (cache.discharge key).Accounted build where
  coherent := accounted.coherent.discharge key
  sized other buffer found := by
    rw [find?_discharge, Option.ite_none_left_eq_some] at found
    exact accounted.sized other buffer found.2
  fits debug := by
    cases live : cache.find? key with
    | none =>
      rw [discharge_of_none live]
      exact accounted.fits debug
    | some buffer =>
      have held := heldBytes_discharge live
      have fits := accounted.fits debug
      omega

theorem Accounted.abandonAll (accounted : cache.Accounted build) :
    cache.abandonAll.Accounted build where
  coherent := accounted.coherent.abandonAll
  sized := by simp
  fits _ := by
    have none_held : cache.abandonAll.heldBytes = 0 := by
      simp [heldBytes, buffers, StencilCache.abandonAll]
    rw [none_held]
    decide

/-- A new total that was worked out is the old one with the size of the buffer, which could be
    worked out as well. -/
theorem totalWith_eq_ok {total : UInt64}
    (counted : CacheSession.totalWith build cache buffer = .ok total) :
    buffer.shape.checkedBytes build = .ok buffer.shape.bytes ∧
      total = cache.totalBytes + buffer.shape.bytes ∧
      (build = .debug → cache.totalBytes.toNat + buffer.shape.bytes.toNat < 2 ^ 64) := by
  unfold CacheSession.totalWith at counted
  rcases buffer.shape.stricter_checkedBytes build with sized | ⟨panic, cut⟩
  · rw [StencilShape.checkedBytes_release] at sized
    rw [sized] at counted
    change build.add64 cache.totalBytes buffer.shape.bytes = .ok total at counted
    unfold Build.add64 Build.checked at counted
    split at counted
    · contradiction
    next exact =>
      obtain rfl := Except.ok.inj counted
      refine ⟨sized, rfl, fun debug => ?_⟩
      have small := (cache.totalBytes + buffer.shape.bytes).toNat_lt
      simp only [debug, true_and, Bool.not_eq_false, beq_iff_eq] at exact
      omega
  · rw [cut] at counted
    contradiction

theorem Accounted.placed (accounted : cache.Accounted build) (keyed : buffer.Keyed) {total : UInt64}
    (counted : CacheSession.totalWith build cache.tick buffer = .ok total) :
    (cache.tick.place buffer total).2.Accounted build := by
  obtain ⟨sized, rfl, small⟩ := totalWith_eq_ok counted
  have tidy := accounted.coherent.tidy
  change (cache.lodge buffer).2.Accounted build
  refine ⟨accounted.coherent.lodge keyed, fun other held found => ?_, fun debug => ?_⟩
  · rw [find?_lodge tidy] at found
    split at found
    · obtain rfl := Option.some.inj found
      exact sized
    · exact accounted.sized other held found
  · have fits := small debug
    subst debug
    have exact := accounted.total
    change cache.totalBytes.toNat + buffer.shape.bytes.toNat < 2 ^ 64 at fits
    rw [heldBytes_lodge tidy]
    omega

end StencilCache

/-! ## Evictions -/

/-- The report of an eviction. -/
def StencilBuffer.evictionEntry (buffer : StencilBuffer) : Entry :=
  { severity := .debug
    source := CacheSession.component
    message := "Evicting " ++ buffer.shape.sizeText ++ " stencil buffer ResourceId("
      ++ toString buffer.header.id.val ++ ")" }

theorem StencilCache.totalBytes_remove? {cache rest : StencilCache} {key : ArenaKey}
    {buffer : StencilBuffer} (removed : cache.remove? key = some (buffer, rest)) :
    rest.totalBytes = cache.totalBytes := by
  unfold remove? at removed
  split at removed
  · cases removed
    rfl
  · contradiction

/-- The session after the eviction of a buffer. Its storage is freed, but is lost where a logger
    fails on the report. -/
def Session.evicting [Backend δ] (session : Session δ) (buffer : StencilBuffer) : Session δ :=
  let journal := session.journal.noted [buffer.evictionEntry]
  if session.journal.alarmed [buffer.evictionEntry] then
    { session with journal := journal.noted buffer.loss?.toList }
  else ({ session with journal } : Session δ).without buffer.owed.toList

namespace CacheSession

theorem log_outcome (severity : Severity) (source message : String) (work : CacheSession δ) :
    (liftM (Journal.log severity source message) : Act (CacheSession δ) Unit).outcome work =
      (work.session.journal.heeded [{ severity, source, message }] (.ok ()),
        { work with session := { work.session with
          journal := work.session.journal.noted [{ severity, source, message }] } }) :=
  Act.outcome_within (Act.outcome_within (Journal.write_outcome _ work.session.journal))

/-- Counting a buffer out sets the new total before the report. If a logger fails on it, the storage
    of the buffer is reported as lost. -/
theorem countOut_outcome {work : CacheSession δ} {buffer : StencilBuffer} {total : UInt64}
    (counted : totalWithout build work.cache buffer = .ok total) :
    (Act.onPanic (countOut build buffer) buffer.drop : Act (CacheSession δ) Unit).outcome work =
      (work.session.journal.heeded [buffer.evictionEntry] (.ok ()),
        ⟨{ work.cache with totalBytes := total }, { work.session with
          journal := (work.session.journal.noted [buffer.evictionEntry]).noted
            (if work.session.journal.alarmed [buffer.evictionEntry] then buffer.loss?.toList
              else []) }⟩) := by
  have reported : (countOut build buffer : Act (CacheSession δ) Unit).outcome work =
      (work.session.journal.heeded [buffer.evictionEntry] (.ok ()),
        ⟨{ work.cache with totalBytes := total }, { work.session with
          journal := work.session.journal.noted [buffer.evictionEntry] }⟩) := by
    unfold countOut
    rw [Act.outcome_get_bind, counted, Act.lift_ok, pure_bind]
    exact log_outcome _ _ _ _
  have dropped (left : CacheSession δ) : (liftM buffer.drop : Act (CacheSession δ) Unit).outcome
      left = _ := Act.outcome_within (Act.outcome_within (buffer.drop_outcome left.session.journal))
  rw [Act.outcome_onPanic, reported, Journal.heeded]
  cases work.session.journal.alarmed [buffer.evictionEntry] with
  | true =>
    rw [if_pos rfl, if_pos rfl]
    dsimp only
    rw [dropped]
  | false => rfl

variable [Backend δ]

/-- What an eviction comes to depends on the build no more than on the budget. -/
theorem evict_outcome {work : CacheSession δ} (accounted : work.cache.Accounted build)
    (key : ArenaKey) :
    (evict build key).outcome work =
      match work.cache.find? key with
      | none => (.ok false, work)
      | some buffer => (work.session.journal.heeded [buffer.evictionEntry] (.ok true),
          ⟨work.cache.discharge key, work.session.evicting buffer⟩) := by
  unfold evict
  rw [Act.outcome_get_bind]
  cases live : work.cache.find? key with
  | none =>
    rw [StencilCache.remove?_of_none live]
    rfl
  | some buffer =>
    obtain ⟨rest, removed, discharged⟩ := StencilCache.remove?_of_some live
    have total := StencilCache.totalBytes_remove? removed
    have counted : (Act.onPanic (countOut build buffer) buffer.drop :
        Act (CacheSession δ) Unit).outcome ⟨rest, work.session⟩ = _ :=
      countOut_outcome (accounted.totalWithout live total)
    rw [total] at discharged
    rw [← discharged] at counted
    rw [removed]
    change ((Act.onPanic (countOut build buffer) (liftM buffer.drop : Act (CacheSession δ) Unit) >>=
      fun _ => discard (buffer.release : Act (Session δ) StencilBuffer) >>=
        fun _ => pure true).outcome ⟨rest, work.session⟩) = _
    dsimp only
    unfold Journal.heeded at counted ⊢
    unfold Session.evicting
    cases alarmed : work.session.journal.alarmed [buffer.evictionEntry] with
    | true =>
      simp only [alarmed, if_true] at counted ⊢
      exact Act.outcome_bind_of_error counted
    | false =>
      simp only [alarmed, Bool.false_eq_true, if_false] at counted ⊢
      rw [Act.outcome_bind_of_ok counted]
      have released (left : CacheSession δ) :
          (discard (buffer.release : Act (Session δ) StencilBuffer) :
            Act (CacheSession δ) Unit).outcome left =
            (.ok (), { left with session := left.session.without buffer.owed.toList }) := by
        rw [Act.outcome_discard]
        have freed : (liftM (buffer.release : Act (Session δ) StencilBuffer) :
            Act (CacheSession δ) StencilBuffer).outcome left = (.ok buffer.abandon, { left with
              session := left.session.without buffer.owed.toList }) :=
          Act.outcome_within (Handling.release.act_outcome buffer left.session)
        rw [freed]
        rfl
      rw [Act.outcome_bind_of_ok (released _)]
      rfl

end CacheSession

end RenderCore
