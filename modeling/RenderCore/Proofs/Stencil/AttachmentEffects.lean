import RenderCore.Proofs.Stencil.CacheEffects

/-!
# What attachments do to cache and backend

An attachment is a value with a key in it. Resolving one gives the buffer and the attachment that is
left, which is detached if the key is stale. Only resolving for a change counts as a use, and only
if the buffer is there.
-/

namespace RenderCore

variable {δ : Type}

namespace StencilAttachment

/-- What an attachment resolves to where `find` looks keys up, and the attachment that is left. -/
def resolved (attachment : StencilAttachment) (find : ArenaKey → Option StencilBuffer) :
    Option StencilBuffer × StencilAttachment :=
  match attachment.key with
  | none => (none, attachment)
  | some key =>
    match find key with
    | some buffer => (some buffer, attachment)
    | none => (none, detached)

/-- The cache after an attachment was resolved for a change. -/
def used (attachment : StencilAttachment) (cache : StencilCache) : StencilCache :=
  match attachment.key with
  | none => cache
  | some key => if cache.contains key then cache.touch key else cache

/-- The cache after a clip was recorded through an attachment. -/
def clipped (attachment : StencilAttachment) (clip : ClipRecord) (cache : StencilCache) :
    StencilCache :=
  match attachment.key with
  | none => cache
  | some key => (attachment.used cache).revise key fun buffer => { buffer with clip }

section looking

variable {cache : StencilCache} {key : ArenaKey} {buffer : StencilBuffer}

theorem resolved_of_some (live : cache.find? key = some buffer) :
    resolved ⟨some key⟩ cache.find? = (some buffer, ⟨some key⟩) := by
  simp [resolved, live]

theorem resolved_of_none (stale : cache.find? key = none) :
    resolved ⟨some key⟩ cache.find? = (none, detached) := by
  simp [resolved, stale]

theorem used_of_some (live : cache.find? key = some buffer) :
    used ⟨some key⟩ cache = cache.touch key := by
  simp [used, StencilCache.contains_eq, live]

theorem used_of_none (stale : cache.find? key = none) : used ⟨some key⟩ cache = cache := by
  simp [used, StencilCache.contains_eq, stale]

theorem clipped_of_some (live : cache.find? key = some buffer) (clip : ClipRecord) :
    clipped ⟨some key⟩ clip cache = (cache.touch key).store key { buffer with clip } := by
  simp [clipped, used_of_some live, StencilCache.revise, live]

theorem clipped_of_none (stale : cache.find? key = none) (clip : ClipRecord) :
    clipped ⟨some key⟩ clip cache = cache := by
  simp [clipped, used_of_none stale, StencilCache.revise, stale]

theorem find?_used (attachment : StencilAttachment) (cache : StencilCache) (key : ArenaKey) :
    (attachment.used cache).find? key = cache.find? key := by
  unfold used
  split
  · rfl
  · split
    · exact StencilCache.find?_touch cache _ key
    · rfl

theorem coherent_used (attachment : StencilAttachment) (coherent : cache.Coherent) :
    (attachment.used cache).Coherent := by
  unfold used
  split
  · exact coherent
  · split
    · exact coherent.touch _
    · exact coherent

theorem coherent_clipped (attachment : StencilAttachment) (clip : ClipRecord)
    (coherent : cache.Coherent) : (attachment.clipped clip cache).Coherent := by
  unfold clipped
  split
  · exact coherent
  · exact (attachment.coherent_used coherent).revise _ fun buffer => buffer.same_clip clip

end looking

variable {held : Holding δ} {s : CacheSession δ}

theorem ends_letGo (begun : s.holding = held) (key : ArenaKey) :
    (letGo key : Act (CacheSession δ) StencilAttachment).Ends s
      (fun left t => left = detached ∧ t.holding = held) (fun _ _ => False) held.Survives := by
  subst begun
  unfold letGo
  refine ((CacheSession.ends_log s).cut fun t same => Holding.survives_of_eq same).bind
    fun _ t same => Act.ends_pure ⟨rfl, same⟩

theorem ends_resolve (begun : s.holding = held) (attachment : StencilAttachment) :
    (attachment.resolve : Act (CacheSession δ) (Option StencilBuffer × StencilAttachment)).Ends s
      (fun answer t => answer = attachment.resolved held.cache.find? ∧ t.holding = held)
      (fun _ _ => False) held.Survives := by
  subst begun
  obtain ⟨key⟩ := attachment
  unfold resolve
  cases key with
  | none => exact Act.ends_pure ⟨rfl, rfl⟩
  | some key =>
    apply Act.ends_get_bind
    cases live : s.cache.find? key with
    | some buffer => exact Act.ends_pure ⟨(resolved_of_some live).symm, rfl⟩
    | none =>
      refine (ends_letGo rfl key).bind fun _ t ok => Act.ends_pure ⟨?_, ok.2⟩
      rw [ok.1]
      exact (resolved_of_none live).symm

theorem ends_access (begun : s.holding = held) (attachment : StencilAttachment) :
    (attachment.access : Act (CacheSession δ) (Option StencilBuffer × StencilAttachment)).Ends s
      (fun answer t => answer = attachment.resolved held.cache.find? ∧
        t.holding = { held with cache := attachment.used held.cache })
      (fun _ _ => False) held.Survives := by
  subst begun
  obtain ⟨key⟩ := attachment
  unfold access
  cases key with
  | none => exact Act.ends_pure ⟨rfl, rfl⟩
  | some key =>
    apply Act.ends_get_bind
    rw [StencilCache.contains_eq]
    cases live : s.cache.find? key with
    | some buffer =>
      refine (CacheSession.ends_access rfl key).bind fun found t ok => Act.ends_pure ⟨?_, ?_⟩
      · rw [ok.1]
        exact (congrArg (·, _) live).trans (resolved_of_some live).symm
      · rw [ok.2]
        exact congrArg (Holding.mk · _) (used_of_some live).symm
    | none =>
      refine (ends_letGo rfl key).bind fun _ t ok => Act.ends_pure ⟨?_, ?_⟩
      · rw [ok.1]
        exact (resolved_of_none live).symm
      · rw [ok.2]
        exact congrArg (Holding.mk · _) (used_of_none live).symm

theorem ends_setClip (begun : s.holding = held) (attachment : StencilAttachment)
    (clip : ClipRecord) :
    (attachment.setClip clip : Act (CacheSession δ) (Bool × StencilAttachment)).Ends s
      (fun answer t => answer = ((attachment.resolved held.cache.find?).1.isSome,
          (attachment.resolved held.cache.find?).2) ∧
        t.holding = { held with cache := attachment.clipped clip held.cache })
      (fun _ _ => False) held.Survives := by
  unfold setClip
  refine (ends_access begun attachment).bind fun answer t ok => ?_
  obtain ⟨rfl, left⟩ := ok
  obtain ⟨key⟩ := attachment
  cases key with
  | none => exact Act.ends_pure ⟨rfl, left⟩
  | some key =>
    cases live : held.cache.find? key with
    | none =>
      rw [resolved_of_none live, clipped_of_none live]
      rw [used_of_none live] at left
      exact Act.ends_pure ⟨rfl, left⟩
    | some buffer =>
      rw [resolved_of_some live, clipped_of_some live]
      rw [used_of_some live] at left
      have cache : t.cache = held.cache.touch key := congrArg Holding.cache left
      have stored : (CacheSession.edit (·.store key { buffer with clip }) :
          Act (CacheSession δ) Unit).Ends t
          (fun _ u => u.holding =
            { t.holding with cache := t.cache.store key { buffer with clip } })
          (fun _ _ => False) held.Survives := rfl
      refine stored.bind fun _ u revised => Act.ends_pure ⟨rfl, ?_⟩
      rw [revised, left, cache]

/-- The key held, if its buffer is found and has the size and number of samples of a shape. -/
def fitting (attachment : StencilAttachment) (find : ArenaKey → Option StencilBuffer)
    (shape : StencilShape) : Option ArenaKey :=
  attachment.key.bind fun key => (find key).bind fun buffer =>
    if buffer.shape.width = shape.width ∧ buffer.shape.height = shape.height
      ∧ buffer.shape.samples = shape.samples then some key else none

/-- What attaching a buffer for a shape comes to. -/
inductive Attaches [Backend δ] (attachment : StencilAttachment) (shape : StencilShape)
    (held : Holding δ) : Except Fault (ArenaKey × StencilAttachment) → Holding δ → Prop where
  | kept {key : ArenaKey} (fits : attachment.fitting held.cache.find? shape = some key) :
      Attaches attachment shape held (.ok (key, attachment)) held
  | acquired {key : ArenaKey} {left : Holding δ}
      (unfit : attachment.fitting held.cache.find? shape = none)
      (acquires : held.Acquires shape (.ok key) left) :
      Attaches attachment shape held (.ok (key, ⟨some key⟩)) left
  | refused {fault : Fault} {left : Holding δ}
      (unfit : attachment.fitting held.cache.find? shape = none)
      (acquires : held.Acquires shape (.error fault) left) :
      Attaches attachment shape held (.error fault) left

theorem Attaches.coherent [Backend δ] {attachment : StencilAttachment} {shape : StencilShape}
    {left : Holding δ} {outcome : Except Fault (ArenaKey × StencilAttachment)}
    (attaches : attachment.Attaches shape held outcome left) (coherent : held.cache.Coherent) :
    left.cache.Coherent := by
  cases attaches with
  | kept fits => exact coherent
  | acquired unfit acquires => exact acquires.coherent coherent
  | refused unfit acquires => exact acquires.coherent coherent

theorem ends_attach [Backend δ] (begun : s.holding = held) (attachment : StencilAttachment)
    (shape : StencilShape) :
    (attachment.attach .release shape : Act (CacheSession δ) (ArenaKey × StencilAttachment)).Ends s
      (fun answer t => attachment.Attaches shape held (.ok answer) t.holding)
      (fun f t => attachment.Attaches shape held (.error f) t.holding) held.Survives := by
  subst begun
  unfold attach
  apply Act.ends_get_bind
  have seen : attachment.fitting? s.cache shape = attachment.fitting s.cache.find? shape := rfl
  rw [seen]
  cases fits : attachment.fitting s.cache.find? shape with
  | some key => exact Act.ends_pure (.kept fits)
  | none =>
    refine Act.Ends.bind ((CacheSession.ends_findOrCreate rfl shape).imp (fun _ _ ok => ok)
      (fun _ _ failed => .refused fits failed) fun _ cut => cut) fun key t ok => ?_
    exact Act.ends_pure (.acquired fits ok)

end StencilAttachment

end RenderCore
