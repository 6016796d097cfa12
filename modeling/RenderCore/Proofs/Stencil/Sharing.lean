import RenderCore.Proofs.Stencil.ScratchForms
import RenderCore.Proofs.Stencil.WeakKeys

/-!
# Which buffer a render target gets

A look-up answers the key of a cached buffer of the wanted form. So does attaching, if the key that
the attachment brought belongs to this cache. As long as buffers come into the cache in no other
way, no form has two of them, and attaching gives the buffer that a look-up gives.
-/

namespace RenderCore

variable {δ α : Type}

namespace StencilCache

variable {cache : StencilCache} {key : ArenaKey} {shape : StencilShape}

/-- The key finds a cached buffer of the form of a shape. -/
def Serves (cache : StencilCache) (key : ArenaKey) (shape : StencilShape) : Prop :=
  ∃ buffer, cache.find? key = some buffer ∧ buffer.header.lifeCycle = .cached ∧
    buffer.shape.SameForm shape

theorem not_serves_of_uncached
    (uncached : (cache.find? key).map (·.header.lifeCycle) = some .uncached) :
    ¬ cache.Serves key shape := by
  rintro ⟨buffer, live, cached, -⟩
  rw [live, Option.map_some, cached] at uncached
  contradiction

/-- The index lists the cached buffers of a form. -/
theorem Coherent.mem_listed_iff (coherent : cache.Coherent) :
    key ∈ cache.index.listed shape.scratchKey ↔ cache.Serves key shape := by
  rw [coherent.indexed.listed]
  refine exists_congr fun buffer => and_congr_right fun live => ?_
  exact (coherent.indexed.keyed key buffer live).scratchKey_iff

theorem Coherent.serves_of_findScratch (coherent : cache.Coherent)
    (found : (cache.findScratch shape.scratchKey).1 = some key) : cache.Serves key shape := by
  rw [findScratch_fst] at found
  exact coherent.mem_listed_iff.mp (mem_of_mostRecent? found)

/-- Of some keys one was used last. -/
theorem mostRecent?_ne_none {keys : List ArenaKey} (member : key ∈ keys) :
    cache.mostRecent? keys ≠ none := by
  cases keys with
  | nil => contradiction
  | cons first rest =>
    rw [mostRecent?]
    split
    · simp
    · split <;> simp

theorem Coherent.findScratch_of_serves (coherent : cache.Coherent)
    (serves : cache.Serves key shape) :
    ∃ found, (cache.findScratch shape.scratchKey).1 = some found := by
  rw [findScratch_fst]
  exact Option.ne_none_iff_exists'.mp
    (mostRecent?_ne_none (coherent.mem_listed_iff.mpr serves))

theorem serves_congr {other : StencilCache} (same : other.find? key = cache.find? key) :
    other.Serves key shape ↔ cache.Serves key shape := by
  rw [Serves, same, Serves]

end StencilCache

open StencilCache

/-- An attachment answers its own key only for a buffer of the form. -/
theorem StencilAttachment.fitting_eq_some_iff {attachment : StencilAttachment}
    {find : ArenaKey → Option StencilBuffer} {shape : StencilShape} {key : ArenaKey} :
    attachment.fitting find shape = some key ↔
      attachment.key = some key ∧ ∃ buffer, find key = some buffer ∧
        buffer.shape.SameForm shape := by
  unfold fitting StencilShape.SameForm
  simp only [Option.bind_eq_some_iff, Option.ite_none_right_eq_some, Option.some.injEq]
  constructor
  · rintro ⟨own, held, buffer, live, form, rfl⟩
    exact ⟨held, buffer, live, form⟩
  · rintro ⟨held, buffer, live, form⟩
    exact ⟨key, held, buffer, live, form, rfl⟩

section effects

variable [Backend δ] {held left : Holding δ} {shape : StencilShape} {key : ArenaKey}

/-- What is looked up, or else made, is a cached buffer of the form. -/
theorem Holding.Acquires.serves (acquires : held.Acquires shape (.ok key) left)
    (coherent : held.cache.Coherent) : left.cache.Serves key shape := by
  cases acquires with
  | hit found =>
    exact (serves_congr (find?_touch _ _ _)).mpr (coherent.serves_of_findScratch found)
  | miss absent allocated =>
    cases allocated with
    | @made id storage backend given =>
      refine ⟨.made id .cached (some storage) shape, ?_, rfl, rfl, rfl, rfl⟩
      -- The new buffer is spared when others have to go for it.
      rw [Holding.cache_evictAll, find?_dischargeAll, if_neg (not_mem_excess _ _),
        find?_lodge coherent.tidy, if_pos rfl]

/-- A buffer that is there is answered, and the backend is not asked. -/
theorem Holding.Acquires.hit_of_found {outcome : Except Fault ArenaKey}
    (acquires : held.Acquires shape outcome left)
    (found : (held.cache.findScratch shape.scratchKey).1 = some key) :
    outcome = .ok key ∧ left.backend = held.backend := by
  cases acquires with
  | hit found' => exact ⟨congrArg Except.ok (Option.some.inj (found'.symm.trans found)), rfl⟩
  | miss absent allocated => nomatch absent.symm.trans found
  | refused absent allocated => nomatch absent.symm.trans found

/-- What is attached is a buffer of the form. -/
theorem StencilAttachment.Attaches.answers {attachment attached : StencilAttachment}
    (attaches : attachment.Attaches shape held (.ok (key, attached)) left)
    (coherent : held.cache.Coherent) :
    left.cache.Serves key shape ∨ attachment.key = some key ∧ left = held ∧
      ∃ buffer, held.cache.find? key = some buffer ∧ buffer.shape.SameForm shape := by
  cases attaches with
  | kept fits =>
    obtain ⟨own, live⟩ := fitting_eq_some_iff.mp fits
    exact .inr ⟨own, rfl, live⟩
  | acquired unfit acquires => exact .inl (acquires.serves coherent)

end effects

/-! ## Keys that a cache handed out -/

namespace Operation

/-- The operation looked a buffer up, or made one, and answered its key. Attaching does so, too,
    where it answers another key than the attachment had. -/
def Grants : Operation δ α → Except Fault α → ArenaKey → Prop
  | .findOrCreate _, .ok own, key => own = key
  | .attach attachment _, .ok (own, _), key => own = key ∧ attachment.key ≠ some key
  | _, _, _ => False

/-- The operation brings a buffer into the cache that was not looked up. -/
def Supplies : Operation δ α → Prop
  | .insert _ _ => True
  | .allocate _ _ => True
  | _ => False

end Operation

/-- The key was answered by a look-up, and not given out again since. -/
def Granted (steps : List (Step δ)) (key : ArenaKey) : Prop :=
  ∃ later step earlier, steps = later ++ step :: earlier ∧
    step.operation.Grants step.outcome key ∧ ∀ between ∈ later, key ∉ between.issued

variable [Backend δ] {budget : CacheBudget} {session : Session δ} {work : CacheSession δ}
  {steps : List (Step δ)}

theorem Operation.Effect.cached_of_grants {operation : Operation δ α} {held left : Holding δ}
    {outcome : Except Fault α} {key : ArenaKey} (effect : operation.Effect held outcome left)
    (coherent : held.cache.Coherent) (grants : operation.Grants outcome key) :
    ∃ buffer, left.cache.find? key = some buffer ∧ buffer.header.lifeCycle = .cached := by
  have cached : ∀ {shape}, left.cache.Serves key shape →
      ∃ buffer, left.cache.find? key = some buffer ∧ buffer.header.lifeCycle = .cached :=
    fun ⟨buffer, live, cached, _⟩ => ⟨buffer, live, cached⟩
  cases outcome with
  | error fault => cases operation <;> exact grants.elim
  | ok answer =>
    cases operation with
    | findOrCreate shape =>
      obtain rfl : answer = key := grants
      exact cached (Holding.Acquires.serves effect coherent)
    | attach attachment shape =>
      obtain ⟨rfl, other⟩ := grants
      rcases StencilAttachment.Attaches.answers effect coherent with serves | ⟨own, -⟩
      · exact cached serves
      · exact absurd own other
    | _ => exact grants.elim

/-- A key that a look-up answered finds a cached buffer, or nothing, until it is given out again. -/
theorem Run.cached_of_granted {key : ArenaKey} {buffer : StencilBuffer}
    (run : Run .release ⟨{ budget }, session⟩ steps work) (granted : Granted steps key)
    (live : work.cache.find? key = some buffer) : buffer.header.lifeCycle = .cached := by
  obtain ⟨later, step, earlier, rfl, grants, unissued⟩ := granted
  induction later generalizing work buffer with
  | nil =>
    cases run with
    | cons run completes =>
      obtain ⟨found, live', cached⟩ :=
        (Step.effect completes).cached_of_grants run.coherent grants
      obtain rfl := Option.some.inj (live'.symm.trans live)
      exact cached
  | cons last later ih =>
    cases run with
    | cons run completes =>
      have evolves := Step.evolves run.coherent completes
      have since : ∀ between ∈ later, key ∉ between.issued :=
        fun between member => unissued between (List.mem_cons_of_mem _ member)
      cases before : last.before.cache.find? key with
      | none =>
        have gone := evolves.stale key before (unissued last List.mem_cons_self)
        rw [live] at gone
        contradiction
      | some held =>
        rcases evolves.kept key held before with ⟨held', live', same⟩ | ⟨gone, -⟩
        · obtain rfl := Option.some.inj (live'.symm.trans live)
          exact same.lifeCycle.trans (ih before run since)
        · rw [live] at gone
          contradiction

/-! ## One buffer of each form -/

namespace StencilCache

/-- All buffers are cached, and no two of them have the same form. -/
structure Sole (cache : StencilCache) : Prop where
  cached : ∀ key buffer, cache.find? key = some buffer → buffer.header.lifeCycle = .cached
  unique : ∀ key other buffer buffer', cache.find? key = some buffer →
    cache.find? other = some buffer' → buffer.shape.SameForm buffer'.shape → key = other

variable {cache other : StencilCache}

/-- Fewer buffers, none of them new. -/
theorem Sole.shrink (sole : cache.Sole)
    (kept : ∀ key buffer, other.find? key = some buffer →
      ∃ before, cache.find? key = some before ∧ before.Same buffer) : other.Sole where
  cached key buffer live := by
    obtain ⟨before, found, same⟩ := kept key buffer live
    exact same.lifeCycle.trans (sole.cached key before found)
  unique key key' buffer buffer' live live' form := by
    obtain ⟨before, found, same⟩ := kept key buffer live
    obtain ⟨before', found', same'⟩ := kept key' buffer' live'
    rw [same.shape, same'.shape] at form
    exact sole.unique key key' before before' found found' form

/-- A cached buffer of a form that no other one has. -/
theorem Sole.lodge (sole : cache.Sole) (coherent : cache.Coherent) {shape : StencilShape}
    {buffer : StencilBuffer} (cached : buffer.header.lifeCycle = .cached)
    (form : buffer.shape = shape) (absent : ∀ key, ¬ cache.Serves key shape) :
    (cache.lodge buffer).2.Sole := by
  have apart : ∀ key held, cache.find? key = some held → ¬ held.shape.SameForm buffer.shape := by
    intro key held live same
    exact absent key ⟨held, live, sole.cached key held live, form ▸ same⟩
  constructor
  · intro key held live
    rw [find?_lodge coherent.tidy] at live
    split at live
    · exact Option.some.inj live ▸ cached
    · exact sole.cached key held live
  · intro key key' held held' live live' same
    rw [find?_lodge coherent.tidy] at live live'
    split at live <;> split at live'
    · next first second => exact first.trans second.symm
    · rw [← Option.some.inj live] at same
      exact absurd same.symm (apart key' held' live')
    · rw [← Option.some.inj live'] at same
      exact absurd same (apart key held live)
    · exact sole.unique key key' held held' live live' same

end StencilCache

theorem Holding.Acquires.sole {shape : StencilShape} {outcome : Except Fault ArenaKey}
    {held left : Holding δ} (acquires : held.Acquires shape outcome left)
    (coherent : held.cache.Coherent) (sole : held.cache.Sole) : left.cache.Sole := by
  cases acquires with
  | hit found =>
    exact sole.shrink fun key buffer live =>
      ⟨buffer, (find?_touch _ _ _).symm.trans live, .refl buffer⟩
  | refused absent allocated =>
    rw [allocated.cache_of_error]
    exact sole
  | miss absent allocated =>
    cases allocated with
    | @made id storage backend given =>
      have none_serves : ∀ key, ¬ held.cache.Serves key shape := by
        intro key serves
        obtain ⟨found, here⟩ := coherent.findScratch_of_serves serves
        rw [absent] at here
        contradiction
      have lodged : (held.cache.lodge (.made id .cached (some storage) shape)).2.Sole :=
        sole.lodge coherent rfl rfl none_serves
      rw [Holding.cache_evictAll]
      refine lodged.shrink fun key buffer live => ⟨buffer, ?_, .refl buffer⟩
      exact ((lost_dischargeAll _ _ key).resolve_left (by simp [live])).symm.trans live

/-- No key was given out, so that no buffer is new. -/
theorem StencilCache.Evolves.sole {cache other : StencilCache} {brought : StencilBuffer → Prop}
    {removed : ArenaKey → Prop} (evolves : cache.Evolves other [] brought removed)
    (sole : cache.Sole) : other.Sole := by
  refine sole.shrink fun key buffer live => ?_
  cases before : cache.find? key with
  | none =>
    rw [evolves.stale key before (by simp)] at live
    contradiction
  | some held =>
    rcases evolves.kept key held before with ⟨held', live', same⟩ | ⟨gone, -⟩
    · exact ⟨held, rfl, Option.some.inj (live'.symm.trans live) ▸ same⟩
    · rw [live] at gone
      contradiction

theorem Operation.Effect.sole {operation : Operation δ α} {held left : Holding δ}
    {outcome : Except Fault α} (effect : operation.Effect held outcome left)
    (coherent : held.cache.Coherent) (lookedUp : ¬ operation.Supplies) (sole : held.cache.Sole) :
    left.cache.Sole := by
  have evolves := effect.evolves coherent
  cases operation with
  | insert buffer keyed => exact absurd trivial lookedUp
  | allocate lifeCycle shape => exact absurd trivial lookedUp
  | findOrCreate shape => exact Holding.Acquires.sole effect coherent sole
  | attach attachment shape =>
    cases effect with
    | kept fits => exact sole
    | acquired unfit acquires => exact acquires.sole coherent sole
    | refused unfit acquires => exact acquires.sole coherent sole
  | _ => exact evolves.sole sole

theorem Run.sole (run : Run .release ⟨{ budget }, session⟩ steps work)
    (lookedUp : ∀ step ∈ steps, ¬ step.operation.Supplies) : work.cache.Sole := by
  induction run with
  | nil => exact ⟨by simp [StencilCache.find?], by simp [StencilCache.find?]⟩
  | @cons step steps run completes ih =>
    have before := ih fun other member => lookedUp other (List.mem_cons_of_mem _ member)
    exact (Step.effect completes).sole run.coherent (lookedUp step List.mem_cons_self) before

/-! ## Attaching and looking up -/

/-- A look-up panics only through a logger or through the backend. -/
theorem CacheSession.ends_findOrCreate_cut {shape : StencilShape} {answer : ArenaKey → _ → Prop}
    {fault : Fault → _ → Prop}
    (ends : (findOrCreate .release shape : Act (CacheSession δ) ArenaKey).Ends work answer fault
      fun _ => True) :
    (findOrCreate .release shape : Act (CacheSession δ) ArenaKey).Ends work answer fault
      fun _ => ¬ (Backend.Steady δ ∧ work.Reliable) := by
  by_cases steady : Backend.Steady δ
  · exact (ends.unfit (steady_findOrCreate steady shape)).cut fun _ cut both => cut.2 both.2
  · exact ends.cut fun _ _ both => steady both.1

namespace StencilAttachment

variable {attachment : StencilAttachment} {shape : StencilShape}

theorem attach_of_fits {key : ArenaKey}
    (fits : attachment.fitting work.cache.find? shape = some key) :
    (attachment.attach .release shape).outcome work = (.ok (key, attachment), work) := by
  have found : attachment.fitting? work.cache shape = some key := fits
  unfold attach
  rw [Act.outcome_get_bind, found]
  rfl

theorem attach_of_unfit (unfit : attachment.fitting work.cache.find? shape = none) :
    (attachment.attach .release shape).outcome work =
      (((CacheSession.findOrCreate .release shape).outcome work).1.map fun key => (key, ⟨some key⟩),
        ((CacheSession.findOrCreate .release shape).outcome work).2) := by
  have missing : attachment.fitting? work.cache shape = none := unfit
  unfold attach
  rw [Act.outcome_get_bind, missing, ← Act.outcome_bind_pure]

/-- If there is one buffer of each form, attaching gives the buffer that a look-up gives, and leaves
    the backend as the look-up does. -/
theorem ends_lookup_of_sole (attachment : StencilAttachment) (shape : StencilShape)
    (coherent : work.cache.Coherent) (sole : work.cache.Sole) :
    (CacheSession.findOrCreate .release shape).Ends work
      (fun key left => ∃ attached left',
        (attachment.attach .release shape).outcome work = (.ok (key, attached), left') ∧
          left'.session.backend = left.session.backend)
      (fun fault left => ∃ left',
        (attachment.attach .release shape).outcome work = (.error (.fault fault), left') ∧
          left'.session.backend = left.session.backend)
      (fun _ => ¬ (Backend.Steady δ ∧ work.Reliable)) := by
  apply CacheSession.ends_findOrCreate_cut
  cases fits : attachment.fitting work.cache.find? shape with
  | none =>
    rw [attach_of_unfit fits, Act.ends_iff_outcome]
    rcases (CacheSession.findOrCreate .release shape).outcome work with
      ⟨(fault | panic) | key, left⟩
    · exact ⟨left, rfl, rfl⟩
    · trivial
    · exact ⟨_, left, rfl, rfl⟩
  | some key =>
    obtain ⟨-, buffer, live, form⟩ := fitting_eq_some_iff.mp fits
    have serves : work.cache.Serves key shape := ⟨buffer, live, sole.cached key buffer live, form⟩
    obtain ⟨first, found⟩ := coherent.findScratch_of_serves serves
    rw [attach_of_fits fits]
    -- The look-up finds a buffer of the form, and there is only the one that is held.
    obtain ⟨other, live', -, form'⟩ := coherent.serves_of_findScratch found
    obtain rfl := sole.unique key first buffer other live live' (form.trans form'.symm)
    refine (CacheSession.ends_findOrCreate rfl shape).imp (fun answer left acquires => ?_)
      (fun fault left acquires => ?_) fun _ _ => trivial
    · obtain ⟨answered, backend⟩ := acquires.hit_of_found found
      obtain rfl := Except.ok.inj answered
      exact ⟨attachment, work, rfl, backend.symm⟩
    · nomatch (acquires.hit_of_found found).1

end StencilAttachment

/-- A look-up answers the key of a cached buffer of the wanted form. Attaching answers the key of a
    buffer of that form, and it is a cached one if the key that the attachment brought, if any, was
    answered by a look-up of this cache and not given out again since. If all buffers came into the
    cache by look-ups, attaching always gives a cached one, no form has two buffers, and attaching
    and looking up end alike, in answer or fault and for the backend. -/
theorem lookup_serves_form (reached : Reachable .release budget work) :
    (∀ shape key left, (CacheSession.findOrCreate .release shape).outcome work = (.ok key, left) →
      left.cache.Serves key shape) ∧
    (∀ (attachment attached : StencilAttachment) shape key left,
      (attachment.attach .release shape).outcome work = (.ok (key, attached), left) →
        ∃ buffer, left.cache.find? key = some buffer ∧ buffer.shape.SameForm shape) ∧
    ∀ session steps, Run .release ⟨{ budget }, session⟩ steps work →
      (∀ (attachment attached : StencilAttachment) shape key left,
        (attachment.attach .release shape).outcome work = (.ok (key, attached), left) →
        (∀ own, attachment.key = some own → Granted steps own) → left.cache.Serves key shape) ∧
      ((∀ step ∈ steps, ¬ step.operation.Supplies) →
        (∀ (attachment attached : StencilAttachment) shape key left,
          (attachment.attach .release shape).outcome work = (.ok (key, attached), left) →
            left.cache.Serves key shape) ∧
        (∀ key other buffer buffer', work.cache.find? key = some buffer →
          work.cache.find? other = some buffer' → buffer.shape.SameForm buffer'.shape →
            key = other) ∧
        ∀ (attachment : StencilAttachment) shape,
          (CacheSession.findOrCreate .release shape).Ends work
            (fun key left => ∃ attached left',
              (attachment.attach .release shape).outcome work = (.ok (key, attached), left') ∧
                left'.session.backend = left.session.backend)
            (fun fault left => ∃ left',
              (attachment.attach .release shape).outcome work = (.error (.fault fault), left') ∧
                left'.session.backend = left.session.backend)
            (fun _ => ¬ (Backend.Steady δ ∧ work.Reliable))) := by
  have coherent := reached.coherent
  have attaches : ∀ (attachment attached : StencilAttachment) shape key left,
      (attachment.attach .release shape).outcome work = (.ok (key, attached), left) →
        left.cache.Serves key shape ∨ attachment.key = some key ∧
          ∃ buffer, work.cache.find? key = some buffer ∧ left.cache.find? key = some buffer ∧
            buffer.shape.SameForm shape := by
    intro attachment attached shape key left answered
    have ends := StencilAttachment.ends_attach rfl (s := work) attachment shape
    rw [Act.ends_iff_outcome, answered] at ends
    rcases ends.answers coherent with serves | ⟨own, same, buffer, live, form⟩
    · exact .inl serves
    · have cache : left.cache = work.cache := congrArg Holding.cache same
      exact .inr ⟨own, buffer, live, cache ▸ live, form⟩
  refine ⟨fun shape key left answered => ?_, fun attachment attached shape key left answered => ?_,
    fun session steps run => ⟨?_, fun lookedUp => ⟨?_, ?_, ?_⟩⟩⟩
  · have ends := CacheSession.ends_findOrCreate rfl (s := work) shape
    rw [Act.ends_iff_outcome, answered] at ends
    exact ends.serves coherent
  · rcases attaches attachment attached shape key left answered with serves | ⟨-, buffer, -, live⟩
    · obtain ⟨buffer, live, -, form⟩ := serves
      exact ⟨buffer, live, form⟩
    · exact ⟨buffer, live⟩
  · intro attachment attached shape key left answered granted
    rcases attaches attachment attached shape key left answered with
      serves | ⟨own, buffer, live, live', form⟩
    · exact serves
    · exact ⟨buffer, live', run.cached_of_granted (granted key own) live, form⟩
  · intro attachment attached shape key left answered
    rcases attaches attachment attached shape key left answered with
      serves | ⟨-, buffer, live, live', form⟩
    · exact serves
    · exact ⟨buffer, live', (run.sole lookedUp).cached key buffer live, form⟩
  · exact (run.sole lookedUp).unique
  · intro attachment shape
    exact attachment.ends_lookup_of_sole shape coherent (run.sole lookedUp)

/-- Attaching again gives the buffer that was attached first. -/
theorem lookup_serves_after_attach :
    ∃ (steps : List (Step Software)) (work left : CacheSession Software),
      Reachable .release {} work ∧ Run .release ⟨{ budget := {} }, .software none⟩ steps work ∧
        Granted steps ⟨1, 1⟩ ∧
        ((⟨some ⟨1, 1⟩⟩ : StencilAttachment).attach .release ⟨64, 32, 8, 4⟩).outcome work =
          (.ok (⟨1, 1⟩, ⟨some ⟨1, 1⟩⟩), left) ∧
        left.cache.Serves ⟨1, 1⟩ ⟨64, 32, 8, 4⟩ := by
  have start : Run .release
      (⟨{ budget := {} }, .software none⟩ : CacheSession Software) [] _ := .nil
  have granted : Granted [Step.taken .release (.attach {} ⟨64, 32, 8, 4⟩)
      (.ok (⟨1, 1⟩, ⟨some ⟨1, 1⟩⟩)) ⟨{ budget := {} }, .software none⟩] ⟨1, 1⟩ :=
    ⟨[], _, [], rfl, ⟨rfl, nofun⟩, by simp⟩
  obtain ⟨steps, work, run, granted, again⟩ : ∃ steps work,
      Run .release (⟨{ budget := {} }, .software none⟩ : CacheSession Software) steps work ∧
        Granted steps ⟨1, 1⟩ ∧
        (((⟨some ⟨1, 1⟩⟩ : StencilAttachment).attach .release ⟨64, 32, 8, 4⟩).outcome work).1 =
          .ok (⟨1, 1⟩, ⟨some ⟨1, 1⟩⟩) :=
    ⟨_, _, start.next (.attach {} ⟨64, 32, 8, 4⟩) (.ok (⟨1, 1⟩, ⟨some ⟨1, 1⟩⟩)) (by decide +kernel),
      granted, by decide +kernel⟩
  have answered : (StencilAttachment.attach .release ⟨some ⟨1, 1⟩⟩ ⟨64, 32, 8, 4⟩).outcome work =
      (.ok (⟨1, 1⟩, ⟨some ⟨1, 1⟩⟩),
        ((StencilAttachment.attach .release ⟨some ⟨1, 1⟩⟩ ⟨64, 32, 8, 4⟩).outcome work).2) :=
    Prod.ext again rfl
  refine ⟨steps, work, _, run.reachable, run, granted, answered, ?_⟩
  refine ((lookup_serves_form run.reachable).2.2 _ _ run).1 _ _ _ _ _ answered fun own held => ?_
  obtain rfl := Option.some.inj held
  exact granted

/-- An attachment that is kept while its cache is replaced by a new one finds whatever has its key
    there, which may be an uncached buffer. -/
theorem attach_foreign_key :
    let shape : StencilShape := ⟨64, 32, 8, 4⟩
    let first := (({} : StencilAttachment).attach .release shape).outcome
      (⟨{ budget := {} }, .software none⟩ : CacheSession Software)
    let second := (CacheSession.allocate .release .uncached shape).outcome
      ⟨{ budget := {} }, first.2.session⟩
    let last := ((⟨some ⟨1, 1⟩⟩ : StencilAttachment).attach .release shape).outcome second.2
    first.1 = .ok (⟨1, 1⟩, ⟨some ⟨1, 1⟩⟩) ∧ Reachable .release {} second.2 ∧
      last.1 = .ok (⟨1, 1⟩, ⟨some ⟨1, 1⟩⟩) ∧ ¬ last.2.cache.Serves ⟨1, 1⟩ shape := by
  intro shape first second last
  have reached : ∀ session : Session Software, Reachable .release {}
      ((CacheSession.allocate .release .uncached shape).outcome ⟨{ budget := {} }, session⟩).2 :=
    fun session => .step (.allocate .uncached shape) (.start session) (Prod.eta _).symm
  refine ⟨by decide +kernel, reached first.2.session, by decide +kernel, ?_⟩
  exact not_serves_of_uncached (by decide +kernel)

end RenderCore
