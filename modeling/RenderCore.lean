import RenderCore.Engine
import RenderCore.Glsl.Construction
import RenderCore.Gpu.Recorder
import RenderCore.Gpu.Software
import RenderCore.Proofs.Glsl.StageLife
import RenderCore.Proofs.Stencil.ClipHistory
import RenderCore.Proofs.Stencil.Sharing
import RenderCore.Proofs.Stencil.CoherentStates
import RenderCore.Proofs.Stencil.LeastRecentlyUsed
import RenderCore.Proofs.Stencil.StorageOwnership
import RenderCore.Proofs.Stencil.WeakKeys
import RenderCore.Proofs.Glsl.StageEdits
import RenderCore.Proofs.Glsl.SourceHistory
import RenderCore.Proofs.Glsl.NewNames
import RenderCore.Proofs.Glsl.CallEffects
import RenderCore.Proofs.Glsl.Workshops
import RenderCore.Proofs.Glsl.DistinctNames
import RenderCore.Proofs.Glsl.AttributeSlots
import RenderCore.Proofs.Glsl.EmittedTransform
import RenderCore.Proofs.Journal.Notes
import RenderCore.Proofs.Stencil.Losses
import RenderCore.Proofs.Engine.Plans
import RenderCore.Proofs.Stencil.Reporting
import RenderCore.Proofs.Engine.Runs
import RenderCore.Proofs.Engine.Owners
import RenderCore.Proofs.Engine.PanicContainment
import RenderCore.Proofs.Engine.LastHandle
import RenderCore.Proofs.Engine.KeysAcrossCaches
import RenderCore.Proofs.Engine.Ledger
import RenderCore.Proofs.Engine.Registration
import RenderCore.Proofs.Stencil.BufferLives
import RenderCore.Proofs.Stencil.AttachmentRecency
import RenderCore.Proofs.Stencil.BufferChanges
import RenderCore.Proofs.Stencil.ReusedBuffers
import RenderCore.Proofs.Effect.Twins
import RenderCore.Proofs.Glsl.Compilations
import RenderCore.Proofs.Gpu.SoftwareShaders
import RenderCore.Proofs.Glsl.Continuations
import RenderCore.Proofs.Stencil.ScratchDigests
import RenderCore.Proofs.Stencil.RefusedAllocations
import RenderCore.Proofs.Stencil.AccountedStates
import RenderCore.Proofs.Stencil.PurgeRounds
import RenderCore.Proofs.Stencil.BudgetSteps
import RenderCore.Proofs.Glsl.NameSearch
import RenderCore.Proofs.Glsl.DeclarationReading
import RenderCore.Proofs.Gpu.OutlineChecks
import RenderCore.Proofs.Glsl.AcceptedSources
import RenderCore.Proofs.Stencil.ByteOverflows
import RenderCore.Proofs.Stencil.DebugStops
import RenderCore.Proofs.Clip.IssueOrder
import RenderCore.Proofs.Clip.Translation
import RenderCore.Proofs.Clip.Extents
import RenderCore.Proofs.Glsl.UniformHandles
import RenderCore.Proofs.Stencil.EmptiedCaches
