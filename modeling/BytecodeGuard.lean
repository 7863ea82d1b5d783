import BytecodeGuard.Pipeline.Class
import BytecodeGuard.Proofs.Depth.Soundness
import BytecodeGuard.Proofs.Guard.Transparent
import BytecodeGuard.Proofs.Depth.Completeness
import BytecodeGuard.Proofs.Guard.Entry
import BytecodeGuard.Proofs.Builder.Append
import BytecodeGuard.Proofs.Builder.Failure
import BytecodeGuard.Proofs.Builder.Calls
import BytecodeGuard.Proofs.Emission.Placement
import BytecodeGuard.Proofs.Pipeline.Isolation
import BytecodeGuard.Proofs.Guard.Findings
import BytecodeGuard.Proofs.Native.Body
import BytecodeGuard.Proofs.Emission.Site
import BytecodeGuard.Proofs.Pipeline.Threshold
import BytecodeGuard.Proofs.Guard.Repeated
import BytecodeGuard.Proofs.Emission.Transcript
import BytecodeGuard.Proofs.Builder.Labels
import BytecodeGuard.Proofs.Emission.Fresh
import BytecodeGuard.Proofs.Message.History
import BytecodeGuard.Proofs.Builder.Known
import BytecodeGuard.Proofs.Descriptor.FieldType
import BytecodeGuard.Proofs.Descriptor.MethodShape
import BytecodeGuard.Proofs.Depth.Arrivals
import BytecodeGuard.Proofs.Pipeline.Validation
import BytecodeGuard.Proofs.Native.Composition
import BytecodeGuard.Proofs.Pipeline.ExtraStack
import BytecodeGuard.Proofs.Message.Summary
import BytecodeGuard.Proofs.Handler.History
import BytecodeGuard.Proofs.TypeName.Display
