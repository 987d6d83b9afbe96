import ComponentFormat.Host.Endpoint
import ComponentFormat.Engine.Reindent
import ComponentFormat.Engine.Scripted
import ComponentFormat.Formatting.Service
import ComponentFormat.Engine.Command
import ComponentFormat.Files.Spelling
import ComponentFormat.Proofs.Idempotence
import ComponentFormat.Proofs.Records
import ComponentFormat.Proofs.Preservation
import ComponentFormat.Proofs.Containment
import ComponentFormat.Proofs.Layering
import ComponentFormat.Proofs.Bystanders
import ComponentFormat.Proofs.Uniformity
import ComponentFormat.Proofs.Precedence
import ComponentFormat.Proofs.Dialect
import ComponentFormat.Proofs.Amendment
import ComponentFormat.Proofs.Interpolation
import ComponentFormat.Proofs.Acceptance
import ComponentFormat.Proofs.Offsets
import ComponentFormat.Proofs.TagLayout
import ComponentFormat.Proofs.LeadIn
import ComponentFormat.Proofs.LowerCase
import ComponentFormat.Proofs.RawText
import ComponentFormat.Proofs.CommandLine
import ComponentFormat.Proofs.Export
import ComponentFormat.Proofs.Emptied
import ComponentFormat.Proofs.Storing
import ComponentFormat.Proofs.Completion
import ComponentFormat.Proofs.Keys
import ComponentFormat.Proofs.Turns
