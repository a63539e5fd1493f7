import LayeredConfig.Address
import LayeredConfig.Coercion
import LayeredConfig.Config
import LayeredConfig.Document
import LayeredConfig.EnvFile.Basic
import LayeredConfig.EnvFile.Duplicates
import LayeredConfig.EnvFile.Load
import LayeredConfig.Failure
import LayeredConfig.FileTree
import LayeredConfig.Group
import LayeredConfig.Layers
import LayeredConfig.Pattern.Basic
import LayeredConfig.Placeholder
import LayeredConfig.Proofs.EnvFile.Keys
import LayeredConfig.Proofs.EnvFile.Readers
import LayeredConfig.Proofs.FileTree.Growth
import LayeredConfig.Proofs.FileTree.Records
import LayeredConfig.Proofs.Load.Basic
import LayeredConfig.Proofs.Load.History
import LayeredConfig.Proofs.Load.Host
import LayeredConfig.Proofs.Load.Propagation
import LayeredConfig.Proofs.Load.Refusal
import LayeredConfig.Proofs.Maps
import LayeredConfig.Proofs.Placeholder
import LayeredConfig.Proofs.Resolve.Agree
import LayeredConfig.Proofs.Resolve.Bulk
import LayeredConfig.Proofs.Resolve.Circular
import LayeredConfig.Proofs.Resolve.Composed
import LayeredConfig.Proofs.Resolve.Failures
import LayeredConfig.Proofs.Resolve.InFlight
import LayeredConfig.Proofs.Resolve.Layers
import LayeredConfig.Proofs.Resolve.Operation
import LayeredConfig.Proofs.Resolve.Settled
import LayeredConfig.Proofs.Text.LetterCase
import LayeredConfig.Proofs.Table.Overlay
import LayeredConfig.Proofs.Table.Indexed
import LayeredConfig.Proofs.EnvFile.LineEnds
import LayeredConfig.Readout
import LayeredConfig.Reference
import LayeredConfig.Resolve
import LayeredConfig.Schema
import LayeredConfig.Setting
import LayeredConfig.Table
import LayeredConfig.Url.Parse
import LayeredConfig.Value
import LayeredConfig.Variables
import LayeredConfig.Proofs.EnvFile.Quoted
import LayeredConfig.Proofs.Reference.Expansion
import LayeredConfig.Proofs.Placeholder.Requests
import LayeredConfig.Proofs.Resolve.Soundness
import LayeredConfig.Proofs.EnvFile.Assignments
import LayeredConfig.Proofs.EnvFile.Comments
import LayeredConfig.Proofs.EnvFile.Repeats
import LayeredConfig.Proofs.Resolve.Journal
import LayeredConfig.Proofs.Schema.Groups
import LayeredConfig.Proofs.Readout.Places
import LayeredConfig.Proofs.Resolve.Causes
import LayeredConfig.Proofs.Readout.Table
import LayeredConfig.Proofs.Resolve.Influence
import LayeredConfig.Proofs.Resolve.Fields
import LayeredConfig.Proofs.Resolve.Shadowing
import LayeredConfig.Proofs.Resolve.Additions
import LayeredConfig.Proofs.Load.Reloading
import LayeredConfig.Proofs.Schema.Registry
import LayeredConfig.Proofs.Resolve.Gathering
import LayeredConfig.Proofs.Resolve.Fallbacks
import LayeredConfig.Proofs.Resolve.Deferral
import LayeredConfig.Proofs.EnvFile.Grammar
import LayeredConfig.Proofs.EnvFile.Bare
import LayeredConfig.Proofs.EnvFile.SingleQuoted
import LayeredConfig.Proofs.Reference.Unclosed
import LayeredConfig.Proofs.Resolve.Members
import LayeredConfig.Proofs.Coercion.Integer
import LayeredConfig.Proofs.EnvFile.Outline
import LayeredConfig.Proofs.Coercion.Addresses
