import AttributeRelease.Json.Reader
import AttributeRelease.Main
import AttributeRelease.Proofs.Policy.Release
import AttributeRelease.Proofs.Resolution.Agreement
import AttributeRelease.Proofs.Resolution.Needs
import AttributeRelease.Proofs.Resolution.Course
import AttributeRelease.Proofs.Resolution.Trace
import AttributeRelease.Proofs.Policy.Report
import AttributeRelease.Proofs.Resolution.Failure
import AttributeRelease.Proofs.Policy.Definite
import AttributeRelease.Proofs.Policy.Information
import AttributeRelease.Proofs.Provenance
import AttributeRelease.Proofs.Maps
import AttributeRelease.Proofs.Resolution.Requested
import AttributeRelease.Proofs.Listing
import AttributeRelease.Proofs.Policy.Built
import AttributeRelease.Proofs.Policy.Exact
import AttributeRelease.Proofs.Policy.Untargeted
import AttributeRelease.Proofs.Policy.Insertion
import AttributeRelease.Proofs.Query.Rendering
import AttributeRelease.Proofs.Query.Escaping
import AttributeRelease.Proofs.Codec.Fields
import AttributeRelease.Proofs.Codec.Values
import AttributeRelease.Proofs.Codec.Matchers
import AttributeRelease.Proofs.Codec.Declarations
import AttributeRelease.Proofs.Regex.Classes
import AttributeRelease.Proofs.Regex.Matching
import AttributeRelease.Proofs.Regex.Choices
import AttributeRelease.Proofs.Regex.Groups
import AttributeRelease.Proofs.Regex.Whole
import AttributeRelease.Proofs.Resolution.Circle
import AttributeRelease.Proofs.Policy.Reordering
import AttributeRelease.Proofs.Resolution.Outputs
import AttributeRelease.Proofs.Resolution.Channels
import AttributeRelease.Proofs.Query.Malformed
import AttributeRelease.Proofs.Resolution.Fallback
import AttributeRelease.Proofs.Policy.Faults
import AttributeRelease.Proofs.Policy.Rewriting
import AttributeRelease.Proofs.Policy.Meaning
import AttributeRelease.Proofs.Policy.Levels
import AttributeRelease.Proofs.Policy.Parties
import AttributeRelease.Proofs.Resolution.Gathering
import AttributeRelease.Proofs.Resolution.Merging
import AttributeRelease.Proofs.Resolution.Registration
import AttributeRelease.Proofs.Resolution.Fixed
import AttributeRelease.Proofs.Policy.Positions
import AttributeRelease.Proofs.History
