import Assay.Main
import Assay.Proofs.Halt
import Assay.Proofs.Answer
import Assay.Proofs.Notes
import Assay.Proofs.Run
import Assay.Proofs.Packaged
import Assay.Proofs.Verdict
import Assay.Proofs.Requirement
import Assay.Proofs.Acceptance
import Assay.Proofs.Sweep
import Assay.Proofs.Breakage
import Assay.Proofs.Labels
import Assay.Proofs.Truth
import Assay.Proofs.Managed
import Assay.Proofs.Stale
import Assay.Proofs.Independence
import Assay.Proofs.Binding
import Assay.Proofs.Template
import Assay.Proofs.Markup
import Assay.Proofs.Manifest
import Assay.Proofs.Material
import Assay.Proofs.Pending
import Assay.Proofs.Layout
import Assay.Proofs.Canonical
import Assay.Proofs.Rendering
import Assay.Proofs.Comment
import Assay.Proofs.Bundle
import Assay.Proofs.Course
import Assay.Proofs.Channel
import Assay.Proofs.Reconciliation
import Assay.Proofs.Results
import Assay.Proofs.Search
import Assay.Proofs.Extraction
import Assay.Proofs.TestName
import Assay.Proofs.Precedence
import Assay.Proofs.Resolution
import Assay.Proofs.Shape
import Assay.Proofs.Record
import Assay.Proofs.Placeholder
import Assay.Proofs.Filling
import Assay.Proofs.Value
import Assay.Proofs.Disorder
import Assay.Proofs.Script
import Assay.Proofs.Loading
import Assay.Proofs.Document
import Assay.Proofs.Summary
import Assay.Proofs.Difference
import Assay.Proofs.Release
import Assay.Proofs.Reordering
import Assay.Proofs.Title
import Assay.Proofs.Spelling
import Assay.Proofs.Window
import Assay.Proofs.VersionText
import Assay.Proofs.Availability
import Assay.Proofs.Table
