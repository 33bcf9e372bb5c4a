import WorkTree.BranchName.Grammar
import WorkTree.Cache.Request
import WorkTree.Listing.Description
import WorkTree.Log.Setup
import WorkTree.Session.Request
import WorkTree.Settings.Attributes
import WorkTree.Settings.Standard
import WorkTree.Proofs.Session.Alterations
import WorkTree.Proofs.Session.Slots
import WorkTree.Proofs.Session.Calls
import WorkTree.Proofs.Session.History
import WorkTree.Proofs.Session.Provenance
import WorkTree.Proofs.Session.Staleness
import WorkTree.Proofs.Session.Agreement
import WorkTree.Proofs.Session.Mirrors
import WorkTree.Proofs.Session.Transparency
import WorkTree.Proofs.Session.Gate
import WorkTree.Proofs.Verdict
import WorkTree.Proofs.Session.CurrentBranch
import WorkTree.Proofs.Session.Deletions
import WorkTree.Proofs.Session.CheckedOut
import WorkTree.Proofs.Listing.Merged
import WorkTree.Proofs.Session.MergedBranches
import WorkTree.Proofs.Listing.Branches
import WorkTree.Proofs.Listing.Pointers
import WorkTree.Proofs.Listing.Remotes
import WorkTree.Proofs.Listing.Status
import WorkTree.Proofs.Session.Health
import WorkTree.Proofs.Session.Grounds
import WorkTree.Proofs.Session.Failures
import WorkTree.Proofs.Session.FailureProvenance
import WorkTree.Proofs.Session.WarmCache
import WorkTree.Proofs.Session.Overview
import WorkTree.Proofs.Path
import WorkTree.Proofs.Settings
import WorkTree.Proofs.Settings.Library
import WorkTree.Proofs.Session.Trail
import WorkTree.Proofs.Session.Audit
import WorkTree.Proofs.BranchName.Grammar
import WorkTree.Proofs.BranchName.Joined
import WorkTree.Proofs.Session.Vetting
import WorkTree.Proofs.Session.Printed
import WorkTree.Proofs.Session.Accounting
import WorkTree.Proofs.Classification
import WorkTree.Proofs.Cache
import WorkTree.Proofs.Log
import WorkTree.Proofs.Session.Commits
import WorkTree.Proofs.Environment
import WorkTree.Proofs.Settings.Hiding
