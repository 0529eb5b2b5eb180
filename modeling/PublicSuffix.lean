import PublicSuffix.Dns.Stub
import PublicSuffix.Document.Build
import PublicSuffix.Document.Decode
import PublicSuffix.Document.Encode
import PublicSuffix.Log.Filter
import PublicSuffix.Online.Report
import PublicSuffix.Proofs.Document.Preorder
import PublicSuffix.Proofs.Offline.Rivals
import PublicSuffix.Proofs.Offline.Acceptance
import PublicSuffix.Proofs.Schedule.Steps
import PublicSuffix.Proofs.Schedule.Completion
import PublicSuffix.Proofs.Schedule.Deadline
import PublicSuffix.Proofs.Online.Settled
import PublicSuffix.Proofs.Online.Sequential
import PublicSuffix.Proofs.Online.Cancellation
import PublicSuffix.Proofs.Domain.Names
import PublicSuffix.Proofs.Provenance.Decision
import PublicSuffix.Proofs.Online.Provenance
import PublicSuffix.Proofs.Schedule.Turns
import PublicSuffix.Proofs.Schedule.Rounds
import PublicSuffix.Proofs.Online.Queries
import PublicSuffix.Proofs.Document.Nesting
import PublicSuffix.Proofs.Online.Collection
import PublicSuffix.Proofs.Online.DocumentOrder
import PublicSuffix.Proofs.Online.Repetition
import PublicSuffix.Proofs.Offline.Pairs
import PublicSuffix.Proofs.Offline.Reports
import PublicSuffix.Proofs.Offline.Justification
import PublicSuffix.Proofs.Offline.Duplicates
import PublicSuffix.Proofs.Offline.Exclusions
import PublicSuffix.Proofs.Offline.PrivateEntities
import PublicSuffix.Proofs.Domain.Grammar
import PublicSuffix.Proofs.Domain.Canonical
import PublicSuffix.Proofs.Domain.Children
import PublicSuffix.Proofs.Document.Records
import PublicSuffix.Proofs.Document.Spelling
import PublicSuffix.Proofs.Document.Comments
import PublicSuffix.Proofs.Offline.Comments
import PublicSuffix.Proofs.Schedule.Renaming
import PublicSuffix.Proofs.Online.Comments
import PublicSuffix.Proofs.Offline.Exempting
import PublicSuffix.Proofs.Offline.Nodewise
import PublicSuffix.Proofs.Provenance.ChangeUrls
import PublicSuffix.Proofs.Provenance.Outcomes
import PublicSuffix.Proofs.Document.Paths
import PublicSuffix.Proofs.Document.Subtrees
import PublicSuffix.Proofs.Document.Kinds
import PublicSuffix.Proofs.Text.Octets
import PublicSuffix.Proofs.Dns.Wire
import PublicSuffix.Proofs.Dns.Answers
import PublicSuffix.Proofs.Dns.Plain
import PublicSuffix.Proofs.Dns.Stub
import PublicSuffix.Proofs.Text.Lines
import PublicSuffix.Proofs.Contact.Written
import PublicSuffix.Proofs.Domain.Lawful
import PublicSuffix.Proofs.SortedDistinct
import PublicSuffix.Proofs.Text.OctetOrder
import PublicSuffix.Proofs.Domain.Order
import PublicSuffix.Proofs.Text.Controls
import PublicSuffix.Proofs.Messages
