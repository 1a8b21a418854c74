import IssuerReadiness.Client.Scripted
import IssuerReadiness.Main
import IssuerReadiness.Proofs.Condition.Transition
import IssuerReadiness.Proofs.Issuer.RoundTrip
import IssuerReadiness.Proofs.Manifest.Faults
import IssuerReadiness.Proofs.Setup.Confidentiality
import IssuerReadiness.Proofs.Setup.Course
import IssuerReadiness.Proofs.Setup.Repetition
import IssuerReadiness.Proofs.Setup.Verdict
import IssuerReadiness.Proofs.BaseUrl
import IssuerReadiness.Proofs.BaseUrl.Spelling
import IssuerReadiness.Proofs.Secret.Store
import IssuerReadiness.Proofs.Connection
import IssuerReadiness.Proofs.Setup.Isolation
import IssuerReadiness.Proofs.Client.Exchange
import IssuerReadiness.Proofs.Client.Wire
import IssuerReadiness.Proofs.Setup.Confinement
import IssuerReadiness.Proofs.Check
import IssuerReadiness.Proofs.Client.Deadline
import IssuerReadiness.Proofs.Manifest.Null
import IssuerReadiness.Proofs.Setup.Conservation
import IssuerReadiness.Proofs.Setup.Transparency
import IssuerReadiness.Proofs.BaseUrl.Host
import IssuerReadiness.Proofs.Client.Decision
import IssuerReadiness.Proofs.Connection.Requirements
import IssuerReadiness.Proofs.Connection.Trust
import IssuerReadiness.Proofs.Timestamp.Reading
import IssuerReadiness.Proofs.Timestamp.Order
import IssuerReadiness.Proofs.Condition.Reload
import IssuerReadiness.Proofs.Base64.Blocks
import IssuerReadiness.Proofs.Manifest.Encoding
import IssuerReadiness.Proofs.Secret.Loading
import IssuerReadiness.Proofs.Secret.Composition
import IssuerReadiness.Proofs.Event.Retention
import IssuerReadiness.Proofs.Context.Handles
import IssuerReadiness.Proofs.Settings.Numeral
