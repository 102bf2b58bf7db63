import ObjectStore.Client.Operations
import ObjectStore.Engine.Execute
import ObjectStore.Fault.Named
import ObjectStore.Proofs.Engine.Accounting
import ObjectStore.Proofs.Engine.Addressing
import ObjectStore.Proofs.Engine.Budget
import ObjectStore.Proofs.Engine.Cancellation
import ObjectStore.Proofs.Engine.Itinerary
import ObjectStore.Proofs.Engine.Locking
import ObjectStore.Proofs.Engine.LogLines
import ObjectStore.Proofs.Engine.Repetition
import ObjectStore.Proofs.Engine.Secrecy
import ObjectStore.Proofs.Engine.Signature
import ObjectStore.Proofs.Engine.Status
import ObjectStore.Proofs.Event.Balance
import ObjectStore.Proofs.Request.Length
import ObjectStore.Proofs.Request.PathEncoding
import ObjectStore.Proofs.Retry.Backoff
import ObjectStore.Proofs.SharedAccess.Reading
import ObjectStore.Proofs.Signing.Extension
import ObjectStore.Proofs.Signing.Representation
import ObjectStore.Proofs.Signing.Unambiguity
import ObjectStore.Proofs.Time.Keeping
import ObjectStore.Proofs.Transfer.Bounds
import ObjectStore.Proofs.Transfer.Coverage
import ObjectStore.Proofs.Transfer.Integrity
import ObjectStore.Proofs.Transfer.Pinning
import ObjectStore.Proofs.Transfer.Sending
import ObjectStore.Rehearsal.Calling
import ObjectStore.Rehearsal.Exchange
import ObjectStore.Rehearsal.Session
import ObjectStore.SharedAccess.Token
