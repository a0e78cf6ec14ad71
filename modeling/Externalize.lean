import Externalize.Main
import Externalize.Proofs.Batch.Names
import Externalize.Proofs.Batch.Target
import Externalize.Proofs.Extraction.Artifacts
import Externalize.Proofs.Extraction.Values
import Externalize.Proofs.Source.InPlace
import Externalize.Service.Handle
import Externalize.Proofs.Service.Answer
import Externalize.Proofs.Batch.Chain
import Externalize.Proofs.Resource.RoundTrip
import Externalize.Proofs.Batch.Discovery
import Externalize.Proofs.Extraction.Escape
import Externalize.Proofs.Batch.Alike
import Externalize.Proofs.Batch.Failures
import Externalize.Proofs.Source.Rescan
import Externalize.Proofs.Resource.Lifecycle
import Externalize.Proofs.Resource.Sessions
import Externalize.Proofs.Source.Lines
import Externalize.Proofs.Source.QuotePairs
import Externalize.Proofs.Source.Candidate
import Externalize.Proofs.Source.Tally
import Externalize.Proofs.Resource.Verbatim
import Externalize.Proofs.Naming.Limit
import Externalize.Proofs.Batch.Search
import Externalize.Proofs.Source.Accessor
import Externalize.Proofs.Settings.Payload
