import Switchboard.Exchange.Client
import Switchboard.Exchange.Context
import Switchboard.Http.Date
import Switchboard.Main
import Switchboard.Proofs.Exchange.RoundTrip
import Switchboard.Proofs.Http.Chunk.Framing
import Switchboard.Proofs.Server.Pipelining
import Switchboard.Proofs.Readiness.Conservation
import Switchboard.Proofs.Readiness.Pass
import Switchboard.Proofs.Route.FieldEdits
import Switchboard.Proofs.Route.History
import Switchboard.Proofs.Http.Chunk.RoundTrip
import Switchboard.Proofs.Exchange.Tape
import Switchboard.Proofs.Server.Protocol
import Switchboard.Proofs.Text.Numeral
import Switchboard.Proofs.Http.Response
import Switchboard.Proofs.Exchange.Responses
import Switchboard.Proofs.Server.Agreement
import Switchboard.Proofs.Exchange.Alike
import Switchboard.Proofs.Server.Reuse
import Switchboard.Proofs.Server.Failure
import Switchboard.Proofs.Http.Framing
import Switchboard.Proofs.Server.Framing
import Switchboard.Proofs.Server.Persistence
import Switchboard.Proofs.Server.Opening
import Switchboard.Proofs.Server.Outcome
import Switchboard.Proofs.Exchange.ResponseSegmentation
import Switchboard.Proofs.Exchange.Increments
import Switchboard.Proofs.Exchange.ResponseRoundTrip
import Switchboard.Proofs.Server.Room
import Switchboard.Proofs.Server.HeadRequests
import Switchboard.Proofs.Http.Chunk.Calls
import Switchboard.Proofs.Http.FieldReaders
import Switchboard.Proofs.Http.Chunk.PassedLines
import Switchboard.Proofs.Exchange.ResponseTape
import Switchboard.Proofs.Http.Chunk.TrailerCount
import Switchboard.Proofs.Server.FieldCount
import Switchboard.Proofs.Http.Head.Canonical
import Switchboard.Proofs.Files.Confinement
import Switchboard.Proofs.Http.Target
import Switchboard.Proofs.Exchange.RaisedLimits
import Switchboard.Proofs.Route.Publication
import Switchboard.Proofs.Server.StrictReading
import Switchboard.Proofs.Server.Unending
import Switchboard.Proofs.Exchange.Context
import Switchboard.Proofs.Server.Task
import Switchboard.Server.Visit
