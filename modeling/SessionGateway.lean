import SessionGateway.Http.Reply
import SessionGateway.Main
import SessionGateway.Proofs.CallHeaders
import SessionGateway.Proofs.Conduct
import SessionGateway.Proofs.Members
import SessionGateway.Proofs.SessionProject
import SessionGateway.Proofs.KeyConfinement
import SessionGateway.Proofs.CallLog
import SessionGateway.Proofs.Json.Tokens
import SessionGateway.Proofs.Json.Reading
import SessionGateway.Proofs.Outcome
import SessionGateway.Proofs.Exchange
import SessionGateway.Proofs.Redirects
import SessionGateway.Proofs.GuardedHeaders
import SessionGateway.Proofs.Url.BlankEnd
import SessionGateway.Proofs.Url.Gluing
import SessionGateway.Proofs.Url.Directories
import SessionGateway.Proofs.Addressing
import SessionGateway.Proofs.Json.Inversion
import SessionGateway.Proofs.Json.Skipping
import SessionGateway.Proofs.Record
import SessionGateway.Proofs.Json.Record
import SessionGateway.Proofs.WireForm
import SessionGateway.Proofs.Settings.Tree
import SessionGateway.Proofs.Settings.Items
import SessionGateway.Proofs.Settings.Layers
import SessionGateway.Proofs.Settings.Typed
import SessionGateway.Proofs.Settings.Loading
import SessionGateway.Proofs.Settings.Retold
import SessionGateway.Proofs.Settings.Agreement
import SessionGateway.Proofs.SessionStamps
import SessionGateway.Proofs.Json.Passing
import SessionGateway.Proofs.RecordAgreement
import SessionGateway.Proofs.Server.Authority
import SessionGateway.Proofs.Server.BaseUrl
import SessionGateway.Proofs.Server.HeaderLines
import SessionGateway.Proofs.Server.Received
import SessionGateway.Proofs.Server.Fidelity
import SessionGateway.Proofs.Server.WrittenReply
import SessionGateway.Proofs.Server.Answered
import SessionGateway.Proofs.HeaderHistory
import SessionGateway.Proofs.Json.Rewriting
import SessionGateway.Proofs.Probe.Run
import SessionGateway.Proofs.Probe.Effects
import SessionGateway.Proofs.Probe.Project
import SessionGateway.Proofs.Probe.BaseUrlSources
import SessionGateway.Proofs.HeaderOptions
import SessionGateway.Proofs.ExactValue
import SessionGateway.Proofs.Timeout
import SessionGateway.Proofs.Server.CutShort
import SessionGateway.Proofs.TokenBundle
import SessionGateway.Proofs.Probe.TokenLog
