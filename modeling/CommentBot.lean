import CommentBot.Comment.Codec
import CommentBot.Config.Environment
import CommentBot.Server.Clients
import CommentBot.Server.Router
import CommentBot.Proofs.Results
import CommentBot.Proofs.Forge.Contract
import CommentBot.Proofs.Workflow.Conformance
import CommentBot.Proofs.Repository.Change
import CommentBot.Proofs.Workflow.Provenance
import CommentBot.Proofs.Workflow.Progress
import CommentBot.Proofs.Repository.Interleaving
import CommentBot.Proofs.Comment.Handling
import CommentBot.Proofs.Server.Assessment
import CommentBot.Proofs.Server.Deliveries
import CommentBot.Proofs.Repository.Integrity
import CommentBot.Proofs.Repository.Script
import CommentBot.Proofs.Repository.Determinism
import CommentBot.Proofs.Json.Grammar
import CommentBot.Proofs.Json.Numerals
import CommentBot.Proofs.Json.Tokens
import CommentBot.Proofs.Json.Parsing
import CommentBot.Proofs.Json.Values
import CommentBot.Proofs.Json.Shapes
import CommentBot.Proofs.Json.Records
import CommentBot.Proofs.Comment.Rendering
import CommentBot.Proofs.Rest.Failures
import CommentBot.Proofs.Repository.Numbering
import CommentBot.Proofs.Json.Writing
import CommentBot.Proofs.Json.Restoring
import CommentBot.Proofs.Time.Calendar
import CommentBot.Proofs.Time.Reading
import CommentBot.Proofs.RoundTrip
import CommentBot.Proofs.Rest.Routes
import CommentBot.Proofs.Rest.Sending
import CommentBot.Proofs.Server.Requests
import CommentBot.Proofs.Repository.History
import CommentBot.Proofs.Workflow.Parallel
import CommentBot.Proofs.Repository.Comments
import CommentBot.Proofs.Comment.Independence
import CommentBot.Proofs.Server.Sessions
import CommentBot.Proofs.Text.Percent
import CommentBot.Proofs.Rest.Recovery
import CommentBot.Proofs.Text.Pattern
import CommentBot.Proofs.Command.Tokens
import CommentBot.Proofs.Server.Echoes
import CommentBot.Proofs.Comment.Fencing
import CommentBot.Proofs.Workflow.Suited
import CommentBot.Proofs.Rest.Gateways
import CommentBot.Proofs.Repository.Ancestry
import CommentBot.Proofs.Repository.Atomicity
import CommentBot.Proofs.Server.Padding
import CommentBot.Proofs.Rest.Answers
import CommentBot.Proofs.Text.LowerCase
import CommentBot.Proofs.Forge.Wording
