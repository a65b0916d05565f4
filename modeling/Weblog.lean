import Weblog.CommandLine.Help
import Weblog.CommandLine.Run
import Weblog.Listing
import Weblog.Logging.Line
import Weblog.Main
import Weblog.Ownership
import Weblog.Payload.Reading
import Weblog.Proofs.Account.KeyStream
import Weblog.Proofs.Account.Login
import Weblog.Proofs.Account.Lowercase
import Weblog.Proofs.Account.Token
import Weblog.Proofs.Bcrypt
import Weblog.Proofs.CommandLine
import Weblog.Proofs.Ending
import Weblog.Proofs.Http.SameOrigin
import Weblog.Proofs.Reply
import Weblog.Proofs.Schema.Migration
import Weblog.Proofs.Schema.Script
import Weblog.Proofs.Service.Atomicity
import Weblog.Proofs.Service.Confinement
import Weblog.Proofs.Service.History
import Weblog.Proofs.Service.Internal
import Weblog.Proofs.Service.Paging
import Weblog.Proofs.Service.PartialUpdate
import Weblog.Proofs.Service.Precedence
import Weblog.Proofs.Service.Refusals
import Weblog.Proofs.Service.Renaming
import Weblog.Proofs.Service.Reports
import Weblog.Proofs.Service.Secrecy
import Weblog.Proofs.Service.StaleOwnership
import Weblog.Proofs.Service.Validity
import Weblog.Proofs.Slug.Allocation
import Weblog.Proofs.Slug.BeyondAscii
import Weblog.Proofs.Slug.Image
import Weblog.Proofs.Slug.Limit
import Weblog.Proofs.Slug.Races
import Weblog.Proofs.Slug.Renewal
import Weblog.Proofs.Slug.Stages
import Weblog.Proofs.Store.Chronological
import Weblog.Proofs.Store.Conflict
import Weblog.Proofs.Store.Integrity
import Weblog.Proofs.Token.Agreement
import Weblog.Proofs.Token.Lifetime
import Weblog.Proofs.Validation.Verdicts
import Weblog.Reply.Reading
import Weblog.Reply.Writing
import Weblog.Schema.Migration
import Weblog.Service.Description
import Weblog.Service.Startup
import Weblog.Slug
