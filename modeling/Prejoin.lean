import Prejoin.Json.Printer
import Prejoin.Plan.Json
import Prejoin.Session
import Prejoin.Proofs.PlainReadback
import Prejoin.Proofs.Remaining
import Prejoin.Proofs.Turns
import Prejoin.Proofs.Effect
import Prejoin.Proofs.Isolation
import Prejoin.Proofs.Paging
import Prejoin.Proofs.Tenants
import Prejoin.Proofs.Endings
import Prejoin.Proofs.AnyCase
import Prejoin.Proofs.Covering
import Prejoin.Proofs.Queries
import Prejoin.Proofs.Surroundings
import Prejoin.Proofs.Bare
import Prejoin.Proofs.Forms
import Prejoin.Proofs.Addresses
import Prejoin.Proofs.Requests
import Prejoin.Proofs.Positions
import Prejoin.Proofs.Requoting
import Prejoin.Proofs.Precedence
import Prejoin.Proofs.Unclosed
import Prejoin.Proofs.Agreement
import Prejoin.Proofs.Classes
import Prejoin.Proofs.KeyNames
import Prejoin.Proofs.Excerpts
import Prejoin.Proofs.Recording
import Prejoin.Proofs.Repeats
import Prejoin.Proofs.Sessions
import Prejoin.Proofs.Lossless
