import Screens.Main
import Screens.Network.Url
import Screens.Proofs.CommandLine.Options
import Screens.Proofs.Environment.Flat
import Screens.Proofs.Environment.Overlay
import Screens.Proofs.Environment.OwnValue
import Screens.Proofs.Environment.Splitting
import Screens.Proofs.Interaction.Answers
import Screens.Proofs.Render.Beside
import Screens.Proofs.Render.Cut
import Screens.Proofs.Render.Depth
import Screens.Proofs.Render.Foretold
import Screens.Proofs.Render.Identity
import Screens.Proofs.Render.Reads
import Screens.Proofs.Render.Wire
import Screens.Proofs.Resolver.Loads
import Screens.Proofs.Resolver.Warming
import Screens.Proofs.Resources.Accounts
import Screens.Proofs.Resources.Books
import Screens.Proofs.Resources.Supply
import Screens.Proofs.Service.FrontEnds
import Screens.Proofs.Service.Rejection
import Screens.Proofs.Session.Cancellation
import Screens.Proofs.Session.LastWriter
import Screens.Proofs.Session.Pursuit
import Screens.Proofs.Session.Refresh
import Screens.Proofs.Session.Summary
import Screens.Proofs.Store.Directory
import Screens.Proofs.Template.Damage
import Screens.Proofs.Template.Shallow
import Screens.Proofs.Template.Untouched
import Screens.Render.Interaction
import Screens.Session
