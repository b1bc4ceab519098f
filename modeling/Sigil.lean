import Sigil.Main
import Sigil.Session.Operation
import Sigil.Binary64.Reader
import Sigil.Json.Writer
import Sigil.Proofs.Reference.Grammar
import Sigil.Proofs.Reference.Code
import Sigil.Proofs.Reference.History
import Sigil.Proofs.Reference.Tiers
import Sigil.Proofs.Program.Check
import Sigil.Proofs.Reference.Restricted
import Sigil.Proofs.Reference.Chain
import Sigil.Proofs.Diagnostic.Pointing
import Sigil.Proofs.Command.Changes
import Sigil.Proofs.Command.Agreement
import Sigil.Proofs.Client.Script
import Sigil.Proofs.Client.Signature
import Sigil.Proofs.Client.PlainMap
import Sigil.Proofs.Program.Reached
import Sigil.Proofs.Namespace.Policy
import Sigil.Proofs.Namespace.Calls
import Sigil.Proofs.Session.Independence
import Sigil.Proofs.State.Identity
import Sigil.Proofs.Value.Conversion
import Sigil.Proofs.Command.Loading
import Sigil.Proofs.Reference.Fragments
import Sigil.Proofs.Program.Balance
import Sigil.Proofs.Reference.Display
import Sigil.Proofs.Session.Places
import Sigil.Proofs.Session.Access
import Sigil.Proofs.Value.Equality
import Sigil.Proofs.Value.Printed
import Sigil.Proofs.Config.Usable
import Sigil.Proofs.Program.Casts
import Sigil.Proofs.Diagnostic.Additions
import Sigil.Proofs.Program.Slots
import Sigil.Proofs.Token.Concatenation
