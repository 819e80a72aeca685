import DirectoryServer.Text.Quoted
import DirectoryServer.Frame.Printer
import DirectoryServer.Frame.Stream
import DirectoryServer.Frame.Scanner
import DirectoryServer.Filter.Parser
import DirectoryServer.Filter.Scanner
import DirectoryServer.Filter.Printer
import DirectoryServer.Filter.Evaluate
import DirectoryServer.Message.Codec
import DirectoryServer.Backend
import DirectoryServer.Route.Handlers
import DirectoryServer.Config
import DirectoryServer.Connection.Schedule
import DirectoryServer.Main
import DirectoryServer.Proofs.Connection.Step
import DirectoryServer.Proofs.Session.Play
import DirectoryServer.Proofs.Connection.InFlight
import DirectoryServer.Proofs.Route.Default
import DirectoryServer.Proofs.Connection.Stage
import DirectoryServer.Proofs.Connection.Answered
import DirectoryServer.Proofs.Connection.Calm
import DirectoryServer.Proofs.Connection.Securing
import DirectoryServer.Proofs.Frame.Prefix
import DirectoryServer.Proofs.Message.Stream
import DirectoryServer.Proofs.Connection.Serving
import DirectoryServer.Proofs.Connection.Delivery
import DirectoryServer.Proofs.Connection.Progress
import DirectoryServer.Proofs.Frame.Stream
import DirectoryServer.Proofs.Session.Sends
import DirectoryServer.Proofs.Connection.Sending
import DirectoryServer.Proofs.Connection.Abandoning
import DirectoryServer.Proofs.Connection.Stopping
import DirectoryServer.Proofs.Connection.Taking
import DirectoryServer.Proofs.Frame.Printing
import DirectoryServer.Proofs.Frame.Spelling
import DirectoryServer.Proofs.Frame.RoundTrip
import DirectoryServer.Proofs.Text.Trim
import DirectoryServer.Proofs.Filter.Escape
import DirectoryServer.Proofs.Filter.Item
import DirectoryServer.Proofs.Filter.RoundTrip
import DirectoryServer.Proofs.Ldif.Lines
import DirectoryServer.Proofs.Ldif.Records
import DirectoryServer.Proofs.Text.Base64
import DirectoryServer.Proofs.Ldif.Fields
import DirectoryServer.Proofs.Ldif.RoundTrip
import DirectoryServer.Proofs.Ldif.Reread
import DirectoryServer.Proofs.Store.Reopen
import DirectoryServer.Proofs.Filter.Legible
import DirectoryServer.Proofs.Filter.ItemGrammar
import DirectoryServer.Proofs.Filter.Places
import DirectoryServer.Proofs.Filter.Grammar
import DirectoryServer.Proofs.Filter.Scanner
import DirectoryServer.Proofs.Filter.Faults
import DirectoryServer.Proofs.Filter.Completion
import DirectoryServer.Proofs.Filter.Contents
import DirectoryServer.Proofs.Store.Secrecy
import DirectoryServer.Proofs.Store.Search
import DirectoryServer.Proofs.Store.Calls
import DirectoryServer.Proofs.Route.Ranking
import DirectoryServer.Proofs.Session.Course
import DirectoryServer.Proofs.Route.Answering
import DirectoryServer.Proofs.Message.RoundTrip
import DirectoryServer.Proofs.Message.Response
import DirectoryServer.Proofs.Route.Identity
import DirectoryServer.Proofs.Session.Lifetime
import DirectoryServer.Proofs.Frame.Scanner
import DirectoryServer.Proofs.Ldif.Faults
import DirectoryServer.Proofs.Store.Clashes
import DirectoryServer.Proofs.Session.GivingUp
import DirectoryServer.Proofs.Connection.GivenUp
import DirectoryServer.Proofs.Connection.Busy
import DirectoryServer.Proofs.Text.Lowercase
import DirectoryServer.Proofs.Entry.Coded
import DirectoryServer.Proofs.Entry.Literal
import DirectoryServer.Proofs.Route.Destination
import DirectoryServer.Proofs.Session.Amid
import DirectoryServer.Proofs.Route.Streaming
import DirectoryServer.Proofs.Text.AsciiCase
import DirectoryServer.Proofs.Route.LetterCase
import DirectoryServer.Proofs.Route.Accepts
import DirectoryServer.Proofs.Route.Predicates
import DirectoryServer.Proofs.Filter.Codes
import DirectoryServer.Proofs.Store.Passwords
import DirectoryServer.Proofs.Ldif.Folding
import DirectoryServer.Proofs.Store.Location
