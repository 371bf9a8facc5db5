import ServiceClient.Json.Writer
import ServiceClient.Main
import ServiceClient.Proofs.Action.Wire
import ServiceClient.Proofs.Cli.Series
import ServiceClient.Proofs.Client.Bindings
import ServiceClient.Proofs.Client.Bound
import ServiceClient.Proofs.Client.FunctionName
import ServiceClient.Proofs.Doc.Wrapping
import ServiceClient.Proofs.Elixir.Heredoc
import ServiceClient.Proofs.Erlang.Definitions
import ServiceClient.Proofs.Markup.Plain
import ServiceClient.Proofs.Service.Documentation
import ServiceClient.Proofs.Service.Heads
import ServiceClient.Proofs.Service.Languages
import ServiceClient.Proofs.Service.Order
import ServiceClient.Proofs.Service.Session
import ServiceClient.Proofs.Service.Success
import ServiceClient.Proofs.Uri.Decoding
import ServiceClient.Proofs.Uri.Defect
import ServiceClient.Proofs.Uri.Delimited
import ServiceClient.Proofs.Uri.Lookup
import ServiceClient.Proofs.Uri.Meaning
import ServiceClient.Proofs.Uri.Verbatim
import ServiceClient.Service.Agreement
import ServiceClient.Service.Session
