import AppletPage.Command.Serve
import AppletPage.Main
import AppletPage.Parameter.Lookup
import AppletPage.Proofs.Parameter.Lookup
import AppletPage.Proofs.Parameter.Admission
import AppletPage.Proofs.Markup.Reference
import AppletPage.Proofs.Markup.Tag
import AppletPage.Proofs.Text.Utf8
import AppletPage.Proofs.Text.Ascii
import AppletPage.Proofs.Markup.Document
import AppletPage.Proofs.Parameter.Set
import AppletPage.Proofs.Page.Parts
import AppletPage.Proofs.Page.RoundTrip
import AppletPage.Proofs.Parameter.Override
import AppletPage.Proofs.Parameter.Wiring
import AppletPage.Proofs.Preference.Overrides
import AppletPage.Proofs.Page.Wiring
import AppletPage.Proofs.Parameter.Plugin
import AppletPage.Proofs.Page.Build
import AppletPage.Proofs.Host.Action
import AppletPage.Proofs.Preference.User
import AppletPage.Proofs.Service.Request
import AppletPage.Proofs.Preference.Store
import AppletPage.Proofs.Service.Start
import AppletPage.Proofs.Service.Page
import AppletPage.Proofs.Work
import AppletPage.Proofs.Files.Walk
import AppletPage.Proofs.Files.Follow
import AppletPage.Proofs.Files.Locate
import AppletPage.Proofs.Files.Directory
import AppletPage.Proofs.Files.Plain
import AppletPage.Proofs.Files.Writing
import AppletPage.Proofs.Host.Layout
import AppletPage.Proofs.Host.Journal
import AppletPage.Proofs.Host.Json
import AppletPage.Proofs.Json.Scalar
import AppletPage.Proofs.Json.RoundTrip
import AppletPage.Proofs.Parameter.Token
import AppletPage.Proofs.Parameter.Joining
import AppletPage.Proofs.Preference.Settled
import AppletPage.Proofs.Preference.Content
import AppletPage.Proofs.Preference.Folder
import AppletPage.Proofs.Preference.Calls
import AppletPage.Proofs.Command.Export
import AppletPage.Proofs.Service.Body
import AppletPage.Proofs.Service.Keeping
import AppletPage.Proofs.Service.Step
import AppletPage.Proofs.Service.Exchange
import AppletPage.Proofs.Service.Session
import AppletPage.Proofs.Service.Blame
import AppletPage.Proofs.Service.Views
import AppletPage.Proofs.Service.Isolation
import AppletPage.Proofs.Service.Envelope
import AppletPage.Proofs.Service.Unstarted
import AppletPage.Proofs.Service.Tokens
import AppletPage.Proofs.Parameter.Merge
import AppletPage.Proofs.Json.Digits
import AppletPage.Proofs.Config.Bounds
import AppletPage.Proofs.Config.RoundTrip
import AppletPage.Proofs.Host.Config
import AppletPage.Proofs.Files.Replaced
import AppletPage.Proofs.Preference.Atomic
import AppletPage.Proofs.Page.Content
import AppletPage.Proofs.Page.Scope
import AppletPage.Proofs.Parameter.Listing
import AppletPage.Proofs.Preference.Acceptance
import AppletPage.Proofs.Page.Parameters
import AppletPage.Proofs.Preference.Loading
import AppletPage.Proofs.Preference.Report
import AppletPage.Proofs.Files.Tree
import AppletPage.Proofs.Number.Integer
import AppletPage.Proofs.Files.Link
import AppletPage.Proofs.Files.Resolve
import AppletPage.Proofs.Host.Grown
import AppletPage.Proofs.Service.Prepare
import AppletPage.Proofs.Command.Serve
import AppletPage.Proofs.Command.Outcome
import AppletPage.Page.Wide
import AppletPage.Proofs.Text.Wide
import AppletPage.Proofs.Page.Wide
import AppletPage.Proofs.Preference.Written
