import SceneMarkup.Build.Cache
import SceneMarkup.Build.Message
import SceneMarkup.Build.Project
import SceneMarkup.Catalogue
import SceneMarkup.Client
import SceneMarkup.CommandLine.Grammar
import SceneMarkup.CommandLine.Invocation
import SceneMarkup.CommandLine.Job
import SceneMarkup.CommandLine.Reading
import SceneMarkup.CommandLine.Transcript
import SceneMarkup.CommandLine.Usage
import SceneMarkup.CommandLine.Word
import SceneMarkup.Compression.Code
import SceneMarkup.Compression.Inflate
import SceneMarkup.Compression.Wrapping
import SceneMarkup.Diagnosis.Basic
import SceneMarkup.Diagnosis.Excerpt
import SceneMarkup.Diagnosis.Fault
import SceneMarkup.Digest.Md5
import SceneMarkup.Disk.Basic
import SceneMarkup.Document.Basic
import SceneMarkup.Document.Interchange
import SceneMarkup.Document.Outline
import SceneMarkup.Document.Reading
import SceneMarkup.Document.Tag
import SceneMarkup.Document.Traversal
import SceneMarkup.DomainName.Basic
import SceneMarkup.DomainName.Composition
import SceneMarkup.DomainName.Context
import SceneMarkup.DomainName.Direction
import SceneMarkup.DomainName.Mark
import SceneMarkup.DomainName.Permitted
import SceneMarkup.DomainName.Punycode
import SceneMarkup.Entries
import SceneMarkup.Http.Coding
import SceneMarkup.Http.MediaType
import SceneMarkup.Http.Percent
import SceneMarkup.Http.Response
import SceneMarkup.Json.Basic
import SceneMarkup.Json.Reader
import SceneMarkup.Log.Handler
import SceneMarkup.Log.Layout
import SceneMarkup.Log.Level
import SceneMarkup.Log.Logger
import SceneMarkup.Log.Moment
import SceneMarkup.Log.Record
import SceneMarkup.Log.Registry
import SceneMarkup.Log.Template
import SceneMarkup.Log.Template.Padding
import SceneMarkup.Log.Template.Piece
import SceneMarkup.Log.Thing.Basic
import SceneMarkup.Log.Thing.Members
import SceneMarkup.Main
import SceneMarkup.Module.Basic
import SceneMarkup.Number.Binary64
import SceneMarkup.Number.Literal
import SceneMarkup.Number.Shortest
import SceneMarkup.Number.Spelling
import SceneMarkup.Path.Basic
import SceneMarkup.Proofs.Build.Display
import SceneMarkup.Proofs.Build.Loading
import SceneMarkup.Proofs.Build.Output
import SceneMarkup.Proofs.Build.Recency
import SceneMarkup.Proofs.Catalogue
import SceneMarkup.Proofs.Client
import SceneMarkup.Proofs.CommandLine.Verdict
import SceneMarkup.Proofs.Compression.RoundTrip
import SceneMarkup.Proofs.Diagnosis.Excerpt
import SceneMarkup.Proofs.Disk.Tree
import SceneMarkup.Proofs.Disk.Writing
import SceneMarkup.Proofs.Document.Acceptance
import SceneMarkup.Proofs.Document.Advance
import SceneMarkup.Proofs.Document.Behind
import SceneMarkup.Proofs.Document.Concatenation
import SceneMarkup.Proofs.Document.Conflict
import SceneMarkup.Proofs.Document.Decoding
import SceneMarkup.Proofs.Document.Depth
import SceneMarkup.Proofs.Document.Explanation
import SceneMarkup.Proofs.Document.Extension
import SceneMarkup.Proofs.Document.Failure
import SceneMarkup.Proofs.Document.Grammar
import SceneMarkup.Proofs.Document.Interchange
import SceneMarkup.Proofs.Document.Item
import SceneMarkup.Proofs.Document.LeftOpen
import SceneMarkup.Proofs.Document.Order
import SceneMarkup.Proofs.Document.Place
import SceneMarkup.Proofs.Document.Preorder
import SceneMarkup.Proofs.Document.Printer
import SceneMarkup.Proofs.Document.Progress
import SceneMarkup.Proofs.Document.Report
import SceneMarkup.Proofs.Document.Tag
import SceneMarkup.Proofs.Document.WellFormed
import SceneMarkup.Proofs.DomainName.Basic
import SceneMarkup.Proofs.DomainName.Punycode
import SceneMarkup.Proofs.Entries
import SceneMarkup.Proofs.Http.Framing
import SceneMarkup.Proofs.Http.Percent
import SceneMarkup.Proofs.Json.Keys
import SceneMarkup.Proofs.Json.Layout
import SceneMarkup.Proofs.Json.RoundTrip
import SceneMarkup.Proofs.Lists
import SceneMarkup.Proofs.Log.Delivery
import SceneMarkup.Proofs.Log.Levels
import SceneMarkup.Proofs.Log.Sharing
import SceneMarkup.Proofs.Log.Template
import SceneMarkup.Proofs.Log.Thing
import SceneMarkup.Proofs.Module.Layout
import SceneMarkup.Proofs.Path.Basic
import SceneMarkup.Proofs.Server.Confinement
import SceneMarkup.Proofs.Server.Entry
import SceneMarkup.Proofs.Server.Forwarding
import SceneMarkup.Proofs.Server.Framing
import SceneMarkup.Proofs.Server.Reachability
import SceneMarkup.Proofs.Server.Walk
import SceneMarkup.Proofs.Setting.Copying
import SceneMarkup.Proofs.Setting.Environment
import SceneMarkup.Proofs.Setting.Integer
import SceneMarkup.Proofs.Setting.Laying
import SceneMarkup.Proofs.Setting.Live.Depiction
import SceneMarkup.Proofs.Setting.Live.Lookup
import SceneMarkup.Proofs.Setting.Live.Reordering
import SceneMarkup.Proofs.Setting.Live.Runtime
import SceneMarkup.Proofs.Setting.Live.Values
import SceneMarkup.Proofs.Setting.Memory
import SceneMarkup.Proofs.Setting.Merging
import SceneMarkup.Proofs.Setting.Nesting
import SceneMarkup.Proofs.Setting.Overlay
import SceneMarkup.Proofs.Setting.Priority
import SceneMarkup.Proofs.Setting.Ranking
import SceneMarkup.Proofs.Setting.Reordering
import SceneMarkup.Proofs.Setting.Runtime
import SceneMarkup.Proofs.Setting.Storing
import SceneMarkup.Proofs.Setting.View
import SceneMarkup.Proofs.Setting.Writing
import SceneMarkup.Proofs.Source.Behind
import SceneMarkup.Proofs.Source.Ending
import SceneMarkup.Proofs.Source.Extension
import SceneMarkup.Proofs.Source.Language
import SceneMarkup.Proofs.Source.Literal
import SceneMarkup.Proofs.Source.Location
import SceneMarkup.Proofs.Source.Operation
import SceneMarkup.Proofs.Source.Quoting
import SceneMarkup.Proofs.Source.Refusal
import SceneMarkup.Proofs.Source.Scanner
import SceneMarkup.Proofs.Source.Standing
import SceneMarkup.Proofs.Source.Token
import SceneMarkup.Proofs.Terminal.Coloring
import SceneMarkup.Proofs.Text.Margin
import SceneMarkup.Proofs.Text.Splitting
import SceneMarkup.Proofs.Text.Trimming
import SceneMarkup.Proofs.Text.Utf8
import SceneMarkup.Proofs.Url
import SceneMarkup.Proofs.Value.Sameness
import SceneMarkup.Server.Backend
import SceneMarkup.Server.Basic
import SceneMarkup.Setting.Basic
import SceneMarkup.Setting.Environment
import SceneMarkup.Setting.File
import SceneMarkup.Setting.Live
import SceneMarkup.Setting.Memory
import SceneMarkup.Setting.Project
import SceneMarkup.Setting.Table
import SceneMarkup.Source.Capture
import SceneMarkup.Source.Location
import SceneMarkup.Source.Operation
import SceneMarkup.Source.Quoting
import SceneMarkup.Source.Scanner
import SceneMarkup.Source.Token
import SceneMarkup.Terminal.Report
import SceneMarkup.Text.CharClass
import SceneMarkup.Text.Lines
import SceneMarkup.Text.Lowercase
import SceneMarkup.Text.Quoted
import SceneMarkup.Text.Utf8
import SceneMarkup.Url.Basic
import SceneMarkup.Url.Escape
import SceneMarkup.Url.Numeric
import SceneMarkup.Url.Reading
import SceneMarkup.Value.Basic
