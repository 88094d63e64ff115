import ODataExplorer.Charset.Basic
import ODataExplorer.Charset.Chinese
import ODataExplorer.Charset.ChineseRows
import ODataExplorer.Charset.CodePage
import ODataExplorer.Charset.ConsolePages
import ODataExplorer.Charset.Designated
import ODataExplorer.Charset.DesktopPages
import ODataExplorer.Charset.Escapes
import ODataExplorer.Charset.ExtensionRows
import ODataExplorer.Charset.Front
import ODataExplorer.Charset.HongKongRows
import ODataExplorer.Charset.Insertions
import ODataExplorer.Charset.Japanese
import ODataExplorer.Charset.JapaneseExtension
import ODataExplorer.Charset.JapaneseRows
import ODataExplorer.Charset.Korean
import ODataExplorer.Charset.KoreanRows
import ODataExplorer.Charset.MainframePages
import ODataExplorer.Charset.PairTable
import ODataExplorer.Charset.RegionalPages
import ODataExplorer.Charset.StandardPages
import ODataExplorer.Charset.SupplementRows
import ODataExplorer.Charset.TraditionalRows
import ODataExplorer.Charset.Units
import ODataExplorer.Charset.Utf7
import ODataExplorer.Csdl.Association
import ODataExplorer.Csdl.Document
import ODataExplorer.Csdl.Lookup
import ODataExplorer.Csdl.Model
import ODataExplorer.Csdl.Outline
import ODataExplorer.Csdl.Reading
import ODataExplorer.Csdl.TypeName
import ODataExplorer.Csdl.Version
import ODataExplorer.Deflate.Code
import ODataExplorer.Deflate.Inflate
import ODataExplorer.Deflate.Tape
import ODataExplorer.Deflate.Wrapping
import ODataExplorer.Domain.Composition
import ODataExplorer.Domain.Label
import ODataExplorer.Domain.LetterTable
import ODataExplorer.Domain.MarkTable
import ODataExplorer.Domain.Name
import ODataExplorer.Domain.Punycode
import ODataExplorer.Domain.ScriptTable
import ODataExplorer.Fetch.Address
import ODataExplorer.Fetch.Client
import ODataExplorer.Fetch.Coding
import ODataExplorer.Fetch.ContentType
import ODataExplorer.Fetch.Redirect
import ODataExplorer.Fetch.Response
import ODataExplorer.Json.Reader
import ODataExplorer.Json.Value
import ODataExplorer.Json.Writer
import ODataExplorer.Log.Entry
import ODataExplorer.Log.Logged
import ODataExplorer.Log.Message
import ODataExplorer.Log.Output
import ODataExplorer.Log.Shown
import ODataExplorer.Main
import ODataExplorer.Nesting
import ODataExplorer.Number.Double
import ODataExplorer.Number.Reading
import ODataExplorer.Number.Rounded
import ODataExplorer.Number.Shortest
import ODataExplorer.Payload.Decode
import ODataExplorer.Payload.Envelope
import ODataExplorer.Proofs.Charset.Refusal
import ODataExplorer.Proofs.Csdl.Alike
import ODataExplorer.Proofs.Csdl.AssociationReach
import ODataExplorer.Proofs.Csdl.AssociationScan
import ODataExplorer.Proofs.Csdl.Detection
import ODataExplorer.Proofs.Csdl.Edit
import ODataExplorer.Proofs.Csdl.Foreign
import ODataExplorer.Proofs.Csdl.Integrity
import ODataExplorer.Proofs.Csdl.Kept
import ODataExplorer.Proofs.Csdl.Lookup
import ODataExplorer.Proofs.Csdl.Namespaces
import ODataExplorer.Proofs.Csdl.Order
import ODataExplorer.Proofs.Csdl.Session
import ODataExplorer.Proofs.Csdl.Structure
import ODataExplorer.Proofs.Csdl.Unqualified
import ODataExplorer.Proofs.Fetch.Failure
import ODataExplorer.Proofs.Fetch.Redirect
import ODataExplorer.Proofs.Fetch.Served
import ODataExplorer.Proofs.Json.Beginning
import ODataExplorer.Proofs.Json.Nesting
import ODataExplorer.Proofs.Number.Numeral
import ODataExplorer.Proofs.Outcome
import ODataExplorer.Proofs.Payload.Count
import ODataExplorer.Proofs.Payload.Preference
import ODataExplorer.Proofs.Query.Compile
import ODataExplorer.Proofs.Service.Agreement
import ODataExplorer.Proofs.Service.Document
import ODataExplorer.Proofs.Service.Raised
import ODataExplorer.Proofs.Service.Reported
import ODataExplorer.Proofs.Service.Rows
import ODataExplorer.Proofs.Service.SchemaAnswer
import ODataExplorer.Proofs.Text.Split
import ODataExplorer.Proofs.Text.Trim
import ODataExplorer.Proofs.Text.Utf8
import ODataExplorer.Proofs.Url.Form
import ODataExplorer.Proofs.Xml.Beginning
import ODataExplorer.Proofs.Xml.Source
import ODataExplorer.Proofs.Xml.Tree
import ODataExplorer.Query.Compile
import ODataExplorer.Query.Selection
import ODataExplorer.Query.ServiceUrl
import ODataExplorer.Server.Body
import ODataExplorer.Server.Host
import ODataExplorer.Server.Message
import ODataExplorer.Server.Origin
import ODataExplorer.Server.Route
import ODataExplorer.Server.Target
import ODataExplorer.Server.Token
import ODataExplorer.Service.Call
import ODataExplorer.Service.Data
import ODataExplorer.Service.Failure
import ODataExplorer.Service.Metadata
import ODataExplorer.Service.Plan
import ODataExplorer.Service.Raised
import ODataExplorer.Settings.Basic
import ODataExplorer.Settings.Environment
import ODataExplorer.Text.Blank
import ODataExplorer.Text.Case
import ODataExplorer.Text.CaseTable
import ODataExplorer.Text.Digit
import ODataExplorer.Text.Halved
import ODataExplorer.Text.Printable
import ODataExplorer.Text.Quoted
import ODataExplorer.Text.Range
import ODataExplorer.Text.Repertoire
import ODataExplorer.Text.Split
import ODataExplorer.Text.Utf8
import ODataExplorer.Url.Address
import ODataExplorer.Url.Form
import ODataExplorer.Url.Parts
import ODataExplorer.Validation.Complaint
import ODataExplorer.Validation.Field
import ODataExplorer.Validation.Request
import ODataExplorer.Xml.Char
import ODataExplorer.Xml.Declaration
import ODataExplorer.Xml.Doctype
import ODataExplorer.Xml.Fault
import ODataExplorer.Xml.NameTable
import ODataExplorer.Xml.PrologToken
import ODataExplorer.Xml.Reader
import ODataExplorer.Xml.Source
import ODataExplorer.Xml.StartTag
import ODataExplorer.Xml.Tree
import ODataExplorer.Proofs.Csdl.Refusal
import ODataExplorer.Proofs.Payload.Envelope
import ODataExplorer.Proofs.Service.Dialect
import ODataExplorer.Proofs.Url.Base
import ODataExplorer.Proofs.Query.ServiceUrl
import ODataExplorer.Proofs.Service.Location
import ODataExplorer.Proofs.Server.Access
import ODataExplorer.Proofs.Csdl.Alias
import ODataExplorer.Proofs.Service.Classified
import ODataExplorer.Proofs.Csdl.Completeness
import ODataExplorer.Proofs.Csdl.Rank
import ODataExplorer.Proofs.Query.Options
import ODataExplorer.Proofs.Query.Display
import ODataExplorer.Proofs.Url.Split
import ODataExplorer.Proofs.Url.FormBehind
import ODataExplorer.Proofs.Query.Written
import ODataExplorer.Proofs.Query.Lists
import ODataExplorer.Proofs.Url.Authority
import ODataExplorer.Proofs.Query.MetadataUrl
import ODataExplorer.Proofs.Csdl.Spelling
import ODataExplorer.Proofs.Csdl.AssociationRole
import ODataExplorer.Proofs.Csdl.NavigationTarget
import ODataExplorer.Proofs.Csdl.DetectedVersion
import ODataExplorer.Proofs.Csdl.LeadingNamespace
import ODataExplorer.Proofs.Csdl.NavigationAccount
import ODataExplorer.Proofs.Text.Quoted
import ODataExplorer.Proofs.Settings.Secrecy
