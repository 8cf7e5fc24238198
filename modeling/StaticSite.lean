import StaticSite.Proofs.Agreement
import StaticSite.Proofs.Material
import StaticSite.Proofs.Settled
import StaticSite.Server.Connection
import StaticSite.Server.Program
import StaticSite.Settings.Attribute
import StaticSite.Settings.Unchecked
import StaticSite.Site.History
import StaticSite.Proofs.PathText
import StaticSite.Proofs.Resolution
import StaticSite.Proofs.MaterialAgreement
import StaticSite.Proofs.Containment
import StaticSite.Proofs.Starting
import StaticSite.Proofs.Lexical
import StaticSite.Proofs.PlainTree
import StaticSite.Proofs.Cuts
import StaticSite.Proofs.ShownPath
import StaticSite.Proofs.Rounding
import StaticSite.Proofs.KeptTimes
import StaticSite.Proofs.Serving
import StaticSite.Proofs.Asking
import StaticSite.Proofs.HeaderNames
import StaticSite.Proofs.HeaderValues
import StaticSite.Proofs.Framing
import StaticSite.Proofs.Arrival
import StaticSite.Proofs.WireRefinement
import StaticSite.Proofs.Histories
import StaticSite.Proofs.References
import StaticSite.Proofs.StartOutcome
import StaticSite.Proofs.Collapse
import StaticSite.Proofs.Precedence
import StaticSite.Proofs.Loading
import StaticSite.Proofs.Routing
import StaticSite.Proofs.Authority
import StaticSite.Proofs.Legible
import StaticSite.Proofs.Relocation
import StaticSite.Proofs.Recording
import StaticSite.Proofs.Absent
import StaticSite.Proofs.Withstanding
import StaticSite.Proofs.Numerals
import StaticSite.Proofs.Ranges
import StaticSite.Proofs.Sending
import StaticSite.Proofs.Unbroken
import StaticSite.Proofs.PartialContent
import StaticSite.Proofs.Calendar
import StaticSite.Proofs.DateText
import StaticSite.Proofs.OtherHeaders
import StaticSite.Proofs.Revalidation
import StaticSite.Proofs.ModifiedSince
import StaticSite.Proofs.HeadersOnly
import StaticSite.Proofs.Coding
import StaticSite.Proofs.Redirects
import StaticSite.Proofs.LocationText
import StaticSite.Proofs.IndexRedirect
import StaticSite.Proofs.Following
import StaticSite.Proofs.Checking
import StaticSite.Proofs.Restoring
import StaticSite.Proofs.Promises
import StaticSite.Proofs.Lines
import StaticSite.Proofs.Quoting
import StaticSite.Proofs.LetterCase
import StaticSite.Proofs.PlainLines
import StaticSite.Proofs.Spelling
import StaticSite.Proofs.Respelling
import StaticSite.Proofs.NamedPath
import StaticSite.Proofs.OneLine
import StaticSite.Proofs.Queries
import StaticSite.Proofs.OtherMethods
import StaticSite.Proofs.AddressSpellings
import StaticSite.Proofs.LevelNames
import StaticSite.Proofs.JsonReading
import StaticSite.Proofs.Refusals
import StaticSite.Proofs.AlikeTrees
import StaticSite.Proofs.OneFileApart
import StaticSite.Proofs.Thresholds
import StaticSite.Proofs.Expansion
import StaticSite.Proofs.OpenSockets
