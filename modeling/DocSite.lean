import DocSite.Files.World
import DocSite.Main
import DocSite.Proofs.Heading.Ids
import DocSite.Proofs.Document.Shown
import DocSite.Proofs.Page.Layout
import DocSite.Proofs.Page.Pieces
import DocSite.Proofs.Html.Markup
import DocSite.Proofs.Page.Settling
import DocSite.Proofs.Html.Escape
import DocSite.Proofs.Html.Reading
import DocSite.Proofs.Page.Sound
import DocSite.Proofs.Highlight.Plain
import DocSite.Proofs.Highlight.Marks
import DocSite.Proofs.Page.WellFormed
import DocSite.Proofs.Html.Entity
import DocSite.Proofs.Html.VisibleText
import DocSite.Proofs.Document.ReferenceText
import DocSite.Proofs.Page.VisibleText
import DocSite.Proofs.Html.Headings
import DocSite.Proofs.Page.Headings
import DocSite.Proofs.Page.Walk
import DocSite.Proofs.Page.Outline
import DocSite.Proofs.Page.Footnotes
import DocSite.Proofs.Text.Split
import DocSite.Proofs.Except
import DocSite.Proofs.Path
import DocSite.Proofs.Manifest.Entries
import DocSite.Proofs.Manifest.Summary
import DocSite.Proofs.Manifest.Sections
import DocSite.Proofs.Link
import DocSite.Proofs.Manifest.Address
import DocSite.Proofs.Manifest.Host
import DocSite.Proofs.Text.Word
import DocSite.Proofs.Highlight.Directive
import DocSite.Proofs.Highlight.LineSelection
import DocSite.Proofs.Page.CodeClass
import DocSite.Proofs.Document.Visited
import DocSite.Proofs.Document.Attributes
import DocSite.Proofs.Page.Admission
import DocSite.Proofs.Page.Composition
import DocSite.Proofs.Page.Failure
import DocSite.Proofs.Page.Themed
import DocSite.Proofs.Html.Template
import DocSite.Proofs.Page.LinkElement
import DocSite.Proofs.Page.MailLinks
import DocSite.Proofs.Page.Outputs
import DocSite.Proofs.Html.LinkTags
import DocSite.Proofs.Page.Links
import DocSite.Proofs.Json.RoundTrip
import DocSite.Proofs.Manifest.RoundTrip
import DocSite.Proofs.Files.Run
import DocSite.Proofs.Files.Tree
import DocSite.Proofs.Config.Keys
import DocSite.Proofs.Config.Merge
import DocSite.Proofs.Config.Overrides
import DocSite.Proofs.Config.Settings
import DocSite.Proofs.Config.Load
import DocSite.Proofs.Command.Trace
import DocSite.Proofs.Html.References
import DocSite.Proofs.Text.Lowercase
import DocSite.Proofs.Heading.Slug
import DocSite.Proofs.Markdown.HeadingMarker
import DocSite.Proofs.Page.Admonition
import DocSite.Proofs.Manifest.Tasks
import DocSite.Proofs.Config.Printed
