import FieldList.CommandLine.Arguments
import FieldList.CommandLine.Export
import FieldList.CommandLine.Failure
import FieldList.CommandLine.Help
import FieldList.CommandLine.Input
import FieldList.CommandLine.Log
import FieldList.CommandLine.Options
import FieldList.CommandLine.Report
import FieldList.CommandLine.Run
import FieldList.CommandLine.SourceLog
import FieldList.Content
import FieldList.DateFormat
import FieldList.Decimal.Binary64
import FieldList.Decimal.Shortest
import FieldList.Docx.Archive
import FieldList.Docx.Document
import FieldList.Docx.Package
import FieldList.Docx.Page
import FieldList.Field
import FieldList.Files.Tree
import FieldList.Format
import FieldList.Json.Field
import FieldList.Json.Printer
import FieldList.Json.Reader
import FieldList.Json.Table
import FieldList.Json.Value
import FieldList.Listing
import FieldList.Main
import FieldList.Markdown
import FieldList.Proofs.CommandLine.Export
import FieldList.Proofs.CommandLine.Library
import FieldList.Proofs.CommandLine.Listing
import FieldList.Proofs.Docx.Characters
import FieldList.Proofs.Docx.Marks
import FieldList.Proofs.Docx.Reading
import FieldList.Proofs.Files.Writing
import FieldList.Proofs.Json.Field
import FieldList.Proofs.Json.Grammar
import FieldList.Proofs.Json.Leaves
import FieldList.Proofs.Json.Printing
import FieldList.Proofs.Json.Reading
import FieldList.Proofs.Json.Table
import FieldList.Proofs.Markdown.Alignment
import FieldList.Proofs.Markdown.Lines
import FieldList.Proofs.Markdown.Reading
import FieldList.Proofs.Publication.Outcome
import FieldList.Proofs.Registry.History
import FieldList.Proofs.Settings.Merging
import FieldList.Proofs.Settings.NamedFiles
import FieldList.Proofs.Settings.Precedence
import FieldList.Proofs.Source.Assembly
import FieldList.Proofs.Source.Contents
import FieldList.Proofs.Source.Description
import FieldList.Proofs.Source.Events
import FieldList.Proofs.Source.Grammar
import FieldList.Proofs.Source.History
import FieldList.Proofs.Source.Layout
import FieldList.Proofs.Source.Literal
import FieldList.Proofs.Source.Printing
import FieldList.Proofs.Source.Quotation
import FieldList.Proofs.Source.Relayout
import FieldList.Proofs.Source.Replacement
import FieldList.Proofs.Source.Seams
import FieldList.Proofs.Source.Windows
import FieldList.Proofs.Table.Labels
import FieldList.Proofs.Text.ByteOrder
import FieldList.Proofs.Text.Reading
import FieldList.Proofs.Xml.Reading
import FieldList.Publish
import FieldList.Registry
import FieldList.Settings.Decode
import FieldList.Settings.Error
import FieldList.Settings.KeyPath
import FieldList.Settings.Loader
import FieldList.Settings.Publication
import FieldList.Settings.Value
import FieldList.Source.Event
import FieldList.Source.Fields
import FieldList.Source.Pending
import FieldList.Table
import FieldList.Text.Blank
import FieldList.Text.Lines
import FieldList.Text.LowerCase
import FieldList.Text.Padding
import FieldList.Text.Printable
import FieldList.Text.Quoted
import FieldList.Text.Ranges
import FieldList.Text.Search
import FieldList.Text.Terminal
import FieldList.Text.Word
import FieldList.Toml.DateTable
import FieldList.Toml.Quoted
import FieldList.Toml.Reader
import FieldList.Toml.Scalar
import FieldList.Toml.Tables
import FieldList.Toml.Value
import FieldList.Xml
import FieldList.Proofs.Markdown.Widths
