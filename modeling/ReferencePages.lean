import ReferencePages.Text.Basic
import ReferencePages.Text.Blank
import ReferencePages.Text.Identifier
import ReferencePages.Text.Ranges
import ReferencePages.Text.Showable
import ReferencePages.Text.Alphanumeric
import ReferencePages.Text.CaseMap
import ReferencePages.Json.Value
import ReferencePages.Json.Number
import ReferencePages.Json.Token
import ReferencePages.Json.Reader
import ReferencePages.Json.Printer
import ReferencePages.Record
import ReferencePages.Source.Error
import ReferencePages.Source.Basic
import ReferencePages.Source.DocBlock
import ReferencePages.Declaration.Comment
import ReferencePages.Declaration.Assignment
import ReferencePages.Declaration.Header
import ReferencePages.Declaration.Signature
import ReferencePages.Source.ClassHeader
import ReferencePages.Source.FunctionHeader
import ReferencePages.Source.Member
import ReferencePages.Source.ModuleVariable
import ReferencePages.Source.Reexport
import ReferencePages.Declaration.Nesting
import ReferencePages.Declaration.Parameter
import ReferencePages.Source.Tags
import ReferencePages.Assembly
import ReferencePages.Warning
import ReferencePages.Plan
import ReferencePages.Markdown.Fence
import ReferencePages.Markdown.Escape
import ReferencePages.Markdown.Heading
import ReferencePages.Markdown.Anchor
import ReferencePages.Contents
import ReferencePages.Markdown.Layout
import ReferencePages.Arrangement
import ReferencePages.ClassPage
import ReferencePages.FileName
import ReferencePages.ClassLookup
import ReferencePages.Reference
import ReferencePages.OutputFormat
import ReferencePages.Document
import ReferencePages.Inheritance
import ReferencePages.Path
import ReferencePages.Disk
import ReferencePages.Command.Host
import ReferencePages.Command.Halt
import ReferencePages.Command.Pattern
import ReferencePages.Command.Inputs
import ReferencePages.Text.Quoted
import ReferencePages.Command.Arguments
import ReferencePages.Command.Run
import ReferencePages.Main
import ReferencePages.Proofs.Text.Ends
import ReferencePages.Proofs.Markdown.Passage
import ReferencePages.Proofs.Document.Parts
import ReferencePages.Proofs.Document.ReadBack
import ReferencePages.Proofs.Source.Blocks
import ReferencePages.Proofs.Source.Records
import ReferencePages.Proofs.Document.Members
import ReferencePages.Proofs.Document.OfClass
import ReferencePages.Proofs.Arrangement.ReadBack
import ReferencePages.Proofs.Inheritance.Union
import ReferencePages.Proofs.Inheritance.Renamed
import ReferencePages.Proofs.Inheritance.Steps
import ReferencePages.Proofs.Arrangement.Accounting
import ReferencePages.Proofs.Source.Selection
import ReferencePages.Proofs.Document.ClassOutline
import ReferencePages.Proofs.Document.Recognition
import ReferencePages.Proofs.Source.ClassLines
import ReferencePages.Proofs.Source.Displacement
import ReferencePages.Proofs.Source.Bounds
import ReferencePages.Proofs.Source.ReversedRange
import ReferencePages.Proofs.Source.InsideBlocks
import ReferencePages.Proofs.Disk.Paths
import ReferencePages.Proofs.Disk.Changes
import ReferencePages.Proofs.Command.OnDisk
import ReferencePages.Proofs.Command.Documents
import ReferencePages.Proofs.Command.Isolation
import ReferencePages.Proofs.Source.StrictMode
import ReferencePages.Proofs.Source.OneWalk
import ReferencePages.Proofs.Json.Spelling
import ReferencePages.Proofs.Plan.Store
import ReferencePages.Proofs.Command.Expansion
import ReferencePages.Proofs.Command.Pages
import ReferencePages.Proofs.Contents.Anchors
import ReferencePages.Proofs.Declaration.Nesting
import ReferencePages.Proofs.Declaration.Calls
import ReferencePages.Proofs.Declaration.SignatureLayout
import ReferencePages.Proofs.Source.HeaderLayout
import ReferencePages.Proofs.Declaration.Literals
import ReferencePages.Proofs.Declaration.Spacing
import ReferencePages.Proofs.Source.SignatureLiterals
import ReferencePages.Proofs.Source.BlockLayout
import ReferencePages.Proofs.Source.TrailingComment
import ReferencePages.Proofs.Source.UnclosedBlocks
import ReferencePages.Proofs.Source.Portions
import ReferencePages.Proofs.Markdown.Cells
import ReferencePages.Proofs.Contents.FileClasses
import ReferencePages.Proofs.Text.Pads
import ReferencePages.Proofs.Declaration.Comments
import ReferencePages.Proofs.Source.EnumMembers
import ReferencePages.Proofs.Source.ImportLayout
import ReferencePages.Proofs.Document.Ranges
import ReferencePages.Proofs.Disk.SameTree
import ReferencePages.Proofs.Disk.Spellings
import ReferencePages.Proofs.Command.Lookups
import ReferencePages.Proofs.Command.SideBySide
import ReferencePages.Proofs.Command.SpelledFiles
import ReferencePages.Proofs.Command.Reordering
import ReferencePages.Proofs.Source.Advance
import ReferencePages.Proofs.Declaration.TopLevel
import ReferencePages.Proofs.Declaration.SignatureNesting
import ReferencePages.Proofs.Document.EscapedProse
import ReferencePages.Proofs.Inheritance.RenamedCalls
