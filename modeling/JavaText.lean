import JavaText.Canonical.Draft
import JavaText.Canonical.Spacing
import JavaText.Command.Arguments
import JavaText.Command.Basic
import JavaText.Command.Compare
import JavaText.Command.Host
import JavaText.Command.Log
import JavaText.Command.Run
import JavaText.Command.Serialize
import JavaText.Command.Serializer
import JavaText.Command.Settings
import JavaText.Diff.Alignment
import JavaText.Diff.Hunk
import JavaText.Diff.Report
import JavaText.Diff.Run
import JavaText.Encoding.Basic
import JavaText.Encoding.Decode
import JavaText.Encoding.Encode
import JavaText.Files.Basic
import JavaText.Files.Glob
import JavaText.Files.Path
import JavaText.Json.Basic
import JavaText.Json.Reader
import JavaText.Json.Writer
import JavaText.Kind.Basic
import JavaText.Kind.Construct
import JavaText.Kind.Token
import JavaText.Lambda
import JavaText.Lexeme
import JavaText.Main
import JavaText.Node
import JavaText.ParseTree.Basic
import JavaText.ParseTree.Import
import JavaText.ParseTree.Java
import JavaText.ParseTree.Naming
import JavaText.ParseTree.Stream
import JavaText.Proofs.Canonical.Composition
import JavaText.Proofs.Canonical.Formatting
import JavaText.Proofs.Canonical.Layout
import JavaText.Proofs.Canonical.Moved
import JavaText.Proofs.Canonical.ReadBack
import JavaText.Proofs.Canonical.ReturnGuard
import JavaText.Proofs.Command.Batch
import JavaText.Proofs.Command.Order
import JavaText.Proofs.Command.Outputs
import JavaText.Proofs.Diff.Alignment
import JavaText.Proofs.Diff.Grouping
import JavaText.Proofs.Diff.OwnLines
import JavaText.Proofs.Diff.Patch
import JavaText.Proofs.Diff.Report
import JavaText.Proofs.Diff.Written
import JavaText.Proofs.Encoding.Ascii
import JavaText.Proofs.Encoding.Unambiguous
import JavaText.Proofs.Files.Paths
import JavaText.Proofs.Files.Writing
import JavaText.Proofs.Json.Grammar
import JavaText.Proofs.Json.Nesting
import JavaText.Proofs.Json.Parsing
import JavaText.Proofs.Json.Strings
import JavaText.Proofs.Json.Values
import JavaText.Proofs.Lambda.Trivia
import JavaText.Proofs.Lexeme.Classification
import JavaText.Proofs.Lexeme.Comment
import JavaText.Proofs.Lexeme.Disjoint
import JavaText.Proofs.ParseTree.Contraction
import JavaText.Proofs.ParseTree.Reproduction
import JavaText.Proofs.ParseTree.Session
import JavaText.Proofs.ParseTree.Steps
import JavaText.Proofs.ParseTree.Storing
import JavaText.Proofs.ParseTree.Visible
import JavaText.Proofs.ParseTree.Window
import JavaText.Proofs.Regex.Apart
import JavaText.Proofs.Regex.Membership
import JavaText.Proofs.Store.Agreement
import JavaText.Proofs.Store.Ancestry
import JavaText.Proofs.Store.Document
import JavaText.Proofs.Store.Effects
import JavaText.Proofs.Store.Equality
import JavaText.Proofs.Store.Forest
import JavaText.Proofs.Store.Linking
import JavaText.Proofs.Store.Listing
import JavaText.Proofs.Store.Offence
import JavaText.Proofs.Store.Outline
import JavaText.Proofs.Store.Shape
import JavaText.Proofs.Store.Surgery
import JavaText.Proofs.Store.Tips
import JavaText.Proofs.Store.Undo
import JavaText.Proofs.Store.Unfold
import JavaText.Proofs.Text.Quoting
import JavaText.Proofs.Tree.Bytes
import JavaText.Proofs.Tree.Document
import JavaText.Proofs.Tree.Labels
import JavaText.Proofs.Tree.Language
import JavaText.Proofs.Tree.Outline
import JavaText.Regex
import JavaText.Store.Basic
import JavaText.Store.Canonical
import JavaText.Store.Export
import JavaText.Store.Layout
import JavaText.Store.RoundTrip
import JavaText.Store.Surgery
import JavaText.Store.Walk
import JavaText.Text.Basic
import JavaText.Text.Blank
import JavaText.Text.Case
import JavaText.Text.Cased
import JavaText.Text.Digit
import JavaText.Text.Field
import JavaText.Text.Lines
import JavaText.Text.Name
import JavaText.Text.Number
import JavaText.Text.Printable
import JavaText.Text.Quoted
import JavaText.Text.Size
import JavaText.Text.Word
import JavaText.Tree.Basic
import JavaText.Tree.Codec
import JavaText.Tree.Focus
import JavaText.Tree.Json
import JavaText.Tree.Outline
