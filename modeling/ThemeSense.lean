import ThemeSense.Collection
import ThemeSense.Color.Basic
import ThemeSense.Color.Css.Calc.Basic
import ThemeSense.Color.Css.Calc.Function
import ThemeSense.Color.Css.Calc.Reading
import ThemeSense.Color.Css.Mix
import ThemeSense.Color.Css.Parser
import ThemeSense.Color.Css.Reader
import ThemeSense.Color.Css.Reading
import ThemeSense.Color.Css.Space
import ThemeSense.Color.Css.Token
import ThemeSense.Color.Named
import ThemeSense.Color.Rgba
import ThemeSense.ColorQuery
import ThemeSense.CommandLine.Arguments
import ThemeSense.CommandLine.Report
import ThemeSense.Completion.Item
import ThemeSense.Completion.Provider
import ThemeSense.Completion.Record
import ThemeSense.Cursor.Slot
import ThemeSense.Cursor.Word
import ThemeSense.Decimal.Binary
import ThemeSense.Decimal.Fixed
import ThemeSense.Decimal.Reading
import ThemeSense.Decimal.Shortest
import ThemeSense.Disk
import ThemeSense.DocumentColor
import ThemeSense.Editor.Basic
import ThemeSense.Editor.Timeline
import ThemeSense.Hover
import ThemeSense.Json.Basic
import ThemeSense.Json.Lexing
import ThemeSense.Json.Printer
import ThemeSense.Json.Relaxed
import ThemeSense.Json.Strict
import ThemeSense.Json.Token
import ThemeSense.Main
import ThemeSense.Mention
import ThemeSense.Palette
import ThemeSense.Path
import ThemeSense.Proofs.Collection.Expansion
import ThemeSense.Proofs.Collection.Writing
import ThemeSense.Proofs.Color.Hexadecimal
import ThemeSense.Proofs.Color.Identifier
import ThemeSense.Proofs.Color.Named
import ThemeSense.Proofs.Color.Standard
import ThemeSense.Proofs.Completion.Declared
import ThemeSense.Proofs.Completion.Offered
import ThemeSense.Proofs.Completion.Ranks
import ThemeSense.Proofs.Completion.Resolving
import ThemeSense.Proofs.Cursor.ColorSlot
import ThemeSense.Proofs.Cursor.Deciding
import ThemeSense.Proofs.Cursor.Invocation
import ThemeSense.Proofs.Cursor.Pieces
import ThemeSense.Proofs.Cursor.Word
import ThemeSense.Proofs.Disk
import ThemeSense.Proofs.DocumentColor
import ThemeSense.Proofs.Editor.ConfigChange
import ThemeSense.Proofs.Editor.Course
import ThemeSense.Proofs.Editor.Deadlines
import ThemeSense.Proofs.Editor.Drawing
import ThemeSense.Proofs.Editor.DyingOut
import ThemeSense.Proofs.Editor.Instants
import ThemeSense.Proofs.Editor.Repeating
import ThemeSense.Proofs.Editor.Settling
import ThemeSense.Proofs.Editor.Underway
import ThemeSense.Proofs.Json.Delimiters
import ThemeSense.Proofs.Json.Leaves
import ThemeSense.Proofs.Json.Reading
import ThemeSense.Proofs.Json.Units
import ThemeSense.Proofs.Mention
import ThemeSense.Proofs.Mention.Grammar
import ThemeSense.Proofs.Mention.Ranges
import ThemeSense.Proofs.Palette.Asking
import ThemeSense.Proofs.Palette.Dialogue
import ThemeSense.Proofs.Palette.Faithful
import ThemeSense.Proofs.Palette.History
import ThemeSense.Proofs.Palette.Missing
import ThemeSense.Proofs.Palette.Renewal
import ThemeSense.Proofs.Path
import ThemeSense.Proofs.Script.Bodies
import ThemeSense.Proofs.Script.ByteReading
import ThemeSense.Proofs.Script.Causes
import ThemeSense.Proofs.Script.Conserving
import ThemeSense.Proofs.Script.Inlining
import ThemeSense.Proofs.Script.Lexing
import ThemeSense.Proofs.Script.Meaning
import ThemeSense.Proofs.Script.Parts
import ThemeSense.Proofs.Script.Passage
import ThemeSense.Proofs.Script.Places
import ThemeSense.Proofs.Script.Scanner
import ThemeSense.Proofs.Script.Scanning
import ThemeSense.Proofs.Script.Source
import ThemeSense.Proofs.Script.Tree
import ThemeSense.Proofs.Script.Verbatim
import ThemeSense.Proofs.Script.Words
import ThemeSense.Proofs.Server.Documents
import ThemeSense.Proofs.Server.Reloading
import ThemeSense.Proofs.Split
import ThemeSense.Proofs.Standing
import ThemeSense.Proofs.Table
import ThemeSense.Proofs.Text.Columns
import ThemeSense.Proofs.Text.Offsets
import ThemeSense.Proofs.Text.Pattern
import ThemeSense.Proofs.Text.Position
import ThemeSense.Proofs.Text.Runs
import ThemeSense.Proofs.Text.Trimming
import ThemeSense.Proofs.Text.Utf8
import ThemeSense.Proofs.Theme.Agreement
import ThemeSense.Proofs.Theme.Answers
import ThemeSense.Proofs.Theme.Deferred
import ThemeSense.Proofs.Theme.Discovery
import ThemeSense.Proofs.Theme.Invocations
import ThemeSense.Proofs.Theme.Lookup
import ThemeSense.Proofs.Theme.Sections
import ThemeSense.Protocol.Completion
import ThemeSense.Protocol.Decode
import ThemeSense.Protocol.Place
import ThemeSense.Protocol.Report
import ThemeSense.Script.Inline
import ThemeSense.Script.Lexeme
import ThemeSense.Server.Dispatch
import ThemeSense.Server.Exchange
import ThemeSense.Server.Message
import ThemeSense.Server.Reply
import ThemeSense.Server.Session
import ThemeSense.Table
import ThemeSense.Text.Blank
import ThemeSense.Text.Hex
import ThemeSense.Text.Letter
import ThemeSense.Text.Pattern
import ThemeSense.Text.Position
import ThemeSense.Text.Ranges
import ThemeSense.Text.Word
import ThemeSense.Theme.Basic
import ThemeSense.Theme.ColorSource
import ThemeSense.Theme.ColorTable
import ThemeSense.Theme.Config
import ThemeSense.Theme.Discovery
import ThemeSense.Theme.Reading
import ThemeSense.Uri
