import CodeBrowser.Color
import CodeBrowser.Decimal.Shortest
import CodeBrowser.Disk
import CodeBrowser.Font
import CodeBrowser.Font.Measuring
import CodeBrowser.Font.Screen
import CodeBrowser.Font.WidthCache
import CodeBrowser.Geometry.Margins
import CodeBrowser.Geometry.Rect
import CodeBrowser.Geometry.Rounding
import CodeBrowser.Geometry.Scalar
import CodeBrowser.Grammar
import CodeBrowser.Grammar.Highlight
import CodeBrowser.Index.Json
import CodeBrowser.Index.Records
import CodeBrowser.Index.Store
import CodeBrowser.Index.Table
import CodeBrowser.Json.Reader
import CodeBrowser.Json.Record
import CodeBrowser.Json.Value
import CodeBrowser.Layout.Line
import CodeBrowser.Layout.Measuring
import CodeBrowser.Layout.VisibleLines
import CodeBrowser.Lexical
import CodeBrowser.Location
import CodeBrowser.Navigation.CrossReferences
import CodeBrowser.Navigation.History
import CodeBrowser.Paint.Canvas
import CodeBrowser.Paint.Coloring
import CodeBrowser.Paint.Gutter
import CodeBrowser.Path
import CodeBrowser.Preferences
import CodeBrowser.Preferences.Json
import CodeBrowser.Preferences.Store
import CodeBrowser.Proofs.Color.Reading
import CodeBrowser.Proofs.Disk.Canonical
import CodeBrowser.Proofs.Font.WidthCache
import CodeBrowser.Proofs.Geometry.Order
import CodeBrowser.Proofs.Geometry.SubZero
import CodeBrowser.Proofs.Index.Agreement
import CodeBrowser.Proofs.Index.Answering
import CodeBrowser.Proofs.Index.Files
import CodeBrowser.Proofs.Index.Names
import CodeBrowser.Proofs.Index.References
import CodeBrowser.Proofs.Index.Scan
import CodeBrowser.Proofs.Index.Symbols
import CodeBrowser.Proofs.Json.Layout
import CodeBrowser.Proofs.Json.Reading
import CodeBrowser.Proofs.Json.RoundTrip
import CodeBrowser.Proofs.Layout.Columns
import CodeBrowser.Proofs.Layout.Spelling
import CodeBrowser.Proofs.Layout.Tiling
import CodeBrowser.Proofs.Layout.VisibleLines
import CodeBrowser.Proofs.Layout.Walk
import CodeBrowser.Proofs.Paint.Coloring
import CodeBrowser.Proofs.Paint.Compositing
import CodeBrowser.Proofs.Paint.Gutter
import CodeBrowser.Proofs.Paint.Pen
import CodeBrowser.Proofs.Path.Components
import CodeBrowser.Proofs.Preferences.Validity
import CodeBrowser.Proofs.Scroll.Bar
import CodeBrowser.Proofs.Scroll.Reveal
import CodeBrowser.Proofs.Session.Failures
import CodeBrowser.Proofs.Session.FileCache
import CodeBrowser.Proofs.Session.Restoring
import CodeBrowser.Proofs.Session.Settings
import CodeBrowser.Proofs.Session.Stages
import CodeBrowser.Proofs.Session.Turning
import CodeBrowser.Proofs.Text.Characters
import CodeBrowser.Proofs.Text.Decoding
import CodeBrowser.Proofs.Text.LinePartition
import CodeBrowser.Proofs.Text.Lines
import CodeBrowser.Proofs.Text.Opening
import CodeBrowser.Proofs.Text.Pieces
import CodeBrowser.Proofs.Text.Utf16
import CodeBrowser.Proofs.Text.Utf8
import CodeBrowser.Proofs.Text.WordPartition
import CodeBrowser.Proofs.Text.Words
import CodeBrowser.Proofs.View.Current
import CodeBrowser.Proofs.View.Measuring
import CodeBrowser.Proofs.View.Painting
import CodeBrowser.Proofs.View.Pointing
import CodeBrowser.Proofs.View.Request
import CodeBrowser.Proofs.View.Selection
import CodeBrowser.Proofs.View.Settings
import CodeBrowser.Proofs.View.SizeHint
import CodeBrowser.Proofs.View.VisibleText
import CodeBrowser.Proofs.Widget.Arrangement
import CodeBrowser.Proofs.Widget.Clicks
import CodeBrowser.Proofs.Widget.Revealing
import CodeBrowser.Proofs.Widget.Scrolling
import CodeBrowser.Proofs.Widget.Still
import CodeBrowser.Scroll.Bar
import CodeBrowser.Scroll.Reveal
import CodeBrowser.Session.Basic
import CodeBrowser.Session.Element
import CodeBrowser.Session.FileCache
import CodeBrowser.Session.Frame
import CodeBrowser.Session.Navigation
import CodeBrowser.Session.Shortcut
import CodeBrowser.Session.Start
import CodeBrowser.Session.Status
import CodeBrowser.Session.Step
import CodeBrowser.Session.Surroundings
import CodeBrowser.SourceFile
import CodeBrowser.SourceFile.Store
import CodeBrowser.Symbol
import CodeBrowser.Text.Charset
import CodeBrowser.Text.Charset.Tables
import CodeBrowser.Text.Line
import CodeBrowser.Text.Utf16
import CodeBrowser.Text.Utf8
import CodeBrowser.TextEncoding
import CodeBrowser.Theme
import CodeBrowser.Theme.Choice
import CodeBrowser.Theme.Json
import CodeBrowser.View.Basic
import CodeBrowser.View.Event
import CodeBrowser.View.Geometry
import CodeBrowser.View.Measuring
import CodeBrowser.View.Operation
import CodeBrowser.View.Painting
import CodeBrowser.View.Pointer
import CodeBrowser.Widget.Arrangement
import CodeBrowser.Widget.Basic
import CodeBrowser.Widget.Frame
import CodeBrowser.Widget.Painting
import CodeBrowser.Widget.Pointer
import CodeBrowser.Widget.Routing
import CodeBrowser.Widget.Scrolling
import CodeBrowser.Word
