import StatefulLexer.Scanner
import StatefulLexer.Declaration.Shown
import StatefulLexer.Transform
import StatefulLexer.Proofs.Text.Excerpt.Layout
import StatefulLexer.Proofs.Regex.Search
import StatefulLexer.Proofs.Regex.Choice
import StatefulLexer.Proofs.Regex.Verbatim
import StatefulLexer.Proofs.Regex.Spelling
import StatefulLexer.Proofs.Regex.Admits
import StatefulLexer.Proofs.Regex.Captures
import StatefulLexer.Proofs.Rule.Compile
import StatefulLexer.Proofs.Rule.Newline
import StatefulLexer.Proofs.Rule.Keyword
import StatefulLexer.Proofs.State.Assemble
import StatefulLexer.Proofs.State.First
import StatefulLexer.Proofs.State.Newline
import StatefulLexer.Proofs.State.Empty
import StatefulLexer.Proofs.State.Division
import StatefulLexer.Proofs.State.Fallback
import StatefulLexer.Proofs.State.Measured
import StatefulLexer.Proofs.Table.Compile
import StatefulLexer.Proofs.Table.WellFormed
import StatefulLexer.Proofs.Table.Library
import StatefulLexer.Proofs.Table.Shared
import StatefulLexer.Proofs.Inclusion.Expand
import StatefulLexer.Proofs.Declaration.Undecorated
import StatefulLexer.Proofs.Declaration.Normal
import StatefulLexer.Proofs.Table.Undecorated
import StatefulLexer.Proofs.Run.Position
import StatefulLexer.Proofs.Run.LineBreaks
import StatefulLexer.Proofs.Run.Progress
import StatefulLexer.Proofs.Run.Resume
import StatefulLexer.Proofs.Run.Sound
import StatefulLexer.Proofs.Run.Fallback
import StatefulLexer.Proofs.Run.Checked
import StatefulLexer.Proofs.Run.Undecorated
import StatefulLexer.Proofs.Run.Library
import StatefulLexer.Proofs.Regex.Captured
import StatefulLexer.Proofs.Regex.Combined
import StatefulLexer.Proofs.Rule.Literal
import StatefulLexer.Proofs.State.Combined
import StatefulLexer.Proofs.Run.Reset
import StatefulLexer.Proofs.Run.Stack
import StatefulLexer.Proofs.Regex.Canonical
import StatefulLexer.Proofs.State.Value
import StatefulLexer.Proofs.Category.Hierarchy
import StatefulLexer.Proofs.Run.Categories
import StatefulLexer.Proofs.Run.Permuted
