import ClassHeader.ClassFile.BigEndian
import ClassHeader.ClassFile.Reader
import ClassHeader.ClassFile.Sink
import ClassHeader.ClassFile.Writer
import ClassHeader.Constant.Basic
import ClassHeader.Constant.Kind
import ClassHeader.Constant.Text
import ClassHeader.Number.Binary
import ClassHeader.Number.Layout
import ClassHeader.Number.Shortest
import ClassHeader.Pool.Basic
import ClassHeader.Pool.Entry
import ClassHeader.Pool.Journal
import ClassHeader.Proofs.ClassFile.Distinct
import ClassHeader.Proofs.ClassFile.Emission
import ClassHeader.Proofs.ClassFile.Limit
import ClassHeader.Proofs.ClassFile.Replay
import ClassHeader.Proofs.ClassFile.RoundTrip
import ClassHeader.Proofs.ClassFile.TextLength
import ClassHeader.Proofs.Constant.Distinct
import ClassHeader.Proofs.Constant.Equality
import ClassHeader.Proofs.Constant.Text
import ClassHeader.Proofs.Number.Equality
import ClassHeader.Proofs.Number.Layout
import ClassHeader.Proofs.Number.Shortest
import ClassHeader.Proofs.Pool.Canonical
import ClassHeader.Proofs.Pool.Coherence
import ClassHeader.Proofs.Pool.Constants
import ClassHeader.Proofs.Pool.Deduplication
import ClassHeader.Proofs.Pool.IndexSpace
import ClassHeader.Proofs.Pool.Journal
import ClassHeader.Proofs.Pool.Ledger
import ClassHeader.Proofs.Pool.Maps
import ClassHeader.Proofs.Pool.Message
import ClassHeader.Proofs.Pool.Numbering
import ClassHeader.Proofs.Pool.Order
import ClassHeader.Proofs.Pool.Overflow
import ClassHeader.Proofs.Pool.Permanence
import ClassHeader.Proofs.Pool.Refinement
import ClassHeader.Proofs.Pool.Replay
import ClassHeader.Proofs.Pool.Search
import ClassHeader.Proofs.Pool.WellFormed
import ClassHeader.Proofs.Text.Closing
import ClassHeader.Proofs.Text.Items
import ClassHeader.Proofs.Text.Lines
import ClassHeader.Proofs.Text.Literal
import ClassHeader.Proofs.Text.ModifiedUtf8
import ClassHeader.Proofs.Text.Quoted
import ClassHeader.Proofs.Text.Utf16
import ClassHeader.Proofs.Text.Words
import ClassHeader.Proofs.Tree.Annotation
import ClassHeader.Proofs.Tree.AnnotationReadBack
import ClassHeader.Proofs.Tree.Arithmetic
import ClassHeader.Proofs.Tree.Array
import ClassHeader.Proofs.Tree.Copy
import ClassHeader.Proofs.Tree.Dimensions
import ClassHeader.Proofs.Tree.Equality
import ClassHeader.Proofs.Tree.Folded
import ClassHeader.Proofs.Tree.Layout
import ClassHeader.Proofs.Tree.Literals
import ClassHeader.Proofs.Tree.Names
import ClassHeader.Proofs.Tree.Nodes
import ClassHeader.Proofs.Tree.Outline
import ClassHeader.Proofs.Tree.Pieces
import ClassHeader.Proofs.Tree.ReadBack
import ClassHeader.Proofs.Tree.Reader
import ClassHeader.Proofs.Tree.References
import ClassHeader.Proofs.Tree.TypeReadBack
import ClassHeader.Proofs.Tree.Visitor
import ClassHeader.Text.Literal
import ClassHeader.Text.ModifiedUtf8
import ClassHeader.Text.Quoted
import ClassHeader.Text.Utf16
import ClassHeader.Text.Visible
import ClassHeader.Tree.Array
import ClassHeader.Tree.Basic
import ClassHeader.Tree.Equality
import ClassHeader.Tree.Kind
import ClassHeader.Tree.Modifier
import ClassHeader.Tree.Operator
import ClassHeader.Tree.Outline
import ClassHeader.Tree.Printer
import ClassHeader.Tree.References
import ClassHeader.Tree.Visitor
