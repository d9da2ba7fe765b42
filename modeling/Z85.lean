import Z85.Alphabet
import Z85.Buffer
import Z85.Cli.Commands
import Z85.Cli.Error
import Z85.Cli.Files
import Z85.Cli.Invocation
import Z85.Cli.Log
import Z85.Cli.Process
import Z85.Cli.Run
import Z85.Cli.Schedule
import Z85.Codec
import Z85.Conformance
import Z85.Curve.Core
import Z85.Curve.Field
import Z85.Curve.Key
import Z85.Curve.Ladder
import Z85.Curve.Pair
import Z85.Decode
import Z85.Encode
import Z85.Error
import Z85.Frame
import Z85.Kind
import Z85.Layout
import Z85.Main
import Z85.Positional
import Z85.Reader
import Z85.Proofs.Grammar
import Z85.Proofs.Reference
import Z85.Proofs.Reading
import Z85.Shape
import Z85.Text.Blank
import Z85.Text.Hex
import Z85.Text.Lines
import Z85.Text.Printable
import Z85.Text.Quoted
import Z85.Text.Utf8
import Z85.Word
import Z85.Writer
import Z85.Proofs.RoundTrip
import Z85.Proofs.Rejection
import Z85.Proofs.Agreement
import Z85.Proofs.Bounds
import Z85.Proofs.TextForm
import Z85.Proofs.Concat
import Z85.Proofs.Fill
import Z85.Proofs.Keys
import Z85.Proofs.Commands
import Z85.Proofs.Writing
import Z85.Proofs.Lengths
import Z85.Proofs.FrameCodec
import Z85.Proofs.Check
import Z85.Proofs.Workers
