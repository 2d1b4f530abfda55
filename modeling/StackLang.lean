import StackLang.Binary32.Arith
import StackLang.Binary32.Layout
import StackLang.Text.Letter
import StackLang.Text.Numeral
import StackLang.Text.Attached
import StackLang.Text.Hidden
import StackLang.Text.Blank
import StackLang.Text.Quoted
import StackLang.Text.Padding
import StackLang.Text.Bytes
import StackLang.Token.Stream
import StackLang.Token.Dump
import StackLang.Program.Parser
import StackLang.Table.Constants
import StackLang.Table.Names
import StackLang.Table.Slots
import StackLang.Code.Instruction
import StackLang.Code.CodeUnit
import StackLang.Code.StackCheck
import StackLang.Compile.Emitter
import StackLang.Machine.Run
import StackLang.Session.Basic
import StackLang.CommandLine
import StackLang.Main
import StackLang.Proofs.Codec
import StackLang.Proofs.Simulation
import StackLang.Proofs.Parsing
import StackLang.Proofs.Requests
import StackLang.Proofs.Batch
import StackLang.Proofs.Lexical
import StackLang.Proofs.Scanning
import StackLang.Proofs.Height
import StackLang.Proofs.Growth
import StackLang.Proofs.Persistence
import StackLang.Proofs.Inference
import StackLang.Proofs.Frame
import StackLang.Proofs.Room
import StackLang.Proofs.Truncation
import StackLang.Proofs.StepLimit
import StackLang.Proofs.Printing
import StackLang.Proofs.Numbering
import StackLang.Proofs.Depth
import StackLang.Proofs.Recovery
import StackLang.Proofs.Dialogue
import StackLang.Proofs.Malformed
import StackLang.Proofs.Reading
import StackLang.Proofs.NameMap
import StackLang.Proofs.SlotMap
import StackLang.Proofs.Links
