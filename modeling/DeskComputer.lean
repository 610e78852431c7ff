import DeskComputer.Main
import DeskComputer.Proofs.Word.Binary
import DeskComputer.Proofs.Word.Codec
import DeskComputer.Proofs.Word.Bijection
import DeskComputer.Proofs.Text.Classes
import DeskComputer.Proofs.Text.Cutting
import DeskComputer.Proofs.Text.Decimal
import DeskComputer.Proofs.Text.LetterCase
import DeskComputer.Proofs.Text.Positional
import DeskComputer.Proofs.Source.Splitting
import DeskComputer.Proofs.Source.Layout
import DeskComputer.Proofs.Source.Numerals
import DeskComputer.Proofs.Source.Numbers
import DeskComputer.Proofs.Source.Spelling
import DeskComputer.Proofs.Source.Names
import DeskComputer.Proofs.Source.Addresses
import DeskComputer.Proofs.Source.FreeForm
import DeskComputer.Proofs.Source.LetterCase
import DeskComputer.Proofs.Machine.History
import DeskComputer.Proofs.Machine.Representation
import DeskComputer.Proofs.Machine.Lifecycle
import DeskComputer.Proofs.Machine.Reset
import DeskComputer.Proofs.Machine.FailedReset
import DeskComputer.Proofs.Machine.IteratedRun
import DeskComputer.Proofs.Machine.SplitRun
import DeskComputer.Proofs.Machine.Unrolling
import DeskComputer.Proofs.Machine.Chronicle
import DeskComputer.Proofs.Machine.Erasure
import DeskComputer.Proofs.Machine.Calls
import DeskComputer.Proofs.Machine.Journal
import DeskComputer.Proofs.Machine.Memory
import DeskComputer.Proofs.Machine.Buffers
import DeskComputer.Proofs.Program.Linking
import DeskComputer.Proofs.Program.Assembly
import DeskComputer.Proofs.Program.Views
import DeskComputer.Proofs.Program.Relisting
import DeskComputer.Proofs.Program.Execution
import DeskComputer.Proofs.Program.LabelJump
import DeskComputer.Proofs.Program.LinkRegister
import DeskComputer.Proofs.Program.FirstError
import DeskComputer.Proofs.Program.Sessions
import DeskComputer.Proofs.Program.Concatenation
import DeskComputer.Proofs.Program.LetterCase
import DeskComputer.Proofs.Machine.Breakpoints
import DeskComputer.Proofs.Machine.Frames
import DeskComputer.Proofs.Program.LabelNames
import DeskComputer.Proofs.Program.StraightLine
import DeskComputer.Proofs.Program.Echo
import DeskComputer.Proofs.Program.ErrorLimit
import DeskComputer.Proofs.Program.Redefinitions
import DeskComputer.Proofs.Program.ListedText
import DeskComputer.Proofs.Dump
import DeskComputer.Proofs.Command.Files
import DeskComputer.Proofs.Command.Products
import DeskComputer.Proofs.Command.Paths
import DeskComputer.Proofs.Command.Sources
import DeskComputer.Proofs.Command.Failures
