import OpcodeForest.Command.Arguments
import OpcodeForest.Main
import OpcodeForest.Proofs.Corpus.Broadcast
import OpcodeForest.Proofs.Corpus.ModRM
import OpcodeForest.Proofs.Corpus.Prefixes
import OpcodeForest.Proofs.Corpus.Registers
import OpcodeForest.Proofs.Decode.Displacement
import OpcodeForest.Proofs.Decode.EvexAttributes
import OpcodeForest.Proofs.Decode.Immediates
import OpcodeForest.Proofs.Decode.InstructionPointer
import OpcodeForest.Proofs.Decode.Leniency
import OpcodeForest.Proofs.Decode.LockPrefixes
import OpcodeForest.Proofs.Decode.Overlap
import OpcodeForest.Proofs.Decode.Records
import OpcodeForest.Proofs.Decode.Relocation
import OpcodeForest.Proofs.Decode.Sweep
import OpcodeForest.Proofs.Decode.Termination
import OpcodeForest.Proofs.Decode.Vvvv
import OpcodeForest.Proofs.Image.Listing
import OpcodeForest.Proofs.Table.ArrayRecords
import OpcodeForest.Proofs.Table.FailedWrites
import OpcodeForest.Proofs.Table.Integrity
import OpcodeForest.Proofs.Table.Numbers
import OpcodeForest.Proofs.Table.Streaming
import OpcodeForest.Proofs.Table.WellFormed
import OpcodeForest.Proofs.Text.Hex
