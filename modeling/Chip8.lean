import Chip8.CommandLine.Headless
import Chip8.Instruction.Encode
import Chip8.Machine.Operation
import Chip8.Main
import Chip8.Proofs.AddressRing
import Chip8.Proofs.Assembly
import Chip8.Proofs.Conformance
import Chip8.Proofs.Cycles
import Chip8.Proofs.Decay
import Chip8.Proofs.Failures
import Chip8.Proofs.Frames
import Chip8.Proofs.Halting
import Chip8.Proofs.Headless
import Chip8.Proofs.KeyPresses
import Chip8.Proofs.KeypadHistory
import Chip8.Proofs.Listening
import Chip8.Proofs.Origins
import Chip8.Proofs.Overlays
import Chip8.Proofs.Periods
import Chip8.Proofs.Pictures
import Chip8.Proofs.RandomBytes
import Chip8.Proofs.Reloading
import Chip8.Proofs.Replay
import Chip8.Proofs.Safety
import Chip8.Proofs.Sources
import Chip8.Proofs.TickRate
import Chip8.Proofs.Tones
import Chip8.Terminal.Session
