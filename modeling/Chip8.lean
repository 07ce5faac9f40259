import Chip8.Benchmark.Program
import Chip8.Main
import Chip8.Memory.View
import Chip8.Proofs.Debugger.Breakpoints
import Chip8.Proofs.Debugger.Commands
import Chip8.Proofs.Debugger.Counts
import Chip8.Proofs.Debugger.Drawing
import Chip8.Proofs.Debugger.Frames
import Chip8.Proofs.Debugger.Frozen
import Chip8.Proofs.Debugger.Layout
import Chip8.Proofs.Debugger.Markup
import Chip8.Proofs.Debugger.Messages
import Chip8.Proofs.Debugger.Pausing
import Chip8.Proofs.Debugger.Reachable
import Chip8.Proofs.Debugger.Reading
import Chip8.Proofs.Debugger.Replay
import Chip8.Proofs.Debugger.Stops
import Chip8.Proofs.Debugger.Timing
import Chip8.Proofs.Debugger.Turns
import Chip8.Proofs.Headless.Lockstep
import Chip8.Proofs.Headless.Verdict
import Chip8.Proofs.Lists
import Chip8.Proofs.Machine.Arithmetic
import Chip8.Proofs.Machine.Batches
import Chip8.Proofs.Machine.Bounds
import Chip8.Proofs.Machine.Calls
import Chip8.Proofs.Machine.Canvas
import Chip8.Proofs.Machine.Commuting
import Chip8.Proofs.Machine.Faults
import Chip8.Proofs.Machine.Flow
import Chip8.Proofs.Machine.Footprint
import Chip8.Proofs.Machine.HeldKeys
import Chip8.Proofs.Machine.InstructionSet
import Chip8.Proofs.Machine.KeyWait
import Chip8.Proofs.Machine.Log
import Chip8.Proofs.Machine.Reach
import Chip8.Proofs.Machine.Sprite
import Chip8.Proofs.Machine.Transfer
import Chip8.Proofs.Machine.Twins
import Chip8.Proofs.Machine.ZeroWord
import Chip8.Proofs.Memory.Bytes
import Chip8.Proofs.Memory.Dump
import Chip8.Proofs.Memory.Writes
import Chip8.Proofs.Registers.Panel
import Chip8.Proofs.Surface.Looking
import Chip8.Proofs.Surface.Pictures
import Chip8.Proofs.Surface.Torus
import Chip8.Proofs.Surface.Writes
import Chip8.Proofs.Text.Hexadecimal
import Chip8.Proofs.Text.Spelling
import Chip8.Surface.Recorder
