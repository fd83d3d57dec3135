import SwaylockAuthd.Lib.Transition
import SwaylockAuthd.Lib.Framing
import SwaylockAuthd.Comm.Wire
import SwaylockAuthd.Comm.Fragmentation
import SwaylockAuthd.Comm.RoundTrip
import SwaylockAuthd.Lib.Utf8
import SwaylockAuthd.Lib.Viewport
import SwaylockAuthd.Lib.CInt
import SwaylockAuthd.Lib.Custody
import SwaylockAuthd.Lib.Credentials
import SwaylockAuthd.Unicode
import SwaylockAuthd.Loop
import SwaylockAuthd.Clock
import SwaylockAuthd.FdTable
import SwaylockAuthd.Dispatch
import SwaylockAuthd.Seat
import SwaylockAuthd.State
import SwaylockAuthd.Password
import SwaylockAuthd.KeyHandler
import SwaylockAuthd.Json
import SwaylockAuthd.CommIn
import SwaylockAuthd.MainProcess
import SwaylockAuthd.Timers
import SwaylockAuthd.Outstanding
import SwaylockAuthd.PasswordEditor
import SwaylockAuthd.Residue
import SwaylockAuthd.Selection
import SwaylockAuthd.MainLoop
import SwaylockAuthd.System
import SwaylockAuthd.Gdm
import SwaylockAuthd.Pam
import SwaylockAuthd.Shadow
import SwaylockAuthd.Privileges
import SwaylockAuthd.Unlock
import SwaylockAuthd.DeadChild
import SwaylockAuthd.ToChild
import SwaylockAuthd.Rejection
import SwaylockAuthd.PlainPam
import SwaylockAuthd.Attempts
import SwaylockAuthd.Wakeup
import SwaylockAuthd.Discipline
import SwaylockAuthd.Deadlines
import SwaylockAuthd.EventFrames
import SwaylockAuthd.Feed
import SwaylockAuthd.Polling
import SwaylockAuthd.Abandoned
import SwaylockAuthd.Hangup
import SwaylockAuthd.Lists
import SwaylockAuthd.Fidelity
import SwaylockAuthd.RenderFrame
import SwaylockAuthd.Messages
import SwaylockAuthd.Button
import SwaylockAuthd.Surface
import SwaylockAuthd.PoolBuffer
import SwaylockAuthd.BufferPool
import SwaylockAuthd.Repaint
import SwaylockAuthd.Conformance
import SwaylockAuthd.Outputs
import SwaylockAuthd.Lib.Ring
import SwaylockAuthd.Lib.CBlock
import SwaylockAuthd.Lib.Shell
import SwaylockAuthd.Lib.Numeral
import SwaylockAuthd.Lib.Getopt
import SwaylockAuthd.Log
import SwaylockAuthd.Image
import SwaylockAuthd.ImageWords
import SwaylockAuthd.ImageTable
import SwaylockAuthd.Color
import SwaylockAuthd.Options
import SwaylockAuthd.Config
import SwaylockAuthd.Lib.Replica
import SwaylockAuthd.Dialogue
import SwaylockAuthd.Screen
import SwaylockAuthd.Lib.Descriptor
import SwaylockAuthd.Spawn
import SwaylockAuthd.Verdicts
import SwaylockAuthd.Startup
import SwaylockAuthd.Lib.Separation
import SwaylockAuthd.Ownership
import SwaylockAuthd.Extension
import SwaylockAuthd.Lib.Patch
import SwaylockAuthd.Pixbuf
import SwaylockAuthd.Background
import SwaylockAuthd.Scaling
import SwaylockAuthd.Secrecy
import SwaylockAuthd.Overlay
