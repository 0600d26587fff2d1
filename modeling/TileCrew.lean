import TileCrew.Arithmetic.Rounding
import TileCrew.Arithmetic.Binary64
import TileCrew.Decimal.Conversion
import TileCrew.Text.Letter
import TileCrew.Text.Character
import TileCrew.Text.CaseTable
import TileCrew.Text.Casing
import TileCrew.Text.Printable
import TileCrew.Text.Quoted
import TileCrew.Text.Utf8
import TileCrew.Text.Numeral
import TileCrew.Json.Value
import TileCrew.Json.Printer
import TileCrew.Json.Shown
import TileCrew.Json.Reader
import TileCrew.Schema.Issue
import TileCrew.Schema.Checked
import TileCrew.Random.Twister
import TileCrew.Files.Path
import TileCrew.Files.Store
import TileCrew.Fault
import TileCrew.Grid.Tile
import TileCrew.Crew.Action
import TileCrew.Crew.Command
import TileCrew.Crew.Agent
import TileCrew.Crew.Roster
import TileCrew.Prompt.Grammar
import TileCrew.World.Snapshot
import TileCrew.World.State
import TileCrew.World.Dispatch
import TileCrew.World.Run
import TileCrew.Setup.WorldFile
import TileCrew.Setup.Script
import TileCrew.Replay.Header
import TileCrew.Replay.Moment
import TileCrew.Replay.Log
import TileCrew.Replay.Reader
import TileCrew.View.ColorNames
import TileCrew.View.Style
import TileCrew.View.Tree
import TileCrew.View.MapLines
import TileCrew.View.Panels
import TileCrew.View.Screen
import TileCrew.Cli.Options
import TileCrew.Cli.Session
import TileCrew.Main
import TileCrew.Proofs.Text.Runs
import TileCrew.Proofs.Text.Octets
import TileCrew.Proofs.Text.Breaks
import TileCrew.Proofs.Text.Digits
import TileCrew.Proofs.Arithmetic.Words
import TileCrew.Proofs.Arithmetic.Nearest
import TileCrew.Proofs.Arithmetic.Overflow
import TileCrew.Proofs.Arithmetic.HalfUp
import TileCrew.Proofs.Decimal.Shortest
import TileCrew.Proofs.Json.Numerals
import TileCrew.Proofs.Json.Reals
import TileCrew.Proofs.Json.Strings
import TileCrew.Proofs.Json.Visible
import TileCrew.Proofs.Json.Roundtrip
import TileCrew.Proofs.Json.Rest
import TileCrew.Proofs.Json.Torn
import TileCrew.Proofs.Schema.Checked
import TileCrew.Proofs.Schema.Records
import TileCrew.Proofs.Files.Store
import TileCrew.Proofs.Files.Growth
import TileCrew.Proofs.Replay.Lines
import TileCrew.Proofs.Replay.Roundtrip
import TileCrew.Proofs.Replay.Cut
import TileCrew.Proofs.Replay.Skipping
import TileCrew.Proofs.Replay.RunNames
import TileCrew.Proofs.Replay.Opening
import TileCrew.Proofs.Replay.Sharing
import TileCrew.Proofs.Crew.Machine
import TileCrew.Proofs.Crew.Fifo
import TileCrew.Proofs.Crew.Coherence
import TileCrew.Proofs.Crew.Journeys
import TileCrew.Proofs.Crew.Tasks
import TileCrew.Proofs.Crew.Voice
import TileCrew.Proofs.Prompt.Shapes
import TileCrew.Proofs.Crew.Roster
import TileCrew.Proofs.World.Giving
import TileCrew.Proofs.Crew.Hops
import TileCrew.Proofs.Grid.Tile
import TileCrew.Proofs.World.RowMajor
import TileCrew.Proofs.World.Registry
import TileCrew.Proofs.World.Calls
import TileCrew.Proofs.Setup.Entries
import TileCrew.Proofs.Setup.WorldFile
import TileCrew.Proofs.World.OnMap
import TileCrew.Proofs.World.Undisturbed
import TileCrew.Proofs.World.Refusals
import TileCrew.Proofs.World.Effect
import TileCrew.Proofs.World.Broadcast
import TileCrew.Proofs.Setup.Built
import TileCrew.Proofs.World.Chronicle
import TileCrew.Proofs.World.Runs
import TileCrew.Proofs.Setup.Script
import TileCrew.Proofs.Setup.Joining
import TileCrew.Proofs.World.Agenda
import TileCrew.Proofs.Replay.Protocol
import TileCrew.Proofs.Replay.Thinning
import TileCrew.Proofs.World.Scenery
import TileCrew.Proofs.Cli.Reproduction
import TileCrew.Proofs.View.Timekeeping
import TileCrew.Proofs.View.MapPane
import TileCrew.Proofs.View.Glyphs
import TileCrew.Proofs.View.Overlay
import TileCrew.Proofs.View.Alignment
import TileCrew.Proofs.View.Styles
import TileCrew.Proofs.View.Sidebar
