import DeckBuilder.Card.Definition
import DeckBuilder.Card.Face
import DeckBuilder.Card.Recipe
import DeckBuilder.Catalog.Base
import DeckBuilder.Catalog.Kingdom
import DeckBuilder.Catalog.Steps
import DeckBuilder.CommandLine.Command
import DeckBuilder.CommandLine.Options
import DeckBuilder.CommandLine.Outcome
import DeckBuilder.Controller.HeuristicPlayer
import DeckBuilder.Controller.QueuePlayer
import DeckBuilder.Controller.RandomPlayer
import DeckBuilder.Controller.Script
import DeckBuilder.Controller.ScriptedPlayer
import DeckBuilder.Controller.Table
import DeckBuilder.Controller.TerminalPlayer
import DeckBuilder.Controllers
import DeckBuilder.Effect
import DeckBuilder.Engine.Basic
import DeckBuilder.Engine.Choices
import DeckBuilder.Engine.Interpreter
import DeckBuilder.Engine.Operations
import DeckBuilder.Engine.Turn
import DeckBuilder.Error
import DeckBuilder.Event
import DeckBuilder.Ident
import DeckBuilder.Json.Fields
import DeckBuilder.Json.Parser
import DeckBuilder.Json.Printer
import DeckBuilder.Json.Value
import DeckBuilder.KingdomChoice
import DeckBuilder.Log
import DeckBuilder.Main
import DeckBuilder.Outlook
import DeckBuilder.Player
import DeckBuilder.Program
import DeckBuilder.Question
import DeckBuilder.Random.ChaCha
import DeckBuilder.Random.Generator
import DeckBuilder.Random.Rounding
import DeckBuilder.Random.Shuffle
import DeckBuilder.Random.Snapshot
import DeckBuilder.Registry
import DeckBuilder.Setup
import DeckBuilder.Simulation
import DeckBuilder.State
import DeckBuilder.Store
import DeckBuilder.Supply
import DeckBuilder.Tableau
import DeckBuilder.Text.Ascii
import DeckBuilder.Text.Blank
import DeckBuilder.Text.CaseIgnorable
import DeckBuilder.Text.Cased
import DeckBuilder.Text.FixedPlaces
import DeckBuilder.Text.GraphemeExtend
import DeckBuilder.Text.Lines
import DeckBuilder.Text.LowerCase
import DeckBuilder.Text.Numeral
import DeckBuilder.Text.Quoted
import DeckBuilder.Text.Ranges
import DeckBuilder.Text.Unprintable
import DeckBuilder.Winners
import DeckBuilder.Zone
import DeckBuilder.Proofs.AiGames
import DeckBuilder.Proofs.Conservation
import DeckBuilder.Proofs.Ledger
import DeckBuilder.Proofs.Lighthouse
import DeckBuilder.Proofs.Logging
import DeckBuilder.Proofs.Purchases
import DeckBuilder.Proofs.Drawing
import DeckBuilder.Proofs.Refusals
import DeckBuilder.Proofs.Registered
import DeckBuilder.Proofs.Results
import DeckBuilder.Proofs.Retries
import DeckBuilder.Proofs.Rotation
import DeckBuilder.Proofs.SetUp
import DeckBuilder.Proofs.Stocking
import DeckBuilder.Proofs.TreasureList
import DeckBuilder.Proofs.TurnEnd
import DeckBuilder.Proofs.TurnTriggers
import DeckBuilder.Proofs.Turns
import DeckBuilder.Proofs.Winning
import DeckBuilder.Proofs.Writes
import DeckBuilder.Proofs.Randomness
import DeckBuilder.Proofs.LogWindows
import DeckBuilder.Proofs.Eligibility
import DeckBuilder.Proofs.Batches
import DeckBuilder.Proofs.Replenishing
import DeckBuilder.Proofs.TurnHandover
import DeckBuilder.Proofs.Attacks
import DeckBuilder.Proofs.RefusedMoves
import DeckBuilder.Proofs.RefusedCalls
import DeckBuilder.Proofs.Reactions
import DeckBuilder.Proofs.Callbacks
import DeckBuilder.Proofs.DiscardAttack
import DeckBuilder.Proofs.CurseAttack
import DeckBuilder.Proofs.Prices
import DeckBuilder.Proofs.SilverBonus
import DeckBuilder.Proofs.Redrawing
import DeckBuilder.Proofs.GainLanding
import DeckBuilder.Proofs.Bystanders
import DeckBuilder.Proofs.PointChanges
import DeckBuilder.Proofs.Tally
import DeckBuilder.Proofs.ScriptText
import DeckBuilder.Proofs.Terminal
import DeckBuilder.Proofs.PrintedKingdoms
import DeckBuilder.Proofs.Shuffling
import DeckBuilder.Proofs.Registrations
import DeckBuilder.Proofs.Validation
import DeckBuilder.Proofs.Mirroring
import DeckBuilder.Proofs.NamedPicks
