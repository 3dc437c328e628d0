import LifeStory.Achievement
import LifeStory.Beginning
import LifeStory.Candidate
import LifeStory.CandidateId
import LifeStory.Catalog
import LifeStory.ChoiceDraw
import LifeStory.Closing
import LifeStory.Command.Help
import LifeStory.Command.Options
import LifeStory.Command.Program
import LifeStory.Condition
import LifeStory.Config
import LifeStory.Content
import LifeStory.Decimal.Binary
import LifeStory.Decimal.Layout
import LifeStory.Decimal.Parse
import LifeStory.Decimal.Shortest
import LifeStory.Directive
import LifeStory.Document.Condition
import LifeStory.Document.Config
import LifeStory.Document.Content
import LifeStory.Document.Directive
import LifeStory.Document.Life
import LifeStory.Document.Report
import LifeStory.Document.Result
import LifeStory.Draw
import LifeStory.Eligibility
import LifeStory.EventDraw
import LifeStory.Exclusion
import LifeStory.Game
import LifeStory.Host
import LifeStory.Host.Memory
import LifeStory.Import
import LifeStory.Json.Printer
import LifeStory.Json.Reader
import LifeStory.Json.Record
import LifeStory.Json.Value
import LifeStory.Library
import LifeStory.Life.Basic
import LifeStory.Life.Log
import LifeStory.Life.Stats
import LifeStory.Life.Variable
import LifeStory.Main
import LifeStory.Narration
import LifeStory.Outcome
import LifeStory.Playback
import LifeStory.Random.ChaCha
import LifeStory.Random.Digest
import LifeStory.Random.Source
import LifeStory.Random.Stepper
import LifeStory.Random.Streams
import LifeStory.Random.Xoshiro
import LifeStory.Scalar
import LifeStory.Scalar.Float
import LifeStory.Scalar.Order
import LifeStory.Scalar.Rational
import LifeStory.Scene
import LifeStory.Session
import LifeStory.Slots
import LifeStory.Status
import LifeStory.StringMap
import LifeStory.Template.Conditional
import LifeStory.Template.Escape
import LifeStory.Template.Group
import LifeStory.Template.Random
import LifeStory.Template.Render
import LifeStory.Template.Variable
import LifeStory.Text.Blank
import LifeStory.Text.Digit
import LifeStory.Text.Duration
import LifeStory.Text.Style
import LifeStory.Text.Word
import LifeStory.Trial.Chronicle
import LifeStory.Trial.Overview
import LifeStory.Trial.Play
import LifeStory.Trial.Player
import LifeStory.Trial.Result
import LifeStory.Trial.Scenario
import LifeStory.Trial.Seeds
import LifeStory.Turn.Play
import LifeStory.Turn.Report
import LifeStory.Turn.World
import LifeStory.Proofs.Calls
import LifeStory.Proofs.Directives
import LifeStory.Proofs.Acts
import LifeStory.Proofs.Course
import LifeStory.Proofs.Numbering
import LifeStory.Proofs.Phases
import LifeStory.Proofs.AfterTheEnd
import LifeStory.Proofs.Wordless
import LifeStory.Proofs.Wording
import LifeStory.Proofs.WordlessPlay
import LifeStory.Proofs.Offers
import LifeStory.Proofs.Unique
import LifeStory.Proofs.StandingOffers
import LifeStory.Proofs.Answers
import LifeStory.Proofs.Deaths
import LifeStory.Proofs.Rewards
import LifeStory.Proofs.Draws
import LifeStory.Proofs.Exclusivity
import LifeStory.Proofs.PlayModes
import LifeStory.Proofs.Explained
import LifeStory.Proofs.Lines
import LifeStory.Proofs.Narrative
import LifeStory.Proofs.Hidden
import LifeStory.Proofs.StatusChanges
import LifeStory.Proofs.StatusTicks
import LifeStory.Proofs.KeyOrder
import LifeStory.Proofs.Records
import LifeStory.Proofs.Saves
import LifeStory.Proofs.FiniteNumbers
import LifeStory.Proofs.NormalConditions
import LifeStory.Proofs.NormalDirectives
import LifeStory.Proofs.Backfill
import LifeStory.Proofs.TurnCounter
import LifeStory.Proofs.Rounds
import LifeStory.Proofs.TurnLimits
import LifeStory.Proofs.Decisions
import LifeStory.Proofs.Durations
import LifeStory.Proofs.EventModifiers
import LifeStory.Proofs.Writing
import LifeStory.Proofs.WritingPlay
import LifeStory.Proofs.LastLine
import LifeStory.Proofs.Stories
import LifeStory.Proofs.Collections
import LifeStory.Proofs.Histories
import LifeStory.Proofs.Debts
import LifeStory.Proofs.Lifetimes
import LifeStory.Proofs.DrawCounts
import LifeStory.Proofs.Sinks
import LifeStory.Proofs.Unlocking
import LifeStory.Proofs.Resuming
import LifeStory.Proofs.ContentDocuments
import LifeStory.Proofs.ReportDocuments
import LifeStory.Proofs.ReportSizes
import LifeStory.Proofs.Documents
import LifeStory.Proofs.Skipping
import LifeStory.Proofs.Acceptance
import LifeStory.Proofs.Shares
import LifeStory.Proofs.Signs
import LifeStory.Proofs.Weightless
import LifeStory.Proofs.OfferSizes
import LifeStory.Proofs.Places
import LifeStory.Proofs.DeclaredExclusions
import LifeStory.Proofs.LiteralText
import LifeStory.Proofs.Groups
import LifeStory.Proofs.PlainText
import LifeStory.Proofs.ConditionalText
import LifeStory.Proofs.NamedStats
import LifeStory.Proofs.Precedence
import LifeStory.Proofs.Stretches
import LifeStory.Proofs.Batches
import LifeStory.Proofs.TagOdds
import LifeStory.Proofs.Positions
import LifeStory.Proofs.Replacing
import LifeStory.Proofs.HeldEscapes
import LifeStory.Proofs.SeedLists
