import Alternation.Condition
import Alternation.Decimal.Binary
import Alternation.Decimal.Scaled
import Alternation.Decimal.Shortest
import Alternation.Engine
import Alternation.Experiment.Basic
import Alternation.Experiment.Draw
import Alternation.Experiment.Filler
import Alternation.Experiment.Registry
import Alternation.Experiment.SprayLoad
import Alternation.Experiment.Summary
import Alternation.Experiment.Swarm
import Alternation.Json.Basic
import Alternation.Json.Document
import Alternation.Json.Numeral
import Alternation.Materials.Item
import Alternation.Materials.Usable
import Alternation.Materials.Value
import Alternation.Names.Bindings
import Alternation.Names.Corpus
import Alternation.Random.Sampling
import Alternation.Random.Source
import Alternation.Random.Stream
import Alternation.Render.Error
import Alternation.Render.Placeholder
import Alternation.Render.Rendering
import Alternation.Ron.Document
import Alternation.Ron.Lexeme
import Alternation.Server.Address
import Alternation.Server.Config
import Alternation.Server.Router
import Alternation.Server.Target
import Alternation.Store.FileSystem
import Alternation.Store.Materials
import Alternation.Table
import Alternation.Text.Blank
import Alternation.Text.Phrase
import Alternation.Text.Quoted
import Alternation.Text.Uppercase
import Alternation.Text.Utf8
import Alternation.Tool.Lint
import Alternation.Tool.Options
import Alternation.Tool.Preview
import Alternation.Trial.Basic
import Alternation.Trial.Json
import Alternation.Main
import Alternation.Proofs.Run
import Alternation.Proofs.Random.Sampling
import Alternation.Proofs.Render.Placeholder
import Alternation.Proofs.Names.Bindings
import Alternation.Proofs.Random.Script
import Alternation.Proofs.Render.Resolve
import Alternation.Proofs.Render.Casting
import Alternation.Proofs.Experiment.Recipe
import Alternation.Proofs.Experiment.Casting
import Alternation.Proofs.Experiment.Draw
import Alternation.Proofs.Experiment.Session
import Alternation.Proofs.Random.Tape
import Alternation.Proofs.Random.Fair
import Alternation.Proofs.Experiment.Selection
import Alternation.Proofs.Text.Blank
import Alternation.Proofs.Text.Splitting
import Alternation.Proofs.Store.Path
import Alternation.Proofs.Engine.Admission
import Alternation.Proofs.Engine.Calls
import Alternation.Proofs.Server.Interleaving
import Alternation.Proofs.Text.Uppercase
import Alternation.Proofs.Text.Sentence
import Alternation.Proofs.Experiment.Presentation
import Alternation.Proofs.Experiment.Sentences
import Alternation.Proofs.Experiment.MinimalPair
import Alternation.Proofs.Render.Demand
import Alternation.Proofs.Experiment.Demand
import Alternation.Proofs.Experiment.Criterion
import Alternation.Proofs.Tool.Lint
import Alternation.Proofs.Experiment.Lead
import Alternation.Proofs.Engine.DroppedRows
import Alternation.Proofs.Experiment.Excluded
import Alternation.Proofs.Decimal.Interval
import Alternation.Proofs.Decimal.Shortest
import Alternation.Proofs.Json.Numeral
import Alternation.Proofs.Json.FloatText
import Alternation.Proofs.Json.Text
import Alternation.Proofs.Json.Compact
import Alternation.Proofs.Json.Record
import Alternation.Proofs.Materials.Finite
import Alternation.Proofs.Trial.Json
import Alternation.Proofs.Experiment.Lossless
import Alternation.Proofs.Experiment.Balanced
import Alternation.Proofs.Names.Supply
import Alternation.Proofs.Experiment.Mentions
import Alternation.Proofs.Render.Seam
import Alternation.Proofs.Experiment.SentenceKeys
import Alternation.Proofs.Text.Words
import Alternation.Proofs.Experiment.ClosingComma
import Alternation.Proofs.Engine.Replay
import Alternation.Proofs.Store.Listing
import Alternation.Proofs.Render.Plain
import Alternation.Proofs.Experiment.Anaphor
import Alternation.Proofs.Condition
import Alternation.Proofs.Random.Redraw
import Alternation.Proofs.Experiment.Pool
import Alternation.Proofs.Materials.ReadBack
