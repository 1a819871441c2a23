import Polyglot.Main
import Polyglot.Proofs.Alignment
import Polyglot.Proofs.Attempts
import Polyglot.Proofs.Beginnings
import Polyglot.Proofs.Binary.Arithmetic
import Polyglot.Proofs.Binary.Order
import Polyglot.Proofs.Binary.Rounding
import Polyglot.Proofs.Bundle.Damage
import Polyglot.Proofs.Bundle.Faults
import Polyglot.Proofs.Bundle.Mixtures
import Polyglot.Proofs.Bundle.Numbers
import Polyglot.Proofs.Bundle.Records
import Polyglot.Proofs.Bundle.Refusals
import Polyglot.Proofs.Bundle.Resaving
import Polyglot.Proofs.Bundle.RoundTrip
import Polyglot.Proofs.Bundle.Sizes
import Polyglot.Proofs.Confusion
import Polyglot.Proofs.Console.Conversation
import Polyglot.Proofs.Console.Retraining
import Polyglot.Proofs.Console.Turns
import Polyglot.Proofs.Console.Typing
import Polyglot.Proofs.Descent
import Polyglot.Proofs.Distributions
import Polyglot.Proofs.Double.Arithmetic
import Polyglot.Proofs.Double.Order
import Polyglot.Proofs.Draws
import Polyglot.Proofs.Files
import Polyglot.Proofs.Files.Directories
import Polyglot.Proofs.Files.Places
import Polyglot.Proofs.Fitting
import Polyglot.Proofs.Forest
import Polyglot.Proofs.Frequencies
import Polyglot.Proofs.Growth
import Polyglot.Proofs.Json.Containers
import Polyglot.Proofs.Json.Decisions
import Polyglot.Proofs.Json.Documents
import Polyglot.Proofs.Json.Endings
import Polyglot.Proofs.Json.Numbers
import Polyglot.Proofs.Json.Readable
import Polyglot.Proofs.Json.Records
import Polyglot.Proofs.Json.Scans
import Polyglot.Proofs.Json.Text
import Polyglot.Proofs.Labels
import Polyglot.Proofs.Layout
import Polyglot.Proofs.Limits
import Polyglot.Proofs.Observations
import Polyglot.Proofs.Predictor.Failure
import Polyglot.Proofs.Predictor.Outcomes
import Polyglot.Proofs.Predictor.Register
import Polyglot.Proofs.Ranking
import Polyglot.Proofs.Rearranged
import Polyglot.Proofs.Renaming
import Polyglot.Proofs.Renumbering
import Polyglot.Proofs.Report
import Polyglot.Proofs.Samples
import Polyglot.Proofs.Shape
import Polyglot.Proofs.Single.Arithmetic
import Polyglot.Proofs.Split
import Polyglot.Proofs.Structure
import Polyglot.Proofs.Terms
import Polyglot.Proofs.TotalOrder
import Polyglot.Proofs.Training.Acceptance
import Polyglot.Proofs.Training.Evaluation
import Polyglot.Proofs.Training.Limits
import Polyglot.Proofs.Training.Magnitudes
import Polyglot.Proofs.Training.Prediction
import Polyglot.Proofs.Training.Reload
import Polyglot.Proofs.Training.Renaming
import Polyglot.Proofs.Training.Run
import Polyglot.Proofs.Training.Shape
import Polyglot.Proofs.Training.Storage
import Polyglot.Proofs.Trees
import Polyglot.Proofs.Utf8
import Polyglot.Proofs.Vectorizer
import Polyglot.Proofs.Votes
import Polyglot.Proofs.Windows
