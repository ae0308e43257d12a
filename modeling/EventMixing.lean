import EventMixing.Main
import EventMixing.Proofs.Arguments
import EventMixing.Proofs.AxisOrder
import EventMixing.Proofs.Bins
import EventMixing.Proofs.CategoryColumn
import EventMixing.Proofs.CellOrder
import EventMixing.Proofs.Cells
import EventMixing.Proofs.Concatenation
import EventMixing.Proofs.Effects
import EventMixing.Proofs.History
import EventMixing.Proofs.Lookups
import EventMixing.Proofs.Mixing
import EventMixing.Proofs.Occupancy
import EventMixing.Proofs.PairCounts
import EventMixing.Proofs.Reading
import EventMixing.Proofs.Registration
import EventMixing.Proofs.Relevance
import EventMixing.Proofs.Tally
import EventMixing.Proofs.Weights
import EventMixing.Proofs.Window
import EventMixing.Proofs.Saving
import EventMixing.Proofs.Runs
import EventMixing.Proofs.Documents
import EventMixing.Proofs.ConfigText
import EventMixing.Proofs.Reachability
import EventMixing.Proofs.Edges
import EventMixing.Proofs.FirstFailure
import EventMixing.Proofs.ConfiguredAxes
import EventMixing.Proofs.MissingColumns
import EventMixing.Proofs.Recategorizing
import EventMixing.Proofs.BinSearch
import EventMixing.Proofs.Decoding
import EventMixing.Proofs.DerivedPaths
