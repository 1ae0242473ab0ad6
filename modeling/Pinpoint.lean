import Pinpoint.Ballot
import Pinpoint.Box
import Pinpoint.Box.Listing
import Pinpoint.Chat.Address
import Pinpoint.Chat.Exchange
import Pinpoint.Chat.Message
import Pinpoint.Chat.Request
import Pinpoint.Cli
import Pinpoint.Cli.Arguments
import Pinpoint.Cluster
import Pinpoint.Config
import Pinpoint.Config.Place
import Pinpoint.Decimal
import Pinpoint.Display
import Pinpoint.Element
import Pinpoint.Element.Record
import Pinpoint.Embedding
import Pinpoint.Fanout
import Pinpoint.Fault
import Pinpoint.Fusion
import Pinpoint.Json
import Pinpoint.Json.Text
import Pinpoint.Label
import Pinpoint.Location
import Pinpoint.Main
import Pinpoint.Match.Corner
import Pinpoint.Match.Descriptor
import Pinpoint.Match.Feature
import Pinpoint.Match.Homography
import Pinpoint.Match.Integral
import Pinpoint.Match.Linear
import Pinpoint.Match.Matcher
import Pinpoint.Match.Peaks
import Pinpoint.Match.Template
import Pinpoint.Normalized
import Pinpoint.Picture
import Pinpoint.Picture.Annotate
import Pinpoint.Picture.Fit
import Pinpoint.Picture.Font
import Pinpoint.Picture.Resample
import Pinpoint.Png
import Pinpoint.Png.Checksum
import Pinpoint.Png.Deflate
import Pinpoint.Prompt
import Pinpoint.Proofs.Ballot.Canonical
import Pinpoint.Proofs.Ballot.Count
import Pinpoint.Proofs.Ballot.Election
import Pinpoint.Proofs.Ballot.Lookup
import Pinpoint.Proofs.Box.Area
import Pinpoint.Proofs.Box.Average
import Pinpoint.Proofs.Box.Bounds
import Pinpoint.Proofs.Box.Least
import Pinpoint.Proofs.Box.Merge
import Pinpoint.Proofs.Box.Pixels
import Pinpoint.Proofs.Box.Rect
import Pinpoint.Proofs.Chat.Log
import Pinpoint.Proofs.Cluster.Copies
import Pinpoint.Proofs.Cluster.Density
import Pinpoint.Proofs.Cluster.Flood
import Pinpoint.Proofs.Cluster.Order
import Pinpoint.Proofs.Display.Mapping
import Pinpoint.Proofs.Element.RoundTrip
import Pinpoint.Proofs.Fanout.Joining
import Pinpoint.Proofs.Fanout.Requests
import Pinpoint.Proofs.Fusion.Collapse
import Pinpoint.Proofs.Fusion.Provenance
import Pinpoint.Proofs.Fusion.Tiers
import Pinpoint.Proofs.Json.Fields
import Pinpoint.Proofs.Json.Paths
import Pinpoint.Proofs.Json.Written
import Pinpoint.Proofs.Label.Fresh
import Pinpoint.Proofs.Label.Tries
import Pinpoint.Proofs.Match.Answers
import Pinpoint.Proofs.Match.Consensus
import Pinpoint.Proofs.Match.Correlation
import Pinpoint.Proofs.Match.Elimination
import Pinpoint.Proofs.Match.Fit
import Pinpoint.Proofs.Match.Frames
import Pinpoint.Proofs.Match.Hamming
import Pinpoint.Proofs.Match.Neighbours
import Pinpoint.Proofs.Match.Occurrences
import Pinpoint.Proofs.Match.Pairs
import Pinpoint.Proofs.Match.Patches
import Pinpoint.Proofs.Match.Peaks
import Pinpoint.Proofs.Match.Places
import Pinpoint.Proofs.Match.Reads
import Pinpoint.Proofs.Match.Scores
import Pinpoint.Proofs.Match.Suppression
import Pinpoint.Proofs.Match.Thinning
import Pinpoint.Proofs.Match.Windows
import Pinpoint.Proofs.Picture.Legible
import Pinpoint.Proofs.Picture.Sizes
import Pinpoint.Proofs.Picture.Strokes
import Pinpoint.Proofs.Picture.Untouched
import Pinpoint.Proofs.Reply.Object
import Pinpoint.Proofs.Reply.Quoting
import Pinpoint.Proofs.Scalar.Binary
import Pinpoint.Proofs.Scalar.Exact
import Pinpoint.Proofs.Search.Calls
import Pinpoint.Proofs.Search.Direct
import Pinpoint.Proofs.Search.Drift
import Pinpoint.Proofs.Search.Found
import Pinpoint.Proofs.Search.Listed
import Pinpoint.Proofs.Search.Parts
import Pinpoint.Proofs.Search.Passes
import Pinpoint.Proofs.Search.Placed
import Pinpoint.Proofs.Search.Questions
import Pinpoint.Proofs.Search.Run
import Pinpoint.Proofs.Search.Stop
import Pinpoint.Proofs.Search.Unanimous
import Pinpoint.Proofs.Search.Unmatched
import Pinpoint.Proofs.Search.Votes
import Pinpoint.Proofs.Store.Interleaving
import Pinpoint.Proofs.Store.OwnText
import Pinpoint.Proofs.Store.Ranking
import Pinpoint.Proofs.Zoom.Closeup
import Pinpoint.Proofs.Zoom.Region
import Pinpoint.Proofs.Zoom.RoundTrip
import Pinpoint.Proofs.Text.Base64
import Pinpoint.Proofs.Png.File
import Pinpoint.Random
import Pinpoint.Registry
import Pinpoint.Reply
import Pinpoint.Scalar
import Pinpoint.Search.Dialogue
import Pinpoint.Search.Grounding
import Pinpoint.Search.Locator
import Pinpoint.Search.Quorum
import Pinpoint.Settings
import Pinpoint.Signal
import Pinpoint.Store
import Pinpoint.Text.Alphanumeric
import Pinpoint.Text.Base64
import Pinpoint.Text.Blank
import Pinpoint.Text.Case
import Pinpoint.Text.Hash
import Pinpoint.Toml
import Pinpoint.Toml.Document
import Pinpoint.Toml.Token
import Pinpoint.Variables
import Pinpoint.Zoom
