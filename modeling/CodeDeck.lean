import CodeDeck.Deck.Preview
import CodeDeck.Main
import CodeDeck.Proofs.Block.Blanks
import CodeDeck.Proofs.Block.Excerpt
import CodeDeck.Proofs.Block.FixedPoint
import CodeDeck.Proofs.Block.Hidden
import CodeDeck.Proofs.Block.Independence
import CodeDeck.Proofs.Block.Specialized
import CodeDeck.Proofs.Deck.ReadBack
import CodeDeck.Proofs.Config.Merge
import CodeDeck.Proofs.Block.StrayEntries
import CodeDeck.Proofs.Json.Grammar
import CodeDeck.Proofs.Json.Valid
import CodeDeck.Proofs.Link.Readable
import CodeDeck.Proofs.Deck.Links
import CodeDeck.Proofs.Pattern.Excess
import CodeDeck.Proofs.Pattern.Reading
import CodeDeck.Proofs.Pattern.Parsing
import CodeDeck.Proofs.Block.Limited
import CodeDeck.Proofs.Deck.Shown
import CodeDeck.Proofs.Json.Mappings
import CodeDeck.Proofs.Settings.Failures
import CodeDeck.Proofs.File.Written
import CodeDeck.Proofs.Json.Stored
import CodeDeck.Proofs.Settings.ReadBack
import CodeDeck.Proofs.Command.Output
import CodeDeck.Proofs.Block.Positions
import CodeDeck.Proofs.Block.Slice
import CodeDeck.Proofs.Block.Shifted
import CodeDeck.Proofs.Command.Errors
import CodeDeck.Proofs.Pattern.Cuts
import CodeDeck.Proofs.Config.Meaning
import CodeDeck.Proofs.Command.Listing
import CodeDeck.Proofs.Block.Markers
