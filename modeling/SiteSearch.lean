import SiteSearch.Main
import SiteSearch.Record.Titled
import SiteSearch.Proofs.Index.Typing
import SiteSearch.Proofs.Page
import SiteSearch.Proofs.Artifact.RoundTrip
import SiteSearch.Proofs.Artifact.Truncated
import SiteSearch.Proofs.Runtime.Lifecycle
import SiteSearch.Proofs.Artifact.Concatenation
import SiteSearch.Proofs.Html
import SiteSearch.Proofs.Command.Interaction
import SiteSearch.Proofs.Command.Formats
import SiteSearch.Proofs.Score.Bands
import SiteSearch.Proofs.Index.Order
import SiteSearch.Proofs.Index.Dominance
import SiteSearch.Proofs.Index.Narrowing
import SiteSearch.Proofs.Index.Replacement
import SiteSearch.Proofs.Index.Statistics
import SiteSearch.Proofs.Artifact.Acceptance
import SiteSearch.Proofs.Config
import SiteSearch.Proofs.Rendering
import SiteSearch.Proofs.Ranking.Best
import SiteSearch.Proofs.Ranking.Consistency
import SiteSearch.Proofs.Text.Folding
import SiteSearch.Proofs.Element.DocumentOrder
import SiteSearch.Proofs.Element.History
import SiteSearch.Proofs.Index.Removal
import SiteSearch.Proofs.Index.Block
import SiteSearch.Proofs.Location
