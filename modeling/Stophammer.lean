import Stophammer.Accepted
import Stophammer.ArtistCache
import Stophammer.BlockedIngest
import Stophammer.Blocks
import Stophammer.BuildDates
import Stophammer.CleanDeletes
import Stophammer.Constraints
import Stophammer.ContentSteps
import Stophammer.IndexedRuns
import Stophammer.Copies
import Stophammer.DeliveryOrder
import Stophammer.ErrorInBatch
import Stophammer.FanOut
import Stophammer.FetchGuard
import Stophammer.GoneSources
import Stophammer.GuidApprovals
import Stophammer.GuidChange
import Stophammer.GuidDecisions
import Stophammer.HoldRestored
import Stophammer.Migrations
import Stophammer.Overflow
import Stophammer.Push
import Stophammer.Query.ArtistCount
import Stophammer.Query.ArtistTracks
import Stophammer.Query.ByName
import Stophammer.Query.DateSearch
import Stophammer.Query.LinkFactFilter
import Stophammer.Query.LinkSides
import Stophammer.Query.LiveItems
import Stophammer.Query.RankedSearch
import Stophammer.Query.Recent
import Stophammer.Query.WebLink
import Stophammer.Reconcile
import Stophammer.Redelivery
import Stophammer.Registration
import Stophammer.RetiredHolds
import Stophammer.RouteHistory
import Stophammer.ServedEvents
import Stophammer.SignedLog
import Stophammer.SourceSteps
import Stophammer.StableTags
import Stophammer.StreamFrames
import Stophammer.SyncCursor
import Stophammer.TrackPayments
import Stophammer.TrustedSigner
