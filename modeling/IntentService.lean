import IntentService.Library.OrderedMap
import IntentService.Library.History
import IntentService.Library.Regex
import IntentService.Library.GenericUri
import IntentService.Library.Turns
import IntentService.Library.Topics
import IntentService.Library.Handles
import IntentService.Library.Patch
import IntentService.UriSyntax
import IntentService.Matching
import IntentService.Generality
import IntentService.Encoding
import IntentService.Registry
import IntentService.Listing
import IntentService.Identity
import IntentService.Confinement
import IntentService.Choice
import IntentService.Launching
import IntentService.Orphans
import IntentService.Departure
import IntentService.Leaks
import IntentService.Watches
import IntentService.Delivery
import IntentService.Failure
import IntentService.Sync
import IntentService.Subscription
import IntentService.Lookup
import IntentService.Broker
import IntentService.Mailbox
import IntentService.Ownership
import IntentService.Calls
import IntentService.Shutdown
import IntentService.Presence
import IntentService.Builds
import IntentService.Replies
import IntentService.Isolation
import IntentService.Merging
import IntentService.Applications
import IntentService.Filters
import IntentService.Separation
import IntentService.Reset
