import StackConnect.AppStore.Accessibility
import StackConnect.AppStore.Analytics
import StackConnect.AppStore.AnalyticsTable
import StackConnect.AppStore.Apps
import StackConnect.AppStore.Bearer
import StackConnect.AppStore.BearerOrigin
import StackConnect.AppStore.BetaGroupStore
import StackConnect.AppStore.BetaGroups
import StackConnect.AppStore.BetaTesters
import StackConnect.AppStore.Builds
import StackConnect.AppStore.Calls
import StackConnect.AppStore.CancelSubmission
import StackConnect.AppStore.CollectionCalls
import StackConnect.AppStore.CollectionSite
import StackConnect.AppStore.ConcurrentCalls
import StackConnect.AppStore.ConcurrentUploads
import StackConnect.AppStore.Conduct
import StackConnect.AppStore.Containment
import StackConnect.AppStore.CurlLog
import StackConnect.AppStore.CustomerReviews
import StackConnect.AppStore.DebugLog
import StackConnect.AppStore.Discard
import StackConnect.AppStore.DiscardProtocol
import StackConnect.AppStore.FailFast
import StackConnect.AppStore.FieldUpdates
import StackConnect.AppStore.Included
import StackConnect.AppStore.ItemDeletion
import StackConnect.AppStore.JsonApi
import StackConnect.AppStore.ListedRows
import StackConnect.AppStore.Listings
import StackConnect.AppStore.LiveItems
import StackConnect.AppStore.Localizations
import StackConnect.AppStore.Operations
import StackConnect.AppStore.Paging
import StackConnect.AppStore.Provisioning
import StackConnect.AppStore.ResourceSessions
import StackConnect.AppStore.ResourceStore
import StackConnect.AppStore.ReviewAnswers
import StackConnect.AppStore.ReviewDesk
import StackConnect.AppStore.ReviewDetails
import StackConnect.AppStore.ReviewRuns
import StackConnect.AppStore.ReviewSessions
import StackConnect.AppStore.ReviewSubmissions
import StackConnect.AppStore.ScreenshotServer
import StackConnect.AppStore.ScreenshotUpload
import StackConnect.AppStore.Screenshots
import StackConnect.AppStore.Segments
import StackConnect.AppStore.SharedServer
import StackConnect.AppStore.SignedCalls
import StackConnect.AppStore.SubmissionStore
import StackConnect.AppStore.Submit
import StackConnect.AppStore.SubmitTrace
import StackConnect.AppStore.Termination
import StackConnect.AppStore.Transport
import StackConnect.AppStore.UploadSlices
import StackConnect.AppStore.Users
import StackConnect.AppStore.Versions
import StackConnect.AppStore.Writers
import StackConnect.Auth.Es256
import StackConnect.Auth.P8Pem
import StackConnect.Auth.P8RoundTrip
import StackConnect.Auth.TokenCache
import StackConnect.Auth.TokenClock
import StackConnect.Calendar.Civil
import StackConnect.Calendar.Eras
import StackConnect.Error
import StackConnect.Frb.BoundCalls
import StackConnect.Frb.Connect
import StackConnect.Frb.LogBuffer
import StackConnect.Frb.SyncApps
import StackConnect.Interaction.Execution
import StackConnect.Interaction.FailFast
import StackConnect.Interaction.Front
import StackConnect.Interaction.Layers
import StackConnect.Interaction.Linearize
import StackConnect.Interaction.Loop
import StackConnect.Interaction.Orbit
import StackConnect.Interaction.Parallel
import StackConnect.Interaction.Ports
import StackConnect.Interaction.Precondition
import StackConnect.Interaction.Program
import StackConnect.Interaction.Results
import StackConnect.Interaction.Sinks
import StackConnect.Interaction.Tenancy
import StackConnect.Rust.Ascii
import StackConnect.Rust.Chunks
import StackConnect.Rust.HashMap
import StackConnect.Rust.Layout
import StackConnect.Rust.Lines
import StackConnect.Rust.Numbers
import StackConnect.Rust.Text
import StackConnect.Rust.UrlPath
import StackConnect.Rust.UrlTarget
import StackConnect.Rust.Utf8
import StackConnect.Scexport.AccountExport
import StackConnect.Scexport.Container
import StackConnect.Scexport.CredentialKeys
import StackConnect.Scexport.Crypto
import StackConnect.Scexport.RequiredFields
import StackConnect.Scexport.RoundTrip
import StackConnect.Scexport.Timestamp
import StackConnect.Serde.Ink
import StackConnect.Serde.Json
import StackConnect.Serde.Spelling
import StackConnect.Serde.Text
import StackConnect.Serde.Updates
import StackConnect.Serde.Value
import StackConnect.Service.ConcurrentSyncs
import StackConnect.Service.Registry
import StackConnect.Service.Sync
import StackConnect.Shell.Quoting
import StackConnect.Shell.Words
