import SplunkLogs.Properties.FormBody
import SplunkLogs.Properties.Projection
import SplunkLogs.Properties.Cancellation
import SplunkLogs.Properties.BuildAgreement
import SplunkLogs.Properties.IndexQuery
import SplunkLogs.Properties.LosslessText
import SplunkLogs.Properties.RecordShapes
import SplunkLogs.Properties.Paging
import SplunkLogs.Properties.Backoff
import SplunkLogs.Properties.EpochExactness
import SplunkLogs.Properties.ZonedTimestamps
import SplunkLogs.Properties.QueryCommand
import SplunkLogs.Properties.AttachedIndexes
import SplunkLogs.Properties.Authentication
import SplunkLogs.Properties.SeverityNumber
import SplunkLogs.Properties.ErrorDetail
import SplunkLogs.Properties.Termination
import SplunkLogs.Properties.Pending
import SplunkLogs.Properties.Requests
import SplunkLogs.Properties.Exceptions
import SplunkLogs.Properties.SchemaTyping
import SplunkLogs.Properties.Framing
import SplunkLogs.Properties.RowLimit
import SplunkLogs.Properties.SecretCreation
import SplunkLogs.Properties.Binding
import SplunkLogs.Properties.CatalogScan
import SplunkLogs.Properties.RetryProtocol
import SplunkLogs.Properties.BrowserFetch
import SplunkLogs.Properties.EpochOrder
import SplunkLogs.Properties.MemberOrder
import SplunkLogs.Properties.ConnectionLifetime
import SplunkLogs.Properties.TransactionLifetime
import SplunkLogs.Properties.InterruptLatency
import SplunkLogs.Properties.Discovery
import SplunkLogs.Properties.BrowserBuffer
import SplunkLogs.Properties.RowSource
import SplunkLogs.Properties.TextEncoding
import SplunkLogs.Properties.SearchAnswers
import SplunkLogs.Properties.FairDelivery
