import Hiraeth.Lib.Separated
import Hiraeth.Lib.ByteText
import Hiraeth.Core.Text
import Hiraeth.Store.Basic
import Hiraeth.Http.IncomingRequest
import Hiraeth.Auth.Canonical
import Hiraeth.Lib.Program
import Hiraeth.Lib.RowTable
import Hiraeth.Lib.Glob
import Hiraeth.Core.Policy
import Hiraeth.Store.Iam
import Hiraeth.Store.SqliteIam
import Hiraeth.Store.IamIntegrity
import Hiraeth.Auth.SigV4
import Hiraeth.Auth.Binding
import Hiraeth.Core.ArnUtil
import Hiraeth.Core.Protocol
import Hiraeth.Iam.Authorize
import Hiraeth.Iam.ResolveAuthorization
import Hiraeth.Iam.PolicyActions
import Hiraeth.Iam.UserActions
import Hiraeth.Lib.Discipline
import Hiraeth.Iam.Entitlement
import Hiraeth.Iam.Grants
import Hiraeth.Iam.Ownership
import Hiraeth.Store.SqliteSqs
import Hiraeth.Lib.Moments
import Hiraeth.Sqs.Lease
import Hiraeth.Sqs.LeaseLaws
import Hiraeth.Lib.Marked
import Hiraeth.Runtime.Serve
import Hiraeth.Auth.Completeness
import Hiraeth.Core.Json
import Hiraeth.Sqs.Util
import Hiraeth.Core.PolicyDocument
import Hiraeth.Sqs.ResolveAuthorization
import Hiraeth.Sqs.SendMessage
import Hiraeth.Lib.Finished
import Hiraeth.Sqs.ReceiveMessage
import Hiraeth.Sqs.Accepted
import Hiraeth.Sqs.DeliveryWindow
import Hiraeth.Sqs.RoundTrip
import Hiraeth.Sqs.BatchIsolation
import Hiraeth.Sqs.QueueAttributes
import Hiraeth.Sqs.MessageActions
import Hiraeth.Sqs.QueueActions
import Hiraeth.Lib.Calls
import Hiraeth.Sqs.Service
import Hiraeth.Web.SqsConsole
import Hiraeth.Sqs.QueueInvariant
import Hiraeth.Sqs.AuthorizedQueue
import Hiraeth.Sqs.QueueDescription
import Hiraeth.Sqs.QueueCreation
import Hiraeth.Sqs.CreateThenSet
import Hiraeth.Sqs.QueueUrls
import Hiraeth.Lib.Cursor
import Hiraeth.Sqs.QueuePages
import Hiraeth.Sqs.MessageHomes
import Hiraeth.Lib.Refine
import Hiraeth.Lib.SequenceTable
import Hiraeth.Store.Sns
import Hiraeth.Store.SqliteSns
import Hiraeth.Sns.ActionSupport
import Hiraeth.Sns.ResolveAuthorization
import Hiraeth.Sns.TopicActions
import Hiraeth.Sns.SubscriptionActions
import Hiraeth.Sns.Publish
import Hiraeth.Store.SnsCalls
import Hiraeth.Sns.Topics
import Hiraeth.Sns.TopicAttributes
import Hiraeth.Sns.Service
import Hiraeth.Sns.FifoTopics
import Hiraeth.Sns.Delivery
import Hiraeth.Sns.RawDelivery
import Hiraeth.Sqs.QueueCounts
import Hiraeth.Sqs.BatchSequence
import Hiraeth.Iam.Actions
import Hiraeth.Iam.PolicyNames
import Hiraeth.Sts.GetCallerIdentity
import Hiraeth.Iam.UserPrincipals
import Hiraeth.Core.QueryPayload
import Hiraeth.Core.Service
import Hiraeth.Runtime.QueryServices
import Hiraeth.Sns.StoredMessages
import Hiraeth.Sqs.AttributeDigest
import Hiraeth.Sqs.QueueSettings
import Hiraeth.Sns.MapParameters
import Hiraeth.Sns.PrefixFilters
import Hiraeth.Core.PrincipalGrammar
import Hiraeth.Sns.OffsetPages
import Hiraeth.Auth.AuthorizationHeader
import Hiraeth.Lib.PercentDecoding
import Hiraeth.Iam.StoredDocuments
import Hiraeth.Core.Tracing
import Hiraeth.Lib.ParentLinks
import Hiraeth.Runtime.SpanRuns
import Hiraeth.Web.TraceGraph
import Hiraeth.Sns.PolicyWriteBack
import Hiraeth.Sns.ConfusedDeputy
import Hiraeth.Sns.TopicPolicies
import Hiraeth.Iam.Service
import Hiraeth.Web.IamConsole
import Hiraeth.Auth.OrderFree
import Hiraeth.Web.EvaluableDocuments
import Hiraeth.Lib.Offsets
import Hiraeth.Sns.OffsetWalks
import Hiraeth.Core.Statements
import Hiraeth.Lib.WholeRows
import Hiraeth.Sns.LostUpdates
import Hiraeth.Lib.Guarded
import Hiraeth.Sns.SubscriptionLinks
import Hiraeth.Runtime.CreatedResources
import Hiraeth.Runtime.Server
import Hiraeth.Runtime.Admission
import Hiraeth.Lib.Faults
import Hiraeth.Sns.FanOut
import Hiraeth.Lib.TagTable
import Hiraeth.Sqs.QueueTags
import Hiraeth.Store.TagStatements
import Hiraeth.Lib.Knowledge
import Hiraeth.Sqs.OtherQueues
import Hiraeth.Iam.Accounts
import Hiraeth.Runtime.Accounts
import Hiraeth.Web.SendForms
import Hiraeth.Sqs.ReadableMessages
import Hiraeth.Store.FailedCreation
import Hiraeth.Lib.Pruned
import Hiraeth.Runtime.IssuedKeys
import Hiraeth.Runtime.Modes
