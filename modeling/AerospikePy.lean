import AerospikePy.Lib.Runs
import AerospikePy.Lib.Overlay
import AerospikePy.Core.Types
import AerospikePy.Lib.KeyedFold
import AerospikePy.Core.Policy
import AerospikePy.Retry.Driver
import AerospikePy.Retry.Trace
import AerospikePy.Retry.Results
import AerospikePy.Retry.Cluster
import AerospikePy.Retry.DefiniteFailures
import AerospikePy.Retry.AcceptOrder
import AerospikePy.Lifecycle.AsyncClient
import AerospikePy.Lifecycle.Wedge
import AerospikePy.Backpressure.Operations
import AerospikePy.Backpressure.Bound
import AerospikePy.Core.Float
import AerospikePy.Core.Value
import AerospikePy.Numpy.Dtype
import AerospikePy.Lib.Fallible
import AerospikePy.Numpy.WriteBuffer
import AerospikePy.Core.Utf8
import AerospikePy.Numpy.ReadBuffer
import AerospikePy.Numpy.Records
import AerospikePy.Numpy.ReadBounds
import AerospikePy.Lib.Assoc
import AerospikePy.Python.Object
import AerospikePy.Python.Extract
import AerospikePy.Values.Convert
import AerospikePy.Values.RoundTrip
import AerospikePy.Values.Entries
import AerospikePy.Keys.Convert
import AerospikePy.Lib.Bytes
import AerospikePy.Keys.Preimage
import AerospikePy.Expressions.Convert
import AerospikePy.Expressions.Structure
import AerospikePy.Policies.Fields
import AerospikePy.Policies.Parse
import AerospikePy.Policies.Filter
import AerospikePy.Batch.Records
import AerospikePy.Batch.ToNumpy
import AerospikePy.Batch.Handle
import AerospikePy.Batch.Cache
import AerospikePy.Batch.Views
import AerospikePy.Lib.Coding
import AerospikePy.Operations.Syntax
import AerospikePy.Operations.Fields
import AerospikePy.Operations.Convert
import AerospikePy.Operations.Builders
import AerospikePy.Operations.Calls
import AerospikePy.Operations.Meaning
import AerospikePy.Operations.Agreement
import AerospikePy.Retry.Checked
import AerospikePy.Retry.Statistics
import AerospikePy.Expressions.Builders
import AerospikePy.Expressions.Translate
import AerospikePy.Operations.Ordered
import AerospikePy.Backpressure.Permits
import AerospikePy.Policies.RecordMeta
import AerospikePy.Batch.WriteArgs
import AerospikePy.Lib.Memory
import AerospikePy.Batch.Fill
import AerospikePy.Batch.Lookup
import AerospikePy.Numpy.FieldValue
import AerospikePy.Numpy.RowKeys
import AerospikePy.Numpy.Packed
import AerospikePy.Lib.Rounding
import AerospikePy.Numpy.Stored
import AerospikePy.Numpy.NumberRange
import AerospikePy.Numpy.RoundTrip
import AerospikePy.Operations.Amounts
import AerospikePy.Operations.Mutation
import AerospikePy.Batch.Routing
import AerospikePy.Operations.Enums
import AerospikePy.Policies.Precedence
import AerospikePy.Batch.RecordArgs
import AerospikePy.Lib.ObjectGraph
import AerospikePy.Python.Store
import AerospikePy.Batch.Sharing
import AerospikePy.Keys.RoundTrip
import AerospikePy.Lifecycle.FailedConnect
import AerospikePy.Retry.FastPath
import AerospikePy.Operations.BinName
import AerospikePy.Numpy.Columns
import AerospikePy.Writes.BinNames
import AerospikePy.Hosts.Convert
import AerospikePy.Hosts.Encoding
import AerospikePy.Errors.BugReports
import AerospikePy.Lib.Feeding
import AerospikePy.Lib.Inheritance
import AerospikePy.Observability.Logging
import AerospikePy.Observability.MetricsServer
import AerospikePy.Query.Builder
import AerospikePy.Query.Partitions
import AerospikePy.Values.ReadBack
import AerospikePy.Writes.PutBack
import AerospikePy.Admin.Roles
import AerospikePy.Batch.WrittenBack
import AerospikePy.Lib.Tally
import AerospikePy.Observability.Instrument
import AerospikePy.Observability.TraceParent
import AerospikePy.Batch.OneByOne
import AerospikePy.Observability.Tracing
import AerospikePy.Observability.TracingApart
