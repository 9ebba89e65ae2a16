import Xlorm.Machine
import Xlorm.Metrics.RingBuffer
import Xlorm.Metrics.Aggregator
import Xlorm.Metrics.Pipeline
import Xlorm.Metrics.Accounting
import Xlorm.Cache.Lru
import Xlorm.Cache.Sharded
import Xlorm.Cache.Stats
import Xlorm.Sql.Text
import Xlorm.Sql.Table
import Xlorm.Sql.Where
import Xlorm.Sql.Chain
import Xlorm.Sql.Transaction
import Xlorm.Sql.BatchUpdate
import Xlorm.Sql.Placeholder
import Xlorm.Sql.BatchInsert
import Xlorm.Sql.Write
import Xlorm.Sql.Preview
import Xlorm.Sql.FindAll
import Xlorm.Sql.Binding
import Xlorm.Sql.Builder
import Xlorm.Sql.StructMapper
import Xlorm.Sql.ToMap
import Xlorm.Log.AsyncLogger
import Xlorm.Log.Rotation
import Xlorm.Log.Retention
import Xlorm.Log.Calendar
import Xlorm.Db.Lifecycle
import Xlorm.Db.Close
import Xlorm.Db.Metered
import Xlorm.Db.PoolStats
import Xlorm.Db.Settings
