import Quasar.Lib.LittleEndian
import Quasar.Lib.Cursor
import Quasar.Lib.Layout
import Quasar.Lib.Checked
import Quasar.Lib.Buffer
import Quasar.Lib.Text
import Quasar.Lib.Utf8
import Quasar.Lib.HashMap
import Quasar.Lib.Ledger
import Quasar.Lib.Machine
import Quasar.Lib.Numbering
import Quasar.Lib.Drain
import Quasar.Lib.Recent
import Quasar.Lib.Packed
import Quasar.Lib.Book
import Quasar.Svm.Account
import Quasar.Svm.Error
import Quasar.Svm.Crates
import Quasar.Svm.ProgramCache
import Quasar.Svm.Sysvars
import Quasar.Svm.Runtime
import Quasar.Svm.Trace
import Quasar.Svm.Vm
import Quasar.Svm.Execution
import Quasar.Svm.Resolution
import Quasar.Svm.Atomicity
import Quasar.Svm.Reference
import Quasar.Svm.Conservation
import Quasar.Svm.History
import Quasar.Svm.StoreHistory
import Quasar.Svm.ProgramHistory
import Quasar.Svm.Equivalence
import Quasar.Svm.StoreLedger
import Quasar.Svm.Iteration
import Quasar.Svm.InstructionsSysvar
import Quasar.Svm.SysvarViews
import Quasar.Svm.SlotHashes
import Quasar.Svm.ClockCalls
import Quasar.Svm.Programdata
import Quasar.Svm.TokenBalances
import Quasar.Svm.SplToken
import Quasar.Svm.Token
import Quasar.Svm.Metadata
import Quasar.Svm.LogReading
import Quasar.Svm.LogLine
import Quasar.Svm.Collector
import Quasar.Svm.Misreading
import Quasar.Svm.Injection
import Quasar.Svm.Printing
import Quasar.Svm.Chain
import Quasar.Svm.ChainLog
import Quasar.Svm.Scripted
import Quasar.Svm.LogForest
import Quasar.Svm.TraceOrder
import Quasar.Svm.TraceUnits
import Quasar.Svm.TraceResult
import Quasar.Ffi.Status
import Quasar.Ffi.Wire
import Quasar.Ffi.Grammar
import Quasar.Ffi.CheckedReader
import Quasar.Ffi.Capacity
import Quasar.Ffi.Entry
import Quasar.Ffi.Configuration
import Quasar.Ffi.Atomicity
import Quasar.Bindings.ProgramError
import Quasar.Bindings.Node
import Quasar.Bindings.Python
import Quasar.Bindings.RoundTrip
import Quasar.Bindings.Encoders
import Quasar.Bindings.InputFormat
import Quasar.Bindings.Classification
import Quasar.Bindings.Lookups
import Quasar.Bindings.Factories
import Quasar.Lib.Blocks
import Quasar.Lib.Process
import Quasar.Lib.Script
import Quasar.Lib.Footprint
import Quasar.Svm.Setup
import Quasar.Svm.SamePrograms
import Quasar.Svm.TokenBook
import Quasar.Svm.Listing
import Quasar.Svm.Independence
import Quasar.Svm.Serializability
import Quasar.Svm.Supply
import Quasar.Ffi.Interface
import Quasar.Ffi.Contract
import Quasar.Bindings.Host
import Quasar.Bindings.Client
import Quasar.Bindings.Session
import Quasar.Bindings.Lifetime
import Quasar.Bindings.Discipline
import Quasar.Lib.Pool
import Quasar.Bindings.Pool
import Quasar.Bindings.NodeFactories
import Quasar.Bindings.Lossless
