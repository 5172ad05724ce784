import LnxEngine.Schema
import LnxEngine.Query
import LnxEngine.Helpers
import LnxEngine.Reader.Fuzzy
import LnxEngine.Reader.ParseQuery
import LnxEngine.Reader.Search
import LnxEngine.Reader.Worker
import LnxEngine.Handler.Machine
import LnxEngine.Handler.Accounting
import LnxEngine.Handler.Shutdown
import LnxEngine.Handler.Drain
