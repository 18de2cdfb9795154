import RangeServer.Range.Window

/-!
# Settings

What can be set about a server, by section.
-/

namespace RangeServer

/-- Where to listen, and with how many worker threads. -/
structure ServerSettings where
  host : String
  port : UInt16
  workers : Option UInt64
  deriving DecidableEq, Repr

/-- What to log, how and where. -/
structure LoggingSettings where
  level : String
  accessLog : Bool
  accessLogFormat : String
  accessLogFile : Option String
  errorLogFile : Option String
  deriving DecidableEq, Repr

/-- Time limits in seconds, and the limit on connections. Connections are kept open between
requests unless the first is zero; the second bounds the wait for a request's headers and the third
the wait for connections at shutdown. -/
structure PerformanceSettings where
  keepAliveTimeout : UInt64
  readTimeout : UInt64
  writeTimeout : UInt64
  maxConnections : Option UInt64
  deriving DecidableEq, Repr

/-- How to answer. -/
structure HttpSettings where
  startPastEnd : PastEndPolicy
  deriving DecidableEq, Repr

/-- All settings of a server. -/
structure Settings where
  server : ServerSettings
  logging : LoggingSettings
  performance : PerformanceSettings
  http : HttpSettings
  deriving DecidableEq, Repr

end RangeServer
