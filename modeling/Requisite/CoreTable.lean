/-!
# Core modules

Modules that come with the system that runs a program, so that no file stands for them.
-/

namespace Requisite

structure CoreTable where
  /-- What a name starts with that is always one of a core module. -/
  scheme : String
  /-- Core modules that need no scheme. -/
  builtins : List String
  /-- Core modules that are only known with the scheme. -/
  schemeOnly : List String
  deriving DecidableEq, Repr

namespace CoreTable

def isCore (table : CoreTable) (name : String) : Bool :=
  if table.scheme.toList.isPrefixOf name.toList then true
  else if table.schemeOnly.contains name then false
  else table.builtins.contains name

def withoutCore (table : CoreTable) (names : List String) : List String :=
  names.filter (!table.isCore ·)

/-! ## Node.js -/

def nodeBuiltins : List String := [
  "_http_agent", "_http_client", "_http_common", "_http_incoming", "_http_outgoing",
  "_http_server", "_stream_duplex", "_stream_passthrough", "_stream_readable",
  "_stream_transform", "_stream_wrap", "_stream_writable", "_tls_common", "_tls_wrap", "assert",
  "assert/strict", "async_hooks", "buffer", "child_process", "cluster", "console", "constants",
  "crypto", "dgram", "diagnostics_channel", "dns", "dns/promises", "domain", "events", "fs",
  "fs/promises", "http", "http2", "https", "inspector", "inspector/promises", "module", "net",
  "os", "path", "path/posix", "path/win32", "perf_hooks", "process", "punycode", "querystring",
  "readline", "readline/promises", "repl", "stream", "stream/consumers", "stream/promises",
  "stream/web", "string_decoder", "sys", "timers", "timers/promises", "tls", "trace_events",
  "tty", "url", "util", "util/types", "v8", "vm", "wasi", "worker_threads", "zlib"]

def node : CoreTable := ⟨"node:", nodeBuiltins, ["sea", "sqlite", "test", "test/reporters"]⟩

end CoreTable

end Requisite
