import ControlPlane.Basic

namespace ControlPlane

inductive LogLevel where
  | off
  | error
  | warn
  | info
  | debug
  | trace
  deriving DecidableEq, Repr

namespace LogLevel

def all : List LogLevel := [.off, .error, .warn, .info, .debug, .trace]

def name : LogLevel → String
  | .off => "off"
  | .error => "error"
  | .warn => "warn"
  | .info => "info"
  | .debug => "debug"
  | .trace => "trace"

def ofName? (s : String) : Option LogLevel := all.find? (·.name == s)

def parse (s : String) : Option LogLevel := ofName? (Text.asciiLower s)

def severity? : LogLevel → Option String
  | .off => none
  | .error => some "ERROR"
  | .warn => some "WARN"
  | .info => some "INFO"
  | .debug => some "DEBUG"
  | .trace => some "TRACE"

end LogLevel

end ControlPlane
