import Turnstile.Startup
import Turnstile.Wire.Configuration

/-! Command line: `turnstile FILE` tells whether a service can start from the configuration
in a file and the snapshot that it points to. -/

namespace Turnstile.CommandLine

/-- The text of a file, `none` if it cannot be read. -/
def readFile? (path : String) : IO (Option String) := do
  match ← (IO.FS.readFile path).toBaseIO with
  | .ok text => return some text
  | .error _ => return none

def readStorage (path : Option String) : IO Storage := do
  match path with
  | none => return .vacant
  | some path =>
      match ← readFile? path with
      | some text => return .holding text
      | none => return .vacant

/-- One line about a service that has started. -/
def summary (service : Service) : String :=
  let checkpoint := service.site.checkpoint
  "ready as " ++ checkpoint.gate.identity.toChecksummed ++ " with " ++
    Text.decimal checkpoint.whitelist.memberCount ++ " members and " ++
    Text.decimal checkpoint.limiter.trackedPositions ++ " limiter records"

def fail (message : String) : IO UInt32 := do
  IO.eprintln message
  return 1

def check (path : String) : IO UInt32 := do
  match ← readFile? path with
  | none => fail ("cannot read " ++ path)
  | some text =>
      match Configuration.ofToml text with
      | .error failure => fail failure.message
      | .ok configuration =>
          let storage ← readStorage configuration.persistence.path?
          match (Service.start configuration storage 0).answer with
          | .error failure => fail failure.message
          | .ok service =>
              IO.println (summary service)
              return 0

end Turnstile.CommandLine

def main (arguments : List String) : IO UInt32 := do
  match arguments with
  | [path] => Turnstile.CommandLine.check path
  | _ => Turnstile.CommandLine.fail "usage: turnstile FILE"
