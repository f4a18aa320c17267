import Turnstile.Site
import Turnstile.Storage

namespace Turnstile

/-! A running service: a gate at work, and whether its snapshots are kept. -/

structure Service where
  site : Site
  /-- The path of the snapshots, `none` if none are kept. -/
  path : Option String
deriving DecidableEq

namespace Service

def snapshot (service : Service) : Snapshot :=
  service.site.checkpoint.snapshot service.site.now

/-- The storage after the state was saved, `none` if that is impossible. Where no snapshots
are kept, saving is possible and does nothing. -/
def save? (service : Service) (storage : Storage) : Option Storage :=
  match service.path with
  | none => some storage
  | some _ => storage.store? service.snapshot

def withSite (service : Service) (site : Site) : Service :=
  { service with site }

/-- Carry out a command to the gate or to a collaborator in use. -/
def execute (service : Service) (command : Checkpoint.Command) : Outcome Service :=
  (service.site.execute command).within service.withSite

end Service

end Turnstile
