import AppletPage.Number.Integer
import AppletPage.Service.App

/-! The command that starts the service: the address it listens at, and its journal. -/

namespace AppletPage.Command

structure Listening where
  host : String
  port : Int
  /-- The size in bytes at which the journal's file is put away. -/
  maxBytes : Int
  backupCount : Int
deriving DecidableEq

def bindName : String := "JINPAGE_BIND"

def portName : String := "JINPAGE_PORT"

def port (host : Host) (config : Config) : Except NumberError Int :=
  match host.setting? portName with
  | some text => Number.integerOfText text
  | none => .ok config.network.httpPort

def listen : HostAction Listening := do
  modify Host.closeJournal
  let (layout, config) ← App.prepare
  HostAction.openJournal (layout.logs.child App.journalName) (App.journalLimit config)
  let host ← get
  let port ← HostAction.ofExcept Failure.number (port host config)
  let listening : Listening :=
    { host := (host.setting? bindName).getD config.network.bindHost
      port
      maxBytes := config.logging.maxSize * 1024 * 1024
      backupCount := config.logging.backupCount }
  return listening

end AppletPage.Command
