/-! What the configuration of a page says: where the service listens, what the applet is given,
whether users have preferences, and where files are kept. -/

namespace AppletPage

namespace Config

structure Network where
  bindHost : String := "127.0.0.1"
  httpPort : Int := 8780
deriving DecidableEq

def defaultArchive : List String :=
  ["jin.jar", "libs/swingall.jar", "libs/chess.jar", "libs/util.jar", "libs/jregex.jar",
   "libs/timesealing.jar", "servers/freechess.jar", "libs/console.jar",
   "plugins/fics/console.jar", "libs/board.jar", "plugins/fics/board.jar", "libs/seek.jar",
   "plugins/fics/seek.jar", "libs/sound.jar", "plugins/fics/sound.jar"]

def defaultPlugins : List String :=
  ["free.jin.console.fics.FreechessConsoleManager", "free.jin.board.fics.FreechessBoardManager",
   "free.jin.seek.fics.FreechessSoughtGraphPlugin", "free.jin.sound.fics.FreechessSoundManager"]

def defaultBoards : List String :=
  ["cold-marble", "gray-tiles", "green-marble", "pale-wood", "plain", "red-marble", "slate",
   "winter", "wooden-dark"]

def defaultPieces : List String := ["eboard", "xboard"]

structure Applet where
  title : String := "Jin Applet"
  code : String := "free.jin.JinApplet"
  archive : List String := defaultArchive
  width : Int := 400
  height : Int := 300
  fallbackText : String := "Please enable Java to run Jin"
  port : Int := 5000
  serverClassname : String := "free.jin.freechess.FreechessServer"
  plugins : List String := defaultPlugins
  boards : List String := defaultBoards
  pieces : List String := defaultPieces
deriving DecidableEq

structure Preferences where
  enabled : Bool := false
  savePrefsUrl : Option String := none
  reserveSpaceUrl : Option String := none
deriving DecidableEq

structure Directories where
  logs : Option String := none
  prefs : Option String := none
deriving DecidableEq

structure Logging where
  /-- The size in units of 1024 * 1024 bytes at which a log file is put away. -/
  maxSize : Int := 10
  /-- How many log files that were put away are kept. -/
  backupCount : Int := 5
deriving DecidableEq

end Config

structure Config where
  version : String := "1"
  network : Config.Network := {}
  applet : Config.Applet := {}
  preferences : Config.Preferences := {}
  directories : Config.Directories := {}
  logging : Config.Logging := {}
deriving DecidableEq

namespace Config

structure IsPort (port : Int) : Prop where
  positive : 1 ≤ port
  bounded : port ≤ 65535

end Config

structure Config.WithinBounds (config : Config) : Prop where
  httpPort : Config.IsPort config.network.httpPort
  port : Config.IsPort config.applet.port
  width : 1 ≤ config.applet.width
  height : 1 ≤ config.applet.height
  maxSize : 1 ≤ config.logging.maxSize
  backupCount : 1 ≤ config.logging.backupCount
  code : config.applet.code ≠ ""
  serverClassname : config.applet.serverClassname ≠ ""

end AppletPage
