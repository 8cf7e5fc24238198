import StaticSite.FileSystem.Normal

/-! The settings of a server. -/

namespace StaticSite

/-- What a server is started with. The port is an integer of any size until it is checked. -/
structure Settings where
  host : Text
  port : Int
  rootDir : Text
  urlPrefix : Text
  htmlIndex : Bool
  logLevel : Text
  deriving DecidableEq, Repr

/-- The settings that nothing supplies: all addresses, port 8080, and the directory of the server's
own files at the top of the site. -/
def Settings.standard (ownDirectory : Text) : Settings :=
  { host := "0.0.0.0".toList
    port := 8080
    rootDir := ownDirectory
    urlPrefix := ['/']
    htmlIndex := true
    logLevel := "info".toList }

/-- The six settings, in the order in which their faults are reported. -/
inductive Field where
  | host
  | port
  | rootDir
  | urlPrefix
  | htmlIndex
  | logLevel
  deriving DecidableEq, Repr

namespace Field

def all : List Field :=
  [host, port, rootDir, urlPrefix, htmlIndex, logLevel]

def name : Field → Text
  | host => "host".toList
  | port => "port".toList
  | rootDir => "root_dir".toList
  | urlPrefix => "url_prefix".toList
  | htmlIndex => "html_index".toList
  | logLevel => "log_level".toList

end Field
end StaticSite
