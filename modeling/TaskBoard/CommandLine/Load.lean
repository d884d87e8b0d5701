import TaskBoard.CommandLine.Arguments

/-!
# Loading settings

From files, variables and a command line to settings.
-/

namespace TaskBoard.CommandLine

open Config

/-- Why there are no settings: the sources cannot be read as settings, or a setting is refused. -/
inductive LoadError where
  | unreadable (fault : SourceFault)
  | refused (fault : Fault)
deriving DecidableEq, Repr

def LoadError.message : LoadError → String
  | unreadable fault => "failed to build configuration: " ++ String.ofList fault.message
  | refused fault => fault.message

def load (files : Files) (environment : List Variable) (a : Arguments) :
    Except LoadError Settings := do
  let raw ← (readRaw files a.configFile environment).mapError .unreadable
  (Settings.ofRaw (a.applyTo raw)).mapError .refused

end TaskBoard.CommandLine
