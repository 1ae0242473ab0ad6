import Pinpoint.Config
/-!
# Place — where a configuration is kept

Three places are looked at, and the first one that has a file wins, whatever is in it: beside the program, in the working
directory, and in the user's own directory of configurations.
-/
namespace Pinpoint
namespace Config

def fileName : String := "config.toml"

/-- The user's directory of configurations: the one that is set, if it is absolute, else the one in the home directory. -/
def userDirectory? (environment : String → Option String) : Option String :=
  match (environment "XDG_CONFIG_HOME").filter fun d => d.toList.head? == some '/' with
  | some d => some d
  | none   => (environment "HOME").map (· ++ "/.config")

/-- The places in the order in which they are looked at, given the directory of the program. -/
def places (program : Option String) (environment : String → Option String) : List String :=
  (program.map (· ++ "/" ++ fileName)).toList ++ [fileName] ++
    ((userDirectory? environment).map (· ++ "/seeclaw/" ++ fileName)).toList

def notFound : Fault :=
  .config "config.toml not found next to executable, in working directory or user config dir"

/-- **The place that counts**, given where there are files. -/
def choose (isThere : String → Bool) (places : List String) : Except Fault String :=
  match places.find? isThere with
  | some p => .ok p
  | none   => .error notFound

end Config
end Pinpoint
