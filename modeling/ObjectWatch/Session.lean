import ObjectWatch.Session.Basic
import ObjectWatch.Yaml.Document

/-!
The program put together: settings and objects files are loaded as YAML.
-/

namespace ObjectWatch

namespace Monitor

def poll (path : String) (file : File) : Operation Unit :=
  pollVia Yaml.load path file

def watch (path : String) (contents : List File) (file : File) (m : Monitor) : Nat × File × Monitor :=
  watchVia Yaml.load path contents file m

end Monitor

namespace Session

def load (file : File) : Except Failure Settings :=
  loadVia Yaml.load file

def run (args : List String) (fs : Files) (ending : Ending) : Outcome × List Record :=
  runVia Yaml.load args fs ending

end Session

end ObjectWatch
