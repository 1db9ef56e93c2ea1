import Datapack.Cli.Invocation
import Datapack.Definition.Load
import Datapack.Package.Build

/-!
What an invocation does to a file tree, what it prints and how it ends.
-/

namespace Datapack.Cli

structure Outcome where
  code : UInt32
  output : String := ""
  complaint : String := ""
  disk : Disk

def versionText : String := "bedwars-cli 0.1.0\n"

def usageText : String :=
  "Usage: bedwars [-d] build PACK_DIR [-o OUT]\n       bedwars [-d] render PACK_DIR EVENT\n"

def Invocation.run (disk : Disk) (invocation : Invocation) (parsers : Parsers := .standard) :
    Outcome :=
  match invocation with
  | .build packDirectory outputRoot =>
    match disk.loadPackage packDirectory parsers with
    | .error cause => { code := 1, complaint := cause.message, disk }
    | .ok package =>
      let build := package.build outputRoot disk
      match build.result with
      | .ok _ => { code := 0, disk := build.disk }
      | .error cause => { code := 1, complaint := cause.message, disk := build.disk }
  | .render packDirectory event =>
    match disk.loadPackage packDirectory parsers with
    | .error cause => { code := 1, complaint := cause.message, disk }
    | .ok package => { code := 0, output := package.scripts.render event ++ "\n", disk }
  | .version => { code := 0, output := versionText, disk }
  | .help => { code := 0, output := usageText, disk }
  | .misuse => { code := 2, complaint := usageText, disk }

def run (arguments : List String) (disk : Disk) (parsers : Parsers := .standard) : Outcome :=
  (Invocation.ofArguments arguments).run disk parsers

end Datapack.Cli
