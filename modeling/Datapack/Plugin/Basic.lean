import Datapack.Economy.Scripts
import Datapack.Plugin.Program

/-!
Plugins: what contributes lines to a package's scripts and files to its directory.
-/

namespace Datapack

/-- The economy of a package. Without a layout it is not configured yet. -/
structure EconomyPlugin where
  namespaceName : Namespace
  layout? : Option Economy.Layout := none

namespace EconomyPlugin

def name : String := "economy"

def isConfigured (plugin : EconomyPlugin) : Bool :=
  plugin.layout?.isSome

def layout (plugin : EconomyPlugin) : Economy.Layout :=
  plugin.layout?.getD {}

/-- Takes a configuration once. One that is refused leaves the plugin as it was. -/
def configure (plugin : EconomyPlugin) (config : Economy.Config) :
    Except Economy.ConfigError EconomyPlugin :=
  match plugin.layout? with
  | some _ => .error .alreadyConfigured
  | none => do
    let layout ← Economy.resolve config
    return { plugin with layout? := some layout }

/-- The answer to a configuration, and the plugin as it is afterwards. -/
def tryConfigure (plugin : EconomyPlugin) (config : Economy.Config) :
    Except Economy.ConfigError Unit × EconomyPlugin :=
  match plugin.configure config with
  | .ok configured => (.ok (), configured)
  | .error cause => (.error cause, plugin)

def scripts (plugin : EconomyPlugin) : Scripts :=
  Economy.scripts plugin.namespaceName plugin.layout

def program (plugin : EconomyPlugin) (layout : PackLayout) : Program :=
  if plugin.isConfigured then
    .writeThen (layout.functionPath Economy.purchaseFunctionName)
      (functionText (Economy.purchaseLines plugin.namespaceName)) .done
  else .reject "economy plugin was never configured"

end EconomyPlugin

/-- A plugin with fixed lines that writes some functions and requires others to be there. -/
structure ScriptedPlugin where
  name : String
  scripts : Scripts := Scripts.empty
  writes : List String := []
  requires : List String := []

namespace ScriptedPlugin

def labelled (name label : String) : ScriptedPlugin :=
  { name, scripts := fun event => ["say " ++ label ++ " " ++ event.name] }

def writeFunctions (plugin : ScriptedPlugin) (layout : PackLayout) : List String → Program
  | [] => .done
  | function :: functions =>
    .writeThen (layout.functionPath function)
      (functionText ["say " ++ plugin.name ++ " wrote " ++ function])
      (writeFunctions plugin layout functions)

def checkFunctions (layout : PackLayout) (next : Program) : List String → Program
  | [] => next
  | function :: functions =>
    .inspect (layout.functionPath function) fun
      | true => checkFunctions layout next functions
      | false => .reject ("missing function " ++ function)

def program (plugin : ScriptedPlugin) (layout : PackLayout) : Program :=
  checkFunctions layout (plugin.writeFunctions layout plugin.writes) plugin.requires

end ScriptedPlugin

structure FailingPlugin where
  name : String
  deriving DecidableEq, Repr

def FailingPlugin.program (plugin : FailingPlugin) : Program :=
  .reject (plugin.name ++ " always fails")

/-- A plugin given by what it does. -/
structure CustomPlugin where
  name : String
  scripts : Scripts := Scripts.empty
  program : PackLayout → Program := fun _ => .done

inductive Plugin where
  | economy (plugin : EconomyPlugin)
  | scripted (plugin : ScriptedPlugin)
  | failing (plugin : FailingPlugin)
  | custom (plugin : CustomPlugin)

namespace Plugin

def name : Plugin → String
  | .economy _ => EconomyPlugin.name
  | .scripted plugin => plugin.name
  | .failing plugin => plugin.name
  | .custom plugin => plugin.name

def scripts : Plugin → Scripts
  | .economy plugin => plugin.scripts
  | .scripted plugin => plugin.scripts
  | .failing _ => Scripts.empty
  | .custom plugin => plugin.scripts

def program (layout : PackLayout) : Plugin → Program
  | .economy plugin => plugin.program layout
  | .scripted plugin => plugin.program layout
  | .failing plugin => plugin.program
  | .custom plugin => plugin.program layout

def economy? : Plugin → Option EconomyPlugin
  | .economy plugin => some plugin
  | _ => none

def scripted? : Plugin → Option ScriptedPlugin
  | .scripted plugin => some plugin
  | _ => none

def failing? : Plugin → Option FailingPlugin
  | .failing plugin => some plugin
  | _ => none

end Plugin

end Datapack
