import Datapack.Plugin.Basic

/-!
Packages: a name, a namespace and plugins in the order in which they were registered.
-/

namespace Datapack

structure Package where
  displayName : String
  namespaceName : Namespace
  plugins : List Plugin := []

namespace Package

def create (displayName namespaceText : String) : Except NamespaceError Package := do
  let namespaceName ← Namespace.ofString namespaceText
  return { displayName, namespaceName }

def register (package : Package) (plugin : Plugin) : Package :=
  { package with plugins := package.plugins ++ [plugin] }

/-- Registers a plugin that is made for the package's namespace. -/
def use (package : Package) (make : Namespace → Plugin) : Package :=
  package.register (make package.namespaceName)

def pluginNames (package : Package) : List String :=
  package.plugins.map Plugin.name

def first? {α : Type} (package : Package) (select? : Plugin → Option α) : Option α :=
  package.plugins.findSome? select?

def replaceFirst? (change? : Plugin → Option Plugin) : List Plugin → Option (List Plugin)
  | [] => none
  | plugin :: plugins =>
    match change? plugin with
    | some changed => some (changed :: plugins)
    | none => (replaceFirst? change? plugins).map (plugin :: ·)

def updateFirst {α : Type} (package : Package) (select? : Plugin → Option α)
    (update : α → Plugin) : Package :=
  match replaceFirst? (fun plugin => (select? plugin).map update) package.plugins with
  | some plugins => { package with plugins }
  | none => package

/-- Adds a plugin's lines, event by event, behind those collected so far. -/
def collect (scripts : Scripts) (plugin : Plugin) : Scripts :=
  Event.all.foldl (fun scripts event => scripts.append event (plugin.scripts event)) scripts

/-- Each event's lines of all plugins, in order of registration. -/
def scripts (package : Package) : Scripts :=
  package.plugins.foldl collect Scripts.empty

end Package

end Datapack
