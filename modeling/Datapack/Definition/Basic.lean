import Datapack.Definition.Format
import Datapack.Economy.Record
import Datapack.Package.Basic

/-!
Definitions: what a directory of data files says about a package.
-/

namespace Datapack

/-- What a package is called and which namespace it uses, not checked yet. -/
structure Manifest where
  displayName : String
  namespaceText : String
  deriving DecidableEq, Repr

def Manifest.shape : Shape :=
  { name := "PackData"
    fields := [⟨"display_name", some "displayName"⟩, ⟨"namespace", none⟩] }

def Manifest.ofDocument? (dialect : Dialect) (document : Document) : Option Manifest := do
  let members ← document.members? dialect Manifest.shape
  return {
    displayName := ← members.required? "display_name" Document.text?
    namespaceText := ← members.required? "namespace" Document.text? }

structure Definition where
  manifest : Manifest
  /-- The configuration of the economy and the file it stands in. -/
  economy : Option (Path × Economy.Config)

inductive LoadError where
  | missingRequired (name : String) (directory : Path)
  | unsupportedFormat (file : Path)
  | conflictingFormats (first second : Path)
  | unreadable (cause : DiskError)
  | unparsable (file : Path) (detail : String)
  | invalidNamespace (cause : NamespaceError)
  | invalidEconomy (file : Path) (cause : Economy.ConfigError)
  deriving DecidableEq

def parseFailure (file : Path) (detail : String) : String :=
  "parse error in " ++ file.text ++ ": " ++ detail

def economyFailure (file : Path) (cause : Economy.ConfigError) : String :=
  "invalid economy configuration in " ++ file.text ++ ": " ++ cause.message

def LoadError.message : LoadError → String
  | .missingRequired name directory =>
    "required file '" ++ name ++ "' not found in " ++ directory.text
  | .unsupportedFormat file => "unsupported format for file: " ++ file.text
  | .conflictingFormats first second =>
    "conflicting formats: " ++ first.text ++ " and " ++ second.text
  | .unreadable cause => cause.message
  | .unparsable file detail => parseFailure file detail
  | .invalidNamespace cause => cause.message
  | .invalidEconomy file cause => economyFailure file cause

/-- The package of a definition. Its namespace is checked before its economy. -/
def Definition.package (definition : Definition) : Except LoadError Package := do
  let package ←
    match Package.create definition.manifest.displayName definition.manifest.namespaceText with
    | .ok package => .ok package
    | .error cause => .error (.invalidNamespace cause)
  match definition.economy with
  | none => return package
  | some (file, config) =>
    match EconomyPlugin.configure { namespaceName := package.namespaceName } config with
    | .ok plugin => return package.register (.economy plugin)
    | .error cause => .error (.invalidEconomy file cause)

end Datapack
