import EnumExport.Project.Basic

/-!
# Starting a project

A project starts with a settings file that spells out every setting with its default.
-/

namespace EnumExport

/-- What became of starting a project. -/
structure InitResult where
  /-- the settings file -/
  file : Path
  /-- whether it is new -/
  isNew : Bool
  deriving DecidableEq, Repr

/-- The first settings file of a project of a name. -/
def Settings.template (name : String) : String := Text.join "\n" [
  "# enumshare configuration for " ++ name,
  "",
  "# Enum classes to export, by qualified name",
  "enums: []",
  "#  - app.enums.trip_status.TripStatus",
  "",
  "export:",
  "  # Directory the TypeScript modules are written to",
  "  path: frontend/src/enums",
  "  # Locale used for labels and option lists (null: default_locale)",
  "  locale: null",
  "  # Locales exported for translated labels",
  "  locales: []",
  "  # Export the generated types",
  "  types: false",
  "  # inline: self-contained modules, shared: modules built with EnumRuntime.ts",
  "  strategy: inline",
  "",
  "autodiscovery:",
  "  # Overridden by the ENUMSHARE_AUTODISCOVERY environment variable",
  "  enabled: true",
  "  paths:",
  "    - app/enums",
  "  # Glob patterns on qualified names, e.g. app.enums.*",
  "  namespaces: []",
  "",
  "# Translation files: \x7blang_path\x7d/\x7blocale\x7d/\x7bnamespace\x7d.yaml",
  "lang_namespace: enums",
  "lang_path: lang",
  "default_locale: en",
  ""]

/-- Writes the first settings file of the project in a folder, unless there is one. -/
def Project.start (dir : Path) : OnDisk InitResult := do
  let file := Settings.file dir
  if (← get).has file then return { file, isNew := false }
  OnDisk.change fun t => t.makeFolders file.parent
  OnDisk.change fun t => t.writeText file (Settings.template dir.name)
  return { file, isNew := true }

end EnumExport
