-- The toolchain of a regeneration: the compiler, and the generator plugin
-- from the debug build in a workspace.
import ProtoRefresh.Host.Basic

namespace ProtoRefresh

/-! ## Executables -/

/-- How the names of systems start, with the ending of executables there. -/
def executableSuffixes : List (String × String) :=
  [("Linux", ""), ("Darwin", ""), ("Windows", ".exe"), ("MSYS_NT", ".exe"), ("MINGW", ".exe"),
   ("CYGWIN_NT", ".exe")]

/-- The ending of executables on a system. Without a system it is this one. -/
def executableSuffix (system : Option String) : String :=
  let name := ((system.filter (· != "")).getD "Linux").toList
  ((executableSuffixes.find? fun entry => entry.1.toList.isPrefixOf name).map (·.2)).getD ""

/-! ## Toolchains -/

/-- The language to generate. -/
def Toolchain.standardLang : String := "rust"

structure Toolchain where
  compiler : String := "protoc"
  plugin : Option Path := none
  lang : String := Toolchain.standardLang
  deriving DecidableEq, Repr

/-- An absolute path without double dots; each of them takes back the name before it. -/
def Path.resolve (current : Location) (p : Path) : Path :=
  ⟨1, p.parts.foldl (fun place part => if part = ".." then place.dropLast else place ++ [part])
    (if p.isAbsolute then [] else current)⟩

/-- Where the debug build in a workspace leaves the plugin for a language. -/
def pluginPath (workspace : Path) (lang : String) (system : Option String) : Path :=
  ((workspace.child "target").child "debug").joinText
    ("protoc-gen-" ++ lang ++ executableSuffix system)

/-- The toolchain with the plugin of a workspace. -/
def Toolchain.ofWorkspace (workspace : Path) (compiler lang : String) (system : Option String) :
    Action Toolchain := do
  if Action.isEnded workspace then Action.fail (.endedPath .resolving)
  let host ← get
  return ⟨compiler, pluginPath (workspace.resolve host.current) lang system, lang⟩

end ProtoRefresh
