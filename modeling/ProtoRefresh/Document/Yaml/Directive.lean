-- Directives: lines before a document that tell the version of the
-- format or declare the handles of tags. Others are passed over.
import ProtoRefresh.Document.Yaml.Property

namespace ProtoRefresh.Document.Yaml

inductive Directive
  | version (major : Nat)
  /-- A handle with the start of tags that it stands for. -/
  | handle (name start : String)
  | other
  deriving DecidableEq, Repr

/-- A number of a version. -/
def versionNumber : Scan Nat := do
  let digits ← Scan.takeWhile Char.isDigit
  if digits.isEmpty then Scan.fail
  return digits.foldl (fun n c => n * 10 + (c.toNat - 48)) 0

/-- A version, two numbers with a point between them. -/
def versionDirective : Scan Directive := do
  Scan.skipSpaces
  let major ← versionNumber
  if (← Scan.next) ≠ some '.' then Scan.fail
  Scan.skip 1
  let _ ← versionNumber
  unless endsName (← Scan.next) do Scan.fail
  return .version major

/-- A handle and what it stands for. -/
def handleDirective : Scan Directive := do
  Scan.skipSpaces
  let name ← tagHandle
  if (← Scan.next) ≠ some ' ' then Scan.fail
  Scan.skipSpaces
  let start ← address
  unless endsName (← Scan.next) do Scan.fail
  return .handle name start

/-- A directive from its sign to the end of its line. -/
def directive : Scan Directive := do
  Scan.skip 1
  let name ← Scan.takeWhile isNameChar
  if name.isEmpty || !endsName (← Scan.next) then Scan.fail
  let directive ←
    if name = "YAML".toList then versionDirective
    else if name = "TAG".toList then handleDirective
    else do
      let _ ← Scan.takeWhile fun c => !isBreak c
      pure Directive.other
  Scan.skipLine
  return directive

end ProtoRefresh.Document.Yaml
