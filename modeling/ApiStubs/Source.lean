import ApiStubs.Desk
import ApiStubs.Json.Reader
import ApiStubs.Spec
import ApiStubs.Yaml.Reader

/-!
# Sources of specifications

A specification comes from a file or from a remote host, as JSON or as YAML, which its name or its
content type tells apart. Its references are linked.
-/

namespace ApiStubs

namespace Source

/-- Whether a source is at a remote host. -/
def isRemote (source : String) : Bool :=
  (Text.dropStart? "http://".toList source.toList).isSome ||
    (Text.dropStart? "https://".toList source.toList).isSome

/-- Whether the name of a source is one of a YAML file. -/
def isYamlName (source : String) : Bool :=
  Text.endsWith ".yaml".toList source.toList || Text.endsWith ".yml".toList source.toList

/-- The text of a source, and whether it is YAML. -/
def fetch (source : String) : Job (String × Bool) := do
  if isRemote source then
    match (← get).pages.lookup source with
    | some page =>
      if page.isSuccess then
        pure (page.text,
          isYamlName source || Text.contains "yaml".toList page.contentType.toList)
      else throw (.reading (.unreadable source .formatBroken))
    | none => throw (.reading (.unreadable source .formatBroken))
  else if (← Job.files).pathExists source then
    pure (← Job.readText source, isYamlName source)
  else throw (.reading (.unreadable source .fileNotFound))

/-- The value that a text stands for. -/
def valueOf (source text : String) (yaml : Bool) : Except ReadFailure Value :=
  if yaml then
    match Yaml.read text with
    | .ok v => .ok v
    | .error .broken => .error (.unreadable source .formatBroken)
    | .error .endless => .error .endless
  else
    match Json.read? text with
    | some v => .ok v
    | none => .error (.unreadable source .formatBroken)

/-- The specification that a text holds; it has to be an object as a whole. -/
def specOf (source text : String) (yaml : Bool) : Except ReadFailure Spec := do
  match ← valueOf source text yaml with
  | .object fields => Spec.linkedFrom (.object fields) source
  | _ => .error (.unreadable source .contentNotObject)

/-- Loads the specification of a source. -/
def load (source : String) : Job Spec := do
  let (text, yaml) ← fetch source
  match specOf source text yaml with
  | .ok spec => pure spec
  | .error f => throw (.reading f)

end Source

end ApiStubs
