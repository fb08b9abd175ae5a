import Balancer.Assembly.Sections

/-!
# Configurations from documents

The items of a document are taken in one after the other, so the first item with an error decides
which error is reported. Variables and templates are kept by name, a later one replacing an earlier
one; sections pile up, except that the process-wide settings and the inherited ones stand once.
-/

namespace Balancer

namespace Configuration

/-- The configuration after taking in a section. -/
def addSection (environment : Environment) (config : Configuration) (node : SectionNode) :
    Except BuildError Configuration :=
  match node.kind with
  | "global" => do
    if node.name.isSome then throw (.invalid node.kind .takesNoName node.position)
    if config.global.isSome then throw (.duplicateSection node.kind node.position)
    return { config with global := ← Global.ofNode environment node }
  | "defaults" => do
    if config.defaults.isSome then throw (.duplicateSection node.kind node.position)
    return { config with defaults := ← Defaults.ofNode environment node }
  | "frontend" => do
    return { config with frontends := config.frontends ++ [← Frontend.ofNode environment node] }
  | "backend" => do
    return { config with backends := config.backends ++ [← Backend.ofNode environment node] }
  | "listen" => do
    return { config with listens := config.listens ++ [← Listen.ofNode environment node] }
  | "peers" => do
    return { config with peers := config.peers ++ [← Peers.ofNode environment node] }
  | "resolvers" => do
    return { config with resolvers := config.resolvers ++ [← Resolvers.ofNode environment node] }
  | "mailers" => do
    return { config with mailers := config.mailers ++ [← Mailers.ofNode environment node] }
  | "script" => do
    return { config with scripts := config.scripts ++ [← Script.ofNode environment node] }
  | other => .error (.unknownDirective other node.position)

/-- The configuration after taking in an item. -/
def addItem (environment : Environment) (config : Configuration) :
    Item → Except BuildError Configuration
  | .definition name value position => do
    let value ← value.evaluate environment position
    return { config with definitions := config.definitions.insert name value }
  | .template name children position => do
    let template ← Template.ofChildren environment name children position
    return { config with templates := config.templates.insert name template }
  | .importFile path _ => .ok { config with imports := config.imports ++ [path] }
  | .block node => config.addSection environment node

/-- **The configuration that a document describes.** Loops, spreads and interpolations are stored
and not yet carried out. -/
def ofDocument (environment : Environment) (document : Document) :
    Except BuildError Configuration :=
  document.items.foldlM (addItem environment) {}

end Configuration

end Balancer
