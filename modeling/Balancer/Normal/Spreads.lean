import Balancer.Entry.Servers
import Balancer.Normal.Variables

/-!
# Spreading templates

A server takes over the parameters of the templates it spreads, in the order in which it lists
them. A template fills only what is still unset, so that whatever the author wrote on the server,
or an earlier template set, stays. What makes a server this server, its name and its address, is
never taken over.
-/

namespace Balancer

/-- The keys that no template may set. -/
def identityKeys : List String := ["address", "name"]

/-- The server after taking over one parameter of a template. -/
def Server.takeParam (globals : OrderedMap Value) (template : String) (server : Server)
    (key : String) (value : Value) : Except NormalizeError Server := do
  if identityKeys.contains key then throw (.unknownTemplateParam template key)
  let value ← interpolateValue globals.lookupVariable value
  match server.fill? key value with
  | none => throw (.unknownTemplateParam template key)
  | some (.error e) => throw (.templateParam template e)
  | some (.ok server) => return server

/-- The server after taking over a template. -/
def Server.takeTemplate (globals : OrderedMap Value) (server : Server) (template : Template) :
    Except NormalizeError Server :=
  template.params.entries.foldlM
    (fun server (key, value) => server.takeParam globals template.name key value) server

/-- **The server with its templates taken over.** -/
def Server.expand (globals : OrderedMap Value) (templates : OrderedMap Template)
    (server : Server) : Except NormalizeError Server :=
  server.spreads.foldlM
    (fun current name =>
      match templates.get? name with
      | none => .error (.unknownTemplate name server.name)
      | some template => current.takeTemplate globals template)
    { server with spreads := [] }

/-- The pool with the templates of its servers taken over. -/
def Pool.expandTemplates (globals : OrderedMap Value) (templates : OrderedMap Template)
    (pool : Pool) : Except NormalizeError Pool := do
  return { pool with servers := ← pool.servers.mapM (Server.expand globals templates) }

/-- **The configuration with all templates taken over.** -/
def Configuration.expandTemplates (config : Configuration) :
    Except NormalizeError Configuration :=
  config.mapPoolsM (Pool.expandTemplates config.definitions config.templates)

end Balancer
